import StyledMarkup.Number.Shortest

namespace StyledMarkup.Json

/-!
# JSON values

Values keep the fields of a record in the order in which they were written.
The canonical form of a value lists the fields of every record in key order,
each key once with the value that was written last.
-/

/-- A number is exact when it is a whole number of at most 64 bits, else a 64-bit float. -/
inductive Number where
  | integer (value : Int)
  | real (value : Binary)
deriving DecidableEq, Repr

/-- A JSON value. -/
inductive Value where
  | null
  | bool (value : Bool)
  | number (value : Number)
  | text (value : Text)
  | list (items : List Value)
  | record (fields : List (Text × Value))

/-- Equality of numbers: a float is never equal to a whole number. -/
def Number.same : Number → Number → Bool
  | .integer first, .integer second => first == second
  | .real first, .real second => first.sameValue second
  | _, _ => false

/-- Value stored under a key. -/
def lookup? (key : Text) : List (Text × Value) → Option Value
  | [] => none
  | (other, value) :: rest => if other = key then some value else lookup? key rest

/-- Sets a field in a list of fields that is ordered by key. -/
def setField (key : Text) (value : Value) : List (Text × Value) → List (Text × Value)
  | [] => [(key, value)]
  | (other, present) :: rest =>
      if key = other then (key, value) :: rest
      else if Text.lessThan key other then (key, value) :: (other, present) :: rest
      else (other, present) :: setField key value rest

namespace Value

/-- The text of a text value. -/
def text? : Value → Option Text
  | .text value => some value
  | _ => none

/-- A field that comes later in the list wins over the fields collected so far. -/
def orderFields (ordered : List (Text × Value)) : List (Text × Value) → List (Text × Value)
  | [] => ordered
  | (key, value) :: rest => orderFields (setField key value ordered) rest

mutual

/-- The value with the fields of all records in key order, without repetition. -/
def canonical : Value → Value
  | .list items => .list (canonicalItems items)
  | .record fields => .record (orderFields [] (canonicalFields fields))
  | .null => .null
  | .bool value => .bool value
  | .number value => .number value
  | .text value => .text value

/-- Canonical forms of the items of a list. -/
def canonicalItems : List Value → List Value
  | [] => []
  | item :: rest => item.canonical :: canonicalItems rest

/-- Fields in the order written, their values in canonical form. -/
def canonicalFields : List (Text × Value) → List (Text × Value)
  | [] => []
  | (key, value) :: rest => (key, value.canonical) :: canonicalFields rest

end

/-- Every key is less than the one after it. -/
def keysIncrease : List (Text × Value) → Bool
  | [] => true
  | [_] => true
  | (key, _) :: (next, value) :: rest =>
      Text.lessThan key next && keysIncrease ((next, value) :: rest)

mutual

/-- The fields of all records inside the value are in key order, without repetition. -/
def isCanonical : Value → Bool
  | .list items => areCanonical items
  | .record fields => keysIncrease fields && fieldsAreCanonical fields
  | .null => true
  | .bool _ => true
  | .number _ => true
  | .text _ => true

/-- All items of a list are canonical. -/
def areCanonical : List Value → Bool
  | [] => true
  | item :: rest => item.isCanonical && areCanonical rest

/-- The values of all fields are canonical. -/
def fieldsAreCanonical : List (Text × Value) → Bool
  | [] => true
  | (_, value) :: rest => value.isCanonical && fieldsAreCanonical rest

end

mutual

/-- Equality of canonical values. -/
def same : Value → Value → Bool
  | .null, .null => true
  | .bool first, .bool second => first == second
  | .number first, .number second => first.same second
  | .text first, .text second => first == second
  | .list first, .list second => sameItems first second
  | .record first, .record second => sameFields first second
  | _, _ => false

/-- Equality of lists of values. -/
def sameItems : List Value → List Value → Bool
  | [], [] => true
  | first :: rest, second :: others => first.same second && sameItems rest others
  | _, _ => false

/-- Equality of lists of fields. -/
def sameFields : List (Text × Value) → List (Text × Value) → Bool
  | [], [] => true
  | (key, first) :: rest, (other, second) :: others =>
      key == other && first.same second && sameFields rest others
  | _, _ => false

end

end Value

end StyledMarkup.Json
