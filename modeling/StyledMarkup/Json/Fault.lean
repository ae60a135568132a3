import StyledMarkup.Json.Printer
import StyledMarkup.Text.Quoted

namespace StyledMarkup.Json

/-!
# Faults of JSON input

A fault says what is wrong with a JSON text or with the shape of a value.  A
failure is a fault together with the place where reading stopped, if the value
came from a text.
-/

/-- What was found where something else was expected. -/
inductive Found where
  | null
  | bool (value : Bool)
  | number (value : Number)
  | text (value : Text)
  | list
  | record
deriving DecidableEq, Repr

/-- What was expected. -/
inductive Expected where
  | node
  | settings
  | text
  | bool
  | list
  | record
  | null
  | textOrRecord
  | variantName
deriving DecidableEq, Repr

/-- What can be wrong with a JSON text or with the shape of a value. -/
inductive Fault where
  | endInValue
  | endInRecord
  | endInList
  | endInText
  | expectedColon
  | expectedListSeparator
  | expectedRecordSeparator
  | expectedWord
  | expectedValue
  | invalidEscape
  | invalidNumber
  | numberTooLarge
  | controlCharacter
  | keyNotText
  | loneSurrogate
  | cutSurrogatePair
  | trailingComma
  | trailingText
  | tooDeep
  | wrongKind (found : Found) (expected : Expected)
  | tooFewItems (count : Nat)
  | tooManyItems (count : Nat)
  | missingField (name : Text)
  | repeatedField (name : Text)
  | notOneKey
  | notAChild
deriving DecidableEq, Repr

/-- The kind of a value. -/
def Found.of : Value → Found
  | .null => .null
  | .bool value => .bool value
  | .number value => .number value
  | .text value => .text value
  | .list _ => .list
  | .record _ => .record

/-- Words for what was found. -/
def Found.message : Found → Text
  | .null => Text.of "null"
  | .bool true => Text.of "boolean `true`"
  | .bool false => Text.of "boolean `false`"
  | .number (.integer value) => Text.of "integer `" ++ Text.ofInt value ++ Text.of "`"
  | .number (.real value) => Text.of "floating point `" ++ floatText value ++ Text.of "`"
  | .text value => Text.of "string " ++ Text.quoted value
  | .list => Text.of "sequence"
  | .record => Text.of "map"

/-- Words for what was expected. -/
def Expected.message : Expected → Text
  | .node => Text.of "struct TreeNode"
  | .settings => Text.of "struct SerializerConfig"
  | .text => Text.of "a string"
  | .bool => Text.of "a boolean"
  | .list => Text.of "a sequence"
  | .record => Text.of "a map"
  | .null => Text.of "unit"
  | .textOrRecord => Text.of "string or map"
  | .variantName => Text.of "variant identifier"

/-- Words for a fault. -/
def Fault.message : Fault → Text
  | .endInValue => Text.of "EOF while parsing a value"
  | .endInRecord => Text.of "EOF while parsing an object"
  | .endInList => Text.of "EOF while parsing a list"
  | .endInText => Text.of "EOF while parsing a string"
  | .expectedColon => Text.of "expected `:`"
  | .expectedListSeparator => Text.of "expected `,` or `]`"
  | .expectedRecordSeparator => Text.of "expected `,` or `\x7d`"
  | .expectedWord => Text.of "expected ident"
  | .expectedValue => Text.of "expected value"
  | .invalidEscape => Text.of "invalid escape"
  | .invalidNumber => Text.of "invalid number"
  | .numberTooLarge => Text.of "number out of range"
  | .controlCharacter =>
      Text.of "control character (\\u0000-\\u001F) found while parsing a string"
  | .keyNotText => Text.of "key must be a string"
  | .loneSurrogate => Text.of "lone leading surrogate in hex escape"
  | .cutSurrogatePair => Text.of "unexpected end of hex escape"
  | .trailingComma => Text.of "trailing comma"
  | .trailingText => Text.of "trailing characters"
  | .tooDeep => Text.of "recursion limit exceeded"
  | .wrongKind found expected =>
      Text.of "invalid type: " ++ found.message ++ Text.of ", expected " ++ expected.message
  | .tooFewItems count =>
      Text.of "invalid length " ++ Text.ofNat count ++
        Text.of ", expected struct TreeNode with 4 elements"
  | .tooManyItems count =>
      Text.of "invalid length " ++ Text.ofNat count ++
        Text.of ", expected fewer elements in array"
  | .missingField name => Text.of "missing field `" ++ name ++ Text.of "`"
  | .repeatedField name => Text.of "duplicate field `" ++ name ++ Text.of "`"
  | .notOneKey => Text.of "invalid value: map, expected map with a single key"
  | .notAChild => Text.of "data did not match any variant of untagged enum Child"

/-- A line, counted from one, and the number of bytes read on it. -/
structure Position where
  line : Nat
  column : Nat
deriving DecidableEq, Repr

/-- The position after the given number of bytes of a text. -/
def Position.afterBytes (start : Position) (count : Nat) : Text → Position
  | [] => start
  | first :: rest =>
      if count = 0 then start
      else if count < first.utf8Size then ⟨start.line, start.column + count⟩
      else
        let next : Position :=
          if first = '\n' then ⟨start.line + 1, 0⟩ else ⟨start.line, start.column + first.utf8Size⟩
        next.afterBytes (count - first.utf8Size) rest

/-- A fault and the place where it was noticed, if there is one. -/
structure Failure where
  fault : Fault
  position : Option Position
deriving DecidableEq, Repr

/-- A failure of a value that was not read from a text. -/
def Failure.unplaced (fault : Fault) : Failure := ⟨fault, none⟩

/-- The full message of a failure. -/
def Failure.message (failure : Failure) : Text :=
  match failure.position with
  | none => failure.fault.message
  | some position =>
      failure.fault.message ++ Text.of " at line " ++ Text.ofNat position.line ++
        Text.of " column " ++ Text.ofNat position.column

end StyledMarkup.Json
