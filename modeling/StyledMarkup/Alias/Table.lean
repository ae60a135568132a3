import StyledMarkup.Alias.Segment

namespace StyledMarkup

/-!
# Alias table

Segments are grouped by stem, and inside a stem by suffix.  A class name is
called after its stem, the number of its bucket and its number in the bucket.
-/

/-- The class names of one suffix. -/
structure Bucket where
  suffix : Text
  members : List Text
deriving DecidableEq, Repr

/-- The buckets of one stem. -/
structure Family where
  stem : Text
  buckets : List Bucket
deriving DecidableEq, Repr

/-- The families of a list of class names. -/
structure AliasTable where
  families : List Family
deriving DecidableEq, Repr

namespace AliasTable

/-- Puts a segment into its bucket; a suffix that is there starts over in its place. -/
def putBucket (segment : Segment) : List Bucket → List Bucket
  | [] => [⟨segment.suffix, segment.members⟩]
  | bucket :: rest =>
      if bucket.suffix = segment.suffix then ⟨bucket.suffix, segment.members⟩ :: rest
      else bucket :: putBucket segment rest

/-- Puts a segment into the family of its stem; a new stem comes last. -/
def putFamily (segment : Segment) : List Family → List Family
  | [] => [⟨segment.stem, putBucket segment []⟩]
  | family :: rest =>
      if family.stem = segment.stem then ⟨family.stem, putBucket segment family.buckets⟩ :: rest
      else family :: putFamily segment rest

/-- The table of a list of class names. -/
def build (names : List Text) : AliasTable :=
  ⟨(Segment.ofNames names).foldl (fun families segment => putFamily segment families) []⟩

/-- The table has no families. -/
def isEmpty (table : AliasTable) : Bool := table.families.isEmpty

/-- The alias for a stem, a bucket number and a member number, both counted from zero. -/
def aliasText (stem : Text) : Nat → Nat → Text
  | 0, 0 => stem
  | 0, member => stem ++ '-' :: Text.ofNat member
  | bucket, 0 => stem ++ Text.of "_ext" ++ Text.ofNat bucket
  | bucket, member => stem ++ Text.of "_ext" ++ Text.ofNat bucket ++ '-' :: Text.ofNat member

/-- The aliases of a name in buckets that are numbered from `bucket` on. -/
def bucketAliases (stem name : Text) (bucket : Nat) : List Bucket → List Text
  | [] => []
  | first :: rest =>
      match first.members.idxOf? name with
      | some member => aliasText stem bucket member :: bucketAliases stem name (bucket + 1) rest
      | none => bucketAliases stem name (bucket + 1) rest

/-- The aliases of a name in all families. -/
def memberAliases (name : Text) (table : AliasTable) : List Text :=
  table.families.flatMap fun family => bucketAliases family.stem name 0 family.buckets

/-- The alias of a class name, if it has one.

A name with a hyphen is called by the text before the first one, unless that
is empty.  Any other name is called by its last place in the table. -/
def aliasFor? (table : AliasTable) (name : Text) : Option Text :=
  match Text.cutFirst? ['-'] name with
  | some (stem, _) => if stem.isEmpty then none else some stem
  | none => (table.memberAliases name).getLast?

end AliasTable

end StyledMarkup
