import StyledMarkup.Json.Reader

namespace StyledMarkup

/-!
# Settings

The settings of the serializer are read from JSON text.  What is missing keeps
its default, and unknown fields do not matter.
-/

open Json

/-- Options of the serializer. -/
structure Settings where
  /-- Props that carry class names, the first ones first. -/
  classAttributes : List Text
  /-- Remove the registered hashes that were not renamed. -/
  stripsHashes : Bool
deriving DecidableEq, Repr

namespace Settings

/-- Settings that nobody changed. -/
def standard : Settings := ⟨[Text.of "class", Text.of "className"], true⟩

/-- Name of the field for the class attributes. -/
def attributesField : Text := Text.of "classAttributes"

/-- Name of the field for the removal of hashes. -/
def stripsField : Text := Text.of "stripUnreferencedHashes"

/-- The settings as a JSON value. -/
def encode (settings : Settings) : Value :=
  .record [(attributesField, .list (settings.classAttributes.map .text)),
    (stripsField, .bool settings.stripsHashes)]

/-- The fields that have been read. -/
structure Parts where
  classAttributes : Option (List Text)
  stripsHashes : Option Bool

/-- The settings from the fields that were there. -/
def Parts.settings (parts : Parts) : Settings :=
  ⟨parts.classAttributes.getD standard.classAttributes,
    parts.stripsHashes.getD standard.stripsHashes⟩

/-- Reads the names of the class attributes. -/
def attributesReader : Reader (List Text) :=
  Reader.expectList (Reader.depthLimit - 1) fun _ => Reader.expectText .text

/-- Reads one field; a field must not be repeated. -/
def Parts.readField (parts : Parts) (key : Text) : Reader Parts := do
  if key = attributesField then
    if parts.classAttributes.isSome then Reader.failAround (.repeatedField key)
    Reader.colon
    let classAttributes ← attributesReader
    pure { parts with classAttributes := some classAttributes }
  else if key = stripsField then
    if parts.stripsHashes.isSome then Reader.failAround (.repeatedField key)
    Reader.colon
    let stripsHashes ← Reader.expectBool
    pure { parts with stripsHashes := some stripsHashes }
  else
    Reader.colon
    Reader.skipValue
    pure parts

/-- Reads the fields from the items of a list. -/
def Parts.readItems : Reader Parts := do
  if ← Reader.nextItem Reader.itemAfterComma true then
    let classAttributes ← attributesReader
    if ← Reader.nextItem Reader.itemAfterComma false then
      let stripsHashes ← Reader.expectBool
      pure ⟨some classAttributes, some stripsHashes⟩
    else pure ⟨some classAttributes, none⟩
  else pure ⟨none, none⟩

/-- Reads settings from a record or from a list of the fields in order. -/
def reader : Reader Settings := do
  match ← Reader.peekToken with
  | none => Reader.failAtNext .endInValue
  | some '[' => do
      Reader.advance
      let parts ← Reader.enclosed Parts.readItems Reader.listEnd Reader.afterListEnd
      pure parts.settings
  | some '\x7b' =>
      Reader.recordFold Parts.readField ⟨none, none⟩ fun parts => pure parts.settings
  | some _ => Reader.wrongKind .settings

/-- The settings written in a JSON text. -/
def read (source : Text) : Except Failure Settings := reader.run source

end Settings

/-- Words for settings that could not be read. -/
def Settings.failureMessage (failure : Failure) : Text :=
  Text.of "Invalid serializer config: " ++ failure.message

end StyledMarkup
