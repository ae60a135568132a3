import StyledMarkup.Css.Selection
import StyledMarkup.ClassName
import StyledMarkup.Markup
import StyledMarkup.Registry
import StyledMarkup.Rename
import StyledMarkup.Settings
import StyledMarkup.Strip
import StyledMarkup.Tree.Walk

namespace StyledMarkup

/-!
# Snapshots

A snapshot of a tree shows the styles of its registered class names and, after
an empty line, its markup.  Generated names are replaced by their aliases in
both, and those that remain in class attributes are removed, so that a
snapshot does not change when the generated names do.
-/

namespace Snapshot

/-- The text with aliases for the used names and, if the settings ask for it, without hashes. -/
def stabilize (names : List Text) (style : Text) (hashes : List Text) (table : AliasTable)
    (settings : Settings) (text : Text) : Text :=
  let renamed := rename names style table text
  if settings.stripsHashes then Strip.hashes settings.classAttributes hashes renamed else renamed

/-- What stands between the style and the markup. -/
def separator (style : Text) : Text := if style.isEmpty then [] else ['\n', '\n']

/-- The style and the markup in one text. -/
def combine (style markup : Text) : Text := style ++ separator style ++ markup

end Snapshot

/-- A serializer takes snapshots of trees, for a registry and with settings. -/
structure Serializer where
  registry : Registry
  settings : Settings

namespace Serializer

/-- The element was rendered for a test and has not been handled yet. -/
def accepts (node : Node) : Bool := node.isSerializable && ! node.processed

/-- The registered class names in a tree. -/
def workingNames (serializer : Serializer) (node : Node) : List Text :=
  ClassName.registered serializer.registry.hashes
    (ClassName.collect serializer.settings.classAttributes node.flatten)

/-- The snapshot of a tree that has been marked already. -/
def snapshot (serializer : Serializer) (markup : Node → Text) (node : Node) :
    Except Css.Error Text := do
  let names := serializer.workingNames node
  let style ← Css.extract names serializer.registry.styles
  pure (Snapshot.stabilize names style serializer.registry.hashes (AliasTable.build names)
    serializer.settings (Snapshot.combine style (markup node)))

/-- Marks a tree as handled, then takes its snapshot with the given printer for the markup.

The tree stays marked even if there is no snapshot because of an error. -/
def printWith (serializer : Serializer) (markup : Node → Text) (node : Node) :
    Node × Except Css.Error Text :=
  let marked := node.mark.1
  (marked, serializer.snapshot markup marked)

/-- Marks a tree as handled and takes its snapshot. -/
def print (serializer : Serializer) (node : Node) : Node × Except Css.Error Text :=
  serializer.printWith Markup.print node

/-- Words for a snapshot that could not be taken. -/
def failureMessage (error : Css.Error) : Text := Text.of "Stylesheet error: " ++ error.shown

end Serializer

end StyledMarkup
