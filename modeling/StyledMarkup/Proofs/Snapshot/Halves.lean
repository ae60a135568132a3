import StyledMarkup.Proofs.Renaming
import StyledMarkup.Proofs.WorkingNames

namespace StyledMarkup

/-!
# The two halves of a snapshot

A snapshot is renamed as one text.  Working names have no blanks and are not
empty, so no replacement reaches across the empty line between the styles and
the markup: both halves are renamed by one and the same function, and neither
half can change the other.
-/

/-- A stylesheet that can be read has a style for all working names. -/
theorem Css.extract_of_parses
    {source : Text}
    (parses : (Css.parse source).isOk = true)
    (names : List Text) :
    ∃ style, Css.extract names source = .ok style := by
  cases isRead : Css.parse source with
  | error failure =>
      simp [isRead, Except.isOk, Except.toBool] at parses
  | ok sheet =>
      refine ⟨(sheet.select names).print, ?_⟩
      simp only [Css.extract, isRead]
      rfl

/-- The style of names is known if it is found. -/
theorem Css.extract_eq_of_toOption
    {names : List Text}
    {source style : Text}
    (isFound : (Css.extract names source).toOption = some style) :
    Css.extract names source = .ok style := by
  cases isRead : Css.extract names source with
  | error failure =>
      simp [isRead, Except.toOption] at isFound
  | ok found =>
      simpa [isRead, Except.toOption] using isFound

namespace Serializer

/-- A text renamed with the working names of a tree and the aliases made from them. -/
def renamed
    (serializer : Serializer)
    (node : Node)
    (style text : Text) : Text :=
  rename (serializer.workingNames node) style
    (AliasTable.build (serializer.workingNames node)) text

/-- Working names are not empty. -/
theorem workingNames_ne_nil
    (serializer : Serializer)
    (node : Node) :
    ∀ name ∈ serializer.workingNames node, name ≠ [] :=
  fun _ member => (isWord_of_mem_workingNames member).nonempty

/-- A blank separates a text into two texts that are renamed on their own. -/
theorem renamed_append_blank
    (serializer : Serializer)
    (node : Node)
    (blank : Char)
    (isBreak : isBlank blank = true)
    (style left right : Text) :
    serializer.renamed node style (left ++ blank :: right) =
      serializer.renamed node style left ++ blank :: serializer.renamed node style right :=
  rename_append_separator (serializer.workingNames_ne_nil node)
    (fun _ member => (isWord_of_mem_workingNames member).not_mem_of_isBlank isBreak)
    style _ left right

/-- Renaming a combined text renames its halves and keeps the empty line between them. -/
theorem renamed_combine
    (serializer : Serializer)
    (node : Node)
    (style markup : Text) :
    serializer.renamed node style (Snapshot.combine style markup) =
      serializer.renamed node style style ++ Snapshot.separator style ++
        serializer.renamed node style markup := by
  have nonempty := serializer.workingNames_ne_nil node
  cases style with
  | nil =>
      simp [renamed, Snapshot.combine, Snapshot.separator, rename_of_empty_style nonempty]
  | cons first rest =>
      have separates :=
        serializer.renamed_append_blank node '\n' rfl (first :: rest)
      -- Both line ends separate, and between them there is nothing to rename.
      have between : serializer.renamed node (first :: rest) [] = [] :=
        rename_nil nonempty _ _
      calc
        serializer.renamed node (first :: rest) (Snapshot.combine (first :: rest) markup)
          = serializer.renamed node (first :: rest)
              ((first :: rest) ++ '\n' :: ([] ++ '\n' :: markup)) := by
            simp [Snapshot.combine, Snapshot.separator]
        _ = serializer.renamed node (first :: rest) (first :: rest) ++
              '\n' :: ([] ++ '\n' :: serializer.renamed node (first :: rest) markup) := by
            rw [separates, separates, between]
        _ = serializer.renamed node (first :: rest) (first :: rest) ++
              Snapshot.separator (first :: rest) ++
                serializer.renamed node (first :: rest) markup := by
            simp [Snapshot.separator]

/-- The snapshot of a tree, once the style for its working names is known. -/
theorem printWith_snd_of_extract
    {serializer : Serializer}
    {node : Node}
    {style : Text}
    (extracts :
      Css.extract (serializer.workingNames node) serializer.registry.styles = .ok style)
    (markup : Node → Text) :
    (serializer.printWith markup node).2 =
      .ok (Snapshot.stabilize (serializer.workingNames node) style serializer.registry.hashes
        (AliasTable.build (serializer.workingNames node)) serializer.settings
        (Snapshot.combine style (markup node.mark.1))) := by
  simp only [printWith, snapshot, workingNames_mark, extracts]
  rfl

/--
If hashes are kept, a snapshot is the renamed style, an empty line unless the
style is empty, and the renamed markup; the markup stays as it is if there is
no style.
-/
theorem printWith_renames_halves
    (serializer : Serializer)
    (markup : Node → Text)
    (node : Node)
    (parses : (Css.parse serializer.registry.styles).isOk = true)
    (keepsHashes : serializer.settings.stripsHashes = false) :
    ∃ style,
      Css.extract (serializer.workingNames node) serializer.registry.styles = .ok style ∧
        (serializer.printWith markup node).2 =
          .ok (serializer.renamed node style style ++
            (if style = [] then [] else ['\n', '\n']) ++
              serializer.renamed node style (markup node.mark.1)) ∧
        (style = [] →
          (serializer.printWith markup node).2 = .ok (markup node.mark.1)) := by
  obtain ⟨style, extracts⟩ := Css.extract_of_parses parses (serializer.workingNames node)
  have whole :
      (serializer.printWith markup node).2 =
        .ok (serializer.renamed node style (Snapshot.combine style (markup node.mark.1))) := by
    rw [printWith_snd_of_extract extracts, Snapshot.stabilize, keepsHashes]
    rfl
  refine ⟨style, extracts, ?_, ?_⟩
  · rw [whole, renamed_combine]
    simp [Snapshot.separator, List.isEmpty_iff]
  · intro empty
    subst style
    rw [whole]
    simp [renamed, Snapshot.combine, Snapshot.separator,
      rename_of_empty_style (serializer.workingNames_ne_nil node)]

/-- A serializer with one hash and one rule for it, and default class attributes. -/
def ofOneRule (stripsHashes : Bool) (hash styles : Text) : Serializer :=
  ⟨⟨[hash], styles⟩, { Settings.standard with stripsHashes }⟩

/-- The halves of a snapshot of an element whose class name has an alias. -/
theorem printWith_renames_halves_of_one_rule :
    let serializer := ofOneRule false (Text.of "sc-a1") (Text.of ".sc-a1{all:unset}")
    let node := (Node.new (Text.of "p")).withClassName (Text.of "sc-a1 other")
    (Css.parse serializer.registry.styles).isOk = true ∧
      serializer.settings.stripsHashes = false ∧
        ∃ style,
          Css.extract (serializer.workingNames node) serializer.registry.styles = .ok style ∧
            (serializer.printWith Markup.print node).2 =
              .ok (serializer.renamed node style style ++
                (if style = [] then [] else ['\n', '\n']) ++
                  serializer.renamed node style (Markup.print node.mark.1)) ∧
            (style = [] →
              (serializer.printWith Markup.print node).2 = .ok (Markup.print node.mark.1)) :=
  have parses :
      (Css.parse (Text.of ".sc-a1{all:unset}")).isOk = true := by
    decide +kernel
  ⟨parses, rfl, printWith_renames_halves _ Markup.print _ parses rfl⟩

end Serializer

end StyledMarkup
