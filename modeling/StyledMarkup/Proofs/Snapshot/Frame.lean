import StyledMarkup.Proofs.Snapshot.Halves
import StyledMarkup.Proofs.Strip.Surroundings

namespace StyledMarkup

/-!
# What stripping changes in a snapshot

Stripping looks for values in the whole snapshot: also in its style, in the
texts between tags and behind keys that only end like a class attribute.  It
changes nothing but class values if and only if no hash stands in a value that
is opened by the text around the class values.
-/

namespace Snapshot

/-- Stripping turns the snapshot into that of a tree with other class values. -/
def StripsOnlyClassValues
    (attributes hashes : List Text)
    (indent style : Text)
    (node : Node) :
    Prop :=
  ∃ other : Node,
    node.SameButClassValues attributes other ∧
      Strip.hashes attributes hashes (combine style (Markup.printWith indent node)) =
        combine style (Markup.printWith indent other)

/-- Attributes have no quotes, hashes need no escapes, and class values have no equals signs. -/
structure WritesPlainly (attributes hashes : List Text) (node : Node) : Prop where
  attributes_quoteFree : ∀ name ∈ attributes, '"' ∉ name
  hashes_unescaped : ∀ hash ∈ hashes, '"' ∉ hash ∧ '\\' ∉ hash
  values_equalsFree :
    ∀ element ∈ node.flatten, ∀ key ∈ attributes, ∀ value ∈ element.prop? key, '=' ∉ value

/-- A snapshot is its style and the pieces of the markup. -/
theorem combine_eq_append_joined
    (attributes : List Text)
    (indent style : Text)
    (node : Node) :
    combine style (Markup.printWith indent node) =
      (style ++ separator style) ++
        Markup.joined (Markup.elementPieces attributes indent 0 node) := by
  rw [Markup.joined_elementPieces, combine, Markup.printWith]

theorem emptied_elementPieces
    (attributes : List Text)
    (indent : Text)
    (node : Node) :
    Strip.emptied (Markup.elementPieces attributes indent 0 node) =
      Markup.elementPieces attributes indent 0 (node.withoutClassValues attributes) :=
  (Markup.elementPieces_mapClassValues attributes (fun _ => []) indent node 0).symm

section Conditions

variable {attributes hashes : List Text} {node : Node}

theorem WritesPlainly.hasClassValues
    (plainly : WritesPlainly attributes hashes node)
    (indent : Text) :
    Strip.HasClassValues attributes (Markup.elementPieces attributes indent 0 node) := by
  intro key value isPiece
  obtain ⟨isKey, element, isElement, isProp⟩ := Markup.mem_elementPieces node 0 isPiece
  exact ⟨isKey, plainly.values_equalsFree element isElement key isKey value isProp⟩

theorem WritesPlainly.isPlainHash
    (plainly : WritesPlainly attributes hashes node) :
    ∀ hash ∈ hashes.filter (· ≠ []), Strip.IsPlainHash hash := by
  intro hash isHash
  obtain ⟨isHash, nonempty⟩ := List.mem_filter.mp isHash
  obtain ⟨quoteFree, backslashFree⟩ := plainly.hashes_unescaped hash isHash
  exact ⟨by simpa using nonempty, quoteFree, backslashFree⟩

/-- The hashes that are not empty spare the pieces if they spare the snapshot they make up. -/
theorem spares_pieces_iff
    (indent style : Text) :
    (∀ hash ∈ hashes.filter (· ≠ []),
        Strip.Spares attributes hash
          ((style ++ separator style) ++
            Markup.joined (Strip.emptied (Markup.elementPieces attributes indent 0 node)))) ↔
      ∀ hash ∈ hashes, hash ≠ [] →
        Strip.Spares attributes hash
          (combine style (Markup.printWith indent (node.withoutClassValues attributes))) := by
  rw [combine_eq_append_joined attributes, emptied_elementPieces]
  simp [List.mem_filter]

/-- If stripping changes only class values, no hash stands in another value. -/
theorem StripsOnlyClassValues.spares
    {indent style : Text}
    (strips : StripsOnlyClassValues attributes hashes indent style node)
    (plainly : WritesPlainly attributes hashes node) :
    ∀ hash ∈ hashes, hash ≠ [] →
      Strip.Spares attributes hash
        (combine style (Markup.printWith indent (node.withoutClassValues attributes))) := by
  obtain ⟨other, same, stripped⟩ := strips
  have samePieces :
      Strip.emptied (Markup.elementPieces attributes indent 0 node) =
        Strip.emptied (Markup.elementPieces attributes indent 0 other) := by
    rw [emptied_elementPieces, emptied_elementPieces, same]
  rw [Strip.hashes_eq_foldl_filter, combine_eq_append_joined attributes,
    combine_eq_append_joined attributes] at stripped
  rw [← spares_pieces_iff]
  exact Strip.spares_of_foldl_append_joined plainly.attributes_quoteFree plainly.isPlainHash
    (plainly.hasClassValues indent) samePieces _ stripped

/-- If no hash stands in another value, each class value loses the hashes and all else stays. -/
theorem WritesPlainly.hashes_combine
    (plainly : WritesPlainly attributes hashes node)
    {indent style : Text}
    (spares :
      ∀ hash ∈ hashes, hash ≠ [] →
        Strip.Spares attributes hash
          (combine style (Markup.printWith indent (node.withoutClassValues attributes)))) :
    Strip.hashes attributes hashes (combine style (Markup.printWith indent node)) =
      combine style (Markup.printWith indent (node.mapClassValues attributes fun value =>
        (hashes.filter (· ≠ [])).foldl (fun value hash => Strip.valueWithout hash value) value)) := by
  rw [← spares_pieces_iff] at spares
  rw [Strip.hashes_eq_foldl_filter, combine_eq_append_joined attributes,
    combine_eq_append_joined attributes, Markup.elementPieces_mapClassValues]
  exact Strip.foldl_hashFrom_append_joined plainly.attributes_quoteFree plainly.isPlainHash
    (plainly.hasClassValues indent) _ spares

/--
Stripping changes only class values exactly if no hash stands in a value that
is opened and closed in the snapshot of the tree with empty class values.
-/
theorem stripsOnlyClassValues_iff_spares
    (plainly : WritesPlainly attributes hashes node)
    (indent style : Text) :
    StripsOnlyClassValues attributes hashes indent style node ↔
      ∀ hash ∈ hashes, hash ≠ [] →
        Strip.Spares attributes hash
          (combine style (Markup.printWith indent (node.withoutClassValues attributes))) := by
  constructor
  · intro strips
    exact strips.spares plainly
  · intro spares
    exact ⟨_, node.sameButClassValues_mapClassValues attributes _, plainly.hashes_combine spares⟩

end Conditions

/-- An element with a class value, another prop and a text that all have the same hash. -/
def labelled : Node :=
  (((Node.new (Text.of "p")).withProp (Text.of "class") (.text (Text.of "sc-u \"kept\""))).withProp
    (Text.of "title") (.text (Text.of "sc-u"))).withChildren [.text (Text.of "sc-u")]

/-- Of four places with the hash stripping changes the class value only. -/
theorem stripsOnlyClassValues_labelled :
    let attributes := [Text.of "class", Text.of "className"]
    let hashes := [Text.of "sc-u"]
    let style := Text.of ".sc-u \x7b\n  all: unset;\n\x7d"
    WritesPlainly attributes hashes labelled ∧
      StripsOnlyClassValues attributes hashes [' ', ' '] style labelled := by
  intro attributes hashes style
  have plainly : WritesPlainly attributes hashes labelled :=
    { attributes_quoteFree := by decide
      hashes_unescaped := by decide
      values_equalsFree := by decide +kernel }
  refine ⟨plainly, (stripsOnlyClassValues_iff_spares plainly _ style).mpr ?_⟩
  decide +kernel

end Snapshot

namespace Serializer

/--
With default settings a value loses the hash behind a key that only ends like
a class attribute, so stripping changes more than class values.
-/
theorem print_strips_value_of_other_key :
    let serializer := ofOneRule true (Text.of "sc-u") []
    let node := (Node.new (Text.of "p")).withProp (Text.of "data-class") (.text (Text.of "sc-u"))
    (Css.extract (serializer.workingNames node) serializer.registry.styles).toOption = some [] ∧
      Markup.print node = Text.of "<p\n  data-class=\"sc-u\"\n/>" ∧
        (serializer.print node).2.toOption = some (Text.of "<p\n  data-class=\"\"\n/>") ∧
          ¬ Snapshot.StripsOnlyClassValues serializer.settings.classAttributes
            serializer.registry.hashes [' ', ' '] [] node := by
  intro serializer node
  refine ⟨by decide +kernel, by decide +kernel, by decide +kernel, ?_⟩
  intro strips
  have plainly :
      Snapshot.WritesPlainly serializer.settings.classAttributes serializer.registry.hashes
        node :=
    { attributes_quoteFree := by decide +kernel
      hashes_unescaped := by decide +kernel
      values_equalsFree := by decide +kernel }
  have spares := strips.spares plainly (Text.of "sc-u") (by decide +kernel) (by decide)
  exact absurd spares (by decide +kernel)

end Serializer

end StyledMarkup
