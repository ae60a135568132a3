import StyledMarkup.Proofs.Alias.Characters
import StyledMarkup.Proofs.Markup.Places
import StyledMarkup.Proofs.Snapshot.Halves
import StyledMarkup.Proofs.Strip.Tokens

namespace StyledMarkup

open List

/-!
# Names that keep their place

A registered class name without an alias stays in the style.  Whether it stays
in the class attributes depends on the settings: stripping takes the name out
of every class value once for each time it is registered, although the style
still has a rule for it.
-/

/-- Neither of two texts occurs in the other. -/
def Text.Apart (first second : Text) : Prop :=
  ¬ first <:+: second ∧ ¬ second <:+: first

instance (first second : Text) : Decidable (first.Apart second) :=
  inferInstanceAs (Decidable (_ ∧ _))

/-- A word without quotes and equals signs. -/
structure Text.IsPlain (text : Text) : Prop where
  isWord : text.IsWord
  quoteFree : '"' ∉ text
  equalsFree : '=' ∉ text

instance (text : Text) : Decidable text.IsPlain :=
  decidable_of_iff (text.IsWord ∧ '"' ∉ text ∧ '=' ∉ text)
    ⟨fun ⟨isWord, quoteFree, equalsFree⟩ => ⟨isWord, quoteFree, equalsFree⟩,
      fun ⟨isWord, quoteFree, equalsFree⟩ => ⟨isWord, quoteFree, equalsFree⟩⟩

/-- The collector of class names reads this value of this attribute. -/
structure ClassName.Reads (attributes : List Text) (element : Node) (key value : Text) :
    Prop where
  isKey : key ∈ attributes
  isProp : element.prop? key = some value
  isSelected : selected? attributes element = some value

namespace Serializer

/-- A text renamed and, if the settings ask for it, stripped. -/
def stabilized (serializer : Serializer) (node : Node) (style text : Text) : Text :=
  Snapshot.stabilize (serializer.workingNames node) style serializer.registry.hashes
    (AliasTable.build (serializer.workingNames node)) serializer.settings text

/-- No other hash or class name, no alias and no class attribute overlaps with the name. -/
structure Isolates (serializer : Serializer) (node : Node) (name : Text) : Prop where
  from_hashes : ∀ hash ∈ serializer.registry.hashes, hash ≠ name → name.Apart hash
  from_aliases :
    ∀ working ∈ serializer.workingNames node,
      ∀ alternative ∈ (AliasTable.build (serializer.workingNames node)).aliasFor? working,
        name.Apart alternative
  from_attributes : ∀ key ∈ serializer.settings.classAttributes, name.Apart key
  from_tokens :
    ∀ token ∈ ClassName.collect serializer.settings.classAttributes node.flatten,
      token ≠ name → name.Apart token

/--
Hashes and attributes are plain and apart, class values need no escapes, and
the name stands in the style between characters that are in no working name.
-/
structure Spells (serializer : Serializer) (node : Node) (style name : Text) : Prop where
  hashes_plain : ∀ hash ∈ serializer.registry.hashes, hash.IsPlain
  attributes_plain :
    ∀ key ∈ serializer.settings.classAttributes,
      key.IsPlain ∧ ∀ hash ∈ serializer.registry.hashes, ¬ hash <:+: key
  values_plain :
    ∀ element ∈ node.flatten,
      ∀ value ∈ ClassName.selected? serializer.settings.classAttributes element,
        '"' ∉ value ∧ '\\' ∉ value
  stands_free :
    ∃ left before after right,
      style = left ++ before :: (name ++ after :: right) ∧
        ∀ working ∈ serializer.workingNames node, before ∉ working ∧ after ∉ working

/--
Hashes occur in class names only as whole names and in no alias, the style
opens no class value, and what the markup opens is closed.
-/
structure Separates (serializer : Serializer) (node : Node) (style : Text) : Prop where
  tokens_whole :
    ∀ token ∈ ClassName.collect serializer.settings.classAttributes node.flatten,
      ∀ hash ∈ serializer.registry.hashes, hash <:+: token → token = hash
  aliases_free :
    ∀ working ∈ serializer.workingNames node,
      ∀ alternative ∈ (AliasTable.build (serializer.workingNames node)).aliasFor? working,
        ∀ hash ∈ serializer.registry.hashes, ¬ hash <:+: alternative
  style_unopened :
    ∀ key ∈ serializer.settings.classAttributes,
      ¬ key ++ Text.of "=\"" <:+: serializer.renamed node style style
  markup_tidy :
    Strip.Tidy serializer.settings.classAttributes
      (Text.splitOn '"' (serializer.renamed node style (Markup.print node.mark.1)))

/-- The style has the name, and every class value that had it as a class name still has it. -/
structure Keeps (serializer : Serializer) (node : Node) (name style markup : Text) : Prop where
  in_style : name <:+: style
  in_values :
    ∀ element ∈ node.flatten, ∀ key value,
      ClassName.Reads serializer.settings.classAttributes element key value →
        name ∈ Text.words value →
          (∃ index, Markup.ValueAt key value (Markup.print node.mark.1) index) ∧
            ∀ index, Markup.ValueAt key value (Markup.print node.mark.1) index →
              ∃ kept, Markup.ValueAt key kept markup index ∧ name ∈ Text.words kept

section Renaming

variable {serializer : Serializer} {node : Node} {style name : Text}

/-- Working names are registered. -/
theorem mem_hashes_of_mem_workingNames
    {working : Text}
    (isWorking : working ∈ serializer.workingNames node) :
    working ∈ serializer.registry.hashes :=
  (mem_workingNames.mp isWorking).1

/-- Aliases of plain names are plain, unless they are empty. -/
theorem isPlain_of_aliasFor?
    (spells : serializer.Spells node style name)
    {working alternative : Text}
    (isWorking : working ∈ serializer.workingNames node)
    (isAlias :
      (AliasTable.build (serializer.workingNames node)).aliasFor? working = some alternative)
    (nonempty : alternative ≠ []) :
    alternative.IsPlain := by
  have plainChar :
      ∀ character ∈ alternative,
        isBlank character = false ∧ character ≠ '"' ∧ character ≠ '=' := by
    intro character member
    rcases AliasTable.isAliasChar_of_aliasFor? isWorking isAlias member with
        ⟨other, isOther, inOther⟩ | alphanumeric | rfl | rfl
    · have plain := spells.hashes_plain other (mem_hashes_of_mem_workingNames isOther)
      refine ⟨plain.isWord.blankFree character inOther, ?_, ?_⟩
      · rintro rfl
        exact plain.quoteFree inOther
      · rintro rfl
        exact plain.equalsFree inOther
    · refine ⟨Delimiter.isBlank_eq_false_of_isAlphanum alphanumeric, ?_, ?_⟩
      · rintro rfl
        exact absurd alphanumeric (by decide)
      · rintro rfl
        exact absurd alphanumeric (by decide)
    · decide
    · decide
  exact
    { isWord := ⟨nonempty, fun character member => (plainChar character member).1⟩
      quoteFree := fun member => (plainChar '"' member).2.1 rfl
      equalsFree := fun member => (plainChar '=' member).2.2 rfl }

/-- The aliases of working names are plain and apart from an isolated name. -/
theorem Isolates.alias_plain
    (isolates : serializer.Isolates node name)
    (spells : serializer.Spells node style name) :
    ∀ working ∈ serializer.workingNames node, ∀ alternative,
      (AliasTable.build (serializer.workingNames node)).aliasFor? working = some alternative →
        alternative.IsPlain ∧ ¬ alternative <:+: name := by
  intro working isWorking alternative isAlias
  have apart := (isolates.from_aliases working isWorking alternative isAlias).2
  refine ⟨isPlain_of_aliasFor? spells isWorking isAlias ?_, apart⟩
  rintro rfl
  exact apart List.nil_infix

/-- Working names are words, and so are their aliases. -/
theorem Isolates.words_and_alias_words
    (isolates : serializer.Isolates node name)
    (spells : serializer.Spells node style name) :
    (∀ working ∈ serializer.workingNames node, working.IsWord) ∧
      ∀ working ∈ serializer.workingNames node, ∀ alternative,
        (AliasTable.build (serializer.workingNames node)).aliasFor? working = some alternative →
          alternative.IsWord := by
  constructor
  · intro working isWorking
    exact isWord_of_mem_workingNames isWorking
  · intro working isWorking alternative isAlias
    exact (isolates.alias_plain spells working isWorking alternative isAlias).1.isWord

/-- An isolated name without an alias is not renamed. -/
theorem Isolates.renamed_name
    (isolates : serializer.Isolates node name)
    (unresolved : (AliasTable.build (serializer.workingNames node)).aliasFor? name = none)
    (style : Text) :
    serializer.renamed node style name = name := by
  refine rename_of_absent ?_ style
  intro working isWorking resolved occurs
  by_cases same : working = name
  · simp [same, unresolved] at resolved
  · exact (isolates.from_hashes working (mem_hashes_of_mem_workingNames isWorking) same).2 occurs

/-- The renamed style has a name that stands free and is not renamed. -/
theorem infix_renamed_style
    (spells : serializer.Spells node style name)
    (fixed : serializer.renamed node style name = name) :
    name <:+: serializer.renamed node style style := by
  obtain ⟨left, before, after, right, shape, free⟩ := spells.stands_free
  have nonempty := serializer.workingNames_ne_nil node
  have separates :
      serializer.renamed node style (left ++ before :: (name ++ after :: right)) =
        serializer.renamed node style left ++
          before :: (name ++ after :: serializer.renamed node style right) := by
    have beforeFree := fun working isWorking => (free working isWorking).1
    have afterFree := fun working isWorking => (free working isWorking).2
    rw [renamed, rename_append_separator nonempty beforeFree,
      rename_append_separator nonempty afterFree]
    exact congrArg (fun text => _ ++ before :: (text ++ after :: _)) fixed
  rw [← shape] at separates
  rw [separates]
  exact ⟨serializer.renamed node style left ++ [before],
    after :: serializer.renamed node style right, by simp⟩

/-- What the collector reads is printed behind its attribute. -/
theorem exists_valueAt_of_reads
    (spells : serializer.Spells node style name)
    {element : Node}
    (isElement : element ∈ node.flatten)
    {key value : Text}
    (reads : ClassName.Reads serializer.settings.classAttributes element key value) :
    ∃ index, Markup.ValueAt key value (Markup.print node.mark.1) index := by
  obtain ⟨quoteFree, backslashFree⟩ :=
    spells.values_plain element isElement value reads.isSelected
  have keyQuoteFree := (spells.attributes_plain key reads.isKey).1.quoteFree
  have isMarked : element.flagged true ∈ node.mark.1.flatten := by
    rw [Node.mark_fst, Node.flatten_flagged]
    exact List.mem_map_of_mem isElement
  have isProp : (element.flagged true).prop? key = some value := by
    simpa [Node.prop?] using reads.isProp
  exact Markup.exists_valueAt keyQuoteFree quoteFree
    (Markup.prop_infix_print isMarked isProp quoteFree backslashFree)

/-- Renaming a text renames the values in it and keeps their places. -/
theorem valueAt_renamed
    (isolates : serializer.Isolates node name)
    (spells : serializer.Spells node style name)
    {key value text : Text}
    (isKey : key ∈ serializer.settings.classAttributes)
    {index : Nat}
    (place : Markup.ValueAt key value text index) :
    Markup.ValueAt key (serializer.renamed node style value)
      (serializer.renamed node style text) index := by
  have nonempty := serializer.workingNames_ne_nil node
  have plain :
      ∀ working ∈ serializer.workingNames node, working.IsPlain := fun working isWorking =>
    spells.hashes_plain working (mem_hashes_of_mem_workingNames isWorking)
  have parts :
      Text.splitOn '"' (serializer.renamed node style text) =
        (Text.splitOn '"' text).map (serializer.renamed node style) :=
    splitOn_rename nonempty (fun working isWorking => (plain working isWorking).quoteFree)
      (fun working isWorking alternative isAlias =>
        (isolates.alias_plain spells working isWorking alternative isAlias).1.quoteFree)
      style text
  have fixedKey : serializer.renamed node style key = key := by
    refine rename_of_absent ?_ style
    intro working isWorking _
    exact (spells.attributes_plain key isKey).2 working
      (mem_hashes_of_mem_workingNames isWorking)
  obtain ⟨front, isFront, before, rfl⟩ := place.opening
  have frontRenamed :
      serializer.renamed node style (before ++ (' ' :: key ++ ['='])) =
        serializer.renamed node style before ++ (' ' :: key ++ ['=']) := by
    have behindKey :
        serializer.renamed node style (key ++ '=' :: []) =
          serializer.renamed node style key ++ '=' :: serializer.renamed node style [] :=
      rename_append_separator nonempty
        (fun working isWorking => (plain working isWorking).equalsFree) style _ key []
    have nothing : serializer.renamed node style [] = [] := rename_nil nonempty _ _
    calc
      serializer.renamed node style (before ++ (' ' :: key ++ ['=']))
        = serializer.renamed node style (before ++ ' ' :: (key ++ '=' :: [])) := rfl
      _ = serializer.renamed node style before ++
            ' ' :: (serializer.renamed node style key ++
              '=' :: serializer.renamed node style []) := by
          rw [serializer.renamed_append_blank node ' ' isBlank_space, behindKey]
      _ = _ := by
          rw [fixedKey, nothing]
          rfl
  refine ⟨⟨_, ?_, serializer.renamed node style before, rfl⟩, ?_⟩
  · rw [parts, List.getElem?_map, isFront, Option.map_some, frontRenamed]
  · rw [parts, List.getElem?_map, place.value, Option.map_some]

/-- Class names are words of the value that the collector reads. -/
theorem mem_collect_of_selected
    {attributes : List Text}
    {element : Node}
    (isElement : element ∈ node.flatten)
    {value token : Text}
    (isSelected : ClassName.selected? attributes element = some value)
    (isToken : token ∈ Text.words value) :
    token ∈ ClassName.collect attributes node.flatten := by
  refine ClassName.mem_collect.mpr ⟨element, isElement, ?_⟩
  rw [ClassName.words, isSelected]
  exact isToken

/-- A renamed value has an isolated name as often as before. -/
theorem count_words_renamed
    (isolates : serializer.Isolates node name)
    (spells : serializer.Spells node style name)
    (fixed : serializer.renamed node style name = name)
    (value : Text) :
    (Text.words (serializer.renamed node style value)).count name =
      (Text.words value).count name := by
  obtain ⟨areWords, aliasWords⟩ := isolates.words_and_alias_words spells
  refine count_words_rename areWords aliasWords ?_ fixed value
  intro working isWorking alternative isAlias
  exact (isolates.alias_plain spells working isWorking alternative isAlias).2

/-- Stripping leaves a name in a class value if it is there more often than it is registered. -/
theorem mem_words_stripped
    (isolates : serializer.Isolates node name)
    (spells : serializer.Spells node style name)
    (separates : serializer.Separates node style)
    (fixed : serializer.renamed node style name = name)
    {element : Node}
    (isElement : element ∈ node.flatten)
    {value : Text}
    (isSelected :
      ClassName.selected? serializer.settings.classAttributes element = some value) :
    name ∈ Text.words (serializer.registry.hashes.foldl
        (fun value hash => Strip.removeFirst hash value)
        (serializer.renamed node style value)) ↔
      serializer.registry.hashes.count name < (Text.words value).count name := by
  obtain ⟨areWords, aliasWords⟩ := isolates.words_and_alias_words spells
  have whole :
      ∀ token ∈ Text.words (serializer.renamed node style value),
        ∀ hash ∈ serializer.registry.hashes, hash <:+: token → token = hash := by
    intro renamedToken isRenamed
    rw [renamed, words_rename areWords aliasWords] at isRenamed
    obtain ⟨token, isToken, rfl⟩ := List.mem_map.mp isRenamed
    exact eq_of_infix_rename (serializer.workingNames_ne_nil node)
      (fun _ isWorking => mem_hashes_of_mem_workingNames isWorking)
      separates.aliases_free style
      (separates.tokens_whole token (mem_collect_of_selected isElement isSelected isToken))
  rw [Strip.words_foldl_removeFirst
      (fun hash isHash => (spells.hashes_plain hash isHash).isWord) whole,
    Strip.mem_diff_iff_count_lt, count_words_renamed isolates spells fixed]

/-- The attributes of a tree with working names are not empty. -/
theorem classAttributes_ne_nil
    (isWorking : name ∈ serializer.workingNames node) :
    serializer.settings.classAttributes ≠ [] := by
  intro empty
  obtain ⟨-, element, -, isClassName⟩ := mem_workingNames.mp isWorking
  simp [empty, ClassName.words, ClassName.selected?] at isClassName

/-- With stripping, a text is renamed and the hashes are taken out of it. -/
theorem stabilized_of_strips
    (spells : serializer.Spells node style name)
    (isWorking : name ∈ serializer.workingNames node)
    (strips : serializer.settings.stripsHashes = true)
    (text : Text) :
    serializer.stabilized node style text =
      serializer.registry.hashes.foldl
        (fun text hash => Strip.hashFrom serializer.settings.classAttributes hash text)
        (serializer.renamed node style text) := by
  rw [stabilized, Snapshot.stabilize, if_pos strips]
  exact Strip.hashes_eq_foldl (classAttributes_ne_nil isWorking)
    (fun hash isHash => (spells.hashes_plain hash isHash).isWord.nonempty) _

/-- Without stripping, a text is only renamed. -/
theorem stabilized_of_keeps
    (keepsHashes : serializer.settings.stripsHashes = false)
    (text : Text) :
    serializer.stabilized node style text = serializer.renamed node style text := by
  rw [stabilized, Snapshot.stabilize, keepsHashes]
  rfl

/-- The snapshot is the renamed style, an empty line and the stabilized markup. -/
theorem print_eq_style_and_markup
    (extracts :
      Css.extract (serializer.workingNames node) serializer.registry.styles = .ok style)
    (isWorking : name ∈ serializer.workingNames node)
    (spells : serializer.Spells node style name)
    (separates :
      serializer.settings.stripsHashes = true → serializer.Separates node style) :
    (serializer.print node).2 =
      .ok (serializer.renamed node style style ++ '\n' :: '\n' ::
        serializer.stabilized node style (Markup.print node.mark.1)) := by
  have whole :
      (serializer.print node).2 =
        .ok (serializer.stabilized node style
          (Snapshot.combine style (Markup.print node.mark.1))) :=
    printWith_snd_of_extract extracts Markup.print
  have hasStyle : style.isEmpty = false := by
    obtain ⟨left, before, after, right, rfl, -⟩ := spells.stands_free
    simp
  have renamedWhole := serializer.renamed_combine node style (Markup.print node.mark.1)
  rw [Snapshot.separator, hasStyle] at renamedWhole
  rw [whole]
  cases strips : serializer.settings.stripsHashes with
  | false =>
      rw [stabilized_of_keeps strips, stabilized_of_keeps strips, renamedWhole]
      simp
  | true =>
      have combined := Strip.foldl_hashFrom_combined
        (fun key isKey => (spells.attributes_plain key isKey).1.isWord)
        (separates strips).style_unopened serializer.registry.hashes
        (serializer.renamed node style (Markup.print node.mark.1))
      rw [stabilized_of_strips spells isWorking strips, renamedWhole,
        stabilized_of_strips spells isWorking strips, ← combined]
      simp

/-- Stripping takes the hashes out of a value in the renamed markup and keeps its place. -/
theorem valueAt_stripped
    (isWorking : name ∈ serializer.workingNames node)
    (strips : serializer.settings.stripsHashes = true)
    (spells : serializer.Spells node style name)
    (separates : serializer.Separates node style)
    {key value : Text}
    (isKey : key ∈ serializer.settings.classAttributes)
    {index : Nat}
    (place :
      Markup.ValueAt key value
        (serializer.renamed node style (Markup.print node.mark.1)) index) :
    Markup.ValueAt key
      (serializer.registry.hashes.foldl (fun value hash => Strip.removeFirst hash value) value)
      (serializer.stabilized node style (Markup.print node.mark.1)) index := by
  obtain ⟨front, isFront, isOpening⟩ := place.opening
  have isOpen : Strip.opens serializer.settings.classAttributes front = true := by
    rw [Strip.opens, List.any_eq_true]
    refine ⟨key, isKey, ?_⟩
    rw [List.isSuffixOf_iff_suffix]
    exact (List.suffix_cons ' ' (key ++ ['='])).trans isOpening
  obtain ⟨frontKept, valueKept⟩ := Strip.getElem?_splitOn_foldl_hashFrom
    (fun key isKey => (spells.attributes_plain key isKey).1.quoteFree)
    (fun hash isHash => (spells.hashes_plain hash isHash).isWord.nonempty)
    (fun hash isHash => (spells.hashes_plain hash isHash).quoteFree)
    separates.markup_tidy isFront isOpen place.value
  rw [stabilized_of_strips spells isWorking strips]
  exact ⟨⟨front, frontKept, isOpening⟩, valueKept⟩

/-- What the collector reads stands in the stabilized markup in its place. -/
theorem exists_valueAt_stabilized
    (isWorking : name ∈ serializer.workingNames node)
    (unresolved : (AliasTable.build (serializer.workingNames node)).aliasFor? name = none)
    (isolates : serializer.Isolates node name)
    (spells : serializer.Spells node style name)
    (separates :
      serializer.settings.stripsHashes = true → serializer.Separates node style)
    {element : Node}
    (isElement : element ∈ node.flatten)
    {key value : Text}
    (reads : ClassName.Reads serializer.settings.classAttributes element key value)
    (isToken : name ∈ Text.words value)
    {index : Nat}
    (place : Markup.ValueAt key value (Markup.print node.mark.1) index) :
    ∃ kept,
      Markup.ValueAt key kept
          (serializer.stabilized node style (Markup.print node.mark.1)) index ∧
        (name ∈ Text.words kept ↔
          serializer.settings.stripsHashes = false ∨
            serializer.registry.hashes.count name < (Text.words value).count name) := by
  have fixed := isolates.renamed_name unresolved style
  have renamedPlace := valueAt_renamed isolates spells reads.isKey place
  cases strips : serializer.settings.stripsHashes with
  | false =>
      have isThere : name ∈ Text.words (serializer.renamed node style value) := by
        rw [← List.count_pos_iff, count_words_renamed isolates spells fixed]
        exact List.count_pos_iff.mpr isToken
      rw [stabilized_of_keeps strips]
      exact ⟨_, renamedPlace, by simp [isThere]⟩
  | true =>
      have separated := separates strips
      refine ⟨_, valueAt_stripped isWorking strips spells separated reads.isKey renamedPlace, ?_⟩
      rw [mem_words_stripped isolates spells separated fixed isElement reads.isSelected]
      simp

/--
A working name without an alias stays in the style.  It stays in the class
values exactly if nothing is stripped or every class value that has the name
has it more often than it is registered.
-/
theorem keeps_iff
    (extracts :
      Css.extract (serializer.workingNames node) serializer.registry.styles = .ok style)
    (isWorking : name ∈ serializer.workingNames node)
    (unresolved : (AliasTable.build (serializer.workingNames node)).aliasFor? name = none)
    (isolates : serializer.Isolates node name)
    (spells : serializer.Spells node style name)
    (separates :
      serializer.settings.stripsHashes = true → serializer.Separates node style) :
    (serializer.print node).2 =
        .ok (serializer.renamed node style style ++ '\n' :: '\n' ::
          serializer.stabilized node style (Markup.print node.mark.1)) ∧
      name <:+: serializer.renamed node style style ∧
        (serializer.Keeps node name (serializer.renamed node style style)
            (serializer.stabilized node style (Markup.print node.mark.1)) ↔
          serializer.settings.stripsHashes = false ∨
            ∀ element ∈ node.flatten, ∀ key value,
              ClassName.Reads serializer.settings.classAttributes element key value →
                name ∈ Text.words value →
                  serializer.registry.hashes.count name < (Text.words value).count name) := by
  have inStyle := infix_renamed_style spells (isolates.renamed_name unresolved style)
  have atPlace {element : Node} (isElement : element ∈ node.flatten) {key value : Text}
      (reads : ClassName.Reads serializer.settings.classAttributes element key value)
      (isToken : name ∈ Text.words value) {index : Nat}
      (place : Markup.ValueAt key value (Markup.print node.mark.1) index) :=
    exists_valueAt_stabilized isWorking unresolved isolates spells separates isElement reads
      isToken place
  refine ⟨print_eq_style_and_markup extracts isWorking spells separates, inStyle, ?_⟩
  constructor
  · intro keeps
    -- The value is printed somewhere, and what stands there in the snapshot is known.
    by_cases strips : serializer.settings.stripsHashes = false
    · exact Or.inl strips
    · refine Or.inr ?_
      intro element isElement key value reads isToken
      obtain ⟨⟨index, place⟩, everywhere⟩ :=
        keeps.in_values element isElement key value reads isToken
      obtain ⟨kept, keptPlace, isKept⟩ := everywhere index place
      obtain ⟨found, foundPlace, found_iff⟩ := atPlace isElement reads isToken place
      rw [keptPlace.unique foundPlace] at isKept
      exact (found_iff.mp isKept).resolve_left strips
  · intro condition
    refine ⟨inStyle, ?_⟩
    intro element isElement key value reads isToken
    refine ⟨exists_valueAt_of_reads spells isElement reads, ?_⟩
    intro index place
    obtain ⟨found, foundPlace, found_iff⟩ := atPlace isElement reads isToken place
    refine ⟨found, foundPlace, found_iff.mpr ?_⟩
    rcases condition with keepsHashes | often
    · exact Or.inl keepsHashes
    · exact Or.inr (often element isElement key value reads isToken)

end Renaming

/-- The styles of one rule whose name has no alias. -/
def looseStyles : Text := Text.of ".loose\x7ball:unset\x7d"

/-- The printed style of the rule. -/
def looseStyle : Text := Text.of ".loose \x7b\n  all: unset;\n\x7d"

/-- An element with a class value. -/
def paragraph (value : Text) : Node :=
  (Node.new (Text.of "p")).withProp (Text.of "class") (.text value)

/-- With default settings a name stays in a class value that has it twice. -/
theorem keeps_name_written_twice :
    let serializer := ofOneRule true (Text.of "loose") looseStyles
    let node := paragraph (Text.of "loose loose")
    serializer.Keeps node (Text.of "loose") (serializer.renamed node looseStyle looseStyle)
      (serializer.stabilized node looseStyle (Markup.print node.mark.1)) := by
  intro serializer node
  have extracts :
      Css.extract (serializer.workingNames node) serializer.registry.styles =
        .ok looseStyle := by
    have found :
        (Css.extract (serializer.workingNames node) serializer.registry.styles).toOption =
          some looseStyle := by
      decide +kernel
    exact Css.extract_eq_of_toOption found
  have isolates : serializer.Isolates node (Text.of "loose") :=
    { from_hashes := by decide +kernel
      from_aliases := by decide +kernel
      from_attributes := by decide +kernel
      from_tokens := by decide +kernel }
  have spells : serializer.Spells node looseStyle (Text.of "loose") :=
    { hashes_plain := by decide +kernel
      attributes_plain := by decide +kernel
      values_plain := by decide +kernel
      stands_free :=
        ⟨[], '.', ' ', Text.of "\x7b\n  all: unset;\n\x7d", by decide, by decide +kernel⟩ }
  have separates : serializer.Separates node looseStyle :=
    { tokens_whole := by decide +kernel
      aliases_free := by decide +kernel
      style_unopened := by decide +kernel
      markup_tidy := by decide +kernel }
  have isWorking : Text.of "loose" ∈ serializer.workingNames node := by
    decide +kernel
  have unresolved :
      (AliasTable.build (serializer.workingNames node)).aliasFor? (Text.of "loose") = none := by
    decide +kernel
  have often :
      ∀ element ∈ node.flatten,
        ∀ value ∈ ClassName.selected? serializer.settings.classAttributes element,
          serializer.registry.hashes.count (Text.of "loose") <
            (Text.words value).count (Text.of "loose") := by
    decide +kernel
  obtain ⟨-, -, keeps⟩ :=
    keeps_iff extracts isWorking unresolved isolates spells (fun _ => separates)
  refine keeps.mpr (Or.inr ?_)
  intro element isElement key value reads _
  exact often element isElement value reads.isSelected

/--
With default settings a name with a rule and without an alias is taken out of
the class value that has it once.
-/
theorem print_takes_out_name_with_rule :
    let serializer := ofOneRule true (Text.of "loose") looseStyles
    let node := paragraph (Text.of "loose")
    Text.of "loose" ∈ serializer.workingNames node ∧
      (Css.extract (serializer.workingNames node) looseStyles).toOption = some looseStyle ∧
        Text.of "loose" <:+: looseStyle ∧
          (AliasTable.build (serializer.workingNames node)).aliasFor? (Text.of "loose") = none ∧
            serializer.Isolates node (Text.of "loose") ∧
              (serializer.print node).2.toOption =
                some (looseStyle ++ Text.of "\n\n<p\n  class=\"\"\n/>") ∧
                ¬ serializer.Keeps node (Text.of "loose") looseStyle
                  (Text.of "<p\n  class=\"\"\n/>") := by
  intro serializer node
  have isolates : serializer.Isolates node (Text.of "loose") :=
    { from_hashes := by decide +kernel
      from_aliases := by decide +kernel
      from_attributes := by decide +kernel
      from_tokens := by decide +kernel }
  refine ⟨by decide +kernel, by decide +kernel, by decide +kernel, by decide +kernel, isolates,
    by decide +kernel, ?_⟩
  intro keeps
  have reads :
      ClassName.Reads serializer.settings.classAttributes node (Text.of "class")
        (Text.of "loose") :=
    ⟨by decide +kernel, by decide +kernel, by decide +kernel⟩
  have isToken : Text.of "loose" ∈ Text.words (Text.of "loose") := by
    decide +kernel
  obtain ⟨⟨index, place⟩, everywhere⟩ :=
    keeps.in_values node node.mem_flatten_self _ _ reads isToken
  obtain ⟨kept, keptPlace, isKept⟩ := everywhere index place
  have inParts :
      ∀ part ∈ Text.splitOn '"' (Text.of "<p\n  class=\"\"\n/>"),
        Text.of "loose" ∉ Text.words part := by
    decide +kernel
  exact inParts kept (List.mem_of_getElem? keptPlace.value) isKept

end Serializer

end StyledMarkup
