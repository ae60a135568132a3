import StyledMarkup.Proofs.Alias.Delimiter
import StyledMarkup.Proofs.Text.Splitting

namespace StyledMarkup

/-!
# Names in blocks

Working names come as loose names and, after them, in blocks: a delimiter that
is a whole name, and the members of its component.  However the blocks of
several stems alternate, the segments of the names are these blocks.
-/

/-- A component identifier in its parts, and the names that follow it. -/
structure Block where
  head : Text
  component : Text
  suffix : Text
  members : List Text
deriving DecidableEq, Repr

namespace Block

/-- The stem: all of the identifier in front of its hyphen. -/
def stem (block : Block) : Text := block.head ++ '_' :: '_' :: block.component

/-- The identifier. -/
def delimiter (block : Block) : Text := block.stem ++ '-' :: block.suffix

/-- The names of the block in order. -/
def names (block : Block) : List Text := block.delimiter :: block.members

/-- The block as a segment. -/
def segment (block : Block) : Segment := ⟨block.stem, block.suffix, block.members⟩

/-- The identifier has its three parts, and its head has no hyphen. -/
structure IsNamed (block : Block) : Prop where
  head_ne_nil : block.head ≠ []
  head_chars :
    ∀ character ∈ block.head,
      character ≠ '_' ∧ character ≠ '-' ∧ isBlank character = false
  component_ne_nil : block.component ≠ []
  component_chars : ∀ character ∈ block.component, character.isAlphanum = true
  suffix_ne_nil : block.suffix ≠ []
  suffix_chars : ∀ character ∈ block.suffix, character.isAlphanum = true

instance (block : Block) : Decidable block.IsNamed :=
  decidable_of_iff
    (block.head ≠ [] ∧
      block.head.all (fun character =>
        character != '_' && character != '-' && isBlank character == false) = true ∧
      block.component ≠ [] ∧ block.component.all Char.isAlphanum = true ∧
      block.suffix ≠ [] ∧ block.suffix.all Char.isAlphanum = true)
    ⟨fun ⟨head, headChars, component, componentChars, suffix, suffixChars⟩ =>
        { head_ne_nil := head
          head_chars := by simpa [and_assoc] using headChars
          component_ne_nil := component
          component_chars := by simpa using componentChars
          suffix_ne_nil := suffix
          suffix_chars := by simpa using suffixChars },
      fun named =>
        ⟨named.head_ne_nil, by simpa [and_assoc] using named.head_chars,
          named.component_ne_nil, by simpa using named.component_chars,
          named.suffix_ne_nil, by simpa using named.suffix_chars⟩⟩

end Block

/-- Texts with a space in front of each. -/
def Text.spread (names : List Text) : Text := names.flatMap fun name => ' ' :: name

@[simp] theorem spread_nil :
    Text.spread [] = [] :=
  rfl

@[simp] theorem spread_cons
    (name : Text)
    (rest : List Text) :
    Text.spread (name :: rest) = ' ' :: (name ++ Text.spread rest) := by
  simp [Text.spread]

@[simp] theorem spread_append
    (first second : List Text) :
    Text.spread (first ++ second) = Text.spread first ++ Text.spread second := by
  simp [Text.spread]

/-- Joined names are a first name and spread names behind it. -/
theorem join_cons_eq_append_spread
    (first : Text)
    (rest : List Text) :
    Text.join [' '] (first :: rest) = first ++ Text.spread rest := by
  induction rest generalizing first with
  | nil =>
      simp [Text.join]
  | cons second others inductionHypothesis =>
      rw [Text.join_cons_of_ne_nil (by simp), inductionHypothesis]
      simp

/-- The words of spread words are these words. -/
theorem words_spread
    {names : List Text}
    (areWords : ∀ name ∈ names, name.IsWord) :
    Text.words (Text.spread names) = names := by
  cases names with
  | nil =>
      rfl
  | cons first rest =>
      rw [spread_cons, Text.words_cons_blank isBlank_space, ← join_cons_eq_append_spread,
        Text.words_join areWords]

namespace Delimiter

/-- Spread names without delimiters have no delimiter. -/
theorem find?_spread
    {names : List Text}
    (quiet : ∀ name ∈ names, find? name = none) :
    find? (Text.spread names) = none := by
  induction names with
  | nil =>
      rfl
  | cons first rest inductionHypothesis =>
      rw [List.forall_mem_cons] at quiet
      have quietRest := inductionHypothesis quiet.2
      rw [spread_cons, find?_cons_blank isBlank_space]
      cases rest with
      | nil =>
          simp [quiet.1]
      | cons second others =>
          rw [spread_cons, find?_cons_blank isBlank_space] at quietRest
          have quietOthers : find? (second ++ Text.spread others) = none := by
            simpa using quietRest
          rw [spread_cons, find?_append_blank quiet.1 isBlank_space, quietOthers]
          rfl

/-- A space in front of a text changes none of its occurrences. -/
theorem occurrences_cons_space
    (text : Text) :
    occurrences (' ' :: text) = occurrences text := by
  have nothing : find? [] = none := rfl
  exact occurrences_append_blank nothing isBlank_space text

/-- Joined names and spread names have the same occurrences. -/
theorem occurrences_join
    (names : List Text) :
    occurrences (Text.join [' '] names) = occurrences (Text.spread names) := by
  cases names with
  | nil =>
      rfl
  | cons first rest =>
      rw [join_cons_eq_append_spread, spread_cons, occurrences_cons_space]

/-- Names without delimiters in front of others do not change the occurrences. -/
theorem occurrences_spread_append
    {quiet : List Text}
    (areQuiet : ∀ name ∈ quiet, find? name = none)
    (others : List Text) :
    occurrences (Text.spread quiet ++ Text.spread others) = occurrences (Text.spread others) := by
  cases others with
  | nil =>
      rw [spread_nil, List.append_nil, occurrences_of_find?_eq_none (find?_spread areQuiet)]
      exact (occurrences_of_find?_eq_none rfl).symm
  | cons first rest =>
      rw [spread_cons, occurrences_append_blank (find?_spread areQuiet) isBlank_space,
        occurrences_cons_space]

end Delimiter

namespace Block

/-- A named block has the parts of a delimiter. -/
theorem IsNamed.isParts
    {block : Block}
    (named : block.IsNamed) :
    Delimiter.IsParts block.head block.component block.suffix where
  head_ne_nil := named.head_ne_nil
  head_chars := by
    intro character member
    obtain ⟨notUnderscore, -, notBlank⟩ := named.head_chars character member
    simp [Delimiter.isHeadChar, notUnderscore, notBlank]
  component_ne_nil := named.component_ne_nil
  component_chars := named.component_chars
  suffix_ne_nil := named.suffix_ne_nil
  suffix_chars := named.suffix_chars

/-- The identifier is written like a delimiter. -/
theorem delimiter_eq_written
    (block : Block) :
    block.delimiter = Delimiter.written block.head block.component block.suffix := by
  simp [delimiter, stem, Delimiter.written]

/-- The identifier is read in front of spread names. -/
theorem IsNamed.find?_delimiter_append
    {block : Block}
    (named : block.IsNamed)
    (others : List Text) :
    Delimiter.find? (block.delimiter ++ Text.spread others) =
      some ([], block.delimiter, Text.spread others) := by
  have boundary :
      ∀ character,
        (Text.spread others).head? = some character → character.isAlphanum = false := by
    intro character isHead
    cases others with
    | nil =>
        simp at isHead
    | cons first rest =>
        have isSpace : ' ' = character := by
          simpa using isHead
        subst character
        rfl
  rw [delimiter_eq_written]
  exact Delimiter.find?_of_read? (Delimiter.read?_written_append named.isParts boundary)

/-- There is no hyphen in the stem. -/
theorem IsNamed.hyphen_not_mem_stem
    {block : Block}
    (named : block.IsNamed) :
    '-' ∉ block.stem := by
  intro member
  simp only [stem, List.mem_append, List.mem_cons] at member
  rcases member with inHead | isUnderscore | isUnderscore | inComponent
  · exact (named.head_chars '-' inHead).2.1 rfl
  · exact absurd isUnderscore (by decide)
  · exact absurd isUnderscore (by decide)
  · exact absurd (named.component_chars '-' inComponent) (by decide)

/-- There is no hyphen in the suffix. -/
theorem IsNamed.hyphen_not_mem_suffix
    {block : Block}
    (named : block.IsNamed) :
    '-' ∉ block.suffix := by
  intro member
  exact absurd (named.suffix_chars '-' member) (by decide)

/-- The identifier is split into the stem and the suffix. -/
theorem IsNamed.splitOn_delimiter
    {block : Block}
    (named : block.IsNamed) :
    Text.splitOn '-' block.delimiter = [block.stem, block.suffix] := by
  rw [delimiter, Text.splitOn_append_separator named.hyphen_not_mem_stem,
    Text.splitOn_of_not_mem named.hyphen_not_mem_suffix]

end Block

namespace Segment

/-- All words of a text that starts with a space are members. -/
theorem membersOf_spread_append
    {members : List Text}
    (areWords : ∀ member ∈ members, member.IsWord)
    {ending : Text}
    (isEnding : ending = [] ∨ ending = [' ']) :
    membersOf (Text.spread members ++ ending) = members := by
  have wordsOf : Text.words (Text.spread members ++ ending) = members := by
    rcases isEnding with rfl | rfl
    · rw [List.append_nil, words_spread areWords]
    · rw [Text.words_append_blank isBlank_space, words_spread areWords]
      exact List.append_nil members
  cases members with
  | nil =>
      rcases isEnding with rfl | rfl <;> rfl
  | cons first rest =>
      rw [spread_cons, List.cons_append, Text.words_cons_blank isBlank_space] at wordsOf
      rw [spread_cons, List.cons_append, membersOf, wordsOf]

/-- The identifier of a block opens a segment with its members, up to the next block. -/
theorem ofOccurrence_block
    {block : Block}
    (named : block.IsNamed)
    (areWords : ∀ member ∈ block.members, member.IsWord)
    (quiet : ∀ member ∈ block.members, Delimiter.find? member = none)
    {others : List Block}
    (othersNamed : ∀ other ∈ others, other.IsNamed) :
    ofOccurrence block.delimiter
        (Delimiter.gap (Text.spread block.members ++ Text.spread (others.flatMap Block.names))) =
      some block.segment := by
  have gapShape :
      ∃ ending,
        Delimiter.gap (Text.spread block.members ++ Text.spread (others.flatMap Block.names)) =
            Text.spread block.members ++ ending ∧
          (ending = [] ∨ ending = [' ']) := by
    cases others with
    | nil =>
        refine ⟨[], ?_, Or.inl rfl⟩
        simp [Delimiter.gap, Delimiter.find?_spread quiet]
    | cons next rest =>
        refine ⟨[' '], ?_, Or.inr rfl⟩
        have nextNamed : next.IsNamed := othersNamed next (by simp)
        rw [List.flatMap_cons, Block.names, List.cons_append, spread_cons,
          Delimiter.gap_append_blank (Delimiter.find?_spread quiet) isBlank_space,
          Delimiter.gap, nextNamed.find?_delimiter_append]
  obtain ⟨ending, shape, isEnding⟩ := gapShape
  rw [ofOccurrence, named.splitOn_delimiter, shape]
  simp only [membersOf_spread_append areWords isEnding]
  rfl

/-- The segments of blocks in a row are these blocks. -/
theorem filterMap_occurrences_blocks
    {blocks : List Block}
    (named : ∀ block ∈ blocks, block.IsNamed)
    (areWords : ∀ block ∈ blocks, ∀ member ∈ block.members, member.IsWord)
    (quiet : ∀ block ∈ blocks, ∀ member ∈ block.members, Delimiter.find? member = none) :
    ((Delimiter.occurrences (Text.spread (blocks.flatMap Block.names))).filterMap
        fun (delimiter, gap) => ofOccurrence delimiter gap) =
      blocks.map Block.segment := by
  induction blocks with
  | nil =>
      rw [List.flatMap_nil, spread_nil, Delimiter.occurrences_of_find?_eq_none rfl]
      rfl
  | cons block others inductionHypothesis =>
      rw [List.forall_mem_cons] at named areWords quiet
      have search := named.1.find?_delimiter_append (block.members ++ others.flatMap Block.names)
      rw [spread_append] at search
      have opens := ofOccurrence_block named.1 areWords.1 quiet.1 named.2
      rw [List.flatMap_cons, Block.names, List.cons_append, spread_cons, spread_append,
        Delimiter.occurrences_cons_space, Delimiter.occurrences_of_find?_eq_some search]
      simp only [List.filterMap_cons, opens, List.map_cons]
      rw [Delimiter.occurrences_spread_append quiet.1,
        inductionHypothesis named.2 areWords.2 quiet.2]

/-- The segments of loose names and blocks behind them are these blocks. -/
theorem ofNames_blocks
    {loose : List Text}
    {blocks : List Block}
    (named : ∀ block ∈ blocks, block.IsNamed)
    (areWords : ∀ block ∈ blocks, ∀ member ∈ block.members, member.IsWord)
    (quietLoose : ∀ name ∈ loose, Delimiter.find? name = none)
    (quiet : ∀ block ∈ blocks, ∀ member ∈ block.members, Delimiter.find? member = none) :
    ofNames (loose ++ blocks.flatMap Block.names) = blocks.map Block.segment := by
  rw [ofNames, Delimiter.occurrences_join, spread_append,
    Delimiter.occurrences_spread_append quietLoose,
    filterMap_occurrences_blocks named areWords quiet]

end Segment

end StyledMarkup
