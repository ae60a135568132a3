import StyledMarkup.Proofs.Alias.Blocks
import Mathlib.Data.List.ModifyLast

namespace StyledMarkup

/-!
# Segments name by name

The segments of a list of names are found in the joined names.  A machine that
reads one name after the other finds the same ones: it searches each name on
its own and remembers whether the last segment still takes members.
-/

/-- The segments so far, and whether the names that follow belong to the last one. -/
structure Segmentation where
  segments : List Segment
  isOpen : Bool
deriving DecidableEq, Repr

namespace Segment

/-- The segment of a delimiter, with its first two parts between hyphens and no members. -/
def opened (delimiter : Text) : Segment :=
  let parts := Text.splitOn '-' delimiter
  ⟨parts.getD 0 [], parts.getD 1 [], []⟩

/-- The segment with more members behind its own. -/
def extended (segment : Segment) (names : List Text) : Segment :=
  { segment with members := segment.members ++ names }

/-- The segments in a text. -/
def ofText (text : Text) : List Segment :=
  (Delimiter.occurrences text).filterMap fun (delimiter, gap) => ofOccurrence delimiter gap

end Segment

namespace Segmentation

/-- Before the first name there is no segment. -/
def start : Segmentation := ⟨[], false⟩

/-- The last segment takes names if it is open. -/
def addMembers (state : Segmentation) (names : List Text) : Segmentation :=
  if state.isOpen then
    { state with segments := state.segments.modifyLast (·.extended names) }
  else state

/-- A delimiter starts a segment. -/
def openSegment (state : Segmentation) (delimiter : Text) : Segmentation :=
  ⟨state.segments ++ [Segment.opened delimiter], true⟩

/--
Reads what follows a delimiter in its name.  Every further delimiter starts a
segment, and the last one stays open only if the name ends with it.
-/
def readRest (state : Segmentation) (text : Text) : Segmentation :=
  match _ : Delimiter.find? text with
  | none => { state with isOpen := text.isEmpty }
  | some (_, delimiter, after) => (state.openSegment delimiter).readRest after
termination_by text.length
decreasing_by exact Delimiter.find?_length (by assumption)

/-- Reads a name: it is a member, or what stands before its first delimiter is one. -/
def readName (state : Segmentation) (name : Text) : Segmentation :=
  match Delimiter.find? name with
  | none => state.addMembers [name]
  | some (before, delimiter, after) =>
      let state := if before.isEmpty then state else state.addMembers [before]
      (state.openSegment delimiter).readRest after

end Segmentation

namespace Delimiter

theorem read?_append_blank_of_some
    {text found after : Text}
    (isFound : read? text = some (found, after))
    {blank : Char}
    (isBreak : isBlank blank = true)
    (rest : Text) :
    read? (text ++ blank :: rest) = some (found, after ++ blank :: rest) := by
  obtain ⟨head, component, suffix, parts, rfl, rfl, boundary⟩ := exists_parts_of_read? isFound
  rw [List.append_assoc]
  apply read?_written_append parts
  intro character isHead
  cases after with
  | nil =>
      obtain rfl : blank = character := by
        simpa using isHead
      by_contra alphanumeric
      have notBlank := isBlank_eq_false_of_isAlphanum (by simpa using alphanumeric)
      simp [notBlank] at isBreak
  | cons first more =>
      exact boundary character isHead

/-- A first delimiter is still the first one when the text goes on behind a blank. -/
theorem find?_append_blank_of_some
    {text before found after : Text}
    (isFirst : find? text = some (before, found, after))
    {blank : Char}
    (isBreak : isBlank blank = true)
    (rest : Text) :
    find? (text ++ blank :: rest) = some (before, found, after ++ blank :: rest) := by
  induction text generalizing before with
  | nil =>
      simp [find?] at isFirst
  | cons first more inductionHypothesis =>
      cases isRead : read? (first :: more) with
      | none =>
          have notHere := read?_append_blank_of_none isRead isBreak rest
          simp only [find?, isRead, Option.map_eq_some_iff, Prod.mk.injEq, Prod.exists] at isFirst
          obtain ⟨between, _, _, isInMore, rfl, rfl, rfl⟩ := isFirst
          rw [List.cons_append] at notHere
          simp only [List.cons_append, find?, notHere, inductionHypothesis isInMore,
            Option.map_some]
      | some result =>
          obtain ⟨delimiter, behind⟩ := result
          have isHere := read?_append_blank_of_some isRead isBreak rest
          rw [find?_of_read? isRead] at isFirst
          simp only [Option.some.injEq, Prod.mk.injEq] at isFirst
          obtain ⟨rfl, rfl, rfl⟩ := isFirst
          exact find?_of_read? isHere

/-- The first delimiter of a text is found in front of spread names as well. -/
theorem find?_append_spread_of_some
    {text before found after : Text}
    (isFirst : find? text = some (before, found, after))
    (names : List Text) :
    find? (text ++ Text.spread names) = some (before, found, after ++ Text.spread names) := by
  cases names with
  | nil =>
      simpa using isFirst
  | cons name rest =>
      rw [spread_cons]
      exact find?_append_blank_of_some isFirst isBlank_space _

theorem blankFree_of_find?
    {text before found after : Text}
    (isFirst : find? text = some (before, found, after))
    (blankFree : ∀ character ∈ text, isBlank character = false) :
    (∀ character ∈ before, isBlank character = false) ∧
      ∀ character ∈ after, isBlank character = false := by
  obtain ⟨shape, _⟩ := read?_of_find? isFirst
  constructor
  · intro character member
    apply blankFree
    simp [shape, member]
  · intro character member
    apply blankFree
    simp [shape, member]

theorem gap_cons_space
    (text : Text) :
    gap (' ' :: text) = ' ' :: gap text := by
  have nothing : find? [] = none := rfl
  exact gap_append_blank nothing isBlank_space text

theorem gap_append_spread_of_none
    {text : Text}
    (isAbsent : find? text = none)
    (names : List Text) :
    gap (text ++ Text.spread names) = text ++ gap (Text.spread names) := by
  cases names with
  | nil =>
      have nothing : find? [] = none := rfl
      simp [gap, isAbsent, nothing]
  | cons name rest =>
      rw [spread_cons, gap_append_blank isAbsent isBlank_space, gap_cons_space]

/-- A gap in front of spread names is empty or starts with a space. -/
theorem gap_spread
    (names : List Text) :
    gap (Text.spread names) = [] ∨ ∃ rest, gap (Text.spread names) = ' ' :: rest := by
  cases names with
  | nil =>
      exact Or.inl rfl
  | cons name rest =>
      refine Or.inr ⟨gap (name ++ Text.spread rest), ?_⟩
      rw [spread_cons, gap_cons_space]

end Delimiter

namespace Segment

theorem ofOccurrence_written
    {head component suffix : Text}
    (gap : Text) :
    ofOccurrence (Delimiter.written head component suffix) gap =
      some ((opened (Delimiter.written head component suffix)).extended (membersOf gap)) := by
  -- The hyphen behind the component leaves at least two parts.
  have parts :
      Text.splitOn '-' (Delimiter.written head component suffix) =
        Text.splitOn '-' (head ++ '_' :: '_' :: component) ++ Text.splitOn '-' suffix := by
    rw [Delimiter.written, Text.splitOn_append_cons]
  obtain ⟨stem, others, isStem⟩ :=
    List.exists_cons_of_ne_nil (Text.splitOn_ne_nil '-' (head ++ '_' :: '_' :: component))
  obtain ⟨last, more, isLast⟩ := List.exists_cons_of_ne_nil (Text.splitOn_ne_nil '-' suffix)
  rw [isStem, isLast] at parts
  cases others with
  | nil =>
      simp [ofOccurrence, opened, extended, parts]
  | cons second rest =>
      simp [ofOccurrence, opened, extended, parts]

theorem ofText_of_none
    {text : Text}
    (isAbsent : Delimiter.find? text = none) :
    ofText text = [] := by
  rw [ofText, Delimiter.occurrences_of_find?_eq_none isAbsent]
  rfl

/-- The first delimiter of a text opens its first segment. -/
theorem ofText_of_some
    {text before found after : Text}
    (isFirst : Delimiter.find? text = some (before, found, after)) :
    ofText text =
      (opened found).extended (membersOf (Delimiter.gap after)) :: ofText after := by
  obtain ⟨_, isRead⟩ := Delimiter.read?_of_find? isFirst
  obtain ⟨head, component, suffix, _, rfl, _, _⟩ := Delimiter.exists_parts_of_read? isRead
  simp only [ofText, Delimiter.occurrences_of_find?_eq_some isFirst, List.filterMap_cons,
    ofOccurrence_written]

theorem ofText_append_spread_of_none
    {text : Text}
    (isAbsent : Delimiter.find? text = none)
    (names : List Text) :
    ofText (text ++ Text.spread names) = ofText (Text.spread names) := by
  cases names with
  | nil =>
      rw [spread_nil, List.append_nil, ofText_of_none isAbsent]
      exact (ofText_of_none rfl).symm
  | cons name rest =>
      rw [spread_cons, ofText, Delimiter.occurrences_append_blank isAbsent isBlank_space, ofText,
        Delimiter.occurrences_cons_space]

theorem ofText_cons_space
    (text : Text) :
    ofText (' ' :: text) = ofText text := by
  rw [ofText, Delimiter.occurrences_cons_space, ofText]

/-- A gap that starts inside of a name has no members. -/
theorem membersOf_of_notBlank
    {first : Char}
    (notBlank : isBlank first = false)
    (rest : Text) :
    membersOf (first :: rest) = [] := by
  have notSpace : first ≠ ' ' := by
    rintro rfl
    simp [isBlank_space] at notBlank
  unfold membersOf
  split
  · rename_i same
    exact absurd (List.cons_eq_cons.mp same).1 notSpace
  · rfl

theorem membersOf_gap_spread
    (names : List Text) :
    membersOf (Delimiter.gap (Text.spread names)) =
      Text.words (Delimiter.gap (Text.spread names)) := by
  rcases Delimiter.gap_spread names with isEmpty | ⟨rest, isSpace⟩
  · rw [isEmpty]
    rfl
  · rw [isSpace, Text.words_cons_blank isBlank_space]
    rfl

end Segment

namespace Segmentation

/-- Members that come one after the other come together. -/
theorem addMembers_addMembers
    (state : Segmentation)
    (first second : List Text) :
    (state.addMembers first).addMembers second = state.addMembers (first ++ second) := by
  rcases state with ⟨segments, isOpen⟩
  cases isOpen with
  | false =>
      rfl
  | true =>
      rcases List.eq_nil_or_concat segments with rfl | ⟨earlier, last, rfl⟩
      · rfl
      · simp [addMembers, List.modifyLast_concat, Segment.extended]

theorem addMembers_nil
    (state : Segmentation) :
    state.addMembers [] = state := by
  rcases state with ⟨segments, isOpen⟩
  cases isOpen with
  | false =>
      rfl
  | true =>
      rcases List.eq_nil_or_concat segments with rfl | ⟨earlier, last, rfl⟩
      · rfl
      · simp [addMembers, List.modifyLast_concat, Segment.extended]

theorem readRest_of_none
    {text : Text}
    (isAbsent : Delimiter.find? text = none)
    (state : Segmentation) :
    state.readRest text = { state with isOpen := text.isEmpty } := by
  rw [readRest]
  split
  · rfl
  · rename_i isPresent
    simp [isAbsent] at isPresent

theorem readRest_of_some
    {text before found after : Text}
    (isFirst : Delimiter.find? text = some (before, found, after))
    (state : Segmentation) :
    state.readRest text = (state.openSegment found).readRest after := by
  rw [readRest]
  split
  · rename_i isAbsent
    simp [isFirst] at isAbsent
  · rename_i isPresent
    rw [isFirst] at isPresent
    simp only [Option.some.injEq, Prod.mk.injEq] at isPresent
    obtain ⟨-, rfl, rfl⟩ := isPresent
    rfl

/-- The names of a list are read as the segments in the text of these names. -/
def Reads (names : List Text) : Prop :=
  ∀ state : Segmentation,
    (names.foldl readName state).segments =
      (state.addMembers (Text.words (Delimiter.gap (Text.spread names)))).segments ++
        Segment.ofText (Text.spread names)

/-- Behind a delimiter, the rest of its name and the names that follow are read as one text. -/
theorem Reads.segments_readRest
    {names : List Text}
    (reads : Reads names)
    {text : Text}
    (blankFree : ∀ character ∈ text, isBlank character = false)
    (state : Segmentation)
    (delimiter : Text) :
    (names.foldl readName ((state.openSegment delimiter).readRest text)).segments =
      state.segments ++
        (Segment.opened delimiter).extended
            (Segment.membersOf (Delimiter.gap (text ++ Text.spread names))) ::
          Segment.ofText (text ++ Text.spread names) := by
  induction text using Delimiter.occurrences.induct generalizing state delimiter with
  | case1 text isAbsent =>
      rw [readRest_of_none isAbsent, reads, Segment.ofText_append_spread_of_none isAbsent,
        Delimiter.gap_append_spread_of_none isAbsent]
      cases text with
      | nil =>
          -- The name ends with the delimiter, so the names that follow are members.
          rw [List.nil_append, Segment.membersOf_gap_spread]
          simp [addMembers, openSegment, List.modifyLast_concat]
      | cons first rest =>
          have notBlank := blankFree first List.mem_cons_self
          rw [List.cons_append, Segment.membersOf_of_notBlank notBlank]
          simp [addMembers, openSegment, Segment.extended]
  | case2 text before next after isFirst inductionHypothesis =>
      obtain ⟨beforeBlankFree, afterBlankFree⟩ := Delimiter.blankFree_of_find? isFirst blankFree
      have isFirstHere := Delimiter.find?_append_spread_of_some isFirst names
      have gapShape : Delimiter.gap (text ++ Text.spread names) = before := by
        rw [Delimiter.gap, isFirstHere]
      -- What stands between two delimiters of one name belongs to no segment.
      have noMembers : Segment.membersOf before = [] := by
        cases before with
        | nil =>
            rfl
        | cons first rest =>
            exact Segment.membersOf_of_notBlank (beforeBlankFree first List.mem_cons_self) rest
      have later := inductionHypothesis afterBlankFree (state.openSegment delimiter) next
      rw [readRest_of_some isFirst, later, Segment.ofText_of_some isFirstHere, gapShape,
        noMembers]
      simp [openSegment, Segment.extended]

/-- Reading one name after the other finds the segments in the text of the names. -/
theorem reads_of_areWords
    {names : List Text}
    (areWords : ∀ name ∈ names, name.IsWord) :
    Reads names := by
  induction names with
  | nil =>
      intro state
      have noWords : Text.words (Delimiter.gap (Text.spread [])) = [] := rfl
      rw [noWords, addMembers_nil, spread_nil, Segment.ofText_of_none rfl, List.append_nil]
      rfl
  | cons name rest inductionHypothesis =>
      rw [List.forall_mem_cons] at areWords
      obtain ⟨word, restWords⟩ := areWords
      have reads := inductionHypothesis restWords
      intro state
      rw [List.foldl_cons, spread_cons, Delimiter.gap_cons_space, Segment.ofText_cons_space,
        Text.words_cons_blank isBlank_space, readName]
      cases isFirst : Delimiter.find? name with
      | none =>
          have gapWords :
              Text.words (name ++ Delimiter.gap (Text.spread rest)) =
                [name] ++ Text.words (Delimiter.gap (Text.spread rest)) := by
            rcases Delimiter.gap_spread rest with isEmpty | ⟨others, isSpace⟩
            · rw [isEmpty, List.append_nil, word.words_eq]
              rfl
            · rw [isSpace, Text.words_append_blank isBlank_space, word.words_eq,
                Text.words_cons_blank isBlank_space]
          rw [Segment.ofText_append_spread_of_none isFirst,
            Delimiter.gap_append_spread_of_none isFirst, gapWords, ← addMembers_addMembers]
          exact reads _
      | some split =>
          obtain ⟨before, delimiter, after⟩ := split
          obtain ⟨beforeBlankFree, afterBlankFree⟩ :=
            Delimiter.blankFree_of_find? isFirst word.blankFree
          have isFirstHere := Delimiter.find?_append_spread_of_some isFirst rest
          have added :
              (if before.isEmpty then state else state.addMembers [before]) =
                state.addMembers (Text.words before) := by
            rw [Text.words_of_blankFree beforeBlankFree]
            split
            · exact (addMembers_nil state).symm
            · rfl
          have gapShape : Delimiter.gap (name ++ Text.spread rest) = before := by
            rw [Delimiter.gap, isFirstHere]
          rw [gapShape, Segment.ofText_of_some isFirstHere, ← added]
          exact reads.segments_readRest afterBlankFree _ delimiter

end Segmentation

/-- The segments of the joined names are those that are read name by name. -/
theorem Segment.ofNames_eq_foldl_readName
    {names : List Text}
    (areWords : ∀ name ∈ names, name.IsWord) :
    Segment.ofNames names =
      (names.foldl Segmentation.readName Segmentation.start).segments := by
  have reads := Segmentation.reads_of_areWords areWords Segmentation.start
  have joined : Segment.ofNames names = Segment.ofText (Text.spread names) := by
    rw [ofNames, Delimiter.occurrences_join, ofText]
  rw [joined, reads]
  rfl

/-- Names that go on behind a delimiter, start before it or have two of them. -/
theorem Segment.ofNames_eq_foldl_readName_of_fragments :
    let names :=
      [Text.of "A__b-c", Text.of "x", Text.of "Btn__W-sc-1ab", Text.of "y", Text.of "C__d-e",
        Text.of "my_comp__W-abc", Text.of "D__e-f-G__h-i", Text.of "z"]
    let state := names.foldl Segmentation.readName Segmentation.start
    (∀ name ∈ names, name.IsWord) ∧
      Segment.ofNames names = state.segments ∧
        state.segments =
          [⟨Text.of "A__b", Text.of "c", [Text.of "x"]⟩, ⟨Text.of "Btn__W", Text.of "sc", []⟩,
            ⟨Text.of "C__d", Text.of "e", [Text.of "my_"]⟩,
            ⟨Text.of "comp__W", Text.of "abc", []⟩, ⟨Text.of "D__e", Text.of "f", []⟩,
            ⟨[], Text.of "G__h", [Text.of "z"]⟩] := by
  intro names state
  have areWords : ∀ name ∈ names, name.IsWord := by
    decide
  have segments := ofNames_eq_foldl_readName areWords
  refine ⟨areWords, segments, ?_⟩
  decide +kernel

end StyledMarkup
