import StyledMarkup.Proofs.Alias.NameByName

namespace StyledMarkup

open List

/-!
# Where members come from

Reading a name adds one member to the segments or none: the name itself, or
what stands in front of its first delimiter.  Names that are read behind others
extend the last segment at its end, and the segments that they open are those
of these names alone.
-/

namespace Segment

/-- The members of all segments in their order. -/
def allMembers (segments : List Segment) : List Text := segments.flatMap Segment.members

theorem allMembers_append
    (first second : List Segment) :
    allMembers (first ++ second) = allMembers first ++ allMembers second :=
  List.flatMap_append

theorem extended_nil
    (segment : Segment) :
    segment.extended [] = segment := by
  simp [extended]

@[simp] theorem stem_extended
    (segment : Segment)
    (names : List Text) :
    (segment.extended names).stem = segment.stem :=
  rfl

@[simp] theorem suffix_extended
    (segment : Segment)
    (names : List Text) :
    (segment.extended names).suffix = segment.suffix :=
  rfl

theorem ofNames_eq_ofText_spread
    (names : List Text) :
    ofNames names = ofText (Text.spread names) := by
  rw [ofNames, Delimiter.occurrences_join, ofText]

end Segment

namespace Segmentation

open Segment

/-- Added members come behind those of the last segment, unless there is no open one. -/
theorem exists_addMembers
    (state : Segmentation)
    (names : List Text) :
    ∃ taken,
      taken.Sublist names ∧
        (state.addMembers names).segments = state.segments.modifyLast (·.extended taken) ∧
          allMembers (state.addMembers names).segments =
            allMembers state.segments ++ taken := by
  rcases state with ⟨segments, isOpen⟩
  rcases List.eq_nil_or_concat segments with rfl | ⟨earlier, last, rfl⟩
  · exact ⟨[], List.nil_sublist names, by cases isOpen <;> rfl, by cases isOpen <;> rfl⟩
  · cases isOpen with
    | false =>
        refine ⟨[], List.nil_sublist names, ?_, by simp [addMembers]⟩
        simp [addMembers, List.modifyLast_concat, extended_nil]
    | true =>
        refine ⟨names, List.Sublist.refl names, rfl, ?_⟩
        simp [addMembers, List.modifyLast_concat, allMembers, extended]

theorem allMembers_openSegment
    (state : Segmentation)
    (delimiter : Text) :
    allMembers (state.openSegment delimiter).segments = allMembers state.segments := by
  simp [openSegment, allMembers, opened]

/-- What follows a delimiter in its name adds no members. -/
theorem allMembers_readRest
    (state : Segmentation)
    (text : Text) :
    allMembers (state.readRest text).segments = allMembers state.segments := by
  induction text using Delimiter.occurrences.induct generalizing state with
  | case1 text isAbsent =>
      rw [readRest_of_none isAbsent]
  | case2 text before delimiter after isFirst inductionHypothesis =>
      rw [readRest_of_some isFirst, inductionHypothesis, allMembers_openSegment]

/-- A name adds its text up to the first delimiter as a member, or nothing. -/
theorem exists_allMembers_readName
    (state : Segmentation)
    (name : Text) :
    ∃ taken,
      taken.Sublist [Delimiter.gap name] ∧
        allMembers (state.readName name).segments = allMembers state.segments ++ taken := by
  rw [readName, Delimiter.gap]
  cases Delimiter.find? name with
  | none =>
      obtain ⟨taken, isTaken, -, members⟩ := exists_addMembers state [name]
      exact ⟨taken, isTaken, members⟩
  | some split =>
      obtain ⟨before, delimiter, after⟩ := split
      simp only [allMembers_readRest, allMembers_openSegment]
      split
      · exact ⟨[], List.nil_sublist _, by simp⟩
      · obtain ⟨taken, isTaken, -, members⟩ := exists_addMembers state [before]
        exact ⟨taken, isTaken, members⟩

/-- Names add at most one member each, in their order. -/
theorem exists_allMembers_foldl
    (state : Segmentation)
    (names : List Text) :
    ∃ taken,
      taken.Sublist (names.map Delimiter.gap) ∧
        allMembers (names.foldl readName state).segments =
          allMembers state.segments ++ taken := by
  induction names generalizing state with
  | nil =>
      exact ⟨[], List.Sublist.refl [], by simp⟩
  | cons name rest inductionHypothesis =>
      obtain ⟨here, isHere, membersHere⟩ := exists_allMembers_readName state name
      obtain ⟨later, isLater, membersLater⟩ := inductionHypothesis (state.readName name)
      refine ⟨here ++ later, isHere.append isLater, ?_⟩
      rw [List.foldl_cons, membersLater, membersHere, List.append_assoc]

/-- Names that are read behind others extend the last segment and open their own ones. -/
theorem segments_foldl_readName
    {names : List Text}
    (areWords : ∀ name ∈ names, name.IsWord)
    (state : Segmentation) :
    (names.foldl readName state).segments =
      (state.addMembers (Text.words (Delimiter.gap (Text.spread names)))).segments ++
        ofNames names := by
  rw [reads_of_areWords areWords, ofNames_eq_ofText_spread]

theorem segments_foldl_start
    {names : List Text}
    (areWords : ∀ name ∈ names, name.IsWord) :
    (names.foldl readName start).segments = ofNames names := by
  rw [segments_foldl_readName areWords]
  rfl

end Segmentation

namespace Segment

/--
The segments of names behind others: the last one of the others goes on with
some of the new names or their front parts, and then come the segments of the
new names, whose members are such names and front parts as well.
-/
theorem exists_ofNames_append
    {names added : List Text}
    (areWords : ∀ name ∈ names, name.IsWord)
    (addedWords : ∀ name ∈ added, name.IsWord) :
    ∃ taken,
      ofNames (names ++ added) =
          (ofNames names).modifyLast (·.extended taken) ++ ofNames added ∧
        (taken ++ allMembers (ofNames added)).Sublist (added.map Delimiter.gap) := by
  have allWords : ∀ name ∈ names ++ added, name.IsWord := by
    intro name isName
    rcases List.mem_append.mp isName with isOld | isAdded
    · exact areWords name isOld
    · exact addedWords name isAdded
  -- What the new names add is counted from the state behind the old ones, whatever it is.
  obtain ⟨state, isState⟩ : ∃ state, names.foldl Segmentation.readName .start = state := ⟨_, rfl⟩
  have before := Segmentation.segments_foldl_start areWords
  have behind := Segmentation.segments_foldl_start allWords
  rw [List.foldl_append, isState] at behind
  rw [isState] at before
  have reading := Segmentation.segments_foldl_readName addedWords state
  obtain ⟨taken, -, goesOn, members⟩ :=
    state.exists_addMembers (Text.words (Delimiter.gap (Text.spread added)))
  obtain ⟨allTaken, areTaken, allOf⟩ := state.exists_allMembers_foldl added
  refine ⟨taken, ?_, ?_⟩
  · rw [← behind, reading, goesOn, before]
  · rw [reading, allMembers_append, members, List.append_assoc] at allOf
    rwa [List.append_cancel_left allOf]

/-- The members of segments are names or front parts of names, each name gives one at most. -/
theorem allMembers_ofNames_sublist
    {names : List Text}
    (areWords : ∀ name ∈ names, name.IsWord) :
    (allMembers (ofNames names)).Sublist (names.map Delimiter.gap) := by
  obtain ⟨taken, isTaken, members⟩ := Segmentation.exists_allMembers_foldl .start names
  rw [Segmentation.segments_foldl_start areWords] at members
  have isAll : allMembers (ofNames names) = taken := members
  rwa [isAll]

end Segment

end StyledMarkup
