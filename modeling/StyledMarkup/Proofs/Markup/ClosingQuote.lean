import StyledMarkup.Proofs.Markup.Escape

namespace StyledMarkup

/-!
# The quote that closes a value

A backslash escapes the character behind it unless it is escaped itself, so a
quote is escaped exactly if the backslashes directly in front of it are odd in
number.  Reading a value in quotes stops at the first quote that is not
escaped.  In a printed text prop this is the quote that was written to close
it, whatever backslashes and quotes the text has, and taking the escapes back
gives the text.
-/

namespace Markup

/-- The number of backslashes a text ends with. -/
def backslashesAtEnd (front : Text) : Nat :=
  (front.reverse.takeWhile (· == '\\')).length

/-- One of the backslashes at the end has no partner and escapes what stands behind the text. -/
def EscapesNext (front : Text) : Prop :=
  backslashesAtEnd front % 2 = 1

/-- What stands between an opening quote and the first quote behind it that is not escaped. -/
structure IsEnclosed (inside : Text) : Prop where
  escaped :
    ∀ {front rest : Text}, inside = front ++ '"' :: rest → EscapesNext front
  closed : ¬ EscapesNext inside

/-- The text without the backslash of each escape. -/
def unescape : Text → Text
  | [] => []
  | '\\' :: character :: rest => character :: unescape rest
  | character :: rest => character :: unescape rest

/-- Behind backslashes in pairs only those that follow count. -/
theorem escapesNext_append_iff
    {left : Text}
    (paired : ¬ EscapesNext left)
    (right : Text) :
    EscapesNext (left ++ right) ↔ EscapesNext right := by
  simp only [EscapesNext, backslashesAtEnd] at paired ⊢
  rw [List.reverse_append, List.takeWhile_append]
  split
  · rename_i onlyBackslashes
    rw [List.length_append]
    omega
  · rfl

theorem not_escapesNext_nil : ¬ EscapesNext [] := by
  simp [EscapesNext, backslashesAtEnd]

namespace IsEnclosed

theorem nil : IsEnclosed [] where
  escaped := by
    intro front rest shape
    simp at shape
  closed := not_escapesNext_nil

theorem singleton
    {character : Char}
    (notQuote : character ≠ '"')
    (notBackslash : character ≠ '\\') :
    IsEnclosed [character] where
  escaped := by
    intro front rest shape
    have quoteInside : '"' ∈ [character] := by
      simp [shape]
    exact absurd (List.mem_singleton.mp quoteInside).symm notQuote
  closed := by
    simp [EscapesNext, backslashesAtEnd, notBackslash]

/-- An escape counts as one: a quote in it does not close, and a backslash in it is paired. -/
theorem escape
    (character : Char) :
    IsEnclosed ['\\', character] where
  escaped := by
    intro front rest shape
    rcases List.cons_eq_append_iff.mp shape with ⟨-, atBackslash⟩ | ⟨more, rfl, behind⟩
    · simp at atBackslash
    · rcases List.cons_eq_append_iff.mp behind with ⟨rfl, -⟩ | ⟨last, rfl, atEnd⟩
      · simp [EscapesNext, backslashesAtEnd]
      · simp at atEnd
  closed := by
    by_cases isBackslash : character = '\\'
    · simp [EscapesNext, backslashesAtEnd, isBackslash]
    · simp [EscapesNext, backslashesAtEnd, isBackslash]

theorem append
    {left right : Text}
    (leftEnclosed : IsEnclosed left)
    (rightEnclosed : IsEnclosed right) :
    IsEnclosed (left ++ right) where
  escaped := by
    intro front rest shape
    rcases List.append_eq_append_iff.mp shape with
        ⟨between, rfl, inRight⟩ | ⟨between, inLeft, quoteShape⟩
    · rw [escapesNext_append_iff leftEnclosed.closed]
      exact rightEnclosed.escaped inRight
    · rcases List.cons_eq_append_iff.mp quoteShape with ⟨-, atStart⟩ | ⟨more, rfl, -⟩
      · have startEscapes : EscapesNext [] := rightEnclosed.escaped atStart
        exact absurd startEscapes not_escapesNext_nil
      · exact leftEnclosed.escaped inLeft
  closed := by
    rw [escapesNext_append_iff leftEnclosed.closed]
    exact rightEnclosed.closed

end IsEnclosed

/-- Reading stops at the first quote that is not escaped, and takes the escapes back. -/
theorem exists_enclosed_of_readQuoted?
    {text value after : Text}
    (isRead : readQuoted? text = some (value, after)) :
    ∃ inside,
      text = inside ++ '"' :: after ∧ IsEnclosed inside ∧ unescape inside = value := by
  induction text using readQuoted?.induct generalizing value with
  | case1 =>
      simp [readQuoted?] at isRead
  | case2 rest =>
      rw [readQuoted?, Option.some.injEq, Prod.mk.injEq] at isRead
      obtain ⟨rfl, rfl⟩ := isRead
      exact ⟨[], rfl, .nil, rfl⟩
  | case3 character rest inductionHypothesis =>
      rw [readQuoted?, Option.map_eq_some_iff] at isRead
      obtain ⟨⟨restValue, behind⟩, restRead, same⟩ := isRead
      obtain ⟨rfl, rfl⟩ := Prod.mk.inj same
      obtain ⟨inside, rfl, enclosed, rfl⟩ := inductionHypothesis restRead
      have stands := IsEnclosed.escape character
      exact ⟨'\\' :: character :: inside, rfl, stands.append enclosed, rfl⟩
  | case4 character rest notQuote notEscape inductionHypothesis =>
      rw [readQuoted?.eq_4 _ _ notQuote notEscape, Option.map_eq_some_iff] at isRead
      obtain ⟨⟨restValue, behind⟩, restRead, same⟩ := isRead
      obtain ⟨rfl, rfl⟩ := Prod.mk.inj same
      obtain ⟨inside, rfl, enclosed, rfl⟩ := inductionHypothesis restRead
      -- A backslash here would be the last character, but the closing quote follows.
      have notBackslash : character ≠ '\\' := by
        intro isBackslash
        cases inside with
        | nil =>
            exact notEscape _ _ isBackslash rfl
        | cons first more =>
            exact notEscape _ _ isBackslash rfl
      have stands := IsEnclosed.singleton notQuote notBackslash
      refine ⟨character :: inside, rfl, stands.append enclosed, ?_⟩
      rw [unescape]
      exact fun _ _ isBackslash _ => notBackslash isBackslash

/-- A printed text prop tells where it ends and which text it was. -/
theorem propValue_text_delimits_itself
    (value other after otherAfter : Text) :
    (propValue (.text value) ++ after = propValue (.text other) ++ otherAfter ↔
        value = other ∧ after = otherAfter) ∧
      ∃ inside,
        propValue (.text value) = '"' :: inside ++ ['"'] ∧
          IsEnclosed inside ∧ unescape inside = value := by
  constructor
  · constructor
    · intro same
      apply escapeProp_append_quote_inj
      simpa [propValue] using same
    · rintro ⟨rfl, rfl⟩
      rfl
  · obtain ⟨inside, shape, enclosed, undone⟩ :=
      exists_enclosed_of_readQuoted? (readQuoted?_escapeProp value [])
    refine ⟨inside, ?_, enclosed, undone⟩
    rw [propValue, List.cons_append, List.cons_append, shape]

end Markup

end StyledMarkup
