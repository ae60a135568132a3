import StyledMarkup.Text.Blank

namespace StyledMarkup

/-!
# Delimiters

A class name such as `Button__Wrapper-abc` names a component.  Delimiters are
found anywhere in the space-joined class names, from left to right.  A
delimiter has a head without blanks and underscores, two underscores, letters
and digits, a hyphen, and again letters and digits; each part is as long as
possible.
-/

namespace Delimiter

/-- Characters of the head of a delimiter. -/
def isHeadChar (c : Char) : Bool := c != '_' && ! isBlank c

/-- The delimiter at the front of a text and the text after it. -/
def read? (text : Text) : Option (Text × Text) :=
  let head := text.takeWhile isHeadChar
  match head, text.dropWhile isHeadChar with
  | _ :: _, '_' :: '_' :: rest =>
      let component := rest.takeWhile Char.isAlphanum
      match component, rest.dropWhile Char.isAlphanum with
      | _ :: _, '-' :: rest =>
          let suffix := rest.takeWhile Char.isAlphanum
          match suffix with
          | _ :: _ =>
              some (head ++ '_' :: '_' :: component ++ '-' :: suffix,
                rest.dropWhile Char.isAlphanum)
          | [] => none
      | _, _ => none
  | _, _ => none

/-- The first delimiter of a text, the text before and the text after it. -/
def find? : Text → Option (Text × Text × Text)
  | [] => none
  | first :: rest =>
      match read? (first :: rest) with
      | some (found, after) => some ([], found, after)
      | none => (find? rest).map fun (before, found, after) => (first :: before, found, after)

/-- The text up to the next delimiter. -/
def gap (text : Text) : Text :=
  match find? text with
  | some (before, _, _) => before
  | none => text

theorem read?_length
    {text found after : Text}
    (isFound : read? text = some (found, after)) :
    after.length < text.length := by
  simp only [read?] at isFound
  split at isFound
  · rename_i first more rest _ dropped
    have shorter := (List.dropWhile_sublist (p := isHeadChar) (l := text)).length_le
    rw [dropped] at shorter
    split at isFound
    · rename_i secondRest _ droppedNext
      have shorterNext := (List.dropWhile_sublist (p := Char.isAlphanum) (l := rest)).length_le
      rw [droppedNext] at shorterNext
      split at isFound
      · simp only [Option.some.injEq, Prod.mk.injEq] at isFound
        have shortest := (List.dropWhile_sublist (p := Char.isAlphanum) (l := secondRest)).length_le
        rw [isFound.2] at shortest
        simp only [List.length_cons] at shorter shorterNext
        omega
      · exact absurd isFound (by simp)
    · exact absurd isFound (by simp)
  · exact absurd isFound (by simp)

theorem find?_length
    {text before found after : Text}
    (isFound : find? text = some (before, found, after)) :
    after.length < text.length := by
  induction text generalizing before found with
  | nil =>
      simp [find?] at isFound
  | cons first rest inductionHypothesis =>
      simp only [find?] at isFound
      split at isFound
      · rename_i isRead
        simp only [Option.some.injEq, Prod.mk.injEq] at isFound
        obtain ⟨_, _, rfl⟩ := isFound
        exact read?_length isRead
      · simp only [Option.map_eq_some_iff, Prod.mk.injEq, Prod.exists] at isFound
        obtain ⟨inner, innerFound, innerAfter, isInner, _, _, rfl⟩ := isFound
        have shorter := inductionHypothesis isInner
        simp only [List.length_cons]
        omega

/-- All delimiters of a text from left to right, each with the text up to the next one. -/
def occurrences (text : Text) : List (Text × Text) :=
  match _ : find? text with
  | none => []
  | some (_, found, after) => (found, gap after) :: occurrences after
termination_by text.length
decreasing_by exact find?_length (by assumption)

end Delimiter

end StyledMarkup
