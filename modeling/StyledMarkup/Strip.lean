import StyledMarkup.Text.Blank

namespace StyledMarkup

/-!
# Stripping hashes

Generated class names that were not renamed are removed from the class
attributes of the markup, each at most once from every value.
-/

namespace Strip

/-- The text up to the next quote, with the quote, and the text after it. -/
def throughQuote? : Text → Option (Text × Text)
  | [] => none
  | first :: rest =>
      if first = '"' then some (['"'], rest)
      else (throughQuote? rest).map fun (value, after) => (first :: value, after)

/-- The text without a blank at its front. -/
def afterBlank : Text → Text
  | [] => []
  | first :: rest => if isBlank first then rest else first :: rest

/-- A value without the first occurrence of the hash and one blank after it.

The value ends with the next quote after the hash; the text after it comes
second. -/
def cutFromValue? (hash : Text) : Text → Option (Text × Text)
  | [] => none
  | first :: rest =>
      let here :=
        if hash.isPrefixOf (first :: rest) then
          throughQuote? (afterBlank ((first :: rest).drop hash.length))
        else none
      match here with
      | some result => some result
      | none =>
          if first = '"' then none
          else (cutFromValue? hash rest).map fun (value, after) => (first :: value, after)

/-- The attribute at the front of a text, its value without the hash, and the text after it. -/
def cutFromAttribute? (hash : Text) : List Text → Text → Option (Text × Text)
  | [], _ => none
  | name :: names, text =>
      let opening := name ++ Text.of "=\""
      let here :=
        if opening.isPrefixOf text then
          (cutFromValue? hash (text.drop opening.length)).map fun (value, after) =>
            (opening ++ value, after)
        else none
      match here with
      | some result => some result
      | none => cutFromAttribute? hash names text

theorem throughQuote?_length
    {text value after : Text}
    (isFound : throughQuote? text = some (value, after)) :
    after.length < text.length := by
  induction text generalizing value with
  | nil =>
      simp [throughQuote?] at isFound
  | cons first rest inductionHypothesis =>
      simp only [throughQuote?] at isFound
      split at isFound
      · simp only [Option.some.injEq, Prod.mk.injEq] at isFound
        obtain ⟨_, rfl⟩ := isFound
        simp
      · simp only [Option.map_eq_some_iff, Prod.mk.injEq, Prod.exists] at isFound
        obtain ⟨inner, innerAfter, isInner, _, rfl⟩ := isFound
        have shorter := inductionHypothesis isInner
        simp only [List.length_cons]
        omega

theorem afterBlank_length
    (text : Text) :
    (afterBlank text).length ≤ text.length := by
  cases text with
  | nil =>
      exact Nat.le_refl _
  | cons first rest =>
      simp only [afterBlank]
      split <;> simp

theorem cutFromValue?_length
    {hash text value after : Text}
    (isFound : cutFromValue? hash text = some (value, after)) :
    after.length < text.length := by
  induction text generalizing value with
  | nil =>
      simp [cutFromValue?] at isFound
  | cons first rest inductionHypothesis =>
      simp only [cutFromValue?] at isFound
      split at isFound
      · rename_i isHere
        simp only [Option.some.injEq] at isFound
        subst isFound
        split at isHere
        · have shorter := throughQuote?_length isHere
          have blank := afterBlank_length ((first :: rest).drop hash.length)
          simp only [List.length_drop] at blank
          omega
        · exact absurd isHere (by simp)
      · split at isFound
        · exact absurd isFound (by simp)
        · simp only [Option.map_eq_some_iff, Prod.mk.injEq, Prod.exists] at isFound
          obtain ⟨inner, innerAfter, isInner, _, rfl⟩ := isFound
          have shorter := inductionHypothesis isInner
          simp only [List.length_cons]
          omega

theorem cutFromAttribute?_length
    {hash : Text}
    {attributes : List Text}
    {text cut after : Text}
    (isFound : cutFromAttribute? hash attributes text = some (cut, after)) :
    after.length < text.length := by
  induction attributes with
  | nil =>
      simp [cutFromAttribute?] at isFound
  | cons name rest inductionHypothesis =>
      simp only [cutFromAttribute?] at isFound
      split at isFound
      · rename_i isHere
        simp only [Option.some.injEq] at isFound
        subst isFound
        split at isHere
        · simp only [Option.map_eq_some_iff, Prod.mk.injEq, Prod.exists] at isHere
          obtain ⟨inner, innerAfter, isInner, _, rfl⟩ := isHere
          have shorter := cutFromValue?_length isInner
          simp only [List.length_drop] at shorter
          omega
        · exact absurd isHere (by simp)
      · exact inductionHypothesis isFound

/-- Removes a hash from every attribute value, from left to right. -/
def hashFrom (attributes : List Text) (hash : Text) : Text → Text
  | [] => []
  | first :: rest =>
      match _ : cutFromAttribute? hash attributes (first :: rest) with
      | some (cut, after) => cut ++ hashFrom attributes hash after
      | none => first :: hashFrom attributes hash rest
termination_by text => text.length
decreasing_by
  · exact cutFromAttribute?_length (by assumption)
  · simp

/-- Removes all hashes, one after the other, from the values of the attributes. -/
def hashes (attributes : List Text) (hashes : List Text) (text : Text) : Text :=
  if attributes.isEmpty then text
  else
    hashes.foldl
      (fun text hash =>
        if hash.isEmpty || ! Text.occursIn hash text then text else hashFrom attributes hash text)
      text

end Strip

end StyledMarkup
