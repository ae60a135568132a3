import StyledMarkup.Proofs.Strip.Values
import Mathlib.Data.List.Forall2

namespace StyledMarkup.Strip

open List

/-!
# One pass over the quotes

Stripping reads the parts of a text from left to right and remembers whether
the quote behind the last part opened a value.  An opened part that has the
hash loses it and opens nothing itself, every other part stays, and what stands
behind the last quote is no value.
-/

/-- The quote behind a part opens a value; behind a value that loses the hash it does not. -/
def opensBehind (attributes : List Text) (hash : Text) (opened : Bool) (part : Text) : Bool :=
  ! (opened && Text.occursIn hash part) && opens attributes part

/-- Parts that are followed by quotes, with the hash taken out of those that are opened. -/
def pass (attributes : List Text) (hash : Text) : Bool → List Text → List Text
  | _, [] => []
  | opened, part :: rest =>
      (if opened then removeFirst hash part else part) ::
        pass attributes hash (opensBehind attributes hash opened part) rest

/-- No part that is opened has the hash. -/
def Spared (attributes : List Text) (hash : Text) : Bool → List Text → Prop
  | _, [] => True
  | opened, part :: rest =>
      (opened = true → ¬ hash <:+: part) ∧ Spared attributes hash (opens attributes part) rest

/-- Whether a hash is in an opened part is decided part by part. -/
def decideSpared (attributes : List Text) (hash : Text) :
    (opened : Bool) → (parts : List Text) → Decidable (Spared attributes hash opened parts)
  | _, [] => isTrue trivial
  | opened, part :: rest =>
      have := decideSpared attributes hash (opens attributes part) rest
      inferInstanceAs (Decidable
        ((opened = true → ¬ hash <:+: part) ∧
          Spared attributes hash (opens attributes part) rest))

instance (attributes : List Text) (hash : Text) (opened : Bool) :
    DecidablePred (Spared attributes hash opened) :=
  decideSpared attributes hash opened

/-- The parts of a text that a quote follows. -/
def closedParts (text : Text) : List Text := (Text.splitOn '"' text).dropLast

/-- The hash is in no value that the text opens and closes. -/
def Spares (attributes : List Text) (hash text : Text) : Prop :=
  Spared attributes hash false (closedParts text)

instance (attributes : List Text) (hash : Text) : DecidablePred (Spares attributes hash) :=
  fun text => inferInstanceAs (Decidable (Spared attributes hash false (closedParts text)))

/-- A quote closes all parts in front of it. -/
theorem closedParts_append_quote
    (left right : Text) :
    closedParts (left ++ '"' :: right) = Text.splitOn '"' left ++ closedParts right := by
  rw [closedParts, Text.splitOn_append_cons,
    List.dropLast_append_of_ne_nil (Text.splitOn_ne_nil '"' right), closedParts]

/-- The parts of a text are those that a quote follows and a last one. -/
theorem exists_splitOn_eq_closedParts
    (text : Text) :
    ∃ last, Text.splitOn '"' text = closedParts text ++ [last] :=
  ⟨_, (List.dropLast_append_getLast (Text.splitOn_ne_nil '"' text)).symm⟩

/-- A quote in front of a part hides what stands before it. -/
theorem opens_append_quote
    {attributes : List Text}
    (attributesQuoteFree : ∀ name ∈ attributes, '"' ∉ name)
    (left right : Text) :
    opens attributes (left ++ '"' :: right) = opens attributes right := by
  rw [Bool.eq_iff_iff]
  simp only [opens, List.any_eq_true, List.isSuffixOf_iff_suffix]
  refine exists_congr fun name => and_congr_right fun isName => ?_
  have quoteFree : '"' ∉ name ++ ['='] := by
    simp [attributesQuoteFree name isName]
  constructor
  · rintro ⟨before, shape⟩
    rcases List.append_eq_append_iff.mp shape with
        ⟨more, _, openingShape⟩ | ⟨between, _, rightShape⟩
    · exact absurd (openingShape ▸ by simp) quoteFree
    · cases between with
      | nil =>
          exact absurd (rightShape ▸ by simp) quoteFree
      | cons quote between =>
          exact ⟨between, (List.cons_eq_cons.mp rightShape).2.symm⟩
  · intro isSuffix
    exact isSuffix.trans ((List.suffix_cons '"' right).trans (List.suffix_append left _))

/-- What the last part of a text opens is what the text opens. -/
theorem foldl_opens_splitOn
    {attributes : List Text}
    (attributesQuoteFree : ∀ name ∈ attributes, '"' ∉ name)
    (opened : Bool)
    (text : Text) :
    (Text.splitOn '"' text).foldl (fun _ part => opens attributes part) opened =
      opens attributes text := by
  induction text using Text.induction_on_separator '"' generalizing opened with
  | whole text quoteFree =>
      rw [Text.splitOn_of_not_mem quoteFree]
      rfl
  | parted left right quoteFree inductionHypothesis =>
      rw [Text.splitOn_append_separator quoteFree, List.foldl_cons, inductionHypothesis,
        opens_append_quote attributesQuoteFree]

section Pass

variable {attributes : List Text} {hash : Text}

theorem length_pass
    (opened : Bool)
    (parts : List Text) :
    (pass attributes hash opened parts).length = parts.length := by
  induction parts generalizing opened with
  | nil =>
      rfl
  | cons part rest inductionHypothesis =>
      simp [pass, inductionHypothesis]

theorem pass_append
    (opened : Bool)
    (left right : List Text) :
    pass attributes hash opened (left ++ right) =
      pass attributes hash opened left ++
        pass attributes hash (left.foldl (opensBehind attributes hash) opened) right := by
  induction left generalizing opened with
  | nil =>
      rfl
  | cons part rest inductionHypothesis =>
      simp [pass, inductionHypothesis]

theorem spared_append
    (opened : Bool)
    (left right : List Text) :
    Spared attributes hash opened (left ++ right) ↔
      Spared attributes hash opened left ∧
        Spared attributes hash
          (left.foldl (fun _ part => opens attributes part) opened) right := by
  induction left generalizing opened with
  | nil =>
      simp [Spared]
  | cons part rest inductionHypothesis =>
      simp [Spared, inductionHypothesis, and_assoc]

/-- A value that has the hash gets shorter. -/
theorem length_removeFirst_lt
    (nonempty : hash ≠ [])
    {value : Text}
    (occurs : hash <:+: value) :
    (removeFirst hash value).length < value.length := by
  induction value with
  | nil =>
      exact absurd (List.infix_nil.mp occurs) nonempty
  | cons first rest inductionHypothesis =>
      rw [removeFirst]
      by_cases isHere : hash.isPrefixOf (first :: rest) = true
      · have blank := afterBlank_length ((first :: rest).drop hash.length)
        have positive : 0 < hash.length := List.length_pos_iff.mpr nonempty
        have fits := (List.isPrefixOf_iff_prefix.mp isHere).length_le
        rw [List.length_drop] at blank
        rw [if_pos isHere]
        omega
      · have notHere : ¬ hash <+: first :: rest := by
          rwa [← List.isPrefixOf_iff_prefix]
        have inRest := (List.infix_cons_iff.mp occurs).resolve_left notHere
        have shorter := inductionHypothesis inRest
        rw [if_neg isHere]
        simpa using shorter

theorem removeFirst_eq_self_iff
    (nonempty : hash ≠ [])
    {value : Text} :
    removeFirst hash value = value ↔ ¬ hash <:+: value := by
  constructor
  · intro same occurs
    have shorter := length_removeFirst_lt nonempty occurs
    rw [same] at shorter
    exact Nat.lt_irrefl _ shorter
  · exact removeFirst_of_absent

theorem opensBehind_of_absent
    {opened : Bool}
    {part : Text}
    (absent : opened = true → ¬ hash <:+: part) :
    opensBehind attributes hash opened part = opens attributes part := by
  cases opened with
  | false =>
      simp [opensBehind]
  | true =>
      have notThere : ¬ Text.occursIn hash part = true := by
        rw [Text.occursIn_eq_true_iff]
        exact absent rfl
      simp [opensBehind, notThere]

/-- A pass changes nothing exactly if no value has the hash. -/
theorem pass_eq_self_iff
    (nonempty : hash ≠ [])
    (opened : Bool)
    (parts : List Text) :
    pass attributes hash opened parts = parts ↔
      Spared attributes hash opened parts := by
  induction parts generalizing opened with
  | nil =>
      simp [pass, Spared]
  | cons part rest inductionHypothesis =>
      have stays :
          (if opened then removeFirst hash part else part) = part ↔
            (opened = true → ¬ hash <:+: part) := by
        cases opened with
        | false =>
            simp
        | true =>
            simpa using removeFirst_eq_self_iff nonempty
      rw [pass, List.cons_eq_cons, stays, Spared]
      refine and_congr_right fun absent => ?_
      rw [opensBehind_of_absent absent, inductionHypothesis]

/-- Where no value has the hash, the pass opens what the parts open. -/
theorem Spared.foldl_opensBehind
    {opened : Bool}
    {parts : List Text}
    (spared : Spared attributes hash opened parts) :
    parts.foldl (opensBehind attributes hash) opened =
      parts.foldl (fun _ part => opens attributes part) opened := by
  induction parts generalizing opened with
  | nil =>
      rfl
  | cons part rest inductionHypothesis =>
      rw [List.foldl_cons, List.foldl_cons, opensBehind_of_absent spared.1]
      exact inductionHypothesis spared.2

/-- A pass leaves characters out and puts none in. -/
theorem pass_sublists
    (opened : Bool)
    (parts : List Text) :
    List.Forall₂ (· <+ ·) (pass attributes hash opened parts) parts := by
  induction parts generalizing opened with
  | nil =>
      exact List.Forall₂.nil
  | cons part rest inductionHypothesis =>
      refine List.Forall₂.cons ?_ (inductionHypothesis _)
      split
      · exact removeFirst_sublist hash part
      · exact List.Sublist.refl part

theorem pass_of_equalsFree
    {parts : List Text}
    (equalsFree : ∀ part ∈ parts, '=' ∉ part) :
    pass attributes hash false parts = parts ∧
      ∀ opened, parts ≠ [] → parts.foldl (opensBehind attributes hash) opened = false := by
  induction parts with
  | nil =>
      exact ⟨rfl, fun opened nonempty => absurd rfl nonempty⟩
  | cons part rest inductionHypothesis =>
      rw [List.forall_mem_cons] at equalsFree
      obtain ⟨restStays, restCloses⟩ := inductionHypothesis equalsFree.2
      have closes (opened : Bool) : opensBehind attributes hash opened part = false := by
        simp [opensBehind, opens_eq_false equalsFree.1]
      refine ⟨?_, ?_⟩
      · rw [pass, closes, restStays]
        rfl
      · intro opened _
        rw [List.foldl_cons, closes]
        cases rest with
        | nil =>
            rfl
        | cons next others =>
            exact restCloses false (by simp)

end Pass

theorem sublists_trans :
    ∀ {first second third : List Text},
      List.Forall₂ (· <+ ·) first second → List.Forall₂ (· <+ ·) second third →
        List.Forall₂ (· <+ ·) first third
  | _, _, _, .nil, .nil => .nil
  | _, _, _, .cons here later, .cons hereToo laterToo =>
      .cons (here.trans hereToo) (sublists_trans later laterToo)

theorem sublists_antisymm :
    ∀ {first second : List Text},
      List.Forall₂ (· <+ ·) first second → List.Forall₂ (· <+ ·) second first →
        first = second
  | _, _, .nil, .nil => rfl
  | _, _, .cons here later, .cons hereToo laterToo => by
      rw [here.antisymm hereToo, sublists_antisymm later laterToo]

/-- Strips a text behind a quote that opens a value, or behind another one. -/
def hashBehind (attributes : List Text) (hash : Text) (opened : Bool) (text : Text) : Text :=
  match opened, cutFromValue? hash text with
  | true, some (value, after) => value ++ hashFrom attributes hash after
  | _, _ => hashFrom attributes hash text

/-- Behind a part stripping goes on as the part has opened a value or not. -/
theorem hashFrom_append_quote
    {attributes : List Text}
    (attributesQuoteFree : ∀ name ∈ attributes, '"' ∉ name)
    (hash : Text)
    {front : Text}
    (quoteFree : '"' ∉ front)
    (tail : Text) :
    hashFrom attributes hash (front ++ '"' :: tail) =
      front ++ '"' :: hashBehind attributes hash (opens attributes front) tail := by
  cases isOpen : opens attributes front with
  | false =>
      rw [hashFrom_skip attributesQuoteFree quoteFree (by simp [isOpen])]
      rfl
  | true =>
      cases isCut : cutFromValue? hash tail with
      | none =>
          rw [hashFrom_skip attributesQuoteFree quoteFree (fun _ => isCut)]
          simp [hashBehind, isCut]
      | some result =>
          obtain ⟨value, after⟩ := result
          rw [hashFrom_cut attributesQuoteFree quoteFree isOpen isCut]
          simp [hashBehind, isCut]

/-- A value that no quote closes is not cut. -/
theorem cutFromValue?_of_quoteFree
    (hash : Text)
    {text : Text}
    (quoteFree : '"' ∉ text) :
    cutFromValue? hash text = none := by
  have notThrough : ∀ part : Text, '"' ∉ part → throughQuote? part = none := by
    intro part absent
    induction part with
    | nil =>
        rfl
    | cons first rest inductionHypothesis =>
        simp only [List.mem_cons, not_or] at absent
        simp [throughQuote?, Ne.symm absent.1, inductionHypothesis absent.2]
  induction text with
  | nil =>
      rfl
  | cons first rest inductionHypothesis =>
      have afterHash :
          throughQuote? (afterBlank ((first :: rest).drop hash.length)) = none := by
        apply notThrough
        intro member
        exact quoteFree (List.mem_of_mem_drop ((afterBlank_suffix _).subset member))
      simp only [List.mem_cons, not_or] at quoteFree
      simp [cutFromValue?, afterHash, inductionHypothesis quoteFree.2]

/-- Stripping behind a quote is a pass over the parts that a quote follows. -/
theorem splitOn_hashBehind
    {attributes : List Text}
    (attributesQuoteFree : ∀ name ∈ attributes, '"' ∉ name)
    {hash : Text}
    (nonempty : hash ≠ [])
    (hashQuoteFree : '"' ∉ hash)
    (opened : Bool)
    {text last : Text}
    {closed : List Text}
    (parts : Text.splitOn '"' text = closed ++ [last]) :
    Text.splitOn '"' (hashBehind attributes hash opened text) =
      pass attributes hash opened closed ++ [last] := by
  induction text using Text.induction_on_separator '"' generalizing opened closed with
  | whole text quoteFree =>
      have stays : hashBehind attributes hash opened text = text := by
        cases opened with
        | false =>
            exact hashFrom_of_quoteFree quoteFree attributes hash
        | true =>
            simp only [hashBehind, cutFromValue?_of_quoteFree hash quoteFree]
            exact hashFrom_of_quoteFree quoteFree attributes hash
      rw [Text.splitOn_of_not_mem quoteFree, ← List.nil_append [text]] at parts
      obtain ⟨rfl, same⟩ := List.append_inj' parts rfl
      rw [stays, Text.splitOn_of_not_mem quoteFree, same]
      rfl
  | parted front tail quoteFree inductionHypothesis =>
      rw [Text.splitOn_append_separator quoteFree] at parts
      obtain _ | ⟨first, rest⟩ := closed
      · have noTail := (List.cons_eq_cons.mp parts).2
        exact absurd noTail (Text.splitOn_ne_nil '"' tail)
      obtain ⟨rfl, tailParts⟩ := List.cons_eq_cons.mp parts
      have later (opened : Bool) := inductionHypothesis opened tailParts
      have cut := cutFromValue?_append_quote nonempty hashQuoteFree quoteFree tail
      by_cases occurs : opened = true ∧ hash <:+: front
      · obtain ⟨rfl, inFront⟩ := occurs
        have removedQuoteFree := not_mem_removeFirst hash quoteFree
        have closes : opensBehind attributes hash true front = false := by
          simp [opensBehind, Text.occursIn_eq_true_iff.mpr inFront]
        have stripped :
            hashBehind attributes hash true (front ++ '"' :: tail) =
              removeFirst hash front ++ '"' :: hashBehind attributes hash false tail := by
          simp [hashBehind, cut, inFront]
        rw [stripped, Text.splitOn_append_separator removedQuoteFree, later, pass, closes]
        rfl
      · have absent : opened = true → ¬ hash <:+: front := by
          intro isOpen inFront
          exact occurs ⟨isOpen, inFront⟩
        have unstripped :
            hashBehind attributes hash opened (front ++ '"' :: tail) =
              hashFrom attributes hash (front ++ '"' :: tail) := by
          cases opened with
          | false =>
              rfl
          | true =>
              simp [hashBehind, cut, absent rfl]
        have stays : (if opened then removeFirst hash front else front) = front := by
          cases opened with
          | false =>
              rfl
          | true =>
              exact removeFirst_of_absent (absent rfl)
        rw [unstripped, hashFrom_append_quote attributesQuoteFree hash quoteFree,
          Text.splitOn_append_separator quoteFree, later, pass, opensBehind_of_absent absent,
          stays]
        rfl

/-- Stripping a hash is a pass over the parts that a quote follows. -/
theorem splitOn_hashFrom_eq_pass
    {attributes : List Text}
    (attributesQuoteFree : ∀ name ∈ attributes, '"' ∉ name)
    {hash : Text}
    (nonempty : hash ≠ [])
    (hashQuoteFree : '"' ∉ hash)
    {text last : Text}
    {closed : List Text}
    (parts : Text.splitOn '"' text = closed ++ [last]) :
    Text.splitOn '"' (hashFrom attributes hash text) =
      pass attributes hash false closed ++ [last] :=
  splitOn_hashBehind attributesQuoteFree nonempty hashQuoteFree false parts

/-- A hash that does not occur may as well be stripped. -/
theorem hashFrom_of_step
    {hash : Text}
    (nonempty : hash ≠ [])
    (attributes : List Text)
    (text : Text) :
    (if hash.isEmpty || ! Text.occursIn hash text then text else hashFrom attributes hash text) =
      hashFrom attributes hash text := by
  by_cases occurs : Text.occursIn hash text = true
  · simp [occurs, nonempty]
  · have absent : ¬ hash <:+: text := by
      rwa [← Text.occursIn_eq_true_iff]
    simp [hashFrom_of_absent absent]

/-- Stripping takes out the hashes that are not empty, one after the other. -/
theorem hashes_eq_foldl_filter
    (attributes hashes : List Text)
    (text : Text) :
    Strip.hashes attributes hashes text =
      (hashes.filter (· ≠ [])).foldl (fun text hash => hashFrom attributes hash text) text := by
  rw [List.foldl_filter]
  by_cases noAttributes : attributes = []
  · have stays : ∀ hash : Text, hashFrom attributes hash text = text := by
      intro hash
      apply hashFrom_of_uncut
      intro part _ _
      rw [noAttributes, cutFromAttribute?]
    rw [Strip.hashes, if_pos (by simpa using noAttributes)]
    symm
    apply List.foldl_fixed'
    intro hash
    rw [stays, ite_self]
  · rw [Strip.hashes, if_neg (by simpa using noAttributes)]
    refine List.foldl_ext _ _ text fun text hash _ => ?_
    by_cases empty : hash = []
    · simp [empty]
    · rw [hashFrom_of_step empty, if_pos (by simpa using empty)]

/-- Stripping takes out the hashes one after the other. -/
theorem hashes_eq_foldl
    {attributes hashes : List Text}
    (hasAttributes : attributes ≠ [])
    (nonempty : ∀ hash ∈ hashes, hash ≠ [])
    (text : Text) :
    Strip.hashes attributes hashes text =
      hashes.foldl (fun text hash => hashFrom attributes hash text) text := by
  rw [Strip.hashes, if_neg (by simpa using hasAttributes)]
  exact List.foldl_ext _ _ text fun text hash isHash =>
    hashFrom_of_step (nonempty hash isHash) attributes text

/-- A hash that is not empty and can stand in quotes without escapes. -/
structure IsPlainHash (hash : Text) : Prop where
  nonempty : hash ≠ []
  quoteFree : '"' ∉ hash
  backslashFree : '\\' ∉ hash

section Hashes

variable {attributes : List Text}

/-- Stripping hashes leaves characters of the parts out and puts none in. -/
theorem sublists_foldl_hashFrom
    (attributesQuoteFree : ∀ name ∈ attributes, '"' ∉ name)
    {hashes : List Text}
    (plain : ∀ hash ∈ hashes, IsPlainHash hash)
    (text : Text) :
    List.Forall₂ (· <+ ·)
      (Text.splitOn '"' (hashes.foldl (fun text hash => hashFrom attributes hash text) text))
      (Text.splitOn '"' text) := by
  induction hashes generalizing text with
  | nil =>
      exact List.forall₂_same.mpr fun part _ => List.Sublist.refl part
  | cons hash rest inductionHypothesis =>
      rw [List.forall_mem_cons] at plain
      obtain ⟨last, parts⟩ := exists_splitOn_eq_closedParts text
      have stripped :=
        splitOn_hashFrom_eq_pass attributesQuoteFree plain.1.nonempty plain.1.quoteFree parts
      have step :
          List.Forall₂ (· <+ ·) (Text.splitOn '"' (hashFrom attributes hash text))
            (Text.splitOn '"' text) := by
        rw [stripped, parts]
        exact List.rel_append (pass_sublists false _)
          (List.Forall₂.cons (List.Sublist.refl last) List.Forall₂.nil)
      exact sublists_trans (inductionHypothesis plain.2 _) step

/-- Parts at the front that are all there in the end have not been stripped of any hash. -/
theorem spared_of_foldl_hashFrom
    (attributesQuoteFree : ∀ name ∈ attributes, '"' ∉ name)
    {hash : Text}
    {rest : List Text}
    (plain : ∀ other ∈ hash :: rest, IsPlainHash other)
    {text : Text}
    {front behind kept : List Text}
    (isFront : closedParts text = front ++ behind)
    (staysFront :
      Text.splitOn '"'
          ((hash :: rest).foldl (fun text hash => hashFrom attributes hash text) text) =
        front ++ kept) :
    Spared attributes hash false front := by
  rw [List.forall_mem_cons] at plain
  obtain ⟨last, parts⟩ := exists_splitOn_eq_closedParts text
  have stripped :=
    splitOn_hashFrom_eq_pass attributesQuoteFree plain.1.nonempty plain.1.quoteFree parts
  have later :=
    sublists_foldl_hashFrom attributesQuoteFree plain.2 (hashFrom attributes hash text)
  rw [List.foldl_cons] at staysFront
  rw [staysFront, stripped, isFront, pass_append, List.append_assoc] at later
  have fromPass := List.forall₂_take_append _ _ _ later
  rw [length_pass, List.take_left] at fromPass
  rw [← pass_eq_self_iff plain.1.nonempty]
  exact sublists_antisymm (pass_sublists false front) fromPass

end Hashes

end StyledMarkup.Strip
