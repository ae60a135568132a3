import StyledMarkup.Proofs.Markup.Escape
import StyledMarkup.Proofs.Markup.Pieces

namespace StyledMarkup.Strip

open List

/-!
# Stripping around class values

A text that consists of class values and of fixed text between them is stripped
piece by piece: a class value loses the hashes, and fixed text stays exactly if
no hash stands in a value that this text opens and closes itself.
-/

section Segments

variable {attributes : List Text} {hash : Text}

/-- Behind fixed text that keeps the hash a class value loses it, and stripping starts anew. -/
theorem hashFrom_append_value
    (attributesQuoteFree : ∀ name ∈ attributes, '"' ∉ name)
    (plain : IsPlainHash hash)
    {front value : Text}
    (isOpen : opens attributes front = true)
    (spared : Spared attributes hash false (Text.splitOn '"' front))
    (equalsFree : '=' ∉ value)
    (rest : Text) :
    hashFrom attributes hash (front ++ '"' :: (Markup.escapeProp value ++ '"' :: rest)) =
      front ++ '"' :: (Markup.escapeProp (valueWithout hash value) ++
        '"' :: hashFrom attributes hash rest) := by
  obtain ⟨last, restParts⟩ := exists_splitOn_eq_closedParts rest
  have parts :
      Text.splitOn '"' (front ++ '"' :: (Markup.escapeProp value ++ '"' :: rest)) =
        (Text.splitOn '"' front ++
          (Text.splitOn '"' (Markup.escapeProp value) ++ closedParts rest)) ++ [last] := by
    rw [Text.splitOn_append_cons, Text.splitOn_append_cons, restParts]
    simp
  have opensValue : (Text.splitOn '"' front).foldl (opensBehind attributes hash) false = true := by
    rw [spared.foldl_opensBehind, foldl_opens_splitOn attributesQuoteFree, isOpen]
  obtain ⟨valueStripped, closes⟩ := plain.pass_splitOn_escapeProp attributes equalsFree
  apply Text.splitOn_injective '"'
  calc
    Text.splitOn '"'
        (hashFrom attributes hash (front ++ '"' :: (Markup.escapeProp value ++ '"' :: rest)))
      = pass attributes hash false
          (Text.splitOn '"' front ++
            (Text.splitOn '"' (Markup.escapeProp value) ++ closedParts rest)) ++ [last] :=
        splitOn_hashFrom_eq_pass attributesQuoteFree plain.nonempty plain.quoteFree parts
    _ = Text.splitOn '"' front ++
          (Text.splitOn '"' (Markup.escapeProp (valueWithout hash value)) ++
            (pass attributes hash false (closedParts rest) ++ [last])) := by
        rw [pass_append, pass_append, (pass_eq_self_iff plain.nonempty false _).mpr spared,
          opensValue, valueStripped, closes, List.append_assoc, List.append_assoc]
    _ = _ := by
        rw [Text.splitOn_append_cons, Text.splitOn_append_cons,
          splitOn_hashFrom_eq_pass attributesQuoteFree plain.nonempty plain.quoteFree restParts]

/-- A text stays as it is exactly if no value that it opens and closes has the hash. -/
theorem hashFrom_eq_self_iff
    (attributesQuoteFree : ∀ name ∈ attributes, '"' ∉ name)
    (plain : IsPlainHash hash)
    (text : Text) :
    hashFrom attributes hash text = text ↔ Spares attributes hash text := by
  obtain ⟨last, parts⟩ := exists_splitOn_eq_closedParts text
  have stripped :=
    splitOn_hashFrom_eq_pass attributesQuoteFree plain.nonempty plain.quoteFree parts
  rw [Spares, ← pass_eq_self_iff plain.nonempty, ← (Text.splitOn_injective '"').eq_iff, stripped,
    parts, List.append_left_inj]

/-- An empty value in quotes has no hash, so what stands around it is spared on its own. -/
theorem spares_append_empty_value
    (nonempty : hash ≠ [])
    (front rest : Text) :
    Spares attributes hash (front ++ '"' :: '"' :: rest) ↔
      Spared attributes hash false (Text.splitOn '"' front) ∧ Spares attributes hash rest := by
  have opensNothing : opens attributes [] = false := by
    simp [opens]
  have behind : closedParts ('"' :: rest) = [] :: closedParts rest :=
    closedParts_append_quote [] rest
  rw [Spares, closedParts_append_quote, behind, spared_append, Spared, opensNothing]
  simp [nonempty, Spares]

end Segments

section Hashes

variable {attributes hashes : List Text}

/-- Text that every hash spares stays, and a class value behind it loses the hashes. -/
theorem foldl_hashFrom_append_value
    (attributesQuoteFree : ∀ name ∈ attributes, '"' ∉ name)
    (plain : ∀ hash ∈ hashes, IsPlainHash hash)
    {front value : Text}
    (isOpen : opens attributes front = true)
    (spared : ∀ hash ∈ hashes, Spared attributes hash false (Text.splitOn '"' front))
    (equalsFree : '=' ∉ value)
    (rest : Text) :
    hashes.foldl (fun text hash => hashFrom attributes hash text)
        (front ++ '"' :: (Markup.escapeProp value ++ '"' :: rest)) =
      front ++ '"' ::
        (Markup.escapeProp (hashes.foldl (fun value hash => valueWithout hash value) value) ++
          '"' :: hashes.foldl (fun text hash => hashFrom attributes hash text) rest) := by
  induction hashes generalizing value rest with
  | nil =>
      rfl
  | cons hash others inductionHypothesis =>
      rw [List.forall_mem_cons] at plain spared
      have step := hashFrom_append_value attributesQuoteFree plain.1 isOpen spared.1 equalsFree rest
      simp only [List.foldl_cons, step]
      exact inductionHypothesis plain.2 spared.2 (equals_not_mem_valueWithout hash equalsFree) _

/-- Text that is there in the end, in front of a quote, has been spared by every hash. -/
theorem spared_of_foldl_append_value
    (attributesQuoteFree : ∀ name ∈ attributes, '"' ∉ name)
    (plain : ∀ hash ∈ hashes, IsPlainHash hash)
    {front value rest kept : Text}
    (isOpen : opens attributes front = true)
    (equalsFree : '=' ∉ value)
    (stays :
      hashes.foldl (fun text hash => hashFrom attributes hash text)
          (front ++ '"' :: (Markup.escapeProp value ++ '"' :: rest)) =
        front ++ '"' :: kept) :
    ∀ hash ∈ hashes, Spared attributes hash false (Text.splitOn '"' front) := by
  induction hashes generalizing value rest with
  | nil =>
      exact List.forall_mem_nil _
  | cons hash others inductionHypothesis =>
      have here : Spared attributes hash false (Text.splitOn '"' front) := by
        apply spared_of_foldl_hashFrom attributesQuoteFree plain
          (closedParts_append_quote front _)
        rw [stays, Text.splitOn_append_cons]
      rw [List.forall_mem_cons] at plain ⊢
      have step := hashFrom_append_value attributesQuoteFree plain.1 isOpen here equalsFree rest
      rw [List.foldl_cons, step] at stays
      exact ⟨here,
        inductionHypothesis plain.2 (equals_not_mem_valueWithout hash equalsFree) stays⟩

/-- A text stays as it is under all hashes exactly if each of them spares it. -/
theorem foldl_hashFrom_eq_self_iff
    (attributesQuoteFree : ∀ name ∈ attributes, '"' ∉ name)
    (plain : ∀ hash ∈ hashes, IsPlainHash hash)
    (text : Text) :
    hashes.foldl (fun text hash => hashFrom attributes hash text) text = text ↔
      ∀ hash ∈ hashes, Spares attributes hash text := by
  induction hashes with
  | nil =>
      simp
  | cons hash others inductionHypothesis =>
      obtain ⟨herePlain, othersPlain⟩ := List.forall_mem_cons.mp plain
      have hereStays := hashFrom_eq_self_iff attributesQuoteFree herePlain text
      rw [List.forall_mem_cons, ← inductionHypothesis othersPlain]
      constructor
      · intro stays
        have here : Spares attributes hash text := by
          obtain ⟨last, parts⟩ := exists_splitOn_eq_closedParts text
          apply spared_of_foldl_hashFrom attributesQuoteFree plain (List.append_nil _).symm
          rw [stays, parts]
        rw [List.foldl_cons, hereStays.mpr here] at stays
        exact ⟨here, stays⟩
      · rintro ⟨here, stays⟩
        rw [List.foldl_cons, hereStays.mpr here, stays]

end Hashes

section Pieces

variable {attributes : List Text}

/-- The values of the pieces belong to class attributes and have no equals sign. -/
def HasClassValues (attributes : List Text) (pieces : List Markup.Piece) : Prop :=
  ∀ key value, .classValue key value ∈ pieces → key ∈ attributes ∧ '=' ∉ value

theorem HasClassValues.of_cons
    {piece : Markup.Piece}
    {rest : List Markup.Piece}
    (hasValues : HasClassValues attributes (piece :: rest)) :
    HasClassValues attributes rest := by
  intro key value isPiece
  exact hasValues key value (List.mem_cons_of_mem _ isPiece)

/-- The pieces with all values empty. -/
def emptied (pieces : List Markup.Piece) : List Markup.Piece :=
  pieces.map (Markup.Piece.mapValue fun _ => [])

theorem append_joined_fixed
    (front text : Text)
    (rest : List Markup.Piece) :
    front ++ Markup.joined (.fixed text :: rest) = (front ++ text) ++ Markup.joined rest := by
  rw [Markup.joined_cons, Markup.Piece.shown, List.append_assoc]

theorem append_joined_classValue
    (front key value : Text)
    (rest : List Markup.Piece) :
    front ++ Markup.joined (.classValue key value :: rest) =
      (front ++ (key ++ ['='])) ++
        '"' :: (Markup.escapeProp value ++ '"' :: Markup.joined rest) := by
  rw [Markup.joined_cons, Markup.Piece.shown]
  simp

theorem opens_append_key
    {key : Text}
    (isKey : key ∈ attributes)
    (front : Text) :
    opens attributes (front ++ (key ++ ['='])) = true := by
  rw [opens, List.any_eq_true]
  exact ⟨key, isKey, List.isSuffixOf_iff_suffix.mpr (List.suffix_append _ _)⟩

theorem spares_emptied_classValue
    {hash : Text}
    (nonempty : hash ≠ [])
    (front key value : Text)
    (rest : List Markup.Piece) :
    Spares attributes hash (front ++ Markup.joined (emptied (.classValue key value :: rest))) ↔
      Spared attributes hash false (Text.splitOn '"' (front ++ (key ++ ['=']))) ∧
        Spares attributes hash (Markup.joined (emptied rest)) := by
  rw [emptied, List.map_cons, Markup.Piece.mapValue, append_joined_classValue,
    Markup.escapeProp_nil, List.nil_append, spares_append_empty_value nonempty, emptied]

variable {hashes : List Text}

/-- If the hashes spare what stands around the class values, stripping changes only these. -/
theorem foldl_hashFrom_append_joined
    (attributesQuoteFree : ∀ name ∈ attributes, '"' ∉ name)
    (plain : ∀ hash ∈ hashes, IsPlainHash hash)
    {pieces : List Markup.Piece}
    (hasValues : HasClassValues attributes pieces)
    (front : Text)
    (spares :
      ∀ hash ∈ hashes, Spares attributes hash (front ++ Markup.joined (emptied pieces))) :
    hashes.foldl (fun text hash => hashFrom attributes hash text)
        (front ++ Markup.joined pieces) =
      front ++ Markup.joined (pieces.map (Markup.Piece.mapValue fun value =>
        hashes.foldl (fun value hash => valueWithout hash value) value)) := by
  induction pieces generalizing front with
  | nil =>
      exact (foldl_hashFrom_eq_self_iff attributesQuoteFree plain _).mpr spares
  | cons piece rest inductionHypothesis =>
      have restHasValues := hasValues.of_cons
      cases piece with
      | fixed text =>
          rw [append_joined_fixed, List.map_cons, Markup.Piece.mapValue, append_joined_fixed]
          apply inductionHypothesis restHasValues
          rw [← append_joined_fixed]
          exact spares
      | classValue key value =>
          obtain ⟨isKey, equalsFree⟩ := hasValues key value List.mem_cons_self
          have split : ∀ hash ∈ hashes, _ := fun hash isHash =>
            (spares_emptied_classValue (plain hash isHash).nonempty front key value rest).mp
              (spares hash isHash)
          have restStripped :=
            inductionHypothesis restHasValues [] fun hash isHash => (split hash isHash).2
          rw [List.nil_append, List.nil_append] at restStripped
          rw [append_joined_classValue, List.map_cons, Markup.Piece.mapValue,
            append_joined_classValue, ← restStripped]
          exact foldl_hashFrom_append_value attributesQuoteFree plain
            (opens_append_key isKey front) (fun hash isHash => (split hash isHash).1) equalsFree _

/-- If stripping changes only class values, the hashes spare what stands around them. -/
theorem spares_of_foldl_append_joined
    (attributesQuoteFree : ∀ name ∈ attributes, '"' ∉ name)
    (plain : ∀ hash ∈ hashes, IsPlainHash hash)
    {pieces others : List Markup.Piece}
    (hasValues : HasClassValues attributes pieces)
    (same : emptied pieces = emptied others)
    (front : Text)
    (stripped :
      hashes.foldl (fun text hash => hashFrom attributes hash text)
          (front ++ Markup.joined pieces) =
        front ++ Markup.joined others) :
    ∀ hash ∈ hashes, Spares attributes hash (front ++ Markup.joined (emptied pieces)) := by
  induction pieces generalizing front others with
  | nil =>
      obtain rfl : others = [] := by
        simpa [emptied] using same.symm
      exact (foldl_hashFrom_eq_self_iff attributesQuoteFree plain _).mp stripped
  | cons piece rest inductionHypothesis =>
      have restHasValues := hasValues.of_cons
      obtain _ | ⟨other, otherRest⟩ := others
      · simp [emptied] at same
      obtain ⟨samePiece, sameRest⟩ := List.cons_eq_cons.mp same
      cases piece with
      | fixed text =>
          obtain rfl : other = .fixed text := by
            cases other <;> simpa [Markup.Piece.mapValue] using samePiece.symm
          rw [append_joined_fixed, append_joined_fixed] at stripped
          have spares := inductionHypothesis restHasValues sameRest _ stripped
          intro hash isHash
          rw [emptied, List.map_cons, Markup.Piece.mapValue, append_joined_fixed]
          exact spares hash isHash
      | classValue key value =>
          obtain ⟨isKey, equalsFree⟩ := hasValues key value List.mem_cons_self
          obtain ⟨written, rfl⟩ : ∃ written, other = .classValue key written := by
            cases other with
            | fixed text =>
                simp [Markup.Piece.mapValue] at samePiece
            | classValue otherKey written =>
                obtain rfl : key = otherKey := by
                  simpa [Markup.Piece.mapValue] using samePiece
                exact ⟨written, rfl⟩
          rw [append_joined_classValue, append_joined_classValue] at stripped
          have isOpen := opens_append_key isKey front
          have frontSpared :=
            spared_of_foldl_append_value attributesQuoteFree plain isOpen equalsFree stripped
          -- The fixed text is the same on both sides, so the values and what follows are, too.
          rw [foldl_hashFrom_append_value attributesQuoteFree plain isOpen frontSpared equalsFree]
            at stripped
          have behindQuote := (List.cons_eq_cons.mp (List.append_cancel_left stripped)).2
          obtain ⟨-, restStripped⟩ := Markup.escapeProp_append_quote_inj behindQuote
          have restSpares := inductionHypothesis restHasValues sameRest [] restStripped
          intro hash isHash
          rw [spares_emptied_classValue (plain hash isHash).nonempty]
          exact ⟨frontSpared hash isHash, restSpares hash isHash⟩

end Pieces

end StyledMarkup.Strip
