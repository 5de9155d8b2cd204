import PlaneRegion.Proofs.Scalar.Partial
import PlaneRegion.Region.Intersection

/-!
# The alternating sum of bounds

The difference of a list of bounds is collected term by term. It exists exactly if every term is a
power of degree zero, one or two, and it depends only on which terms are added and which are
subtracted.
-/

namespace PlaneRegion

/-- The quadratic with the opposite coefficients. -/
def Quadratic.negated {α : Type} [Neg α] (q : Quadratic α) : Quadratic α :=
  ⟨-q.constant, -q.linear, -q.square⟩

namespace Region

/-- The members of a list in the places 0, 2, 4 and so on, and those in the places between. -/
def sides {β : Type} : List β → List β × List β
  | [] => ([], [])
  | item :: rest => (item :: (sides rest).2, (sides rest).1)

theorem sides_map {β γ : Type} (f : β → γ) (items : List β) :
    sides (items.map f) = ((sides items).1.map f, (sides items).2.map f) := by
  induction items with
  | nil => rfl
  | cons item items induction => rw [List.map_cons, sides, induction, sides, List.map_cons]

variable {α : Type} [Scalar α]

/-- The terms of a list of bounds with the signs that they have in the alternating sum. -/
def signedTerms (positive : Bool) : List (Equation α) → List (Bool × Term α)
  | [] => []
  | equation :: rest => equation.map (positive, ·) ++ signedTerms (!positive) rest

/-- Add one term to the coefficients, or subtract it. -/
def collect (q : Quadratic α) (signed : Bool × Term α) : Option (Quadratic α) :=
  signed.2.degree?.map fun degree => q.adjust degree fun c =>
    if signed.1 then c + signed.2.coefficient else c - signed.2.coefficient

theorem alternate_eq_foldlM (positive : Bool) (q : Quadratic α) (bounds : List (Equation α)) :
    alternate positive q bounds = (signedTerms positive bounds).foldlM collect q := by
  induction bounds generalizing positive q with
  | nil => rfl
  | cons equation rest induction =>
      rw [alternate, signedTerms, List.foldlM_append, List.foldlM_map]
      exact Option.bind_congr fun q _ => induction _ q

theorem foldlM_collect_eq_none_iff (terms : List (Bool × Term α)) (q : Quadratic α) :
    terms.foldlM collect q = none ↔ ∃ signed ∈ terms, signed.2.degree? = none := by
  induction terms generalizing q with
  | nil => simp
  | cons signed terms induction =>
      rw [List.foldlM_cons, List.exists_mem_cons_iff]
      cases degree : signed.2.degree? with
      | none => simp [collect, degree]
      | some n => simpa [collect, degree] using induction _

omit [Scalar α] in
theorem exists_mem_signedTerms_iff (positive : Bool) (bounds : List (Equation α))
    (property : Term α → Prop) :
    (∃ signed ∈ signedTerms positive bounds, property signed.2) ↔
      ∃ equation ∈ bounds, ∃ term ∈ equation, property term := by
  induction bounds generalizing positive with
  | nil => simp [signedTerms]
  | cons equation rest induction =>
      simp only [signedTerms, List.mem_append, or_and_right, exists_or, induction,
        List.exists_mem_cons_iff, List.mem_map, exists_exists_and_eq_and]

/-- Bounds have no difference exactly if one of their terms is no power of degree zero, one or
two. -/
theorem difference_eq_none_iff (bounds : List (Equation α)) :
    difference bounds = none ↔ ∃ equation ∈ bounds, ∃ term ∈ equation, term.degree? = none := by
  rw [difference, alternate_eq_foldlM, foldlM_collect_eq_none_iff]
  exact exists_mem_signedTerms_iff _ _ (·.degree? = none)

omit [Scalar α] in
theorem signedTerms_not (positive : Bool) (bounds : List (Equation α)) :
    signedTerms (!positive) bounds =
      (signedTerms positive bounds).map fun signed => (!signed.1, signed.2) := by
  induction bounds generalizing positive with
  | nil => rfl
  | cons equation rest induction =>
      rw [signedTerms, signedTerms, List.map_append, induction, List.map_map]
      rfl

omit [Scalar α] in
/-- The terms of the bounds in places of one kind are added, the others subtracted. -/
theorem signedTerms_perm (positive : Bool) (bounds : List (Equation α)) :
    (signedTerms positive bounds).Perm
      ((sides bounds).1.flatten.map (positive, ·) ++
        (sides bounds).2.flatten.map (!positive, ·)) := by
  induction bounds generalizing positive with
  | nil => rfl
  | cons equation rest induction =>
      rw [signedTerms, sides, List.flatten_cons, List.map_append, List.append_assoc]
      apply List.Perm.append_left
      apply (induction _).trans
      rw [Bool.not_not]
      exact List.perm_append_comm

/-! ## Exact coefficients -/

open scoped List

omit [Scalar α] in
private theorem adjust_comm (q : Quadratic α) (degree other : Fin 3) {change turn : α → α}
    (commute : ∀ c, turn (change c) = change (turn c)) :
    (q.adjust degree change).adjust other turn = (q.adjust other turn).adjust degree change := by
  match degree, other with
  | 0, 0 | 1, 1 | 2, 2 => simp only [Quadratic.adjust, commute]
  | 0, 1 | 0, 2 | 1, 0 | 1, 2 | 2, 0 | 2, 1 => rfl

private theorem collect_eq (q : Quadratic PartialReal) (signed : Bool × Term PartialReal) :
    collect q signed = signed.2.degree?.map fun degree =>
      q.adjust degree (· + if signed.1 then signed.2.coefficient else -signed.2.coefficient) := by
  unfold collect
  cases signed.1 with
  | true => rfl
  | false => simp only [PartialReal.sub_eq_add_neg, Bool.false_eq_true, if_false]

private theorem collect_comm (q : Quadratic PartialReal) (first second : Bool × Term PartialReal) :
    (collect q first).bind (collect · second) = (collect q second).bind (collect · first) := by
  simp only [collect_eq]
  cases first.2.degree? with
  | none => cases second.2.degree? <;> rfl
  | some degree =>
      cases second.2.degree? with
      | none => rfl
      | some other => exact congrArg some (adjust_comm q degree other fun c =>
          PartialReal.add_right_comm c _ _)

/-- The order in which terms are collected makes no difference. -/
theorem foldlM_collect_perm {terms others : List (Bool × Term PartialReal)}
    (same : terms.Perm others) (q : Quadratic PartialReal) :
    terms.foldlM collect q = others.foldlM collect q := by
  induction same generalizing q with
  | nil => rfl
  | cons signed _ induction =>
      rw [List.foldlM_cons, List.foldlM_cons]
      exact Option.bind_congr fun q _ => induction q
  | swap first second rest =>
      simp only [List.foldlM_cons, Option.bind_eq_bind]
      rw [← Option.bind_assoc, ← Option.bind_assoc, collect_comm]
  | trans _ _ first second => exact (first q).trans (second q)

private theorem adjust_negated (q : Quadratic PartialReal) (degree : Fin 3)
    (change : PartialReal) :
    q.negated.adjust degree (· + -change) = (q.adjust degree (· + change)).negated := by
  match degree with
  | 0 | 1 | 2 => simp only [Quadratic.adjust, Quadratic.negated, PartialReal.neg_add]

private theorem collect_negated (q : Quadratic PartialReal) (positive : Bool)
    (term : Term PartialReal) :
    collect q.negated (!positive, term) = (collect q (positive, term)).map Quadratic.negated := by
  have opposite : (if (!positive) = true then term.coefficient else -term.coefficient) =
      -(if positive = true then term.coefficient else -term.coefficient) := by
    cases positive with
    | true => rfl
    | false => exact (PartialReal.neg_neg _).symm
  simp only [collect_eq, Option.map_map, opposite, adjust_negated]
  rfl

/-- With all signs changed the coefficients change their signs. -/
theorem foldlM_collect_negated (terms : List (Bool × Term PartialReal))
    (q : Quadratic PartialReal) :
    (terms.map fun signed => (!signed.1, signed.2)).foldlM collect q.negated =
      (terms.foldlM collect q).map Quadratic.negated := by
  induction terms generalizing q with
  | nil => rfl
  | cons signed terms induction =>
      rw [List.map_cons, List.foldlM_cons, List.foldlM_cons, collect_negated]
      cases collect q signed with
      | none => rfl
      | some q => exact induction q

/-- Bounds with the same members on each side have the same difference. -/
theorem difference_eq_of_sides {bounds others : List (Equation PartialReal)}
    (added : (sides bounds).1.Perm (sides others).1)
    (subtracted : (sides bounds).2.Perm (sides others).2) :
    difference bounds = difference others := by
  rw [difference, difference, alternate_eq_foldlM, alternate_eq_foldlM]
  apply foldlM_collect_perm
  calc
    signedTerms true bounds
    _ ~ (sides bounds).1.flatten.map (true, ·) ++ (sides bounds).2.flatten.map (false, ·) :=
        signedTerms_perm true bounds
    _ ~ (sides others).1.flatten.map (true, ·) ++ (sides others).2.flatten.map (false, ·) :=
        (added.flatten.map _).append (subtracted.flatten.map _)
    _ ~ signedTerms true others := (signedTerms_perm true others).symm

/-- Bounds with the two sides exchanged have the opposite difference. -/
theorem difference_of_exchanged_sides {bounds others : List (Equation PartialReal)}
    (added : (sides bounds).1.Perm (sides others).2)
    (subtracted : (sides bounds).2.Perm (sides others).1) :
    difference others = (difference bounds).map Quadratic.negated := by
  have opposite : signedTerms true others ~
      (signedTerms true bounds).map fun signed => (!signed.1, signed.2) := by
    rw [← signedTerms_not]
    calc
      signedTerms true others
      _ ~ (sides others).1.flatten.map (true, ·) ++ (sides others).2.flatten.map (false, ·) :=
          signedTerms_perm true others
      _ ~ (sides bounds).2.flatten.map (true, ·) ++ (sides bounds).1.flatten.map (false, ·) :=
          (subtracted.symm.flatten.map _).append (added.symm.flatten.map _)
      _ ~ (sides bounds).1.flatten.map (false, ·) ++ (sides bounds).2.flatten.map (true, ·) :=
          List.perm_append_comm
      _ ~ signedTerms false bounds := (signedTerms_perm false bounds).symm
  have zero : (⟨Scalar.ofNat 0, Scalar.ofNat 0, Scalar.ofNat 0⟩ : Quadratic PartialReal) =
      Quadratic.negated ⟨Scalar.ofNat 0, Scalar.ofNat 0, Scalar.ofNat 0⟩ := by
    simp [Quadratic.negated]
  rw [difference, difference, alternate_eq_foldlM, alternate_eq_foldlM,
    foldlM_collect_perm opposite, ← foldlM_collect_negated, ← zero]

/-! ## Zeros -/

theorem discriminant_negated (q : Quadratic PartialReal) :
    discriminant q.negated = discriminant q := by
  have quarter : Scalar.ofNat 4 * q.negated.square = -(Scalar.ofNat 4 * q.square) :=
    PartialReal.mul_neg _ _
  rw [discriminant, quarter]
  change -q.linear * -q.linear - -(Scalar.ofNat 4 * q.square) * -q.constant = _
  rw [PartialReal.neg_mul_neg, PartialReal.neg_mul_neg]
  rfl

theorem zerosFrom_negated (q : Quadratic PartialReal) (radical : PartialReal) :
    zerosFrom q.negated radical = zerosFrom q radical := by
  apply PartialReal.ascending_eq_of_perm
  have denominator : Scalar.ofNat 2 * q.negated.square = -(Scalar.ofNat 2 * q.square) :=
    PartialReal.mul_neg _ _
  have first : -q.negated.linear - radical = -(-q.linear + radical) := by
    rw [PartialReal.neg_add, PartialReal.sub_eq_add_neg, Quadratic.negated]
  have second : -q.negated.linear + radical = -(-q.linear - radical) := by
    rw [PartialReal.sub_eq_add_neg, PartialReal.neg_add, Quadratic.negated,
      PartialReal.neg_neg radical]
  rw [denominator, first, second, PartialReal.neg_div_neg, PartialReal.neg_div_neg]
  exact List.Perm.swap _ _ _

/-- A quadratic and its negative have the same zeros. -/
theorem zeros_negated (q : Quadratic PartialReal) :
    (zeros q.negated : Traced (Event PartialReal) _).value =
      (zeros q : Traced (Event PartialReal) _).value := by
  have square : Scalar.equal q.negated.square (Scalar.ofNat 0) = _ :=
    PartialReal.equal_neg_zero q.square
  have linear : Scalar.equal q.negated.linear (Scalar.ofNat 0) = _ :=
    PartialReal.equal_neg_zero q.linear
  have root : -q.negated.constant / q.negated.linear = -q.constant / q.linear :=
    PartialReal.neg_div_neg _ _
  simp only [zeros, discriminant_negated, zerosFrom_negated, square, linear, root]

end Region
end PlaneRegion
