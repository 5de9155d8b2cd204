import PlaneRegion.Proofs.Region.Difference
import PlaneRegion.Proofs.Region.Inversion

/-!
# Meeting points of a square root and a power

A square root and a power are said to meet in zero and in one more point. Zero is a meeting point
exactly if the degree of the power is positive, and the other point is one exactly if the two
coefficients do not have opposite signs. With opposite signs the second point is an artefact of
raising the negative quotient of the coefficients to an even or odd power.
-/

namespace PlaneRegion

open PartialReal

namespace Term

/-- Both terms have a value at a point, and it is the same. -/
def MeetAt (first second : Term PartialReal) (t : ℝ) : Prop :=
  ∃ value : ℝ, first.evaluate (some t) = some value ∧ second.evaluate (some t) = some value

theorem evaluate_root_eq_some_iff {c a t value : ℝ} :
    (Term.root (some c) (some a)).evaluate (some t) = some value ↔
      0 ≤ a * t ∧ c * √(a * t) = value := by
  simp only [evaluate, root, mul_some, mul_eq_some_iff, sqrt_eq_some_iff]
  simp [and_assoc]

/-- Every number has a power of degree zero. -/
theorem evaluate_power_eq_some_iff {c n t value : ℝ} :
    (Term.power (some c) (some n)).evaluate (some t) = some value ↔
      HasPower t n ∧ c * t ^ n = value := by
  simp only [evaluate, power, equal_some, ofNat_eq, Nat.cast_zero]
  by_cases zero : n = 0
  · have always : HasPower t 0 := by
      rcases lt_trichotomy t 0 with below | rfl | above
      · exact Or.inr (Or.inr ⟨below, 0, by simp⟩)
      · exact Or.inr (Or.inl ⟨rfl, le_rfl⟩)
      · exact Or.inl above
    subst zero
    simp [always]
  · simp [zero, mul_eq_some_iff, power_eq_some_iff, and_assoc]

/-- At zero the root vanishes, and the power has to vanish as well. -/
theorem meetAt_zero_iff {c₁ a c₂ n : ℝ} (multiple : c₂ ≠ 0) :
    (Term.root (some c₁) (some a)).MeetAt (Term.power (some c₂) (some n)) 0 ↔ 0 < n := by
  simp only [MeetAt, evaluate_root_eq_some_iff, evaluate_power_eq_some_iff, mul_zero,
    Real.sqrt_zero, le_refl, true_and]
  constructor
  · rintro ⟨_, rfl, powers, vanishes⟩
    have zero : (0 : ℝ) ^ n = 0 := (mul_eq_zero.mp vanishes).resolve_left multiple
    have degree : n ≠ 0 := by
      rintro rfl
      simp at zero
    rcases powers with positive | ⟨-, nonneg⟩ | ⟨negative, -⟩
    · exact absurd positive (lt_irrefl _)
    · exact lt_of_le_of_ne nonneg degree.symm
    · exact absurd negative (lt_irrefl _)
  · intro positive
    refine ⟨0, rfl, Or.inr (Or.inl ⟨rfl, positive.le⟩), ?_⟩
    rw [Real.zero_rpow positive.ne', mul_zero]

end Term

namespace Region

open Attempt

/-- The second point in which a square root is said to meet a power, where it has a value. -/
theorem meetingPoint_eq_some_iff {c₁ a c₂ n t : ℝ} :
    meetingPoint (some c₁) (some a) (some c₂) (some n) = some t ↔
      c₂ ≠ 0 ∧ 0 ≤ a ∧ n - 1 / 2 ≠ 0 ∧ HasPower (c₁ / c₂ * √a) (1 / (n - 1 / 2)) ∧
        (c₁ / c₂ * √a) ^ (1 / (n - 1 / 2)) = t := by
  simp only [meetingPoint, half_eq, sub_some, power_eq_some_iff, mul_eq_some_iff, div_eq_some_iff,
    sqrt_eq_some_iff, ofNat_eq, Nat.cast_one]
  constructor
  · rintro ⟨_, _, ⟨_, _, ⟨_, _, ⟨⟩, ⟨⟩, multiple, rfl⟩, ⟨_, ⟨⟩, scale, rfl⟩, rfl⟩,
      ⟨_, _, ⟨⟩, ⟨⟩, degree, rfl⟩, powers, same⟩
    exact ⟨multiple, scale, degree, powers, same⟩
  · rintro ⟨multiple, scale, degree, powers, same⟩
    exact ⟨_, _, ⟨_, _, ⟨_, _, rfl, rfl, multiple, rfl⟩, ⟨_, rfl, scale, rfl⟩, rfl⟩,
      ⟨_, _, rfl, rfl, degree, rfl⟩, powers, same⟩

private theorem rpow_meetingPoint {b n : ℝ} (positive : 0 < b) (degree : n - 1 / 2 ≠ 0) :
    (b ^ (1 / (n - 1 / 2))) ^ n = b * √(b ^ (1 / (n - 1 / 2))) := by
  have point : 0 < b ^ (1 / (n - 1 / 2)) := Real.rpow_pos_of_pos positive _
  calc
    (b ^ (1 / (n - 1 / 2))) ^ n
    _ = (b ^ (1 / (n - 1 / 2))) ^ (n - 1 / 2 + 1 / 2) := by rw [sub_add_cancel]
    _ = (b ^ (1 / (n - 1 / 2))) ^ (n - 1 / 2) * (b ^ (1 / (n - 1 / 2))) ^ (1 / 2 : ℝ) :=
        Real.rpow_add point _ _
    _ = b * √(b ^ (1 / (n - 1 / 2))) := by
        rw [← Real.rpow_mul positive.le, one_div_mul_cancel degree, Real.rpow_one,
          Real.sqrt_eq_rpow]

private theorem meetAt_of_nonneg {c₁ a c₂ n t : ℝ} (nonneg : 0 ≤ c₁ / c₂ * √a)
    (found : meetingPoint (some c₁) (some a) (some c₂) (some n) = some t) :
    (Term.root (some c₁) (some a)).MeetAt (Term.power (some c₂) (some n)) t := by
  obtain ⟨multiple, scale, degree, powers, rfl⟩ := meetingPoint_eq_some_iff.mp found
  rcases nonneg.eq_or_lt with zero | positive
  · -- The quotient has the power in question only if the degree is above one half.
    rw [← zero] at powers ⊢
    have exponent : 1 / (n - 1 / 2) ≠ 0 := one_div_ne_zero degree
    have above : 0 ≤ 1 / (n - 1 / 2) := by
      rcases powers with positive | ⟨-, above⟩ | ⟨negative, -⟩
      · exact absurd positive (lt_irrefl _)
      · exact above
      · exact absurd negative (lt_irrefl _)
    rw [Real.zero_rpow exponent, Term.meetAt_zero_iff multiple]
    have half : 0 ≤ n - 1 / 2 := one_div_nonneg.mp above
    linarith
  · have point := Real.rpow_pos_of_pos positive (1 / (n - 1 / 2))
    refine ⟨_, Term.evaluate_root_eq_some_iff.mpr ⟨mul_nonneg scale point.le, rfl⟩,
      Term.evaluate_power_eq_some_iff.mpr ⟨Or.inl point, ?_⟩⟩
    rw [rpow_meetingPoint positive degree, Real.sqrt_mul scale]
    field_simp

private theorem not_meetAt_of_neg {c₁ a c₂ n t : ℝ} (negative : c₁ / c₂ * √a < 0)
    (found : meetingPoint (some c₁) (some a) (some c₂) (some n) = some t) :
    ¬(Term.root (some c₁) (some a)).MeetAt (Term.power (some c₂) (some n)) t := by
  -- There the power has the sign of its coefficient, and a root with a value has the other one.
  obtain ⟨multiple, scale, degree, powers, rfl⟩ := meetingPoint_eq_some_iff.mp found
  have nonzero : (c₁ / c₂ * √a) ^ (1 / (n - 1 / 2)) ≠ 0 := by
    rcases powers with positive | ⟨zero, -⟩ | ⟨-, k, whole⟩
    · exact absurd negative positive.asymm
    · exact absurd zero negative.ne
    · rw [whole, Real.rpow_intCast]
      exact zpow_ne_zero k negative.ne
  have positiveScale : 0 < a := by
    apply lt_of_le_of_ne scale
    rintro rfl
    simp at negative
  rintro ⟨value, root, power⟩
  obtain ⟨inside, rfl⟩ := Term.evaluate_root_eq_some_iff.mp root
  obtain ⟨-, same⟩ := Term.evaluate_power_eq_some_iff.mp power
  have point : 0 < (c₁ / c₂ * √a) ^ (1 / (n - 1 / 2)) :=
    lt_of_le_of_ne (nonneg_of_mul_nonneg_right inside positiveScale) nonzero.symm
  generalize (c₁ / c₂ * √a) ^ (1 / (n - 1 / 2)) = t at *
  have quotient : t ^ n = c₁ / c₂ * √a * √t := by
    rw [Real.sqrt_mul scale] at same
    field_simp
    linarith
  have above : 0 < t ^ n := Real.rpow_pos_of_pos point n
  have below : c₁ / c₂ * √a * √t < 0 := mul_neg_of_neg_of_pos negative (Real.sqrt_pos.mpr point)
  rw [quotient] at above
  exact below.asymm above

/-- What is said to be the second meeting point is one exactly if the coefficients do not have
opposite signs. -/
theorem meetAt_meetingPoint_iff {c₁ a c₂ n t : ℝ}
    (found : meetingPoint (some c₁) (some a) (some c₂) (some n) = some t) :
    (Term.root (some c₁) (some a)).MeetAt (Term.power (some c₂) (some n)) t ↔
      0 ≤ c₁ * c₂ ∨ a = 0 := by
  obtain ⟨multiple, scale, -⟩ := meetingPoint_eq_some_iff.mp found
  have signs : 0 ≤ c₁ / c₂ * √a ↔ 0 ≤ c₁ * c₂ ∨ a = 0 := by
    rcases scale.eq_or_lt with rfl | positive
    · simp
    · rw [mul_nonneg_iff_of_pos_right (Real.sqrt_pos.mpr positive), div_nonneg_iff,
        mul_nonneg_iff, or_iff_left positive.ne']
  rw [← signs]
  constructor
  · intro meets
    by_contra! negative
    exact not_meetAt_of_neg negative found meets
  · intro nonneg
    exact meetAt_of_nonneg nonneg found

/-- A square root and a power are said to meet in zero and their meeting point, if it is finite. -/
theorem value_rootMeetsPower {α : Type} [Scalar α] (c a multiple n : α) :
    (rootMeetsPower (Term.root c a) (Term.power multiple n) : Traced (Event α) _).value =
      if Scalar.isFinite (meetingPoint c a multiple n) = true then
        some (Scalar.ofNat 0, meetingPoint c a multiple n)
      else none :=
  apply_ite Traced.value _ _ _

/-- A square root and a power have no difference as polynomials; their intersections are the points
in which they are said to meet. -/
theorem intersections_of_rootAgainstPower {α : Type} [Scalar α] {f g : Equation α}
    {root power : Term α} (against : RootAgainstPower [f, g] root power)
    (plain : isPlainPower power = true) :
    (intersections [f, g] : Traced (Event α) _).value =
      (rootMeetsPower root power : Traced (Event α) _).value.map fun ends => [ends.1, ends.2] := by
  obtain ⟨placed, isRoot, isPower⟩ := against
  have degree : root.degree? = none := by
    rw [Term.degree?, isRoot]
  have stray : difference [f, g] = none := by
    rw [difference_eq_none_iff]
    rcases placed with same | same <;> rw [same]
    · exact ⟨_, List.mem_cons_self, _, List.mem_cons_self, degree⟩
    · exact ⟨_, List.mem_cons_of_mem _ List.mem_cons_self, _, List.mem_cons_self, degree⟩
  have pair : rootAndPower [f, g] = some (root, power) := by
    rcases placed with same | same <;> rw [same] <;>
      simp [rootAndPower, Term.isRoot, isRoot, isPower, plain]
  rw [intersections, stray]
  simp only [pair, Traced.value_bind, Traced.value_pure]

/-! ## Reported ends -/

/-- Two ends that are reported for a square root and a power: zero, which is a meeting point exactly
if the degree is positive, and another one, which is a meeting point exactly if the coefficients do
not have opposite signs. -/
def AreReportedEnds (c₁ a c₂ n : ℝ) (ends : PartialReal × PartialReal) : Prop :=
  ∃ t : ℝ, ends = (some 0, some t) ∧
    ((Term.root (some c₁) (some a)).MeetAt (Term.power (some c₂) (some n)) 0 ↔ 0 < n) ∧
    ((Term.root (some c₁) (some a)).MeetAt (Term.power (some c₂) (some n)) t ↔
      0 ≤ c₁ * c₂ ∨ a = 0)

/-- The rows hold a square root and a power for the inner variable, in either order, and nothing for
the outer one. -/
structure RootAndPowerRows (rows : List Row) (order : IntegrationOrder)
    (root power : Term PartialReal) : Prop where
  ordered : (integrationOrder rows : Traced (Event PartialReal) _).value = some order
  alone : rows.filter (isRowOf order.outer) = []
  inner : ∃ first second f g, rows.filter (isRowOf order.inner) = [first, second] ∧
    first.ReadsAs f ∧ second.ReadsAs g ∧ RootAgainstPower [f, g] root power

theorem rootMeetsPower_value (c₁ a c₂ n : ℝ) :
    (rootMeetsPower (Term.root (some c₁) (some a)) (Term.power (some c₂) (some n)) :
      Traced (Event PartialReal) _).value =
      (meetingPoint (some c₁) (some a) (some c₂) (some n)).map fun t => (some 0, some t) := by
  rw [value_rootMeetsPower, ofNat_eq, Nat.cast_zero]
  cases meetingPoint (some c₁) (some a) (some c₂) (some n) with
  | none => rfl
  | some t => rfl

theorem areReportedEnds_of_eq_some {c₁ a c₂ n : ℝ} {ends : PartialReal × PartialReal}
    (found : (rootMeetsPower (Term.root (some c₁) (some a)) (Term.power (some c₂) (some n)) :
      Traced (Event PartialReal) _).value = some ends) : AreReportedEnds c₁ a c₂ n ends := by
  rw [rootMeetsPower_value] at found
  obtain ⟨t, point, rfl⟩ := Option.map_eq_some_iff.mp found
  obtain ⟨multiple, -⟩ := meetingPoint_eq_some_iff.mp point
  exact ⟨t, rfl, Term.meetAt_zero_iff multiple, meetAt_meetingPoint_iff point⟩

/-- From a square root and a power the region between zero and their second meeting point is
described, if there is one. -/
theorem outcome_describe_of_rootAgainstPower {rows : List Row} {order : IntegrationOrder}
    {first second : Row} {f g : Equation PartialReal} {c₁ a c₂ n : ℝ}
    (ordered : (integrationOrder rows : Traced (Event PartialReal) _).value = some order)
    (alone : rows.filter (isRowOf order.outer) = [])
    (inner : rows.filter (isRowOf order.inner) = [first, second])
    (readsFirst : first.ReadsAs f) (readsSecond : second.ReadsAs g)
    (against : RootAgainstPower [f, g] (Term.root (some c₁) (some a))
      (Term.power (some c₂) (some n))) :
    (describe rows : Attempt (Event PartialReal) EquationError _).outcome =
      .ok ((meetingPoint (some c₁) (some a) (some c₂) (some n)).map fun t =>
        between first second f g order (some 0, some t)) := by
  have outer : List.Forall₂ Row.ReadsAs (rows.filter (isRowOf order.outer))
      ([] : List (Equation PartialReal)) := by
    rw [alone]
    exact .nil
  have merged := outcome_outerBounds inner readsFirst readsSecond outer (by decide) (by simp)
  rw [outcome_describe ordered inner readsFirst readsSecond merged]
  change Except.ok (Option.map _ ((intersections [f, g] :
    Traced (Event PartialReal) _).value.bind finitePair)) = _
  have plain : isPlainPower (Term.power (some c₂) (some n) : Term PartialReal) = true := by
    simp [isPlainPower, Term.isPower, Term.power]
  rw [intersections_of_rootAgainstPower against plain, rootMeetsPower_value]
  cases meetingPoint (some c₁) (some a) (some c₂) (some n) with
  | none => rfl
  | some t => rfl

/-- A region is described from a square root and a power exactly if a second meeting point is
reported, between zero and this point. -/
theorem RootAndPowerRows.exists_outcome {rows : List Row} {order : IntegrationOrder}
    {c₁ a c₂ n : ℝ} (given : RootAndPowerRows rows order (Term.root (some c₁) (some a))
      (Term.power (some c₂) (some n))) :
    ∃ result, (describe rows : Attempt (Event PartialReal) EquationError _).outcome = .ok result ∧
      result.map outerEnds =
        (rootMeetsPower (Term.root (some c₁) (some a)) (Term.power (some c₂) (some n)) :
          Traced (Event PartialReal) _).value := by
  obtain ⟨first, second, f, g, inner, readsFirst, readsSecond, against⟩ := given.inner
  refine ⟨_, outcome_describe_of_rootAgainstPower given.ordered given.alone inner readsFirst
    readsSecond against, ?_⟩
  rw [rootMeetsPower_value, Option.map_map]
  rfl

/-- Whenever a square root and a power are said to meet in two points, and whenever a region is
described from them alone, the first point is zero, which is a meeting point exactly if the degree
of the power is positive, and the second is a meeting point exactly if the coefficients do not have
opposite signs. -/
theorem reported_ends_meet_iff (c₁ a c₂ n : ℝ) :
    (∀ ends, (rootMeetsPower (Term.root (some c₁) (some a)) (Term.power (some c₂) (some n)) :
        Traced (Event PartialReal) _).value = some ends → AreReportedEnds c₁ a c₂ n ends) ∧
    ∀ rows order region, RootAndPowerRows rows order (Term.root (some c₁) (some a))
        (Term.power (some c₂) (some n)) →
      (describe rows : Attempt (Event PartialReal) EquationError _).outcome = .ok (some region) →
      AreReportedEnds c₁ a c₂ n (outerEnds region) := by
  refine ⟨fun ends found => areReportedEnds_of_eq_some found, ?_⟩
  intro rows order region given described
  obtain ⟨result, outcome, ends⟩ := given.exists_outcome
  rw [described] at outcome
  cases outcome
  exact areReportedEnds_of_eq_some ends.symm

private theorem exists_region_of_meetingPoint {rows : List Row} {c₁ a c₂ n t : ℝ}
    (given : RootAndPowerRows rows .dyDx (Term.root (some c₁) (some a))
      (Term.power (some c₂) (some n)))
    (point : meetingPoint (some c₁) (some a) (some c₂) (some n) = some t) :
    ∃ region : Region PartialReal,
      (describe rows : Attempt (Event PartialReal) EquationError _).outcome = .ok (some region) ∧
      outerEnds region = (some 0, some t) := by
  obtain ⟨result, described, ends⟩ := given.exists_outcome
  rw [rootMeetsPower_value, point] at ends
  obtain ⟨region, rfl, same⟩ := Option.map_eq_some_iff.mp ends
  exact ⟨region, described, same⟩

private theorem readsAs_root {row : Row} (negative : Bool) (c : Nat)
    (reads : row.ReadsAs
      [Term.root (Scalar.ofDecimal ⟨negative, c, 0⟩ : PartialReal) (Scalar.ofNat 1)]) :
    row.ReadsAs [Term.root (some (if negative then -(c : ℝ) else c)) (some 1)] := by
  rwa [ofDecimal_whole, ofNat_eq, Nat.cast_one] at reads

private theorem readsAs_linear {row : Row} (negative : Bool) (c : Nat)
    (reads : row.ReadsAs [Term.linear (Scalar.ofDecimal ⟨negative, c, 0⟩ : PartialReal)]) :
    row.ReadsAs [Term.power (some (if negative then -(c : ℝ) else c)) (some 1)] := by
  rwa [Term.linear, ofDecimal_whole, ofNat_eq, Nat.cast_one] at reads

/-- Twice the square root of `x` meets the line `x` in `0` and in `4`. -/
theorem describe_root_and_line :
    (rootMeetsPower (Term.root (some 2) (some 1)) (Term.power (some 1) (some 1)) :
      Traced (Event PartialReal) _).value = some (some 0, some 4) ∧
    AreReportedEnds 2 1 1 1 (some 0, some 4) ∧
    ∃ region : Region PartialReal,
      (describe [⟨"y", "2sqrt(x)"⟩, ⟨"y", "x"⟩] :
        Attempt (Event PartialReal) EquationError _).outcome = .ok (some region) ∧
      AreReportedEnds 2 1 1 1 (outerEnds region) := by
  have point : meetingPoint (some 2) (some 1) (some 1) (some 1) = (some 4 : PartialReal) := by
    refine meetingPoint_eq_some_iff.mpr ⟨one_ne_zero, zero_le_one, by norm_num, ?_, ?_⟩
    · exact Or.inl (by norm_num)
    · norm_num
  have found : (rootMeetsPower (Term.root (some 2) (some 1)) (Term.power (some 1) (some 1)) :
      Traced (Event PartialReal) _).value = some (some 0, some 4) := by
    rw [rootMeetsPower_value, point]
    rfl
  have readsRoot : Row.ReadsAs ⟨"y", "2sqrt(x)"⟩
      [Term.root (some 2 : PartialReal) (some 1)] := by
    simpa using readsAs_root false 2 rfl
  have readsLine : Row.ReadsAs ⟨"y", "x"⟩ [Term.power (some 1 : PartialReal) (some 1)] := by
    simpa using readsAs_linear false 1 rfl
  have given : RootAndPowerRows [⟨"y", "2sqrt(x)"⟩, ⟨"y", "x"⟩] .dyDx
      (Term.root (some 2) (some 1)) (Term.power (some 1) (some 1)) :=
    ⟨rfl, rfl, _, _, _, _, rfl, readsRoot, readsLine, Or.inl rfl, rfl, rfl⟩
  obtain ⟨region, described, -⟩ := exists_region_of_meetingPoint given point
  exact ⟨found, (reported_ends_meet_iff 2 1 1 1).1 _ found, region, described,
    (reported_ends_meet_iff 2 1 1 1).2 _ _ _ given described⟩

/-- The square root of `x` and the line `-x` are said to meet at `1`, where their values are `1` and
`-1`. -/
theorem exists_region_without_meeting :
    ∃ region : Region PartialReal,
      (describe [⟨"y", "sqrt(x)"⟩, ⟨"y", "-x"⟩] :
        Attempt (Event PartialReal) EquationError _).outcome = .ok (some region) ∧
      outerEnds region = (some 0, some 1) ∧
      ¬(Term.root (some 1) (some 1)).MeetAt (Term.power (some (-1)) (some 1)) 1 := by
  have point : meetingPoint (some 1) (some 1) (some (-1)) (some 1) = (some 1 : PartialReal) := by
    refine meetingPoint_eq_some_iff.mpr ⟨by norm_num, zero_le_one, by norm_num, ?_, ?_⟩
    · exact Or.inr (Or.inr ⟨by norm_num, 2, by norm_num⟩)
    · norm_num
  have readsRoot : Row.ReadsAs ⟨"y", "sqrt(x)"⟩
      [Term.root (some 1 : PartialReal) (some 1)] := by
    simpa using readsAs_root false 1 rfl
  have readsLine : Row.ReadsAs ⟨"y", "-x"⟩ [Term.power (some (-1) : PartialReal) (some 1)] := by
    simpa using readsAs_linear true 1 rfl
  have given : RootAndPowerRows [⟨"y", "sqrt(x)"⟩, ⟨"y", "-x"⟩] .dyDx
      (Term.root (some 1) (some 1)) (Term.power (some (-1)) (some 1)) :=
    ⟨rfl, rfl, _, _, _, _, rfl, readsRoot, readsLine, Or.inl rfl, rfl, rfl⟩
  obtain ⟨region, described, ends⟩ := exists_region_of_meetingPoint given point
  refine ⟨region, described, ends, ?_⟩
  rw [meetAt_meetingPoint_iff point]
  norm_num

end Region
end PlaneRegion
