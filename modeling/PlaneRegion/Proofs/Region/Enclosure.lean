import Mathlib.Analysis.SpecialFunctions.Pow.Continuity
import PlaneRegion.Proofs.Region.Meeting
import PlaneRegion.Proofs.Region.Quadratic

/-!
# The region between a square root and a power

A square root and a power of degree above one half whose coefficients have the same sign meet in
zero and in exactly one more point: their quotient is a constant times a positive power of the
variable, which takes every positive value once. Between the two points they do not cross, so the
comparison in the middle orders the inner bounds everywhere.
-/

namespace PlaneRegion

open PartialReal

/-- Over the interval both equations have values, those of the first nowhere above those of the
second. -/
def Equation.LiesBelow (f g : Equation PartialReal) (lower upper : ℝ) : Prop :=
  ∀ t ∈ Set.Icc lower upper, ∃ x y : ℝ,
    f.evaluate (some t) = some x ∧ g.evaluate (some t) = some y ∧ x ≤ y

theorem Equation.evaluate_singleton (term : Term PartialReal) (t : PartialReal) :
    Equation.evaluate [term] t = term.evaluate t := by
  change (-(Scalar.ofNat 0) + term.evaluate t : PartialReal) = term.evaluate t
  cases term.evaluate t with
  | none => rfl
  | some value => simp

/-! ## Curves that meet twice -/

/-- A square root `c₁ * √(a * t)` and a power `c₂ * t ^ n` that have the same sign for positive `t`,
and the power grows faster. -/
structure Term.IsRegular (c₁ a c₂ n : ℝ) : Prop where
  sameSign : 0 < c₁ / c₂
  scaled : 0 < a
  steep : 1 / 2 < n

namespace Term.IsRegular

variable {c₁ a c₂ n : ℝ}

theorem multiple_ne_zero (regular : IsRegular c₁ a c₂ n) : c₂ ≠ 0 := by
  rintro rfl
  simpa using regular.sameSign

theorem degree_pos (regular : IsRegular c₁ a c₂ n) : 0 < n - 1 / 2 :=
  sub_pos.mpr regular.steep

theorem quotient_pos (regular : IsRegular c₁ a c₂ n) : 0 < c₁ / c₂ * √a :=
  mul_pos regular.sameSign (Real.sqrt_pos.mpr regular.scaled)

theorem evaluate_root (regular : IsRegular c₁ a c₂ n) {t : ℝ} (nonneg : 0 ≤ t) :
    (Term.root (some c₁) (some a)).evaluate (some t) = some (c₁ * √(a * t)) :=
  evaluate_root_eq_some_iff.mpr ⟨mul_nonneg regular.scaled.le nonneg, rfl⟩

theorem evaluate_power (regular : IsRegular c₁ a c₂ n) {t : ℝ} (nonneg : 0 ≤ t) :
    (Term.power (some c₂) (some n)).evaluate (some t) = some (c₂ * t ^ n) := by
  refine evaluate_power_eq_some_iff.mpr ⟨?_, rfl⟩
  rcases nonneg.eq_or_lt with zero | positive
  · exact Or.inr (Or.inl ⟨zero.symm, by linarith [regular.steep]⟩)
  · exact Or.inl positive

/-- The positive point in which the curves meet. -/
theorem meetingPoint_eq (regular : IsRegular c₁ a c₂ n) :
    Region.meetingPoint (some c₁) (some a) (some c₂) (some n) =
      some ((c₁ / c₂ * √a) ^ (n - 1 / 2)⁻¹) :=
  Region.meetingPoint_eq_some_iff.mpr ⟨regular.multiple_ne_zero, regular.scaled.le,
    regular.degree_pos.ne', Or.inl regular.quotient_pos, by rw [one_div]⟩

/-- Divided by the root of the variable, the power is one of degree `n - 1/2`, and the square root
a constant. -/
theorem same_value_iff (regular : IsRegular c₁ a c₂ n) {t : ℝ} (positive : 0 < t) :
    c₁ * √(a * t) = c₂ * t ^ n ↔ t ^ (n - 1 / 2) = c₁ / c₂ * √a := by
  have power : t ^ n = t ^ (n - 1 / 2) * √t := by
    rw [Real.sqrt_eq_rpow, ← Real.rpow_add positive, sub_add_cancel]
  calc
    c₁ * √(a * t) = c₂ * t ^ n
    _ ↔ c₁ * √a * √t = c₂ * t ^ (n - 1 / 2) * √t := by
      rw [Real.sqrt_mul regular.scaled.le, power, mul_assoc, mul_assoc]
    _ ↔ c₁ * √a = c₂ * t ^ (n - 1 / 2) :=
      mul_left_inj' (Real.sqrt_pos.mpr positive).ne'
    _ ↔ t ^ (n - 1 / 2) = c₁ / c₂ * √a := by
      rw [div_mul_eq_mul_div, eq_div_iff regular.multiple_ne_zero, eq_comm, mul_comm]

/-- On the nonnegative numbers the curves meet in zero and in the meeting point, and nowhere
else. -/
theorem setOf_same_value (regular : IsRegular c₁ a c₂ n) :
    {t : ℝ | 0 ≤ t ∧ c₁ * √(a * t) = c₂ * t ^ n} =
      {0, (c₁ / c₂ * √a) ^ (n - 1 / 2)⁻¹} := by
  have point := Real.rpow_pos_of_pos regular.quotient_pos (n - 1 / 2)⁻¹
  have unique : ∀ t : ℝ, 0 < t →
      (c₁ * √(a * t) = c₂ * t ^ n ↔ t = (c₁ / c₂ * √a) ^ (n - 1 / 2)⁻¹) := by
    intro t positive
    rw [regular.same_value_iff positive,
      Real.eq_rpow_inv positive.le regular.quotient_pos.le regular.degree_pos.ne']
  have zero : c₁ * √(a * 0) = c₂ * (0 : ℝ) ^ n := by
    have degree : n ≠ 0 := by linarith [regular.steep]
    rw [mul_zero, Real.sqrt_zero, Real.zero_rpow degree, mul_zero, mul_zero]
  ext t
  rw [Set.mem_ofPred_eq, Set.mem_insert_iff, Set.mem_singleton_iff]
  constructor
  · rintro ⟨nonneg, same⟩
    rcases nonneg.eq_or_lt with rfl | positive
    · exact Or.inl rfl
    · exact Or.inr ((unique t positive).mp same)
  · rintro (rfl | rfl)
    · exact ⟨le_rfl, zero⟩
    · exact ⟨point.le, (unique _ point).mpr rfl⟩

/-- A number in which both curves have the same value is not negative: below zero the square root
has no value. -/
theorem meetAt_iff (regular : IsRegular c₁ a c₂ n) (t : ℝ) :
    (Term.root (some c₁) (some a)).MeetAt (Term.power (some c₂) (some n)) t ↔
      0 ≤ t ∧ c₁ * √(a * t) = c₂ * t ^ n := by
  constructor
  · rintro ⟨value, root, power⟩
    obtain ⟨inside, rfl⟩ := evaluate_root_eq_some_iff.mp root
    obtain ⟨-, same⟩ := evaluate_power_eq_some_iff.mp power
    exact ⟨nonneg_of_mul_nonneg_right inside regular.scaled, same.symm⟩
  · rintro ⟨nonneg, same⟩
    exact ⟨_, regular.evaluate_root nonneg, same ▸ regular.evaluate_power nonneg⟩

end Term.IsRegular

namespace Region

open Attempt Equation

/-! ## Order of the inner bounds -/

/-- The inner bounds are the equations of two rows, the lesser one over an interval first. -/
def InnerOrderedOver (region : Region PartialReal) (first second : Row)
    (f g : Equation PartialReal) (lower upper : ℝ) : Prop :=
  (region.innerLower = first.body ∧ region.innerUpper = second.body ∧ LiesBelow f g lower upper) ∨
  (region.innerLower = second.body ∧ region.innerUpper = first.body ∧ LiesBelow g f lower upper)

/-- Two continuous curves that do not meet inside an interval keep over all of it the order that
they have in the middle. -/
theorem le_of_middle {F G : ℝ → ℝ} (continuousFirst : Continuous F)
    (continuousSecond : Continuous G) {lower upper : ℝ}
    (apart : ∀ t, lower < t → t < upper → F t ≠ G t)
    (middle : F ((lower + upper) / 2) ≤ G ((lower + upper) / 2)) :
    ∀ t ∈ Set.Icc lower upper, F t ≤ G t := by
  intro t within
  have sign := nonpos_of_middle (continuousFirst.sub continuousSecond)
    (fun t above below => sub_ne_zero.mpr (apart t above below)) (sub_nonpos.mpr middle) t within
  exact sub_nonpos.mp sign

/-- The comparison in the middle orders two curves that do not meet inside the interval. -/
theorem innerOrderedOver_between {f g : Equation PartialReal} {F G : ℝ → ℝ} (first second : Row)
    (order : IntegrationOrder) {lower upper : ℝ} (ascending : lower ≤ upper)
    (continuousFirst : Continuous F) (continuousSecond : Continuous G)
    (valuesFirst : ∀ t ∈ Set.Icc lower upper, f.evaluate (some t) = some (F t))
    (valuesSecond : ∀ t ∈ Set.Icc lower upper, g.evaluate (some t) = some (G t))
    (apart : ∀ t, lower < t → t < upper → F t ≠ G t) :
    InnerOrderedOver (between first second f g order (some lower, some upper)) first second f g
      lower upper := by
  have inside : (lower + upper) / 2 ∈ Set.Icc lower upper := ⟨by linarith, by linarith⟩
  have middle : ((some lower + some upper) / Scalar.ofNat 2 : PartialReal) =
      some ((lower + upper) / 2) :=
    div_eq_some_iff.mpr ⟨_, _, rfl, ofNat_eq 2, by norm_num, by norm_num⟩
  unfold InnerOrderedOver between
  simp only [middle, valuesFirst _ inside, valuesSecond _ inside, less_some, decide_eq_true_eq]
  split_ifs with above
  · have below := le_of_middle continuousSecond continuousFirst
      (fun t after before => (apart t after before).symm) above.le
    exact Or.inr ⟨rfl, rfl, fun t within =>
      ⟨_, _, valuesSecond t within, valuesFirst t within, below t within⟩⟩
  · have below := le_of_middle continuousFirst continuousSecond apart (not_lt.mp above)
    exact Or.inl ⟨rfl, rfl, fun t within =>
      ⟨_, _, valuesFirst t within, valuesSecond t within, below t within⟩⟩

private theorem innerOrderedOver_of_isRegular {c₁ a c₂ n upper : ℝ} {f g : Equation PartialReal}
    (regular : Term.IsRegular c₁ a c₂ n)
    (against : RootAgainstPower [f, g] (Term.root (some c₁) (some a))
      (Term.power (some c₂) (some n)))
    (first second : Row) (order : IntegrationOrder) (positive : 0 ≤ upper)
    (apart : ∀ t, 0 < t → t < upper → c₁ * √(a * t) ≠ c₂ * t ^ n) :
    InnerOrderedOver (between first second f g order (some 0, some upper)) first second f g
      0 upper := by
  have degree : 0 ≤ n := by linarith [regular.steep]
  have root : Continuous fun t : ℝ => c₁ * √(a * t) := by fun_prop
  have power : Continuous fun t : ℝ => c₂ * t ^ n :=
    continuous_const.mul (Real.continuous_rpow_const degree)
  have rootValues : ∀ t ∈ Set.Icc 0 upper,
      Equation.evaluate [Term.root (some c₁) (some a)] (some t) = some (c₁ * √(a * t)) :=
    fun t inside => (evaluate_singleton _ _).trans (regular.evaluate_root inside.1)
  have powerValues : ∀ t ∈ Set.Icc 0 upper,
      Equation.evaluate [Term.power (some c₂) (some n)] (some t) = some (c₂ * t ^ n) :=
    fun t inside => (evaluate_singleton _ _).trans (regular.evaluate_power inside.1)
  rcases against.1 with same | same
  · cases same
    exact innerOrderedOver_between first second order positive root power rootValues powerValues
      apart
  · cases same
    exact innerOrderedOver_between first second order positive power root powerValues rootValues
      fun t above below => (apart t above below).symm

/-- The region lies over the interval from zero to a number, between a square root and a power which
are the inner bounds that the rows give, the lesser one first. -/
structure Encloses (rows : List Row) (root power : Term PartialReal) (upper : ℝ)
    (region : Region PartialReal) : Prop where
  ends : outerEnds region = (some 0, some upper)
  texts : [region.innerLower, region.innerUpper].Perm (equationsFor region.order.inner rows)
  inOrder : ∃ f g,
    (Equation.read region.innerLower : Attempt (Event PartialReal) EquationError _).outcome =
      .ok f ∧
    (Equation.read region.innerUpper : Attempt (Event PartialReal) EquationError _).outcome =
      .ok g ∧
    RootAgainstPower [f, g] root power ∧ LiesBelow f g 0 upper

theorem RootAgainstPower.swap {f g : Equation PartialReal} {root power : Term PartialReal}
    (against : RootAgainstPower [f, g] root power) : RootAgainstPower [g, f] root power := by
  obtain ⟨bounds, kinds⟩ := against
  refine ⟨?_, kinds⟩
  rcases bounds with same | same
  · cases same
    exact Or.inr rfl
  · cases same
    exact Or.inl rfl

theorem encloses_of_innerOrderedOver {rows : List Row} {region : Region PartialReal}
    {first second : Row} {f g : Equation PartialReal} {root power : Term PartialReal} {upper : ℝ}
    (ends : outerEnds region = (some 0, some upper))
    (inner : rows.filter (isRowOf region.order.inner) = [first, second])
    (readsFirst : first.ReadsAs f) (readsSecond : second.ReadsAs g)
    (against : RootAgainstPower [f, g] root power)
    (ordered : InnerOrderedOver region first second f g 0 upper) :
    Encloses rows root power upper region := by
  have bodies : equationsFor region.order.inner rows = [first.body, second.body] := by
    rw [equationsFor, inner, List.map_cons, List.map_singleton]
  rcases ordered with ⟨lower, upper, below⟩ | ⟨lower, upper, below⟩
  · refine ⟨ends, ?_, f, g, ?_, ?_, against, below⟩
    · rw [lower, upper, bodies]
    · rw [lower, readsFirst.body]
    · rw [upper, readsSecond.body]
  · refine ⟨ends, ?_, g, f, ?_, ?_, against.swap, below⟩
    · rw [lower, upper, bodies]
      exact List.Perm.swap _ _ _
    · rw [lower, readsSecond.body]
    · rw [upper, readsFirst.body]

/-- A square root and a power of degree above one half whose coefficients have the same sign are
found to meet in zero and in one positive point, and these are all points in which they meet. From
two rows that hold them, in either order, the region between the two points is described, with the
inner bound first that is nowhere above the other one. -/
theorem describe_rootAndPowerRows {c₁ a c₂ n : ℝ} (regular : Term.IsRegular c₁ a c₂ n) :
    ∃ r : ℝ, 0 < r ∧
      (rootMeetsPower (Term.root (some c₁) (some a)) (Term.power (some c₂) (some n)) :
        Traced (Event PartialReal) _).value = some (some 0, some r) ∧
      {t : ℝ | 0 ≤ t ∧ c₁ * √(a * t) = c₂ * t ^ n} = {0, r} ∧
      (∀ t, (Term.root (some c₁) (some a)).MeetAt (Term.power (some c₂) (some n)) t ↔
        t = 0 ∨ t = r) ∧
      ∀ rows order, RootAndPowerRows rows order (Term.root (some c₁) (some a))
          (Term.power (some c₂) (some n)) →
        ∃ region : Region PartialReal,
          (describe rows : Attempt (Event PartialReal) EquationError _).outcome =
            .ok (some region) ∧
          region.order = order ∧
          Encloses rows (Term.root (some c₁) (some a)) (Term.power (some c₂) (some n)) r
            region := by
  have positive := Real.rpow_pos_of_pos regular.quotient_pos (n - 1 / 2)⁻¹
  have meet := regular.setOf_same_value
  have point := regular.meetingPoint_eq
  generalize (c₁ / c₂ * √a) ^ (n - 1 / 2)⁻¹ = r at *
  have meet_iff : ∀ t, 0 ≤ t ∧ c₁ * √(a * t) = c₂ * t ^ n ↔ t = 0 ∨ t = r := Set.ext_iff.mp meet
  have apart : ∀ t, 0 < t → t < r → c₁ * √(a * t) ≠ c₂ * t ^ n := by
    intro t above below same
    rcases (meet_iff t).mp ⟨above.le, same⟩ with rfl | rfl
    · exact lt_irrefl _ above
    · exact lt_irrefl _ below
  refine ⟨r, positive, ?_, meet, fun t => (regular.meetAt_iff t).trans (meet_iff t), ?_⟩
  · rw [rootMeetsPower_value, point]
    rfl
  · intro rows order given
    obtain ⟨first, second, f, g, inner, readsFirst, readsSecond, against⟩ := given.inner
    have described := outcome_describe_of_rootAgainstPower given.ordered given.alone inner
      readsFirst readsSecond against
    rw [point] at described
    exact ⟨_, described, rfl, encloses_of_innerOrderedOver rfl inner readsFirst readsSecond against
      (innerOrderedOver_of_isRegular regular against first second order positive.le apart)⟩

/-- The line `y` and the square root of `4y` as bounds of `x`, with the root in the second row,
enclose a region for `y` between `0` and `4`. -/
theorem describe_line_and_root :
    (rootMeetsPower (Term.root (some 1) (some 4)) (Term.power (some 1) (some 1)) :
      Traced (Event PartialReal) _).value = some (some 0, some 4) ∧
    ∃ region : Region PartialReal,
      (describe [⟨"x", "y"⟩, ⟨"x", "sqrt(4y)"⟩] :
        Attempt (Event PartialReal) EquationError _).outcome = .ok (some region) ∧
      region.order = .dxDy ∧
      Encloses [⟨"x", "y"⟩, ⟨"x", "sqrt(4y)"⟩] (Term.root (some 1) (some 4))
        (Term.power (some 1) (some 1)) 4 region := by
  have regular : Term.IsRegular 1 4 1 1 := ⟨by norm_num, by norm_num, by norm_num⟩
  obtain ⟨r, positive, found, meet, -, described⟩ := describe_rootAndPowerRows regular
  have four : (4 : ℝ) ∈ {t : ℝ | 0 ≤ t ∧ 1 * √(4 * t) = 1 * t ^ (1 : ℝ)} := by
    refine ⟨by norm_num, ?_⟩
    rw [Real.rpow_one, one_mul, one_mul, Real.sqrt_mul_self (by norm_num)]
  rw [meet] at four
  obtain rfl : 4 = r := by simpa using four
  have readsLine : Row.ReadsAs ⟨"x", "y"⟩ [Term.power (some 1 : PartialReal) (some 1)] := by
    have read : Row.ReadsAs ⟨"x", "y"⟩
        [Term.linear (Scalar.ofDecimal ⟨false, 1, 0⟩ : PartialReal)] := rfl
    simpa [Term.linear, ofDecimal_whole] using read
  have readsRoot : Row.ReadsAs ⟨"x", "sqrt(4y)"⟩
      [Term.root (some 1 : PartialReal) (some 4)] := by
    let scale : PartialReal := Scalar.ofDecimal ⟨false, 4, 0⟩
    have read : Row.ReadsAs ⟨"x", "sqrt(4y)"⟩ [Term.root (Scalar.ofDecimal ⟨false, 1, 0⟩)
        (if Scalar.equal scale (Scalar.ofNat 0) then Scalar.ofNat 1 else scale)] := rfl
    simpa [scale, ofDecimal_whole] using read
  exact ⟨found, described _ _
    ⟨rfl, rfl, _, _, _, _, rfl, readsLine, readsRoot, Or.inr rfl, rfl, rfl⟩⟩

end Region
end PlaneRegion
