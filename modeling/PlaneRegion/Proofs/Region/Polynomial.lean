import PlaneRegion.Proofs.Region.Outcome
import PlaneRegion.Proofs.Region.Quadratic

/-!
# Regions between polynomials

Two polynomials of degree at most two enclose a region between two of their intersections, or
between an intersection and one explicit bound. No sign of their difference changes strictly between
the outer bounds, so the comparison in the middle orders the inner bounds everywhere.
-/

namespace PlaneRegion
namespace Region

/-- The rows hold exactly two polynomials of degree at most two for the inner variable. -/
structure PolynomialRows (rows : List Row) (order : IntegrationOrder) (first second : Row)
    (f g : Equation ℝ) : Prop where
  ordered : (integrationOrder rows : Traced (Event ℝ) _).value = some order
  inner : rows.filter (isRowOf order.inner) = [first, second]
  readsFirst : first.ReadsAs f
  readsSecond : second.ReadsAs g
  firstPowers : ∀ term ∈ f, ∃ degree, term.HasDegree degree
  secondPowers : ∀ term ∈ g, ∃ degree, term.HasDegree degree

/-- The inner bounds are the equations of two rows, the lesser one first over the whole outer
interval. -/
def InnerOrdered (region : Region ℝ) (first second : Row) (f g : Equation ℝ) : Prop :=
  (region.innerLower = first.body ∧ region.innerUpper = second.body ∧
    ∀ t ∈ Set.Icc region.outerLower region.outerUpper, f.evaluate t ≤ g.evaluate t) ∨
  (region.innerLower = second.body ∧ region.innerUpper = first.body ∧
    ∀ t ∈ Set.Icc region.outerLower region.outerUpper, g.evaluate t ≤ f.evaluate t)

private theorem isQuadratic_of_reads {row : Row} {equation : Equation ℝ}
    (reads : row.ReadsAs equation)
    (powers : ∀ term ∈ equation, ∃ degree, term.HasDegree degree) : equation.IsQuadratic := by
  intro term member
  obtain ⟨degree, known⟩ := powers term member
  have power : term.isPower = true := by simp [Term.isPower, known.1]
  have plain := Equation.scale_of_mem_of_outcome_read reads member power
  rw [Scalar.ofNat_real, Nat.cast_one] at plain
  exact ⟨plain, degree, known⟩

private theorem evaluate_of_constants {row : Row} {equation : Equation ℝ}
    (reads : row.ReadsAs equation) (constants : ∀ term ∈ equation, term.HasDegree 0) (t : ℝ) :
    equation.evaluate t = (equation.map Term.coefficient).sum := by
  have quadratic := isQuadratic_of_reads reads fun term member => ⟨0, constants term member⟩
  rw [Equation.evaluate, Scalar.sum_real]
  congr 1
  refine List.map_congr_left fun term member => ?_
  rw [Term.evaluate_of_hasDegree (quadratic term member).1 (constants term member)]
  simp

private theorem isConstant_of_hasDegree {equation : Equation ℝ}
    (constants : ∀ term ∈ equation, term.HasDegree 0) : isConstant equation = true := by
  rw [isConstant, List.all_eq_true]
  intro term member
  rw [Term.degree?_of_hasDegree (constants term member)]
  rfl

theorem finitePair_eq_some_iff (values : List ℝ) (lower upper : ℝ) :
    finitePair values = some (lower, upper) ↔ values = [lower, upper] := by
  unfold finitePair
  split
  · simp
  · rename_i other
    constructor
    · intro found
      cases found
    · intro same
      exact absurd same (other _ _)

/-- Between outer bounds that enclose no zero of the difference, the inner bounds are in order. -/
theorem innerOrdered_between {first second : Row} {f g : Equation ℝ} {q : Quadratic ℝ}
    (difference : ∀ t, q.value t = f.evaluate t - g.evaluate t) (order : IntegrationOrder)
    {lower upper : ℝ} (free : ∀ t, lower < t → t < upper → q.value t ≠ 0) :
    InnerOrdered (between first second f g order (lower, upper)) first second f g := by
  have middle : (lower + upper) / Scalar.ofNat 2 = (lower + upper) / 2 := by
    rw [Scalar.ofNat_real, Nat.cast_ofNat]
  unfold InnerOrdered between
  simp only [middle, Scalar.less_real, decide_eq_true_eq]
  split_ifs with above
  · refine Or.inr ⟨rfl, rfl, fun t inside => ?_⟩
    have sign := nonpos_of_middle q.continuous_value.neg
      (fun t above below => neg_ne_zero.mpr (free t above below))
      (by simp only [Pi.neg_apply, difference]; linarith) t inside
    simp only [Pi.neg_apply, difference] at sign
    linarith
  · refine Or.inl ⟨rfl, rfl, fun t inside => ?_⟩
    have sign := nonpos_of_middle q.continuous_value free (by rw [difference]; linarith) t inside
    rw [difference] at sign
    linarith

section

variable {rows : List Row} {order : IntegrationOrder} {first second : Row} {f g : Equation ℝ}

private theorem intersections_of_difference {q : Quadratic ℝ}
    (found : difference [f, g] = some q) :
    (intersections [f, g] : Traced (Event ℝ) _).value =
      (zeros q : Traced (Event ℝ) _).value := by
  rw [intersections, found]
  rfl

private theorem describe_without_bound (given : PolynomialRows rows order first second f g)
    {q : Quadratic ℝ} (found : difference [f, g] = some q)
    (unbounded : rows.filter (isRowOf order.outer) = []) :
    (describe rows : Attempt (Event ℝ) EquationError _).outcome =
      .ok (((zeros q : Traced (Event ℝ) _).value.bind finitePair).map
        (between first second f g order)) := by
  have outer : List.Forall₂ Row.ReadsAs (rows.filter (isRowOf order.outer))
      ([] : List (Equation ℝ)) := by
    rw [unbounded]
    exact .nil
  have merged := outcome_outerBounds given.inner given.readsFirst given.readsSecond outer
    (by decide) (by simp)
  rw [intersections_of_difference found] at merged
  exact outcome_describe given.ordered given.inner given.readsFirst given.readsSecond merged

private theorem describe_with_bound (given : PolynomialRows rows order first second f g)
    {q : Quadratic ℝ} (found : difference [f, g] = some q) {bound : Row} {h : Equation ℝ}
    (bounded : rows.filter (isRowOf order.outer) = [bound]) (readsBound : bound.ReadsAs h)
    (constants : ∀ term ∈ h, term.HasDegree 0) :
    (describe rows : Attempt (Event ℝ) EquationError _).outcome =
      .ok (((zeros q : Traced (Event ℝ) _).value.bind fun roots =>
        finitePair ((Scalar.ascending ((h.map Term.coefficient).sum :: roots)).take 2)).map
          (between first second f g order)) := by
  have outer : List.Forall₂ Row.ReadsAs (rows.filter (isRowOf order.outer)) [h] := by
    rw [bounded]
    exact .cons readsBound .nil
  have merged := outcome_outerBounds given.inner given.readsFirst given.readsSecond outer
    (by simp) (by simpa using isConstant_of_hasDegree constants)
  have defined : differByUndefined [f, g] = false := by
    simp [differByUndefined, found]
  rw [intersections_of_difference found, defined, List.map_singleton,
    evaluate_of_constants readsBound constants] at merged
  rw [outcome_describe given.ordered given.inner given.readsFirst given.readsSecond merged]
  cases (zeros q : Traced (Event ℝ) _).value <;> rfl

private theorem describe_parabola (given : PolynomialRows rows order first second f g)
    (unbounded : rows.filter (isRowOf order.outer) = []) :
    ∃ result, (describe rows : Attempt (Event ℝ) EquationError _).outcome = .ok result ∧
      (result.isSome = true ↔ ∃ a b c : ℝ, a ≠ 0 ∧ 0 ≤ discrim a b c ∧
        ∀ t, f.evaluate t - g.evaluate t = a * (t * t) + b * t + c) ∧
      ∀ region ∈ result,
        {t | f.evaluate t = g.evaluate t} = {region.outerLower, region.outerUpper} ∧
        region.outerLower ≤ region.outerUpper ∧ InnerOrdered region first second f g := by
  obtain ⟨q, found, difference⟩ := difference_eq_some
    (isQuadratic_of_reads given.readsFirst given.firstPowers)
    (isQuadratic_of_reads given.readsSecond given.secondPowers)
  refine ⟨_, describe_without_bound given found unbounded, ?_, ?_⟩
  · have pair_iff : ((zeros q : Traced (Event ℝ) _).value.bind finitePair).isSome = true ↔
        ∃ lower upper, (zeros q : Traced (Event ℝ) _).value = some [lower, upper] := by
      simp only [Option.isSome_iff_exists, Option.bind_eq_some_iff, Prod.exists,
        finitePair_eq_some_iff]
      simp
    rw [Option.isSome_map, pair_iff, exists_two_zeros_iff]
    constructor
    · rintro ⟨curved, real⟩
      exact ⟨_, _, _, curved, real, fun t => (difference t).symm⟩
    · rintro ⟨a, b, c, curved, real, same⟩
      obtain ⟨rfl, rfl, rfl⟩ := Quadratic.eq_of_value fun t => (difference t).trans (same t)
      exact ⟨curved, real⟩
  · intro region described
    obtain ⟨⟨lower, upper⟩, ends, rfl⟩ := Option.map_eq_some_iff.mp described
    obtain ⟨roots, solved, pair⟩ := Option.bind_eq_some_iff.mp ends
    rw [finitePair_eq_some_iff] at pair
    subst pair
    have zeros := areZeros_of_zeros solved
    have least : lower ≤ upper := by simpa using zeros.ascending
    refine ⟨?_, least, innerOrdered_between difference order ?_⟩
    · ext t
      rw [Set.mem_ofPred_eq, ← sub_eq_zero, ← difference, ← zeros.mem_iff]
      simp [between]
    · intro t above below vanishes
      rcases List.mem_pair.mp ((zeros.mem_iff t).mpr vanishes) with rfl | rfl
      · exact lt_irrefl _ above
      · exact lt_irrefl _ below

private theorem describe_bounded (given : PolynomialRows rows order first second f g)
    {bound : Row} {h : Equation ℝ} (bounded : rows.filter (isRowOf order.outer) = [bound])
    (readsBound : bound.ReadsAs h) (constants : ∀ term ∈ h, term.HasDegree 0) :
    ∃ result, (describe rows : Attempt (Event ℝ) EquationError _).outcome = .ok result ∧
      (result.isSome = true ↔ (¬∃ k, ∀ t, f.evaluate t - g.evaluate t = k) ∧
        ∃ t, f.evaluate t = g.evaluate t) ∧
      ∀ region ∈ result,
        (∃ q roots rest, difference [f, g] = some q ∧
          (zeros q : Traced (Event ℝ) _).value = some roots ∧
          (∀ t, t ∈ roots ↔ f.evaluate t = g.evaluate t) ∧
          ((h.map Term.coefficient).sum :: roots).Perm
            (region.outerLower :: region.outerUpper :: rest) ∧
          ∀ other ∈ rest, region.outerUpper ≤ other) ∧
        region.outerLower ≤ region.outerUpper ∧ InnerOrdered region first second f g := by
  obtain ⟨q, found, difference⟩ := difference_eq_some
    (isQuadratic_of_reads given.readsFirst given.firstPowers)
    (isQuadratic_of_reads given.readsSecond given.secondPowers)
  have merged : ∀ {roots}, (zeros q : Traced (Event ℝ) _).value = some roots →
      2 ≤ ((h.map Term.coefficient).sum :: roots).length := by
    intro roots solved
    have some_root := List.length_pos_iff.mpr (areZeros_of_zeros solved).ne_nil
    rw [List.length_cons]
    omega
  refine ⟨_, describe_with_bound given found bounded readsBound constants, ?_, ?_⟩
  · have solved_iff : ((zeros q : Traced (Event ℝ) _).value.bind fun roots => finitePair
        ((Scalar.ascending ((h.map Term.coefficient).sum :: roots)).take 2)).isSome = true ↔
        ∃ roots, (zeros q : Traced (Event ℝ) _).value = some roots := by
      cases solved : (zeros q : Traced (Event ℝ) _).value with
      | none => simp
      | some roots =>
          obtain ⟨lower, upper, rest, sorted, _⟩ := Scalar.exists_ascending_eq (merged solved)
          simp [sorted, finitePair]
    rw [Option.isSome_map, solved_iff, exists_zeros_iff]
    simp only [difference, sub_eq_zero]
  · intro region described
    obtain ⟨⟨lower, upper⟩, ends, rfl⟩ := Option.map_eq_some_iff.mp described
    obtain ⟨roots, solved, pair⟩ := Option.bind_eq_some_iff.mp ends
    obtain ⟨least, next, rest, sorted, same, ascending, later⟩ :=
      Scalar.exists_ascending_eq (merged solved)
    rw [finitePair_eq_some_iff, sorted] at pair
    obtain ⟨rfl, rfl⟩ : least = lower ∧ next = upper := by simpa using pair
    have meet : ∀ t, t ∈ roots ↔ f.evaluate t = g.evaluate t := by
      intro t
      rw [(areZeros_of_zeros solved).mem_iff, difference, sub_eq_zero]
    refine ⟨⟨q, roots, rest, found, solved, meet, same, later⟩, ascending,
      innerOrdered_between difference order ?_⟩
    intro t above below vanishes
    have root : t ∈ (h.map Term.coefficient).sum :: roots :=
      List.mem_cons_of_mem _ (((areZeros_of_zeros solved).mem_iff t).mpr vanishes)
    rcases List.mem_cons.mp (same.mem_iff.mp root) with rfl | root
    · exact lt_irrefl _ above
    rcases List.mem_cons.mp root with rfl | root
    · exact lt_irrefl _ below
    · exact absurd below (not_lt.mpr (later t root))

private theorem PolynomialRows.exchange (given : PolynomialRows rows order first second f g)
    {others : List Row} (same : others.Perm rows)
    (inner : others.filter (isRowOf order.inner) = [second, first]) :
    PolynomialRows others order second first g f where
  ordered := by
    rw [← given.ordered]
    show orderOf _ _ = orderOf _ _
    rw [same.countP_eq, same.countP_eq]
  inner := inner
  readsFirst := given.readsSecond
  readsSecond := given.readsFirst
  firstPowers := given.secondPowers
  secondPowers := given.firstPowers

private theorem eq_of_pair_eq {lower upper least greatest : ℝ} (ascending : lower ≤ upper)
    (inOrder : least ≤ greatest) (same : ({lower, upper} : Set ℝ) = {least, greatest}) :
    lower = least ∧ upper = greatest := by
  rcases Set.pair_eq_pair_iff.mp same with ⟨rfl, rfl⟩ | ⟨rfl, rfl⟩
  · exact ⟨rfl, rfl⟩
  · exact ⟨ascending.antisymm inOrder, inOrder.antisymm ascending⟩

/-- Two polynomials of degree at most two enclose a region without explicit bound exactly if they
differ by a quadratic with real zeros, which then are the outer bounds whichever row comes first.
With one explicit bound they enclose a region exactly if they meet and do not differ by a constant,
and the outer bounds are the two least of the explicit bound and the zeros. In both cases the inner
bounds are in order over the whole outer interval. -/
theorem describe_polynomialRows (given : PolynomialRows rows order first second f g) :
    (rows.filter (isRowOf order.outer) = [] →
      ∃ result, (describe rows : Attempt (Event ℝ) EquationError _).outcome = .ok result ∧
        (result.isSome = true ↔ ∃ a b c : ℝ, a ≠ 0 ∧ 0 ≤ discrim a b c ∧
          ∀ t, f.evaluate t - g.evaluate t = a * (t * t) + b * t + c) ∧
        ∀ region ∈ result,
          {t | f.evaluate t = g.evaluate t} = {region.outerLower, region.outerUpper} ∧
          region.outerLower ≤ region.outerUpper ∧ InnerOrdered region first second f g ∧
          ∀ others : List Row, others.Perm rows →
            others.filter (isRowOf order.inner) = [second, first] →
            ∃ other : Region ℝ,
              (describe others : Attempt (Event ℝ) EquationError _).outcome = .ok (some other) ∧
              other.outerLower = region.outerLower ∧ other.outerUpper = region.outerUpper) ∧
    ∀ (bound : Row) (h : Equation ℝ), rows.filter (isRowOf order.outer) = [bound] →
      bound.ReadsAs h → (∀ term ∈ h, term.HasDegree 0) →
      ∃ result, (describe rows : Attempt (Event ℝ) EquationError _).outcome = .ok result ∧
        (result.isSome = true ↔ (¬∃ k, ∀ t, f.evaluate t - g.evaluate t = k) ∧
          ∃ t, f.evaluate t = g.evaluate t) ∧
        ∀ region ∈ result,
          (∃ q roots rest, difference [f, g] = some q ∧
            (zeros q : Traced (Event ℝ) _).value = some roots ∧
            (∀ t, t ∈ roots ↔ f.evaluate t = g.evaluate t) ∧
            ((h.map Term.coefficient).sum :: roots).Perm
              (region.outerLower :: region.outerUpper :: rest) ∧
            ∀ other ∈ rest, region.outerUpper ≤ other) ∧
          region.outerLower ≤ region.outerUpper ∧ InnerOrdered region first second f g := by
  refine ⟨fun unbounded => ?_, fun bound h bounded reads constants =>
    describe_bounded given bounded reads constants⟩
  obtain ⟨result, outcome, exists_iff, ends⟩ := describe_parabola given unbounded
  refine ⟨result, outcome, exists_iff, fun region described => ?_⟩
  obtain ⟨meet, ascending, ordered⟩ := ends region described
  refine ⟨meet, ascending, ordered, fun others same inner => ?_⟩
  have stillUnbounded : others.filter (isRowOf order.outer) = [] := by
    have permuted := same.filter (isRowOf order.outer)
    rw [unbounded] at permuted
    exact permuted.eq_nil
  obtain ⟨exchanged, exchangedOutcome, exchanged_iff, exchangedEnds⟩ :=
    describe_parabola (given.exchange same inner) stillUnbounded
  obtain ⟨a, b, c, curved, real, difference⟩ :=
    exists_iff.mp (Option.isSome_iff_exists.mpr ⟨region, described⟩)
  have opposite : exchanged.isSome = true := by
    refine exchanged_iff.mpr ⟨-a, -b, -c, neg_ne_zero.mpr curved, ?_, fun t => ?_⟩
    · simpa [discrim] using real
    · linarith [difference t]
  obtain ⟨other, rfl⟩ := Option.isSome_iff_exists.mp opposite
  obtain ⟨otherMeet, otherAscending, _⟩ := exchangedEnds other rfl
  refine ⟨other, exchangedOutcome, eq_of_pair_eq otherAscending ascending ?_⟩
  rw [← otherMeet, ← meet]
  ext t
  exact eq_comm

end

private noncomputable def parabola : Equation ℝ :=
  [Term.power (Scalar.ofDecimal ⟨false, 1, 0⟩) (Scalar.ofDecimal ⟨false, 2, 0⟩)]

private noncomputable def level : Equation ℝ :=
  [Term.constant (Scalar.ofDecimal ⟨false, 4, 0⟩)]

private theorem polynomialRows_parabola {rows : List Row}
    (ordered : (integrationOrder rows : Traced (Event ℝ) _).value = some .dyDx)
    (inner : rows.filter (isRowOf .y) = [⟨"y", "x^2"⟩, ⟨"y", "4"⟩]) :
    PolynomialRows rows .dyDx ⟨"y", "x^2"⟩ ⟨"y", "4"⟩ parabola level where
  ordered := ordered
  inner := inner
  readsFirst := rfl
  readsSecond := rfl
  firstPowers := by
    refine List.forall_mem_singleton.mpr ⟨2, rfl, ?_⟩
    simp [Term.power, Scalar.ofDecimal]
  secondPowers := by
    refine List.forall_mem_singleton.mpr ⟨0, rfl, ?_⟩
    simp [Term.constant, Term.power]

private theorem parabola_sub_level (t : ℝ) :
    parabola.evaluate t - level.evaluate t = t * t - 4 := by
  simp [parabola, level, Equation.evaluate, Scalar.sum_real, Term.evaluate, Term.power,
    Term.constant, Scalar.ofDecimal, sq]

/-- The parabola and the line meet at `-2` and `2`; a bound between these closes the region as
well. -/
theorem describe_parabola_and_level :
    (∃ region : Region ℝ,
      (describe [⟨"y", "x^2"⟩, ⟨"y", "4"⟩] : Attempt (Event ℝ) EquationError _).outcome =
        .ok (some region) ∧ region.outerLower = -2 ∧ region.outerUpper = 2) ∧
    ∃ region : Region ℝ,
      (describe [⟨"x", "1"⟩, ⟨"y", "x^2"⟩, ⟨"y", "4"⟩] :
        Attempt (Event ℝ) EquationError _).outcome = .ok (some region) := by
  constructor
  · have given : PolynomialRows [⟨"y", "x^2"⟩, ⟨"y", "4"⟩] .dyDx _ _ parabola level :=
      polynomialRows_parabola (by decide) (by decide)
    obtain ⟨result, outcome, exists_iff, ends⟩ := (describe_polynomialRows given).1 (by decide)
    have meets : result.isSome = true := by
      refine exists_iff.mpr ⟨1, 0, -4, one_ne_zero, by norm_num [discrim], fun t => ?_⟩
      rw [parabola_sub_level]
      ring
    obtain ⟨region, rfl⟩ := Option.isSome_iff_exists.mp meets
    obtain ⟨meet, ascending, _⟩ := ends region rfl
    refine ⟨region, outcome, eq_of_pair_eq ascending (by norm_num) ?_⟩
    rw [← meet]
    ext t
    have factors : t * t - 4 = (t + 2) * (t - 2) := by ring
    rw [Set.mem_ofPred_eq, ← sub_eq_zero, parabola_sub_level, factors, mul_eq_zero, sub_eq_zero,
      add_eq_zero_iff_eq_neg, Set.mem_insert_iff, Set.mem_singleton_iff]
  · have given : PolynomialRows [⟨"x", "1"⟩, ⟨"y", "x^2"⟩, ⟨"y", "4"⟩] .dyDx _ _ parabola level :=
      polynomialRows_parabola (by decide) (by decide)
    let one : Equation ℝ := [Term.constant (Scalar.ofDecimal ⟨false, 1, 0⟩)]
    have constant : ∀ term ∈ one, term.HasDegree 0 := by
      refine List.forall_mem_singleton.mpr ⟨rfl, ?_⟩
      simp [Term.constant, Term.power]
    obtain ⟨result, outcome, exists_iff, _⟩ :=
      (describe_polynomialRows given).2 ⟨"x", "1"⟩ one (by decide) rfl constant
    have meets : result.isSome = true := by
      refine exists_iff.mpr ⟨?_, 2, ?_⟩
      · rintro ⟨k, same⟩
        have atZero := same 0
        have atOne := same 1
        rw [parabola_sub_level] at atZero atOne
        linarith
      · rw [← sub_eq_zero, parabola_sub_level]
        norm_num
    obtain ⟨region, rfl⟩ := Option.isSome_iff_exists.mp meets
    exact ⟨region, outcome⟩

end Region
end PlaneRegion
