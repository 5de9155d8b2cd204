import PlaneRegion.Proofs.Region.Inversion

/-!
# A lone outer bound

One constant for the outer variable is sorted together with the points in which the inner bounds
meet, and the region lies over the two least of these numbers. A number that occurs twice counts
twice, so if it is the least one, the region has no width.
-/

namespace PlaneRegion
namespace Region

/-! ## The two least numbers -/

/-- The two numbers are the least ones of a list, counted as often as they occur. -/
def AreLeast (values : List Float) (lower upper : Float) : Prop :=
  ∃ rest, values.Perm (lower :: upper :: rest) ∧ lower ≤ upper ∧ ∀ other ∈ rest, upper ≤ other

theorem areLeast_of_finitePair {values : List Float} {lower upper : Float}
    (pair : finitePair ((Scalar.ascending values).take 2) = some (lower, upper)) :
    AreLeast values lower upper := by
  obtain ⟨least, finiteLower, finiteUpper⟩ := eq_of_finitePair pair
  obtain ⟨rest, split⟩ : ∃ rest, Scalar.ascending values = lower :: upper :: rest := by
    refine ⟨(Scalar.ascending values).drop 2, ?_⟩
    rw [← List.take_append_drop 2 (Scalar.ascending values), least]
    rfl
  have sorted := Scalar.pairwise_ascending_binary64 values
  have same := (Scalar.ascending_perm values).symm
  rw [split] at sorted same
  exact ⟨rest, same, le_of_sorted sorted finiteLower List.mem_cons_self,
    fun _ member => le_of_sorted (List.pairwise_cons.mp sorted).2 finiteUpper member⟩

/-- The two least numbers differ exactly if the least one occurs once. -/
theorem AreLeast.lt_iff {values : List Float} {lower upper : Float}
    (least : AreLeast values lower upper) :
    lower < upper ↔ values.countP (· == lower) = 1 := by
  obtain ⟨rest, same, ordered, later⟩ := least
  obtain ⟨definedLower, definedUpper⟩ := Binary64.defined_of_le ordered
  have itself : (lower == lower) = true := (Binary64.beq_iff definedLower definedLower).mpr rfl
  rw [same.countP_eq, List.countP_cons_of_pos (p := (· == lower)) itself]
  constructor
  · intro less
    rw [Binary64.lt_iff definedLower definedUpper] at less
    have absent : (upper :: rest).countP (· == lower) = 0 := by
      refine List.countP_eq_zero.mpr fun other member => ?_
      rcases List.mem_cons.mp member with rfl | member
      · rw [Binary64.beq_iff definedUpper definedLower]
        exact less.ne'
      · have atLeast := later other member
        obtain ⟨-, definedOther⟩ := Binary64.defined_of_le atLeast
        rw [Binary64.le_iff definedUpper definedOther] at atLeast
        rw [Binary64.beq_iff definedOther definedLower]
        exact (less.trans_le atLeast).ne'
    rw [absent]
  · intro once
    have different : ¬ (upper == lower) = true :=
      List.countP_eq_zero.mp (Nat.succ_injective once) upper List.mem_cons_self
    rw [Binary64.beq_iff definedUpper definedLower] at different
    rw [Binary64.le_iff definedLower definedUpper] at ordered
    rw [Binary64.lt_iff definedLower definedUpper]
    exact lt_of_le_of_ne ordered (Ne.symm different)

theorem ascending_of_lt {lower upper : Float} (less : lower < upper) :
    Scalar.ascending [lower, upper] = [lower, upper] :=
  if_pos (decide_eq_true (Binary64.rank_lt_of_lt less).le)

/-- The lesser of two numbers stands twice in front once it is repeated. -/
theorem ascending_repeat_lower {lower upper : Float} (less : lower < upper) :
    Scalar.ascending [lower, lower, upper] = [lower, lower, upper] := by
  change Scalar.insertAscending lower (Scalar.ascending [lower, upper]) = _
  rw [ascending_of_lt less]
  exact if_pos (decide_eq_true le_rfl)

/-- The greater of two numbers stands behind the lesser one if it is repeated. -/
theorem ascending_repeat_upper {lower upper : Float} (less : lower < upper) :
    Scalar.ascending [upper, lower, upper] = [lower, upper, upper] := by
  have behind : ¬ Scalar.precedes upper lower = true := fun ranked =>
    (Binary64.rank_lt_of_lt less).not_ge (of_decide_eq_true ranked)
  change Scalar.insertAscending upper (Scalar.ascending [lower, upper]) = _
  rw [ascending_of_lt less, Scalar.insertAscending, if_neg behind]
  exact congrArg _ (if_pos (decide_eq_true le_rfl))

/-! ## Joining the bound -/

/-- Two texts for the inner variable are read as equations, and a single one for the outer variable
as a constant. -/
structure LoneBound (bounds : Bounds) (f g outer : Equation Float) : Prop where
  readsInner : AreRead bounds.inner [f, g]
  readsOuter : AreRead bounds.outer [outer]
  constant : isConstant outer = true

variable {bounds : Bounds} {f g outer : Equation Float}

theorem LoneBound.outerOf_eq (lone : LoneBound bounds f g outer) :
    outerOf [f, g] [outer] = mergeOuterBounds (differByUndefined [f, g])
      (some [outer.evaluate 0]) (intersections [f, g] : Traced (Event Float) _).value := by
  rw [outerOf, if_pos ⟨le_rfl, Nat.one_lt_two⟩, constants, if_pos (by simpa using lone.constant),
    ofNat_zero_binary64]
  rfl

/-- Solving does not fail, and the region lies over the two first of the lone bound and the
intersections in ascending order, if these are finite. -/
theorem LoneBound.exists_outcome (lone : LoneBound bounds f g outer) (order : IntegrationOrder) :
    ∃ result, (solve bounds order : Attempt (Event Float) EquationError _).outcome = .ok result ∧
      result.map outerEnds = (intersections [f, g] : Traced (Event Float) _).value.bind
        fun points => finitePair ((Scalar.ascending (outer.evaluate 0 :: points)).take 2) := by
  obtain ⟨result, solved, ends⟩ := exists_outcome_solve lone.readsInner lone.readsOuter order
  refine ⟨result, solved, ends.trans ?_⟩
  rw [lone.outerOf_eq]
  cases meet : (intersections [f, g] : Traced (Event Float) _).value with
  | none => rfl
  | some points =>
      cases undefined : differByUndefined [f, g] with
      | false => rfl
      | true =>
          -- The only point is not finite, so its place in the list does not matter.
          obtain ⟨point, rfl, infinite⟩ := derived_of_differByUndefined undefined meet
          have sorted : point ∈ Scalar.ascending [outer.evaluate 0, point] :=
            (Scalar.ascending_perm _).mem_iff.mpr (List.mem_cons_of_mem _ List.mem_cons_self)
          have short : (Scalar.ascending [outer.evaluate 0, point]).length ≤ 2 :=
            (Scalar.ascending_perm _).length_eq.le
          have joined : point ∈ joinOuterBounds true [outer.evaluate 0] [point] :=
            List.mem_cons_of_mem _ List.mem_cons_self
          rw [Option.bind_some, List.take_of_length_le short, finitePair_eq_none sorted infinite]
          exact finitePair_eq_none joined infinite

/-- A lone bound in the greater of two intersections adds nothing. -/
theorem LoneBound.outcome_eq_without (lone : LoneBound bounds f g outer) {lower upper : Float}
    (meet : (intersections [f, g] : Traced (Event Float) _).value = some [lower, upper])
    (less : lower < upper) (same : outer.evaluate 0 = upper) (order : IntegrationOrder) :
    (solve bounds order : Attempt (Event Float) EquationError _).outcome =
      (solve { bounds with outer := [] } order :
        Attempt (Event Float) EquationError _).outcome := by
  have defined : differByUndefined [f, g] = false := by
    by_contra undefined
    obtain ⟨point, single, -⟩ :=
      derived_of_differByUndefined (Bool.eq_true_of_not_eq_false undefined) meet
    cases single
  have joined : outerOf [f, g] [outer] = some [lower, upper] := by
    rw [lone.outerOf_eq, defined, same, meet]
    change some ((Scalar.ascending [upper, lower, upper]).take 2) = _
    rw [ascending_repeat_upper less]
    rfl
  have alone : (outerBounds { bounds with outer := [] } :
      Attempt (Event Float) EquationError _).outcome = .ok (outerOf [f, g] []) :=
    outcome_outerBounds_of_reads lone.readsInner .nil
  rw [outerOf_nil le_rfl, meet, ← joined,
    ← outcome_outerBounds_of_reads lone.readsInner lone.readsOuter] at alone
  refine outcome_solve_congr ?_ alone.symm order
  rfl

/-- Bounds that meet do so in some point. -/
theorem ne_nil_of_intersections {bounds : List (Equation Float)} {points : List Float}
    (meet : (intersections bounds : Traced (Event Float) _).value = some points) :
    points ≠ [] := by
  rcases of_intersections_eq_some meet with ⟨q, -, zero⟩ | ⟨-, _, _, _, -, -, rfl⟩
  · rcases of_zeros_eq_some zero with rfl | ⟨-, rfl⟩
    · exact List.cons_ne_nil _ _
    · refine List.length_pos_iff.mp ?_
      rw [zerosFrom, (Scalar.ascending_perm _).length_eq]
      exact Nat.two_pos
  · exact List.cons_ne_nil _ _

/-- Finite numbers, at least two, begin with a finite pair when they are sorted. -/
theorem exists_finitePair_ascending {values : List Float} (two : 2 ≤ values.length)
    (finite : ∀ value ∈ values, value.isFinite = true) :
    ∃ pair, finitePair ((Scalar.ascending values).take 2) = some pair := by
  have same := Scalar.ascending_perm values
  rw [← same.length_eq] at two
  match sorted : Scalar.ascending values with
  | [] | [_] =>
      rw [sorted] at two
      simp at two
  | lower :: upper :: rest =>
      rw [sorted] at same
      have finiteLower := finite lower (same.mem_iff.mp (by simp))
      have finiteUpper := finite upper (same.mem_iff.mp (by simp))
      refine ⟨(lower, upper), if_pos ?_⟩
      exact Bool.and_eq_true_iff.mpr ⟨finiteLower, finiteUpper⟩

/-! ## Closed and collapsed regions -/

/-- With a lone outer bound a region is described if the inner bounds meet and all numbers are
finite. It lies over the two least of the bound and the intersections, and it has a width exactly if
the least of these occurs once. Of two different intersections the greater one adds nothing as a
lone bound, while the lesser one leaves a region of no width. -/
theorem lone_bound_closes_iff (order : IntegrationOrder) (lone : LoneBound bounds f g outer) :
    ∃ result, (solve bounds order : Attempt (Event Float) EquationError _).outcome = .ok result ∧
      ((intersections [f, g] : Traced (Event Float) _).value = none → result = none) ∧
      ∀ points, (intersections [f, g] : Traced (Event Float) _).value = some points →
        ((∀ value ∈ outer.evaluate 0 :: points, value.isFinite = true) →
          result.isSome = true) ∧
        (∀ region ∈ result,
          AreLeast (outer.evaluate 0 :: points) region.outerLower region.outerUpper ∧
          (region.outerLower < region.outerUpper ↔
            (outer.evaluate 0 :: points).countP (· == region.outerLower) = 1)) ∧
        ∀ lower upper, points = [lower, upper] → lower < upper →
          (outer.evaluate 0 = upper →
            (solve { bounds with outer := [] } order :
              Attempt (Event Float) EquationError _).outcome = .ok result) ∧
          (outer.evaluate 0 = lower →
            ∀ region ∈ result, outerEnds region = (lower, lower)) := by
  obtain ⟨result, solved, ends⟩ := lone.exists_outcome order
  refine ⟨result, solved, fun none => ?_, fun points meet => ⟨fun finite => ?_, ?_, ?_⟩⟩
  · rw [none, Option.bind_none] at ends
    exact Option.map_eq_none_iff.mp ends
  · have two : 2 ≤ (outer.evaluate 0 :: points).length := by
      have some := List.length_pos_iff.mpr (ne_nil_of_intersections meet)
      rw [List.length_cons]
      omega
    obtain ⟨pair, found⟩ := exists_finitePair_ascending two finite
    rw [meet, Option.bind_some, found] at ends
    rw [← Option.isSome_map (f := outerEnds), ends]
    rfl
  · rintro region ⟨⟩
    rw [meet, Option.bind_some] at ends
    have least := areLeast_of_finitePair ends.symm
    exact ⟨least, least.lt_iff⟩
  · rintro lower upper rfl less
    refine ⟨fun same => ?_, ?_⟩
    · rw [← lone.outcome_eq_without meet less same order, solved]
    · rintro same region ⟨⟩
      rw [meet, Option.bind_some, same, ascending_repeat_lower less] at ends
      obtain ⟨twice, -⟩ := eq_of_finitePair ends.symm
      obtain ⟨first, second⟩ := List.cons_eq_cons.mp twice
      exact Prod.ext first.symm (List.cons_eq_cons.mp second).1.symm

private theorem loneBound_parabola_and_level (text : String) (value : Float)
    (reads : (Equation.read text : Attempt (Event Float) EquationError _).outcome =
      .ok [Term.constant value]) :
    LoneBound ⟨["x^2", "4"], [text]⟩ [.power 1 2] [.constant 4] [.constant value] where
  readsInner := .cons (by decide) (.cons (by decide) .nil)
  readsOuter := .cons reads .nil
  constant := rfl

private theorem intersections_parabola_and_level :
    (intersections [[.power 1 2], [.constant 4]] : Traced (Event Float) _).value =
      some [-2, 2] := by
  decide +kernel

private theorem LoneBound.exists_region (lone : LoneBound bounds f g outer)
    (order : IntegrationOrder) (pair : Float × Float) {points : List Float}
    (meet : (intersections [f, g] : Traced (Event Float) _).value = some points)
    (least : finitePair ((Scalar.ascending (outer.evaluate 0 :: points)).take 2) = some pair) :
    ∃ region, (solve bounds order : Attempt (Event Float) EquationError _).outcome =
      .ok (some region) ∧ outerEnds region = pair := by
  obtain ⟨result, solved, ends⟩ := lone.exists_outcome order
  rw [meet, Option.bind_some, least] at ends
  obtain ⟨region, rfl, same⟩ := Option.map_eq_some_iff.mp ends
  exact ⟨region, solved, same⟩

/-- The parabola meets the level `4` in `-2` and `2`, and `2` as a lone bound adds nothing. -/
theorem lone_bound_in_greater_intersection :
    ∃ region : Region Float,
      (solve ⟨["x^2", "4"], ["2"]⟩ .dyDx : Attempt (Event Float) EquationError _).outcome =
        .ok (some region) ∧
      (solve ⟨["x^2", "4"], []⟩ .dyDx : Attempt (Event Float) EquationError _).outcome =
        .ok (some region) ∧
      outerEnds region = (-2, 2) ∧ region.outerLower < region.outerUpper := by
  have lone := loneBound_parabola_and_level "2" 2 (by decide +kernel)
  have meet := intersections_parabola_and_level
  obtain ⟨region, described, ends⟩ :=
    lone.exists_region .dyDx (-2, 2) meet (by decide +kernel)
  obtain ⟨result, solved, -, closes⟩ := lone_bound_closes_iff .dyDx lone
  cases described.symm.trans solved
  obtain ⟨-, least, coincide⟩ := closes _ meet
  obtain ⟨without, -⟩ := coincide (-2) 2 rfl (by decide +kernel)
  obtain ⟨lower, -⟩ := Prod.mk.inj ends
  refine ⟨region, solved, without (by decide +kernel), ends, (least region rfl).2.mpr ?_⟩
  rw [lower]
  decide +kernel

/-- With `-2` as the lone bound the region between the parabola and the level `4` lies over the
single point `-2`. -/
theorem exists_collapsed_region :
    ∃ region : Region Float,
      (solve ⟨["x^2", "4"], ["-2"]⟩ .dyDx : Attempt (Event Float) EquationError _).outcome =
        .ok (some region) ∧
      (intersections [[.power 1 2], [.constant 4]] : Traced (Event Float) _).value =
        some [-2, 2] ∧
      outerEnds region = (-2, -2) ∧ ¬ region.outerLower < region.outerUpper := by
  have lone := loneBound_parabola_and_level "-2" (-2) (by decide +kernel)
  have meet := intersections_parabola_and_level
  obtain ⟨region, described, ends⟩ :=
    lone.exists_region .dyDx (-2, -2) meet (by decide +kernel)
  obtain ⟨lower, upper⟩ := Prod.mk.inj ends
  refine ⟨region, described, meet, ends, ?_⟩
  rw [lower, upper]
  decide +kernel

end Region
end PlaneRegion
