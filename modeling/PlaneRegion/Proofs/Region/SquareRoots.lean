import PlaneRegion.Proofs.Binary64.Power
import PlaneRegion.Proofs.Region.Meeting

/-!
# Two square roots

A power of degree one half is a square root, and two square roots have no isolated point in common
but zero. Held against each other as a square root and a power they are nevertheless said to meet,
in zero or in one: the second point is the quotient of the curves raised to the power infinity,
which is finite for every quotient from minus one to one.
-/

namespace PlaneRegion
namespace Region

open Attempt

/-! ## The second meeting point -/

/-- The quotient of `c₁ * sqrt (a * t)` and `c₂ * sqrt t`, as it is computed. -/
def rootQuotient (c₁ a c₂ : Float) : Float :=
  c₁ / c₂ * a.sqrt

/-- What is computed as the second meeting point is an infinite power of the quotient. -/
theorem meetingPoint_half (c₁ a c₂ : Float) :
    meetingPoint c₁ a c₂ 0.5 = Binary64.power (rootQuotient c₁ a c₂) (1 / 0) := by
  have exponent : (Scalar.ofNat 1 / (0.5 - Scalar.half) : Float) = 1 / 0 := by decide
  rw [meetingPoint, exponent]
  rfl

/-- Two square roots are said to meet if their quotient lies between minus one and one: in zero
twice, or in zero and one if the quotient is minus one or one. -/
theorem rootMeetsPower_half_eq_some_iff (c₁ a c₂ : Float) (ends : Float × Float) :
    (rootMeetsPower (Term.root c₁ a) (Term.power c₂ 0.5) : Traced (Event Float) _).value =
        some ends ↔
      (-1 ≤ rootQuotient c₁ a c₂ ∧ rootQuotient c₁ a c₂ ≤ 1) ∧
        ends = (0, if -1 < rootQuotient c₁ a c₂ ∧ rootQuotient c₁ a c₂ < 1 then 0 else 1) := by
  have finite := Binary64.isFinite_power_infinity_iff (rootQuotient c₁ a c₂)
  rw [value_rootMeetsPower, meetingPoint_half, ofNat_zero_binary64]
  change (if Float.isFinite _ = true then _ else _) = _ ↔ _
  by_cases between : -1 ≤ rootQuotient c₁ a c₂ ∧ rootQuotient c₁ a c₂ ≤ 1
  · rw [if_pos (finite.mpr between), Binary64.power_infinity_of_le between, Option.some_inj,
      and_iff_right between, eq_comm]
  · rw [if_neg (mt finite.mp between)]
    simp [between]

/-! ## Rows of square roots -/

/-- The equations for the inner variable are two square roots, in either order, of which one is
written as a power of degree one half. -/
structure SquareRootRows (rows : List Row) (order : IntegrationOrder) (c₁ a c₂ : Float) : Prop where
  ordered : (integrationOrder rows : Traced (Event Float) _).value = some order
  inner : ∃ f g, AreRead (equationsFor order.inner rows) [f, g] ∧
    RootAgainstPower [f, g] (Term.root c₁ a) (Term.power c₂ 0.5)

variable {rows : List Row} {order : IntegrationOrder} {c₁ a c₂ : Float}

theorem isPlainPower_half : isPlainPower (Term.power c₂ 0.5) = true := by
  have one : Scalar.equal (Scalar.ofNat 1 : Float) (Scalar.ofNat 1) = true := by decide
  rw [isPlainPower, Term.isPower, Term.power, one]
  rfl

/-- Without outer bounds the region lies over the points in which the square roots are said to
meet. -/
theorem SquareRootRows.exists_outcome (given : SquareRootRows rows order c₁ a c₂)
    (alone : equationsFor order.outer rows = []) :
    ∃ result, (describe rows : Attempt (Event Float) EquationError _).outcome = .ok result ∧
      result.map outerEnds = (rootMeetsPower (Term.root c₁ a) (Term.power c₂ 0.5) :
        Traced (Event Float) _).value := by
  obtain ⟨f, g, readsInner, against⟩ := given.inner
  have readsOuter : AreRead (givenBounds rows order).outer ([] : List (Equation Float)) := by
    rw [givenBounds, alone]
    exact .nil
  obtain ⟨result, solved, ends⟩ := exists_outcome_solve readsInner readsOuter order
  refine ⟨result, (outcome_describe_of_ordered given.ordered).trans solved, ends.trans ?_⟩
  have zero : Scalar.isFinite (Scalar.ofNat 0 : Float) = true := by decide
  rw [outerOf_nil le_rfl, intersections_of_rootAgainstPower against isPlainPower_half,
    value_rootMeetsPower]
  split_ifs with finite
  · exact if_pos (Bool.and_eq_true_iff.mpr ⟨zero, finite⟩)
  · rfl

/-- Square roots that are not said to meet bound a region only with two explicit outer bounds. -/
theorem SquareRootRows.length_of_describe (given : SquareRootRows rows order c₁ a c₂)
    (beyond : ¬(-1 ≤ rootQuotient c₁ a c₂ ∧ rootQuotient c₁ a c₂ ≤ 1)) {region : Region Float}
    (described : (describe rows : Attempt (Event Float) EquationError _).outcome =
      .ok (some region)) : (equationsFor order.outer rows).length = 2 := by
  obtain ⟨f, g, readsInner, against⟩ := given.inner
  have apart : (intersections [f, g] : Traced (Event Float) _).value = none := by
    rw [intersections_of_rootAgainstPower against isPlainPower_half, Option.map_eq_none_iff,
      Option.eq_none_iff_forall_ne_some]
    intro ends found
    exact beyond ((rootMeetsPower_half_eq_some_iff _ _ _ _).mp found).1
  rw [outcome_describe_of_ordered given.ordered] at described
  obtain ⟨_, _, _, _, solution⟩ := exists_isSolution_of_solve described
  obtain ⟨outer, found, -⟩ := solution.ends
  rcases of_outerBounds_eq_some found with
    ⟨-, given, inner, -, read, merged⟩ | ⟨⟨-, two⟩, -⟩
  · cases (outcome_readAll readsInner).symm.trans read
    rw [apart] at merged
    rcases given with _ | _ | _ <;> cases merged
  · exact two

/-- A square root and a power of degree one half are said to meet exactly if their quotient lies
between minus one and one. The region that is then described from them alone lies over these two
points; for other quotients a region between them has two explicit outer bounds. -/
theorem square_roots_meet_iff (c₁ a c₂ : Float) :
    (∀ ends, (rootMeetsPower (Term.root c₁ a) (Term.power c₂ 0.5) :
        Traced (Event Float) _).value = some ends ↔
      (-1 ≤ rootQuotient c₁ a c₂ ∧ rootQuotient c₁ a c₂ ≤ 1) ∧
        ends = (0, if -1 < rootQuotient c₁ a c₂ ∧ rootQuotient c₁ a c₂ < 1 then 0 else 1)) ∧
    ∀ rows order, SquareRootRows rows order c₁ a c₂ →
      (equationsFor order.outer rows = [] →
        ∃ result, (describe rows : Attempt (Event Float) EquationError _).outcome = .ok result ∧
          result.map outerEnds = (rootMeetsPower (Term.root c₁ a) (Term.power c₂ 0.5) :
            Traced (Event Float) _).value) ∧
      (¬(-1 ≤ rootQuotient c₁ a c₂ ∧ rootQuotient c₁ a c₂ ≤ 1) → ∀ region,
        (describe rows : Attempt (Event Float) EquationError _).outcome = .ok (some region) →
        (equationsFor order.outer rows).length = 2) := by
  refine ⟨rootMeetsPower_half_eq_some_iff c₁ a c₂, fun rows order given => ⟨?_, ?_⟩⟩
  · intro alone
    exact given.exists_outcome alone
  · intro beyond region described
    exact given.length_of_describe beyond described

/-- The double of a square root and the square root itself are not said to meet, and no region is
described. -/
theorem describe_double_root :
    (rootMeetsPower (Term.root 2 1) (Term.power 1 0.5) : Traced (Event Float) _).value = none ∧
    (describe [⟨"y", "2sqrt(x)"⟩, ⟨"y", "x^0.5"⟩] :
      Attempt (Event Float) EquationError _).outcome = .ok none := by
  have given : SquareRootRows [⟨"y", "2sqrt(x)"⟩, ⟨"y", "x^0.5"⟩] .dyDx 2 1 1 :=
    ⟨rfl, [.root 2 1], [.power 1 0.5], .cons (by decide +kernel) (.cons (by decide +kernel) .nil),
      Or.inl rfl, rfl, rfl⟩
  have beyond : ¬(-1 ≤ rootQuotient 2 1 1 ∧ rootQuotient 2 1 1 ≤ 1) := by decide +kernel
  obtain ⟨meet, regions⟩ := square_roots_meet_iff 2 1 1
  have apart : (rootMeetsPower (Term.root 2 1) (Term.power 1 0.5) :
      Traced (Event Float) _).value = none :=
    Option.eq_none_iff_forall_ne_some.mpr fun ends found => beyond ((meet ends).mp found).1
  obtain ⟨result, described, ends⟩ := (regions _ _ given).1 rfl
  rw [apart, Option.map_eq_none_iff] at ends
  rw [ends] at described
  exact ⟨apart, described⟩

/-- A square root and the same square root as a power are said to meet in zero and one, and a region
between the curve and itself is described. -/
theorem exists_region_between_square_roots :
    ∃ region : Region Float,
      (describe [⟨"y", "sqrt(x)"⟩, ⟨"y", "x^0.5"⟩] :
        Attempt (Event Float) EquationError _).outcome = .ok (some region) ∧
      (rootMeetsPower (Term.root 1 1) (Term.power 1 0.5) : Traced (Event Float) _).value =
        some (outerEnds region) ∧
      outerEnds region = (0, 1) := by
  have given : SquareRootRows [⟨"y", "sqrt(x)"⟩, ⟨"y", "x^0.5"⟩] .dyDx 1 1 1 :=
    ⟨rfl, [.root 1 1], [.power 1 0.5], .cons (by decide +kernel) (.cons (by decide +kernel) .nil),
      Or.inl rfl, rfl, rfl⟩
  have meet : (rootMeetsPower (Term.root 1 1) (Term.power 1 0.5) :
      Traced (Event Float) _).value = some (0, 1) :=
    (rootMeetsPower_half_eq_some_iff _ _ _ _).mpr ⟨by decide +kernel, by decide +kernel⟩
  obtain ⟨result, described, ends⟩ := given.exists_outcome rfl
  rw [meet] at ends
  obtain ⟨region, rfl, same⟩ := Option.map_eq_some_iff.mp ends
  exact ⟨region, described, meet.trans (congrArg some same.symm), same⟩

end Region
end PlaneRegion
