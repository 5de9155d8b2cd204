import PlaneRegion.Proofs.Binary64.Order
import PlaneRegion.Proofs.Region.Dependence
import PlaneRegion.Proofs.Region.Outcome

/-!
# The form of a described region

Whatever way its outer bounds are found, a region that is described has finite outer bounds, its
variables are those that the majority of the rows decides, and its inner bounds are the first two
equations for the inner variable, the one that is less in the middle first.
-/

namespace PlaneRegion
namespace Region

/-- The inner variable is the one with the most equations. Two equations for each make it `y`. -/
def HasMajority (rows : List Row) (inner : Axis) : Prop :=
  let inY := (bodiesTagged "y" rows).length
  let inX := (bodiesTagged "x" rows).length
  match inner with
  | .y => inX < inY ∨ inX = 2 ∧ inY = 2
  | .x => inY < inX

/-- The order of integration is that of the majority. -/
theorem hasMajority_of_integrationOrder {α : Type} {rows : List Row} {order : IntegrationOrder}
    (ordered : (integrationOrder rows : Traced (Event α) _).value = some order) :
    HasMajority rows order.inner := by
  change orderOf (rows.countP (isRowOf .y)) (rows.countP (isRowOf .x)) = some order at ordered
  rw [countP_isRowOf, countP_isRowOf, equationsFor_eq_bodiesTagged,
    equationsFor_eq_bodiesTagged] at ordered
  unfold orderOf at ordered
  split_ifs at ordered with moreY moreX two
  · cases ordered
    exact Or.inl moreY
  · cases ordered
    exact moreX
  · cases ordered
    exact Or.inr ⟨(Nat.le_antisymm (not_lt.mp moreY) (not_lt.mp moreX)).symm.trans two, two⟩

/-- The two texts of a region are the first two equations for its inner variable, in some order. -/
def HasFirstTexts {α : Type} (rows : List Row) (region : Region α) : Prop :=
  ∃ first second later,
    bodiesTagged region.order.inner.name rows = first :: second :: later ∧
      (region.innerLower = first ∧ region.innerUpper = second ∨
        region.innerLower = second ∧ region.innerUpper = first)

/-- Both texts of a region can be read, and in the middle of its outer interval the value of the
lower one is not greater than that of the upper one. -/
def IsOrderedInMiddle (region : Region Float) : Prop :=
  let middle := (region.outerLower + region.outerUpper) / 2
  ∃ f g : Equation Float,
    (Equation.read region.innerLower : Attempt (Event Float) EquationError _).outcome = .ok f ∧
    (Equation.read region.innerUpper : Attempt (Event Float) EquationError _).outcome = .ok g ∧
    ¬ g.evaluate middle < f.evaluate middle

theorem IsSolution.hasFirstTexts {α : Type} [Scalar α] {rows : List Row}
    {order : IntegrationOrder} {region : Region α} {first second : String} {f g : Equation α}
    (solution : IsSolution (givenBounds rows order) order region first second f g) :
    HasFirstTexts rows region := by
  obtain ⟨later, inner⟩ := solution.inner
  refine ⟨first, second, later, ?_, ?_⟩
  · rw [solution.ordered, ← equationsFor_eq_bodiesTagged]
    exact inner
  · have texts := solution.texts
    dsimp only at texts
    split_ifs at texts
    · exact Or.inr (Prod.mk.inj texts)
    · exact Or.inl (Prod.mk.inj texts)

/-- The bounds are exchanged if the first is greater; neither comparison holds if one of the values
is undefined. -/
theorem IsSolution.isOrderedInMiddle {bounds : Bounds} {order : IntegrationOrder}
    {region : Region Float} {first second : String} {f g : Equation Float}
    (solution : IsSolution bounds order region first second f g) : IsOrderedInMiddle region := by
  have two : (Scalar.ofNat 2 : Float) = 2 := by decide
  have texts := solution.texts
  rw [two] at texts
  dsimp only at texts
  split_ifs at texts with greater
  · obtain ⟨lower, upper⟩ := Prod.mk.inj texts
    have less := of_decide_eq_true greater
    exact ⟨g, f, lower ▸ solution.readsSecond, upper ▸ solution.readsFirst,
      Binary64.lt_asymm less⟩
  · obtain ⟨lower, upper⟩ := Prod.mk.inj texts
    exact ⟨f, g, lower ▸ solution.readsFirst, upper ▸ solution.readsSecond,
      fun less => greater (decide_eq_true less)⟩

/-- What a description of a region from rows consists of. -/
structure IsWellFormed (rows : List Row) (region : Region Float) : Prop where
  finiteLower : region.outerLower.isFinite = true
  finiteUpper : region.outerUpper.isFinite = true
  majority : HasMajority rows region.order.inner
  outer : region.order.outer = region.order.inner.other
  texts : HasFirstTexts rows region
  middle : IsOrderedInMiddle region

/-- Every region that is described is well-formed. -/
theorem isWellFormed_of_describe {rows : List Row} {region : Region Float}
    (described : (describe rows : Attempt (Event Float) EquationError _).outcome =
      .ok (some region)) : IsWellFormed rows region := by
  obtain ⟨order, ordered, solved⟩ := solve_of_describe described
  obtain ⟨first, second, f, g, solution⟩ := exists_isSolution_of_solve solved
  obtain ⟨outer, -, pair⟩ := solution.ends
  obtain ⟨-, finiteLower, finiteUpper⟩ := eq_of_finitePair pair
  refine ⟨finiteLower, finiteUpper, ?_, rfl, solution.hasFirstTexts, solution.isOrderedInMiddle⟩
  rw [solution.ordered]
  exact hasMajority_of_integrationOrder ordered

/-- Two lines for `y` with two explicit bounds for `x`, as many rows of each kind. -/
theorem isWellFormed_two_lines :
    ∃ region : Region Float,
      (describe [⟨"y", "x"⟩, ⟨"x", "3"⟩, ⟨" y", " 2x"⟩, ⟨"x", "1"⟩] :
        Attempt (Event Float) EquationError _).outcome = .ok (some region) ∧
      IsWellFormed [⟨"y", "x"⟩, ⟨"x", "3"⟩, ⟨" y", " 2x"⟩, ⟨"x", "1"⟩] region := by
  have readsFirst : Row.ReadsAs ⟨"y", "x"⟩ ([.linear 1] : Equation Float) := by
    decide +kernel
  have readsSecond : Row.ReadsAs ⟨" y", " 2x"⟩ ([.linear 2] : Equation Float) := by
    decide +kernel
  have found : (outerBounds (givenBounds
      [⟨"y", "x"⟩, ⟨"x", "3"⟩, ⟨" y", " 2x"⟩, ⟨"x", "1"⟩] .dyDx) :
      Attempt (Event Float) EquationError _).outcome = .ok (some [1, 3]) := by
    decide +kernel
  have described := outcome_describe rfl (by decide) readsFirst readsSecond found
  have pair : finitePair [(1 : Float), 3] = some (1, 3) := by decide +kernel
  rw [Option.bind_some, pair] at described
  exact ⟨_, described, isWellFormed_of_describe described⟩

end Region
end PlaneRegion
