import PlaneRegion.Proofs.Journal.Outcome
import PlaneRegion.Proofs.Region.Dependence

/-!
# Exchange of the axes

Neither axis is privileged: if the letters `x` and `y` are exchanged in all tags, the variable that
had the most rows is still the one with the most rows under its new name, and the same region is
described with the two variables exchanged. Only between as many rows of each kind does the choice
fall on `y`, whatever it is called.
-/

namespace PlaneRegion

/-- The letters of the two axes exchanged; other characters stay. -/
def Axis.exchangeLetter (c : Char) : Char :=
  if c = 'x' then 'y' else if c = 'y' then 'x' else c

/-- The row with the letters of the two axes exchanged in its tag. -/
def Row.exchanged (row : Row) : Row :=
  { row with tag := String.ofList (row.tag.toList.map Axis.exchangeLetter) }

namespace IntegrationOrder

/-- The other order of integration. -/
def reversed : IntegrationOrder → IntegrationOrder
  | dyDx => dxDy
  | dxDy => dyDx

@[simp]
theorem inner_reversed (order : IntegrationOrder) : order.reversed.inner = order.outer := by
  cases order <;> rfl

@[simp]
theorem outer_reversed (order : IntegrationOrder) : order.reversed.outer = order.inner := by
  cases order <;> rfl

end IntegrationOrder

/-- The region with the two variables exchanged. -/
def Region.exchanged {α : Type} (region : Region α) : Region α :=
  { region with order := region.order.reversed }

namespace Axis

private theorem isBlank_exchangeLetter (c : Char) :
    Text.isBlank (exchangeLetter c) = Text.isBlank c := by
  unfold exchangeLetter
  split_ifs with isX isY
  · rw [isX]
    decide
  · rw [isY]
    decide
  · rfl

private theorem exchangeLetter_injective : Function.Injective exchangeLetter := by
  have involutive : Function.Involutive exchangeLetter := by
    intro c
    unfold exchangeLetter
    split_ifs <;> simp_all
  exact involutive.injective

private theorem dropWhile_exchanged (text : List Char) :
    (text.map exchangeLetter).dropWhile Text.isBlank =
      (text.dropWhile Text.isBlank).map exchangeLetter := by
  rw [List.dropWhile_map]
  congr 2
  exact funext isBlank_exchangeLetter

private theorem trim_exchanged (text : List Char) :
    Text.trim (text.map exchangeLetter) = (Text.trim text).map exchangeLetter := by
  rw [Text.trim, Text.trimEnd, dropWhile_exchanged, ← List.map_reverse, dropWhile_exchanged,
    ← List.map_reverse]
  rfl

@[simp]
theorem other_other (axis : Axis) : axis.other.other = axis := by
  cases axis <;> rfl

theorem name_other (axis : Axis) :
    axis.other.name.toList = axis.name.toList.map exchangeLetter := by
  cases axis <;> decide

end Axis

namespace Region

open Attempt

theorem trimmed_tag_exchanged (row : Row) (axis : Axis) :
    Text.trimmed row.exchanged.tag = axis.name ↔ Text.trimmed row.tag = axis.other.name := by
  rw [← String.toList_inj, ← String.toList_inj, Text.trimmed, Text.trimmed, String.toList_ofList,
    String.toList_ofList, Row.exchanged, String.toList_ofList, Axis.trim_exchanged,
    ← axis.other_other, Axis.name_other, Axis.other_other]
  exact (List.map_injective_iff.mpr Axis.exchangeLetter_injective).eq_iff

theorem isRowOf_exchanged (axis : Axis) (row : Row) :
    isRowOf axis row.exchanged = isRowOf axis.other row := by
  have blank : row.exchanged.isBlank = row.isBlank := rfl
  rw [Bool.eq_iff_iff, isRowOf_iff, isRowOf_iff, ofTag_eq_ok_iff, ofTag_eq_ok_iff, blank,
    trimmed_tag_exchanged]

/-- The equations for one axis become those for the other. -/
theorem equationsFor_exchanged (axis : Axis) (rows : List Row) :
    equationsFor axis (rows.map Row.exchanged) = equationsFor axis.other rows := by
  induction rows with
  | nil => rfl
  | cons row rows induction =>
      rw [List.map_cons, equationsFor_cons, equationsFor_cons, induction, isRowOf_exchanged]
      rfl

theorem givenBounds_exchanged (rows : List Row) (order : IntegrationOrder) :
    givenBounds (rows.map Row.exchanged) order.reversed = givenBounds rows order := by
  have outer : order.outer = order.inner.other := rfl
  simp only [givenBounds, equationsFor_exchanged, IntegrationOrder.inner_reversed,
    IntegrationOrder.outer_reversed, outer, Axis.other_other]

/-- A majority stays one under its new name. -/
theorem orderOf_exchanged {inY inX : Nat} (majority : inX ≠ inY) :
    orderOf inX inY = (orderOf inY inX).map IntegrationOrder.reversed := by
  unfold orderOf
  rcases Nat.lt_or_gt_of_ne majority with less | more
  · simp [less, Nat.lt_asymm less, IntegrationOrder.reversed]
  · simp [more, Nat.lt_asymm more, IntegrationOrder.reversed]

theorem integrationOrder_exchanged {α : Type} {rows : List Row}
    (majority : rows.countP (isRowOf .x) ≠ rows.countP (isRowOf .y)) :
    (integrationOrder (rows.map Row.exchanged) : Traced (Event α) _).value =
      (integrationOrder rows : Traced (Event α) _).value.map IntegrationOrder.reversed := by
  rw [countP_isRowOf, countP_isRowOf] at majority
  change orderOf _ _ = (orderOf _ _).map _
  rw [← orderOf_exchanged (by rwa [countP_isRowOf, countP_isRowOf])]
  simp only [countP_isRowOf, equationsFor_exchanged]
  rfl

variable {α : Type} [Scalar α]

/-- The order of integration takes part in solving only as a label of the region. -/
theorem outcome_solve_reversed (bounds : Bounds) (order : IntegrationOrder) :
    (solve bounds order.reversed : Attempt (Event α) EquationError _).outcome =
      (solve bounds order : Attempt (Event α) EquationError _).outcome.map
        (Option.map Region.exchanged) := by
  rw [solve, solve, outcome_bind, outcome_bind]
  cases (outerBounds bounds : Attempt (Event α) EquationError _).outcome with
  | error failure => rfl
  | ok outer =>
      change outcome _ = (outcome _).map _
      cases outer with
      | none => rfl
      | some outer =>
          rcases bounds.inner with _ | ⟨first, _ | ⟨second, _⟩⟩
          · rfl
          · rfl
          · cases pair : finitePair outer with
            | none => simp only [pair]; rfl
            | some ends =>
                simp only [pair, outcome_bind]
                cases (orderInnerBounds first second ends.1 ends.2).outcome <;> rfl

/-- When one axis has more rows than the other, exchanging the axes in all tags exchanges the two
variables of the region that is described and changes nothing else. -/
theorem outcome_describe_exchanged {rows : List Row}
    (majority : rows.countP (isRowOf .x) ≠ rows.countP (isRowOf .y)) :
    (describe (rows.map Row.exchanged) : Attempt (Event α) EquationError _).outcome =
      (describe rows : Attempt (Event α) EquationError _).outcome.map
        (Option.map Region.exchanged) := by
  have ordered := integrationOrder_exchanged (α := α) majority
  rw [describe, describe, outcome_bind, outcome_bind, outcome_ofTraced, outcome_ofTraced, ordered]
  cases (integrationOrder rows : Traced (Event α) _).value with
  | none => rfl
  | some order =>
      change outcome (solve _ order.reversed) = (outcome (solve _ order)).map _
      rw [givenBounds_exchanged, outcome_solve_reversed]

/-- A square root and a line over the `y` axis, with an explicit bound, become the same curves over
the `x` axis. -/
theorem outcome_describe_root_exchanged :
    let rows : List Row := [⟨"x", "sqrt(4y)"⟩, ⟨"y", "1"⟩, ⟨" x ", "y"⟩, ⟨"xy", "2"⟩]
    rows.map Row.exchanged = [⟨"y", "sqrt(4y)"⟩, ⟨"x", "1"⟩, ⟨" y ", "y"⟩, ⟨"yx", "2"⟩] ∧
      (describe (rows.map Row.exchanged) : Attempt (Event Float) EquationError _).outcome =
        (describe rows : Attempt (Event Float) EquationError _).outcome.map
          (Option.map Region.exchanged) :=
  ⟨by decide, outcome_describe_exchanged (by decide)⟩

end Region
end PlaneRegion
