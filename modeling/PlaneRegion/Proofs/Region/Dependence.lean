import Mathlib.Logic.Relation
import PlaneRegion.Proofs.Region.Outcome
import PlaneRegion.Proofs.Text.Words
import PlaneRegion.Region.Describe
import PlaneRegion.Scalar.Basic

/-!
# What a region depends on

Rows count for a region only through the equations for `y` and the equations for `x`, each list in
its order. Rows without part in either list, blanks around tags and equations, and the way in which
the two lists interleave have no influence, not even on the journal.
-/

namespace PlaneRegion
namespace Region

/-- The rows without part in a region: blank ones, and those whose tag names no axis. -/
def IsIdle (row : Row) : Prop :=
  row.isBlank = true ∨ Text.trimmed row.tag ≠ "x" ∧ Text.trimmed row.tag ≠ "y"

/-- The equations, without blanks around them, of the rows that are not blank and have the given
tag. -/
def bodiesTagged (tag : String) (rows : List Row) : List String :=
  (rows.filter fun row => !row.isBlank && Text.trimmed row.tag == tag).map Row.body

/-- Changes of a list of rows that leave the equations of each axis and their order alone. -/
inductive Retouched : List Row → List Row → Prop
  /-- A row without part in a region is inserted. -/
  | insert (before after : List Row) {row : Row} (idle : IsIdle row) :
      Retouched (before ++ after) (before ++ row :: after)
  /-- The blanks around a tag and around its equation are changed. -/
  | respace (before after : List Row) {row other : Row}
      (tag : Text.trimmed row.tag = Text.trimmed other.tag) (body : row.body = other.body) :
      Retouched (before ++ row :: after) (before ++ other :: after)
  /-- Two neighbours with different tags change places. -/
  | cross (before after : List Row) {row other : Row}
      (tags : Text.trimmed row.tag ≠ Text.trimmed other.tag) :
      Retouched (before ++ row :: other :: after) (before ++ other :: row :: after)

theorem ofTag_eq_ok_iff (tag : String) (axis : Axis) :
    Axis.ofTag tag = .ok axis ↔ Text.trimmed tag = axis.name := by
  unfold Axis.ofTag
  cases axis with
  | x => split_ifs <;> simp_all [Axis.name]
  | y => split_ifs <;> simp_all [Axis.name]

theorem isRowOf_eq (axis : Axis) (row : Row) :
    isRowOf axis row = (!row.isBlank && Text.trimmed row.tag == axis.name) := by
  rw [Bool.eq_iff_iff, isRowOf_iff, ofTag_eq_ok_iff]
  simp

theorem equationsFor_eq_bodiesTagged (axis : Axis) (rows : List Row) :
    equationsFor axis rows = bodiesTagged axis.name rows := by
  rw [equationsFor, bodiesTagged, funext (isRowOf_eq axis)]

theorem countP_isRowOf (axis : Axis) (rows : List Row) :
    rows.countP (isRowOf axis) = (equationsFor axis rows).length := by
  rw [equationsFor, List.length_map, List.countP_eq_length_filter]

theorem equationsFor_append (axis : Axis) (rows others : List Row) :
    equationsFor axis (rows ++ others) = equationsFor axis rows ++ equationsFor axis others := by
  rw [equationsFor, List.filter_append, List.map_append]
  rfl

theorem equationsFor_cons (axis : Axis) (row : Row) (rows : List Row) :
    equationsFor axis (row :: rows) =
      (if isRowOf axis row then [row.body] else []) ++ equationsFor axis rows := by
  rw [equationsFor, List.filter_cons]
  split_ifs <;> rfl

/-- The equations of the two axes decide everything about a region. -/
theorem describe_congr {α : Type} [Scalar α] {rows others : List Row}
    (same : ∀ axis, equationsFor axis rows = equationsFor axis others) :
    (describe rows : Attempt (Event α) EquationError _) = describe others := by
  have counted : (integrationOrder rows : Traced (Event α) _) = integrationOrder others := by
    simp only [integrationOrder, countP_isRowOf, same]
  have bounds : givenBounds rows = givenBounds others := by
    funext order
    simp only [givenBounds, same]
  rw [describe, describe, counted, bounds]

private theorem isRowOf_of_isIdle {row : Row} (idle : IsIdle row) (axis : Axis) :
    isRowOf axis row = false := by
  rw [isRowOf_eq]
  rcases idle with blank | ⟨notX, notY⟩
  · simp [blank]
  · cases axis <;> simp [Axis.name, notX, notY]

private theorem isBlank_iff (row : Row) :
    row.isBlank = true ↔ Text.compact row.equation.toList = [] := by
  simp [Row.isBlank, Text.isAllBlank, Text.compact]

private theorem isBlank_congr {row other : Row} (body : row.body = other.body) :
    row.isBlank = other.isBlank := by
  have trimmed : Text.trim row.equation.toList = Text.trim other.equation.toList :=
    String.ofList_injective body
  rw [Bool.eq_iff_iff, isBlank_iff, isBlank_iff, ← Text.compact_trim row.equation.toList, trimmed,
    Text.compact_trim]

private theorem Retouched.equationsFor_eq {rows others : List Row}
    (retouched : Retouched rows others) (axis : Axis) :
    equationsFor axis rows = equationsFor axis others := by
  cases retouched with
  | insert before after idle =>
      simp [equationsFor_append, equationsFor_cons, isRowOf_of_isIdle idle]
  | respace before after tag body =>
      simp [equationsFor_append, equationsFor_cons, isRowOf_eq, isBlank_congr body, tag, body]
  | @cross before after row other tags =>
      have apart : isRowOf axis row = false ∨ isRowOf axis other = false := by
        by_contra! both
        simp only [ne_eq, Bool.not_eq_false, isRowOf_eq, Bool.and_eq_true, beq_iff_eq] at both
        exact tags (both.1.2.trans both.2.2.symm)
      rcases apart with apart | apart <;>
        simp [equationsFor_append, equationsFor_cons, apart]

/-- Lists of rows with the same equations tagged `y` and the same equations tagged `x` describe the
same region, or fail alike; so do lists that differ by changes which leave these equations alone. -/
theorem describe_depends_on_bodies {α : Type} [Scalar α] (rows others : List Row) :
    (bodiesTagged "y" rows = bodiesTagged "y" others →
      bodiesTagged "x" rows = bodiesTagged "x" others →
      (describe rows : Attempt (Event α) EquationError _) = describe others) ∧
    (Relation.EqvGen Retouched rows others →
      (describe rows : Attempt (Event α) EquationError _) = describe others) := by
  constructor
  · intro sameY sameX
    apply describe_congr
    intro axis
    rw [equationsFor_eq_bodiesTagged, equationsFor_eq_bodiesTagged]
    cases axis with
    | x => exact sameX
    | y => exact sameY
  · intro retouched
    apply describe_congr
    intro axis
    induction retouched with
    | rel rows others step => exact step.equationsFor_eq axis
    | refl rows => rfl
    | symm rows others _ induction => exact induction.symm
    | trans rows between others _ _ first second => exact first.trans second

/-- A parabola over a level line, with and without a blank row, a row of an unknown tag, blanks
around tags, and the outer bound between the two. -/
theorem describe_parabola_among_idle_rows :
    (describe [⟨"y", "x^2"⟩, ⟨"y", "4"⟩, ⟨"x", "1"⟩] : Attempt (Event Float) EquationError _) =
      describe [⟨"z", "7"⟩, ⟨" y", "x^2 "⟩, ⟨"x ", "1"⟩, ⟨"x", "  "⟩, ⟨"y", " 4"⟩] ∧
    (describe [⟨"y", "x^2"⟩, ⟨"x", "1"⟩] : Attempt (Event Float) EquationError _) =
      describe [⟨"x", "1"⟩, ⟨"y", "x^2"⟩] :=
  ⟨(describe_depends_on_bodies _ _).1 (by decide) (by decide),
    (describe_depends_on_bodies _ _).2 (.rel _ _ (.cross [] [] (by decide)))⟩

end Region
end PlaneRegion
