import Mathlib.Tactic.Common
import PlaneRegion.Proofs.Equation.Outcome
import PlaneRegion.Region.Describe

/-!
# Outcomes of describing a region

When the equations of two inner rows are read, a region is described from the values of the two
bounds and from what is found for the outer variable.
-/

namespace PlaneRegion

/-! ## Rows of an axis

The rows that bound a variable are those that are not blank and name it, and the numbers of these
rows decide the order of integration.
-/

namespace Region

theorem isRowOf_iff (axis : Axis) (row : Row) :
    isRowOf axis row = true ↔ row.isBlank = false ∧ Axis.ofTag row.tag = .ok axis := by
  unfold isRowOf
  cases Axis.ofTag row.tag with
  | ok found => simp
  | error failure => simp

/-- The equations for an axis are those of rows that are not blank. -/
theorem exists_row_of_mem_equationsFor {axis : Axis} {rows : List Row} {text : String}
    (member : text ∈ equationsFor axis rows) :
    ∃ row ∈ rows, row.isBlank = false ∧ row.body = text := by
  obtain ⟨row, kept, rfl⟩ := List.mem_map.mp member
  obtain ⟨present, tagged⟩ := List.mem_filter.mp kept
  exact ⟨row, present, ((isRowOf_iff _ _).mp tagged).1, rfl⟩

/-! ## Outcomes -/

variable {α : Type} [Scalar α]

/-- The region between two rows over an interval, the one with the lesser value in the middle
first. -/
def between (first second : Row) (f g : Equation α) (order : IntegrationOrder)
    (ends : α × α) : Region α :=
  let middle := (ends.1 + ends.2) / Scalar.ofNat 2
  let texts :=
    if Scalar.less (g.evaluate middle) (f.evaluate middle) then (second.body, first.body)
    else (first.body, second.body)
  ⟨ends.1, ends.2, texts.1, texts.2, order⟩

/-- The texts are read as the equations, one by one. -/
abbrev AreRead (texts : List String) (equations : List (Equation α)) : Prop :=
  List.Forall₂
    (fun text equation =>
      (Equation.read text : Attempt (Event α) EquationError (Equation α)).outcome = .ok equation)
    texts equations

theorem areRead_bodies {rows : List Row} {equations : List (Equation α)}
    (reads : List.Forall₂ Row.ReadsAs rows equations) : AreRead (rows.map Row.body) equations := by
  rw [AreRead, List.forall₂_map_left_iff]
  exact reads.imp fun _ _ known => known.body

theorem outcome_readAll {texts : List String} {equations : List (Equation α)}
    (reads : AreRead texts equations) :
    (readAll texts : Attempt (Event α) EquationError _).outcome = .ok equations :=
  (Attempt.outcome_mapM_eq_ok_iff _ _ _).mpr reads

/-- The values of a list of equations, if all of them are constants. -/
def constants (equations : List (Equation α)) : Option (List α) :=
  if equations.all isConstant then
    some (equations.map (Equation.evaluate · (Scalar.ofNat 0)))
  else none

/-- The outer bounds that follow from the equations for the inner variable and from those for the
outer one. -/
def outerOf (inner outer : List (Equation α)) : Option (List α) :=
  if 2 ≤ inner.length ∧ outer.length < 2 then
    mergeOuterBounds (differByUndefined inner) ((constants outer).map Scalar.ascending)
      (intersections inner : Traced (Event α) _).value
  else if inner.length = 2 ∧ outer.length = 2 then (constants outer).map Scalar.ascending
  else none

/-- Without equations for the outer variable the outer bounds are the intersections of the inner
ones. -/
theorem outerOf_nil {inner : List (Equation α)} (two : 2 ≤ inner.length) :
    outerOf inner [] = (intersections inner : Traced (Event α) _).value := by
  rw [outerOf, if_pos ⟨two, Nat.two_pos⟩]
  rfl

/-- Explicit bounds are the values of the equations, if these are constants. -/
theorem outcome_explicitOuterBounds {texts : List String} {equations : List (Equation α)}
    (reads : AreRead texts equations) :
    (explicitOuterBounds texts : Attempt (Event α) EquationError _).outcome =
      .ok ((constants equations).map Scalar.ascending) := by
  have values : (constantValues texts : Attempt (Event α) EquationError _).outcome =
      .ok (constants equations) := by
    induction reads with
    | nil => rfl
    | @cons text equation texts equations read _ induction =>
        rw [constantValues, Attempt.outcome_bind_of_ok read]
        cases fixed : isConstant equation with
        | false =>
            rw [if_neg Bool.false_ne_true, constants, List.all_cons, fixed]
            rfl
        | true =>
            rw [if_pos rfl, Attempt.outcome_bind_of_ok induction, constants, constants,
              List.all_cons, fixed, Bool.true_and]
            split_ifs <;> rfl
  rw [explicitOuterBounds, Attempt.outcome_bind_of_ok values]
  rfl

/-- Equations that can be read decide the outer bounds. -/
theorem outcome_outerBounds_of_reads {bounds : Bounds} {inner outer : List (Equation α)}
    (readsInner : AreRead bounds.inner inner) (readsOuter : AreRead bounds.outer outer) :
    (outerBounds bounds : Attempt (Event α) EquationError _).outcome =
      .ok (outerOf inner outer) := by
  simp only [outerBounds, readsInner.length_eq, readsOuter.length_eq, outerOf]
  split_ifs
  · rw [Attempt.outcome_bind_of_ok (outcome_explicitOuterBounds readsOuter),
      Attempt.outcome_bind_of_ok (outcome_readAll readsInner)]
    rfl
  · exact outcome_explicitOuterBounds readsOuter
  · rfl

/-- Two inner bounds and at most one explicit bound are merged. -/
theorem outcome_outerBounds {rows : List Row} {order : IntegrationOrder} {first second : Row}
    {f g : Equation α} {fixed : List (Equation α)}
    (inner : rows.filter (isRowOf order.inner) = [first, second])
    (readsFirst : first.ReadsAs f) (readsSecond : second.ReadsAs g)
    (outer : List.Forall₂ Row.ReadsAs (rows.filter (isRowOf order.outer)) fixed)
    (few : fixed.length < 2) (constant : ∀ equation ∈ fixed, isConstant equation = true) :
    (outerBounds (givenBounds rows order) : Attempt (Event α) EquationError _).outcome =
      .ok (mergeOuterBounds (differByUndefined [f, g])
        (some (Scalar.ascending (fixed.map (Equation.evaluate · (Scalar.ofNat 0)))))
        (intersections [f, g] : Traced (Event α) _).value) := by
  have both : List.Forall₂ Row.ReadsAs (rows.filter (isRowOf order.inner)) [f, g] := by
    rw [inner]
    exact .cons readsFirst (.cons readsSecond .nil)
  rw [outcome_outerBounds_of_reads (areRead_bodies both) (areRead_bodies outer), outerOf,
    if_pos ⟨le_rfl, few⟩, constants, if_pos (List.all_eq_true.mpr constant)]
  rfl

/-- The inner bounds are ordered as in the region between the rows. -/
theorem outcome_orderInnerBounds {first second : Row} {f g : Equation α}
    (readsFirst : first.ReadsAs f) (readsSecond : second.ReadsAs g) (order : IntegrationOrder)
    (lower upper : α) :
    (orderInnerBounds first.body second.body lower upper :
      Attempt (Event α) EquationError _).outcome =
      .ok ((between first second f g order (lower, upper)).innerLower,
        (between first second f g order (lower, upper)).innerUpper) := by
  rw [orderInnerBounds, Attempt.outcome_bind_of_ok readsFirst.body,
    Attempt.outcome_bind_of_ok readsSecond.body]
  rfl

/-- Rows that decide an order of integration are solved for it. -/
theorem outcome_describe_of_ordered {rows : List Row} {order : IntegrationOrder}
    (ordered : (integrationOrder rows : Traced (Event α) _).value = some order) :
    (describe rows : Attempt (Event α) EquationError _).outcome =
      (solve (givenBounds rows order) order : Attempt (Event α) EquationError _).outcome := by
  have start : (Attempt.ofTraced (integrationOrder rows) :
      Attempt (Event α) EquationError _).outcome = .ok (some order) := by
    rw [Attempt.outcome_ofTraced, ordered]
  rw [describe, Attempt.outcome_bind_of_ok start]

/-- The order of integration and the two inner rows decide what is described, given what is found
for the outer variable. -/
theorem outcome_describe {rows : List Row} {order : IntegrationOrder} {first second : Row}
    {f g : Equation α} {outer : Option (List α)}
    (ordered : (integrationOrder rows : Traced (Event α) _).value = some order)
    (inner : rows.filter (isRowOf order.inner) = [first, second])
    (readsFirst : first.ReadsAs f) (readsSecond : second.ReadsAs g)
    (found : (outerBounds (givenBounds rows order) : Attempt (Event α) EquationError _).outcome =
      .ok outer) :
    (describe rows : Attempt (Event α) EquationError _).outcome =
      .ok ((outer.bind finitePair).map (between first second f g order)) := by
  have texts : (givenBounds rows order).inner = [first.body, second.body] := by
    simp [givenBounds, equationsFor, inner]
  rw [outcome_describe_of_ordered ordered, solve, Attempt.outcome_bind_of_ok found, texts]
  cases outer with
  | none => rfl
  | some outer =>
      cases pair : finitePair outer with
      | none =>
          simp only [Option.bind_some, pair, Option.map_none]
          rfl
      | some ends =>
          obtain ⟨lower, upper⟩ := ends
          simp only [Option.bind_some, pair, Option.map_some]
          rw [Attempt.outcome_bind_of_ok
            (outcome_orderInnerBounds readsFirst readsSecond order lower upper)]
          rfl

/-! ## Rows that can be read -/

/-- What a row is read as, and no term if it cannot be read. -/
def reading (α : Type) [Scalar α] (row : Row) : Equation α :=
  ((Equation.read row.equation : Attempt (Event α) EquationError _).outcome.toOption).getD []

/-- All rows that are not blank can be read. -/
def Readable (α : Type) [Scalar α] (rows : List Row) : Prop :=
  ∀ row ∈ rows, row.isBlank = false → ∃ equation : Equation α, row.ReadsAs equation

/-- The outer bounds of a region, as a pair. -/
def outerEnds (region : Region α) : α × α :=
  (region.outerLower, region.outerUpper)

theorem reading_eq {row : Row} {equation : Equation α} (reads : row.ReadsAs equation) :
    reading α row = equation := by
  rw [reading, reads]
  rfl

theorem Readable.reads {rows : List Row} (readable : Readable α rows) (axis : Axis) :
    List.Forall₂ Row.ReadsAs (rows.filter (isRowOf axis))
      ((rows.filter (isRowOf axis)).map (reading α)) := by
  rw [List.forall₂_map_right_iff, List.forall₂_same]
  intro row member
  obtain ⟨present, tagged⟩ := List.mem_filter.mp member
  obtain ⟨equation, reads⟩ := readable row present ((isRowOf_iff _ _).mp tagged).1
  rwa [reading_eq reads]

/-- Outer bounds are found only if there are two inner bounds. -/
theorem length_of_outerOf {inner outer : List (Equation α)} {values : List α}
    (found : outerOf inner outer = some values) : 2 ≤ inner.length := by
  unfold outerOf at found
  split_ifs at found with derivable explicit
  · exact derivable.1
  · exact explicit.1.ge

/-- Solving depends on the inner bounds and on what is found for the outer variable. -/
theorem outcome_solve_congr {bounds others : Bounds} (inner : bounds.inner = others.inner)
    (found : (outerBounds bounds : Attempt (Event α) EquationError _).outcome =
      (outerBounds others : Attempt (Event α) EquationError _).outcome)
    (order : IntegrationOrder) :
    (solve bounds order : Attempt (Event α) EquationError _).outcome =
      (solve others order : Attempt (Event α) EquationError _).outcome := by
  rw [solve, solve, Attempt.outcome_bind, Attempt.outcome_bind, found, inner]

/-- If all bounds can be read, solving for a region does not fail, and a region is found exactly if
the equations give two finite outer bounds. -/
theorem exists_outcome_solve {bounds : Bounds} {inner outer : List (Equation α)}
    (readsInner : AreRead bounds.inner inner) (readsOuter : AreRead bounds.outer outer)
    (order : IntegrationOrder) :
    ∃ result, (solve bounds order : Attempt (Event α) EquationError _).outcome = .ok result ∧
      result.map outerEnds = (outerOf inner outer).bind finitePair := by
  rw [solve, Attempt.outcome_bind_of_ok (outcome_outerBounds_of_reads readsInner readsOuter)]
  cases found : outerOf inner outer with
  | none => exact ⟨none, rfl, rfl⟩
  | some values =>
      have two := length_of_outerOf found
      generalize bounds.inner = texts at readsInner
      rcases readsInner with _ | ⟨readsFirst, _ | ⟨readsSecond, _⟩⟩
      · simp at two
      · simp at two
      · cases pair : finitePair values with
        | none =>
            simp only [Option.bind_some, pair]
            exact ⟨none, rfl, rfl⟩
        | some ends =>
            obtain ⟨lower, upper⟩ := ends
            simp only [Option.bind_some, pair, orderInnerBounds, bind_assoc]
            rw [Attempt.outcome_bind_of_ok readsFirst, Attempt.outcome_bind_of_ok readsSecond]
            exact ⟨_, rfl, rfl⟩

/-- If all rows can be read, describing a region does not fail, and a region is described exactly
if the equations of the rows give two finite outer bounds. -/
theorem Readable.exists_outcome_describe {rows : List Row} (readable : Readable α rows) :
    ∃ result, (describe rows : Attempt (Event α) EquationError _).outcome = .ok result ∧
      result.map outerEnds =
        (integrationOrder rows : Traced (Event α) _).value.bind fun order =>
          (outerOf ((rows.filter (isRowOf order.inner)).map (reading α))
            ((rows.filter (isRowOf order.outer)).map (reading α))).bind finitePair := by
  have start : (Attempt.ofTraced (integrationOrder rows) :
      Attempt (Event α) EquationError _).outcome =
        .ok (integrationOrder rows : Traced (Event α) _).value := rfl
  rw [describe, Attempt.outcome_bind_of_ok start]
  cases (integrationOrder rows : Traced (Event α) _).value with
  | none => exact ⟨none, rfl, rfl⟩
  | some order =>
      exact exists_outcome_solve (areRead_bodies (readable.reads order.inner))
        (areRead_bodies (readable.reads order.outer)) order

/-! ## What a success says -/

theorem eq_of_finitePair {values : List α} {lower upper : α}
    (pair : finitePair values = some (lower, upper)) :
    values = [lower, upper] ∧ Scalar.isFinite lower = true ∧ Scalar.isFinite upper = true := by
  unfold finitePair at pair
  split at pair
  · split_ifs at pair with finite
    cases pair
    exact ⟨rfl, by simpa using finite⟩
  · cases pair

/-- A list with a member that is not finite is no pair of finite numbers. -/
theorem finitePair_eq_none {values : List α} {value : α} (member : value ∈ values)
    (infinite : Scalar.isFinite value = false) : finitePair values = none := by
  by_contra found
  obtain ⟨⟨lower, upper⟩, pair⟩ := Option.ne_none_iff_exists'.mp found
  obtain ⟨rfl, finiteLower, finiteUpper⟩ := eq_of_finitePair pair
  rcases List.mem_pair.mp member with rfl | rfl
  · rw [finiteLower] at infinite
    cases infinite
  · rw [finiteUpper] at infinite
    cases infinite

/-- Outer bounds follow from at least two inner bounds with at most one explicit bound, or are two
explicit bounds. -/
theorem of_outerBounds_eq_some {bounds : Bounds} {values : List α}
    (found : (outerBounds bounds : Attempt (Event α) EquationError _).outcome =
      .ok (some values)) :
    ((2 ≤ bounds.inner.length ∧ bounds.outer.length < 2) ∧ ∃ given inner,
        (explicitOuterBounds bounds.outer : Attempt (Event α) EquationError _).outcome =
          .ok given ∧
        (readAll bounds.inner : Attempt (Event α) EquationError _).outcome = .ok inner ∧
        mergeOuterBounds (differByUndefined inner) given
          (intersections inner : Traced (Event α) _).value = some values) ∨
      (bounds.inner.length = 2 ∧ bounds.outer.length = 2) ∧
        (explicitOuterBounds bounds.outer : Attempt (Event α) EquationError _).outcome =
          .ok (some values) := by
  unfold outerBounds at found
  split_ifs at found with derivable explicit
  · obtain ⟨given, explicit, found⟩ := Attempt.outcome_bind_eq_ok_iff.mp found
    obtain ⟨inner, read, found⟩ := Attempt.outcome_bind_eq_ok_iff.mp found
    exact Or.inl ⟨derivable, given, inner, explicit, read, Except.ok.inj found⟩
  · exact Or.inr ⟨explicit, found⟩
  · cases found

/-- A region that has been solved for lies over a finite pair of outer bounds, between the first two
inner bounds, of which the one with the lesser value in the middle comes first. -/
structure IsSolution (bounds : Bounds) (order : IntegrationOrder) (region : Region α)
    (first second : String) (f g : Equation α) : Prop where
  ordered : region.order = order
  ends : ∃ outer, (outerBounds bounds : Attempt (Event α) EquationError _).outcome =
      .ok (some outer) ∧
    finitePair outer = some (outerEnds region)
  inner : ∃ later, bounds.inner = first :: second :: later
  readsFirst : (Equation.read first : Attempt (Event α) EquationError _).outcome = .ok f
  readsSecond : (Equation.read second : Attempt (Event α) EquationError _).outcome = .ok g
  texts :
    let middle := (region.outerLower + region.outerUpper) / Scalar.ofNat 2
    (region.innerLower, region.innerUpper) =
      if Scalar.less (g.evaluate middle) (f.evaluate middle) then (second, first)
      else (first, second)

theorem exists_isSolution_of_solve {bounds : Bounds} {order : IntegrationOrder}
    {region : Region α}
    (solved : (solve bounds order : Attempt (Event α) EquationError _).outcome =
      .ok (some region)) :
    ∃ first second f g, IsSolution bounds order region first second f g := by
  unfold solve at solved
  obtain ⟨outer, found, solved⟩ := Attempt.outcome_bind_eq_ok_iff.mp solved
  split at solved
  · rename_i outer first second later inner
    cases pair : finitePair outer with
    | none =>
        rw [pair] at solved
        cases solved
    | some ends =>
        obtain ⟨lower, upper⟩ := ends
        rw [pair] at solved
        obtain ⟨texts, compared, solved⟩ := Attempt.outcome_bind_eq_ok_iff.mp solved
        unfold orderInnerBounds at compared
        obtain ⟨f, readsFirst, compared⟩ := Attempt.outcome_bind_eq_ok_iff.mp compared
        obtain ⟨g, readsSecond, compared⟩ := Attempt.outcome_bind_eq_ok_iff.mp compared
        cases compared
        cases solved
        exact ⟨first, second, f, g, rfl, ⟨outer, found, pair⟩, ⟨later, inner⟩, readsFirst,
          readsSecond, rfl⟩
  · cases solved

/-- A region that is described has been solved for, from the bounds that the rows give for an order
of integration. -/
theorem solve_of_describe {rows : List Row} {region : Region α}
    (described : (describe rows : Attempt (Event α) EquationError _).outcome =
      .ok (some region)) :
    ∃ order, (integrationOrder rows : Traced (Event α) _).value = some order ∧
      (solve (givenBounds rows order) order : Attempt (Event α) EquationError _).outcome =
        .ok (some region) := by
  unfold describe at described
  obtain ⟨order, ordered, described⟩ := Attempt.outcome_bind_eq_ok_iff.mp described
  cases order with
  | none => cases described
  | some order => exact ⟨order, Except.ok.inj ordered, described⟩

end Region
end PlaneRegion
