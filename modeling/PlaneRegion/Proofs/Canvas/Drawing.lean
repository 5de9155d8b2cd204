import PlaneRegion.Canvas.Recorder

/-!
# What calls draw

A list of calls draws a list of strokes when, on every canvas without an open path, it adds exactly
these strokes and leaves no path open. Lists of calls that draw something can be put together.
-/

namespace PlaneRegion

/-- The straight line that a call draws at once. -/
def Call.line? {α : Type} : Call α → Option (Stroke α)
  | drawLine start stop colour => some (.line start stop colour)
  | _ => none

namespace Recorder

variable {α : Type}

/-- A canvas without an open path on which the given strokes have been drawn. -/
def showing (strokes : List (Stroke α)) : Recorder α := ⟨strokes.toArray, none⟩

@[simp]
theorem openPath_showing (strokes : List (Stroke α)) : (showing strokes).openPath = none := rfl

@[simp]
theorem displayList_showing (strokes : List (Stroke α)) :
    (showing strokes).displayList = strokes := rfl

/-- The calls add exactly the given strokes to every canvas without an open path. -/
def Draws (calls : List (Call α)) (strokes : List (Stroke α)) : Prop :=
  ∀ before, (showing before).performAll calls = showing (before ++ strokes)

theorem performAll_append (recorder : Recorder α) (first second : List (Call α)) :
    recorder.performAll (first ++ second) = (recorder.performAll first).performAll second :=
  List.foldl_append

theorem draws_nil : Draws ([] : List (Call α)) [] := by
  intro before
  simp [performAll]

theorem draws_append {first second : List (Call α)} {firstStrokes secondStrokes : List (Stroke α)}
    (drawsFirst : Draws first firstStrokes) (drawsSecond : Draws second secondStrokes) :
    Draws (first ++ second) (firstStrokes ++ secondStrokes) := by
  intro before
  rw [performAll_append, drawsFirst, drawsSecond, List.append_assoc]

theorem draws_flatMap {β : Type} (items : List β) {calls : β → List (Call α)}
    {strokes : β → List (Stroke α)} (draws : ∀ item ∈ items, Draws (calls item) (strokes item)) :
    Draws (items.flatMap calls) (items.flatMap strokes) := by
  induction items with
  | nil => exact draws_nil
  | cons item items induction =>
      simp only [List.mem_cons, forall_eq_or_imp] at draws
      simp only [List.flatMap_cons]
      exact draws_append draws.1 (induction draws.2)

/-- Lines alone are drawn one by one. -/
theorem draws_lines (calls : List (Call α))
    (lines : ∀ call ∈ calls, ∃ stroke, call.line? = some stroke) :
    Draws calls (calls.filterMap Call.line?) := by
  induction calls with
  | nil => exact draws_nil
  | cons call calls induction =>
      simp only [List.mem_cons, forall_eq_or_imp] at lines
      obtain ⟨⟨stroke, line⟩, later⟩ := lines
      have drawn : Draws [call] [stroke] := by
        intro before
        cases call with
        | drawLine start stop colour =>
            cases line
            simp [performAll, perform, showing]
        | _ => cases line
      rw [List.filterMap_cons_some line]
      exact draws_append drawn (induction later)

private theorem performAll_extend (strokes : Array (Stroke α)) (start : Point α)
    (before segments : List (Segment α)) :
    performAll ⟨strokes, some ⟨start, before.toArray⟩⟩ (segments.map Call.extend) =
      ⟨strokes, some ⟨start, (before ++ segments).toArray⟩⟩ := by
  induction segments generalizing before with
  | nil => simp [performAll]
  | cons segment segments induction =>
      have next := induction (before ++ [segment])
      simpa [performAll, perform] using next

/-- Beginning a path, extending it by segments and stroking it draws the path. -/
theorem draws_path (start : Point α) (segments : List (Segment α)) (colour : Colour) :
    Draws (.beginPath start :: segments.map .extend ++ [.stroke colour])
      [.path ⟨start, segments, colour⟩] := by
  intro before
  have extended := performAll_extend before.toArray start [] segments
  simp only [performAll] at extended
  simp [performAll, perform, showing, extended]

/-- After clearing, the canvas shows what the calls draw, whatever was on it. -/
theorem performAll_clear {calls : List (Call α)} {strokes : List (Stroke α)}
    (draws : Draws calls strokes) (recorder : Recorder α) :
    recorder.performAll (.clear :: calls) = showing strokes :=
  draws []

end Recorder
end PlaneRegion
