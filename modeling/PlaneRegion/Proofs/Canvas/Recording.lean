import Mathlib.Data.List.DropRight
import Mathlib.Data.List.Infix
import PlaneRegion.Proofs.Canvas.Drawing

/-!
# What a sequence of calls leaves on a canvas

The display list can be read off the calls without following the canvas through them. Only the
calls since the last one that clears the canvas count. Each of them adds at most one stroke, which
is known from the calls before it: a line is added at once, and a stroke adds the path that was
begun last, if one was begun since the stroke before.
-/

namespace PlaneRegion
namespace Call

variable {α : Type}

/-- The call removes everything drawn so far. -/
def isClear : Call α → Bool
  | clear => true
  | _ => false

/-- The call finishes the open path, if there is one. -/
def isStroke : Call α → Bool
  | stroke _ => true
  | _ => false

/-- The call begins a path. -/
def isBeginPath : Call α → Bool
  | beginPath _ => true
  | _ => false

/-- The segment that a call extends the open path by. -/
def segment? : Call α → Option (Segment α)
  | extend segment => some segment
  | _ => none

/-- The start and the segments of the path that calls leave open: the latest one that was begun
since the last stroke, with all segments that followed. -/
def begun? (calls : List (Call α)) : Option (Point α × List (Segment α)) :=
  let recent := calls.rtakeWhile fun call => !call.isStroke
  match (recent.rdropWhile fun call => !call.isBeginPath).getLast? with
  | some (beginPath start) =>
      some (start, (recent.rtakeWhile fun call => !call.isBeginPath).filterMap segment?)
  | _ => none

/-- What a call adds to the display list, given the calls before it since the canvas was clear. -/
def addition? (before : List (Call α)) : Call α → Option (Stroke α)
  | drawLine start stop colour => some (.line start stop colour)
  | stroke colour => (begun? before).map fun path => .path ⟨path.1, path.2, colour⟩
  | _ => none

/-- The additions of calls one after the other, each from the calls before it. -/
def additions (calls : List (Call α)) : List (Stroke α) :=
  (calls.inits.zip calls).filterMap fun item => item.2.addition? item.1

/-- The calls after the last one that clears the canvas. -/
def sinceClear (calls : List (Call α)) : List (Call α) :=
  calls.rtakeWhile fun call => !call.isClear

/-! ## One call more -/

theorem begun?_concat_beginPath (calls : List (Call α)) (start : Point α) :
    begun? (calls ++ [beginPath start]) = some (start, []) := by
  simp [begun?, isStroke, isBeginPath]

theorem begun?_concat_stroke (calls : List (Call α)) (colour : Colour) :
    begun? (calls ++ [stroke colour]) = none := by
  simp [begun?, isStroke]

/-- Other calls leave the path that has been begun open. -/
theorem begun?_concat (calls : List (Call α)) {call : Call α} (begins : call.isBeginPath = false)
    (strokes : call.isStroke = false) :
    begun? (calls ++ [call]) =
      (begun? calls).map fun path => (path.1, path.2 ++ call.segment?.toList) := by
  have segment : [call].filterMap segment? = call.segment?.toList := by
    cases call <;> rfl
  simp only [begun?, strokes, begins, List.rtakeWhile_concat, List.rdropWhile_concat,
    List.filterMap_append, segment, Bool.not_false, if_true]
  split <;> rfl

theorem additions_concat (calls : List (Call α)) (call : Call α) :
    additions (calls ++ [call]) = additions calls ++ (call.addition? calls).toList := by
  have extended : (calls ++ [call]).inits.zip (calls ++ [call]) =
      calls.inits.zip calls ++ [(calls, call)] := by
    refine List.ext_getElem (by simp) fun i inRange _ => ?_
    rw [List.length_zip, List.length_append] at inRange
    rcases Nat.lt_or_ge i calls.length with before | last
    · simp [before, Nat.lt_succ_of_lt before]
    · obtain rfl : i = calls.length := by
        simp at inRange
        omega
      simp
  have single : [(calls, call)].filterMap (fun item => item.2.addition? item.1) =
      (call.addition? calls).toList := by
    cases added : call.addition? calls <;> simp [added]
  rw [additions, extended, List.filterMap_append, single]
  rfl

theorem sinceClear_concat (calls : List (Call α)) (call : Call α) :
    sinceClear (calls ++ [call]) = if call.isClear then [] else sinceClear calls ++ [call] := by
  cases clears : call.isClear <;> simp [sinceClear, clears]

end Call

namespace Recorder

variable {α : Type}

theorem performAll_concat (recorder : Recorder α) (calls : List (Call α)) (call : Call α) :
    recorder.performAll (calls ++ [call]) = (recorder.performAll calls).perform call :=
  recorder.performAll_append calls [call]

/-- What was drawn before the canvas was cleared has no influence. -/
theorem performAll_sinceClear (calls : List (Call α)) :
    blank.performAll (Call.sinceClear calls) = blank.performAll calls := by
  induction calls using List.reverseRecOn with
  | nil => rfl
  | append_singleton calls call induction =>
      rw [Call.sinceClear_concat, performAll_concat]
      split_ifs with clears
      · cases call with
        | clear => rfl
        | _ => cases clears
      · rw [performAll_concat, induction]

/-- One call changes the display list and the open path as the calls before it tell. -/
theorem performAll_of_clearFree {calls : List (Call α)}
    (clearFree : ∀ call ∈ calls, call.isClear = false) :
    blank.performAll calls =
      ⟨(Call.additions calls).toArray,
        (Call.begun? calls).map fun path => ⟨path.1, path.2.toArray⟩⟩ := by
  induction calls using List.reverseRecOn with
  | nil => rfl
  | append_singleton calls call induction =>
      rw [List.forall_mem_append, List.forall_mem_singleton] at clearFree
      rw [performAll_concat, induction clearFree.1, Call.additions_concat]
      cases call with
      | clear => cases clearFree.2
      | drawLine start stop colour =>
          rw [Call.begun?_concat _ rfl rfl]
          simp [perform, Call.addition?, Call.segment?]
      | beginPath start =>
          rw [Call.begun?_concat_beginPath]
          simp [perform, Call.addition?]
      | extend segment =>
          rw [Call.begun?_concat _ rfl rfl]
          cases opened : Call.begun? calls <;>
            simp [perform, Call.addition?, Call.segment?]
      | stroke colour =>
          rw [Call.begun?_concat_stroke]
          cases opened : Call.begun? calls <;> simp [perform, Call.addition?, opened]

/-- The display list consists of the additions of the calls since the last one that clears the
canvas, in order. -/
theorem displayList_eq_additions_sinceClear (calls : List (Call α)) :
    (blank.performAll calls).displayList = Call.additions (Call.sinceClear calls) := by
  have clearFree : ∀ call ∈ Call.sinceClear calls, call.isClear = false := by
    intro call member
    simpa using List.mem_rtakeWhile_imp member
  rw [← performAll_sinceClear, performAll_of_clearFree clearFree, displayList]

/-- A line is drawn while the second path is open; the first path and the second stroke are idle. -/
example (a b c : Point Nat) :
    Call.additions (Call.sinceClear [.stroke .black, .clear, .beginPath a, .extend (.line b),
      .beginPath b, .drawLine a c .black, .extend (.line c), .stroke .red, .stroke .blue]) =
        [.line a c .black, .path ⟨b, [.line c], .red⟩] :=
  rfl

end Recorder
end PlaneRegion
