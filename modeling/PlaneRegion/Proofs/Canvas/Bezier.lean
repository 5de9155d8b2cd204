import Mathlib.Tactic.Linarith
import Mathlib.Tactic.LinearCombination
import PlaneRegion.Canvas.Path
import PlaneRegion.Proofs.Scalar.Real

/-!
# Paths that advance in a direction

A segment advances in a direction when none of its points lies behind its start or ahead of its
stop; the controls may be in any order. Then the whole Bezier curve goes forward only: so do the
points that it is flattened to, and those of a path whose segments all advance.
-/

namespace PlaneRegion

/-- How far a point lies in a direction. -/
def Point.along (direction point : Point ℝ) : ℝ :=
  direction.x * point.x + direction.y * point.y

namespace Segment

/-! ## Bezier curves of one coordinate -/

theorem quadraticAt_eq (t a b c : ℝ) :
    quadraticAt t a b c = (1 - t) * (1 - t) * a + 2 * (1 - t) * t * b + t * t * c := by
  simp [quadraticAt]

theorem cubicAt_eq (t a b c d : ℝ) :
    cubicAt t a b c d = (1 - t) * (1 - t) * (1 - t) * a + 3 * (1 - t) * (1 - t) * t * b +
      3 * (1 - t) * t * t * c + t * t * t * d := by
  simp [cubicAt]

theorem quadraticAt_ends (a b c : ℝ) :
    quadraticAt 0 a b c = a ∧ quadraticAt 1 a b c = c := by
  simp [quadraticAt_eq]

theorem cubicAt_ends (a b c d : ℝ) : cubicAt 0 a b c d = a ∧ cubicAt 1 a b c d = d := by
  simp [cubicAt_eq]

/-- A curve of degree two goes up if its control lies between its ends. -/
theorem quadraticAt_mono {s t a b c : ℝ} (nonneg : 0 ≤ s) (le : s ≤ t) (atMostOne : t ≤ 1)
    (first : a ≤ b) (second : b ≤ c) : quadraticAt s a b c ≤ quadraticAt t a b c := by
  have rise : quadraticAt t a b c - quadraticAt s a b c =
      (t - s) * ((2 - s - t) * (b - a) + (s + t) * (c - b)) := by
    rw [quadraticAt_eq, quadraticAt_eq]
    ring
  have early : 0 ≤ (2 - s - t) * (b - a) := mul_nonneg (by linarith) (by linarith)
  have late : 0 ≤ (s + t) * (c - b) := mul_nonneg (by linarith) (by linarith)
  have nonneg := mul_nonneg (sub_nonneg.mpr le) (add_nonneg early late)
  linarith

/-- A curve of degree three goes up if both of its controls lie between its ends. It need not do so
in the order of the controls. -/
theorem cubicAt_mono {s t a b c d : ℝ} (nonneg : 0 ≤ s) (le : s ≤ t) (atMostOne : t ≤ 1)
    (firstAbove : a ≤ b) (firstBelow : b ≤ d) (secondAbove : a ≤ c) (secondBelow : c ≤ d) :
    cubicAt s a b c d ≤ cubicAt t a b c d := by
  have forward : 0 ≤ t - s := sub_nonneg.mpr le
  have later : 0 ≤ t := nonneg.trans le
  have left : 0 ≤ 1 - t := sub_nonneg.mpr atMostOne
  have leftBefore : 0 ≤ 1 - s := left.trans (by linarith)
  -- The shares of the end, of the end and one of the controls, and of all three grow with `t`.
  have ends : 0 ≤ (t - s) * (t * t + t * s + s * s) :=
    mul_nonneg forward (by positivity)
  have endsAndFirst : 0 ≤ (t - s) * (3 - 6 * (t + s) + 4 * (t * t + t * s + s * s)) :=
    mul_nonneg forward (by
      linarith [mul_self_nonneg (2 * t - 1), mul_self_nonneg (2 * s - 1),
        mul_self_nonneg (t + s - 1)])
  have endsAndSecond : 0 ≤ (t - s) * (3 * (t + s) - 2 * (t * t + t * s + s * s)) :=
    mul_nonneg forward (by
      linarith [mul_nonneg nonneg leftBefore, mul_nonneg later left,
        mul_self_nonneg (t - s)])
  have all : 0 ≤ (t - s) * ((1 - t) * (1 - t) + (1 - t) * (1 - s) + (1 - s) * (1 - s)) :=
    mul_nonneg forward (by positivity)
  rw [cubicAt_eq, cubicAt_eq]
  rcases le_total b c with inOrder | crossed
  · have lower := mul_nonneg all (sub_nonneg.mpr firstAbove)
    have middle := mul_nonneg endsAndSecond (sub_nonneg.mpr inOrder)
    have upper := mul_nonneg ends (sub_nonneg.mpr secondBelow)
    linear_combination lower + middle + upper
  · have lower := mul_nonneg all (sub_nonneg.mpr secondAbove)
    have middle := mul_nonneg endsAndFirst (sub_nonneg.mpr crossed)
    have upper := mul_nonneg ends (sub_nonneg.mpr firstBelow)
    linear_combination lower + middle + upper

/-! ## Points on a segment -/

/-- The parameters of at least one step lie between zero and one. -/
theorem mem_parameters {steps : Nat} {t : ℝ} (member : t ∈ parameters (max steps 1)) :
    0 ≤ t ∧ t ≤ 1 := by
  obtain ⟨i, inRange, rfl⟩ := List.mem_map.mp member
  have positive : (0 : ℝ) < (max steps 1 : ℕ) := by positivity
  have below : ((i + 1 : ℕ) : ℝ) ≤ (max steps 1 : ℕ) :=
    Nat.cast_le.mpr (List.mem_range.mp inRange)
  rw [Scalar.ofNat_real, Scalar.ofNat_real]
  exact ⟨by positivity, (div_le_one positive).mpr below⟩

private theorem parameters_ascending (steps : Nat) :
    (parameters steps : List ℝ).Pairwise (· ≤ ·) := by
  rw [parameters, List.pairwise_map]
  refine List.pairwise_lt_range.imp fun {i j} before => ?_
  rw [Scalar.ofNat_real, Scalar.ofNat_real, Scalar.ofNat_real]
  gcongr

private theorem pairwise_parameters {f : ℝ → ℝ}
    (up : ∀ s t, 0 ≤ s → s ≤ t → t ≤ 1 → f s ≤ f t) (steps : Nat) :
    ((parameters (max steps 1)).map f).Pairwise (· ≤ ·) ∧
      ∀ value ∈ (parameters (max steps 1)).map f, f 0 ≤ value ∧ value ≤ f 1 := by
  constructor
  · rw [List.pairwise_map]
    refine (parameters_ascending (max steps 1)).imp_of_mem fun {s t} first second le => ?_
    exact up s t (mem_parameters first).1 le (mem_parameters second).2
  · rw [List.forall_mem_map]
    intro t member
    obtain ⟨nonneg, atMostOne⟩ := mem_parameters member
    exact ⟨up 0 t le_rfl nonneg atMostOne, up t 1 nonneg atMostOne le_rfl⟩

theorem along_quadraticAt (direction start control stop : Point ℝ) (t : ℝ) :
    direction.along ⟨quadraticAt t start.x control.x stop.x,
        quadraticAt t start.y control.y stop.y⟩ =
      quadraticAt t (direction.along start) (direction.along control) (direction.along stop) := by
  simp only [Point.along, quadraticAt_eq]
  ring

theorem along_cubicAt (direction start first second stop : Point ℝ) (t : ℝ) :
    direction.along ⟨cubicAt t start.x first.x second.x stop.x,
        cubicAt t start.y first.y second.y stop.y⟩ =
      cubicAt t (direction.along start) (direction.along first) (direction.along second)
        (direction.along stop) := by
  simp only [Point.along, cubicAt_eq]
  ring

variable {direction start : Point ℝ} {segment : Segment ℝ}

/-- None of the points of a segment lies behind its start or ahead of its stop. -/
def Advances (direction start : Point ℝ) (segment : Segment ℝ) : Prop :=
  ∀ point ∈ segment.points, direction.along start ≤ direction.along point ∧
    direction.along point ≤ direction.along segment.stop

theorem Advances.start_le_stop (advances : segment.Advances direction start) :
    direction.along start ≤ direction.along segment.stop := by
  have member : segment.stop ∈ segment.points := by cases segment <;> simp [points, stop]
  exact (advances segment.stop member).1

/-- An advancing segment goes forward only, from its start to its stop. -/
theorem Advances.flatten (advances : segment.Advances direction start) (steps : Nat) :
    ((segment.flatten start steps).map direction.along).Pairwise (· ≤ ·) ∧
      ∀ value ∈ (segment.flatten start steps).map direction.along,
        direction.along start ≤ value ∧ value ≤ direction.along segment.stop := by
  cases segment with
  | line stop => simpa [Segment.flatten, Segment.stop] using advances.start_le_stop
  | quadratic control stop =>
      obtain ⟨first, second⟩ := advances control (by simp [points])
      have goesUp := pairwise_parameters (f := fun t => quadraticAt t (direction.along start)
        (direction.along control) (direction.along stop))
        (fun s t nonneg le atMostOne => quadraticAt_mono nonneg le atMostOne first second) steps
      simpa [Segment.flatten, Segment.stop, Function.comp_def, along_quadraticAt, quadraticAt_ends]
        using goesUp
  | cubic first second stop =>
      obtain ⟨firstAbove, firstBelow⟩ := advances first (by simp [points])
      obtain ⟨secondAbove, secondBelow⟩ := advances second (by simp [points])
      have goesUp := pairwise_parameters (f := fun t => cubicAt t (direction.along start)
        (direction.along first) (direction.along second) (direction.along stop))
        (fun s t nonneg le atMostOne => cubicAt_mono nonneg le atMostOne firstAbove firstBelow
          secondAbove secondBelow) steps
      simpa [Segment.flatten, Segment.stop, Function.comp_def, along_cubicAt, cubicAt_ends]
        using goesUp

end Segment

namespace StrokedPath

/-! ## Points on a path -/

/-- The segments of a path that has come to `start` all advance. -/
def Advance (direction : Point ℝ) : Point ℝ → List (Segment ℝ) → Prop
  | _, [] => True
  | start, segment :: rest => segment.Advances direction start ∧ Advance direction segment.stop rest

/-- Segments that all advance go forward only, up to the stop of the last one. -/
theorem Advance.blocks {direction start : Point ℝ} {segments : List (Segment ℝ)}
    (advance : Advance direction start segments) (steps : Nat) :
    ((start :: (blocks steps start segments).flatten).map direction.along).Pairwise (· ≤ ·) ∧
      ∀ last ∈ (start :: segments.map Segment.stop).getLast?,
        ∀ value ∈ (start :: (blocks steps start segments).flatten).map direction.along,
          value ≤ direction.along last := by
  induction segments generalizing start with
  | nil => simp [StrokedPath.blocks]
  | cons segment rest induction =>
      obtain ⟨advances, later⟩ := advance
      obtain ⟨pairwise, atMostLast⟩ := induction later
      obtain ⟨within, between⟩ := advances.flatten steps
      have forward := advances.start_le_stop
      rw [List.map_cons, List.pairwise_cons] at pairwise
      simp only [StrokedPath.blocks, List.flatten_cons, List.map_cons, List.map_append,
        List.getLast?_cons_cons]
      refine ⟨List.pairwise_cons.mpr ⟨?_, List.pairwise_append.mpr ⟨within, pairwise.2, ?_⟩⟩, ?_⟩
      · intro value member
        rcases List.mem_append.mp member with block | others
        · exact (between value block).1
        · exact forward.trans (pairwise.1 value others)
      · exact fun value block other others =>
          (between value block).2.trans (pairwise.1 other others)
      · intro last isLast value member
        have stop := atMostLast last isLast _ List.mem_cons_self
        rcases List.mem_cons.mp member with rfl | member
        · exact forward.trans stop
        · rcases List.mem_append.mp member with block | others
          · exact (between value block).2.trans stop
          · exact atMostLast last isLast value (List.mem_cons_of_mem _ others)

end StrokedPath
end PlaneRegion
