import PlaneRegion.Proofs.Equation.Joining

/-!
# Where an equation is cut

The text alone says where an equation is cut: at the signs outside brackets, but for a minus that is
the sign of what follows. The terms are the segments between these positions, in order, so nothing
but the plus signs at the cuts is lost.
-/

namespace PlaneRegion
namespace Equation

/-- The nesting depth before a position: the brackets opened there less the brackets closed, whether
they belong together or not. -/
def depthBefore (text : List Char) (i : Nat) : Int :=
  (text.take i).count '(' - (text.take i).count ')'

/-- A text is cut at a position outside brackets, at a plus, or at a minus behind a character that
makes it no sign. -/
def IsCut (text : List Char) (i : Nat) : Prop :=
  depthBefore text i = 0 ∧
    (text[i]? = some '+' ∨
      text[i]? = some '-' ∧ 0 < i ∧ ∃ c ∈ text[i - 1]?, c ∉ ['^', '*', '(', '+', '-'])

instance (text : List Char) (i : Nat) : Decidable (IsCut text i) :=
  -- The one character in question is tested, not all characters.
  have : Decidable (∃ c ∈ text[i - 1]?, c ∉ ['^', '*', '(', '+', '-']) :=
    Option.decidableExistsMem _
  inferInstanceAs (Decidable (_ ∧ _))

/-- The positions at which a text is cut, in order. -/
def cutPositions (text : List Char) : List Nat :=
  (List.range text.length).filter (IsCut text ·)

/-- Where the segment behind a cut begins: behind a plus, but at a minus. -/
def segmentStart (text : List Char) (i : Nat) : Nat :=
  if text[i]? = some '+' then i + 1 else i

/-- The segments of a text from a position on, given the positions at which they end. -/
def segmentsFrom (text : List Char) (start : Nat) : List Nat → List (List Char)
  | [] => [text.drop start]
  | i :: later => (text.take i).drop start :: segmentsFrom text (segmentStart text i) later

/-- The segments between the cuts of a text. -/
def segments (text : List Char) : List (List Char) :=
  segmentsFrom text 0 (cutPositions text)

/-- A text without the plus signs at which it is cut. -/
def withoutCuttingPlus (text : List Char) : List Char :=
  (text.zipIdx.filter fun entry => ¬(entry.1 = '+' ∧ IsCut text entry.2)).map Prod.fst

theorem lastOf_none (text : List Char) : lastOf none text = text.getLast? := by
  induction text using List.reverseRecOn with
  | nil => rfl
  | append_singleton text c _ => simp [lastOf]

theorem signFollows_eq_false_iff (previous : Option Char) :
    signFollows previous = false ↔ ∃ c ∈ previous, c ∉ ['^', '*', '(', '+', '-'] := by
  cases previous <;> simp [signFollows, and_assoc]

/-- Behind a text, the depth and the last character decide on a cut. -/
theorem isCut_append_iff (front : List Char) (c : Char) (rest : List Char) :
    IsCut (front ++ c :: rest) front.length ↔
      depthBehind 0 front = 0 ∧
        (c = '+' ∨ c = '-' ∧ signFollows (lastOf none front) = false) := by
  have here : (front ++ c :: rest)[front.length]? = some c := by simp
  have depth : depthBefore (front ++ c :: rest) front.length = depthBehind 0 front := by
    rw [depthBefore, List.take_left', depthBehind_eq_count, Int.zero_add]
    rfl
  have before : front ≠ [] →
      (front ++ c :: rest)[front.length - 1]? = front.getLast? := by
    intro filled
    have inside := List.length_pos_iff.mpr filled
    rw [List.getElem?_append_left (by omega), List.getLast?_eq_getElem?]
  rw [IsCut, here, depth, signFollows_eq_false_iff, lastOf_none]
  simp only [Option.some.injEq]
  cases front with
  | nil => simp
  | cons first front =>
      rw [before (List.cons_ne_nil _ _)]
      simp

/-- The pieces of a text that stands behind another one. -/
def cutBehind (front rest : List Char) : List Char × List (List Char) :=
  cut (depthBehind 0 front) (lastOf none front) rest

/-- One more character is a cut of the whole text, or it begins the first piece. -/
theorem cutBehind_cons (front : List Char) (c : Char) (rest : List Char) :
    cutBehind front (c :: rest) =
      let (piece, pieces) := cutBehind (front ++ [c]) rest
      if IsCut (front ++ c :: rest) front.length then
        ([], (if c = '+' then piece else c :: piece) :: pieces)
      else (c :: piece, pieces) := by
  have next : cutBehind (front ++ [c]) rest =
      cut (Brackets.depthAfter (depthBehind 0 front) c) (some c) rest := by
    rw [cutBehind, depthBehind_append, lastOf_none, List.getLast?_concat]
    rfl
  have sign : c = '+' ∨ c = '-' →
      Brackets.depthAfter (depthBehind 0 front) c = depthBehind 0 front := by
    rintro (rfl | rfl) <;> rfl
  rw [next, cutBehind, cut_cons]
  simp only [isCut_append_iff]
  generalize cut (Brackets.depthAfter (depthBehind 0 front) c) (some c) rest = pieces
  by_cases plus : c = '+'
  · rw [sign (Or.inl plus)]
    simp [plus, and_comm]
  by_cases minus : c = '-'
  · rw [sign (Or.inr minus)]
    simp [minus]
  · simp [plus, minus]

/-- Behind a text, the pieces of the rest are the segments of the whole. -/
theorem segmentsFrom_append (front rest : List Char) {start : Nat} (inside : start ≤ front.length) :
    segmentsFrom (front ++ rest) start
        ((List.range' front.length rest.length).filter (IsCut (front ++ rest) ·)) =
      (front.drop start ++ (cutBehind front rest).1) :: (cutBehind front rest).2 := by
  induction rest generalizing front start with
  | nil => simp [segmentsFrom, cutBehind, cut]
  | cons c rest induction =>
      have longer : (front ++ [c]).length = front.length + 1 := List.length_append
      have later : ∀ {start}, start ≤ front.length + 1 → _ := fun within =>
        induction (front ++ [c]) (longer.symm ▸ within)
      simp only [List.length_append, List.length_singleton, List.append_assoc,
        List.singleton_append] at later
      rw [List.length_cons, List.range'_succ, cutBehind_cons]
      by_cases cuts : IsCut (front ++ c :: rest) front.length
      · rw [List.filter_cons_of_pos (by simpa using cuts), segmentsFrom, segmentStart]
        by_cases plus : c = '+'
        · subst plus
          rw [if_pos (by simp), later le_rfl]
          simp [cuts]
        · rw [if_neg (by simp [plus]), later (Nat.le_succ _)]
          simp [cuts, plus]
      · rw [List.filter_cons_of_neg (by simpa using cuts), later (Nat.le_succ_of_le inside),
          List.drop_append_of_le_length inside]
        simp [cuts]

/-- Behind a text, only the cutting plus signs of the rest are lost. -/
theorem flatten_cutBehind (front rest : List Char) :
    (cutBehind front rest).1 ++ (cutBehind front rest).2.flatten =
      ((rest.zipIdx front.length).filter fun entry =>
        ¬(entry.1 = '+' ∧ IsCut (front ++ rest) entry.2)).map Prod.fst := by
  induction rest generalizing front with
  | nil => rfl
  | cons c rest induction =>
      have later := induction (front ++ [c])
      simp only [List.length_append, List.length_singleton, List.append_assoc,
        List.singleton_append] at later
      rw [List.zipIdx_cons, List.filter_cons, cutBehind_cons]
      by_cases cuts : IsCut (front ++ c :: rest) front.length
      · by_cases plus : c = '+'
        · subst plus
          simp [cuts, later]
        · simp [cuts, plus, later]
      · simp [cuts, later]

/-- Before a plus at the very beginning there is an empty piece. -/
theorem exists_cut_of_head {text : List Char} (plus : text.head? = some '+') :
    ∃ piece pieces, cut 0 none text = ([], piece :: pieces) := by
  cases text with
  | nil => cases plus
  | cons c rest =>
      cases plus
      exact ⟨_, _, rfl⟩

/-- The terms of an equation are the segments of its text without blanks, between the positions at
which that text is cut; before a plus at the very beginning there is an empty one, which is left
out. So the terms in order hold every character but the plus signs at the cuts. -/
theorem separate_eq_segments (text : List Char) :
    (separate text =
      if (Text.compact text).head? = some '+' then (segments (Text.compact text)).tail
      else segments (Text.compact text)) ∧
    ((Text.compact text).head? = some '+' → (segments (Text.compact text)).head? = some []) ∧
    (separate text).flatten = withoutCuttingPlus (Text.compact text) := by
  generalize compact : Text.compact text = visible
  have pieces : segments visible = (cutBehind [] visible).1 :: (cutBehind [] visible).2 := by
    have whole := segmentsFrom_append [] visible (Nat.zero_le _)
    rwa [List.length_nil, ← List.range_eq_range', List.drop_nil, List.nil_append,
      List.nil_append] at whole
  have kept : (cutBehind [] visible).1 ++ (cutBehind [] visible).2.flatten =
      withoutCuttingPlus visible := flatten_cutBehind [] visible
  have first : visible.head? = some '+' → (cutBehind [] visible).1 = [] := by
    intro plus
    obtain ⟨_, _, pieces⟩ := exists_cut_of_head plus
    exact congrArg Prod.fst pieces
  have separated : separate text =
      if visible.head? = some '+' then (cutBehind [] visible).2
      else (cutBehind [] visible).1 :: (cutBehind [] visible).2 := by
    rw [separate, compact]
    rfl
  rw [separated, pieces]
  refine ⟨rfl, fun plus => congrArg some (first plus), ?_⟩
  split_ifs with plus
  · rw [← kept, first plus, List.nil_append]
  · exact kept

/-- The minus behind a caret is a sign, and so is the one in brackets. -/
example : cutPositions "x^-2-sin(-x)+-3".toList = [4, 12] := by decide

end Equation
end PlaneRegion
