import Mathlib.Data.List.TakeDrop
import PlaneRegion.Brackets

/-!
# Balanced texts and calls

A balanced text leaves the depth as it found it, wherever it stands. So the bracket that opens
before a balanced text is closed by the one behind it, and a call is cut into its name and its
argument.
-/

namespace PlaneRegion
namespace Brackets

@[simp]
theorem balancedFrom_open (depth : Nat) (rest : List Char) :
    balancedFrom depth ('(' :: rest) = balancedFrom (depth + 1) rest :=
  rfl

@[simp]
theorem balancedFrom_close (depth : Nat) (rest : List Char) :
    balancedFrom (depth + 1) (')' :: rest) = balancedFrom depth rest :=
  rfl

/-- A character that is no bracket does not change the depth. -/
theorem balancedFrom_cons_of_ne {c : Char} (notOpen : c ≠ '(') (notClose : c ≠ ')') (depth : Nat)
    (rest : List Char) : balancedFrom depth (c :: rest) = balancedFrom depth rest := by
  cases depth <;> simp [balancedFrom, notClose]

/-- A text without brackets does not change the depth. -/
theorem balancedFrom_append_of_plain {plain : List Char} (noOpen : '(' ∉ plain)
    (noClose : ')' ∉ plain) (depth : Nat) (rest : List Char) :
    balancedFrom depth (plain ++ rest) = balancedFrom depth rest := by
  induction plain with
  | nil => rfl
  | cons c plain induction =>
      simp only [List.mem_cons, not_or] at noOpen noClose
      rw [List.cons_append, balancedFrom_cons_of_ne (Ne.symm noOpen.1) (Ne.symm noClose.1)]
      exact induction noOpen.2 noClose.2

private theorem balancedFrom_append {inside : List Char} {depth : Nat}
    (closes : balancedFrom depth inside = true) (outer : Nat) (rest : List Char) :
    balancedFrom (depth + outer) (inside ++ rest) = balancedFrom outer rest := by
  induction inside generalizing depth with
  | nil =>
      obtain rfl : depth = 0 := by simpa [balancedFrom] using closes
      rw [Nat.zero_add, List.nil_append]
  | cons c inside induction =>
      rw [List.cons_append]
      by_cases opens : c = '('
      · subst opens
        rw [balancedFrom_open, Nat.add_right_comm]
        exact induction closes
      by_cases shuts : c = ')'
      · subst shuts
        cases depth with
        | zero => cases closes
        | succ depth =>
            rw [Nat.add_right_comm, balancedFrom_close]
            exact induction closes
      · rw [balancedFrom_cons_of_ne opens shuts] at closes ⊢
        exact induction closes

/-- A balanced text does not change the depth. -/
theorem balancedFrom_append_of_balanced {inside : List Char} (closed : balanced inside = true)
    (depth : Nat) (rest : List Char) :
    balancedFrom depth (inside ++ rest) = balancedFrom depth rest := by
  simpa only [Nat.zero_add] using balancedFrom_append closed depth rest

/-- A text without brackets is balanced. -/
theorem balanced_of_plain {plain : List Char} (noOpen : '(' ∉ plain) (noClose : ')' ∉ plain) :
    balanced plain = true := by
  simpa [balanced, balancedFrom] using balancedFrom_append_of_plain noOpen noClose 0 []

/-- Balanced texts one after the other are balanced. -/
theorem balanced_append {first second : List Char} (closed : balanced first = true) :
    balanced (first ++ second) = balanced second :=
  balancedFrom_append_of_balanced closed 0 second

/-- A balanced text in brackets is balanced. -/
theorem balanced_bracketed {inside : List Char} (closed : balanced inside = true) :
    balanced ('(' :: (inside ++ [')'])) = true := by
  rw [balanced, balancedFrom_open, balancedFrom_append_of_balanced closed]
  rfl

/-- A closing bracket that is found stands directly behind the part before it. -/
theorem eq_append_of_beforeClosing {depth : Int} {text inside : List Char}
    (found : beforeClosing depth text = some inside) :
    ∃ later, text = inside ++ ')' :: later := by
  induction text generalizing depth inside with
  | nil => cases found
  | cons c text induction =>
      rw [beforeClosing] at found
      split_ifs at found with ends
      · cases found
        exact ⟨text, by rw [ends.1, List.nil_append]⟩
      · obtain ⟨part, tail, rfl⟩ := Option.map_eq_some_iff.mp found
        obtain ⟨later, rfl⟩ := induction tail
        exact ⟨later, rfl⟩

/-- The part before the closing bracket of a balanced text, the first bracket being open. -/
theorem beforeClosing_append {inside : List Char} {depth : Nat}
    (closes : balancedFrom depth inside = true) (later : List Char) :
    beforeClosing (depth + 1) (inside ++ ')' :: later) = some inside := by
  induction inside generalizing depth with
  | nil =>
      obtain rfl : depth = 0 := by simpa [balancedFrom] using closes
      rfl
  | cons c inside induction =>
      rw [List.cons_append, beforeClosing]
      by_cases opens : c = '('
      · subst opens
        have deeper := @induction (depth + 1) closes
        simpa [depthAfter] using deeper
      by_cases shuts : c = ')'
      · subst shuts
        cases depth with
        | zero => cases closes
        | succ depth =>
            have shallower := induction closes
            have stays : (depth : Int) + 1 ≠ 0 := by omega
            simpa [depthAfter, stays] using shallower
      · rw [balancedFrom_cons_of_ne opens shuts] at closes
        simpa [depthAfter, opens, shuts] using induction closes

/-- A name and a balanced argument in brackets are cut as a call. -/
theorem splitCall_of_balanced {name argument : List Char} (bare : '(' ∉ name)
    (closed : balanced argument = true) :
    splitCall (name ++ '(' :: (argument ++ [')'])) = some (name, argument) := by
  have before : ∀ c ∈ name, (c != '(') = true := by
    intro c member
    exact bne_iff_ne.mpr fun same => bare (same ▸ member)
  have inside : beforeClosing 0 ('(' :: (argument ++ [')'])) = some ('(' :: argument) := by
    simpa [beforeClosing, depthAfter] using @beforeClosing_append argument 0 closed []
  rw [splitCall, List.span_eq_takeWhile_dropWhile, List.takeWhile_append_of_pos before,
    List.dropWhile_append_of_pos before]
  simp [inside]

/-- A call is a name and an argument in the brackets at its end. -/
theorem eq_append_of_splitCall {text name argument : List Char}
    (call : splitCall text = some (name, argument)) :
    text = name ++ '(' :: (argument ++ [')']) := by
  rw [splitCall, List.span_eq_takeWhile_dropWhile] at call
  have whole := List.takeWhile_append_dropWhile (p := (· != '(')) (l := text)
  have opening := List.head?_dropWhile_not (· != '(') text
  generalize text.takeWhile (· != '(') = front at call whole
  generalize text.dropWhile (· != '(') = back at call whole opening
  simp only at call
  split at call
  · rename_i first _ found
    split_ifs at call with ends
    cases call
    obtain ⟨later, rfl⟩ := eq_append_of_beforeClosing found
    obtain rfl : later = [] := by
      simpa [Nat.add_assoc] using ends
    obtain rfl : first = '(' := by simpa using opening
    exact whole.symm
  · cases call

end Brackets
end PlaneRegion
