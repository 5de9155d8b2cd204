import Mathlib.Data.List.Infix
import PlaneRegion.Proofs.Brackets

/-!
# Calls and the brackets that close them

The depth of a text is counted in two ways: one count refuses to fall below zero, the other one
looks for the first return to zero.  Both are read off the numbers of opening and closing brackets
in the beginnings of a text.  So a text is cut as a call exactly if it is a name and a balanced
argument in brackets, and the closing bracket is then its last byte.
-/

namespace PlaneRegion
namespace Brackets

/-- No beginning of the text closes more brackets than it opens and `depth` more. -/
def ClosesAtMost (depth : Nat) (text : List Char) : Prop :=
  ∀ front, front <+: text → front.count ')' ≤ front.count '(' + depth

/-- No beginning of the text closes more brackets than it opens, and the whole text closes as many
as it opens. -/
structure IsBalanced (text : List Char) : Prop where
  fronts : ClosesAtMost 0 text
  total : text.count ')' = text.count '('

/-- The bracket that opens before `rest` is closed by the one behind `inside`. -/
structure IsClosedBehind (rest inside : List Char) : Prop where
  balanced : IsBalanced inside
  closed : inside ++ [')'] <+: rest

/-! ## Counting brackets -/

section Counting

variable {depth : Nat} {text : List Char}

theorem closesAtMost_nil (depth : Nat) : ClosesAtMost depth [] := by
  intro front start
  rw [List.prefix_nil.mp start]
  exact Nat.zero_le _

theorem closesAtMost_cons {c : Char} :
    ClosesAtMost depth (c :: text) ↔
      ∀ front, front <+: text → (c :: front).count ')' ≤ (c :: front).count '(' + depth := by
  constructor
  · exact fun bounded front start => bounded _ (List.cons_prefix_cons.mpr ⟨rfl, start⟩)
  · intro bounded front start
    rcases List.prefix_cons_iff.mp start with rfl | ⟨later, rfl, further⟩
    · exact Nat.zero_le _
    · exact bounded later further

theorem closesAtMost_open : ClosesAtMost depth ('(' :: text) ↔ ClosesAtMost (depth + 1) text := by
  rw [closesAtMost_cons]
  refine forall₂_congr fun front _ => ?_
  rw [List.count_cons_self, List.count_cons_of_ne (by decide), Nat.add_right_comm, Nat.add_assoc]

theorem closesAtMost_close : ClosesAtMost (depth + 1) (')' :: text) ↔ ClosesAtMost depth text := by
  rw [closesAtMost_cons]
  refine forall₂_congr fun front _ => ?_
  rw [List.count_cons_self, List.count_cons_of_ne (by decide), ← Nat.add_assoc,
    Nat.add_le_add_iff_right]

theorem not_closesAtMost_zero_close : ¬ ClosesAtMost 0 (')' :: text) := by
  intro bounded
  exact absurd (bounded [')'] (List.prefix_append [')'] text)) (by decide)

theorem closesAtMost_cons_of_ne {c : Char} (notOpen : c ≠ '(') (notClose : c ≠ ')') :
    ClosesAtMost depth (c :: text) ↔ ClosesAtMost depth text := by
  rw [closesAtMost_cons]
  refine forall₂_congr fun front _ => ?_
  rw [List.count_cons_of_ne notOpen, List.count_cons_of_ne notClose]

/-- The count that refuses to fall below zero compares the numbers of brackets. -/
theorem balancedFrom_eq_true_iff :
    balancedFrom depth text = true ↔
      ClosesAtMost depth text ∧ text.count ')' = text.count '(' + depth := by
  induction text generalizing depth with
  | nil =>
      rw [balancedFrom, beq_iff_eq, and_iff_right (closesAtMost_nil depth)]
      exact ⟨fun none => none ▸ rfl, fun total => by simpa using total.symm⟩
  | cons c text induction =>
      by_cases opens : c = '('
      · subst opens
        rw [balancedFrom_open, induction, closesAtMost_open, List.count_cons_self,
          List.count_cons_of_ne (by decide), Nat.add_right_comm, Nat.add_assoc]
      by_cases shuts : c = ')'
      · subst shuts
        cases depth with
        | zero =>
            exact iff_of_false Bool.false_ne_true fun known => not_closesAtMost_zero_close known.1
        | succ depth =>
            rw [balancedFrom_close, induction, closesAtMost_close, List.count_cons_self,
              List.count_cons_of_ne (by decide), ← Nat.add_assoc, Nat.add_right_cancel_iff]
      · rw [balancedFrom_cons_of_ne opens shuts, induction, closesAtMost_cons_of_ne opens shuts,
          List.count_cons_of_ne opens, List.count_cons_of_ne shuts]

theorem balanced_eq_true_iff : balanced text = true ↔ IsBalanced text := by
  rw [balanced, balancedFrom_eq_true_iff, Nat.add_zero]
  exact ⟨fun known => ⟨known.1, known.2⟩, fun known => ⟨known.fronts, known.total⟩⟩

end Counting

/-! ## The closing bracket -/

section Closing

variable {depth : Nat} {rest inside : List Char}

theorem beforeClosing_open (depth : Nat) (rest : List Char) :
    beforeClosing depth ('(' :: rest) = (beforeClosing (depth + 1 : Nat) rest).map ('(' :: ·) := by
  simp [beforeClosing, depthAfter]

/-- The first bracket of a call is passed over. -/
theorem beforeClosing_zero_open (rest : List Char) :
    beforeClosing 0 ('(' :: rest) = (beforeClosing 1 rest).map ('(' :: ·) :=
  beforeClosing_open 0 rest

theorem beforeClosing_close_last (rest : List Char) :
    beforeClosing (1 : Nat) (')' :: rest) = some [] := by
  simp [beforeClosing, depthAfter]

theorem beforeClosing_close (depth : Nat) (rest : List Char) :
    beforeClosing (depth + 1 + 1 : Nat) (')' :: rest) =
      (beforeClosing (depth + 1 : Nat) rest).map (')' :: ·) := by
  have stays : (depth : Int) + 1 ≠ 0 := by omega
  simp [beforeClosing, depthAfter, stays]

theorem beforeClosing_cons_of_ne {c : Char} (notOpen : c ≠ '(') (notClose : c ≠ ')') (depth : Nat)
    (rest : List Char) :
    beforeClosing depth (c :: rest) = (beforeClosing depth rest).map (c :: ·) := by
  simp [beforeClosing, depthAfter, notOpen, notClose]

/-- The count that looks for its first return to zero does not find it in a text whose beginnings
leave a bracket open. -/
theorem beforeClosing_eq_none_iff :
    beforeClosing (depth + 1 : Nat) rest = none ↔ ClosesAtMost depth rest := by
  induction rest generalizing depth with
  | nil => exact iff_of_true rfl (closesAtMost_nil depth)
  | cons c rest induction =>
      by_cases opens : c = '('
      · subst opens
        rw [beforeClosing_open, Option.map_eq_none_iff, induction, closesAtMost_open]
      by_cases shuts : c = ')'
      · subst shuts
        cases depth with
        | zero =>
            rw [beforeClosing_close_last]
            exact iff_of_false (Option.some_ne_none []) not_closesAtMost_zero_close
        | succ depth =>
            rw [beforeClosing_close, Option.map_eq_none_iff, induction, closesAtMost_close]
      · rw [beforeClosing_cons_of_ne opens shuts, Option.map_eq_none_iff, induction,
          closesAtMost_cons_of_ne opens shuts]

/-- Up to its first return to zero the count does not fall below zero, so that the part before the
closing bracket closes all other brackets. -/
theorem balancedFrom_of_beforeClosing (found : beforeClosing (depth + 1 : Nat) rest = some inside) :
    balancedFrom depth inside = true := by
  induction rest generalizing depth inside with
  | nil => cases found
  | cons c rest induction =>
      by_cases opens : c = '('
      · subst opens
        rw [beforeClosing_open] at found
        obtain ⟨part, deeper, rfl⟩ := Option.map_eq_some_iff.mp found
        rw [balancedFrom_open, induction deeper]
      by_cases shuts : c = ')'
      · subst shuts
        cases depth with
        | zero =>
            rw [beforeClosing_close_last] at found
            cases found
            rfl
        | succ depth =>
            rw [beforeClosing_close] at found
            obtain ⟨part, shallower, rfl⟩ := Option.map_eq_some_iff.mp found
            rw [balancedFrom_close, induction shallower]
      · rw [beforeClosing_cons_of_ne opens shuts] at found
        obtain ⟨part, same, rfl⟩ := Option.map_eq_some_iff.mp found
        rw [balancedFrom_cons_of_ne opens shuts, induction same]

/-- Behind an opening bracket, the part before the closing one is the balanced one. -/
theorem beforeClosing_eq_some_iff :
    beforeClosing 1 rest = some inside ↔ IsClosedBehind rest inside := by
  constructor
  · intro found
    obtain ⟨later, rfl⟩ := eq_append_of_beforeClosing found
    exact ⟨balanced_eq_true_iff.mp (balancedFrom_of_beforeClosing found), later, by simp⟩
  · rintro ⟨known, later, rfl⟩
    have closes : balancedFrom 0 inside = true := balanced_eq_true_iff.mpr known
    simpa using beforeClosing_append closes later

end Closing

/-! ## Positions in bytes -/

theorem byteLength_concat (text : List Char) (c : Char) :
    byteLength (text ++ [c]) = byteLength text + c.utf8Size := by
  rw [byteLength, List.foldl_append]
  rfl

theorem byteLength_append (front back : List Char) :
    byteLength (front ++ back) = byteLength front + byteLength back := by
  induction back using List.reverseRecOn with
  | nil => exact congrArg byteLength (List.append_nil front)
  | append_singleton back c induction =>
      rw [← List.append_assoc, byteLength_concat, byteLength_concat, induction, Nat.add_assoc]

theorem byteLength_cons (c : Char) (text : List Char) :
    byteLength (c :: text) = c.utf8Size + byteLength text := by
  have sole : byteLength [c] = c.utf8Size := Nat.zero_add c.utf8Size
  rw [← List.singleton_append, byteLength_append, sole]

/-- No character is empty, so only the empty text has no bytes. -/
theorem byteLength_eq_zero_iff {text : List Char} : byteLength text = 0 ↔ text = [] := by
  cases text with
  | nil => exact iff_of_true rfl rfl
  | cons c text =>
      have bytes := c.utf8Size_pos
      rw [byteLength_cons]
      exact iff_of_false (by omega) (List.cons_ne_nil c text)

/-- Characters are dropped up to the byte position behind a beginning of the text. -/
theorem fromByte_append (before rest : List Char) (position : Nat) :
    fromByte (position + byteLength before) position (before ++ rest) =
      (position + byteLength before, rest) := by
  induction before generalizing position with
  | nil => cases rest <;> simp [fromByte, byteLength]
  | cons c before induction =>
      have bytes := c.utf8Size_pos
      rw [byteLength_cons, ← Nat.add_assoc, List.cons_append, fromByte, if_pos (by omega)]
      exact induction (position + c.utf8Size)

theorem closing_append (before rest : List Char) :
    closing (before ++ '(' :: rest) (byteLength before) =
      (beforeClosing 1 rest).map fun inside => byteLength (before ++ '(' :: inside) := by
  have start := fromByte_append before ('(' :: rest) 0
  rw [Nat.zero_add] at start
  simp only [closing, start, beforeClosing_zero_open, Option.map_map, byteLength_append]
  rfl

/-! ## Calls -/

/-- A text with a bracket is a call if the first one is closed at its end. -/
theorem splitCall_append {name : List Char} (bare : '(' ∉ name) (rest : List Char) :
    splitCall (name ++ '(' :: rest) =
      (beforeClosing 1 rest).bind fun argument =>
        if argument.length + 1 = rest.length then some (name, argument) else none := by
  have before : ∀ c ∈ name, (c != '(') = true :=
    fun c member => bne_iff_ne.mpr fun same => bare (same ▸ member)
  rw [splitCall, List.span_eq_takeWhile_dropWhile, List.takeWhile_append_of_pos before,
    List.dropWhile_append_of_pos before]
  cases found : beforeClosing 1 rest with
  | none => simp [beforeClosing_zero_open, found]
  | some argument => simp [beforeClosing_zero_open, found]

theorem splitCall_eq_some_iff {text name argument : List Char} :
    splitCall text = some (name, argument) ↔
      text = name ++ '(' :: (argument ++ [')']) ∧ '(' ∉ name ∧ balanced argument = true := by
  constructor
  · intro call
    have split := eq_append_of_splitCall call
    have opened : '(' ∈ text := by simp [split]
    obtain ⟨front, rest, rfl, bare⟩ := List.eq_append_cons_of_mem opened
    rw [splitCall_append bare] at call
    obtain ⟨inside, found, ends⟩ := Option.bind_eq_some_iff.mp call
    split_ifs at ends
    cases ends
    exact ⟨split, bare, balancedFrom_of_beforeClosing found⟩
  · rintro ⟨rfl, bare, closed⟩
    exact splitCall_of_balanced bare closed

/-- The bracket behind a name is closed by the last byte exactly if the text is a call. -/
theorem exists_splitCall_iff {name rest : List Char} :
    (∃ argument, splitCall (name ++ '(' :: rest) = some (name, argument)) ↔
      '(' ∉ name ∧ (closing (name ++ '(' :: rest) (byteLength name)).map (· + 1) =
        some (byteLength (name ++ '(' :: rest)) := by
  simp only [splitCall_eq_some_iff, closing_append, Option.map_map, Option.map_eq_some_iff,
    List.append_cancel_left_eq, List.cons.injEq, true_and]
  constructor
  · rintro ⟨argument, rfl, bare, closed⟩
    refine ⟨bare, argument, ?_, ?_⟩
    · exact beforeClosing_eq_some_iff.mpr ⟨balanced_eq_true_iff.mp closed, List.prefix_rfl⟩
    · simp only [Function.comp, byteLength_append, byteLength_cons]
      rfl
  · rintro ⟨bare, inside, found, last⟩
    obtain ⟨later, rfl⟩ := eq_append_of_beforeClosing found
    have one : ')'.utf8Size = 1 := rfl
    simp only [Function.comp, byteLength_append, byteLength_cons, one] at last
    obtain rfl : later = [] := byteLength_eq_zero_iff.mp (by omega)
    exact ⟨inside, rfl, bare, balancedFrom_of_beforeClosing found⟩

/-- A text is cut as a call exactly if it is a name without an opening bracket and a balanced
argument in brackets.  A text is balanced if none of its beginnings closes more brackets than it
opens and the whole closes as many.  For every opening bracket the byte of the bracket that closes
it is found, and none is found exactly if no beginning of what follows closes more brackets than it
opens.  A call is closed by its last byte. -/
theorem recognises_calls :
    (∀ text name argument : List Char, splitCall text = some (name, argument) ↔
      text = name ++ '(' :: (argument ++ [')']) ∧ '(' ∉ name ∧ balanced argument = true) ∧
    (∀ text : List Char, balanced text = true ↔ IsBalanced text) ∧
    ∀ before rest : List Char,
      (∀ position, closing (before ++ '(' :: rest) (byteLength before) = some position ↔
        ∃ inside, IsClosedBehind rest inside ∧ position = byteLength (before ++ '(' :: inside)) ∧
      (closing (before ++ '(' :: rest) (byteLength before) = none ↔ ClosesAtMost 0 rest) ∧
      ((∃ argument, splitCall (before ++ '(' :: rest) = some (before, argument)) ↔
        '(' ∉ before ∧ (closing (before ++ '(' :: rest) (byteLength before)).map (· + 1) =
          some (byteLength (before ++ '(' :: rest))) := by
  refine ⟨fun _ _ _ => splitCall_eq_some_iff, fun _ => balanced_eq_true_iff, fun before rest => ?_⟩
  refine ⟨fun position => ?_, ?_, exists_splitCall_iff⟩
  · rw [closing_append, Option.map_eq_some_iff]
    exact exists_congr fun inside => and_congr beforeClosing_eq_some_iff eq_comm
  · rw [closing_append, Option.map_eq_none_iff]
    exact beforeClosing_eq_none_iff

/-- The bracket behind a letter of two bytes is found behind an inner call. -/
example : closing "é(a(b)c)d".toList 2 = some 8 := by decide

end Brackets
end PlaneRegion
