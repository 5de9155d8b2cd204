import PlaneRegion.Proofs.Equation.Cuts
import PlaneRegion.Proofs.Journal.Outcome
import PlaneRegion.Scalar.Basic

/-!
# Equations one after the other

Where brackets are closed, a sign that cuts is a joint: the text before it and the text after it are
cut as if each stood alone. So an equation is read in parts, and refused with the failure of the
first part that is refused.
-/

namespace PlaneRegion
namespace Equation

open Text

variable {depth : Int} {previous : Option Char} {first rest : List Char}

/-! ## Pieces at a joint -/

/-- Of the character before a text it matters only whether a minus behind it is a sign. -/
theorem cut_congr {other : Option Char} (alike : signFollows previous = signFollows other)
    (depth : Int) (text : List Char) : cut depth previous text = cut depth other text := by
  cases text with
  | nil => rfl
  | cons c rest => rw [cut_cons, cut_cons, alike]

/-- If the rest begins with a cut, its pieces follow those of the text before it. -/
theorem cut_append_of_joint {pieces : List (List Char)}
    (joint : cut (depthBehind depth first) (lastOf previous first) rest = ([], pieces)) :
    cut depth previous (first ++ rest) =
      ((cut depth previous first).1, (cut depth previous first).2 ++ pieces) := by
  induction first generalizing depth previous with
  | nil => exact joint
  | cons c first induction =>
      rw [List.cons_append, cut_cons, cut_cons, induction joint]
      split_ifs <;> rfl

/-- If the rest is left whole, it continues the last piece of the text before it. -/
theorem cut_append_of_uncut
    (whole : Uncut (depthBehind depth first) (lastOf previous first) rest) :
    ((cut depth previous first).2 = [] ∧
      cut depth previous (first ++ rest) = ((cut depth previous first).1 ++ rest, [])) ∨
    ∃ later last, (cut depth previous first).2 = later ++ [last] ∧
      cut depth previous (first ++ rest) =
        ((cut depth previous first).1, later ++ [last ++ rest]) := by
  induction first generalizing depth previous with
  | nil => exact Or.inl ⟨rfl, whole⟩
  | cons c first induction =>
      have known := @induction (Brackets.depthAfter depth c) (some c) whole
      rw [List.cons_append, cut_cons, cut_cons]
      generalize cut (Brackets.depthAfter depth c) (some c) first = pieces at known ⊢
      rcases known with ⟨single, extended⟩ | ⟨later, last, split, extended⟩
      · rw [extended]
        split_ifs
        · exact Or.inr ⟨[], pieces.1, by simp [single], rfl⟩
        · exact Or.inr ⟨[], '-' :: pieces.1, by simp [single], rfl⟩
        · exact Or.inl ⟨single, rfl⟩
      · rw [extended]
        split_ifs
        · exact Or.inr ⟨pieces.1 :: later, last, by simp [split], rfl⟩
        · exact Or.inr ⟨('-' :: pieces.1) :: later, last, by simp [split], rfl⟩
        · exact Or.inr ⟨later, last, split, rfl⟩

theorem separate_append_of_joint {first rest : List Char} {pieces : List (List Char)}
    (visible : compact first ≠ [])
    (joint : cut (depthBehind 0 (compact first)) (lastOf none (compact first)) (compact rest) =
      ([], pieces)) :
    separate (first ++ rest) = separate first ++ pieces := by
  have begins : (compact first ++ compact rest).head? = (compact first).head? :=
    List.head?_append_of_ne_nil _ visible
  simp only [separate, compact_append, cut_append_of_joint joint, begins]
  split_ifs <;> rfl

theorem separate_of_head {text : List Char} (head : (compact text).head? ≠ some '+') :
    separate text = (cut 0 none (compact text)).1 :: (cut 0 none (compact text)).2 := by
  simp only [separate, if_neg head]

theorem depthBehind_compact {text : List Char} (closed : text.count '(' = text.count ')') :
    depthBehind 0 (compact text) = 0 := by
  have opens : (compact text).count '(' = text.count '(' := List.count_filter rfl
  have closes : (compact text).count ')' = text.count ')' := List.count_filter rfl
  rw [depthBehind_eq_count, opens, closes, closed]
  omega

/-- A plus behind closed brackets separates two texts. -/
theorem separate_append_plus {first : List Char} (visible : compact first ≠ [])
    (closed : first.count '(' = first.count ')') (rest : List Char) :
    separate (first ++ '+' :: rest) =
      separate first ++ (cut 0 none (compact rest)).1 :: (cut 0 none (compact rest)).2 := by
  refine separate_append_of_joint visible ?_
  have begins : compact ('+' :: rest) = '+' :: compact rest := rfl
  have outside : Brackets.depthAfter 0 '+' = 0 := rfl
  have alike : signFollows (some '+') = signFollows none := rfl
  have fresh : cut 0 (some '+') (compact rest) = cut 0 none (compact rest) := cut_congr alike 0 _
  rw [begins, depthBehind_compact closed, cut_cons, outside, fresh]
  rfl

/-- A minus behind closed brackets that is no sign begins the second of two texts. -/
theorem separate_append_minus {first : List Char} (visible : compact first ≠ [])
    (closed : first.count '(' = first.count ')')
    (joint : signFollows (compact first).getLast? = false) (rest : List Char) :
    separate (first ++ '-' :: rest) = separate first ++ separate ('-' :: rest) := by
  refine separate_append_of_joint visible ?_
  have begins : compact ('-' :: rest) = '-' :: compact rest := rfl
  have outside : Brackets.depthAfter 0 '-' = 0 := rfl
  have sign : cut 0 none ('-' :: compact rest) =
      ('-' :: (cut 0 (some '-') (compact rest)).1, (cut 0 (some '-') (compact rest)).2) := rfl
  have head : (compact ('-' :: rest)).head? ≠ some '+' := by
    rw [begins]
    simp
  rw [separate_of_head head, begins, sign, depthBehind_compact closed, lastOf_none, cut_cons,
    outside, joint]
  simp

theorem compact_ne_nil {text : List Char} (visible : ∃ c ∈ text, isBlank c = false) :
    compact text ≠ [] := by
  obtain ⟨c, member, seen⟩ := visible
  exact List.ne_nil_of_mem (List.mem_filter.mpr ⟨member, by simp [seen]⟩)

theorem signFollows_getLast {text : List Char} (some_visible : text ≠ [])
    (notSign : ∀ c ∈ text.getLast?, c ∉ ['^', '*', '(', '+', '-']) :
    signFollows text.getLast? = false := by
  rw [signFollows_eq_false_iff]
  have last := List.getLast?_eq_some_getLast some_visible
  exact ⟨_, last, notSign _ last⟩

/-! ## Reading in parts -/

variable {α : Type} [Scalar α]

/-- Of two outcomes in turn, the failure of the first counts, then that of the second; two equations
stand one after the other. -/
def inTurn : Except EquationError (Equation α) → Except EquationError (Equation α) →
    Except EquationError (Equation α)
  | .error failure, _ => .error failure
  | .ok _, .error failure => .error failure
  | .ok first, .ok second => .ok (first ++ second)

/-- A text whose pieces are those of two texts is read as the two in turn. -/
theorem outcome_read_of_separate {text first second : String}
    (pieces : separate text.toList = separate first.toList ++ separate second.toList) :
    (read text : Attempt (Event α) EquationError (Equation α)).outcome =
      inTurn (read first : Attempt (Event α) EquationError (Equation α)).outcome
        (read second : Attempt (Event α) EquationError (Equation α)).outcome := by
  have parts : (read text : Attempt (Event α) EquationError (Equation α)) = do
      let before ← read first
      let after ← read second
      return before ++ after := by
    rw [read, pieces, List.mapM_append]
    rfl
  rw [parts]
  simp only [Attempt.outcome_bind, Attempt.outcome_pure]
  cases (read first : Attempt (Event α) EquationError (Equation α)).outcome with
  | error failure => rfl
  | ok before =>
      cases (read second : Attempt (Event α) EquationError (Equation α)).outcome <;> rfl

/-- Behind a text with a visible character and as many closing brackets as opening ones, a plus
joins the text to any other that does not begin with a plus, and a minus that is not a sign joins it
to the other with the minus in front: what is read are the two texts in turn. -/
theorem read_in_turn {first : String} (visible : ∃ c ∈ first.toList, isBlank c = false)
    (closed : first.toList.count '(' = first.toList.count ')') (second : String) :
    ((compact second.toList).head? ≠ some '+' →
      (read (first ++ "+" ++ second) : Attempt (Event α) EquationError (Equation α)).outcome =
        inTurn (read first : Attempt (Event α) EquationError (Equation α)).outcome
          (read second : Attempt (Event α) EquationError (Equation α)).outcome) ∧
    ((∀ c ∈ (compact first.toList).getLast?, c ∉ ['^', '*', '(', '+', '-']) →
      (read (first ++ "-" ++ second) : Attempt (Event α) EquationError (Equation α)).outcome =
        inTurn (read first : Attempt (Event α) EquationError (Equation α)).outcome
          (read ("-" ++ second) : Attempt (Event α) EquationError (Equation α)).outcome) := by
  have some_visible := compact_ne_nil visible
  constructor
  · intro head
    apply outcome_read_of_separate
    have text : (first ++ "+" ++ second).toList = first.toList ++ '+' :: second.toList := by simp
    rw [text, separate_append_plus some_visible closed, separate_of_head head]
  · intro notSign
    apply outcome_read_of_separate
    have text : (first ++ "-" ++ second).toList = first.toList ++ '-' :: second.toList := by simp
    have next : ("-" ++ second).toList = '-' :: second.toList := by simp
    have joint := signFollows_getLast some_visible notSign
    rw [text, next, separate_append_minus some_visible closed joint]

/-- Behind a root, the failure of a second term is reported, whether it is added or subtracted. -/
theorem read_root_in_turn :
    (∃ c ∈ "sqrt(x)".toList, isBlank c = false) ∧
    "sqrt(x)".toList.count '(' = "sqrt(x)".toList.count ')' ∧
    (compact "3z".toList).head? ≠ some '+' ∧
    (∀ c ∈ (compact "sqrt(x)".toList).getLast?, c ∉ ['^', '*', '(', '+', '-']) ∧
    (read ("sqrt(x)" ++ "+" ++ "3z") : Attempt (Event Float) EquationError _).outcome =
      .error ⟨"3z"⟩ ∧
    (read ("sqrt(x)" ++ "-" ++ "+3") : Attempt (Event Float) EquationError _).outcome =
      .error ⟨"-"⟩ := by
  have visible : ∃ c ∈ "sqrt(x)".toList, isBlank c = false := ⟨'s', by decide, by decide⟩
  have closed : "sqrt(x)".toList.count '(' = "sqrt(x)".toList.count ')' := by decide
  have head : (compact "3z".toList).head? ≠ some '+' := by decide
  have last : (compact "sqrt(x)".toList).getLast? = some ')' := by decide
  have notSign : ∀ c ∈ (compact "sqrt(x)".toList).getLast?, c ∉ ['^', '*', '(', '+', '-'] := by
    rw [last]
    rintro _ ⟨⟩
    decide
  have root : (read "sqrt(x)" : Attempt (Event Float) EquationError _).outcome =
      .ok [.root 1 1] := by decide +kernel
  have unknown : (read "3z" : Attempt (Event Float) EquationError _).outcome =
      .error ⟨"3z"⟩ := by decide +kernel
  have bare : (read ("-" ++ "+3") : Attempt (Event Float) EquationError _).outcome =
      .error ⟨"-"⟩ := by decide +kernel
  refine ⟨visible, closed, head, notSign, ?_, ?_⟩
  · rw [(read_in_turn visible closed "3z").1 head, root, unknown]
    rfl
  · rw [(read_in_turn visible closed "+3").2 notSign, root, bare]
    rfl

end Equation
end PlaneRegion
