import PlaneRegion.Equation.Reader
import PlaneRegion.Proofs.Term.Grammar
import PlaneRegion.Proofs.Text.Words

/-!
# Cutting joined terms apart

Texts that stand alone, joined by plus signs, are cut apart at these signs and nowhere else. A text
stands alone if its brackets are closed and each minus sign in it is inside brackets or the sign of
what follows.
-/

namespace PlaneRegion
namespace Equation

/-- The nesting depth behind a text. -/
def depthBehind (depth : Int) (text : List Char) : Int :=
  text.foldl Brackets.depthAfter depth

/-- The character before what follows a text. -/
def lastOf (previous : Option Char) (text : List Char) : Option Char :=
  text.foldl (fun _ c => some c) previous

/-- A text is left whole at a depth and behind a character. -/
def Uncut (depth : Int) (previous : Option Char) (text : List Char) : Prop :=
  cut depth previous text = (text, [])

/-- A text without blanks and plus signs. -/
def IsPlain (text : List Char) : Prop :=
  ∀ c ∈ text, Text.isBlank c = false ∧ c ≠ '+'

variable {depth : Int} {previous : Option Char} {first second : List Char}

theorem IsPlain.append (plain : IsPlain first) (next : IsPlain second) :
    IsPlain (first ++ second) :=
  List.forall_mem_append.mpr ⟨plain, next⟩

theorem cut_cons (depth : Int) (previous : Option Char) (c : Char) (rest : List Char) :
    cut depth previous (c :: rest) =
      let (piece, pieces) := cut (Brackets.depthAfter depth c) (some c) rest
      if c = '+' ∧ Brackets.depthAfter depth c = 0 then ([], piece :: pieces)
      else if c = '-' ∧ Brackets.depthAfter depth c = 0 ∧ !signFollows previous then
        ([], ('-' :: piece) :: pieces)
      else (c :: piece, pieces) :=
  rfl

theorem Uncut.tail {c : Char} (whole : Uncut depth previous (c :: first)) :
    ¬(c = '+' ∧ Brackets.depthAfter depth c = 0) ∧
      ¬(c = '-' ∧ Brackets.depthAfter depth c = 0 ∧ (!signFollows previous) = true) ∧
        Uncut (Brackets.depthAfter depth c) (some c) first := by
  rw [Uncut, cut] at whole
  split_ifs at whole with plus minus
  · cases (Prod.mk.inj whole).1
  · cases (Prod.mk.inj whole).1
  · obtain ⟨piece, pieces⟩ := Prod.mk.inj whole
    exact ⟨plus, minus, Prod.ext (List.cons.inj piece).2 pieces⟩

/-- The text that follows a text left whole is cut where it would be cut alone. -/
theorem Uncut.cut_append (whole : Uncut depth previous first) (rest : List Char) :
    cut depth previous (first ++ rest) =
      (first ++ (cut (depthBehind depth first) (lastOf previous first) rest).1,
        (cut (depthBehind depth first) (lastOf previous first) rest).2) := by
  induction first generalizing depth previous with
  | nil => rfl
  | cons c first induction =>
      obtain ⟨plus, minus, inner⟩ := whole.tail
      rw [List.cons_append, cut_cons, induction inner]
      simp only [if_neg plus, if_neg minus]
      rfl

theorem Uncut.append (whole : Uncut depth previous first)
    (next : Uncut (depthBehind depth first) (lastOf previous first) second) :
    Uncut depth previous (first ++ second) := by
  rw [Uncut, whole.cut_append, next]

/-- Without signs there is no place to cut. -/
theorem uncut_of_signless {text : List Char} (plain : IsPlain text) (minus : '-' ∉ text)
    (depth : Int) (previous : Option Char) : Uncut depth previous text := by
  induction text generalizing depth previous with
  | nil => rfl
  | cons c text induction =>
      rw [List.mem_cons, not_or] at minus
      obtain ⟨head, tail⟩ := List.forall_mem_cons.mp plain
      have noPlus : ¬(c = '+' ∧ Brackets.depthAfter depth c = 0) := fun cuts => head.2 cuts.1
      have noMinus : ¬(c = '-' ∧ Brackets.depthAfter depth c = 0 ∧
          (!signFollows previous) = true) := fun cuts => minus.1 cuts.1.symm
      rw [Uncut, cut_cons, induction tail minus.2]
      simp only [if_neg noPlus, if_neg noMinus]

theorem uncut_minus (sign : signFollows previous = true ∨ depth ≠ 0) :
    Uncut depth previous ['-'] := by
  have same : Brackets.depthAfter depth '-' = depth := rfl
  have whole : depth = 0 → signFollows previous = true := fun outside =>
    sign.resolve_right (not_not_intro outside)
  rw [Uncut, cut_cons, same]
  simpa [cut] using whole

theorem depthBehind_append (depth : Int) (first second : List Char) :
    depthBehind depth (first ++ second) = depthBehind (depthBehind depth first) second :=
  List.foldl_append

/-- The depth grows by the brackets that a text opens and shrinks by those that it closes. -/
theorem depthBehind_eq_count (depth : Int) (text : List Char) :
    depthBehind depth text = depth + (text.count '(' - text.count ')') := by
  induction text generalizing depth with
  | nil => simp [depthBehind]
  | cons c text induction =>
      rw [depthBehind, List.foldl_cons]
      refine (induction _).trans ?_
      simp only [Brackets.depthAfter, List.count_cons, beq_iff_eq]
      split_ifs with opens closes <;> simp_all <;> omega

theorem depthBehind_of_bracketless {text : List Char} (noOpen : '(' ∉ text) (noClose : ')' ∉ text)
    (depth : Int) : depthBehind depth text = depth := by
  induction text with
  | nil => rfl
  | cons c text induction =>
      simp only [List.mem_cons, not_or] at noOpen noClose
      have same : Brackets.depthAfter depth c = depth := by
        rw [Brackets.depthAfter, if_neg (Ne.symm noOpen.1), if_neg (Ne.symm noClose.1)]
      rw [depthBehind, List.foldl_cons, same]
      exact induction noOpen.2 noClose.2

/-- A text that is left whole wherever it stands at one depth, and leads to another depth. -/
structure Passes (start stop : Int) (text : List Char) : Prop where
  plain : IsPlain text
  uncut : ∀ previous, Uncut start previous text
  depth : depthBehind start text = stop

theorem Passes.append {start middle stop : Int} (passes : Passes start middle first)
    (next : Passes middle stop second) : Passes start stop (first ++ second) where
  plain := passes.plain.append next.plain
  uncut previous := by
    refine (passes.uncut previous).append ?_
    rw [passes.depth]
    exact next.uncut _
  depth := by rw [depthBehind_append, passes.depth, next.depth]

/-- A text without blanks and signs passes. -/
theorem passes_of_signless {start stop : Int} {text : List Char}
    (signless : (text.all fun c => !Text.isBlank c && c != '+' && c != '-') = true)
    (depth : depthBehind start text = stop) : Passes start stop text := by
  simp only [List.all_eq_true, Bool.and_eq_true, Bool.not_eq_true', bne_iff_ne] at signless
  have plain : IsPlain text := fun c member => (signless c member).1
  have minus : '-' ∉ text := fun member => (signless _ member).2 rfl
  exact ⟨plain, uncut_of_signless plain minus start, depth⟩

/-- The name of an operation has neither signs nor brackets. -/
theorem passes_operationName {name : List Char} {operation : Operation}
    (named : Term.OperationName name operation) : Passes 0 0 name := by
  cases named with
  | root => exact passes_of_signless rfl rfl
  | named function =>
      cases function <;> exact passes_of_signless rfl rfl

/-- A text that is one piece of an equation wherever a term may begin. -/
structure StandsAlone (piece : List Char) : Prop where
  nonempty : piece ≠ []
  plain : IsPlain piece
  uncut : ∀ {previous}, signFollows previous = true → Uncut 0 previous piece
  closed : depthBehind 0 piece = 0

theorem cut_joined {piece : List Char} {pieces : List (List Char)}
    (begins : signFollows previous = true) (alone : ∀ text ∈ piece :: pieces, StandsAlone text) :
    cut 0 previous (piece ++ pieces.flatMap fun text => '+' :: text) = (piece, pieces) := by
  induction pieces generalizing piece previous with
  | nil =>
      rw [List.flatMap_nil, List.append_nil]
      exact (alone piece List.mem_cons_self).uncut begins
  | cons next pieces induction =>
      have known := alone piece List.mem_cons_self
      have later : cut 0 (some '+') (next ++ pieces.flatMap fun text => '+' :: text) =
          (next, pieces) :=
        induction rfl fun text member => alone text (List.mem_cons_of_mem _ member)
      have outside : Brackets.depthAfter 0 '+' = 0 := rfl
      rw [(known.uncut begins).cut_append, known.closed, List.flatMap_cons, List.cons_append,
        cut_cons, outside, later]
      simp

/-- Texts that stand alone are the pieces of the text that joins them by plus signs. -/
theorem separate_joined {pieces : List (List Char)} (some : pieces ≠ [])
    (alone : ∀ text ∈ pieces, StandsAlone text) :
    separate (['+'].intercalate pieces) = pieces := by
  obtain ⟨piece, pieces, rfl⟩ := List.exists_cons_of_ne_nil some
  have known := alone piece List.mem_cons_self
  have compact : Text.compact (['+'].intercalate (piece :: pieces)) =
      ['+'].intercalate (piece :: pieces) := by
    refine List.filter_eq_self.mpr ?_
    rw [Text.intercalate_cons]
    simp only [List.mem_append, List.mem_flatMap, List.mem_cons]
    rintro c (member | ⟨text, member, rfl | inside⟩)
    · simp [(known.plain c member).1]
    · rfl
    · simp [((alone text (List.mem_cons_of_mem _ member)).plain c inside).1]
  have begins : (['+'].intercalate (piece :: pieces)).head? ≠ Option.some '+' := by
    obtain ⟨c, rest, rfl⟩ := List.exists_cons_of_ne_nil known.nonempty
    rw [Text.intercalate_cons]
    rintro ⟨⟩
    exact (known.plain _ List.mem_cons_self).2 rfl
  simp only [separate, compact, if_neg begins]
  rw [Text.intercalate_cons, cut_joined rfl alone]

end Equation
end PlaneRegion
