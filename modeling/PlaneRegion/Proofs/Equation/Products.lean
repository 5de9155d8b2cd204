import PlaneRegion.Proofs.Equation.Joints
import PlaneRegion.Proofs.Term.Products

/-!
# Multiplication signs in an equation

An equation is cut into terms first, and right behind a multiplication sign a term ends only with
the text or at a plus. So the characters around a multiplication sign tell whether it multiplies
something by a written number; but there are equations that are read although one does not.
-/

namespace PlaneRegion
namespace Equation

open Text

/-! ## Characters and their terms -/

theorem cut_prefix (depth : Int) (previous : Option Char) (text : List Char) :
    (cut depth previous text).1 <+: text := by
  induction text generalizing depth previous with
  | nil => exact List.nil_prefix
  | cons c rest induction =>
      rw [cut_cons]
      split_ifs
      · exact List.nil_prefix
      · exact List.nil_prefix
      · exact (List.prefix_cons_inj c).mpr (induction _ _)

/-- Where a text is cut at once, a plus stands, or a minus that is no sign. -/
theorem sign_of_cut_eq_nil {depth : Int} {previous : Option Char} {text : List Char}
    (ended : (cut depth previous text).1 = []) :
    ∀ c ∈ text.head?, c = '+' ∨ c = '-' ∧ signFollows previous = false := by
  rintro c head
  obtain ⟨rest, rfl⟩ := List.head?_eq_some_iff.mp head
  rw [cut_cons] at ended
  split_ifs at ended with plus minus
  · exact Or.inl plus.1
  · exact Or.inr ⟨minus.1, by simpa using minus.2.2⟩

/-- Of what stands in a text before and behind a character, the part in the same term. The term
begins with the character only where the text does, or behind a plus, and ends with it only where
the text does, or before a sign that cuts. -/
structure Surrounds (c : Char) (front back before after : List Char) : Prop where
  ends : before <:+ front
  begins : after <+: back
  first : before = [] → ∀ d ∈ front.getLast?, d = '+'
  last : after = [] → ∀ d ∈ back.head?, d = '+' ∨ d = '-' ∧ signFollows (some c) = false

/-- A character that is no sign is found in a piece, with what surrounds it there. -/
theorem exists_piece_around {c : Char} (notPlus : c ≠ '+') (notMinus : c ≠ '-')
    (depth : Int) (previous : Option Char) (front back : List Char) :
    (∃ after, Surrounds c [] back [] after ∧
      (cut depth previous (front ++ c :: back)).1 = front ++ c :: after) ∨
    front ≠ [] ∧ ∃ before after, Surrounds c front back before after ∧
      before ++ c :: after ∈ (cut depth previous (front ++ c :: back)).2 := by
  induction front generalizing depth previous with
  | nil =>
      refine Or.inl ⟨_, ⟨List.suffix_rfl, cut_prefix (Brackets.depthAfter depth c) (some c) back,
        ?_, sign_of_cut_eq_nil⟩, ?_⟩
      · rintro - _ ⟨⟩
      · rw [List.nil_append, cut_cons]
        simp [notPlus, notMinus]
  | cons d front induction =>
      have known := induction (Brackets.depthAfter depth d) (some d)
      rw [List.cons_append, cut_cons]
      generalize cut (Brackets.depthAfter depth d) (some d) (front ++ c :: back) = pieces at known ⊢
      rcases known with ⟨after, around, piece⟩ | ⟨filled, before, after, around, member⟩
      · split_ifs with plus minus
        · refine Or.inr ⟨List.cons_ne_nil _ _, front, after,
            ⟨List.suffix_cons d front, around.begins, ?_, around.last⟩, by simp [piece]⟩
          rintro rfl _ ⟨⟩
          exact plus.1
        · refine Or.inr ⟨List.cons_ne_nil _ _, d :: front, after,
            ⟨List.suffix_rfl, around.begins, ?_, around.last⟩, by simp [piece, minus.1]⟩
          rintro ⟨⟩
        · exact Or.inl ⟨after, around, by simp [piece]⟩
      · have longer : Surrounds c (d :: front) back before after := by
          refine ⟨around.ends.trans (List.suffix_cons d front), around.begins, ?_, around.last⟩
          rw [List.getLast?_cons_of_ne_nil filled]
          exact around.first
        split_ifs
        · exact Or.inr ⟨List.cons_ne_nil _ _, before, after, longer, by simp [member]⟩
        · exact Or.inr ⟨List.cons_ne_nil _ _, before, after, longer, by simp [member]⟩
        · exact Or.inr ⟨List.cons_ne_nil _ _, before, after, longer, member⟩

/-- A character that is no sign stands in a term, with what surrounds it there. -/
theorem exists_mem_separate {text front back : List Char} {c : Char} (notPlus : c ≠ '+')
    (notMinus : c ≠ '-') (split : compact text = front ++ c :: back) :
    ∃ before after, Surrounds c front back before after ∧
      before ++ c :: after ∈ separate text := by
  simp only [separate, split]
  rcases exists_piece_around notPlus notMinus 0 none front back with
    ⟨after, around, piece⟩ | ⟨-, before, after, around, member⟩
  · have head : (front ++ c :: back).head? ≠ some '+' := by
      intro plus
      obtain ⟨_, _, pieces⟩ := exists_cut_of_head plus
      simp [pieces] at piece
    refine ⟨front, after, ⟨List.suffix_rfl, around.begins, ?_, around.last⟩, ?_⟩
    · rintro rfl _ ⟨⟩
    · rw [if_neg head, piece]
      exact List.mem_cons_self
  · refine ⟨before, after, around, ?_⟩
    split_ifs
    · exact member
    · exact List.mem_cons_of_mem _ member

/-- A multiplication sign behind a text continues its last term. -/
theorem exists_separate_concat_star (text : List Char) :
    ∃ earlier last, separate text = earlier ++ [last] ∧
      separate (text ++ ['*']) = earlier ++ [last ++ ['*']] := by
  have whole : Uncut (depthBehind 0 (compact text)) (lastOf none (compact text)) ['*'] :=
    uncut_of_signless (by simp [IsPlain]; decide) (by decide) _ _
  have longer : compact (text ++ ['*']) = compact text ++ ['*'] := compact_append text ['*']
  have head : (compact text ++ ['*']).head? = some '+' ↔ (compact text).head? = some '+' := by
    cases compact text <;> simp
  simp only [separate, longer, head]
  rcases cut_append_of_uncut whole with ⟨single, extended⟩ | ⟨later, last, several, extended⟩
  · have noPlus : (compact text).head? ≠ some '+' := by
      intro plus
      obtain ⟨_, _, pieces⟩ := exists_cut_of_head plus
      simp [pieces] at single
    rw [if_neg noPlus, if_neg noPlus, single, extended]
    exact ⟨[], _, rfl, rfl⟩
  · rw [several, extended]
    split_ifs
    · exact ⟨later, last, rfl, rfl⟩
    · exact ⟨_ :: later, last, rfl, rfl⟩

/-- A multiplication sign before a text, possibly with a minus before it, begins its first term. -/
theorem exists_separate_star_append {sign text : List Char} (signed : sign = [] ∨ sign = ['-'])
    (head : (compact text).head? ≠ some '+') :
    ∃ first others, separate text = first :: others ∧
      separate (sign ++ '*' :: text) = (sign ++ '*' :: first) :: others := by
  have alike : signFollows (some '*') = signFollows none := rfl
  have fresh := cut_congr alike 0 (compact text)
  have star : ∀ previous, cut 0 previous ('*' :: compact text) =
      ('*' :: (cut 0 none (compact text)).1, (cut 0 none (compact text)).2) := by
    intro previous
    have outside : Brackets.depthAfter 0 '*' = 0 := rfl
    rw [cut_cons, outside, fresh]
    simp
  refine ⟨_, _, separate_of_head head, ?_⟩
  rcases signed with rfl | rfl
  · have visible : compact ([] ++ '*' :: text) = '*' :: compact text := rfl
    rw [separate_of_head (by rw [visible]; simp), visible, star]
    rfl
  · have visible : compact (['-'] ++ '*' :: text) = '-' :: '*' :: compact text := rfl
    have outside : Brackets.depthAfter 0 '-' = 0 := rfl
    have begins : signFollows none = true := rfl
    rw [separate_of_head (by rw [visible]; simp), visible, cut_cons, outside, begins, star]
    simp

/-- A call of an argument with a multiplication sign, and possibly a minus, is one term. -/
theorem separate_call_star {name sign base : List Char} {operation : Operation}
    (named : Term.OperationName name operation) (signed : sign = [] ∨ sign = ['-'])
    (known : base ∈ Term.variableTexts) :
    separate (name ++ '(' :: (sign ++ ('*' :: base) ++ [')'])) =
      [name ++ '(' :: (sign ++ ('*' :: base) ++ [')'])] := by
  have opening : Passes 0 1 ['('] := passes_of_signless rfl rfl
  have closing : Passes 1 0 [')'] := passes_of_signless rfl rfl
  have signing : Passes 1 1 sign := by
    rcases signed with rfl | rfl
    · exact passes_of_signless rfl rfl
    · exact ⟨by simp [IsPlain, isBlank], fun _ => uncut_minus (Or.inr (by decide)), rfl⟩
  have product : Passes 1 1 ('*' :: base) := by
    simp only [Term.variableTexts, List.mem_cons, List.not_mem_nil, or_false] at known
    rcases known with rfl | rfl | rfl | rfl <;> exact passes_of_signless rfl rfl
  have passes : Passes 0 0 (name ++ '(' :: (sign ++ ('*' :: base) ++ [')'])) :=
    (passes_operationName named).append (opening.append ((signing.append product).append closing))
  have alone : StandsAlone (name ++ '(' :: (sign ++ ('*' :: base) ++ [')'])) :=
    ⟨by simp, passes.plain, fun _ => passes.uncut _, passes.depth⟩
  have pieces := separate_joined (List.cons_ne_nil _ []) (List.forall_mem_singleton.mpr alone)
  rwa [List.intercalate_singleton] at pieces

/-! ## Equations with multiplication signs -/

/-- An equation can be read. -/
def IsAccepted (text : String) : Prop :=
  ∃ equation, (read text : Attempt (Event Float) EquationError (Equation Float)).outcome =
    .ok equation

theorem isAccepted_iff (text : String) :
    IsAccepted text ↔ ∀ piece ∈ separate text.toList, Term.IsAccepted piece :=
  Attempt.exists_outcome_mapM_eq_ok_iff _ _

theorem isAccepted_of_separate {text first second : String}
    (pieces : separate text.toList = separate first.toList ++ separate second.toList) :
    IsAccepted text ↔ IsAccepted first ∧ IsAccepted second := by
  simp only [isAccepted_iff, pieces, List.forall_mem_append]

/-- An equation whose terms are those of another, and a coefficient in the last place, can be
continued by a multiplication sign, and no other equation can. -/
theorem isAccepted_append_star_iff (text : String) :
    IsAccepted (text ++ "*") ↔
      ∃ earlier last value, separate text.toList = earlier ++ [last] ∧
        (∀ piece ∈ earlier, Term.IsAccepted piece) ∧ Term.CoefficientText last value := by
  obtain ⟨earlier, last, pieces, longer⟩ := exists_separate_concat_star text.toList
  have whole : (text ++ "*").toList = text.toList ++ ['*'] := by simp
  rw [isAccepted_iff, whole, longer, List.forall_mem_append, List.forall_mem_singleton,
    Term.isAccepted_concat_star_iff, pieces]
  constructor
  · rintro ⟨sound, value, written⟩
    exact ⟨earlier, last, value, rfl, sound, written⟩
  · rintro ⟨before, final, value, same, sound, written⟩
    obtain ⟨rfl, ending⟩ := List.append_inj' same rfl
    obtain rfl := List.singleton_inj.mp ending
    exact ⟨sound, value, written⟩

/-- A plus behind a multiplication sign outside brackets ends the term. -/
theorem isAccepted_append_star_plus_iff {first : String}
    (closed : first.toList.count '(' = first.toList.count ')') (second : String) :
    IsAccepted (first ++ "*+" ++ second) ↔
      IsAccepted (first ++ "*") ∧ IsAccepted second ∧
        (compact second.toList).head? ≠ some '+' := by
  have text : (first ++ "*+" ++ second).toList = (first ++ "*").toList ++ '+' :: second.toList := by
    simp
  have visible : compact (first ++ "*").toList ≠ [] := by
    rw [String.toList_append, compact_append]
    exact List.append_ne_nil_of_right_ne_nil _ (List.cons_ne_nil _ _)
  have balance : (first ++ "*").toList.count '(' = (first ++ "*").toList.count ')' := by
    simpa using closed
  have pieces := separate_append_plus visible balance second.toList
  rw [← text] at pieces
  by_cases plus : (compact second.toList).head? = some '+'
  · have refused : ¬IsAccepted (first ++ "*+" ++ second) := by
      obtain ⟨_, _, empty⟩ := exists_cut_of_head plus
      rw [isAccepted_iff, pieces, empty]
      intro sound
      obtain ⟨term, accepted⟩ := sound [] (by simp)
      cases accepted
    simp [refused, plus]
  · rw [← separate_of_head plus] at pieces
    rw [isAccepted_of_separate pieces]
    simp [plus]

/-- A multiplication sign, or a minus and one, can be put before an equation exactly if its first
term is a body and the other terms are read. -/
theorem isAccepted_star_append_iff {sign : String} (signed : sign = "" ∨ sign = "-") {text : String}
    (head : (compact text.toList).head? ≠ some '+') :
    IsAccepted (sign ++ "*" ++ text) ↔
      ∃ first others, separate text.toList = first :: others ∧
        (∃ value term, Term.BodyText value first term) ∧
        ∀ piece ∈ others, Term.IsAccepted piece := by
  have whole : (sign ++ "*" ++ text).toList = sign.toList ++ '*' :: text.toList := by simp
  have listed : sign.toList = [] ∨ sign.toList = ['-'] := by
    rcases signed with rfl | rfl <;> simp
  obtain ⟨value, written⟩ : ∃ value, Term.CoefficientText sign.toList value := by
    rcases listed with bare | minus
    · exact ⟨1, bare ▸ .missing⟩
    · exact ⟨-1, minus ▸ .minus⟩
  obtain ⟨first, others, pieces, longer⟩ := exists_separate_star_append listed head
  rw [isAccepted_iff, whole, longer, List.forall_mem_cons, Term.isAccepted_star_iff written,
    pieces]
  constructor
  · rintro ⟨bodied, sound⟩
    exact ⟨first, others, rfl, bodied, sound⟩
  · rintro ⟨_, _, same, bodied, sound⟩
    obtain ⟨rfl, rfl⟩ := List.cons_eq_cons.mp same
    exact ⟨bodied, sound⟩

/-- A sign that cuts can stand before a multiplication sign, too. -/
theorem isAccepted_append_sign_star_iff {first : String}
    (visible : ∃ c ∈ first.toList, isBlank c = false)
    (closed : first.toList.count '(' = first.toList.count ')') (second : String) :
    (IsAccepted (first ++ "+*" ++ second) ↔ IsAccepted first ∧ IsAccepted ("*" ++ second)) ∧
    ((∀ c ∈ (compact first.toList).getLast?, c ∉ ['^', '*', '(', '+', '-']) →
      (IsAccepted (first ++ "-*" ++ second) ↔ IsAccepted first ∧ IsAccepted ("-*" ++ second))) := by
  have some_visible := compact_ne_nil visible
  constructor
  · apply isAccepted_of_separate
    have text : (first ++ "+*" ++ second).toList = first.toList ++ '+' :: '*' :: second.toList := by
      simp
    have next : ("*" ++ second).toList = '*' :: second.toList := by simp
    have head : (compact ('*' :: second.toList)).head? ≠ some '+' := by
      have begins : compact ('*' :: second.toList) = '*' :: compact second.toList := rfl
      rw [begins]
      simp
    rw [text, next, separate_append_plus some_visible closed, separate_of_head head]
  · intro notSign
    apply isAccepted_of_separate
    have text : (first ++ "-*" ++ second).toList = first.toList ++ '-' :: '*' :: second.toList := by
      simp
    have next : ("-*" ++ second).toList = '-' :: '*' :: second.toList := by simp
    have joint := signFollows_getLast some_visible notSign
    rw [text, next, separate_append_minus some_visible closed joint]

theorem isAccepted_call_star {name sign base : List Char} {operation : Operation}
    (named : Term.OperationName name operation) (signed : sign = [] ∨ sign = ['-'])
    (known : base ∈ Term.variableTexts) :
    IsAccepted (String.ofList (name ++ '(' :: (sign ++ ('*' :: base) ++ [')']))) := by
  rw [isAccepted_iff, String.toList_ofList, separate_call_star named signed known,
    List.forall_mem_singleton]
  exact Term.isAccepted_call_star named signed known

/-- Every multiplication sign multiplies something by a written number, in a term. -/
def StarsMultiply (text : String) : Prop :=
  ∀ front back, compact text.toList = front ++ '*' :: back →
    ∃ before after, before <:+ front ∧ after <+: back ∧
      before ++ '*' :: after ∈ separate text.toList ∧ Term.Multiplies before after

/-- In an equation that is read, a multiplication sign multiplies something by a written number
exactly if a digit stands before it, and behind it something other than a plus. -/
theorem starsMultiply_iff {text : String} (accepted : IsAccepted text) :
    StarsMultiply text ↔ ∀ front back, compact text.toList = front ++ '*' :: back →
      (∃ c ∈ front.getLast?, c.isDigit = true) ∧ ∃ c ∈ back.head?, c ≠ '+' := by
  constructor
  · intro multiply front back split
    obtain ⟨before, after, ⟨earlier, rfl⟩, ⟨later, rfl⟩, -, multiplies⟩ :=
      multiply front back split
    obtain ⟨digit, last, known⟩ := multiplies.last
    obtain ⟨next, head, notPlus⟩ := Term.StarPlace.head multiplies
    exact ⟨⟨digit, List.mem_getLast?_append_of_mem_getLast? last, known⟩,
      next, List.mem_head?_append_of_mem_head? head, notPlus⟩
  · intro around front back split
    obtain ⟨⟨digit, last, known⟩, next, head, notPlus⟩ := around front back split
    obtain ⟨before, after, surrounds, member⟩ := exists_mem_separate (by decide) (by decide) split
    obtain ⟨term, read⟩ := (isAccepted_iff text).mp accepted _ member
    refine ⟨before, after, surrounds.ends, surrounds.begins, member, ?_⟩
    rcases Term.star_of_termText (Term.termText_of_outcome_read read) with
      multiplies | ⟨nothing, -⟩ | lacks
    · exact multiplies
    · rcases surrounds.last nothing next head with plus | ⟨-, ⟨⟩⟩
      exact absurd plus notPlus
    · obtain ⟨earlier, rfl⟩ := surrounds.ends
      rcases List.eq_nil_or_concat before with rfl | ⟨rest, c, rfl⟩
      · obtain rfl := surrounds.first rfl digit last
        exact absurd known (by decide)
      · have same : c = digit := by simpa using last
        have bare := lacks.last c (by simp)
        exact absurd known (by simp [← same, bare])

/-- Where multiplication signs stand in equations that are read, at the ends of a text and in it. -/
structure StarLaws (text : String) : Prop where
  /-- All of them multiply something by a written number exactly if each stands behind a digit and
  before something other than a plus. -/
  multiply_iff : IsAccepted text → (StarsMultiply text ↔
    ∀ front back, compact text.toList = front ++ '*' :: back →
      (∃ c ∈ front.getLast?, c.isDigit = true) ∧ ∃ c ∈ back.head?, c ≠ '+')
  /-- First, nothing may be multiplied: an equation with a multiplication sign behind it is read
  exactly if its last term is a coefficient and the other terms are read. -/
  append_star_iff : IsAccepted (text ++ "*") ↔
    ∃ earlier last value, separate text.toList = earlier ++ [last] ∧
      (∀ piece ∈ earlier, Term.IsAccepted piece) ∧ Term.CoefficientText last value
  /-- If this sign stands outside brackets, a plus and any equation that does not begin with a plus
  can follow it. -/
  append_star_plus_iff : text.toList.count '(' = text.toList.count ')' → ∀ other : String,
    (IsAccepted (text ++ "*+" ++ other) ↔
      IsAccepted (text ++ "*") ∧ IsAccepted other ∧ (compact other.toList).head? ≠ some '+')
  /-- Second, the number may be left out: an equation with a multiplication sign before it, or with
  a minus and one, is read exactly if its first term is a body and the other terms are read. -/
  star_append_iff : (compact text.toList).head? ≠ some '+' → ∀ sign, sign = "" ∨ sign = "-" →
    (IsAccepted (sign ++ "*" ++ text) ↔
      ∃ first others, separate text.toList = first :: others ∧
        (∃ value term, Term.BodyText value first term) ∧ ∀ piece ∈ others, Term.IsAccepted piece)
  /-- Such an equation can stand outside brackets behind any other, if a minus is no sign there. -/
  append_sign_star_iff : (∃ c ∈ text.toList, isBlank c = false) →
    text.toList.count '(' = text.toList.count ')' → ∀ other : String,
      (IsAccepted (text ++ "+*" ++ other) ↔ IsAccepted text ∧ IsAccepted ("*" ++ other)) ∧
      ((∀ c ∈ (compact text.toList).getLast?, c ∉ ['^', '*', '(', '+', '-']) →
        (IsAccepted (text ++ "-*" ++ other) ↔ IsAccepted text ∧ IsAccepted ("-*" ++ other)))
  /-- In the argument of a call the number before the variable may be left out, too. -/
  call_star : ∀ name operation sign base, Term.OperationName name operation →
    sign = [] ∨ sign = ['-'] → base ∈ Term.variableTexts →
    IsAccepted (String.ofList (name ++ '(' :: (sign ++ ('*' :: base) ++ [')'])))

/-- The reader of equations follows these laws: a multiplication sign that multiplies nothing, or
has no number before it, is read in the given places. -/
theorem starLaws (text : String) : StarLaws text where
  multiply_iff := starsMultiply_iff
  append_star_iff := isAccepted_append_star_iff text
  append_star_plus_iff := isAccepted_append_star_plus_iff
  star_append_iff head _ signed := isAccepted_star_append_iff signed head
  append_sign_star_iff := isAccepted_append_sign_star_iff
  call_star _ _ _ _ := isAccepted_call_star

/-- The laws apply to `2*+x`, `-*x`, `3-*x` and `sqrt(-*x)`. -/
theorem star_dangles_before_plus :
    IsAccepted "2*+x" ∧
    (StarsMultiply "2*+x" ↔ ∀ front back, compact "2*+x".toList = front ++ '*' :: back →
      (∃ c ∈ front.getLast?, c.isDigit = true) ∧ ∃ c ∈ back.head?, c ≠ '+') ∧
    ¬StarsMultiply "2*+x" ∧
    "2".toList.count '(' = "2".toList.count ')' ∧
    (IsAccepted ("2" ++ "*+" ++ "x") ↔
      IsAccepted ("2" ++ "*") ∧ IsAccepted "x" ∧ (compact "x".toList).head? ≠ some '+') ∧
    (compact "x".toList).head? ≠ some '+' ∧
    (IsAccepted ("-" ++ "*" ++ "x") ↔
      ∃ first others, separate "x".toList = first :: others ∧
        (∃ value term, Term.BodyText value first term) ∧
        ∀ piece ∈ others, Term.IsAccepted piece) ∧
    (∀ c ∈ (compact "3".toList).getLast?, c ∉ ['^', '*', '(', '+', '-']) ∧
    (IsAccepted ("3" ++ "-*" ++ "x") ↔ IsAccepted "3" ∧ IsAccepted ("-*" ++ "x")) ∧
    IsAccepted (String.ofList ("sqrt".toList ++ '(' :: (['-'] ++ ['*', 'x'] ++ [')']))) := by
  have accepted : IsAccepted "2*+x" := ⟨[.constant 2, .linear 1], by decide +kernel⟩
  have closed : "2".toList.count '(' = "2".toList.count ')' := by decide
  have head : (compact "x".toList).head? ≠ some '+' := by decide
  have multiply_iff := (starLaws "2*+x").multiply_iff accepted
  have dangles : ¬StarsMultiply "2*+x" := by
    rw [multiply_iff]
    intro around
    have behind := (around ['2'] ['+', 'x'] (by decide)).2
    simp at behind
  have last : (compact "3".toList).getLast? = some '3' := by decide
  have joint : ∀ c ∈ (compact "3".toList).getLast?, c ∉ ['^', '*', '(', '+', '-'] := by
    rw [last]
    rintro _ ⟨⟩
    decide
  have behind := (starLaws "3").append_sign_star_iff ⟨'3', by decide, by decide⟩ (by decide) "x"
  exact ⟨accepted, multiply_iff, dangles, closed,
    (starLaws "2").append_star_plus_iff closed "x", head,
    (starLaws "x").star_append_iff head "-" (Or.inr rfl), joint, behind.2 joint,
    (starLaws "x").call_star _ _ ['-'] ['x'] .root (Or.inr rfl) (by decide)⟩

/-- One multiplication sign without a digit before it, or with a plus or nothing behind it. -/
theorem not_starsMultiply {text : String} (accepted : IsAccepted text) (front back : List Char)
    (split : compact text.toList = front ++ '*' :: back)
    (bare : ¬((∃ c ∈ front.getLast?, c.isDigit = true) ∧ ∃ c ∈ back.head?, c ≠ '+')) :
    ¬StarsMultiply text :=
  fun multiply => bare ((starsMultiply_iff accepted).mp multiply front back split)

/-- Multiplication signs outside brackets that multiply nothing: `2*` is read as `2`, and `2*+x` as
the sum of `2` and `x`. And multiplication signs with no number before them: `*x` is read as `x`,
`3-*x` as the difference of `3` and `x`, and `sqrt(*x)` as `sqrt(x)`. -/
theorem exists_accepted_dangling_star :
    "2".toList.count '(' = "2".toList.count ')' ∧
    (read ("2" ++ "*") : Attempt (Event Float) EquationError _).outcome =
      .ok [.constant 2] ∧
    (read ("2" ++ "*+" ++ "x") : Attempt (Event Float) EquationError _).outcome =
      .ok [.constant 2, .linear 1] ∧
    (read "*x" : Attempt (Event Float) EquationError _).outcome = .ok [.linear 1] ∧
    (read "3-*x" : Attempt (Event Float) EquationError _).outcome =
      .ok [.constant 3, .linear (-1)] ∧
    (read "sqrt(*x)" : Attempt (Event Float) EquationError _).outcome = .ok [.root 1 1] ∧
    ∀ text ∈ ["2*", "2*+x", "*x", "3-*x", "sqrt(*x)"], ¬StarsMultiply text := by
  have constant : (read ("2" ++ "*") : Attempt (Event Float) EquationError _).outcome =
      .ok [.constant 2] := by decide +kernel
  have sum : (read ("2" ++ "*+" ++ "x") : Attempt (Event Float) EquationError _).outcome =
      .ok [.constant 2, .linear 1] := by decide +kernel
  have variable_alone : (read "*x" : Attempt (Event Float) EquationError _).outcome =
      .ok [.linear 1] := by decide +kernel
  have subtracted : (read "3-*x" : Attempt (Event Float) EquationError _).outcome =
      .ok [.constant 3, .linear (-1)] := by decide +kernel
  have root : (read "sqrt(*x)" : Attempt (Event Float) EquationError _).outcome =
      .ok [.root 1 1] := by decide +kernel
  refine ⟨by decide, constant, sum, variable_alone, subtracted, root, ?_⟩
  rw [List.forall_mem_cons, List.forall_mem_cons, List.forall_mem_cons, List.forall_mem_cons,
    List.forall_mem_singleton]
  exact ⟨not_starsMultiply ⟨_, constant⟩ ['2'] [] (by decide) (by simp),
    not_starsMultiply ⟨_, sum⟩ ['2'] ['+', 'x'] (by decide) (by simp),
    not_starsMultiply ⟨_, variable_alone⟩ [] ['x'] (by decide) (by simp),
    not_starsMultiply ⟨_, subtracted⟩ ['3', '-'] ['x'] (by decide) (by simp),
    not_starsMultiply ⟨_, root⟩ ['s', 'q', 'r', 't', '('] ['x', ')'] (by decide) (by simp)⟩

end Equation
end PlaneRegion
