import PlaneRegion.Proofs.Binary64.Defined
import PlaneRegion.Proofs.Decimal.Numeral
import PlaneRegion.Proofs.Equation.Printing
import PlaneRegion.Proofs.Equation.Products

/-!
# Equations that are numbers

A numeral is an equation of one constant term.  Among the texts of numbers only the numerals are
equations: an exponent, a point without digits behind it, or a name makes a piece that is no term.
-/

namespace PlaneRegion

namespace Term

/-! ## Terms that agree -/

/-- The same operation, and numerically equal numbers. -/
structure AgreesWith (term other : Term Float) : Prop where
  coefficient : (other.coefficient == term.coefficient) = true
  operation : other.operation = term.operation
  scale : (other.scale == term.scale) = true
  exponent : Option.Rel (fun n m => (m == n) = true) term.exponent other.exponent

theorem beq_self_of_isNaN {x : Float} (defined : x.isNaN = false) : (x == x) = true := by
  rw [Float.beq_self_iff]
  rintro rfl
  exact absurd defined (by decide)

theorem beq_self_of_scaleText {text : List Char} {scale : Float}
    (written : ScaleText text scale) : (scale == scale) = true := by
  cases written with
  | numeral => exact beq_self_of_isNaN (Binary64.isNaN_ofDecimal _)
  | zero | minus | missing => decide

private theorem one_beq_one : ((Scalar.ofNat 1 : Float) == Scalar.ofNat 1) = true := by
  decide

private theorem zero_beq_zero : ((Scalar.ofNat 0 : Float) == Scalar.ofNat 0) = true := by
  decide

theorem agreesWith_constant {x y : Float} (same : (y == x) = true) :
    (constant x).AgreesWith (constant y) :=
  ⟨same, rfl, one_beq_one, .some zero_beq_zero⟩

/-- No number of a term that is read is undefined. -/
theorem agreesWith_self {text : List Char} {term : Term Float} (written : TermText text term)
    (finite : term.coefficient.isFinite = true) : term.AgreesWith term := by
  have coefficient := beq_self_of_isFinite finite
  obtain ⟨_, _, bodied, _⟩ := written
  cases bodied with
  | nothing => exact agreesWith_constant coefficient
  | linear => exact ⟨coefficient, rfl, one_beq_one, .some one_beq_one⟩
  | power _ degree =>
      refine ⟨coefficient, rfl, one_beq_one, .some (beq_self_of_isFinite ?_)⟩
      rcases degree with number | number <;> exact number.choose_spec.2.2
  | call _ argument =>
      obtain ⟨scaled, _, _⟩ := argument
      exact ⟨coefficient, rfl, beq_self_of_scaleText scaled, .none⟩

/-! ## Characters of terms -/

/-- The characters of a numeral. -/
def InNumeral (c : Char) : Prop :=
  c.isDigit = true ∨ c ∈ ['.', '+', '-']

theorem not_isAlpha_of_inNumeral {c : Char} (known : InNumeral c) : ¬c.isAlpha = true := by
  intro letter
  rw [Text.isAlpha_iff] at letter
  rcases known with digit | sign
  · rw [Text.isDigit_iff] at digit
    omega
  · revert letter
    simp only [List.mem_cons, List.not_mem_nil, or_false] at sign
    rcases sign with rfl | rfl | rfl <;> decide

theorem inNumeral_of_signText {sign : List Char} {negative : Bool}
    (signed : SignText sign negative) : ∀ c ∈ sign, InNumeral c := by
  cases signed <;> simp [InNumeral]

theorem inNumeral_of_numeralText {numeral : List Char} {value : Decimal}
    (written : NumeralText Char.isDigit numeral value) : ∀ c ∈ numeral, InNumeral c := by
  cases written with
  | whole signed _ digits =>
      exact List.forall_mem_append.mpr
        ⟨inNumeral_of_signText signed, fun c member => .inl (digits c member)⟩
  | point signed whole _ fraction =>
      refine List.forall_mem_append.mpr ⟨inNumeral_of_signText signed, ?_⟩
      refine List.forall_mem_append.mpr ⟨fun c member => .inl (whole c member), ?_⟩
      exact List.forall_mem_cons.mpr ⟨.inr (by decide), fun c member => .inl (fraction c member)⟩

theorem inNumeral_of_coefficientText {coefficient : List Char} {value : Float}
    (written : CoefficientText coefficient value) : ∀ c ∈ coefficient, InNumeral c := by
  cases written with
  | numeral written => exact inNumeral_of_numeralText written
  | minus | plus | missing => simp [InNumeral]

/-- A numeral ends with a digit. -/
theorem NumeralText.isDigit_of_concat {text : List Char} {c : Char} {value : Decimal}
    (written : NumeralText Char.isDigit (text ++ [c]) value) : c.isDigit = true := by
  have ended : c ∈ (text ++ [c]).getLast? := List.getLast?_concat
  generalize text ++ [c] = numeral at written ended
  cases written with
  | whole signed some digits =>
      rw [List.getLast?_append_of_ne_nil _ some] at ended
      exact digits c (List.mem_of_getLast? ended)
  | point signed whole some fraction =>
      rw [List.getLast?_append_of_ne_nil _ (by simp), List.getLast?_append_of_ne_nil _ (by simp),
        List.getLast?_cons_of_ne_nil some] at ended
      exact fraction c (List.mem_of_getLast? ended)

/-- Without brackets, powers and products a term is a numeral, or a coefficient and a variable. -/
theorem plain_termText {text : List Char} {term : Term Float} (written : TermText text term)
    (plain : ∀ c ∈ text, c ≠ '(' ∧ c ≠ '^' ∧ c ≠ '*') :
    (∃ value, NumeralText Char.isDigit text value) ∨
      ∃ coefficient letter value, CoefficientText coefficient value ∧ letter ∈ ['x', 'y'] ∧
        text = coefficient ++ [letter] := by
  obtain ⟨leading, starred, bodied, filled⟩ := written
  cases starred with
  | star => exact absurd rfl (plain '*' (by simp)).2.2
  | missing =>
      cases bodied with
      | nothing =>
          simpa using Or.inl (filled rfl rfl)
      | @linear base known =>
          simp only [variableTexts, List.mem_cons, List.not_mem_nil, or_false] at known
          rcases known with rfl | rfl | rfl | rfl
          · exact .inr ⟨_, 'x', _, leading.written, by simp, rfl⟩
          · exact .inr ⟨_, 'y', _, leading.written, by simp, rfl⟩
          · exact absurd rfl (plain '(' (by simp)).1
          · exact absurd rfl (plain '(' (by simp)).1
      | power => exact absurd rfl (plain '^' (by simp)).2.1
      | call => exact absurd rfl (plain '(' (by simp)).1

/-- The characters of such a term. -/
theorem inNumeral_of_plain_termText {text : List Char} {term : Term Float}
    (written : TermText text term) (plain : ∀ c ∈ text, c ≠ '(' ∧ c ≠ '^' ∧ c ≠ '*') :
    ∀ c ∈ text, InNumeral c ∨ c ∈ ['x', 'y'] := by
  rcases plain_termText written plain with
    ⟨value, numeral⟩ | ⟨coefficient, letter, value, leading, known, rfl⟩
  · exact fun c member => .inl (inNumeral_of_numeralText numeral c member)
  · intro c member
    rcases List.mem_append.mp member with inside | last
    · exact .inl (inNumeral_of_coefficientText leading c inside)
    · exact .inr (List.mem_singleton.mp last ▸ known)

end Term

namespace Equation

open Term (InNumeral NumeralText SignText TermText)

/-! ## Numerals are equations -/

section Signed

variable {unsigned : List Char}

theorem passes_unsigned (known : ∀ c ∈ unsigned, c.isDigit = true ∨ c = '.') :
    Passes 0 0 unsigned := by
  have plain : IsPlain unsigned := fun c member => (plain_of_unsigned (known c member)).1
  refine ⟨plain, fun previous => uncut_of_signless plain ?_ 0 previous, ?_⟩
  · exact fun member => (plain_of_unsigned (known _ member)).2.1 rfl
  · exact depthBehind_of_bracketless
      (fun member => (plain_of_unsigned (known _ member)).2.2.1 rfl)
      (fun member => (plain_of_unsigned (known _ member)).2.2.2 rfl) 0

theorem separate_of_standsAlone {piece : List Char} (alone : StandsAlone piece) :
    separate piece = [piece] := by
  simpa using separate_joined (List.cons_ne_nil piece []) (List.forall_mem_singleton.mpr alone)

/-- A sign and digits are one piece; a plus in front is left out. -/
theorem separate_signed {sign : List Char} {negative : Bool} (signed : SignText sign negative)
    (some : unsigned ≠ []) (known : ∀ c ∈ unsigned, c.isDigit = true ∨ c = '.') :
    ∃ bare, SignText bare negative ∧ separate (sign ++ unsigned) = [bare ++ unsigned] := by
  have passes := passes_unsigned known
  cases signed with
  | missing =>
      refine ⟨[], .missing, separate_of_standsAlone ?_⟩
      exact ⟨some, passes.plain, fun _ => passes.uncut _, passes.depth⟩
  | minus =>
      have plain : IsPlain ['-'] := by simp [IsPlain, Text.isBlank]
      refine ⟨['-'], .minus, separate_of_standsAlone ⟨by simp, plain.append passes.plain, ?_, ?_⟩⟩
      · exact fun begins => (uncut_minus (.inl begins)).append (passes.uncut _)
      · exact passes.depth
  | plus =>
      have compact : Text.compact ('+' :: unsigned) = '+' :: unsigned := by
        refine List.filter_eq_self.mpr (List.forall_mem_cons.mpr ⟨by decide, fun c member => ?_⟩)
        simp [(passes.plain c member).1]
      have outside : Brackets.depthAfter 0 '+' = 0 := rfl
      have whole : cut 0 (.some '+') unsigned = (unsigned, []) := passes.uncut _
      refine ⟨[], .missing, ?_⟩
      rw [List.singleton_append, separate, compact, cut_cons, outside, whole]
      rfl

end Signed

/-- Without a plus in front a numeral is the only piece of its equation. -/
theorem exists_separate_numeral {text : List Char} {value : Decimal}
    (written : NumeralText Char.isDigit text value) :
    ∃ piece, separate text = [piece] ∧ NumeralText Char.isDigit piece value := by
  cases written with
  | whole signed some digits =>
      obtain ⟨bare, resigned, pieces⟩ :=
        separate_signed signed some fun c member => .inl (digits c member)
      exact ⟨_, pieces, .whole resigned some digits⟩
  | @point sign whole fraction negative signed digits some decimals =>
      have known : ∀ c ∈ whole ++ '.' :: fraction, c.isDigit = true ∨ c = '.' :=
        List.forall_mem_append.mpr ⟨fun c member => .inl (digits c member),
          List.forall_mem_cons.mpr ⟨.inr rfl, fun c member => .inl (decimals c member)⟩⟩
      obtain ⟨bare, resigned, pieces⟩ := separate_signed signed (by simp) known
      exact ⟨_, pieces, .point resigned digits some decimals⟩

/-- A numeral reads as a constant. -/
theorem outcome_read_of_numeralText {text : List Char} {value : Decimal}
    (written : NumeralText Char.isDigit text value) :
    (read (String.ofList text) : Attempt (Event Float) EquationError (Equation Float)).outcome =
      .ok [.constant (Binary64.ofDecimal value)] := by
  obtain ⟨piece, pieces, numeral⟩ := exists_separate_numeral written
  have term : TermText piece (.constant (Binary64.ofDecimal value)) := by
    simpa using Term.termText_of_numeralText numeral .missing .nothing
  rw [read, String.toList_ofList, pieces, Attempt.outcome_mapM_eq_ok_iff]
  exact .cons (Term.outcome_read_of_termText term) .nil

/-! ## Numbers that are equations are numerals -/

/-- A character that is no blank, bracket, power or product. -/
def IsOrdinary (c : Char) : Prop :=
  Text.isBlank c = false ∧ c ≠ '(' ∧ c ≠ '^' ∧ c ≠ '*'

theorem isOrdinary_of_isAlpha {c : Char} (letter : c.isAlpha = true) : IsOrdinary c := by
  rw [Text.isAlpha_iff] at letter
  refine ⟨?_, ?_, ?_, ?_⟩
  · simp [Text.isBlank]
    omega
  all_goals
    rintro rfl
    revert letter
    decide

theorem isOrdinary_of_inNumber {c : Char} (known : Term.InNumber c) : IsOrdinary c := by
  obtain ⟨noOpen, _, noPower, noStar⟩ := Term.ne_of_inNumber known
  refine ⟨?_, noOpen, noPower, noStar⟩
  rcases known with digit | rfl | rfl | rfl | rfl | rfl
  · exact (plain_of_unsigned (.inl digit)).1.1
  all_goals decide

/-- The names of numbers are letters, and have an N among them. -/
theorem letters_of_named {name : List Char}
    (named : String.ofList (name.map Char.toLower) ∈ ["inf", "infinity", "nan"]) :
    (∀ c ∈ name, c.isAlpha = true) ∧ ∃ c ∈ name, c.toLower = 'n' := by
  have words : ∀ word ∈ ["inf", "infinity", "nan"],
      (∀ c ∈ word.toList, c.isAlpha = true) ∧ 'n' ∈ word.toList := by
    simp [Char.isAlpha]
  obtain ⟨letters, member⟩ := words _ named
  rw [String.toList_ofList] at letters member
  exact ⟨fun c inside => isAlpha_of_toLower (letters _ (List.mem_map_of_mem inside)),
    List.mem_map.mp member⟩

theorem isOrdinary_of_named {sign name : List Char} {negative : Bool}
    (signed : SignText sign negative)
    (named : String.ofList (name.map Char.toLower) ∈ ["inf", "infinity", "nan"]) :
    ∀ c ∈ sign ++ name, IsOrdinary c := by
  refine List.forall_mem_append.mpr ⟨?_, fun c member => ?_⟩
  · cases signed <;> simp [IsOrdinary, Text.isBlank]
  · exact isOrdinary_of_isAlpha ((letters_of_named named).1 c member)

theorem isOrdinary_of_numberText {text : List Char} {numeral : Numeral}
    (written : NumberText text numeral) : ∀ c ∈ text, IsOrdinary c := by
  have read := Numeral.read_eq_some_iff.mpr written
  cases written with
  | finite => exact fun c member => isOrdinary_of_inNumber (Term.inNumber_of_read read c member)
  | infinite signed named => exact isOrdinary_of_named signed (List.mem_append_left ["nan"] named)
  | undefined signed named => exact isOrdinary_of_named signed (by simp [named])

section Accepted

variable {text : List Char} (accepted : IsAccepted (String.ofList text))
  (ordinary : ∀ c ∈ text, IsOrdinary c)

include accepted ordinary

/-- In an equation of ordinary characters each of them stands in a term of such characters, but for
the signs. -/
theorem exists_piece_of_ordinary {front back : List Char} {c : Char} (unsigned : c ∉ ['+', '-'])
    (split : text = front ++ c :: back) :
    ∃ before after term, before <:+ front ∧ after <+: back ∧
      TermText (before ++ c :: after) term ∧
        ∀ d ∈ before ++ c :: after, d ≠ '(' ∧ d ≠ '^' ∧ d ≠ '*' := by
  have compact : Text.compact text = text :=
    List.filter_eq_self.mpr fun c member => by simp [(ordinary c member).1]
  have apart : c ≠ '+' ∧ c ≠ '-' := by simpa using unsigned
  obtain ⟨before, after, ⟨ends, begins, -, -⟩, member⟩ :=
    exists_mem_separate apart.1 apart.2 (compact.trans split)
  rw [← String.toList_ofList (l := text)] at member
  obtain ⟨term, read⟩ := (isAccepted_iff _).mp accepted _ member
  refine ⟨before, after, term, ends, begins, Term.termText_of_outcome_read read, fun d inside => ?_⟩
  refine (ordinary d ?_).2
  subst split
  rcases List.mem_append.mp inside with left | right
  · exact List.mem_append_left _ (ends.subset left)
  · exact List.mem_append_right _ (List.cons_subset_cons c begins.subset right)

/-- An equation of ordinary characters has no letters but the variables. -/
theorem letters_of_ordinary {c : Char} (member : c ∈ text) (letter : c.isAlpha = true) :
    c ∈ ['x', 'y'] := by
  have unsigned : c ∉ ['+', '-'] := fun sign =>
    Term.not_isAlpha_of_inNumeral (.inr (List.mem_cons_of_mem '.' sign)) letter
  obtain ⟨front, back, split⟩ := List.append_of_mem member
  obtain ⟨before, after, term, -, -, written, plain⟩ :=
    exists_piece_of_ordinary accepted ordinary unsigned split
  refine (Term.inNumeral_of_plain_termText written plain c (by simp)).resolve_left fun known => ?_
  exact absurd letter (Term.not_isAlpha_of_inNumeral known)

/-- Such an equation does not end with a point. -/
theorem ne_point_of_ordinary (front : List Char) : text ≠ front ++ ['.'] := by
  intro split
  obtain ⟨before, after, term, -, begins, written, plain⟩ :=
    exists_piece_of_ordinary accepted ordinary (by decide) split
  obtain rfl := List.prefix_nil.mp begins
  rcases Term.plain_termText written plain with
    ⟨value, numeral⟩ | ⟨coefficient, letter, value, -, known, same⟩
  · exact absurd numeral.isDigit_of_concat (by decide)
  · obtain ⟨_, rfl⟩ := List.append_inj' same rfl |>.imp id List.singleton_inj.mp
    exact absurd known (by decide)

end Accepted

/-- A number that is an equation has no exponent and no name, and digits behind its point. -/
theorem numeralText_of_numberText {text : List Char} {numeral : Numeral}
    (accepted : IsAccepted (String.ofList text)) (written : NumberText text numeral) :
    ∃ value, numeral = .finite value ∧ NumeralText Char.isDigit text value := by
  have ordinary := isOrdinary_of_numberText written
  have unnamed {sign name : List Char} (same : text = sign ++ name) :
      String.ofList (name.map Char.toLower) ∉ ["inf", "infinity", "nan"] := by
    intro named
    obtain ⟨letters, c, member, lower⟩ := letters_of_named named
    have inside : c ∈ text := same ▸ List.mem_append_right sign member
    have known := letters_of_ordinary accepted ordinary inside (letters c member)
    simp only [List.mem_cons, List.not_mem_nil, or_false] at known
    rcases known with rfl | rfl <;> exact absurd lower (by decide)
  cases written with
  | @finite sign unsigned negative value signed written =>
      refine ⟨value, rfl, ?_⟩
      obtain @⟨mantissaText, _, _, _, _, mantissa, scaled⟩ := written
      cases scaled with
      | @written marker scale _ marked =>
          have inside : marker ∈ sign ++ (mantissaText ++ marker :: scale) := by simp
          have known := letters_of_ordinary accepted ordinary inside
          rcases marked with rfl | rfl <;> exact absurd (known (by decide)) (by decide)
      | missing =>
          rw [List.append_nil] at accepted ordinary ⊢
          cases mantissa with
          | whole digits => simpa using NumeralText.whole signed digits.1 digits.2
          | @point whole fraction digits =>
              obtain ⟨inside, decimals⟩ := List.forall_mem_append.mp digits.2
              have some : fraction ≠ [] := by
                rintro rfl
                exact ne_point_of_ordinary accepted ordinary (sign ++ whole) (by simp)
              simpa using NumeralText.point signed inside some decimals
  | infinite signed named => exact absurd (List.mem_append_left ["nan"] named) (unnamed rfl)
  | undefined signed named => exact absurd (by simp [named]) (unnamed rfl)

end Equation
end PlaneRegion
