import Mathlib.Data.List.TakeDrop
import Mathlib.Data.List.TakeWhile
import PlaneRegion.Equation.Reader

/-!
# Leading numerals

The reader of terms cuts off the longest numeral in digits of any script, and a numeral has a value
only if all of its digits are ASCII ones. Both agree with the numerals as they are written: a sign,
then digits, or digits behind a point with any number of digits before it.
-/

namespace PlaneRegion
namespace Term

/-- A written sign, `true` for a minus; a missing sign is a plus. -/
inductive SignText : List Char → Bool → Prop where
  | missing : SignText [] false
  | plus : SignText ['+'] false
  | minus : SignText ['-'] true

/-- A numeral in the given digits, and the number that it denotes in decimal notation. -/
inductive NumeralText (isDigit : Char → Bool) : List Char → Decimal → Prop where
  /-- Digits alone. -/
  | whole {sign digits : List Char} {negative : Bool} :
      SignText sign negative → digits ≠ [] → (∀ c ∈ digits, isDigit c) →
      NumeralText isDigit (sign ++ digits) ⟨negative, Nat.ofDigitChars 10 digits 0, 0⟩
  /-- Digits behind a point, possibly with digits before it. -/
  | point {sign whole fraction : List Char} {negative : Bool} :
      SignText sign negative → (∀ c ∈ whole, isDigit c) → fraction ≠ [] →
      (∀ c ∈ fraction, isDigit c) →
      NumeralText isDigit (sign ++ (whole ++ '.' :: fraction))
        ⟨negative, Nat.ofDigitChars 10 (whole ++ fraction) 0, -fraction.length⟩

/-- The characters that can continue a numeral. -/
def continues (c : Char) : Bool :=
  Text.isDecimalDigit c || c == '.'

theorem isDecimalDigit_of_isDigit {c : Char} (digit : c.isDigit = true) :
    Text.isDecimalDigit c = true := by
  simp [Text.isDecimalDigit, digit]

private theorem ne_of_isDecimalDigit {c : Char} (digit : Text.isDecimalDigit c = true) :
    c ≠ '+' ∧ c ≠ '-' ∧ c ≠ '.' ∧ c ≠ 'e' ∧ c ≠ 'E' := by
  refine ⟨?_, ?_, ?_, ?_, ?_⟩ <;>
  · rintro rfl
    revert digit
    decide

/-- A numeral in ASCII digits is one in the digits of all scripts. -/
theorem NumeralText.widen {numeral : List Char} {value : Decimal}
    (written : NumeralText Char.isDigit numeral value) :
    NumeralText Text.isDecimalDigit numeral value := by
  cases written with
  | whole sign some digits =>
      exact .whole sign some fun c member => isDecimalDigit_of_isDigit (digits c member)
  | point sign whole some fraction =>
      exact .point sign (fun c member => isDecimalDigit_of_isDigit (whole c member)) some
        fun c member => isDecimalDigit_of_isDigit (fraction c member)

/-- A sign is split off from a text that does not begin with one. -/
theorem splitSign_append {sign unsigned : List Char} {negative : Bool}
    (written : SignText sign negative) (bare : ∀ c ∈ unsigned.head?, c ≠ '+' ∧ c ≠ '-') :
    splitSign (sign ++ unsigned) = (sign, unsigned) ∧
      Decimal.splitSign (sign ++ unsigned) = (negative, unsigned) := by
  cases written with
  | plus => exact ⟨rfl, rfl⟩
  | minus => exact ⟨rfl, rfl⟩
  | missing =>
      cases unsigned with
      | nil => exact ⟨rfl, rfl⟩
      | cons c rest =>
          obtain ⟨notPlus, notMinus⟩ := bare c rfl
          constructor
          · simp [splitSign, notPlus, notMinus]
          · simp [Decimal.splitSign, notPlus, notMinus]

private theorem signText_splitSign (text : List Char) :
    (splitSign text).1 ++ (splitSign text).2 = text ∧
      ∃ negative, SignText (splitSign text).1 negative := by
  unfold splitSign
  split
  · exact ⟨rfl, true, .minus⟩
  · exact ⟨rfl, false, .plus⟩
  · exact ⟨rfl, false, .missing⟩

/-- The numeral that is cut off is a numeral in digits of any script. -/
theorem numeralText_of_splitNumeral {text numeral rest : List Char}
    (found : splitNumeral text = some (numeral, rest)) :
    text = numeral ++ rest ∧ ∃ value, NumeralText Text.isDecimalDigit numeral value := by
  obtain ⟨whole_text, negative, signed⟩ := signText_splitSign text
  have digits_of : ∀ text : List Char, ∀ c ∈ text.takeWhile Text.isDecimalDigit,
      Text.isDecimalDigit c = true := fun text c member => List.mem_takeWhile_imp member
  simp only [splitNumeral, List.span_eq_takeWhile_dropWhile] at found
  generalize (splitSign text).1 = sign at found whole_text signed
  generalize (splitSign text).2 = unsigned at found whole_text
  have cut := List.takeWhile_append_dropWhile (p := Text.isDecimalDigit) (l := unsigned)
  have digits := digits_of unsigned
  generalize unsigned.takeWhile Text.isDecimalDigit = whole at found cut digits
  generalize unsigned.dropWhile Text.isDecimalDigit = after at found cut
  subst cut whole_text
  split at found
  · rename_i tail
    split_ifs at found with fraction some
    · cases found
      have pointed := NumeralText.point signed digits (by simpa using fraction) (digits_of tail)
      refine ⟨?_, _, by simpa using pointed⟩
      simp [List.takeWhile_append_dropWhile]
    · cases found
      exact ⟨by simp, _, .whole signed (by simpa using some) digits⟩
  · split_ifs at found with fraction some
    · cases fraction
    · cases found
      exact ⟨by simp, _, .whole signed (by simpa using some) digits⟩

private theorem head_append_of_digits {digits : List Char} (some_digit : digits ≠ [])
    (decimal : ∀ c ∈ digits, Text.isDecimalDigit c) (rest : List Char) :
    ∀ c ∈ (digits ++ rest).head?, c ≠ '+' ∧ c ≠ '-' := by
  cases digits with
  | nil => exact absurd rfl some_digit
  | cons digit digits =>
      rintro _ ⟨⟩
      have other := ne_of_isDecimalDigit (decimal digit List.mem_cons_self)
      exact ⟨other.1, other.2.1⟩

private theorem head_append_of_point {whole : List Char}
    (decimal : ∀ c ∈ whole, Text.isDecimalDigit c) (rest : List Char) :
    ∀ c ∈ (whole ++ '.' :: rest).head?, c ≠ '+' ∧ c ≠ '-' := by
  cases whole with
  | nil =>
      rintro _ ⟨⟩
      decide
  | cons digit whole => exact head_append_of_digits (List.cons_ne_nil _ _) decimal _

/-- A numeral at the beginning of a text is cut off with what continues it. -/
theorem splitNumeral_append {numeral : List Char} {value : Decimal}
    (written : NumeralText Text.isDecimalDigit numeral value) (rest : List Char) :
    ∃ more after, splitNumeral (numeral ++ rest) = some (numeral ++ more, after) ∧
      rest = more ++ after ∧ ((∀ c ∈ rest.head?, continues c = false) → more = []) := by
  have stops : (∀ c ∈ rest.head?, continues c = false) →
      rest.takeWhile Text.isDecimalDigit = [] ∧ rest.head? ≠ some '.' := by
    intro stops
    cases rest with
    | nil => simp
    | cons c rest => simpa [continues] using stops c rfl
  have cut := List.takeWhile_append_dropWhile (p := Text.isDecimalDigit) (l := rest)
  cases written with
  | @whole sign digits negative signed some_digit decimal =>
      have bare := head_append_of_digits some_digit decimal rest
      simp only [splitNumeral, List.append_assoc, (splitSign_append signed bare).1,
        List.span_eq_takeWhile_dropWhile, List.takeWhile_append_of_pos decimal,
        List.dropWhile_append_of_pos decimal]
      generalize rest.takeWhile Text.isDecimalDigit = more at stops cut ⊢
      generalize rest.dropWhile Text.isDecimalDigit = after at cut ⊢
      subst cut
      split
      · rename_i tail
        split_ifs with fraction
        · refine ⟨more ++ '.' :: tail.takeWhile Text.isDecimalDigit, _, rfl, ?_, ?_⟩
          · simp [List.takeWhile_append_dropWhile]
          · intro ends
            obtain ⟨rfl, noPoint⟩ := stops ends
            exact absurd rfl noPoint
        · exact ⟨more, _, rfl, rfl, fun ends => (stops ends).1⟩
        · simp_all
      · simp_all
  | @point sign whole fraction negative signed decimal some_digit decimals =>
      have bare := head_append_of_point decimal (fraction ++ rest)
      have outside : Text.isDecimalDigit '.' = false := by decide
      refine ⟨_, _, ?_, cut.symm, fun ends => (stops ends).1⟩
      simp [splitNumeral, (splitSign_append signed bare).1, List.span_eq_takeWhile_dropWhile,
        List.takeWhile_append_of_pos decimal, List.dropWhile_append_of_pos decimal,
        List.takeWhile_append_of_pos decimals, List.dropWhile_append_of_pos decimals, outside,
        some_digit]

/-- A numeral that nothing continues is cut off as it stands. -/
theorem splitNumeral_of_numeralText {numeral : List Char} {value : Decimal}
    (written : NumeralText Text.isDecimalDigit numeral value) {rest : List Char}
    (ends : ∀ c ∈ rest.head?, continues c = false) :
    splitNumeral (numeral ++ rest) = some (numeral, rest) := by
  obtain ⟨more, after, found, split, none_more⟩ := splitNumeral_append written rest
  obtain rfl := none_more ends
  rw [found, split, List.append_nil, List.nil_append]

/-- A text that begins neither with a numeral nor with a sign has no numeral to cut off, not even
behind a sign. -/
theorem splitNumeral_of_signText {sign rest : List Char} {negative : Bool}
    (signed : SignText sign negative)
    (other : ∀ c ∈ rest.head?, continues c = false ∧ c ≠ '+' ∧ c ≠ '-') :
    splitNumeral (sign ++ rest) = none := by
  have bare : ∀ c ∈ rest.head?, c ≠ '+' ∧ c ≠ '-' := fun c head => (other c head).2
  rw [splitNumeral, (splitSign_append signed bare).1]
  cases rest with
  | nil => rfl
  | cons c rest =>
      have stops : Text.isDecimalDigit c = false ∧ c ≠ '.' := by
        simpa [continues] using (other c rfl).1
      simp [List.span_eq_takeWhile_dropWhile, stops]

/-- No numeral at the beginning of a text is longer than the one that is cut off. -/
theorem length_le_of_splitNumeral {text numeral rest other : List Char} {value : Decimal}
    (found : splitNumeral text = some (numeral, rest))
    (written : NumeralText Text.isDecimalDigit other value) (begins : other <+: text) :
    other.length ≤ numeral.length := by
  obtain ⟨tail, rfl⟩ := begins
  obtain ⟨more, after, longer, _, _⟩ := splitNumeral_append written tail
  obtain ⟨rfl, rfl⟩ : other ++ more = numeral ∧ after = rest := by
    simpa using longer.symm.trans found
  simp

/-- No numeral at the beginning of a text is missed. -/
theorem not_numeralText_of_splitNumeral {text other : List Char} {value : Decimal}
    (missing : splitNumeral text = none) (begins : other <+: text) :
    ¬NumeralText Text.isDecimalDigit other value := by
  intro written
  obtain ⟨tail, rfl⟩ := begins
  obtain ⟨more, after, found, _, _⟩ := splitNumeral_append written tail
  rw [missing] at found
  cases found

/-- The numeral that completes a text without a leading numeral, and the text behind it. -/
def impliedNumeral : List Char → List Char × List Char
  | '-' :: body => (['-', '1'], body)
  | '+' :: body => (['1'], body)
  | body => (['1'], body)

private theorem unsigned_of_splitNumeral {text : List Char} (missing : splitNumeral text = none) :
    (splitSign text).2.takeWhile Text.isDecimalDigit = [] ∧
      ∀ tail, (splitSign text).2 = '.' :: tail → tail.takeWhile Text.isDecimalDigit = [] := by
  simp only [splitNumeral, List.span_eq_takeWhile_dropWhile] at missing
  generalize (splitSign text).2 = unsigned at missing ⊢
  have cut := List.takeWhile_append_dropWhile (p := Text.isDecimalDigit) (l := unsigned)
  generalize unsigned.takeWhile Text.isDecimalDigit = whole at missing cut ⊢
  generalize unsigned.dropWhile Text.isDecimalDigit = rest at missing cut
  subst cut
  split at missing
  · split_ifs at missing with fraction some
    rw [Bool.not_eq_true, Bool.not_eq_false', List.isEmpty_iff] at fraction some
    refine ⟨some, ?_⟩
    rintro tail same
    rw [some, List.nil_append] at same
    cases same
    exact fraction
  · rename_i pointless
    split_ifs at missing with fraction some
    rw [Bool.not_eq_true, Bool.not_eq_false', List.isEmpty_iff] at some
    refine ⟨some, ?_⟩
    rintro tail same
    rw [some, List.nil_append] at same
    exact absurd same (pointless tail)

private theorem splitNumeral_completed {text sign : List Char} {negative : Bool}
    (signed : SignText sign negative) (missing : splitNumeral text = none) :
    splitNumeral (sign ++ '1' :: (splitSign text).2) =
      some (sign ++ ['1'], (splitSign text).2) := by
  obtain ⟨whole, fraction⟩ := unsigned_of_splitNumeral missing
  generalize (splitSign text).2 = body at whole fraction ⊢
  have digit : Text.isDecimalDigit '1' = true := by decide
  have bare : ∀ c ∈ ('1' :: body).head?, c ≠ '+' ∧ c ≠ '-' := by
    rintro _ ⟨⟩
    decide
  have untouched : body.dropWhile Text.isDecimalDigit = body := by
    simpa [whole] using List.takeWhile_append_dropWhile (p := Text.isDecimalDigit) (l := body)
  simp only [splitNumeral, (splitSign_append signed bare).1, List.span_eq_takeWhile_dropWhile,
    List.takeWhile_cons_of_pos digit, List.dropWhile_cons_of_pos digit, whole, untouched]
  split
  · rename_i tail
    simp [fraction tail rfl]
  · simp

/-- The implied numeral is cut off again, and does not fuse with what stands behind it. -/
theorem splitNumeral_withCoefficient (text : List Char) :
    splitNumeral (withCoefficient text) =
      (splitNumeral text).or (some (impliedNumeral text)) := by
  cases cut : splitNumeral text with
  | some found => simp [withCoefficient, cut]
  | none =>
      have minus := splitNumeral_completed .minus cut
      have missing := splitNumeral_completed .missing cut
      simp only [withCoefficient, cut, Option.isSome_none, Bool.false_eq_true, if_false,
        Option.none_or, impliedNumeral]
      unfold splitSign at minus missing
      split
      · exact minus
      · exact missing
      · simpa using missing

/-- The number denoted by a numeral in ASCII digits. -/
theorem read_of_numeralText {numeral : List Char} {value : Decimal}
    (written : NumeralText Char.isDigit numeral value) :
    Numeral.read numeral = some (.finite value) := by
  cases written with
  | @whole sign digits negative signed some_digit decimal =>
      have bare := head_append_of_digits some_digit
        (fun c member => isDecimalDigit_of_isDigit (decimal c member)) []
      rw [List.append_nil] at bare
      have whole : Decimal.readUnsigned negative digits =
          some ⟨negative, Nat.ofDigitChars 10 digits 0, 0⟩ := by
        simp [Decimal.readUnsigned, List.span_eq_takeWhile_dropWhile,
          List.takeWhile_eq_self_iff.mpr decimal, List.dropWhile_eq_nil_iff.mpr decimal,
          Decimal.splitFraction, Decimal.readExponent, some_digit]
      rw [Numeral.read, (splitSign_append signed bare).2]
      simp only [whole]
  | @point sign whole fraction negative signed decimal some_digit decimals =>
      have bare := head_append_of_point
        (fun c member => isDecimalDigit_of_isDigit (decimal c member)) fraction
      have pointed : Decimal.readUnsigned negative (whole ++ '.' :: fraction) =
          some ⟨negative, Nat.ofDigitChars 10 (whole ++ fraction) 0, -fraction.length⟩ := by
        simp [Decimal.readUnsigned, List.span_eq_takeWhile_dropWhile,
          List.takeWhile_append_of_pos decimal, List.dropWhile_append_of_pos decimal,
          List.takeWhile_eq_self_iff.mpr decimals, List.dropWhile_eq_nil_iff.mpr decimals,
          Decimal.splitFraction, Decimal.readExponent, some_digit]
      rw [Numeral.read, (splitSign_append signed bare).2]
      simp only [pointed]

/-- The characters that a finite number is written with. -/
def InNumber (c : Char) : Prop :=
  c.isDigit = true ∨ c = '.' ∨ c = 'e' ∨ c = 'E' ∨ c = '+' ∨ c = '-'

private theorem inNumber_of_splitSign {text : List Char}
    (unsigned : ∀ c ∈ (Decimal.splitSign text).2, InNumber c) : ∀ c ∈ text, InNumber c := by
  unfold Decimal.splitSign at unsigned
  split at unsigned
  · simpa [InNumber] using unsigned
  · simpa [InNumber] using unsigned
  · exact unsigned

private theorem inNumber_of_readExponent {text : List Char} {exponent : Int}
    (found : Decimal.readExponent text = some exponent) : ∀ c ∈ text, InNumber c := by
  cases text with
  | nil => simp
  | cons marker text =>
      simp only [Decimal.readExponent] at found
      split_ifs at found with form
      all_goals
        simp only [Bool.and_eq_true, Bool.or_eq_true, beq_iff_eq, List.all_eq_true] at form
        obtain ⟨⟨marked, _⟩, digits⟩ := form
        have unsigned := inNumber_of_splitSign fun c member => Or.inl (digits c member)
        intro c member
        rcases List.mem_cons.mp member with rfl | member
        · rcases marked with rfl | rfl <;> simp [InNumber]
        · exact unsigned c member

private theorem inNumber_of_splitFraction {text : List Char}
    (rest : ∀ c ∈ (Decimal.splitFraction text).2, InNumber c) : ∀ c ∈ text, InNumber c := by
  unfold Decimal.splitFraction at rest
  split at rest
  · rename_i tail
    rw [List.span_eq_takeWhile_dropWhile] at rest
    rw [← List.takeWhile_append_dropWhile (p := Char.isDigit) (l := tail)]
    intro c member
    rcases List.mem_cons.mp member with rfl | member
    · simp [InNumber]
    · rcases List.mem_append.mp member with digit | member
      · exact Or.inl (List.mem_takeWhile_imp digit)
      · exact rest c member
  · exact rest

private theorem inNumber_of_readUnsigned {negative : Bool} {text : List Char} {value : Decimal}
    (found : Decimal.readUnsigned negative text = some value) : ∀ c ∈ text, InNumber c := by
  simp only [Decimal.readUnsigned, List.span_eq_takeWhile_dropWhile] at found
  split_ifs at found
  obtain ⟨exponent, found, _⟩ := Option.map_eq_some_iff.mp found
  have rest := inNumber_of_splitFraction (inNumber_of_readExponent found)
  rw [← List.takeWhile_append_dropWhile (p := Char.isDigit) (l := text)]
  intro c member
  rcases List.mem_append.mp member with digit | member
  · exact Or.inl (List.mem_takeWhile_imp digit)
  · exact rest c member

/-- A text that denotes a finite number is written with the characters of numbers. -/
theorem inNumber_of_read {text : List Char} {value : Decimal}
    (found : Numeral.read text = some (.finite value)) : ∀ c ∈ text, InNumber c := by
  apply inNumber_of_splitSign
  unfold Numeral.read at found
  dsimp only at found
  split at found
  · rename_i unsigned
    exact inNumber_of_readUnsigned unsigned
  · split_ifs at found <;> cases found

/-- A numeral that has a finite value is written in ASCII digits. -/
theorem NumeralText.narrow {numeral : List Char} {value number : Decimal}
    (written : NumeralText Text.isDecimalDigit numeral value)
    (found : Numeral.read numeral = some (.finite number)) :
    NumeralText Char.isDigit numeral number := by
  have ascii : ∀ c ∈ numeral, Text.isDecimalDigit c = true → c.isDigit = true := by
    intro c member decimal
    have other := ne_of_isDecimalDigit decimal
    have known := inNumber_of_read found c member
    simpa [InNumber, other] using known
  have valued : NumeralText Char.isDigit numeral value := by
    cases written with
    | whole signed some_digit decimal =>
        refine .whole signed some_digit fun c member => ascii c ?_ (decimal c member)
        simp [member]
    | point signed decimal some_digit decimals =>
        refine .point signed (fun c member => ascii c ?_ (decimal c member)) some_digit
          fun c member => ascii c ?_ (decimals c member)
        · simp [member]
        · simp [member]
  obtain rfl : value = number := by
    simpa [read_of_numeralText valued] using found
  exact valued

variable {α : Type} [Scalar α]

/-- A number is cut off a text exactly as the numeral that is cut off, if its digits are ASCII
ones. -/
theorem splitNumber_eq_some_iff {text rest : List Char} {number : α} :
    splitNumber text = some (number, rest) ↔
      ∃ numeral value, splitNumeral text = some (numeral, rest) ∧
        NumeralText Char.isDigit numeral value ∧ number = Scalar.ofDecimal value := by
  constructor
  · intro found
    unfold splitNumber at found
    split at found
    · rename_i numeral after cut
      split at found
      · rename_i value finite
        cases found
        obtain ⟨_, _, written⟩ := numeralText_of_splitNumeral cut
        exact ⟨numeral, value, cut, written.narrow finite, rfl⟩
      · cases found
    · cases found
  · rintro ⟨numeral, value, cut, written, rfl⟩
    simp only [splitNumber, cut, read_of_numeralText written]

end Term
end PlaneRegion
