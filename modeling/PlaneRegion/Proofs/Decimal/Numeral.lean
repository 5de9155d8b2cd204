import PlaneRegion.Proofs.Term.Numeral
import PlaneRegion.Proofs.Text.Words

/-!
# Texts of numbers

Whole numbers are written as a sign, which may be missing, and digits. Numbers may also have a point
among or beside their digits and an exponent behind them, or are named. The readers accept these
texts and no others.
-/

namespace PlaneRegion

open Term (SignText)

/-- At least one digit, and nothing else. -/
def IsDigits (text : List Char) : Prop :=
  text ≠ [] ∧ ∀ c ∈ text, c.isDigit = true

/-- A sign, which may be missing, and digits. -/
inductive IntegerText : List Char → Int → Prop where
  | positive {sign digits : List Char} (signed : SignText sign false) (whole : IsDigits digits) :
      IntegerText (sign ++ digits) (Nat.ofDigitChars 10 digits 0)
  | negative {sign digits : List Char} (signed : SignText sign true) (whole : IsDigits digits) :
      IntegerText (sign ++ digits) (-Nat.ofDigitChars 10 digits 0)

/-- The exponent of a number; a missing one is zero. -/
inductive ExponentText : List Char → Int → Prop where
  | missing : ExponentText [] 0
  | written {marker : Char} {text : List Char} {exponent : Int}
      (marked : marker = 'e' ∨ marker = 'E') (whole : IntegerText text exponent) :
      ExponentText (marker :: text) exponent

/-- Digits, with a point anywhere among them or none, and how many stand behind the point. -/
inductive MantissaText : List Char → List Char → Nat → Prop where
  | whole {digits : List Char} (whole : IsDigits digits) : MantissaText digits digits 0
  | point {whole fraction : List Char} (digits : IsDigits (whole ++ fraction)) :
      MantissaText (whole ++ '.' :: fraction) (whole ++ fraction) fraction.length

/-- A number in decimal notation without its sign. -/
inductive UnsignedText (negative : Bool) : List Char → Decimal → Prop where
  | scaled {mantissa digits scale : List Char} {places : Nat} {exponent : Int}
      (written : MantissaText mantissa digits places) (scaled : ExponentText scale exponent) :
      UnsignedText negative (mantissa ++ scale)
        ⟨negative, Nat.ofDigitChars 10 digits 0, exponent - places⟩

/-- A number in decimal notation, an infinity or the undefined number; letters of names may be small
or capital. -/
inductive NumberText : List Char → Numeral → Prop where
  | finite {sign text : List Char} {negative : Bool} {value : Decimal}
      (signed : SignText sign negative) (written : UnsignedText negative text value) :
      NumberText (sign ++ text) (.finite value)
  | infinite {sign name : List Char} {negative : Bool} (signed : SignText sign negative)
      (named : String.ofList (name.map Char.toLower) ∈ ["inf", "infinity"]) :
      NumberText (sign ++ name) (.infinite negative)
  | undefined {sign name : List Char} {negative : Bool} (signed : SignText sign negative)
      (named : String.ofList (name.map Char.toLower) = "nan") :
      NumberText (sign ++ name) .undefined

/-! ## Signs -/

theorem exists_signText (text : List Char) :
    ∃ sign, SignText sign (Decimal.splitSign text).1 ∧
      text = sign ++ (Decimal.splitSign text).2 := by
  unfold Decimal.splitSign
  split
  · exact ⟨['-'], .minus, rfl⟩
  · exact ⟨['+'], .plus, rfl⟩
  · exact ⟨[], .missing, rfl⟩

private theorem bare_of_isDigit {c : Char} (digit : c.isDigit = true) : c ≠ '+' ∧ c ≠ '-' := by
  constructor <;>
  · rintro rfl
    revert digit
    decide

theorem IsDigits.bare {digits : List Char} (whole : IsDigits digits) :
    ∀ c ∈ digits.head?, c ≠ '+' ∧ c ≠ '-' :=
  fun c head => bare_of_isDigit (whole.2 c (List.mem_of_mem_head? head))

/-! ## Whole numbers -/

theorem readInteger_eq_some_iff {text : List Char} {n : Int} :
    readInteger text = some n ↔ IntegerText text n := by
  constructor
  · intro read
    obtain ⟨sign, signed, split⟩ := exists_signText text
    rw [readInteger] at read
    generalize Decimal.splitSign text = parts at read signed split
    obtain ⟨negative, digits⟩ := parts
    subst split
    simp only [Option.ite_none_right_eq_some, Bool.and_eq_true, Bool.not_eq_true',
      List.isEmpty_eq_false_iff, List.all_eq_true, Option.some.injEq] at read
    obtain ⟨whole, rfl⟩ := read
    cases negative with
    | true => exact .negative signed whole
    | false => exact .positive signed whole
  · intro written
    cases written with
    | positive signed whole =>
        rw [readInteger, (Term.splitSign_append signed whole.bare).2]
        simpa [IsDigits] using whole
    | negative signed whole =>
        rw [readInteger, (Term.splitSign_append signed whole.bare).2]
        simpa [IsDigits] using whole

/-- A whole number is printed as a minus sign, if it is negative, and digits. -/
theorem exists_digits_toString (n : Int) :
    ∃ sign digits, (toString n).toList = sign ++ digits ∧ SignText sign (decide (n < 0)) ∧
      IsDigits digits ∧ Nat.ofDigitChars 10 digits 0 = n.natAbs := by
  have digits (k : Nat) : IsDigits (Nat.toDigits 10 k) :=
    ⟨Nat.toDigits_ne_nil,
      fun c member => Nat.isDigit_of_mem_toDigits (by decide) (by decide) member⟩
  cases n with
  | ofNat k =>
      refine ⟨[], Nat.toDigits 10 k, Nat.toList_repr, ?_, digits k, Nat.ofDigitChars_ten_toDigits⟩
      rw [decide_eq_false (by simp)]
      exact .missing
  | negSucc k =>
      refine ⟨['-'], Nat.toDigits 10 (k + 1), ?_, ?_, digits (k + 1), Nat.ofDigitChars_ten_toDigits⟩
      · change ("-" ++ Nat.repr (k + 1)).toList = _
        rw [String.toList_append, Nat.toList_repr]
        rfl
      · rw [decide_eq_true (Int.negSucc_lt_zero k)]
        exact .minus

theorem integerText_toString (n : Int) : IntegerText (toString n).toList n := by
  obtain ⟨sign, digits, layout, signed, whole, value⟩ := exists_digits_toString n
  rw [layout]
  by_cases negative : n < 0
  · rw [decide_eq_true negative] at signed
    have written := IntegerText.negative signed whole
    rwa [value, Int.ofNat_natAbs_of_nonpos (Int.le_of_lt negative), Int.neg_neg] at written
  · rw [decide_eq_false negative] at signed
    have written := IntegerText.positive signed whole
    rwa [value, Int.natAbs_of_nonneg (Int.not_lt.mp negative)] at written

/-! ## Numbers -/

namespace Decimal

theorem readExponent_cons (marker : Char) (text : List Char) :
    readExponent (marker :: text) =
      if marker == 'e' || marker == 'E' then readInteger text else none := by
  rw [readExponent, readInteger]
  split_ifs <;> simp_all

theorem readExponent_eq_some_iff {text : List Char} {exponent : Int} :
    readExponent text = some exponent ↔ ExponentText text exponent := by
  cases text with
  | nil =>
      constructor
      · rintro ⟨⟩
        exact .missing
      · rintro ⟨⟩
        rfl
  | cons marker text =>
      rw [readExponent_cons, Option.ite_none_right_eq_some, readInteger_eq_some_iff]
      simp only [Bool.or_eq_true, beq_iff_eq]
      constructor
      · rintro ⟨marked, whole⟩
        exact .written marked whole
      · rintro ⟨⟩
        rename_i marked whole
        exact ⟨marked, whole⟩

private theorem stops_of_exponentText {scale : List Char} {exponent : Int}
    (scaled : ExponentText scale exponent) :
    scale.takeWhile Char.isDigit = [] ∧ splitFraction scale = ([], scale) := by
  cases scaled with
  | missing => exact ⟨rfl, rfl⟩
  | written marked => rcases marked with rfl | rfl <;> exact ⟨rfl, rfl⟩

theorem readUnsigned_eq_some_iff {negative : Bool} {text : List Char} {value : Decimal} :
    readUnsigned negative text = some value ↔ UnsignedText negative text value := by
  constructor
  · intro read
    have cut := List.takeWhile_append_dropWhile (p := Char.isDigit) (l := text)
    have digits : ∀ c ∈ text.takeWhile Char.isDigit, c.isDigit = true :=
      fun c member => List.mem_takeWhile_imp member
    simp only [readUnsigned, List.span_eq_takeWhile_dropWhile] at read
    generalize text.takeWhile Char.isDigit = whole at read cut digits
    generalize text.dropWhile Char.isDigit = after at read cut
    subst cut
    unfold splitFraction at read
    split at read
    · rename_i tail
      have decimals : ∀ c ∈ tail.takeWhile Char.isDigit, c.isDigit = true :=
        fun c member => List.mem_takeWhile_imp member
      have split := List.takeWhile_append_dropWhile (p := Char.isDigit) (l := tail)
      simp only [List.span_eq_takeWhile_dropWhile, Option.ite_none_left_eq_some,
        Option.map_eq_some_iff, readExponent_eq_some_iff] at read
      obtain ⟨some_digit, exponent, scaled, rfl⟩ := read
      have filled : whole ++ tail.takeWhile Char.isDigit ≠ [] := by
        simpa [-List.takeWhile_eq_nil_iff] using some_digit
      have mantissa := MantissaText.point ⟨filled, List.forall_mem_append.mpr ⟨digits, decimals⟩⟩
      have written : UnsignedText negative _ _ := .scaled mantissa scaled
      rwa [List.append_assoc, List.cons_append, split] at written
    · simp only [Option.ite_none_left_eq_some, Option.map_eq_some_iff,
        readExponent_eq_some_iff] at read
      obtain ⟨some_digit, exponent, scaled, rfl⟩ := read
      have mantissa : MantissaText whole whole 0 := .whole ⟨by simpa using some_digit, digits⟩
      have written : UnsignedText negative _ _ := .scaled mantissa scaled
      simpa using written
  · rintro ⟨mantissa, scaled⟩
    rename_i scale _ exponent
    obtain ⟨ended, pointless⟩ := stops_of_exponentText scaled
    have read := readExponent_eq_some_iff.mpr scaled
    cases mantissa with
    | whole whole =>
        obtain ⟨taken, left⟩ := Text.span_append whole.2 ended
        simp [readUnsigned, List.span_eq_takeWhile_dropWhile, taken, left, pointless, whole.1, read]
    | @point whole fraction digits =>
        obtain ⟨inside, decimals⟩ := List.forall_mem_append.mp digits.2
        have outside : ('.' :: (fraction ++ scale)).takeWhile Char.isDigit = [] := rfl
        obtain ⟨taken, left⟩ := Text.span_append inside outside
        obtain ⟨takenFraction, leftFraction⟩ := Text.span_append decimals ended
        have filled : whole = [] → fraction ≠ [] := by simpa using digits.1
        simpa [readUnsigned, splitFraction, List.span_eq_takeWhile_dropWhile, taken, left,
          takenFraction, leftFraction, read] using filled

end Decimal

private theorem UnsignedText.bare {negative : Bool} {text : List Char} {value : Decimal}
    (written : UnsignedText negative text value) : ∀ c ∈ text.head?, c ≠ '+' ∧ c ≠ '-' := by
  have digit_or_point : ∀ whole rest : List Char, (∀ c ∈ whole, c.isDigit = true) →
      ∀ c ∈ (whole ++ '.' :: rest).head?, c ≠ '+' ∧ c ≠ '-' := by
    intro whole rest digits c head
    cases whole with
    | nil =>
        cases head
        decide
    | cons =>
        cases head
        exact bare_of_isDigit (digits c List.mem_cons_self)
  obtain ⟨mantissa, scaled⟩ := written
  cases mantissa with
  | @whole digits whole =>
      obtain ⟨digit, rest, rfl⟩ := List.exists_cons_of_ne_nil whole.1
      rintro _ ⟨⟩
      exact bare_of_isDigit (whole.2 digit List.mem_cons_self)
  | point digits =>
      rw [List.append_assoc]
      exact digit_or_point _ _ (List.forall_mem_append.mp digits.2).1

theorem isAlpha_of_toLower {c : Char} (letter : c.toLower.isAlpha = true) :
    c.isAlpha = true := by
  unfold Char.toLower at letter
  split at letter
  · rename_i upper
    exact Text.isAlpha_iff.mpr (Or.inl upper)
  · exact letter

private abbrev names : List String := ["inf", "infinity", "nan"]

private theorem name_head {name : List Char}
    (named : String.ofList (name.map Char.toLower) ∈ names) :
    ∃ first rest, name = first :: rest ∧ first.isDigit = false ∧ first ≠ '.' ∧ first ≠ '+' ∧
      first ≠ '-' := by
  simp only [names, List.mem_cons, List.not_mem_nil, or_false, ← String.toList_inj,
    String.toList_ofList] at named
  cases name with
  | nil => rcases named with same | same | same <;> cases same
  | cons first rest =>
      have letter : first.isAlpha = true := by
        apply isAlpha_of_toLower
        rcases named with same | same | same <;>
        · rw [(List.cons.inj same).1]
          decide
      refine ⟨first, rest, rfl, ?_, ?_, ?_, ?_⟩
      · rw [Bool.eq_false_iff, ne_eq, Text.isDigit_iff]
        rw [Text.isAlpha_iff] at letter
        omega
      all_goals
        rintro rfl
        revert letter
        decide

private theorem readUnsigned_name {negative : Bool} {name : List Char}
    (named : String.ofList (name.map Char.toLower) ∈ names) :
    Decimal.readUnsigned negative name = none := by
  obtain ⟨first, rest, rfl, digit, point, _⟩ := name_head named
  simp [Decimal.readUnsigned, Decimal.splitFraction, List.span_eq_takeWhile_dropWhile, digit, point]

private theorem bare_of_named {name : List Char}
    (named : String.ofList (name.map Char.toLower) ∈ names) :
    ∀ c ∈ name.head?, c ≠ '+' ∧ c ≠ '-' := by
  obtain ⟨first, rest, rfl, _, _, signless⟩ := name_head named
  rintro _ ⟨⟩
  exact signless

namespace Numeral

theorem read_eq_some_iff {text : List Char} {numeral : Numeral} :
    read text = some numeral ↔ NumberText text numeral := by
  constructor
  · intro found
    obtain ⟨sign, signed, split⟩ := exists_signText text
    rw [read] at found
    generalize Decimal.splitSign text = parts at found signed split
    obtain ⟨negative, rest⟩ := parts
    subst split
    simp only at found
    split at found
    · rename_i value unsigned
      cases found
      exact .finite signed (Decimal.readUnsigned_eq_some_iff.mp unsigned)
    · split_ifs at found with infinite undefined
      · cases found
        exact .infinite signed (by simpa using infinite)
      · cases found
        exact .undefined signed (by simpa using undefined)
  · intro written
    cases written with
    | finite signed written =>
        rw [read, (Term.splitSign_append signed written.bare).2]
        simp only [Decimal.readUnsigned_eq_some_iff.mpr written]
    | @infinite sign name negative signed named =>
        have known : String.ofList (name.map Char.toLower) ∈ names :=
          List.mem_append_left ["nan"] named
        rw [read, (Term.splitSign_append signed (bare_of_named known)).2]
        simp only [readUnsigned_name known]
        rw [if_pos (by simpa using named)]
    | @undefined sign name negative signed named =>
        have known : String.ofList (name.map Char.toLower) ∈ names := by simp [named]
        rw [read, (Term.splitSign_append signed (bare_of_named known)).2]
        simp only [readUnsigned_name known, named]
        rfl

end Numeral
end PlaneRegion
