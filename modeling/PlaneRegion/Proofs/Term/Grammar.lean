import PlaneRegion.Proofs.Brackets
import PlaneRegion.Proofs.Term.Numeral
import PlaneRegion.Scalar.Basic

/-!
# The grammar of written terms

A written term is a coefficient, possibly a multiplication sign, and a body: nothing, the variable,
a power of it or a call. Bodies are balanced, and they begin with a character that continues no
coefficient, so the parts of a term can be told apart.
-/

namespace PlaneRegion
namespace Term

/-- The ways to write the variable. -/
def variableTexts : List (List Char) :=
  [['x'], ['y'], ['(', 'x', ')'], ['(', 'y', ')']]

/-- A coefficient and its value; a missing coefficient is one. -/
inductive CoefficientText : List Char → Float → Prop where
  | numeral {numeral : List Char} {value : Decimal} :
      NumeralText Char.isDigit numeral value →
      CoefficientText numeral (Binary64.ofDecimal value)
  | minus : CoefficientText ['-'] (-1)
  | plus : CoefficientText ['+'] 1
  | missing : CoefficientText [] 1

/-- The longest coefficient that a text begins with. -/
structure LeadingCoefficient (text coefficient : List Char) (value : Float) : Prop where
  written : CoefficientText coefficient value
  begins : coefficient <+: text
  longest : ∀ {other : List Char} {number : Float}, CoefficientText other number →
    other <+: text → other.length ≤ coefficient.length

/-- A multiplication sign, which may be left out. -/
inductive StarText : List Char → Prop where
  | missing : StarText []
  | star : StarText ['*']

/-- The factor of the variable in an argument and its value; zero counts as one. -/
inductive ScaleText : List Char → Float → Prop where
  | numeral {numeral : List Char} {value : Decimal} :
      NumeralText Char.isDigit numeral value → (Binary64.ofDecimal value == 0) = false →
      ScaleText numeral (Binary64.ofDecimal value)
  | zero {numeral : List Char} {value : Decimal} :
      NumeralText Char.isDigit numeral value → (Binary64.ofDecimal value == 0) = true →
      ScaleText numeral 1
  | minus : ScaleText ['-'] (-1)
  | missing : ScaleText [] 1

/-- An argument and the factor of the variable in it. -/
inductive ArgumentText : List Char → Float → Prop where
  | product {scale star base : List Char} {value : Float} :
      ScaleText scale value → StarText star → base ∈ variableTexts →
      ArgumentText (scale ++ (star ++ base)) value

/-- A text that reads as a finite number. -/
def NumberText (text : List Char) (number : Float) : Prop :=
  ∃ numeral, Numeral.read text = some numeral ∧ number = Binary64.ofNumeral numeral ∧
    number.isFinite = true

/-- An exponent: a finite number, bare or in brackets. -/
inductive DegreeText : List Char → Float → Prop where
  | bare {text : List Char} {degree : Float} : NumberText text degree → DegreeText text degree
  | bracketed {text : List Char} {degree : Float} :
      NumberText text degree → DegreeText ('(' :: (text ++ [')'])) degree

/-- The name of an operation that is called. -/
inductive OperationName : List Char → Operation → Prop where
  | root : OperationName "sqrt".toList .root
  | named (function : NamedFunction) : OperationName function.name.toList (.named function)

/-- A body, and the term that it denotes behind a coefficient. -/
inductive BodyText (coefficient : Float) : List Char → Term Float → Prop where
  | nothing : BodyText coefficient [] (.constant coefficient)
  | linear {base : List Char} :
      base ∈ variableTexts → BodyText coefficient base (.linear coefficient)
  | power {base exponent : List Char} {degree : Float} :
      base ∈ variableTexts → DegreeText exponent degree →
      BodyText coefficient (base ++ '^' :: exponent) (.power coefficient degree)
  | call {name argument : List Char} {operation : Operation} {scale : Float} :
      OperationName name operation → ArgumentText argument scale →
      BodyText coefficient (name ++ '(' :: (argument ++ [')']))
        ⟨coefficient, operation, scale, none⟩

/-- A written term, and the term that it denotes. A body is empty only behind a numeral or a
multiplication sign. -/
inductive TermText : List Char → Term Float → Prop where
  | product {coefficient star body : List Char} {value : Float} {term : Term Float} :
      LeadingCoefficient (coefficient ++ (star ++ body)) coefficient value → StarText star →
      BodyText value body term →
      (body = [] → star = [] → ∃ number, NumeralText Char.isDigit coefficient number) →
      TermText (coefficient ++ (star ++ body)) term

/-- A number is written without brackets and without the signs of products and powers. -/
theorem ne_of_inNumber {c : Char} (known : InNumber c) :
    c ≠ '(' ∧ c ≠ ')' ∧ c ≠ '^' ∧ c ≠ '*' := by
  refine ⟨?_, ?_, ?_, ?_⟩ <;>
  · rintro rfl
    revert known
    simp [InNumber, Char.isDigit]

theorem inNumber_of_numeralText {numeral : List Char} {value : Decimal}
    (written : NumeralText Char.isDigit numeral value) : ∀ c ∈ numeral, InNumber c :=
  inNumber_of_read (read_of_numeralText written)

theorem balanced_of_inNumber {text : List Char} (known : ∀ c ∈ text, InNumber c) :
    Brackets.balanced text = true :=
  Brackets.balanced_of_plain (fun opens => (ne_of_inNumber (known _ opens)).1 rfl)
    fun closes => (ne_of_inNumber (known _ closes)).2.1 rfl

theorem balanced_of_mem_variableTexts {base : List Char} (known : base ∈ variableTexts) :
    Brackets.balanced base = true := by
  revert base
  decide

theorem notMem_of_mem_variableTexts {base : List Char} (known : base ∈ variableTexts) :
    '^' ∉ base := by
  revert base
  decide

/-- A text that begins with neither a numeral nor a sign, so no coefficient continues into it. -/
def EndsCoefficient (rest : List Char) : Prop :=
  ∀ c ∈ rest.head?, continues c = false ∧ c ≠ '+' ∧ c ≠ '-'

theorem head_of_mem_variableTexts {base : List Char} (known : base ∈ variableTexts) :
    EndsCoefficient base ∧ ∀ c ∈ base.head?, c ≠ '*' := by
  simp only [variableTexts, List.mem_cons, List.not_mem_nil, or_false] at known
  constructor
  · intro c head
    rcases known with rfl | rfl | rfl | rfl <;> cases head <;> decide
  · intro c head
    rcases known with rfl | rfl | rfl | rfl <;> cases head <;> decide

theorem balanced_append_starText {star rest : List Char} (starred : StarText star) :
    Brackets.balanced (star ++ rest) = Brackets.balanced rest := by
  cases starred <;> rfl

private theorem notMem_starText {star : List Char} (starred : StarText star) : '^' ∉ star := by
  cases starred <;> decide

theorem endsCoefficient_append {star rest : List Char} (written : StarText star)
    (ends : EndsCoefficient rest) : EndsCoefficient (star ++ rest) := by
  cases written with
  | missing => exact ends
  | star =>
      rintro _ ⟨⟩
      decide

private theorem inNumber_of_scaleText {text : List Char} {scale : Float}
    (written : ScaleText text scale) : ∀ c ∈ text, InNumber c := by
  cases written with
  | numeral written _ => exact inNumber_of_numeralText written
  | zero written _ => exact inNumber_of_numeralText written
  | minus => simp [InNumber]
  | missing => simp

theorem argumentText_plain {argument : List Char} {scale : Float}
    (written : ArgumentText argument scale) :
    Brackets.balanced argument = true ∧ '^' ∉ argument := by
  cases written with
  | product scaled starred known =>
      have plain := inNumber_of_scaleText scaled
      constructor
      · rw [Brackets.balanced_append (balanced_of_inNumber plain),
          balanced_append_starText starred, balanced_of_mem_variableTexts known]
      · simp only [List.mem_append, not_or]
        exact ⟨fun member => (ne_of_inNumber (plain _ member)).2.2.1 rfl,
          notMem_starText starred, notMem_of_mem_variableTexts known⟩

/-- A name begins with a letter that no variable begins with, and has only letters. -/
theorem operationName_plain {name : List Char} {operation : Operation}
    (written : OperationName name operation) :
    ('(' ∉ name ∧ ')' ∉ name ∧ '^' ∉ name) ∧
      ∃ c rest, name = c :: rest ∧ c ≠ 'x' ∧ c ≠ 'y' ∧ c ≠ '(' ∧ c ≠ '*' ∧ c ≠ '+' ∧ c ≠ '-' ∧
        continues c = false := by
  cases written with
  | root => exact ⟨by decide, _, _, rfl, by decide⟩
  | named function => cases function <;> exact ⟨by decide, _, _, rfl, by decide⟩

/-- A text that reads as a finite number denotes a finite decimal. -/
theorem numberText_iff (text : List Char) (number : Float) :
    NumberText text number ↔
      ∃ value, Numeral.read text = some (.finite value) ∧ number = Binary64.ofDecimal value ∧
        number.isFinite = true := by
  constructor
  · rintro ⟨numeral, read, rfl, finite⟩
    cases numeral with
    | finite value => exact ⟨value, read, rfl, finite⟩
    | infinite negative =>
        cases negative
        · exact absurd finite (by decide)
        · exact absurd finite (by decide)
    | undefined => exact absurd finite (by decide)
  · rintro ⟨value, read, rfl, finite⟩
    exact ⟨.finite value, read, rfl, finite⟩

private theorem balanced_of_degreeText {exponent : List Char} {degree : Float}
    (written : DegreeText exponent degree) : Brackets.balanced exponent = true := by
  rcases written with number | number
  all_goals
    obtain ⟨value, read, _⟩ := (numberText_iff _ _).mp number
    have closed := balanced_of_inNumber (inNumber_of_read read)
  · exact closed
  · exact Brackets.balanced_bracketed closed

theorem balanced_of_bodyText {coefficient : Float} {body : List Char} {term : Term Float}
    (written : BodyText coefficient body term) : Brackets.balanced body = true := by
  cases written with
  | nothing => rfl
  | linear known => exact balanced_of_mem_variableTexts known
  | power known read =>
      rw [Brackets.balanced_append (balanced_of_mem_variableTexts known), Brackets.balanced,
        Brackets.balancedFrom_cons_of_ne (by decide) (by decide)]
      exact balanced_of_degreeText read
  | call named written =>
      obtain ⟨⟨noOpen, noClose, _⟩, _⟩ := operationName_plain named
      rw [Brackets.balanced_append (Brackets.balanced_of_plain noOpen noClose)]
      exact Brackets.balanced_bracketed (argumentText_plain written).1

theorem head_of_bodyText {coefficient : Float} {body : List Char} {term : Term Float}
    (written : BodyText coefficient body term) :
    EndsCoefficient body ∧ ∀ c ∈ body.head?, c ≠ '*' := by
  cases written with
  | nothing => simp [EndsCoefficient]
  | linear known => exact head_of_mem_variableTexts known
  | @power base exponent degree known read =>
      obtain ⟨c, rest, rfl⟩ : ∃ c rest, base = c :: rest := by
        revert base
        simp [variableTexts]
      simpa [EndsCoefficient] using head_of_mem_variableTexts known
  | call named written =>
      obtain ⟨_, c, rest, rfl, _, _, _, notStar, notPlus, notMinus, stops⟩ :=
        operationName_plain named
      constructor
      · rintro _ ⟨⟩
        exact ⟨stops, notPlus, notMinus⟩
      · rintro _ ⟨⟩
        exact notStar

end Term
end PlaneRegion
