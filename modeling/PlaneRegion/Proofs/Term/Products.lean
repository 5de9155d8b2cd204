import PlaneRegion.Proofs.Term.Reading

/-!
# Multiplication signs in a term

A multiplication sign should stand behind a written number and before what is multiplied: behind
the coefficient and before a variable, a power of it or a call, or in the argument of a call, behind
the factor and before the variable. In the terms that are read there are two more kinds of places
for it. A term may be a coefficient with a multiplication sign behind it and nothing else. And the
number before the sign may be left out, but for its own sign.
-/

namespace PlaneRegion
namespace Term

/-- What stands in a term before and behind a multiplication sign that has something to multiply
behind it, where the coefficient or factor right before the sign is of the given kind. -/
inductive StarPlace (IsFactor : List Char → Prop) : List Char → List Char → Prop where
  /-- The coefficient, and what it is a multiple of. -/
  | body {coefficient body : List Char} {value : Float} {term : Term Float} :
      IsFactor coefficient → BodyText value body term → body ≠ [] →
      StarPlace IsFactor coefficient body
  /-- The factor in the argument of a call, and the variable. -/
  | argument {coefficient star name factor base : List Char} {value : Float}
      {operation : Operation} :
      CoefficientText coefficient value → StarText star → OperationName name operation →
      IsFactor factor → base ∈ variableTexts →
      StarPlace IsFactor (coefficient ++ (star ++ (name ++ '(' :: factor))) (base ++ [')'])

/-- What stands in a term before and behind a multiplication sign that multiplies something by a
written number. -/
def Multiplies : List Char → List Char → Prop :=
  StarPlace fun factor => ∃ value, NumeralText Char.isDigit factor value

/-- What stands in a term before and behind a multiplication sign with no number before it. -/
def LacksFactor : List Char → List Char → Prop :=
  StarPlace fun factor => factor = [] ∨ factor = ['-'] ∨ factor = ['+']

/-- What stands before and behind a multiplication sign that multiplies nothing: a coefficient, and
the end of the term. -/
def Dangles (before after : List Char) : Prop :=
  after = [] ∧ ∃ value, CoefficientText before value

/-- What is multiplied is something, and begins with no plus. -/
theorem StarPlace.head {IsFactor : List Char → Prop} {before after : List Char}
    (place : StarPlace IsFactor before after) : ∃ c ∈ after.head?, c ≠ '+' := by
  cases place with
  | body _ bodied filled =>
      obtain ⟨c, rest, rfl⟩ := List.exists_cons_of_ne_nil filled
      exact ⟨c, rfl, ((head_of_bodyText bodied).1 c rfl).2.1⟩
  | argument _ _ _ _ known =>
      simp only [variableTexts, List.mem_cons, List.not_mem_nil, or_false] at known
      rcases known with rfl | rfl | rfl | rfl <;> exact ⟨_, rfl, by decide⟩

/-- Before the multiplication sign the factor ends, or the bracket opens before it. -/
theorem StarPlace.last {IsFactor : List Char → Prop} {before after : List Char}
    (place : StarPlace IsFactor before after) :
    ∃ factor, IsFactor factor ∧ (before.getLast? = factor.getLast? ∨
      factor = [] ∧ before.getLast? = some '(') := by
  cases place with
  | body known _ _ => exact ⟨_, known, Or.inl rfl⟩
  | @argument coefficient star name factor base _ _ _ _ _ known _ =>
      refine ⟨factor, known, ?_⟩
      rw [← List.append_assoc, ← List.append_assoc]
      cases factor with
      | nil => exact Or.inr ⟨rfl, List.getLast?_concat⟩
      | cons c rest =>
          rw [List.getLast?_append_of_ne_nil _ (List.cons_ne_nil _ _), List.getLast?_cons_cons]
          exact Or.inl rfl

private theorem last_of_numeralText {numeral : List Char} {value : Decimal}
    (written : NumeralText Char.isDigit numeral value) :
    ∃ c ∈ numeral.getLast?, c.isDigit = true := by
  have last : ∀ {digits : List Char} (front : List Char), digits ≠ [] →
      (∀ c ∈ digits, c.isDigit = true) → ∃ c ∈ (front ++ digits).getLast?, c.isDigit = true := by
    intro digits front filled known
    rw [List.getLast?_append_of_ne_nil _ filled]
    exact ⟨_, List.getLast?_eq_some_getLast filled, known _ (List.getLast_mem filled)⟩
  cases written with
  | whole _ filled digits => exact last _ filled digits
  | @point sign whole fraction _ _ _ filled digits =>
      simpa using last (sign ++ (whole ++ ['.'])) filled digits

/-- Before a multiplication sign that multiplies something stands a digit. -/
theorem Multiplies.last {before after : List Char} (multiplies : Multiplies before after) :
    ∃ c ∈ before.getLast?, c.isDigit = true := by
  obtain ⟨factor, ⟨value, written⟩, same | ⟨rfl, -⟩⟩ := StarPlace.last multiplies
  · rw [same]
    exact last_of_numeralText written
  · obtain ⟨_, none, _⟩ := last_of_numeralText written
    cases none

/-- Before a multiplication sign that lacks its factor stands no digit. -/
theorem LacksFactor.last {before after : List Char} (lacks : LacksFactor before after) :
    ∀ c ∈ before.getLast?, c.isDigit = false := by
  obtain ⟨factor, bare, same | ⟨-, same⟩⟩ := StarPlace.last lacks
  · rw [same]
    rcases bare with rfl | rfl | rfl <;> simp
  · simp [same]

private theorem star_notMem_of_inNumber {text : List Char} (known : ∀ c ∈ text, InNumber c) :
    '*' ∉ text :=
  fun member => (ne_of_inNumber (known _ member)).2.2.2 rfl

private theorem star_notMem_coefficientText {coefficient : List Char} {value : Float}
    (written : CoefficientText coefficient value) : '*' ∉ coefficient := by
  cases written with
  | numeral written => exact star_notMem_of_inNumber (inNumber_of_numeralText written)
  | minus => decide
  | plus => decide
  | missing => decide

private theorem star_notMem_scaleText {scale : List Char} {factor : Float}
    (written : ScaleText scale factor) : '*' ∉ scale := by
  cases written with
  | numeral written _ => exact star_notMem_of_inNumber (inNumber_of_numeralText written)
  | zero written _ => exact star_notMem_of_inNumber (inNumber_of_numeralText written)
  | minus => decide
  | missing => decide

private theorem star_notMem_variableTexts {base : List Char} (known : base ∈ variableTexts) :
    '*' ∉ base := by
  revert base
  decide

private theorem star_notMem_degreeText {exponent : List Char} {degree : Float}
    (written : DegreeText exponent degree) : '*' ∉ exponent := by
  rcases written with number | number
  all_goals
    obtain ⟨value, read, _⟩ := (numberText_iff _ _).mp number
    have plain := star_notMem_of_inNumber (inNumber_of_read read)
  · exact plain
  · simpa using plain

private theorem star_notMem_operationName {name : List Char} {operation : Operation}
    (written : OperationName name operation) : '*' ∉ name := by
  cases written with
  | root => decide
  | named function => cases function <;> decide

private theorem star_of_argumentText {before after : List Char} {factor : Float}
    (written : ArgumentText (before ++ '*' :: after) factor) :
    ScaleText before factor ∧ after ∈ variableTexts := by
  generalize whole : before ++ '*' :: after = argument at written
  cases written with
  | @product scale star base _ scaled starred known =>
      have notScale := star_notMem_scaleText scaled
      have notBase := star_notMem_variableTexts known
      cases starred with
      | missing =>
          have member : '*' ∈ scale ++ ([] ++ base) := whole ▸ by simp
          simp [notScale, notBase] at member
      | star =>
          obtain ⟨rfl, -, rfl⟩ :=
            (List.append_cons_inj_of_notMem notScale notBase).mp whole.symm
          exact ⟨scaled, known⟩

private theorem star_of_bodyText {before after : List Char} {value : Float} {term : Term Float}
    (written : BodyText value (before ++ '*' :: after) term) :
    ∃ name scale base factor operation, before = name ++ '(' :: scale ∧ after = base ++ [')'] ∧
      OperationName name operation ∧ ScaleText scale factor ∧ base ∈ variableTexts := by
  generalize whole : before ++ '*' :: after = body at written
  have member : '*' ∈ body := whole ▸ by simp
  cases written with
  | nothing => cases member
  | linear known => exact absurd member (star_notMem_variableTexts known)
  | power known read =>
      simp [star_notMem_variableTexts known, star_notMem_degreeText read] at member
  | @call name argument operation factor named read =>
      have inside : '*' ∈ argument := by simpa [star_notMem_operationName named] using member
      obtain ⟨scale, base, rfl⟩ := List.append_of_mem inside
      obtain ⟨scaled, known⟩ := star_of_argumentText read
      have notBefore : '*' ∉ name ++ '(' :: scale := by
        simp [star_notMem_operationName named, star_notMem_scaleText scaled]
      have notBehind : '*' ∉ base ++ [')'] := by simp [star_notMem_variableTexts known]
      have split : (name ++ '(' :: scale) ++ '*' :: (base ++ [')']) = before ++ '*' :: after := by
        simpa using whole.symm
      obtain ⟨rfl, -, rfl⟩ := (List.append_cons_inj_of_notMem notBefore notBehind).mp split
      exact ⟨name, scale, base, factor, operation, rfl, rfl, named, scaled, known⟩

/-- A multiplication sign in a written term multiplies something, or the term ends with it, or its
factor is missing. -/
theorem star_of_termText {before after : List Char} {term : Term Float}
    (written : TermText (before ++ '*' :: after) term) :
    Multiplies before after ∨ Dangles before after ∨ LacksFactor before after := by
  generalize whole : before ++ '*' :: after = text at written
  cases written with
  | @product coefficient star body value _ leading starred bodied _ =>
      have plain := star_notMem_coefficientText leading.written
      -- A sign in the body belongs to an argument, wherever the body begins.
      have inBody : ∀ {front : List Char}, body = front ++ '*' :: after →
          Multiplies (coefficient ++ (star ++ front)) after ∨
            LacksFactor (coefficient ++ (star ++ front)) after := by
        rintro front rfl
        obtain ⟨name, scale, base, factor, operation, rfl, rfl, named, scaled, known⟩ :=
          star_of_bodyText bodied
        have place := fun {IsFactor : List Char → Prop} (factored : IsFactor scale) =>
          StarPlace.argument leading.written starred named factored known
        cases scaled with
        | numeral written _ => exact Or.inl (place ⟨_, written⟩)
        | zero written _ => exact Or.inl (place ⟨_, written⟩)
        | minus => exact Or.inr (place (Or.inr (Or.inl rfl)))
        | missing => exact Or.inr (place (Or.inl rfl))
      obtain ⟨front, rfl, rest⟩ : ∃ front, before = coefficient ++ front ∧
          star ++ body = front ++ '*' :: after := by
        rcases List.append_eq_append_iff.mp whole with ⟨part, rfl, rest⟩ | behind
        · rcases List.cons_eq_append_iff.mp rest with ⟨rfl, rest⟩ | ⟨_, rfl, _⟩
          · exact ⟨[], by simp, rest.symm⟩
          · simp at plain
        · exact behind
      cases starred with
      | missing => exact (inBody rest).imp_right Or.inr
      | star =>
          rcases List.cons_eq_append_iff.mp rest with ⟨rfl, same⟩ | ⟨inner, rfl, same⟩
          · obtain rfl := (List.cons_inj_right _).mp same
            rw [List.append_nil]
            by_cases empty : after = []
            · exact Or.inr (Or.inl ⟨empty, value, leading.written⟩)
            have place := fun {IsFactor : List Char → Prop} (factored : IsFactor coefficient) =>
              StarPlace.body factored bodied empty
            cases leading.written with
            | numeral written => exact Or.inl (place ⟨_, written⟩)
            | minus => exact Or.inr (Or.inr (place (by simp)))
            | plus => exact Or.inr (Or.inr (place (by simp)))
            | missing => exact Or.inr (Or.inr (place (by simp)))
          · exact (inBody same).imp_right Or.inr

/-- A term can be read. -/
def IsAccepted (text : List Char) : Prop :=
  ∃ term, (read text : Attempt (Event Float) EquationError (Term Float)).outcome = .ok term

theorem isAccepted_iff (text : List Char) : IsAccepted text ↔ ∃ term, TermText text term :=
  exists_congr fun term => (outcome_read_iff_termText text).1 term

private theorem continues_of_coefficientText {coefficient : List Char} {value : Float}
    (written : CoefficientText coefficient value) :
    ∀ c ∈ coefficient, continues c = true ∨ c = '+' ∨ c = '-' := by
  have digit : ∀ {c : Char}, c.isDigit = true → continues c = true := fun known => by
    simp [continues, isDecimalDigit_of_isDigit known]
  have sign : ∀ {sign : List Char} {negative : Bool}, SignText sign negative → ∀ c ∈ sign,
      continues c = true ∨ c = '+' ∨ c = '-' := by
    rintro _ _ (_ | _ | _) <;> simp
  cases written with
  | numeral written =>
      intro c member
      cases written with
      | whole signed _ digits =>
          rcases List.mem_append.mp member with inSign | member
          · exact sign signed c inSign
          · exact Or.inl (digit (digits c member))
      | point signed whole _ fraction =>
          rcases List.mem_append.mp member with inSign | member
          · exact sign signed c inSign
          rcases List.mem_append.mp member with before | member
          · exact Or.inl (digit (whole c before))
          rcases List.mem_cons.mp member with rfl | member
          · exact Or.inl rfl
          · exact Or.inl (digit (fraction c member))
  | minus => simp
  | plus => simp
  | missing => simp

private theorem isPrefix_of_coefficientText {coefficient front rest : List Char} {value : Float}
    (written : CoefficientText coefficient value) (ends : EndsCoefficient rest)
    (begins : coefficient <+: front ++ rest) : coefficient <+: front := by
  rcases List.prefix_or_prefix_of_prefix begins (List.prefix_append _ _) with within | beyond
  · exact within
  obtain ⟨longer, rfl⟩ := beyond
  cases longer with
  | nil => simp
  | cons c longer =>
      obtain ⟨tail, rfl⟩ := (List.prefix_append_right_inj front).mp begins
      obtain ⟨stops, notPlus, notMinus⟩ := ends c rfl
      rcases continues_of_coefficientText written c (by simp) with goesOn | plus | minus
      · exact absurd goesOn (by simp [stops])
      · exact absurd plus notPlus
      · exact absurd minus notMinus

private theorem exists_bodyText {value : Float} {body : List Char} {term : Term Float}
    (written : BodyText value body term) (other : Float) : ∃ term, BodyText other body term := by
  cases written with
  | nothing => exact ⟨_, .nothing⟩
  | linear known => exact ⟨_, .linear known⟩
  | power known read => exact ⟨_, .power known read⟩
  | call named read => exact ⟨_, .call named read⟩

private theorem isAccepted_of_bodyText {coefficient star body : List Char} {value other : Float}
    {term : Term Float} (written : CoefficientText coefficient value) (starred : StarText star)
    (bodied : BodyText other body term)
    (filled : body = [] → star = [] → ∃ number, NumeralText Char.isDigit coefficient number) :
    IsAccepted (coefficient ++ (star ++ body)) := by
  obtain ⟨term, bodied⟩ := exists_bodyText bodied value
  have ends := endsCoefficient_append starred (head_of_bodyText bodied).1
  have leading : LeadingCoefficient (coefficient ++ (star ++ body)) coefficient value :=
    ⟨written, List.prefix_append _ _, fun also begins =>
      (isPrefix_of_coefficientText also ends begins).length_le⟩
  exact (isAccepted_iff _).mpr ⟨term, .product leading starred bodied filled⟩

/-- Behind a coefficient, written or left out, and a multiplication sign, every body is read. -/
theorem isAccepted_star_iff {coefficient : List Char} {value : Float}
    (written : CoefficientText coefficient value) (body : List Char) :
    IsAccepted (coefficient ++ '*' :: body) ↔ ∃ value term, BodyText value body term := by
  rw [isAccepted_iff]
  constructor
  · rintro ⟨term, accepted⟩
    generalize whole : coefficient ++ '*' :: body = text at accepted
    cases accepted with
    | @product leading star inner value _ longest starred bodied _ =>
        have ends : EndsCoefficient ('*' :: body) := by
          rintro _ ⟨⟩
          decide
        -- The longest coefficient is the given one.
        have within : coefficient <+: leading ++ (star ++ inner) := ⟨_, whole⟩
        have same : leading = coefficient := by
          have begins := isPrefix_of_coefficientText longest.written ends (whole ▸ longest.begins)
          exact begins.eq_of_length_le (longest.longest written within)
        subst same
        have rest := List.append_cancel_left whole
        cases starred with
        | missing =>
            have head : '*' ∈ inner.head? := congrArg List.head? rest.symm
            exact absurd rfl ((head_of_bodyText bodied).2 '*' head)
        | star =>
            obtain rfl := (List.cons_inj_right _).mp rest
            exact ⟨value, term, bodied⟩
  · rintro ⟨_, _, bodied⟩
    refine (isAccepted_iff _).mp (isAccepted_of_bodyText written .star bodied ?_)
    exact fun _ missing => absurd missing (List.cons_ne_nil _ _)

/-- Nothing but a coefficient makes a term with a multiplication sign behind it. -/
theorem isAccepted_concat_star_iff (text : List Char) :
    IsAccepted (text ++ ['*']) ↔ ∃ value, CoefficientText text value := by
  constructor
  · rintro ⟨term, accepted⟩
    rcases star_of_termText (termText_of_outcome_read accepted) with
      multiplies | dangles | lacks
    · obtain ⟨_, none, _⟩ := StarPlace.head multiplies
      cases none
    · exact dangles.2
    · obtain ⟨_, none, _⟩ := StarPlace.head lacks
      cases none
  · rintro ⟨value, written⟩
    exact (isAccepted_star_iff written []).mpr ⟨value, _, .nothing⟩

/-- In the argument of a call, the number before the multiplication sign may be left out. -/
theorem isAccepted_call_star {name sign base : List Char} {operation : Operation}
    (named : OperationName name operation) (signed : sign = [] ∨ sign = ['-'])
    (known : base ∈ variableTexts) :
    IsAccepted (name ++ '(' :: (sign ++ ('*' :: base) ++ [')'])) := by
  obtain ⟨factor, scaled⟩ : ∃ factor, ScaleText sign factor := by
    rcases signed with rfl | rfl
    · exact ⟨1, .missing⟩
    · exact ⟨-1, .minus⟩
  have bodied : BodyText 1 (name ++ '(' :: (sign ++ ('*' :: base) ++ [')'])) _ :=
    .call named (.product scaled .star known)
  change IsAccepted ([] ++ ([] ++ _))
  exact isAccepted_of_bodyText .missing .missing bodied (by simp)

end Term
end PlaneRegion
