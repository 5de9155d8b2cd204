import PlaneRegion.Proofs.Equation.Outcome
import PlaneRegion.Proofs.Term.Parts

/-!
# What the reader of terms accepts

The reader completes a missing coefficient to a numeral and cuts the longest numeral off again, so
it reads the coefficient, the multiplication sign and the body of the grammar.
-/

namespace PlaneRegion
namespace Term

private theorem numeralText_one {sign : List Char} {negative : Bool}
    (signed : SignText sign negative) :
    NumeralText Char.isDigit (sign ++ ['1']) ⟨negative, 1, 0⟩ :=
  .whole signed (List.cons_ne_nil _ _) (List.forall_mem_singleton.mpr rfl)

private theorem withCoefficient_append {coefficient rest : List Char} {value : Float}
    (written : CoefficientText coefficient value) (ends : EndsCoefficient rest) :
    ∃ numeral decimal, withCoefficient (coefficient ++ rest) = numeral ++ rest ∧
      NumeralText Char.isDigit numeral decimal ∧ value = Binary64.ofDecimal decimal := by
  cases written with
  | @numeral _ decimal written =>
      have split := splitNumeral_of_numeralText written.widen fun c head => (ends c head).1
      exact ⟨coefficient, decimal, by simp [withCoefficient, split], written, rfl⟩
  | minus =>
      have missing := splitNumeral_of_signText .minus ends
      rw [List.singleton_append] at missing ⊢
      exact ⟨_, _, by simp [withCoefficient, missing], numeralText_one .minus, by decide⟩
  | plus =>
      have missing := splitNumeral_of_signText .plus ends
      rw [List.singleton_append] at missing ⊢
      exact ⟨_, _, by simp [withCoefficient, missing], numeralText_one .missing, by decide⟩
  | missing =>
      have missing := splitNumeral_of_signText .missing ends
      rw [List.nil_append] at missing ⊢
      refine ⟨_, _, ?_, numeralText_one .missing, by decide⟩
      simp only [withCoefficient, missing, Option.isSome_none, Bool.false_eq_true, if_false]
      split
      · exact absurd rfl (ends _ rfl).2.2
      · exact absurd rfl (ends _ rfl).2.1
      · rfl

private theorem read_nothing {text : List Char} {number : Decimal}
    (bare : text = [] ∨ text = ['-'] ∨ text = ['+']) : ¬NumeralText Char.isDigit text number := by
  intro written
  have read := read_of_numeralText written
  rcases bare with rfl | rfl | rfl <;> cases read

theorem outcome_read_of_termText {text : List Char} {term : Term Float}
    (written : TermText text term) :
    (read text : Attempt (Event Float) EquationError (Term Float)).outcome = .ok term := by
  cases written with
  | @product coefficient star body value _ leading starred written filled =>
      obtain ⟨ends_body, notStar⟩ := head_of_bodyText written
      have dropped := dropStar_append starred notStar
      have ends := endsCoefficient_append starred ends_body
      obtain ⟨numeral, decimal, completed, numbered, rfl⟩ :=
        withCoefficient_append leading.written ends
      have closed : Brackets.balanced (numeral ++ (star ++ body)) = true := by
        rw [Brackets.balanced_append (balanced_of_inNumber (inNumber_of_numeralText numbered)),
          balanced_append_starText starred]
        exact balanced_of_bodyText written
      have accepted := (bodyForm_eq_some_iff _ _ _).mpr written
      rw [outcome_read, if_neg]
      · simp only [completed, form, closed, splitNumber_of_numeralText numbered ends, dropped,
          if_true, accepted]
      · intro bare
        cases tail : star ++ body with
        | nil =>
            obtain ⟨rfl, rfl⟩ := List.append_eq_nil_iff.mp tail
            obtain ⟨number, numbered⟩ := filled rfl rfl
            rw [List.append_nil, List.append_nil] at bare
            exact read_nothing bare numbered
        | cons c rest =>
            obtain ⟨_, notPlus, notMinus⟩ := ends c (by rw [tail]; rfl)
            rw [tail] at bare
            simp [List.append_eq_cons_iff, notPlus, notMinus] at bare

/-- A numeral that is cut off is the longest coefficient. -/
theorem leadingCoefficient_of_some {text numeral rest : List Char} {value : Decimal}
    (found : splitNumeral text = some (numeral, rest))
    (written : NumeralText Char.isDigit numeral value) :
    LeadingCoefficient text numeral (Binary64.ofDecimal value) where
  written := .numeral written
  begins := ⟨rest, (numeralText_of_splitNumeral found).1.symm⟩
  longest := by
    have filled : 0 < numeral.length := by
      rw [List.length_pos_iff]
      exact fun empty => read_nothing (Or.inl empty) written
    intro other number coefficient begins
    cases coefficient with
    | numeral other_written => exact length_le_of_splitNumeral found other_written.widen begins
    | minus => exact filled
    | plus => exact filled
    | missing => exact Nat.zero_le _

private theorem coefficientText_implied {sign : List Char} {negative : Bool} {value : Decimal}
    (signed : SignText sign negative)
    (written : NumeralText Char.isDigit (sign ++ ['1']) value) :
    Binary64.ofDecimal value = if negative then -1 else 1 := by
  have read := read_of_numeralText written
  rw [read_of_numeralText (numeralText_one signed)] at read
  cases read
  cases signed <;> decide

private theorem leadingCoefficient_of_none {text numeral rest : List Char} {value : Decimal}
    (missing : splitNumeral text = none) (implied : impliedNumeral text = (numeral, rest))
    (written : NumeralText Char.isDigit numeral value) :
    ∃ sign, text = sign ++ rest ∧ LeadingCoefficient text sign (Binary64.ofDecimal value) ∧
      (sign = [] ∨ sign = ['-'] ∨ sign = ['+']) := by
  have signs : ∀ {other number}, CoefficientText other number → other <+: text →
      other = [] ∨ other = ['-'] ∨ other = ['+'] := by
    intro other number coefficient begins
    cases coefficient with
    | numeral numbered =>
        exact absurd numbered.widen (not_numeralText_of_splitNumeral missing begins)
    | minus => simp
    | plus => simp
    | missing => simp
  have short : ∀ {other number}, CoefficientText other number → other <+: text →
      other.length ≤ 1 := by
    intro other number coefficient begins
    rcases signs coefficient begins with rfl | rfl | rfl <;> decide
  unfold impliedNumeral at implied
  split at implied
  · obtain ⟨rfl, rfl⟩ := Prod.mk.inj implied
    rw [coefficientText_implied .minus written]
    exact ⟨['-'], rfl, ⟨.minus, ⟨_, rfl⟩, short⟩, by simp⟩
  · obtain ⟨rfl, rfl⟩ := Prod.mk.inj implied
    rw [coefficientText_implied .missing written]
    exact ⟨['+'], rfl, ⟨.plus, ⟨_, rfl⟩, short⟩, by simp⟩
  · rename_i noMinus noPlus
    obtain ⟨rfl, rfl⟩ := Prod.mk.inj implied
    rw [coefficientText_implied .missing written]
    refine ⟨[], rfl, ⟨.missing, ⟨_, rfl⟩, fun coefficient begins => ?_⟩, by simp⟩
    rcases signs coefficient begins with rfl | rfl | rfl
    · exact le_rfl
    · obtain ⟨body, rfl⟩ := begins
      exact absurd rfl (noMinus body)
    · obtain ⟨body, rfl⟩ := begins
      exact absurd rfl (noPlus body)

private theorem exists_of_form {completed : List Char} {term : Term Float}
    (described : (form completed : TermForm Float).toTerm? = some term) :
    ∃ numeral value star body, splitNumeral completed = some (numeral, star ++ body) ∧
      NumeralText Char.isDigit numeral value ∧ StarText star ∧
      BodyText (Binary64.ofDecimal value) body term := by
  unfold form at described
  split_ifs at described with closed
  · split at described
    · rename_i coefficient rest cut
      obtain ⟨numeral, value, split, written, rfl⟩ := splitNumber_eq_some_iff.mp cut
      obtain ⟨star, starred, rest_eq⟩ := exists_starText rest
      rw [rest_eq] at split
      exact ⟨numeral, value, star, _, split, written, starred,
        (bodyForm_eq_some_iff _ _ _).mp described⟩
    · cases described
  · cases described

theorem termText_of_outcome_read {text : List Char} {term : Term Float}
    (accepted : (read text : Attempt (Event Float) EquationError (Term Float)).outcome = .ok term) :
    TermText text term := by
  rw [outcome_read] at accepted
  split_ifs at accepted with bare
  cases described : (form (withCoefficient text) : TermForm Float).toTerm? with
  | none =>
      rw [described] at accepted
      cases accepted
  | some result =>
      rw [described] at accepted
      cases accepted
      obtain ⟨numeral, value, star, body, split, written, starred, bodied⟩ :=
        exists_of_form described
      rw [splitNumeral_withCoefficient] at split
      cases found : splitNumeral text with
      | some pair =>
          obtain rfl : pair = (numeral, star ++ body) := by simpa [found] using split
          have leading := leadingCoefficient_of_some found written
          have text_eq := (numeralText_of_splitNumeral found).1
          rw [text_eq] at leading ⊢
          exact .product leading starred bodied fun _ _ => ⟨value, written⟩
      | none =>
          have implied : impliedNumeral text = (numeral, star ++ body) := by
            simpa [found] using split
          obtain ⟨sign, text_eq, leading, signed⟩ :=
            leadingCoefficient_of_none found implied written
          rw [text_eq] at leading ⊢
          refine .product leading starred bodied fun noBody noStar => ?_
          rw [text_eq, noBody, noStar, List.append_nil, List.append_nil] at bare
          exact absurd signed bare

/-- The reader of terms accepts exactly the written terms, each as the term that it denotes, and
refuses every other text as it stands. The numeral it completes a text with does not fuse with what
stands behind it. -/
theorem outcome_read_iff_termText (text : List Char) :
    (∀ term, (read text : Attempt (Event Float) EquationError (Term Float)).outcome = .ok term ↔
      TermText text term) ∧
    (∀ failure, (read text : Attempt (Event Float) EquationError (Term Float)).outcome =
        .error failure ↔
      (∀ term, ¬TermText text term) ∧ failure = ⟨String.ofList text⟩) ∧
    splitNumeral (withCoefficient text) =
      (splitNumeral text).or (some (impliedNumeral text)) := by
  have accepted_iff : ∀ term, (read text : Attempt (Event Float) EquationError
      (Term Float)).outcome = .ok term ↔ TermText text term :=
    fun term => ⟨termText_of_outcome_read, outcome_read_of_termText⟩
  refine ⟨accepted_iff, fun failure => ?_, splitNumeral_withCoefficient text⟩
  simp only [← accepted_iff]
  constructor
  · intro refused
    refine ⟨fun term accepted => ?_, eq_of_outcome_read_eq_error refused⟩
    rw [refused] at accepted
    cases accepted
  · rintro ⟨never, rfl⟩
    cases outcome : (read text : Attempt (Event Float) EquationError (Term Float)).outcome with
    | ok term => exact absurd outcome (never term)
    | error failure => rw [eq_of_outcome_read_eq_error outcome]

end Term
end PlaneRegion
