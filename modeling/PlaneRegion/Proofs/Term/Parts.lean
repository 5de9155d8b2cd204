import Mathlib.Data.List.Basic
import PlaneRegion.Proofs.Term.Grammar

/-!
# Readers of the parts of a term

Each reader of a part accepts exactly what the grammar has for that part: exponents, arguments and
whole bodies.
-/

namespace PlaneRegion
namespace Term

theorem isVariable_iff (text : List Char) : isVariable text = true ↔ text ∈ variableTexts := by
  simp [isVariable, variableTexts, or_assoc]

/-- A text without its multiplication sign is what stands behind that sign. -/
theorem exists_starText (text : List Char) :
    ∃ star, StarText star ∧ text = star ++ dropStar text := by
  unfold dropStar
  split
  · exact ⟨['*'], .star, rfl⟩
  · exact ⟨[], .missing, rfl⟩

theorem dropStar_append {star rest : List Char} (written : StarText star)
    (other : ∀ c ∈ rest.head?, c ≠ '*') : dropStar (star ++ rest) = rest := by
  cases written with
  | star => rfl
  | missing =>
      cases rest with
      | nil => rfl
      | cons c rest =>
          have differs := other c rfl
          simp [dropStar, differs]

/-- The function with a given name is found by it. -/
theorem ofName_eq_some_iff (text : String) (function : NamedFunction) :
    NamedFunction.ofName text = some function ↔ text = function.name := by
  constructor
  · intro found
    have named := List.find?_some found
    exact (eq_of_beq named).symm
  · rintro rfl
    cases function <;> rfl

/-- An operation that is called is found by its name. -/
theorem operationName_iff (name : List Char) (operation : Operation) :
    OperationName name operation ↔
      (name = "sqrt".toList ∧ operation = .root) ∨
        ∃ function, NamedFunction.ofName (String.ofList name) = some function ∧
          operation = .named function := by
  constructor
  · rintro (_ | function)
    · exact Or.inl ⟨rfl, rfl⟩
    · refine Or.inr ⟨function, ?_, rfl⟩
      rw [ofName_eq_some_iff, String.ofList_toList]
  · rintro (⟨rfl, rfl⟩ | ⟨function, found, rfl⟩)
    · exact .root
    · rw [ofName_eq_some_iff] at found
      rw [← String.toList_ofList (l := name), found]
      exact .named function

private theorem dropBrackets_bracketed (text : List Char) :
    dropBrackets ('(' :: (text ++ [')'])) = text := by
  simp [dropBrackets]

private theorem eq_bracketed_or_self (text : List Char) :
    text = '(' :: (dropBrackets text ++ [')']) ∨ dropBrackets text = text := by
  unfold dropBrackets
  split
  · rename_i rest
    split_ifs with closes
    · left
      rw [List.dropLast_append_getLast?]
      exact closes
    · exact Or.inr rfl
  · exact Or.inr rfl

/-- The exponents that the reader of exponents accepts. -/
theorem readDegree_eq_some_iff (text : List Char) (degree : Float) :
    readDegree text = some degree ↔ DegreeText text degree := by
  have read_iff : readDegree text = some degree ↔ NumberText (dropBrackets text) degree := by
    rw [numberText_iff, readDegree]
    cases Numeral.read (dropBrackets text) with
    | none => simp
    | some numeral =>
        cases numeral with
        | finite value =>
            simp only [Scalar.ofDecimal, Scalar.isFinite, Option.ite_none_right_eq_some,
              Option.some.injEq, Numeral.finite.injEq, exists_eq_left']
            constructor
            · rintro ⟨finite, rfl⟩
              exact ⟨rfl, finite⟩
            · rintro ⟨rfl, finite⟩
              exact ⟨finite, rfl⟩
        | infinite negative => simp
        | undefined => simp
  rw [read_iff]
  constructor
  · intro number
    rcases eq_bracketed_or_self text with bracketed | bare
    · rw [bracketed]
      exact .bracketed number
    · rw [bare] at number
      exact .bare number
  · rintro (number | number)
    · rcases eq_bracketed_or_self text with bracketed | bare
      · obtain ⟨value, read, _⟩ := (numberText_iff _ _).mp number
        have opens : InNumber '(' := inNumber_of_read read _ (by rw [bracketed]; simp)
        exact absurd rfl (ne_of_inNumber opens).1
      · rwa [bare]
    · rwa [dropBrackets_bracketed]

theorem splitNumber_of_numeralText {numeral rest : List Char} {value : Decimal}
    (written : NumeralText Char.isDigit numeral value) (ends : EndsCoefficient rest) :
    splitNumber (numeral ++ rest) = some (Binary64.ofDecimal value, rest) := by
  have split := splitNumeral_of_numeralText written.widen fun c head => (ends c head).1
  exact splitNumber_eq_some_iff.mpr ⟨numeral, value, split, written, rfl⟩

private theorem splitNumber_of_signText {sign rest : List Char} {negative : Bool}
    (signed : SignText sign negative) (ends : EndsCoefficient rest) :
    (splitNumber (sign ++ rest) : Option (Float × List Char)) = none := by
  rw [splitNumber, splitNumeral_of_signText signed ends]

private theorem minus_one : (-Scalar.ofNat 1 : Float) = -1 := by
  decide

theorem ofNat_one : (Scalar.ofNat 1 : Float) = 1 := by
  decide

private theorem argumentText_of_readScale {text : List Char} {scale : Float}
    (accepted : readScale text = some scale) : ArgumentText text scale := by
  unfold readScale at accepted
  cases cut : (splitNumber text : Option (Float × List Char)) with
  | some found =>
      obtain ⟨number, rest⟩ := found
      simp only [cut, Option.ite_none_right_eq_some, Option.some.injEq] at accepted
      obtain ⟨base, rfl⟩ := accepted
      obtain ⟨numeral, value, split, written, rfl⟩ := splitNumber_eq_some_iff.mp cut
      obtain ⟨rfl, _⟩ := numeralText_of_splitNumeral split
      obtain ⟨star, starred, rest_eq⟩ := exists_starText rest
      rw [rest_eq]
      refine .product ?_ starred ((isVariable_iff _).mp base)
      split_ifs with vanishes
      · rw [ofNat_one]
        exact .zero written vanishes
      · exact .numeral written (Bool.eq_false_iff.mpr vanishes)
  | none =>
      simp only [cut] at accepted
      split at accepted
      · rename_i rest
        simp only [Option.ite_none_right_eq_some, Option.some.injEq] at accepted
        obtain ⟨base, rfl⟩ := accepted
        obtain ⟨star, starred, rest_eq⟩ := exists_starText rest
        rw [minus_one, ← List.singleton_append, rest_eq]
        exact .product .minus starred ((isVariable_iff _).mp base)
      · simp only [Option.ite_none_right_eq_some, Option.some.injEq] at accepted
        obtain ⟨base, rfl⟩ := accepted
        obtain ⟨star, starred, text_eq⟩ := exists_starText text
        rw [ofNat_one, ← List.nil_append text, text_eq]
        exact .product .missing starred ((isVariable_iff _).mp base)

private theorem readScale_of_argumentText {text : List Char} {scale : Float}
    (written : ArgumentText text scale) : readScale text = some scale := by
  cases written with
  | @product factor star base _ scaled starred known =>
      obtain ⟨ends, plain⟩ := head_of_mem_variableTexts known
      have variable_left : isVariable (dropStar (star ++ base)) = true := by
        rw [dropStar_append starred plain, isVariable_iff]
        exact known
      replace ends := endsCoefficient_append starred ends
      generalize star ++ base = rest at ends variable_left
      unfold readScale
      cases scaled with
      | @numeral _ value written nonzero =>
          have differs : Scalar.equal (Binary64.ofDecimal value) (Scalar.ofNat 0) = false := nonzero
          simp [splitNumber_of_numeralText written ends, differs, variable_left]
      | @zero _ value written vanishes =>
          have same : Scalar.equal (Binary64.ofDecimal value) (Scalar.ofNat 0) = true := vanishes
          simp [splitNumber_of_numeralText written ends, same, variable_left, ofNat_one]
      | minus =>
          have missing := splitNumber_of_signText .minus ends
          rw [List.singleton_append] at missing
          simp [missing, variable_left, minus_one]
      | missing =>
          have missing := splitNumber_of_signText .missing ends
          rw [List.nil_append] at missing ⊢
          simp only [missing]
          split
          · exact absurd rfl (ends _ rfl).2.2
          · simp [variable_left, ofNat_one]

/-- The arguments that the reader of factors accepts. -/
theorem readScale_eq_some_iff (text : List Char) (scale : Float) :
    readScale text = some scale ↔ ArgumentText text scale :=
  ⟨argumentText_of_readScale, readScale_of_argumentText⟩

private theorem bodyText_of_bodyForm {coefficient : Float} {body : List Char} {term : Term Float}
    (accepted : (bodyForm coefficient body).toTerm? = some term) :
    BodyText coefficient body term := by
  unfold bodyForm at accepted
  split_ifs at accepted with empty base
  · cases accepted
    rw [List.isEmpty_iff.mp empty]
    exact .nothing
  · cases accepted
    exact .linear ((isVariable_iff _).mp base)
  · rw [List.span_eq_takeWhile_dropWhile] at accepted
    have cut := List.takeWhile_append_dropWhile (p := (· != '^')) (l := body)
    generalize body.takeWhile (· != '^') = base at accepted cut
    generalize body.dropWhile (· != '^') = rest at accepted cut
    split at accepted
    · rename_i found
      obtain ⟨rfl, rfl⟩ := Prod.mk.inj found
      split at accepted
      · rename_i degree known read
        cases accepted
        rw [← cut]
        exact .power ((isVariable_iff _).mp known) ((readDegree_eq_some_iff _ _).mp read)
      · cases accepted
    · split at accepted
      · cases accepted
      · rename_i name argument call
        rw [Brackets.eq_append_of_splitCall call]
        split at accepted
        · cases accepted
        · rename_i scale read
          have written := (readScale_eq_some_iff _ _).mp read
          split_ifs at accepted with isRoot
          · cases accepted
            rw [isRoot]
            exact .call .root written
          · split at accepted
            · rename_i function known
              cases accepted
              refine .call ((operationName_iff _ _).mpr ?_) written
              exact Or.inr ⟨function, known, rfl⟩
            · cases accepted

private theorem bodyForm_of_bodyText {coefficient : Float} {body : List Char} {term : Term Float}
    (written : BodyText coefficient body term) :
    (bodyForm coefficient body).toTerm? = some term := by
  cases written with
  | nothing => rfl
  | linear known =>
      have base := (isVariable_iff _).mpr known
      unfold bodyForm
      split_ifs with empty
      · rw [List.isEmpty_iff.mp empty] at base
        cases base
      · rfl
  | @power base exponent degree known read =>
      have before : ∀ c ∈ base, (c != '^') = true := by
        intro c member
        exact bne_iff_ne.mpr fun same => notMem_of_mem_variableTexts known (same ▸ member)
      have composed : isVariable (base ++ '^' :: exponent) = false := by
        rw [Bool.eq_false_iff, Ne, isVariable_iff]
        intro variable_again
        exact notMem_of_mem_variableTexts variable_again (by simp)
      have base_known := (isVariable_iff _).mpr known
      have degree_known := (readDegree_eq_some_iff _ _).mpr read
      simp [bodyForm, composed, List.span_eq_takeWhile_dropWhile,
        List.takeWhile_append_of_pos before, List.dropWhile_append_of_pos before, base_known,
        degree_known, TermForm.toTerm?]
  | @call name argument operation scale named written =>
      obtain ⟨closed, plain⟩ := argumentText_plain written
      obtain ⟨⟨bare, _, powerless⟩, c, rest, name_eq, other⟩ := operationName_plain named
      have composed : isVariable (name ++ '(' :: (argument ++ [')'])) = false := by
        simp [name_eq, isVariable, other]
      have before : ∀ c ∈ name ++ '(' :: (argument ++ [')']), (c != '^') = true := by
        intro c member
        refine bne_iff_ne.mpr ?_
        rintro rfl
        simp [powerless, plain] at member
      have read := (readScale_eq_some_iff _ _).mpr written
      have found := (operationName_iff _ _).mp named
      have filled : (name ++ '(' :: (argument ++ [')'])).isEmpty = false := by simp
      simp only [bodyForm, filled, composed, List.span_eq_takeWhile_dropWhile,
        List.takeWhile_eq_self_iff.mpr before, List.dropWhile_eq_nil_iff.mpr before,
        Brackets.splitCall_of_balanced bare closed, read, Bool.false_eq_true, if_false]
      rcases found with ⟨rfl, rfl⟩ | ⟨function, found, rfl⟩
      · rfl
      · have noRoot : name ≠ "sqrt".toList := by
          rintro rfl
          cases found
        simp only [found, if_neg noRoot]
        rfl

/-- The bodies that the reader of bodies accepts. -/
theorem bodyForm_eq_some_iff (coefficient : Float) (body : List Char) (term : Term Float) :
    (bodyForm coefficient body).toTerm? = some term ↔ BodyText coefficient body term :=
  ⟨bodyText_of_bodyForm, bodyForm_of_bodyText⟩

end Term
end PlaneRegion
