import PlaneRegion.Proofs.Binary64.Text
import PlaneRegion.Proofs.Equation.Joining
import PlaneRegion.Proofs.Term.Reading

/-!
# Equations that are written and read again

The text of a term is its coefficient as a number and a body in the grammar of terms. Such texts
stand alone: the sign of a coefficient begins the text, the sign of an exponent follows its caret,
and the sign of a factor is inside the brackets of its call. Joined by plus signs, they are cut
apart again and read as the same terms.
-/

namespace PlaneRegion

namespace Term

/-- The text of a term with the given letter for the variable. -/
def textIn (letter : String) (term : Term Float) : String :=
  let coefficient := Binary64.text term.coefficient
  match term.operation, term.exponent with
  | .power, some n =>
      if n == 0 then coefficient
      else if n == 1 then coefficient ++ "*" ++ letter
      else coefficient ++ "*" ++ letter ++ "^" ++ Binary64.text n
  | .power, none => coefficient ++ "*" ++ letter ++ "^?"
  | .root, _ => coefficient ++ "*sqrt(" ++ Binary64.text term.scale ++ "*" ++ letter ++ ")"
  | .named function, _ =>
      coefficient ++ "*" ++ function.name ++ "(" ++ Binary64.text term.scale ++ "*" ++ letter ++ ")"

/-- The text that a term is shown as has the letter `t`. -/
theorem textIn_t (term : Term Float) : term.textIn "t" = term.text := by
  obtain ⟨coefficient, operation, scale, exponent⟩ := term
  cases operation with
  | power => cases exponent <;> simp [textIn, text, String.append_assoc]
  | root => simp [textIn, text, String.append_assoc]
  | named function => simp [textIn, text, String.append_assoc]

/-- The terms with finite numbers that reading gives: powers of the variable itself, and calls whose
argument does not vanish. -/
inductive IsReadable : Term Float → Prop where
  | power {coefficient scale exponent : Float} :
      coefficient.isFinite = true → (scale == 1) = true → exponent.isFinite = true →
      IsReadable ⟨coefficient, .power, scale, some exponent⟩
  | call {coefficient scale : Float} {operation : Operation} :
      coefficient.isFinite = true → operation ≠ .power → scale.isFinite = true →
      (scale == 0) = false → IsReadable ⟨coefficient, operation, scale, none⟩

/-- Two terms with the same operation and numerically equal numbers. The second one has no negative
zero for its exponent. -/
structure ReadsBackAs (term back : Term Float) : Prop where
  coefficient : (back.coefficient == term.coefficient) = true
  operation : back.operation = term.operation
  scale : (back.scale == term.scale) = true
  exponent : Option.Rel (fun n m => (m == n) = true ∧ ((n == 0) = true → m = 0))
    term.exponent back.exponent

end Term

namespace Equation

/-! ## Numbers -/

section Number

variable {x : Float} {depth : Int} {previous : Option Char}

theorem plain_of_unsigned {c : Char} (known : c.isDigit = true ∨ c = '.') :
    (Text.isBlank c = false ∧ c ≠ '+') ∧ c ≠ '-' ∧ c ≠ '(' ∧ c ≠ ')' := by
  rcases known with digit | rfl
  · rw [Text.isDigit_iff] at digit
    have visible : Text.isBlank c = false := by
      simp [Text.isBlank]
      omega
    refine ⟨⟨visible, ?_⟩, ?_, ?_, ?_⟩ <;>
    · rintro rfl
      revert digit
      decide
  · decide

theorem isPlain_text (finite : x.isFinite = true) : IsPlain (Binary64.text x).toList := by
  obtain ⟨negative, unsigned, layout, known⟩ := Binary64.exists_unsigned_text finite
  have sign : IsPlain (Decimal.signText negative) := by
    cases negative <;> simp [IsPlain, Decimal.signText, Text.isBlank]
  rw [layout]
  exact sign.append fun c member => (plain_of_unsigned (known c member)).1

theorem depthBehind_text (finite : x.isFinite = true) (depth : Int) :
    depthBehind depth (Binary64.text x).toList = depth := by
  obtain ⟨negative, unsigned, layout, known⟩ := Binary64.exists_unsigned_text finite
  have sign : depthBehind depth (Decimal.signText negative) = depth := by cases negative <;> rfl
  rw [layout, depthBehind_append, sign]
  exact depthBehind_of_bracketless
    (fun member => (plain_of_unsigned (known _ member)).2.2.1 rfl)
    (fun member => (plain_of_unsigned (known _ member)).2.2.2 rfl) depth

/-- A number is left whole where a minus is a sign. -/
theorem uncut_text (finite : x.isFinite = true) (sign : signFollows previous = true ∨ depth ≠ 0) :
    Uncut depth previous (Binary64.text x).toList := by
  obtain ⟨negative, unsigned, layout, known⟩ := Binary64.exists_unsigned_text finite
  have whole : ∀ depth previous, Uncut depth previous unsigned :=
    uncut_of_signless (fun c member => (plain_of_unsigned (known c member)).1)
      fun member => (plain_of_unsigned (known _ member)).2.1 rfl
  rw [layout]
  cases negative with
  | false => exact whole _ _
  | true => exact (uncut_minus sign).append (whole _ _)

theorem text_ne_nil (finite : x.isFinite = true) : (Binary64.text x).toList ≠ [] := by
  obtain ⟨value, written, _⟩ := Binary64.exists_numeralText_text finite
  intro empty
  rw [empty] at written
  cases Term.read_of_numeralText written

/-- Inside brackets a minus is a sign wherever it stands. -/
theorem passes_text (finite : x.isFinite = true) (inside : depth ≠ 0) :
    Passes depth depth (Binary64.text x).toList :=
  ⟨isPlain_text finite, fun _ => uncut_text finite (Or.inr inside), depthBehind_text finite depth⟩

/-- Behind a caret a minus is a sign. -/
theorem passes_exponent (finite : x.isFinite = true) :
    Passes 0 0 (['^'] ++ (Binary64.text x).toList) := by
  have caret : Passes 0 0 ['^'] := passes_of_signless rfl rfl
  constructor
  · exact caret.plain.append (isPlain_text finite)
  · intro previous
    exact (caret.uncut previous).append (uncut_text finite (Or.inl rfl))
  · rw [depthBehind_append, caret.depth, depthBehind_text finite]

theorem standsAlone_of_passes (finite : x.isFinite = true) {tail : List Char}
    (passes : Passes 0 0 tail) : StandsAlone ((Binary64.text x).toList ++ tail) where
  nonempty := List.append_ne_nil_of_left_ne_nil (text_ne_nil finite) tail
  plain := (isPlain_text finite).append passes.plain
  uncut begins := by
    refine (uncut_text finite (Or.inl begins)).append ?_
    rw [depthBehind_text finite]
    exact passes.uncut _
  closed := by rw [depthBehind_append, depthBehind_text finite, passes.depth]

end Number

/-! ## Bodies -/

section Body

variable {letter : Char} {x : Float}

theorem passes_linear (known : letter = 'x' ∨ letter = 'y') (depth : Int) :
    Passes depth depth ['*', letter] := by
  rcases known with rfl | rfl
  · exact passes_of_signless rfl rfl
  · exact passes_of_signless rfl rfl

theorem passes_power (known : letter = 'x' ∨ letter = 'y') (finite : x.isFinite = true) :
    Passes 0 0 (['*'] ++ ([letter] ++ '^' :: (Binary64.text x).toList)) :=
  (passes_linear known 0).append (passes_exponent finite)

theorem passes_call {name : List Char} {operation : Operation}
    (named : Term.OperationName name operation) (known : letter = 'x' ∨ letter = 'y')
    (finite : x.isFinite = true) :
    Passes 0 0 (['*'] ++ (name ++ '(' ::
      ((Binary64.text x).toList ++ (['*'] ++ [letter]) ++ [')']))) := by
  have star : Passes 0 0 ['*'] := passes_of_signless rfl rfl
  have opening : Passes 0 1 ['('] := passes_of_signless rfl rfl
  have closing : Passes 1 0 [')'] := passes_of_signless rfl rfl
  have argument := (passes_text finite one_ne_zero).append (passes_linear known 1)
  exact star.append ((passes_operationName named).append
    (opening.append (argument.append closing)))

end Body

end Equation

namespace Term

/-! ## Written terms -/

section Written

variable {x coefficient scale exponent : Float} {operation : Operation}

theorem beq_self_of_isFinite (finite : x.isFinite = true) : (x == x) = true := by
  rw [Float.beq_self_iff]
  rintro rfl
  exact absurd finite (by decide)

/-- A numeral in front of a body is the coefficient of a written term. -/
theorem termText_of_numeralText {numeral : List Char} {value : Decimal}
    (written : NumeralText Char.isDigit numeral value) {star body : List Char} {term : Term Float}
    (starred : StarText star) (bodied : BodyText (Binary64.ofDecimal value) body term) :
    TermText (numeral ++ (star ++ body)) term := by
  have ends := endsCoefficient_append starred (head_of_bodyText bodied).1
  have found := splitNumeral_of_numeralText written.widen fun c head => (ends c head).1
  have leading := leadingCoefficient_of_some found written
  exact .product leading starred bodied fun _ _ => ⟨value, written⟩

theorem termText_of_text (finite : x.isFinite = true) {star body : List Char} {term : Term Float}
    (starred : StarText star) (bodied : BodyText x body term) :
    TermText ((Binary64.text x).toList ++ (star ++ body)) term := by
  obtain ⟨value, written, rfl⟩ := Binary64.exists_numeralText_text finite
  exact termText_of_numeralText written starred bodied

theorem numberText_text (finite : x.isFinite = true) : NumberText (Binary64.text x).toList x := by
  obtain ⟨value, written, read⟩ := Binary64.exists_numeralText_text finite
  exact ⟨.finite value, read_of_numeralText written, read.symm, finite⟩

theorem argumentText_text (finite : x.isFinite = true) (nonzero : (x == 0) = false)
    {base : List Char} (known : base ∈ variableTexts) :
    ArgumentText ((Binary64.text x).toList ++ (['*'] ++ base)) x := by
  obtain ⟨value, written, read⟩ := Binary64.exists_numeralText_text finite
  rw [← read] at nonzero
  have product := ArgumentText.product (.numeral written nonzero) .star known
  rwa [read] at product

theorem exists_letter (axis : Axis) :
    ∃ letter, axis.name.toList = [letter] ∧ (letter = 'x' ∨ letter = 'y') ∧
      [letter] ∈ variableTexts := by
  cases axis with
  | x => exact ⟨'x', rfl, Or.inl rfl, by decide⟩
  | y => exact ⟨'y', rfl, Or.inr rfl, by decide⟩

/-- The text of a term is one piece of an equation and reads back. -/
structure ReadsBack (text : List Char) (term back : Term Float) : Prop where
  same : term.ReadsBackAs back
  alone : Equation.StandsAlone text
  written : TermText text back

theorem ReadsBack.of_layout {text star body : List Char} {term back : Term Float}
    (layout : text = (Binary64.text x).toList ++ (star ++ body)) (finite : x.isFinite = true)
    (starred : StarText star) (bodied : BodyText x body back)
    (passes : Equation.Passes 0 0 (star ++ body)) (same : term.ReadsBackAs back) :
    ReadsBack text term back where
  same := same
  alone := layout ▸ Equation.standsAlone_of_passes finite passes
  written := layout ▸ termText_of_text finite starred bodied

private theorem exists_readsBack_power (finite : coefficient.isFinite = true)
    (unscaled : (scale == 1) = true) (finite_exponent : exponent.isFinite = true) (axis : Axis) :
    ∃ back, ReadsBack (textIn axis.name ⟨coefficient, .power, scale, some exponent⟩).toList
      ⟨coefficient, .power, scale, some exponent⟩ back := by
  obtain ⟨letter, name_eq, known, base⟩ := exists_letter axis
  have same := beq_self_of_isFinite finite
  have one_scale : ((Scalar.ofNat 1 : Float) == scale) = true := by
    rw [ofNat_one]
    exact BEq.symm unscaled
  by_cases zero : (exponent == 0) = true
  · have layout : (textIn axis.name ⟨coefficient, .power, scale, some exponent⟩).toList =
        (Binary64.text coefficient).toList ++ ([] ++ []) := by
      simp [textIn, zero]
    have vanishes : (Scalar.ofNat 0 : Float) = 0 := by decide
    have exponents : ((Scalar.ofNat 0 : Float) == exponent) = true := by
      rw [vanishes]
      exact BEq.symm zero
    have passes : Equation.Passes 0 0 [] :=
      Equation.passes_of_signless rfl rfl
    exact ⟨.constant coefficient, .of_layout layout finite .missing .nothing passes
      ⟨same, rfl, one_scale, .some ⟨exponents, fun _ => vanishes⟩⟩⟩
  by_cases one : (exponent == 1) = true
  · have layout : (textIn axis.name ⟨coefficient, .power, scale, some exponent⟩).toList =
        (Binary64.text coefficient).toList ++ (['*'] ++ [letter]) := by
      simp [textIn, zero, one, name_eq]
    have exponents : ((Scalar.ofNat 1 : Float) == exponent) = true := by
      rw [ofNat_one]
      exact BEq.symm one
    exact ⟨.linear coefficient,
      .of_layout layout finite .star (.linear base) (Equation.passes_linear known 0)
        ⟨same, rfl, one_scale, .some ⟨exponents, fun vanishes => absurd vanishes zero⟩⟩⟩
  · have layout : (textIn axis.name ⟨coefficient, .power, scale, some exponent⟩).toList =
        (Binary64.text coefficient).toList ++
          (['*'] ++ ([letter] ++ '^' :: (Binary64.text exponent).toList)) := by
      simp [textIn, zero, one, name_eq]
    have exponents := beq_self_of_isFinite finite_exponent
    have degree := DegreeText.bare (numberText_text finite_exponent)
    exact ⟨.power coefficient exponent,
      .of_layout layout finite .star (.power base degree)
        (Equation.passes_power known finite_exponent)
        ⟨same, rfl, one_scale, .some ⟨exponents, fun vanishes => absurd vanishes zero⟩⟩⟩

private theorem exists_readsBack_call (finite : coefficient.isFinite = true)
    (called : operation ≠ .power) (finite_scale : scale.isFinite = true)
    (nonzero : (scale == 0) = false) (axis : Axis) :
    ∃ back, ReadsBack (textIn axis.name ⟨coefficient, operation, scale, none⟩).toList
      ⟨coefficient, operation, scale, none⟩ back := by
  obtain ⟨letter, name_eq, known, base⟩ := exists_letter axis
  obtain ⟨name, named, layout⟩ : ∃ name, OperationName name operation ∧
      (textIn axis.name ⟨coefficient, operation, scale, none⟩).toList =
        (Binary64.text coefficient).toList ++ (['*'] ++ (name ++ '(' ::
          ((Binary64.text scale).toList ++ (['*'] ++ [letter]) ++ [')']))) := by
    cases operation with
    | power => exact absurd rfl called
    | root => exact ⟨_, .root, by simp [textIn, name_eq]⟩
    | named function => exact ⟨_, .named function, by simp [textIn, name_eq]⟩
  have argument := argumentText_text finite_scale nonzero base
  exact ⟨⟨coefficient, operation, scale, none⟩,
    .of_layout layout finite .star (.call named argument)
      (Equation.passes_call named known finite_scale)
      ⟨beq_self_of_isFinite finite, rfl, beq_self_of_isFinite finite_scale, .none⟩⟩

theorem exists_readsBack {term : Term Float} (readable : term.IsReadable) (axis : Axis) :
    ∃ back, ReadsBack (term.textIn axis.name).toList term back := by
  cases readable with
  | power finite unscaled finite_exponent =>
      exact exists_readsBack_power finite unscaled finite_exponent axis
  | call finite called finite_scale nonzero =>
      exact exists_readsBack_call finite called finite_scale nonzero axis

/-- A term that is read can be read back if its numbers are finite. -/
theorem isReadable_of_termText {text : List Char} {term : Term Float} (written : TermText text term)
    (finite : term.coefficient.isFinite = true) (finite_scale : term.scale.isFinite = true) :
    term.IsReadable := by
  have unscaled : ((Scalar.ofNat 1 : Float) == 1) = true := by decide
  obtain ⟨_, _, bodied, _⟩ := written
  cases bodied with
  | nothing => exact .power finite unscaled (by decide)
  | linear => exact .power finite unscaled (by decide)
  | power _ degree =>
      refine .power finite unscaled ?_
      rcases degree with number | number <;> exact number.choose_spec.2.2
  | call named argument =>
      refine .call finite ?_ finite_scale ?_
      · cases named <;> exact Operation.noConfusion
      · obtain ⟨scaled, _, _⟩ := argument
        cases scaled with
        | numeral _ nonzero => exact nonzero
        | zero => decide
        | minus => decide
        | missing => decide

end Written

end Term

namespace Equation

/-- A term is shown with the letter `t`, which stands for either variable. The terms that reading
gives can be read back if their numbers are finite. And the texts of such terms, each in a variable
of its own and joined by plus signs, are read as the same terms in the same order. -/
theorem joined_texts_read_back :
    (∀ term : Term Float, term.textIn "t" = term.text) ∧
    (∀ (text : String) (equation : Equation Float),
      (read text : Attempt (Event Float) EquationError (Equation Float)).outcome = .ok equation →
      ∀ term ∈ equation, term.coefficient.isFinite = true → term.scale.isFinite = true →
        term.IsReadable) ∧
    ∀ terms : List (Axis × Term Float), terms ≠ [] → (∀ entry ∈ terms, entry.2.IsReadable) →
      ∃ equation, (read ("+".intercalate (terms.map fun entry => entry.2.textIn entry.1.name)) :
          Attempt (Event Float) EquationError (Equation Float)).outcome = .ok equation ∧
        List.Forall₂ Term.ReadsBackAs (terms.map Prod.snd) equation := by
  refine ⟨Term.textIn_t, ?_, ?_⟩
  · intro text equation accepted term member finite finite_scale
    obtain ⟨piece, _, read⟩ := Attempt.exists_of_mem_of_outcome_mapM accepted member
    exact Term.isReadable_of_termText (Term.termText_of_outcome_read read) finite finite_scale
  · intro terms some readable
    obtain ⟨equation, each⟩ : ∃ equation, List.Forall₂
        (fun entry back => Term.ReadsBack (entry.2.textIn entry.1.name).toList entry.2 back)
          terms equation :=
      exists_forall₂ fun entry member => Term.exists_readsBack (readable entry member) entry.1
    have pieces : separate ("+".intercalate (terms.map fun entry =>
        entry.2.textIn entry.1.name)).toList =
          terms.map fun entry => (entry.2.textIn entry.1.name).toList := by
      rw [String.toList_intercalate, List.map_map]
      refine separate_joined (by simpa using some) fun text member => ?_
      obtain ⟨entry, inside, rfl⟩ := List.mem_map.mp member
      obtain ⟨_, known⟩ := Term.exists_readsBack (readable entry inside) entry.1
      exact known.alone
    refine ⟨equation, ?_, ?_⟩
    · rw [read, pieces, Attempt.outcome_mapM_eq_ok_iff, List.forall₂_map_left_iff]
      exact each.imp fun _ _ known => Term.outcome_read_of_termText known.written
    · rw [List.forall₂_map_left_iff]
      exact each.imp fun _ _ known => known.same

theorem parabola_and_root_read_back :
    (read "2x^2-3sqrt(4x)" : Attempt (Event Float) EquationError (Equation Float)).outcome =
        .ok [.power 2 2, .root (-3) 4] ∧
      ∃ equation, (read "2*x^2+-3*sqrt(4*y)" :
          Attempt (Event Float) EquationError (Equation Float)).outcome = .ok equation ∧
        List.Forall₂ Term.ReadsBackAs [.power 2 2, .root (-3) 4] equation := by
  have accepted : (read "2x^2-3sqrt(4x)" :
      Attempt (Event Float) EquationError (Equation Float)).outcome =
        .ok [.power 2 2, .root (-3) 4] := by
    decide +kernel
  have readable := joined_texts_read_back.2.1 _ _ accepted
  have parabola := readable (.power 2 2) List.mem_cons_self (by decide +kernel) (by decide +kernel)
  have root := readable (.root (-3) 4) (List.mem_cons_of_mem _ List.mem_cons_self)
    (by decide +kernel) (by decide +kernel)
  have joined := joined_texts_read_back.2.2 [(.x, .power 2 2), (.y, .root (-3) 4)]
    (List.cons_ne_nil _ _) (by simp [parabola, root])
  have text : "+".intercalate ([(Axis.x, (.power 2 2 : Term Float)), (.y, .root (-3) 4)].map
      fun entry => entry.2.textIn entry.1.name) = "2*x^2+-3*sqrt(4*y)" := by
    decide +kernel
  rw [text] at joined
  exact ⟨accepted, joined⟩

end Equation
end PlaneRegion
