import PlaneRegion.Proofs.Document.RoundTrip
import PlaneRegion.Proofs.Equation.Numeral
import PlaneRegion.Proofs.Task.Meaning

/-!
# Equations in a task document

The values under curves are typed and printed again before they become rows.  That changes the
text of numbers only, and a number that is an equation is a numeral, so that every equation reads as
the same terms as before.
-/

namespace PlaneRegion
namespace Task

open Document (RawSection RawPair)
open Term (NumeralText)

/-! ## Values -/

/-- A whole number is printed as a numeral. -/
theorem numeralText_toString (n : Int) :
    NumeralText Char.isDigit (toString n).toList ⟨decide (n < 0), n.natAbs, 0⟩ := by
  obtain ⟨sign, digits, layout, signed, whole, value⟩ := exists_digits_toString n
  rw [layout, ← value]
  exact .whole signed whole.1 whole.2

/-- Numerals of the same whole number are numerically equal, be they of negative or positive
zeros. -/
theorem beq_ofDecimal_of_signed {negative other : Bool} {digits : Nat}
    (same : digits ≠ 0 → negative = other)
    (finite : (Binary64.ofDecimal ⟨negative, digits, 0⟩).isFinite = true) :
    (Binary64.ofDecimal ⟨other, digits, 0⟩ == Binary64.ofDecimal ⟨negative, digits, 0⟩) =
      true := by
  by_cases zero : digits = 0
  · subst zero
    cases negative <;> cases other <;> decide
  · rw [same zero] at finite ⊢
    exact Term.beq_self_of_isFinite finite

/-- The text reads as terms that agree with those of the equation. -/
def IsPrintedAs (equation : Equation Float) (text : String) : Prop :=
  ∃ back, (Equation.read text :
      Attempt (Event Float) EquationError (Equation Float)).outcome = .ok back ∧
    List.Forall₂ Term.AgreesWith equation back

/-- An equation that is written as a numeral is printed as any numeral whose value is numerically
equal. -/
theorem isPrintedAs_of_numeralText {token text : List Char} {value other : Decimal}
    {equation : Equation Float} (written : NumeralText Char.isDigit token value)
    (reads : (Equation.read (String.ofList token) :
      Attempt (Event Float) EquationError (Equation Float)).outcome = .ok equation)
    (finite : ∀ term ∈ equation, term.coefficient.isFinite = true)
    (printed : NumeralText Char.isDigit text other)
    (same : (Binary64.ofDecimal value).isFinite = true →
      (Binary64.ofDecimal other == Binary64.ofDecimal value) = true) :
    IsPrintedAs equation (String.ofList text) := by
  obtain rfl := Except.ok.inj ((Equation.outcome_read_of_numeralText written).symm.trans reads)
  have known := finite (.constant (Binary64.ofDecimal value)) List.mem_cons_self
  exact ⟨_, Equation.outcome_read_of_numeralText printed,
    .cons (Term.agreesWith_constant (same known)) .nil⟩

/-- A value that is an equation with finite coefficients is printed as an equation whose terms agree
with those that are written. -/
theorem Value.isPrintedAs_toText {token : List Char} {equation : Equation Float}
    (reads : (Equation.read (String.ofList token) :
      Attempt (Event Float) EquationError (Equation Float)).outcome = .ok equation)
    (finite : ∀ term ∈ equation, term.coefficient.isFinite = true) :
    IsPrintedAs equation (ofText token).toText := by
  have unchanged (same : (ofText token).toText = String.ofList token) :
      IsPrintedAs equation (ofText token).toText := by
    refine ⟨equation, same ▸ reads, List.forall₂_same.mpr fun term member => ?_⟩
    obtain ⟨piece, _, read⟩ := Attempt.exists_of_mem_of_outcome_mapM reads member
    exact Term.agreesWith_self (Term.termText_of_outcome_read read) (finite term member)
  have typed := denoted_ofText token
  generalize ofText token = value at typed unchanged ⊢
  cases typed with
  | @integer n word =>
      obtain ⟨written, -⟩ := word
      have printed := numeralText_toString n
      rw [← String.ofList_toList (s := Value.toText (.integer n))]
      cases written with
      | positive signed whole =>
          rw [Int.natAbs_natCast] at printed
          exact isPrintedAs_of_numeralText (.whole signed whole.1 whole.2) reads finite printed
            (beq_ofDecimal_of_signed fun _ => (decide_eq_false (by omega)).symm)
      | negative signed whole =>
          rw [Int.natAbs_neg, Int.natAbs_natCast] at printed
          exact isPrintedAs_of_numeralText (.whole signed whole.1 whole.2) reads finite printed
            (beq_ofDecimal_of_signed fun some => (decide_eq_true (by omega)).symm)
  | @number numeral noWord written =>
      obtain ⟨value, rfl, numeral⟩ := Equation.numeralText_of_numberText ⟨equation, reads⟩ written
      have known : (Binary64.ofDecimal value).isFinite = true := by
        have terms := Equation.outcome_read_of_numeralText numeral
        obtain rfl := Except.ok.inj (terms.symm.trans reads)
        exact finite (.constant (Binary64.ofDecimal value)) List.mem_cons_self
      obtain ⟨other, printed, same⟩ := Binary64.exists_numeralText_text known
      rw [← String.ofList_toList (s := Value.toText _)]
      refine isPrintedAs_of_numeralText numeral reads finite printed fun _ => ?_
      rw [same]
      exact Term.beq_self_of_isFinite known
  | @boolean b _ _ same =>
      apply unchanged
      rw [same]
      cases b <;> rfl
  | text => exact unchanged rfl

/-! ## Rows -/

/-- The texts of a pair, each with the key; no values count as one empty text. -/
def pairTexts (pair : RawPair) : List (List Char × List Char) :=
  (if pair.values = [] then [[]] else pair.values).map fun text => (pair.key, text)

/-- The texts under curves in order. -/
def curveTexts (sections : List RawSection) : List (List Char × List Char) :=
  (sections.filter fun s => String.ofList s.title = "curves").flatMap fun s =>
    s.pairs.flatMap pairTexts

/-- The row of a text under curves: its tag is the key, its equation is the typed text printed
again, and that agrees with the text if it is an equation with finite coefficients. -/
structure KeepsEquation (item : List Char × List Char) (row : Row) : Prop where
  tag : row.tag = String.ofList item.1
  printed : ∃ value, ValueDenoted item.2 value ∧ row.equation = value.toText
  equation : ∀ equation : Equation Float,
    (Equation.read (String.ofList item.2) :
      Attempt (Event Float) EquationError (Equation Float)).outcome = .ok equation →
    (∀ term ∈ equation, term.coefficient.isFinite = true) →
    ∃ back, row.ReadsAs back ∧ List.Forall₂ Term.AgreesWith equation back

/-- The row that a text under curves becomes. -/
def rowOfText (item : List Char × List Char) : Row :=
  ⟨String.ofList item.1, (Value.ofText item.2).toText⟩

theorem keepsEquation_rowOfText (item : List Char × List Char) :
    KeepsEquation item (rowOfText item) :=
  ⟨rfl, ⟨_, Value.denoted_ofText item.2, rfl⟩,
    fun _ reads finite => Value.isPrintedAs_toText reads finite⟩

theorem rowsOf_toPair (pair : RawPair) :
    rowsOf pair.toPair = (pairTexts pair).map rowOfText := by
  obtain ⟨key, values⟩ := pair
  cases values with
  | nil => rfl
  | cons value values =>
      rw [pairTexts, if_neg (List.cons_ne_nil _ _), List.map_map]
      exact List.map_map

theorem rowsUnder_toSection (sections : List RawSection) :
    rowsUnder (titledPairs (sections.map RawSection.toSection)) =
      (curveTexts sections).map rowOfText := by
  induction sections with
  | nil => rfl
  | cons s sections induction =>
      have split : rowsUnder (titledPairs ((s :: sections).map RawSection.toSection)) =
          rowsUnder (s.toSection.pairs.map fun pair => (String.ofList s.title, pair)) ++
            rowsUnder (titledPairs (sections.map RawSection.toSection)) :=
        rowsUnder_append _ _
      rw [split, induction, rowsUnder_section, curveTexts, curveTexts]
      by_cases curves : String.ofList s.title = "curves"
      · have own : s.toSection.pairs.flatMap rowsOf =
            (s.pairs.flatMap pairTexts).map rowOfText := by
          rw [List.map_flatMap, RawSection.toSection, List.flatMap_map]
          simp only [rowsOf_toPair]
        rw [if_pos curves, own, List.filter_cons_of_pos (by simpa using curves), List.flatMap_cons,
          List.map_append]
      · rw [if_neg curves, List.filter_cons_of_neg (by simpa using curves), List.nil_append]

/-- An accepted document has the rows of the texts under curves. -/
theorem rows_of_ofDocument {text : String} {sections : List RawSection} {task : Task}
    (found : Document.readRaw (Document.dropComments text.toList) = .ok sections)
    (accepted : ofDocument text = .ok task) :
    task.rows = (curveTexts sections).map rowOfText := by
  obtain ⟨typed, read, described⟩ := bind_eq_ok_iff.mp accepted
  rw [Document.read, found] at read
  obtain rfl := Except.ok.inj read
  rw [(isDescribedBy_iff.mp (ofSections_eq_ok_iff.mp described).2.1).2]
  exact rowsUnder_toSection sections

/-- A document of one pair is accepted if the pair sets something else than the viewport and the
sampling. -/
theorem ofSections_sole {title : String} {pair : Pair} {assigned : Assignment}
    (accepted : assignment title pair = .ok assigned)
    (viewport : (assign standard assigned).viewport = .standard)
    (sampling : (assign standard assigned).sampling = .standard) :
    ofSections [⟨title, [pair]⟩] = .ok (assign standard assigned) := by
  have run : ofSections [⟨title, [pair]⟩] = checked (assign standard assigned) := by
    simp [ofSections, assignments, accepted]
    rfl
  rw [run, checked_eq_ok_iff, viewport, sampling]
  exact ⟨rfl, by decide, by decide⟩

/-- A document with curves only is accepted. -/
theorem ofSections_curves (pair : Pair) :
    ofSections [⟨"curves", [pair]⟩] = .ok { standard with rows := rowsOf pair } :=
  @ofSections_sole "curves" pair (.rows (rowsOf pair)) rfl rfl rfl

/-- One text under curves. -/
def soleCurve (key token : List Char) : List RawSection :=
  [⟨"curves".toList, [⟨key, [token]⟩]⟩]

/-- A title, a key and a value are written on two lines. -/
theorem written_sole {title key token : List Char} (titled : Document.IsIdentifier title)
    (named : Document.IsIdentifier key) (valued : Document.IsValueText token) :
    Document.Written [⟨title, [⟨key, [token]⟩]⟩] (title ++ '\n' :: (key ++ ':' :: token)) where
  nonempty := List.cons_ne_nil _ _
  writable := by
    refine List.forall_mem_singleton.mpr ⟨titled, List.cons_ne_nil _ _, ?_⟩
    exact List.forall_mem_singleton.mpr ⟨named, List.forall_mem_singleton.mpr valued⟩
  layout := by
    have nothing : Document.IsSpacing [] := by simp [Document.IsSpacing]
    have first : Document.EntryLine (.title title) title := by
      simpa using @Document.EntryLine.title title [] [] nothing nothing
    have pair : Document.EntryLine (.pair ⟨key, [token]⟩) (key ++ ':' :: token) := by
      simpa using @Document.EntryLine.pair ⟨key, [token]⟩ [] [] [] _ [] nothing nothing nothing
        nothing (.cons .nil)
    exact ⟨_, .entry first (.entry pair .nil), .lineFeed (.last _)⟩

theorem written_soleCurve {key token : List Char} (named : Document.IsIdentifier key)
    (valued : Document.IsValueText token) :
    Document.Written (soleCurve key token) ("curves".toList ++ '\n' :: (key ++ ':' :: token)) :=
  written_sole ⟨'c', "urves".toList, rfl, rfl, by simp [Document.isWordChar]⟩ named valued

/-- The rows of a task have the equations that are written under curves: each agrees with its text
if that is an equation with finite coefficients. And every such text, under any key, is a row of the
document that says nothing else. -/
theorem rows_keep_equations :
    (∀ (text : String) (sections : List RawSection) (task : Task),
      Document.readRaw (Document.dropComments text.toList) = .ok sections →
      ofDocument text = .ok task → List.Forall₂ KeepsEquation (curveTexts sections) task.rows) ∧
    ∀ key token : List Char, Document.IsIdentifier key → Document.IsValueText token →
      ∃ (text : List Char) (task : Task) (row : Row),
        Document.Written (soleCurve key token) text ∧
        ofDocument (String.ofList text) = .ok task ∧ task.rows = [row] ∧
        KeepsEquation (key, token) row := by
  constructor
  · intro text sections task found accepted
    rw [rows_of_ofDocument found accepted, List.forall₂_map_right_iff]
    exact List.forall₂_same.mpr fun item _ => keepsEquation_rowOfText item
  · intro key token named valued
    have written := written_soleCurve named valued
    obtain ⟨lines, entries, kept⟩ := written.dropComments
    have found := Document.readRaw_written written.nonempty written.writable entries
    have typed : (soleCurve key token).map RawSection.toSection =
        [⟨"curves", [⟨String.ofList key, [Value.ofText token]⟩]⟩] := rfl
    have accepted := ofSections_curves ⟨String.ofList key, [Value.ofText token]⟩
    refine ⟨_, _, rowOfText (key, token), written, bind_eq_ok_iff.mpr ⟨_, ?_, accepted⟩, rfl,
      keepsEquation_rowOfText _⟩
    rw [Document.read, String.toList_ofList, kept, found, ← typed]
    rfl

/-- A number with a plus sign and idle zeros is printed without them, and reads the same. -/
theorem padded_number_keeps_equation :
    (Equation.read (String.ofList "+007.50".toList) :
        Attempt (Event Float) EquationError (Equation Float)).outcome = .ok [.constant 7.5] ∧
      ∃ (text : List Char) (task : Task) (row : Row) (back : Equation Float),
        Document.Written (soleCurve ['y'] "+007.50".toList) text ∧
        ofDocument (String.ofList text) = .ok task ∧ task.rows = [row] ∧
        row.ReadsAs back ∧ List.Forall₂ Term.AgreesWith [.constant 7.5] back := by
  have reads : (Equation.read (String.ofList "+007.50".toList) :
      Attempt (Event Float) EquationError (Equation Float)).outcome = .ok [.constant 7.5] := by
    decide +kernel
  have finite : ∀ term ∈ [(.constant 7.5 : Term Float)], term.coefficient.isFinite = true :=
    List.forall_mem_singleton.mpr (by decide)
  obtain ⟨text, task, row, written, accepted, sole, kept⟩ := rows_keep_equations.2 ['y']
    "+007.50".toList ⟨'y', [], rfl, rfl, by simp⟩ ⟨by simp, by simp [Text.isBlank]⟩
  obtain ⟨back, again, agrees⟩ := kept.equation _ reads finite
  exact ⟨reads, text, task, row, back, written, accepted, sole, again, agrees⟩

end Task
end PlaneRegion
