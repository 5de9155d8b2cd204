import PlaneRegion.Proofs.Binary64.Text
import PlaneRegion.Proofs.Task.Equations

/-!
# Texts of a task document

A value is typed before it is known whether a text is wanted, and printed again where it is one.  So
the task has the texts that are written, but numbers in the spelling in which they are printed.  An
equation that is refused as it is written becomes one that is accepted if it is a number that only
the other spelling makes a numeral.
-/

namespace PlaneRegion
namespace Task

open Document (RawSection RawPair)
open Equation (IsAccepted)
open Term (NumeralText)

/-! ## Spellings of numbers -/

/-- The text is written as numbers are printed: as a whole number of 64 bits, or, if it is none, in
the plain form of a number. -/
inductive IsPrintedNumber (text : List Char) : Prop where
  | whole {n : Int} (lower : -0x8000000000000000 ≤ n) (upper : n < 0x8000000000000000)
      (printed : text = (toString n).toList) : IsPrintedNumber text
  | number {x : Float} (noWord : ∀ n, ¬ WordText text n)
      (printed : text = (Binary64.text x).toList) : IsPrintedNumber text

/-- The text is a finite number, but no numeral: it has an exponent, or no digits behind its
point. -/
structure IsFreeNumber (text : List Char) : Prop where
  finite : ∃ value, NumberText text (.finite value) ∧ (Binary64.ofDecimal value).isFinite = true
  noNumeral : ∀ value, ¬ NumeralText Char.isDigit text value

/-- What a task has for a text that a document gives: the printed value of the text. It is the text
itself exactly if that is no number or is written as numbers are printed. It is an equation where
the text itself is none exactly if that is a finite number, but no numeral. -/
structure IsStoredAs (text : List Char) (stored : String) : Prop where
  printed : ∃ value, ValueDenoted text value ∧ stored = value.toText
  kept : stored = String.ofList text ↔
    (∀ numeral, ¬ NumberText text numeral) ∨ IsPrintedNumber text
  admitted : IsAccepted stored ∧ ¬ IsAccepted (String.ofList text) ↔ IsFreeNumber text

/-! ## Values that are printed again -/

namespace Value

variable {text : List Char}

/-- A whole number is a number. -/
theorem numeralText_of_integerText {n : Int} (written : IntegerText text n) :
    ∃ value, NumeralText Char.isDigit text value := by
  cases written with
  | positive signed whole => exact ⟨_, .whole signed whole.1 whole.2⟩
  | negative signed whole => exact ⟨_, .whole signed whole.1 whole.2⟩

theorem numberText_of_numeralText {value : Decimal}
    (written : NumeralText Char.isDigit text value) : NumberText text (.finite value) :=
  Numeral.read_eq_some_iff.mp (Term.read_of_numeralText written)

theorem ofText_of_wordText {n : Int} (word : WordText text n) : ofText text = .integer n := by
  rw [ofText, filter_fitsWord_eq_some_iff.mpr word]

theorem ofText_of_numberText {numeral : Numeral} (noWord : ∀ n, ¬ WordText text n)
    (written : NumberText text numeral) : ofText text = .number (Binary64.ofNumeral numeral) := by
  have missing : (readInteger text).filter fitsWord = none :=
    Option.eq_none_iff_forall_ne_some.mpr fun n found =>
      noWord n (filter_fitsWord_eq_some_iff.mp found)
  rw [ofText, missing, Numeral.read_eq_some_iff.mpr written]

/-- A text that is no number is printed as it is. -/
theorem toText_ofText_of_not_number (noNumber : ∀ numeral, ¬ NumberText text numeral) :
    (ofText text).toText = String.ofList text := by
  have typed := denoted_ofText text
  generalize ofText text = value at typed ⊢
  cases typed with
  | integer word =>
      obtain ⟨value, numeral⟩ := numeralText_of_integerText word.1
      exact absurd (numberText_of_numeralText numeral) (noNumber _)
  | number _ written => exact absurd written (noNumber _)
  | @boolean b _ _ same =>
      rw [same]
      cases b <;> rfl
  | text => rfl

/-- A number that is written as numbers are printed is printed as it is. -/
theorem toText_ofText_of_printed (printed : IsPrintedNumber text) :
    (ofText text).toText = String.ofList text := by
  cases printed with
  | @whole n lower upper same =>
      have word : WordText text n := ⟨same ▸ integerText_toString n, lower, upper⟩
      rw [ofText_of_wordText word, same, String.ofList_toList]
      rfl
  | @number x noWord same =>
      obtain ⟨numeral, read, number⟩ := Binary64.exists_read_text x
      rw [← same] at read
      rw [ofText_of_numberText noWord (Numeral.read_eq_some_iff.mp read), number, same,
        String.ofList_toList]
      rfl

/-- A text is printed as it is exactly if it is no number or written as numbers are printed. -/
theorem toText_ofText_eq_iff :
    (ofText text).toText = String.ofList text ↔
      (∀ numeral, ¬ NumberText text numeral) ∨ IsPrintedNumber text := by
  constructor
  · intro kept
    have typed := denoted_ofText text
    generalize ofText text = value at typed kept
    cases typed with
    | @integer n word =>
        refine .inr (.whole word.2.1 word.2.2 ?_)
        rw [← String.toList_ofList (l := text), ← kept]
        rfl
    | @number numeral noWord _ =>
        refine .inr (.number (x := Binary64.ofNumeral numeral) noWord ?_)
        rw [← String.toList_ofList (l := text), ← kept]
        rfl
    | boolean _ noNumber => exact .inl noNumber
    | text _ noNumber => exact .inl noNumber
  · rintro (noNumber | printed)
    · exact toText_ofText_of_not_number noNumber
    · exact toText_ofText_of_printed printed

/-! ## Equations that only their other spelling makes acceptable -/

theorem isAccepted_of_numeralText {value : Decimal}
    (written : NumeralText Char.isDigit text value) : IsAccepted (String.ofList text) :=
  ⟨_, Equation.outcome_read_of_numeralText written⟩

/-- A number is printed as an equation exactly if it is finite. -/
theorem isAccepted_text_iff {x : Float} : IsAccepted (Binary64.text x) ↔ x.isFinite = true := by
  rw [← String.ofList_toList (s := Binary64.text x)]
  constructor
  · intro accepted
    -- The names of the other numbers are no numerals.
    have isNumeral {numeral : Numeral}
        (read : Numeral.read (Binary64.text x).toList = some numeral) :
        ∃ value, numeral = .finite value :=
      (Equation.numeralText_of_numberText accepted (Numeral.read_eq_some_iff.mp read)).imp
        fun _ => And.left
    cases decoded : Binary64.decode x with
    | finite negative significand exponent =>
        exact Binary64.isFinite_iff.mpr ⟨negative, significand, exponent, decoded⟩
    | infinite negative =>
        obtain ⟨_, other⟩ := isNumeral (Binary64.read_text_of_infinite decoded)
        cases other
    | undefined =>
        obtain ⟨_, other⟩ := isNumeral (Binary64.read_text_of_undefined decoded)
        cases other
  · intro finite
    obtain ⟨value, written, _⟩ := Binary64.exists_numeralText_text finite
    exact isAccepted_of_numeralText written

/-- A text that is no equation is printed as one exactly if it is a finite number, but no
numeral. -/
theorem isAccepted_toText_iff :
    IsAccepted (ofText text).toText ∧ ¬ IsAccepted (String.ofList text) ↔ IsFreeNumber text := by
  constructor
  · rintro ⟨accepted, refused⟩
    have noNumeral : ∀ value, ¬ NumeralText Char.isDigit text value :=
      fun value written => refused (isAccepted_of_numeralText written)
    have changed : (ofText text).toText ≠ String.ofList text :=
      fun same => refused (same ▸ accepted)
    have typed := denoted_ofText text
    generalize same : ofText text = value at typed accepted changed
    cases typed with
    | integer word =>
        obtain ⟨value, written⟩ := numeralText_of_integerText word.1
        exact absurd written (noNumeral value)
    | @number numeral _ written =>
        have finite := isAccepted_text_iff.mp accepted
        cases numeral with
        | finite value => exact ⟨⟨value, written, finite⟩, noNumeral⟩
        | infinite negative => cases negative <;> exact absurd finite (by decide)
        | undefined => exact absurd finite (by decide)
    | boolean _ noNumber => exact absurd (same ▸ toText_ofText_of_not_number noNumber) changed
    | text _ noNumber => exact absurd rfl changed
  · rintro ⟨⟨value, written, finite⟩, noNumeral⟩
    have noWord : ∀ n, ¬ WordText text n := by
      intro n word
      obtain ⟨value, numeral⟩ := numeralText_of_integerText word.1
      exact noNumeral value numeral
    refine ⟨?_, fun accepted => ?_⟩
    · rw [ofText_of_numberText noWord written]
      exact isAccepted_text_iff.mpr finite
    · obtain ⟨value, _, numeral⟩ := Equation.numeralText_of_numberText accepted written
      exact noNumeral value numeral

theorem isStoredAs_toText (text : List Char) : IsStoredAs text (ofText text).toText :=
  ⟨⟨_, denoted_ofText text, rfl⟩, toText_ofText_eq_iff, isAccepted_toText_iff⟩

end Value

/-! ## Texts under curves and output -/

/-- The texts that a task can have for its output. -/
inductive OutputText where
  | png
  | svg
  | csv
  | logLevel

namespace OutputText

/-- The key under which it is given. -/
def key : OutputText → String
  | png => "png"
  | svg => "svg"
  | csv => "csv"
  | logLevel => "loglevel"

/-- What an output has for it. -/
def get : OutputText → Output → Option String
  | png => Output.png
  | svg => Output.svg
  | csv => Output.csv
  | logLevel => Output.logLevel

/-- The setting that it is. -/
def setting : OutputText → Setting
  | png => .png
  | svg => .svg
  | csv => .csv
  | logLevel => .logLevel

/-- The assignment that sets it. -/
def assigning : OutputText → String → Assignment
  | png => .png
  | svg => .svg
  | csv => .csv
  | logLevel => .logLevel

theorem name_setting (t : OutputText) : t.setting.name = ("output", t.key) := by
  cases t <;> rfl

theorem isIdentifier_key (t : OutputText) : Document.IsIdentifier t.key.toList := by
  cases t with
  | png => exact ⟨'p', "ng".toList, rfl, rfl, by simp [Document.isWordChar]⟩
  | svg => exact ⟨'s', "vg".toList, rfl, rfl, by simp [Document.isWordChar]⟩
  | csv => exact ⟨'c', "sv".toList, rfl, rfl, by simp [Document.isWordChar]⟩
  | logLevel => exact ⟨'l', "oglevel".toList, rfl, rfl, by simp [Document.isWordChar]⟩

/-- The last value that is given is printed. -/
theorem get_of_isLeft {t : OutputText} {task : Task} {items : List (String × Pair)}
    (left : t.setting.IsLeft standard task items) {item : String × Pair} {value : Value}
    (last : (t.setting.occurrences items).getLast? = some item) (sole : item.2.values = [value]) :
    t.get task.output = some value.toText := by
  rw [Setting.IsLeft, last] at left
  obtain ⟨other, content, values, means, got⟩ := left
  obtain rfl := List.singleton_inj.mp (values.symm.trans sole)
  cases t <;> exact means ▸ got

/-- The values of the pairs under output that give it, in order. -/
def values (t : OutputText) (sections : List RawSection) : List (List (List Char)) :=
  (sections.filter fun s => String.ofList s.title = "output").flatMap fun s =>
    (s.pairs.filter fun pair => String.ofList pair.key = t.key).map RawPair.values

/-- The pairs of one section that give it. -/
theorem occurrences_section (t : OutputText) (title : List Char) (pairs : List RawPair) :
    t.setting.occurrences (pairs.map fun pair => (String.ofList title, pair.toPair)) =
      ((if String.ofList title = "output" then pairs else []).filter
        fun pair => String.ofList pair.key = t.key).map fun pair => ("output", pair.toPair) := by
  rw [Setting.occurrences, List.filter_map, t.name_setting]
  by_cases same : String.ofList title = "output"
  · rw [if_pos same, same]
    congr 1
    refine List.filter_congr fun pair _ => ?_
    simp [RawPair.toPair]
  · rw [if_neg same]
    have none : ∀ pair ∈ pairs, ¬ (String.ofList title, pair.toPair.key) = ("output", t.key) :=
      fun pair _ named => same (congrArg Prod.fst named)
    simpa using none

/-- Its values are typed one by one. -/
theorem occurrences_toSection (t : OutputText) (sections : List RawSection) :
    (t.setting.occurrences (titledPairs (sections.map RawSection.toSection))).map (·.2.values) =
      (t.values sections).map (List.map Value.ofText) := by
  induction sections with
  | nil => rfl
  | cons s sections induction =>
      have split : titledPairs ((s :: sections).map RawSection.toSection) =
          (s.pairs.map fun pair => (String.ofList s.title, pair.toPair)) ++
            titledPairs (sections.map RawSection.toSection) := by
        simp [titledPairs, RawSection.toSection]
      have apart : t.setting.occurrences (titledPairs ((s :: sections).map RawSection.toSection)) =
          t.setting.occurrences (s.pairs.map fun pair => (String.ofList s.title, pair.toPair)) ++
            t.setting.occurrences (titledPairs (sections.map RawSection.toSection)) := by
        rw [split, Setting.occurrences, List.filter_append]
        rfl
      rw [apart, List.map_append, induction, occurrences_section]
      by_cases same : String.ofList s.title = "output"
      · simp [values, same, RawPair.toPair]
      · simp [values, same]

end OutputText

/-- Wherever the sections give the token as an equation, or as the last value of a text under
output, the task has the stored text. -/
structure Stores (task : Task) (sections : List RawSection) (token : List Char) (stored : String) :
    Prop where
  equation : ∀ (position : Nat) (key : List Char),
    (curveTexts sections)[position]? = some (key, token) →
      ∃ row, task.rows[position]? = some row ∧ row.equation = stored
  output : ∀ t : OutputText, (t.values sections).getLast? = some [token] →
    t.get task.output = some stored

/-- An accepted document stores every token as its printed value. -/
theorem stores_of_ofDocument {text : String} {sections : List RawSection} {task : Task}
    (found : Document.readRaw (Document.dropComments text.toList) = .ok sections)
    (accepted : ofDocument text = .ok task) (token : List Char) :
    task.Stores sections token (Value.ofText token).toText where
  equation := by
    intro position key given
    refine ⟨rowOfText (key, token), ?_, rfl⟩
    rw [rows_of_ofDocument found accepted, List.getElem?_map, given]
    rfl
  output := by
    intro t given
    obtain ⟨typed, read, accepted⟩ := bind_eq_ok_iff.mp accepted
    rw [Document.read, found] at read
    obtain rfl := Except.ok.inj read
    have last :
        (t.setting.occurrences (titledPairs (sections.map RawSection.toSection))).getLast?.map
          (·.2.values) = some [Value.ofText token] := by
      rw [← List.getLast?_map, t.occurrences_toSection, List.getLast?_map, given]
      rfl
    obtain ⟨item, found, sole⟩ := Option.map_eq_some_iff.mp last
    exact t.get_of_isLeft ((ofSections_eq_ok_iff.mp accepted).2.1.setting t.setting) found sole

/-! ## Documents -/

/-- A document that is written is accepted as the task of its sections. -/
theorem ofDocument_of_written {sections : List RawSection} {text : List Char}
    (written : Document.Written sections text) :
    ofDocument (String.ofList text) = ofSections (sections.map RawSection.toSection) := by
  obtain ⟨lines, entries, kept⟩ := written.dropComments
  have found := Document.readRaw_written written.nonempty written.writable entries
  rw [ofDocument, Document.read, String.toList_ofList, kept, found]
  rfl

/-- One text under output. -/
def soleOutput (t : OutputText) (token : List Char) : List RawSection :=
  [⟨"output".toList, [⟨t.key.toList, [token]⟩]⟩]

theorem written_soleOutput (t : OutputText) {token : List Char}
    (valued : Document.IsValueText token) :
    Document.Written (soleOutput t token)
      ("output".toList ++ '\n' :: (t.key.toList ++ ':' :: token)) :=
  written_sole ⟨'o', "utput".toList, rfl, rfl, by simp [Document.isWordChar]⟩ t.isIdentifier_key
    valued

/-- Every text can be given under output. -/
theorem ofSections_soleOutput (t : OutputText) (token : List Char) :
    ofSections ((soleOutput t token).map RawSection.toSection) =
      .ok (assign standard (t.assigning (Value.ofText token).toText)) := by
  have sole : (soleOutput t token).map RawSection.toSection =
      [⟨"output", [⟨t.key, [Value.ofText token]⟩]⟩] := by
    simp [soleOutput, RawSection.toSection, RawPair.toPair]
  rw [sole]
  cases t <;> exact ofSections_sole rfl rfl rfl

/-- A document can give every token as an equation or as a text under output. It is stored as it is
written exactly if it is no number or is written as numbers are printed; and a token that is refused
as an equation is stored as one that is accepted exactly if it is a finite number, but no
numeral. -/
theorem token_stored_iff (token : List Char) (valued : Document.IsValueText token) :
    ∃ stored, IsStoredAs token stored ∧
      (∀ (text : String) (sections : List RawSection) (task : Task),
        Document.readRaw (Document.dropComments text.toList) = .ok sections →
        ofDocument text = .ok task → task.Stores sections token stored) ∧
      (∀ key, Document.IsIdentifier key → ∃ (text : List Char) (task : Task),
        Document.Written (soleCurve key token) text ∧ ofDocument (String.ofList text) = .ok task) ∧
      ∀ t : OutputText, ∃ (text : List Char) (task : Task),
        Document.Written (soleOutput t token) text ∧
        ofDocument (String.ofList text) = .ok task := by
  refine ⟨(Value.ofText token).toText, Value.isStoredAs_toText token, ?_, ?_, ?_⟩
  · exact fun text sections task found accepted => stores_of_ofDocument found accepted token
  · intro key named
    have written := written_soleCurve named valued
    exact ⟨_, _, written, (ofDocument_of_written written).trans (ofSections_curves _)⟩
  · intro t
    have written := written_soleOutput t valued
    exact ⟨_, _, written, (ofDocument_of_written written).trans (ofSections_soleOutput t token)⟩

theorem isValueText_exponent : Document.IsValueText "1e3".toList := by
  simp [Document.IsValueText, Text.isBlank]

/-- A number with an exponent can be given in each place. -/
theorem exponent_stored :
    Document.IsValueText "1e3".toList ∧ ∃ stored, IsStoredAs "1e3".toList stored ∧
      (∀ (text : String) (sections : List RawSection) (task : Task),
        Document.readRaw (Document.dropComments text.toList) = .ok sections →
        ofDocument text = .ok task → task.Stores sections "1e3".toList stored) ∧
      (∀ key, Document.IsIdentifier key → ∃ (text : List Char) (task : Task),
        Document.Written (soleCurve key "1e3".toList) text ∧
        ofDocument (String.ofList text) = .ok task) ∧
      ∀ t : OutputText, ∃ (text : List Char) (task : Task),
        Document.Written (soleOutput t "1e3".toList) text ∧
        ofDocument (String.ofList text) = .ok task :=
  ⟨isValueText_exponent, token_stored_iff _ isValueText_exponent⟩

/-- An equation with an exponent, and a path of digits with zeros in front. -/
def oddText : String :=
  "curves\ny: 1e3\noutput\ncsv: 007"

/-- The sections of the text as they are written. -/
def oddSections : List RawSection :=
  [⟨"curves".toList, [⟨['y'], ["1e3".toList]⟩]⟩,
    ⟨"output".toList, [⟨"csv".toList, ["007".toList]⟩]⟩]

/-- The task that it describes. -/
def oddTask : Task :=
  { standard with
    rows := [⟨"y", "1000"⟩]
    output := ⟨none, none, some "7", none, false⟩ }

theorem readRaw_oddText :
    Document.readRaw (Document.dropComments oddText.toList) = .ok oddSections := by
  cbv

theorem ofDocument_oddText : ofDocument oddText = .ok oddTask := by
  rw [ofDocument, Document.read, readRaw_oddText]
  decide +kernel

/-- A number with an exponent is refused as an equation, but becomes one in a document, and a path
loses its zeros. -/
theorem exists_changed_texts :
    ∃ (sections : List RawSection) (task : Task),
      Document.readRaw (Document.dropComments oddText.toList) = .ok sections ∧
      curveTexts sections = [(['y'], "1e3".toList)] ∧
      OutputText.csv.values sections = [["007".toList]] ∧
      ofDocument oddText = .ok task ∧ task.rows = [⟨"y", "1000"⟩] ∧ task.output.csv = some "7" ∧
      ¬ IsAccepted "1e3" ∧ IsAccepted "1000" := by
  refine ⟨oddSections, oddTask, readRaw_oddText, by decide, by decide, ofDocument_oddText, rfl, rfl,
    ?_, ?_⟩
  · rintro ⟨equation, read⟩
    have refused : (Equation.read "1e3" :
        Attempt (Event Float) EquationError (Equation Float)).outcome = .error ⟨"1e3"⟩ := by
      decide +kernel
    cases refused.symm.trans read
  · exact ⟨[.constant 1000], by decide +kernel⟩

end Task
end PlaneRegion
