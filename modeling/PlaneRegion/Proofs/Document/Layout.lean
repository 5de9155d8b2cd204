import Mathlib.Data.List.Forall2
import PlaneRegion.Proofs.Decimal.Numeral
import PlaneRegion.Proofs.Text.Words
import PlaneRegion.Task.Document

/-!
# Written documents

The texts as which sections can be written: one title or one pair on a line, spaces and tabs
wherever they do not cut a word, line feeds with or without a carriage return, and blank lines and
comments anywhere between.
-/

namespace PlaneRegion

/-! ## Types of values

A value has the first type, of those in the order integer, number, truth value and plain text, to
which its text belongs.
-/

namespace Task

/-- The whole numbers of 64 bits, as they are written. -/
def WordText (text : List Char) (n : Int) : Prop :=
  IntegerText text n ∧ -0x8000000000000000 ≤ n ∧ n < 0x8000000000000000

/-- The value that a text denotes. -/
inductive ValueDenoted (text : List Char) : Value → Prop where
  | integer {n : Int} (word : WordText text n) : ValueDenoted text (.integer n)
  | number {numeral : Numeral} (noWord : ∀ n, ¬ WordText text n)
      (written : NumberText text numeral) :
      ValueDenoted text (.number (Binary64.ofNumeral numeral))
  | boolean {b : Bool} (noWord : ∀ n, ¬ WordText text n)
      (noNumber : ∀ numeral, ¬ NumberText text numeral)
      (written : text = (if b then "true" else "false").toList) : ValueDenoted text (.boolean b)
  | text (noWord : ∀ n, ¬ WordText text n) (noNumber : ∀ numeral, ¬ NumberText text numeral)
      (noTruth : text ≠ "true".toList ∧ text ≠ "false".toList) :
      ValueDenoted text (.text (String.ofList text))

namespace Value

theorem filter_fitsWord_eq_some_iff {text : List Char} {n : Int} :
    (readInteger text).filter fitsWord = some n ↔ WordText text n := by
  rw [Option.filter_eq_some_iff, readInteger_eq_some_iff, WordText]
  simp [fitsWord]

/-- Typing a text gives the value that it denotes. -/
theorem denoted_ofText (text : List Char) : ValueDenoted text (ofText text) := by
  rw [ofText]
  split
  · rename_i n word
    exact .integer (filter_fitsWord_eq_some_iff.mp word)
  · rename_i missing
    have noWord : ∀ n, ¬ WordText text n := by
      intro n word
      rw [filter_fitsWord_eq_some_iff.mpr word] at missing
      cases missing
    split
    · rename_i numeral read
      exact .number noWord (Numeral.read_eq_some_iff.mp read)
    · rename_i unread
      have noNumber : ∀ numeral, ¬ NumberText text numeral := by
        intro numeral written
        rw [Numeral.read_eq_some_iff.mpr written] at unread
        cases unread
      have same : ∀ word : String, String.ofList text = word ↔ text = word.toList :=
        fun word => by rw [← String.toList_inj, String.toList_ofList]
      simp only [same]
      split_ifs with yes no
      · exact .boolean (b := true) noWord noNumber yes
      · exact .boolean (b := false) noWord noNumber no
      · exact .text noWord noNumber ⟨yes, no⟩

end Value

namespace Document

/-! ## Words -/

/-- A letter or an underscore, and after it letters, digits and underscores. -/
def IsIdentifier (text : List Char) : Prop :=
  ∃ first rest, text = first :: rest ∧ isInitial first = true ∧ ∀ c ∈ rest, isWordChar c = true

theorem isWordChar_of_isInitial {c : Char} (initial : isInitial c = true) :
    isWordChar c = true := by
  simp only [isInitial, Bool.or_eq_true] at initial
  simp only [isWordChar, Char.isAlphanum, Bool.or_eq_true]
  rcases initial with letter | underscore
  · exact Or.inl (Or.inl letter)
  · exact Or.inr underscore

theorem IsIdentifier.isWordChar {text : List Char} (identifier : IsIdentifier text) :
    ∀ c ∈ text, isWordChar c = true := by
  obtain ⟨first, rest, rfl, initial, others⟩ := identifier
  intro c member
  rcases List.mem_cons.mp member with rfl | member
  · exact isWordChar_of_isInitial initial
  · exact others c member

theorem not_isBlank_of_isWordChar {c : Char} (word : isWordChar c = true) :
    Text.isBlank c = false := by
  simp only [isWordChar, Char.isAlphanum, Bool.or_eq_true, beq_iff_eq, Text.isAlpha_iff,
    Text.isDigit_iff] at word
  rcases word with word | rfl
  · simp only [Text.isBlank, Bool.or_eq_false_iff, Bool.and_eq_false_iff, decide_eq_false_iff_not,
      beq_eq_false_iff_ne]
    omega
  · decide

/-- A text without commas, semicolons and blanks, that is not empty. -/
def IsValueText (text : List Char) : Prop :=
  text ≠ [] ∧ ∀ c ∈ text, c ≠ ',' ∧ c ≠ ';' ∧ Text.isBlank c = false

/-- Any number of spaces and tabs. -/
def IsSpacing (text : List Char) : Prop :=
  ∀ c ∈ text, c = ' ' ∨ c = '\t'

/-- A pair that can be written. -/
structure RawPair.IsWritable (pair : RawPair) : Prop where
  key : IsIdentifier pair.key
  values : ∀ value ∈ pair.values, IsValueText value

/-- A section that can be written. -/
structure RawSection.IsWritable (s : RawSection) : Prop where
  title : IsIdentifier s.title
  nonempty : s.pairs ≠ []
  pairs : ∀ pair ∈ s.pairs, pair.IsWritable

/-! ## Sections -/

/-- A pair holds the key and the values of a written one. -/
structure RawPair.Denotes (raw : RawPair) (pair : Pair) : Prop where
  key : pair.key = String.ofList raw.key
  values : List.Forall₂ ValueDenoted raw.values pair.values

/-- A section holds the title and the pairs of a written one. -/
structure RawSection.Denotes (raw : RawSection) (s : Section) : Prop where
  title : s.title = String.ofList raw.title
  pairs : List.Forall₂ RawPair.Denotes raw.pairs s.pairs

theorem RawPair.denotes_toPair (raw : RawPair) : raw.Denotes raw.toPair where
  key := rfl
  values := List.forall₂_map_right_iff.mpr
    (List.forall₂_same.mpr fun value _ => Value.denoted_ofText value)

theorem RawSection.denotes_toSection (raw : RawSection) : raw.Denotes raw.toSection where
  title := rfl
  pairs := List.forall₂_map_right_iff.mpr
    (List.forall₂_same.mpr fun pair _ => pair.denotes_toPair)

/-! ## Lines -/

/-- Values that follow another one, each after a comma. -/
inductive MoreValuesText : List (List Char) → List Char → Prop where
  | nil : MoreValuesText [] []
  | cons {before after value text : List Char} {values : List (List Char)}
      (spacingBefore : IsSpacing before) (spacingAfter : IsSpacing after)
      (later : MoreValuesText values text) :
      MoreValuesText (value :: values) (before ++ ',' :: after ++ value ++ text)

/-- A list of values, which may be empty. -/
inductive ValuesText : List (List Char) → List Char → Prop where
  | nil : ValuesText [] []
  | cons {value text : List Char} {values : List (List Char)} (later : MoreValuesText values text) :
      ValuesText (value :: values) (value ++ text)

/-- What a line says. -/
inductive Entry where
  /-- A section begins. -/
  | title (name : List Char)
  /-- A pair of the section. -/
  | pair (pair : RawPair)

/-- What the lines of a section say, in order. -/
def RawSection.entries (s : RawSection) : List Entry :=
  .title s.title :: s.pairs.map .pair

/-- An entry that can be written. -/
def Entry.IsWritable : Entry → Prop
  | .title name => IsIdentifier name
  | .pair written => written.IsWritable

/-- The lines that say something. -/
inductive EntryLine : Entry → List Char → Prop where
  | title {name before after : List Char} (spacingBefore : IsSpacing before)
      (spacingAfter : IsSpacing after) : EntryLine (.title name) (before ++ name ++ after)
  | pair {pair : RawPair} {before beforeColon afterColon text after : List Char}
      (spacingBefore : IsSpacing before) (spacingBeforeColon : IsSpacing beforeColon)
      (spacingAfterColon : IsSpacing afterColon) (spacingAfter : IsSpacing after)
      (values : ValuesText pair.values text) :
      EntryLine (.pair pair)
        (before ++ pair.key ++ beforeColon ++ ':' :: afterColon ++ text ++ after)

/-- The lines that say nothing. -/
inductive SilentLine : List Char → Prop where
  | blank {line : List Char} (blank : ∀ c ∈ line, Text.isBlank c = true) : SilentLine line
  | comment {before mark text : List Char} (blank : ∀ c ∈ before, Text.isBlank c = true)
      (marked : mark ∈ [['/', '/'], ['#'], ['%']]) : SilentLine (before ++ mark ++ text)

/-- The lines that say some entries in order, with silent lines anywhere between them. -/
inductive Lines : List Entry → List (List Char) → Prop where
  | nil : Lines [] []
  | silent {line : List Char} {entries : List Entry} {lines : List (List Char)}
      (silent : SilentLine line) (single : '\n' ∉ line) (later : Lines entries lines) :
      Lines entries (line :: lines)
  | entry {entry : Entry} {line : List Char} {entries : List Entry} {lines : List (List Char)}
      (spoken : EntryLine entry line) (later : Lines entries lines) :
      Lines (entry :: entries) (line :: lines)

/-- Lines, each with its end, as one text; the last line may be without an end. -/
inductive Joined : List (List Char) → List Char → Prop where
  | nil : Joined [] []
  | last (line : List Char) : Joined [line] line
  | lineFeed {line text : List Char} {lines : List (List Char)} (later : Joined lines text) :
      Joined (line :: lines) (line ++ '\n' :: text)
  | carriageReturn {line text : List Char} {lines : List (List Char)} (later : Joined lines text) :
      Joined (line :: lines) (line ++ '\r' :: '\n' :: text)

/-- The sections are written as the text. -/
structure Written (sections : List RawSection) (text : List Char) : Prop where
  nonempty : sections ≠ []
  writable : ∀ s ∈ sections, s.IsWritable
  layout : ∃ lines, Lines (sections.flatMap RawSection.entries) lines ∧ Joined lines text

end Document
end Task
end PlaneRegion
