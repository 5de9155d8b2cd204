import PlaneRegion.Binary64.Text
import PlaneRegion.Text.Character
import PlaneRegion.Text.Quoted

/-!
# Task documents

A document is a list of sections, each a title and at least one pair of a key and a list of values.
Titles and keys are identifiers, a colon follows a key, and commas separate values.  A pair may
begin on the line of the one before it, but the values of a key stay on one line.  Comment lines and
blank lines are removed beforehand.
-/

namespace PlaneRegion

/-! ## Values of a task document

A value is typed by its text: as a 64-bit integer, else as a number, else as a truth value, else as
plain text.
-/

namespace Task

/-- A typed value. -/
inductive Value where
  /-- A whole number of 64 bits. -/
  | integer (n : Int)
  | number (x : Float)
  | boolean (b : Bool)
  | text (s : String)
  deriving DecidableEq, Repr

namespace Value

/-- The whole numbers of 64 bits. -/
def fitsWord (n : Int) : Bool :=
  -0x8000000000000000 ≤ n && n < 0x8000000000000000

/-- Type a text. -/
def ofText (text : List Char) : Value :=
  match (readInteger text).filter fitsWord with
  | some n => integer n
  | none =>
      match Numeral.read text with
      | some numeral => number (Binary64.ofNumeral numeral)
      | none =>
          let word := String.ofList text
          if word = "true" then boolean true
          else if word = "false" then boolean false
          else .text word

/-- The text of a value. -/
def toText : Value → String
  | integer n => toString n
  | number x => Binary64.text x
  | boolean true => "true"
  | boolean false => "false"
  | text s => s

/-- A value as a number; integers are numbers too. -/
def asNumber? : Value → Option Float
  | number x => some x
  | integer n => some (Binary64.ofInt n)
  | _ => none

/-- A value as a whole number. -/
def asInteger? : Value → Option Int
  | integer n => some n
  | _ => none

/-- A value as a truth value. -/
def asBoolean? : Value → Option Bool
  | boolean b => some b
  | _ => none

end Value

/-! ## Sections of a document -/

/-- A key with its values in order. -/
structure Pair where
  key : String
  values : List Value
  deriving DecidableEq, Repr

/-- A title with its pairs in order; a key may occur more than once. -/
structure Section where
  title : String
  pairs : List Pair
  deriving DecidableEq, Repr

/-- The values of the first pair with a key. -/
def Section.find? (s : Section) (key : String) : Option (List Value) :=
  (s.pairs.find? fun pair => pair.key == key).map Pair.values

/-- Why a text is no document. -/
inductive DocumentError where
  /-- The first section breaks off where an identifier or a colon has to stand. -/
  | noSection (rest : String)
  /-- What follows the last section is none. -/
  | leftover (rest : String)
  deriving DecidableEq, Repr

/-- The text of a document error. -/
def DocumentError.message : DocumentError → String
  | noSection rest =>
      "Parsing error: Error(Error \x7b input: " ++ Text.quoted rest ++ ", code: Tag \x7d)"
  | leftover rest => "Failed to parse entire document. Remaining: '" ++ rest ++ "'"

namespace Document

/-- A line without the carriage return before its line feed. -/
def dropReturn (line : List Char) : List Char :=
  if line.getLast? = some '\r' then line.dropLast else line

/-- The lines of a text. -/
def lines (text : List Char) : List (List Char) :=
  let pieces := text.splitOn '\n'
  pieces.dropLast.map dropReturn ++ pieces.getLast?.toList

/-- A line that says nothing: a blank one, or a comment after `//`, `#` or `%`. -/
def isSilent (line : List Char) : Bool :=
  match Text.trim line with
  | [] => true
  | '#' :: _ => true
  | '%' :: _ => true
  | '/' :: '/' :: _ => true
  | _ => false

/-- A text without its silent lines. -/
def dropComments (text : List Char) : List Char :=
  ['\n'].intercalate ((lines text).filter fun line => !isSilent line)

/-- Drop the spaces and tabs that a text begins with. -/
def skipSpaces (text : List Char) : List Char :=
  text.dropWhile fun c => c == ' ' || c == '\t'

/-- A character that an identifier may begin with. -/
def isInitial (c : Char) : Bool :=
  c.isAlpha || c == '_'

/-- A character that an identifier may go on with. -/
def isWordChar (c : Char) : Bool :=
  c.isAlphanum || c == '_'

/-- A character that a value may hold. -/
def isValueChar (c : Char) : Bool :=
  !(c == ',' || c == ' ' || c == '\t' || c == '\n' || c == '\r' || c == ';')

/-- The identifier that a text begins with, and the rest. -/
def readIdentifier : List Char → Option (List Char × List Char)
  | c :: rest =>
      if isInitial c then some (c :: rest.takeWhile isWordChar, rest.dropWhile isWordChar)
      else none
  | [] => none

/-- What follows a comma, if one comes next but for spaces. -/
def afterComma (text : List Char) : Option (List Char) :=
  match skipSpaces text with
  | ',' :: rest => some (skipSpaces rest)
  | _ => none

theorem length_skipSpaces_le (text : List Char) : (skipSpaces text).length ≤ text.length :=
  (List.dropWhile_suffix _).length_le

theorem length_afterComma_lt {text rest : List Char} (h : afterComma text = some rest) :
    rest.length < text.length := by
  unfold afterComma at h
  split at h
  · rename_i tail spaces
    cases h
    have before := length_skipSpaces_le text
    have after := length_skipSpaces_le tail
    rw [spaces, List.length_cons] at before
    omega
  · cases h

theorem length_dropWhile_le (p : Char → Bool) (text : List Char) :
    (text.dropWhile p).length ≤ text.length :=
  (List.dropWhile_suffix _).length_le

/-- The texts of further values, each after a comma, and the rest.  A comma without a value belongs
to the rest. -/
def readMoreValues (text : List Char) : List (List Char) × List Char :=
  match _h : afterComma text with
  | some after =>
      if (after.takeWhile isValueChar).isEmpty then ([], text)
      else
        let (values, rest) := readMoreValues (after.dropWhile isValueChar)
        (after.takeWhile isValueChar :: values, rest)
  | none => ([], text)
termination_by text.length
decreasing_by
  exact Nat.lt_of_le_of_lt (length_dropWhile_le _ _) (length_afterComma_lt _h)

/-- The texts of a list of values, and the rest; the list may be empty. -/
def readValues (text : List Char) : List (List Char) × List Char :=
  if (text.takeWhile isValueChar).isEmpty then ([], text)
  else
    let (values, rest) := readMoreValues (text.dropWhile isValueChar)
    (text.takeWhile isValueChar :: values, rest)

/-- A key and the texts of its values, as they are written. -/
structure RawPair where
  key : List Char
  values : List (List Char)
  deriving DecidableEq, Repr

/-- The pair that a text begins with, and the rest without the blanks around it.  A failure tells
where an identifier or a colon is missing. -/
def readPair (text : List Char) : Except (List Char) (RawPair × List Char) :=
  match readIdentifier text with
  | none => .error text
  | some (key, rest) =>
      match skipSpaces rest with
      | ':' :: after =>
          let values := readValues (skipSpaces after)
          .ok (⟨key, values.1⟩, Text.trim values.2)
      | rest => .error rest

/-- A title and its pairs, as they are written. -/
structure RawSection where
  title : List Char
  pairs : List RawPair
  deriving DecidableEq, Repr

theorem length_readIdentifier_lt {text name rest : List Char}
    (h : readIdentifier text = some (name, rest)) : rest.length < text.length := by
  unfold readIdentifier at h
  split at h
  · split at h
    · cases h
      exact Nat.lt_succ_of_le (length_dropWhile_le _ _)
    · cases h
  · cases h

theorem length_readMoreValues_le (text : List Char) :
    (readMoreValues text).2.length ≤ text.length := by
  fun_induction readMoreValues text with
  | case1 => exact Nat.le_refl _
  | case2 text after h _ values rest found ih =>
    have comma := length_afterComma_lt h
    have value := length_dropWhile_le isValueChar after
    rw [found] at ih
    exact Nat.le_trans ih (by omega)
  | case3 => exact Nat.le_refl _

theorem length_readValues_le (text : List Char) : (readValues text).2.length ≤ text.length := by
  unfold readValues
  split
  · exact Nat.le_refl _
  · exact Nat.le_trans (length_readMoreValues_le _) (length_dropWhile_le _ _)

theorem length_trim_le (text : List Char) : (Text.trim text).length ≤ text.length := by
  unfold Text.trim Text.trimEnd
  have inner := length_dropWhile_le Text.isBlank (text.dropWhile Text.isBlank).reverse
  have outer := length_dropWhile_le Text.isBlank text
  rw [List.length_reverse] at inner ⊢
  omega

theorem length_readPair_lt {text rest : List Char} {pair : RawPair}
    (h : readPair text = .ok (pair, rest)) : rest.length < text.length := by
  unfold readPair at h
  split at h
  · cases h
  · rename_i key afterKey found
    split at h
    · rename_i after spaces
      cases h
      have name := length_readIdentifier_lt found
      have colon := length_skipSpaces_le afterKey
      rw [spaces, List.length_cons] at colon
      have values := length_readValues_le (skipSpaces after)
      have space := length_skipSpaces_le after
      have ends := length_trim_le (readValues (skipSpaces after)).2
      omega
    · cases h

/-- The pairs that a text begins with, and the rest. -/
def readPairs (text : List Char) : List RawPair × List Char :=
  match _h : readPair text with
  | .ok (pair, rest) =>
      let (pairs, final) := readPairs rest
      (pair :: pairs, final)
  | .error _ => ([], text)
termination_by text.length
decreasing_by exact length_readPair_lt _h

theorem length_readPairs_le (text : List Char) : (readPairs text).2.length ≤ text.length := by
  fun_induction readPairs text with
  | case1 text pair rest h pairs final found ih =>
    have shorter := length_readPair_lt h
    rw [found] at ih
    exact Nat.le_trans ih (Nat.le_of_lt shorter)
  | case2 => exact Nat.le_refl _

/-- The section that a text begins with, and the rest.  A failure tells where an identifier or a
colon is missing. -/
def readSection (text : List Char) : Except (List Char) (RawSection × List Char) :=
  let text := skipSpaces text
  match readIdentifier text with
  | none => .error text
  | some (title, rest) =>
      match readPair (Text.trim rest) with
      | .error rest => .error rest
      | .ok (pair, rest) =>
          let pairs := readPairs rest
          .ok (⟨title, pair :: pairs.1⟩, pairs.2)

theorem length_readSection_lt {text rest : List Char} {found : RawSection}
    (h : readSection text = .ok (found, rest)) : rest.length < text.length := by
  unfold readSection at h
  simp only at h
  split at h
  · cases h
  · rename_i title afterTitle identifier
    split at h
    · cases h
    · rename_i pair afterPair first
      cases h
      have spaces := length_skipSpaces_le text
      have name := length_readIdentifier_lt identifier
      have ends := length_trim_le afterTitle
      have shorter := length_readPair_lt first
      have more := length_readPairs_le afterPair
      omega

/-- The sections that a text begins with, and the rest. -/
def readSections (text : List Char) : List RawSection × List Char :=
  match _h : readSection text with
  | .ok (found, rest) =>
      let (later, final) := readSections rest
      (found :: later, final)
  | .error _ => ([], text)
termination_by text.length
decreasing_by exact length_readSection_lt _h

/-- The sections of a document without comments, as they are written. -/
def readRaw (text : List Char) : Except DocumentError (List RawSection) :=
  match readSection text with
  | .error rest => .error (.noSection (String.ofList rest))
  | .ok (first, rest) =>
      let later := readSections rest
      if Text.isAllBlank later.2 then .ok (first :: later.1)
      else .error (.leftover (String.ofList later.2))

/-- A pair with typed values. -/
def RawPair.toPair (pair : RawPair) : Pair :=
  ⟨String.ofList pair.key, pair.values.map Value.ofText⟩

/-- A section with typed values. -/
def RawSection.toSection (s : RawSection) : Section :=
  ⟨String.ofList s.title, s.pairs.map RawPair.toPair⟩

/-- The sections of a document. -/
def read (text : String) : Except DocumentError (List Section) :=
  (readRaw (dropComments text.toList)).map (·.map RawSection.toSection)

end Document
end Task
end PlaneRegion
