import PlaneRegion.Proofs.Document.Lines
import PlaneRegion.Proofs.Text.Words

/-!
# Reading one entry

A title or a pair that stands at the beginning of a text is read as it was written, if its line
ends behind it. Values are looked for on that line only, so an empty list of values takes nothing
from the next one, and a title, whose line ends where a key has its colon, is no pair.
-/

namespace PlaneRegion
namespace Task
namespace Document

/-! ## Ends of words and of lines -/

/-- But for spaces and tabs, the line is over. -/
def EndsLine (text : List Char) : Prop :=
  skipSpaces text = [] ∨ ∃ rest, skipSpaces text = '\n' :: rest

theorem EndsLine.append_left {before text : List Char} (spacing : IsSpacing before)
    (ends : EndsLine text) : EndsLine (before ++ text) := by
  rwa [EndsLine, skipSpaces_append spacing]

theorem endsLine_skipSpaces {text : List Char} (ends : EndsLine text) :
    EndsLine (skipSpaces text) := by
  rcases ends with nothing | ⟨rest, next⟩
  · rw [nothing]
    exact Or.inl rfl
  · rw [next]
    exact Or.inr ⟨rest, rfl⟩

theorem EndsLine.of_append {text after : List Char} (ends : EndsLine (text ++ after)) :
    EndsLine text := by
  rw [EndsLine, skipSpaces_append_right] at ends
  rw [EndsLine]
  cases left : skipSpaces text with
  | nil => exact Or.inl rfl
  | cons c rest =>
      rw [left] at ends
      rcases ends with nothing | ⟨others, same⟩
      · cases nothing
      · cases same
        exact Or.inr ⟨rest, rfl⟩

/-- Trimming a text at its end does not bring anything to the end of its first line. -/
theorem EndsLine.trimEnd {text : List Char} (ends : EndsLine text) :
    EndsLine (Text.trimEnd text) := by
  have split : Text.trimEnd text ++ text.rtakeWhile Text.isBlank = text :=
    List.rdropWhile_append_rtakeWhile
  exact EndsLine.of_append (split.symm ▸ ends)

/-- A word of characters to which spaces and tabs do not belong is over before them. -/
theorem takeWhile_spacing_append {p : Char → Bool} (space : p ' ' = false) (tab : p '\t' = false)
    {before text : List Char} (spacing : IsSpacing before) (ended : text.takeWhile p = []) :
    (before ++ text).takeWhile p = [] := by
  cases before with
  | nil => exact ended
  | cons c before =>
      apply List.takeWhile_cons_of_neg
      rcases spacing c List.mem_cons_self with rfl | rfl
      · simp [space]
      · simp [tab]

theorem EndsLine.takeWhile {p : Char → Bool} (space : p ' ' = false) (tab : p '\t' = false)
    (lineFeed : p '\n' = false) {text : List Char} (ends : EndsLine text) :
    text.takeWhile p = [] := by
  obtain ⟨before, spacing, split⟩ := exists_skipSpaces text
  rw [split]
  apply takeWhile_spacing_append space tab spacing
  rcases ends with nothing | ⟨rest, next⟩
  · rw [nothing, List.takeWhile_nil]
  · rw [next, List.takeWhile_cons_of_neg (by simp [lineFeed])]

theorem EndsLine.takeWhile_isWordChar {text : List Char} (ends : EndsLine text) :
    text.takeWhile isWordChar = [] :=
  ends.takeWhile (by decide) (by decide) (by decide)

theorem EndsLine.takeWhile_isValueChar {text : List Char} (ends : EndsLine text) :
    text.takeWhile isValueChar = [] :=
  ends.takeWhile (by decide) (by decide) (by decide)

/-! ## Words -/

theorem readIdentifier_append {name rest : List Char} (identifier : IsIdentifier name)
    (ended : rest.takeWhile isWordChar = []) :
    readIdentifier (name ++ rest) = some (name, rest) := by
  obtain ⟨first, others, rfl, initial, inside⟩ := identifier
  obtain ⟨taken, left⟩ := Text.span_append inside ended
  rw [List.cons_append, readIdentifier, if_pos initial, taken, left]

theorem IsValueText.isValueChar {value : List Char} (valid : IsValueText value) :
    ∀ c ∈ value, isValueChar c = true := by
  intro c member
  obtain ⟨comma, semicolon, visible⟩ := valid.2 c member
  have others : ∀ d, Text.isBlank d = true → c ≠ d := by
    rintro d blank rfl
    rw [visible] at blank
    cases blank
  have space := others ' ' (by decide)
  have tab := others '\t' (by decide)
  have lineFeed := others '\n' (by decide)
  have carriageReturn := others '\r' (by decide)
  simp [Document.isValueChar, comma, semicolon, space, tab, lineFeed, carriageReturn]

theorem IsIdentifier.isSolid {name : List Char} (identifier : IsIdentifier name) :
    Text.IsSolid name := by
  apply Text.isSolid_of_visible
  · obtain ⟨first, rest, rfl, _⟩ := identifier
    exact List.cons_ne_nil first rest
  · exact fun c member => not_isBlank_of_isWordChar (identifier.isWordChar c member)

theorem IsValueText.isSolid {value : List Char} (valid : IsValueText value) : Text.IsSolid value :=
  Text.isSolid_of_visible valid.1 fun c member => (valid.2 c member).2.2

/-! ## Values -/

theorem readMoreValues_of_none {text : List Char} (none : afterComma text = none) :
    readMoreValues text = ([], text) := by
  rw [readMoreValues]
  split
  · rename_i found
    rw [none] at found
    cases found
  · rfl

theorem readMoreValues_of_some {text after : List Char} (comma : afterComma text = some after)
    (filled : after.takeWhile isValueChar ≠ []) :
    readMoreValues text =
      (after.takeWhile isValueChar :: (readMoreValues (after.dropWhile isValueChar)).1,
        (readMoreValues (after.dropWhile isValueChar)).2) := by
  rw [readMoreValues]
  split
  · rename_i found
    rw [comma] at found
    cases found
    rw [if_neg (by simpa using filled)]
  · rename_i found
    rw [comma] at found
    cases found

theorem EndsLine.afterComma {text : List Char} (ends : EndsLine text) : afterComma text = none := by
  rcases ends with nothing | ⟨rest, next⟩
  · simp [Document.afterComma, nothing]
  · simp [Document.afterComma, next]

private theorem MoreValuesText.takeWhile {values : List (List Char)} {text after : List Char}
    (written : MoreValuesText values text) (ends : EndsLine after) :
    (text ++ after).takeWhile Document.isValueChar = [] := by
  cases written with
  | nil => exact ends.takeWhile_isValueChar
  | cons spacingBefore =>
      simp only [List.append_assoc, List.cons_append]
      exact takeWhile_spacing_append (by decide) (by decide) spacingBefore
        (List.takeWhile_cons_of_neg (by decide))

theorem MoreValuesText.readMoreValues {values : List (List Char)} {text after : List Char}
    (written : MoreValuesText values text) (valid : ∀ value ∈ values, IsValueText value)
    (ends : EndsLine after) : readMoreValues (text ++ after) = (values, after) := by
  induction written with
  | nil => exact readMoreValues_of_none ends.afterComma
  | @cons before space value text values spacingBefore spacingAfter later induction =>
      obtain ⟨first, others⟩ := List.forall_mem_cons.mp valid
      have comma : afterComma (before ++ ',' :: space ++ value ++ text ++ after) =
          some (value ++ (text ++ after)) := by
        simp only [List.append_assoc, List.cons_append]
        rw [afterComma, skipSpaces_append spacingBefore, skipSpaces_cons (by decide)]
        simp only [skipSpaces_append spacingAfter, skipSpaces_solid first.isSolid]
      obtain ⟨taken, left⟩ := Text.span_append first.isValueChar (later.takeWhile ends)
      rw [readMoreValues_of_some comma (by rw [taken]; exact first.1), taken, left,
        induction others]

/-- The spaces before the values are those before the end of the line if there are no values. -/
theorem ValuesText.readValues {values : List (List Char)} {space text after : List Char}
    (written : ValuesText values text) (valid : ∀ value ∈ values, IsValueText value)
    (spacing : IsSpacing space) (ends : EndsLine after) :
    (readValues (skipSpaces (space ++ text ++ after))).1 = values ∧
      Text.trim (readValues (skipSpaces (space ++ text ++ after))).2 = Text.trim after := by
  rw [List.append_assoc, skipSpaces_append spacing]
  cases written with
  | nil =>
      obtain ⟨before, blank, split⟩ := exists_skipSpaces after
      have ended := (endsLine_skipSpaces ends).takeWhile_isValueChar
      rw [List.nil_append, Document.readValues, if_pos (by rw [ended]; rfl)]
      refine ⟨rfl, ?_⟩
      conv_rhs => rw [split]
      rw [Text.trim_append_left blank.isBlank]
  | @cons value text values later =>
      obtain ⟨first, others⟩ := List.forall_mem_cons.mp valid
      obtain ⟨taken, left⟩ := Text.span_append first.isValueChar (later.takeWhile ends)
      rw [List.append_assoc, skipSpaces_solid first.isSolid, Document.readValues, taken, left,
        if_neg (by simpa using first.1), later.readMoreValues others ends]
      exact ⟨rfl, rfl⟩

/-! ## Entries -/

/-- No colon follows a title on its line. -/
theorem readPair_title {name after : List Char} (identifier : IsIdentifier name)
    (ends : EndsLine after) : ∃ failure, readPair (name ++ after) = .error failure := by
  rw [readPair, readIdentifier_append identifier ends.takeWhile_isWordChar]
  rcases ends with nothing | ⟨rest, next⟩
  · exact ⟨[], by simp only [nothing]⟩
  · exact ⟨'\n' :: rest, by simp only [next]; rfl⟩

theorem readPair_written {pair : RawPair} {beforeColon afterColon text after : List Char}
    (writable : pair.IsWritable) (spacingBeforeColon : IsSpacing beforeColon)
    (spacingAfterColon : IsSpacing afterColon) (values : ValuesText pair.values text)
    (ends : EndsLine after) :
    readPair (pair.key ++ (beforeColon ++ ':' :: (afterColon ++ text ++ after))) =
      .ok (pair, Text.trim after) := by
  have ended : (beforeColon ++ ':' :: (afterColon ++ text ++ after)).takeWhile isWordChar = [] :=
    takeWhile_spacing_append (by decide) (by decide) spacingBeforeColon
      (List.takeWhile_cons_of_neg (by decide))
  obtain ⟨all, left⟩ := values.readValues writable.values spacingAfterColon ends
  rw [readPair, readIdentifier_append writable.key ended]
  simp only [skipSpaces_append spacingBeforeColon, skipSpaces_cons (c := ':') (by decide), all,
    left]

private theorem MoreValuesText.ends {values : List (List Char)} {text : List Char}
    (written : MoreValuesText values text) (valid : ∀ value ∈ values, IsValueText value) :
    text = [] ∨ Text.EndsVisible text := by
  induction written with
  | nil => exact Or.inl rfl
  | cons _ _ _ induction =>
      obtain ⟨first, others⟩ := List.forall_mem_cons.mp valid
      right
      rcases induction others with rfl | ends
      · rw [List.append_nil]
        exact first.isSolid.ends.append_left _
      · exact ends.append_left _

theorem ValuesText.ends {values : List (List Char)} {text : List Char}
    (written : ValuesText values text) (valid : ∀ value ∈ values, IsValueText value) :
    text = [] ∨ Text.EndsVisible text := by
  cases written with
  | nil => exact Or.inl rfl
  | cons later =>
      obtain ⟨first, others⟩ := List.forall_mem_cons.mp valid
      right
      rcases later.ends others with rfl | ends
      · rw [List.append_nil]
        exact first.isSolid.ends
      · exact ends.append_left _

/-- The line of a pair is spaces and tabs at its ends, and between them a text that trimming does
not change and that is read as the pair. -/
theorem exists_pair_body {pair : RawPair} {line : List Char} (written : EntryLine (.pair pair) line)
    (writable : pair.IsWritable) :
    ∃ before body after, line = before ++ body ++ after ∧ IsSpacing before ∧ IsSpacing after ∧
      Text.IsSolid body ∧
      ∀ rest, EndsLine rest → readPair (body ++ rest) = .ok (pair, Text.trim rest) := by
  cases written with
  | @pair _ before beforeColon afterColon text after spacingBefore spacingBeforeColon
      spacingAfterColon spacingAfter values =>
    have key := writable.key.isSolid
    rcases values.ends writable.values with rfl | ends
    · -- Without values, the spaces behind the colon are those at the end of the line.
      have colon : Text.EndsVisible [':'] := ⟨[], ':', rfl, by decide⟩
      refine ⟨before, pair.key ++ (beforeColon ++ [':']), afterColon ++ after, by simp,
        spacingBefore, spacingAfterColon.append spacingAfter,
        key.append (colon.append_left beforeColon), fun rest ends => ?_⟩
      have none : IsSpacing [] := by simp [IsSpacing]
      have read := readPair_written writable spacingBeforeColon none values ends
      simpa using read
    · refine ⟨before, pair.key ++ (beforeColon ++ ':' :: (afterColon ++ text)), after, by simp,
        spacingBefore, spacingAfter, ?_, fun rest ends => ?_⟩
      · have back := ends.append_left (beforeColon ++ ':' :: afterColon)
        simpa using key.append back
      · have read := readPair_written writable spacingBeforeColon spacingAfterColon values ends
        simpa using read

end Document
end Task
end PlaneRegion
