import PlaneRegion.Proofs.Document.Layout
import PlaneRegion.Proofs.Text.Words

/-!
# Lines of a written document

Line ends, blank lines and comments leave no trace: without its silent lines, a written document is
the lines of its entries with line feeds between them.
-/

namespace PlaneRegion

/-! ## Spaces and tabs

The blanks that are passed over inside a line, and the texts before which none are.
-/

namespace Task
namespace Document

theorem IsSpacing.isBlank {text : List Char} (spacing : IsSpacing text) :
    ∀ c ∈ text, Text.isBlank c = true := by
  intro c member
  rcases spacing c member with rfl | rfl <;> decide

theorem skipSpaces_append {before : List Char} (spacing : IsSpacing before) (text : List Char) :
    skipSpaces (before ++ text) = skipSpaces text :=
  List.dropWhile_append_of_pos fun c member => by
    rcases spacing c member with rfl | rfl <;> rfl

theorem skipSpaces_cons {c : Char} (visible : Text.isBlank c = false) (text : List Char) :
    skipSpaces (c :: text) = c :: text := by
  apply List.dropWhile_cons_of_neg
  intro space
  simp only [Bool.or_eq_true, beq_iff_eq] at space
  rcases space with rfl | rfl <;> exact absurd visible (by decide)

theorem IsSpacing.append {first second : List Char} (front : IsSpacing first)
    (back : IsSpacing second) : IsSpacing (first ++ second) :=
  List.forall_mem_append.mpr ⟨front, back⟩

theorem skipSpaces_solid {text : List Char} (solid : Text.IsSolid text) (after : List Char) :
    skipSpaces (text ++ after) = text ++ after := by
  obtain ⟨first, rest, rfl, visible⟩ := solid.starts
  exact skipSpaces_cons visible _

/-- Spaces are skipped into a text that follows only where nothing else is before it. -/
theorem skipSpaces_append_right (text after : List Char) :
    skipSpaces (text ++ after) =
      if (skipSpaces text).isEmpty then skipSpaces after else skipSpaces text ++ after :=
  List.dropWhile_append

/-- Before what it leaves, `skipSpaces` drops spaces and tabs. -/
theorem exists_skipSpaces (text : List Char) :
    ∃ before, IsSpacing before ∧ text = before ++ skipSpaces text := by
  refine ⟨text.takeWhile fun c => c == ' ' || c == '\t', fun c member => ?_,
    List.takeWhile_append_dropWhile.symm⟩
  have space := List.mem_takeWhile_imp member
  simpa using space

/-! ## Lines of a text -/

theorem lines_single {line : List Char} (single : '\n' ∉ line) : lines line = [line] := by
  simp [lines, List.splitOn_eq_singleton single]

/-- Up to the first line feed a text is a line, and behind it the others begin. -/
theorem lines_append_lineFeed {line : List Char} (single : '\n' ∉ line) (text : List Char) :
    lines (line ++ '\n' :: text) = dropReturn line :: lines text := by
  have first : line.splitOn '\n' = [line] := List.splitOn_eq_singleton single
  have pieces : (line ++ '\n' :: text).splitOn '\n' = line :: text.splitOn '\n' := by
    simp only [List.splitOn] at first ⊢
    rw [List.splitOnP_append_cons _ _ (by rfl), first, List.singleton_append]
  obtain ⟨next, others, split⟩ := List.exists_cons_of_ne_nil (List.splitOn_ne_nil '\n' text)
  simp [lines, pieces, split]

theorem dropReturn_append_return (line : List Char) : dropReturn (line ++ ['\r']) = line := by
  simp [dropReturn]

theorem dropReturn_of_notMem {line : List Char} (bare : '\r' ∉ line) : dropReturn line = line := by
  rw [dropReturn, if_neg fun ends => bare (List.mem_of_getLast? ends)]

/-- Whether a line is silent does not depend on its carriage return, which is a blank. -/
theorem isSilent_dropReturn (line : List Char) : isSilent (dropReturn line) = isSilent line := by
  rw [dropReturn]
  split_ifs with ends
  · have split : line.dropLast ++ ['\r'] = line := List.dropLast_append_getLast? _ ends
    have blank : ∀ c ∈ ['\r'], Text.isBlank c = true := by simp; decide
    simp only [isSilent]
    rw [← Text.trim_append_right line.dropLast blank, split]
  · rfl

/-- A line that can stand in a document whatever ends it. -/
def IsPlain (line : List Char) : Prop :=
  '\n' ∉ line ∧ (isSilent line = true ∨ '\r' ∉ line)

/-- Of joined lines, those are found that are not silent. -/
theorem filter_lines_of_joined {ls : List (List Char)} {text : List Char}
    (joined : Joined ls text) (plain : ∀ line ∈ ls, IsPlain line) :
    (lines text).filter (fun line => !isSilent line) = ls.filter (fun line => !isSilent line) := by
  induction joined with
  | nil => decide
  | last line => rw [lines_single (plain line List.mem_cons_self).1]
  | @lineFeed line text ls joined induction =>
      obtain ⟨⟨single, bare⟩, others⟩ := List.forall_mem_cons.mp plain
      rw [lines_append_lineFeed single]
      rcases bare with silent | bare
      · rw [List.filter_cons_of_neg (by simp [isSilent_dropReturn, silent]),
          List.filter_cons_of_neg (by simp [silent]), induction others]
      · simp only [dropReturn_of_notMem bare, List.filter_cons, induction others]
  | @carriageReturn line text ls joined induction =>
      obtain ⟨⟨single, _⟩, others⟩ := List.forall_mem_cons.mp plain
      have bare : '\n' ∉ line ++ ['\r'] := by simpa using single
      have moved : line ++ '\r' :: '\n' :: text = (line ++ ['\r']) ++ '\n' :: text := by simp
      rw [moved, lines_append_lineFeed bare, dropReturn_append_return, List.filter_cons,
        List.filter_cons, induction others]

/-! ## Silent lines -/

theorem SilentLine.isSilent {line : List Char} (silent : SilentLine line) :
    isSilent line = true := by
  cases silent with
  | blank blank =>
      have nothing : Text.trim line = [] := by
        rw [← List.append_nil line, Text.trim_append_left blank, Text.trim_nil]
      rw [Document.isSilent, nothing]
  | @comment before mark text blank marked =>
      have solid : Text.IsSolid mark := by
        simp only [List.mem_cons, List.not_mem_nil, or_false] at marked
        rcases marked with rfl | rfl | rfl <;>
        · exact Text.isSolid_of_visible (by simp) (by simp [Text.isBlank])
      rw [Document.isSilent, List.append_assoc, Text.trim_append_left blank, solid.trim_append]
      simp only [List.mem_cons, List.not_mem_nil, or_false] at marked
      rcases marked with rfl | rfl | rfl <;> rfl

/-! ## Lines of entries -/

/-- The only blanks of a text are spaces and tabs. -/
def Unbroken (text : List Char) : Prop :=
  ∀ c ∈ text, Text.isBlank c = true → c = ' ' ∨ c = '\t'

theorem Unbroken.append {first second : List Char} (front : Unbroken first)
    (back : Unbroken second) : Unbroken (first ++ second) := by
  intro c member blank
  rcases List.mem_append.mp member with member | member
  · exact front c member blank
  · exact back c member blank

theorem Unbroken.cons {c : Char} (visible : Text.isBlank c = false) {text : List Char}
    (later : Unbroken text) : Unbroken (c :: text) := by
  intro d member blank
  rcases List.mem_cons.mp member with rfl | member
  · rw [visible] at blank
    cases blank
  · exact later d member blank

theorem IsSpacing.unbroken {text : List Char} (spacing : IsSpacing text) : Unbroken text :=
  fun c member _ => spacing c member

theorem IsIdentifier.unbroken {text : List Char} (identifier : IsIdentifier text) :
    Unbroken text := by
  intro c member blank
  rw [not_isBlank_of_isWordChar (identifier.isWordChar c member)] at blank
  cases blank

theorem IsValueText.unbroken {text : List Char} (value : IsValueText text) : Unbroken text := by
  intro c member blank
  rw [(value.2 c member).2.2] at blank
  cases blank

theorem MoreValuesText.unbroken {values : List (List Char)} {text : List Char}
    (written : MoreValuesText values text) (valid : ∀ value ∈ values, IsValueText value) :
    Unbroken text := by
  induction written with
  | nil => simp [Unbroken]
  | cons spacingBefore spacingAfter later induction =>
      obtain ⟨value, others⟩ := List.forall_mem_cons.mp valid
      have comma := Unbroken.cons (c := ',') (by decide)
        ((spacingAfter.unbroken.append value.unbroken).append (induction others))
      simpa using spacingBefore.unbroken.append comma

theorem ValuesText.unbroken {values : List (List Char)} {text : List Char}
    (written : ValuesText values text) (valid : ∀ value ∈ values, IsValueText value) :
    Unbroken text := by
  cases written with
  | nil => simp [Unbroken]
  | cons later =>
      obtain ⟨value, others⟩ := List.forall_mem_cons.mp valid
      exact value.unbroken.append (later.unbroken others)

theorem EntryLine.unbroken {entry : Entry} {line : List Char} (written : EntryLine entry line)
    (writable : entry.IsWritable) : Unbroken line := by
  cases written with
  | title spacingBefore spacingAfter =>
      exact (spacingBefore.unbroken.append writable.unbroken).append spacingAfter.unbroken
  | pair spacingBefore spacingBeforeColon spacingAfterColon spacingAfter values =>
      have front :=
        (spacingBefore.unbroken.append writable.key.unbroken).append spacingBeforeColon.unbroken
      have colon := Unbroken.cons (c := ':') (by decide)
        ((spacingAfterColon.unbroken.append (values.unbroken writable.values)).append
          spacingAfter.unbroken)
      simpa using front.append colon

theorem not_isBlank_of_isInitial {c : Char} (initial : isInitial c = true) :
    Text.isBlank c = false :=
  not_isBlank_of_isWordChar (isWordChar_of_isInitial initial)

private theorem isSilent_identifier {before name : List Char} (spacing : IsSpacing before)
    (identifier : IsIdentifier name) (after : List Char) :
    isSilent (before ++ (name ++ after)) = false := by
  obtain ⟨first, rest, rfl, initial, _⟩ := identifier
  have kept : Text.trim (before ++ (first :: rest ++ after)) =
      first :: Text.trimEnd (rest ++ after) := by
    rw [Text.trim_append_left spacing.isBlank, List.cons_append, ← List.singleton_append]
    have solid : Text.IsSolid [first] :=
      Text.isSolid_of_visible (by simp) (by simpa using not_isBlank_of_isInitial initial)
    exact solid.trim_append _
  have letter : first ≠ '#' ∧ first ≠ '%' ∧ first ≠ '/' := by
    refine ⟨?_, ?_, ?_⟩ <;>
    · rintro rfl
      revert initial
      decide
  rw [isSilent, kept]
  split <;> simp_all

/-- No line of an entry is taken for a comment. -/
theorem EntryLine.not_isSilent {entry : Entry} {line : List Char} (written : EntryLine entry line)
    (writable : entry.IsWritable) : isSilent line = false := by
  cases written with
  | title spacingBefore =>
      rw [List.append_assoc]
      exact isSilent_identifier spacingBefore writable _
  | pair spacingBefore =>
      simp only [List.append_assoc, List.cons_append]
      exact isSilent_identifier spacingBefore writable.key _

theorem EntryLine.isPlain {entry : Entry} {line : List Char} (written : EntryLine entry line)
    (writable : entry.IsWritable) : IsPlain line := by
  have absent : ∀ c, Text.isBlank c = true → c ≠ ' ' → c ≠ '\t' → c ∉ line := by
    intro c blank space tab member
    rcases written.unbroken writable c member blank with rfl | rfl
    · exact space rfl
    · exact tab rfl
  exact ⟨absent '\n' (by decide) (by decide) (by decide),
    Or.inr (absent '\r' (by decide) (by decide) (by decide))⟩

theorem Lines.isPlain {entries : List Entry} {ls : List (List Char)} (written : Lines entries ls)
    (writable : ∀ entry ∈ entries, entry.IsWritable) : ∀ line ∈ ls, IsPlain line := by
  induction written with
  | nil => simp
  | silent silent single _ induction =>
      exact List.forall_mem_cons.mpr ⟨⟨single, Or.inl silent.isSilent⟩, induction writable⟩
  | entry spoken _ induction =>
      obtain ⟨first, others⟩ := List.forall_mem_cons.mp writable
      exact List.forall_mem_cons.mpr ⟨spoken.isPlain first, induction others⟩

/-- The lines that are not silent are those of the entries. -/
theorem Lines.forall₂_filter {entries : List Entry} {ls : List (List Char)}
    (written : Lines entries ls) (writable : ∀ entry ∈ entries, entry.IsWritable) :
    List.Forall₂ EntryLine entries (ls.filter fun line => !Document.isSilent line) := by
  induction written with
  | nil => exact .nil
  | silent silent _ _ induction =>
      rw [List.filter_cons_of_neg (by simp [silent.isSilent])]
      exact induction writable
  | entry spoken _ induction =>
      obtain ⟨first, others⟩ := List.forall_mem_cons.mp writable
      rw [List.filter_cons_of_pos (by simp [spoken.not_isSilent first])]
      exact .cons spoken (induction others)

theorem RawSection.IsWritable.entries {s : RawSection} (writable : s.IsWritable) :
    ∀ entry ∈ s.entries, entry.IsWritable := by
  intro entry member
  rw [RawSection.entries, List.mem_cons, List.mem_map] at member
  rcases member with rfl | ⟨pair, present, rfl⟩
  · exact writable.title
  · exact writable.pairs pair present

/-- Of a written document there remains one line for each entry. -/
theorem Written.dropComments {sections : List RawSection} {text : List Char}
    (written : Written sections text) :
    ∃ ls, List.Forall₂ EntryLine (sections.flatMap RawSection.entries) ls ∧
      dropComments text = ['\n'].intercalate ls := by
  obtain ⟨ls, lines, joined⟩ := written.layout
  have writable : ∀ entry ∈ sections.flatMap RawSection.entries, entry.IsWritable := by
    intro entry member
    obtain ⟨s, present, inside⟩ := List.mem_flatMap.mp member
    exact (written.writable s present).entries entry inside
  refine ⟨_, lines.forall₂_filter writable, ?_⟩
  rw [Document.dropComments, filter_lines_of_joined joined (lines.isPlain writable)]

end Document
end Task
end PlaneRegion
