import PlaneRegion.Proofs.Document.Lines

/-!
# Documents are read whole

A reader that succeeds has consumed what it returns: but for blanks, the text is what was read,
written out again, followed by the rest. Readers done one after the other consume one text after the
other, so a document that is read has no text that is not part of its sections. Text that fits no
title, key or value is refused.
-/

namespace PlaneRegion
namespace Task
namespace Document

/-! ## What is read, written out -/

/-- The key, a colon, and the texts of the values with commas between them. -/
def RawPair.written (pair : RawPair) : List Char :=
  pair.key ++ ':' :: [','].intercalate pair.values

/-- The title and all pairs. -/
def RawSection.written (s : RawSection) : List Char :=
  s.title ++ s.pairs.flatMap RawPair.written

/-- The parts of a pair have the form in which they are read. -/
structure RawPair.IsReadable (pair : RawPair) : Prop where
  key : IsIdentifier pair.key
  values : ∀ value ∈ pair.values, value ≠ [] ∧ ∀ c ∈ value, isValueChar c = true

/-- The parts of a section have the form in which they are read. -/
structure RawSection.IsReadable (s : RawSection) : Prop where
  title : IsIdentifier s.title
  nonempty : s.pairs ≠ []
  pairs : ∀ pair ∈ s.pairs, pair.IsReadable

/-- A value comes next. -/
def StartsValue (text : List Char) : Prop :=
  ∃ first rest, text = first :: rest ∧ isValueChar first = true

/-- A value follows every comma, on the same line. -/
def CommasFollowed : List Char → Prop
  | [] => True
  | c :: rest => (c = ',' → StartsValue (skipSpaces rest)) ∧ CommasFollowed rest

/-! ## Consuming a text -/

/-- The text is what is written and then the rest, but for blanks, and no comma in it stands without
a value if none does in the rest. -/
structure Consumes (text written rest : List Char) : Prop where
  /-- Nothing is lost, moved or read twice. -/
  same : Text.compact text = Text.compact (written ++ rest)
  /-- No comma is passed over. -/
  commas : CommasFollowed rest → CommasFollowed text

theorem Consumes.refl (text : List Char) : Consumes text [] text := ⟨rfl, id⟩

theorem Consumes.trans {text first middle second rest : List Char}
    (front : Consumes text first middle) (back : Consumes middle second rest) :
    Consumes text (first ++ second) rest where
  same := by
    rw [front.same, Text.compact_append, back.same, ← Text.compact_append, List.append_assoc]
  commas := fun followed => front.commas (back.commas followed)

theorem CommasFollowed.append_left {word rest : List Char} (bare : ',' ∉ word)
    (followed : CommasFollowed rest) : CommasFollowed (word ++ rest) := by
  induction word with
  | nil => exact followed
  | cons c word induction =>
      simp only [List.mem_cons, not_or] at bare
      exact ⟨fun comma => absurd comma.symm bare.1, induction bare.2⟩

private theorem StartsValue.append {text : List Char} (starts : StartsValue (skipSpaces text))
    (after : List Char) : StartsValue (skipSpaces (text ++ after)) := by
  obtain ⟨first, rest, found, valid⟩ := starts
  refine ⟨first, rest ++ after, ?_, valid⟩
  rw [skipSpaces_append_right, found]
  rfl

theorem CommasFollowed.append_right {text blanks : List Char} (bare : ',' ∉ blanks)
    (followed : CommasFollowed text) : CommasFollowed (text ++ blanks) := by
  induction text with
  | nil =>
      have kept : CommasFollowed (blanks ++ []) := CommasFollowed.append_left bare trivial
      rwa [List.append_nil] at kept
  | cons c text induction =>
      exact ⟨fun comma => (followed.1 comma).append blanks, induction followed.2⟩

/-- A value follows every comma, wherever it stands. -/
theorem CommasFollowed.startsValue {before after : List Char}
    (followed : CommasFollowed (before ++ ',' :: after)) : StartsValue (skipSpaces after) := by
  induction before with
  | nil => exact followed.1 rfl
  | cons c before induction => exact induction followed.2

private theorem not_mem_of_blank {blanks : List Char}
    (blank : ∀ c ∈ blanks, Text.isBlank c = true) : ',' ∉ blanks := by
  intro comma
  have visible : Text.isBlank ',' = false := by decide
  rw [blank _ comma] at visible
  cases visible

theorem consumes_word {word : List Char} (bare : ',' ∉ word) (rest : List Char) :
    Consumes (word ++ rest) word rest :=
  ⟨rfl, CommasFollowed.append_left bare⟩

/-- Trimming passes over blanks only. -/
theorem consumes_trim (text : List Char) : Consumes text [] (Text.trim text) where
  same := (Text.compact_trim text).symm
  commas := by
    intro followed
    obtain ⟨before, after, split, blankBefore, blankAfter⟩ := Text.exists_trim text
    rw [split]
    exact (followed.append_left (not_mem_of_blank blankBefore)).append_right
      (not_mem_of_blank blankAfter)

/-- Blanks can be passed over anywhere. -/
theorem consumes_append_left {blanks : List Char} (blank : ∀ c ∈ blanks, Text.isBlank c = true)
    (rest : List Char) : Consumes (blanks ++ rest) [] rest where
  same := by
    rw [Text.compact_append, Text.compact_eq_nil blank, List.nil_append, List.nil_append]
  commas := CommasFollowed.append_left (not_mem_of_blank blank)

theorem consumes_blanks {blanks : List Char} (blank : ∀ c ∈ blanks, Text.isBlank c = true) :
    Consumes blanks [] [] := by
  have consumed := consumes_append_left blank []
  rwa [List.append_nil] at consumed

theorem consumes_skipSpaces (text : List Char) : Consumes text [] (skipSpaces text) := by
  obtain ⟨before, spacing, split⟩ := exists_skipSpaces text
  have consumed := consumes_append_left spacing.isBlank (skipSpaces text)
  rwa [← split] at consumed

/-- A comma may be passed over when a value follows it. -/
theorem consumes_comma {rest : List Char} (starts : StartsValue (skipSpaces rest)) :
    Consumes (',' :: rest) [','] rest :=
  ⟨rfl, fun followed => ⟨fun _ => starts, followed⟩⟩

/-! ## Readers -/

theorem isIdentifier_of_readIdentifier {text name rest : List Char}
    (read : readIdentifier text = some (name, rest)) : IsIdentifier name ∧ text = name ++ rest := by
  cases text with
  | nil => cases read
  | cons first text =>
      rw [readIdentifier] at read
      split_ifs at read with initial
      cases read
      refine ⟨⟨first, _, rfl, initial, fun c member => List.mem_takeWhile_imp member⟩, ?_⟩
      rw [List.cons_append, List.takeWhile_append_dropWhile]

private theorem consumes_of_readIdentifier {text name rest : List Char}
    (read : readIdentifier text = some (name, rest)) :
    IsIdentifier name ∧ Consumes text name rest := by
  obtain ⟨identifier, rfl⟩ := isIdentifier_of_readIdentifier read
  refine ⟨identifier, consumes_word (fun comma => ?_) rest⟩
  have word := identifier.isWordChar _ comma
  revert word
  decide

private theorem consumes_of_afterComma {text after : List Char}
    (read : afterComma text = some after) (starts : StartsValue after) :
    Consumes text [','] after := by
  unfold afterComma at read
  split at read
  · rename_i rest spaces
    cases read
    have front := consumes_skipSpaces text
    rw [spaces] at front
    exact (front.trans (consumes_comma starts)).trans (consumes_skipSpaces rest)
  · cases read

private theorem consumes_value {text : List Char}
    (nonempty : ¬ (text.takeWhile isValueChar).isEmpty = true) :
    (text.takeWhile isValueChar ≠ [] ∧ ∀ c ∈ text.takeWhile isValueChar, isValueChar c = true) ∧
      StartsValue text ∧
      Consumes text (text.takeWhile isValueChar) (text.dropWhile isValueChar) := by
  have allowed : ∀ c ∈ text.takeWhile isValueChar, isValueChar c = true :=
    fun c member => List.mem_takeWhile_imp member
  have filled : text.takeWhile isValueChar ≠ [] :=
    fun empty => nonempty (List.isEmpty_iff.mpr empty)
  have split := List.takeWhile_append_dropWhile (p := isValueChar) (l := text)
  refine ⟨⟨filled, allowed⟩, ?_, ?_⟩
  · obtain ⟨first, rest, found⟩ := List.exists_cons_of_ne_nil filled
    refine ⟨first, rest ++ text.dropWhile isValueChar, ?_, allowed first ?_⟩
    · rw [← List.cons_append, ← found, split]
    · rw [found]
      exact List.mem_cons_self
  · have bare : ',' ∉ text.takeWhile isValueChar :=
      fun comma => absurd (allowed _ comma) (by decide)
    have word := consumes_word bare (text.dropWhile isValueChar)
    rwa [split] at word

private theorem consumes_readMoreValues (text : List Char) :
    (∀ value ∈ (readMoreValues text).1, value ≠ [] ∧ ∀ c ∈ value, isValueChar c = true) ∧
      Consumes text ((readMoreValues text).1.flatMap fun value => ',' :: value)
        (readMoreValues text).2 := by
  fun_induction readMoreValues text with
  | case1 text after comma empty => exact ⟨by simp, Consumes.refl _⟩
  | case2 text after comma nonempty values rest found induction =>
      rw [found] at induction
      obtain ⟨readable, later⟩ := induction
      obtain ⟨value, starts, consumed⟩ := consumes_value nonempty
      refine ⟨List.forall_mem_cons.mpr ⟨value, readable⟩, ?_⟩
      exact ((consumes_of_afterComma comma starts).trans consumed).trans later
  | case3 => exact ⟨by simp, Consumes.refl _⟩

private theorem consumes_readValues (text : List Char) :
    (∀ value ∈ (readValues text).1, value ≠ [] ∧ ∀ c ∈ value, isValueChar c = true) ∧
      Consumes text ([','].intercalate (readValues text).1) (readValues text).2 := by
  rw [readValues]
  split_ifs with empty
  · exact ⟨by simp, Consumes.refl _⟩
  · obtain ⟨value, _, consumed⟩ := consumes_value empty
    obtain ⟨readable, later⟩ := consumes_readMoreValues (text.dropWhile isValueChar)
    refine ⟨List.forall_mem_cons.mpr ⟨value, readable⟩, ?_⟩
    simp only [Text.intercalate_cons]
    exact consumed.trans later

theorem consumes_of_readPair {text rest : List Char} {pair : RawPair}
    (read : readPair text = .ok (pair, rest)) :
    pair.IsReadable ∧ Consumes text pair.written rest := by
  unfold readPair at read
  split at read
  · cases read
  · rename_i key afterKey found
    split at read
    · rename_i after colon
      cases read
      obtain ⟨identifier, front⟩ := consumes_of_readIdentifier found
      obtain ⟨readable, values⟩ := consumes_readValues (skipSpaces after)
      have spaces := consumes_skipSpaces afterKey
      rw [colon] at spaces
      have mark : Consumes ([':'] ++ after) [':'] after := consumes_word (by decide) after
      have back := ((mark.trans (consumes_skipSpaces after)).trans values).trans (consumes_trim _)
      refine ⟨⟨identifier, readable⟩, ?_⟩
      simpa [RawPair.written] using (front.trans spaces).trans back
    · cases read

theorem consumes_readPairs (text : List Char) :
    (∀ pair ∈ (readPairs text).1, pair.IsReadable) ∧
      Consumes text ((readPairs text).1.flatMap RawPair.written) (readPairs text).2 := by
  fun_induction readPairs text with
  | case1 text pair rest read pairs final found induction =>
      rw [found] at induction
      obtain ⟨readable, later⟩ := induction
      obtain ⟨first, consumed⟩ := consumes_of_readPair read
      exact ⟨List.forall_mem_cons.mpr ⟨first, readable⟩, consumed.trans later⟩
  | case2 => exact ⟨by simp, Consumes.refl _⟩

theorem consumes_of_readSection {text rest : List Char} {found : RawSection}
    (read : readSection text = .ok (found, rest)) :
    found.IsReadable ∧ Consumes text found.written rest := by
  unfold readSection at read
  simp only at read
  split at read
  · cases read
  · rename_i title afterTitle identified
    split at read
    · cases read
    · rename_i pair afterPair first
      cases read
      obtain ⟨identifier, front⟩ := consumes_of_readIdentifier identified
      obtain ⟨readable, consumed⟩ := consumes_of_readPair first
      obtain ⟨others, later⟩ := consumes_readPairs afterPair
      have pairs := List.forall_mem_cons.mpr ⟨readable, others⟩
      refine ⟨⟨identifier, List.cons_ne_nil _ _, pairs⟩, ?_⟩
      have gap := (consumes_skipSpaces text).trans (front.trans (consumes_trim afterTitle))
      simpa [RawSection.written] using (gap.trans consumed).trans later

theorem consumes_readSections (text : List Char) :
    (∀ s ∈ (readSections text).1, s.IsReadable) ∧
      Consumes text ((readSections text).1.flatMap RawSection.written) (readSections text).2 := by
  fun_induction readSections text with
  | case1 text found rest read later final same induction =>
      rw [same] at induction
      obtain ⟨readable, others⟩ := induction
      obtain ⟨first, consumed⟩ := consumes_of_readSection read
      exact ⟨List.forall_mem_cons.mpr ⟨first, readable⟩, consumed.trans others⟩
  | case2 => exact ⟨by simp, Consumes.refl _⟩

/-- Blanks are all that may be left over, so the whole text is consumed. -/
theorem consumes_of_readRaw {text : List Char} {raw : List RawSection}
    (read : readRaw text = .ok raw) :
    (∀ s ∈ raw, s.IsReadable) ∧ Consumes text (raw.flatMap RawSection.written) [] := by
  unfold readRaw at read
  split at read
  · cases read
  · rename_i first rest found
    simp only at read
    split_ifs at read with blank
    cases read
    obtain ⟨readable, consumed⟩ := consumes_of_readSection found
    obtain ⟨others, later⟩ := consumes_readSections rest
    refine ⟨List.forall_mem_cons.mpr ⟨readable, others⟩, ?_⟩
    have ending := (consumed.trans later).trans (consumes_blanks (List.all_eq_true.mp blank))
    simpa using ending

private theorem semicolon_not_mem_written {s : RawSection} (readable : s.IsReadable) :
    ';' ∉ s.written := by
  have noIdentifier : ∀ {name : List Char}, IsIdentifier name → ';' ∉ name := by
    intro name identifier member
    exact absurd (identifier.isWordChar _ member) (by decide)
  have noValues : ∀ {values : List (List Char)},
      (∀ value ∈ values, value ≠ [] ∧ ∀ c ∈ value, isValueChar c = true) →
        ';' ∉ [','].intercalate values := by
    intro values valid member
    cases values with
    | nil => cases member
    | cons value values =>
        rw [Text.intercalate_cons, List.mem_append, List.mem_flatMap] at member
        rcases member with inside | ⟨other, present, inside⟩
        · exact absurd ((valid value List.mem_cons_self).2 _ inside) (by decide)
        · have within : ';' ∈ other := by simpa using inside
          have present := List.mem_cons_of_mem value present
          exact absurd ((valid other present).2 _ within) (by decide)
  intro member
  rw [RawSection.written, List.mem_append, List.mem_flatMap] at member
  rcases member with inside | ⟨pair, present, inside⟩
  · exact noIdentifier readable.title inside
  · have sound := readable.pairs pair present
    rw [RawPair.written, List.mem_append, List.mem_cons] at inside
    rcases inside with inside | inside | inside
    · exact noIdentifier sound.key inside
    · cases inside
    · exact noValues sound.values inside

private theorem readRaw_sound {text : List Char} {raw : List RawSection}
    (read : readRaw text = .ok raw) : ';' ∉ text ∧ CommasFollowed text := by
  obtain ⟨readable, consumed⟩ := consumes_of_readRaw read
  refine ⟨fun member => ?_, consumed.commas trivial⟩
  have kept : ';' ∈ Text.compact text := List.mem_filter.mpr ⟨member, by decide⟩
  rw [consumed.same, List.append_nil] at kept
  obtain ⟨s, present, inside⟩ := List.mem_flatMap.mp (List.mem_of_mem_filter kept)
  exact semicolon_not_mem_written (readable s present) inside

/-- A document that is read is, but for comments and blanks, what its sections say with their values
as they are written. So a semicolon outside a comment, or a comma there that no value follows on
its line, is never read over. -/
theorem read_whole (text : String) :
    (∀ sections, read text = .ok sections →
      ∃ raw : List RawSection, raw.map RawSection.toSection = sections ∧
        (∀ s ∈ raw, s.IsReadable) ∧
        Text.compact (raw.flatMap RawSection.written) =
          Text.compact (dropComments text.toList)) ∧
    (';' ∈ dropComments text.toList → ∃ error, read text = .error error) ∧
    ∀ before after, dropComments text.toList = before ++ ',' :: after →
      ¬ StartsValue (skipSpaces after) → ∃ error, read text = .error error := by
  cases raw : readRaw (dropComments text.toList) with
  | error failure =>
      have refused : read text = .error failure := by
        rw [read, raw]
        rfl
      refine ⟨fun sections accepted => ?_, fun _ => ⟨_, refused⟩, fun _ _ _ _ => ⟨_, refused⟩⟩
      rw [refused] at accepted
      cases accepted
  | ok found =>
      have result : read text = .ok (found.map RawSection.toSection) := by
        rw [read, raw]
        rfl
      obtain ⟨noSemicolon, followed⟩ := readRaw_sound raw
      refine ⟨fun sections accepted => ?_, fun member => absurd member noSemicolon, ?_⟩
      · rw [result, Except.ok.injEq] at accepted
        obtain ⟨readable, consumed⟩ := consumes_of_readRaw raw
        refine ⟨found, accepted, readable, ?_⟩
        rw [consumed.same, List.append_nil]
      · intro before after split lacking
        rw [split] at followed
        exact absurd followed.startsValue lacking

end Document
end Task
end PlaneRegion
