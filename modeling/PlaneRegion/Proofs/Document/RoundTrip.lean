import PlaneRegion.Proofs.Document.Entries

/-!
# Written documents are read back

Behind every entry the reader goes on with the lines of the others, trimmed: a pair ends with its
line, and the pairs of a section end where a title stands or no line is left.
-/

namespace PlaneRegion
namespace Task
namespace Document

/-! ## The lines of the other entries -/

/-- Lines that follow another one. -/
def following (ls : List (List Char)) : List Char :=
  ls.flatMap fun line => '\n' :: line

theorem endsLine_following (ls : List (List Char)) : EndsLine (following ls) := by
  cases ls with
  | nil => exact Or.inl rfl
  | cons line ls => exact Or.inr ⟨line ++ following ls, rfl⟩

theorem trim_following {before body : List Char} (spacing : IsSpacing before)
    (solid : Text.IsSolid body) (after : List Char) (ls : List (List Char)) :
    Text.trim (following ((before ++ body ++ after) :: ls)) =
      body ++ Text.trimEnd (after ++ following ls) := by
  have blank : ∀ c ∈ '\n' :: before, Text.isBlank c = true :=
    List.forall_mem_cons.mpr ⟨by decide, spacing.isBlank⟩
  have split : following ((before ++ body ++ after) :: ls) =
      ('\n' :: before) ++ (body ++ (after ++ following ls)) := by
    simp [following]
  rw [split, Text.trim_append_left blank, solid.trim_append]

/-- Behind an entry whose line ends with spaces, the other lines come next. -/
theorem trim_spacing_following {after : List Char} (spacing : IsSpacing after)
    (ls : List (List Char)) :
    EndsLine (Text.trimEnd (after ++ following ls)) ∧
      Text.trim (Text.trimEnd (after ++ following ls)) = Text.trim (following ls) := by
  refine ⟨((endsLine_following ls).append_left spacing).trimEnd, ?_⟩
  rw [Text.trim_trimEnd, Text.trim_append_left spacing.isBlank]

theorem readPair_following {pair : RawPair} {line : List Char}
    (written : EntryLine (.pair pair) line) (writable : pair.IsWritable) (ls : List (List Char)) :
    readPair (Text.trim (following (line :: ls))) = .ok (pair, Text.trim (following ls)) := by
  obtain ⟨before, body, after, rfl, spacingBefore, spacingAfter, solid, read⟩ :=
    exists_pair_body written writable
  obtain ⟨ends, same⟩ := trim_spacing_following spacingAfter ls
  rw [trim_following spacingBefore solid, read _ ends, same]

theorem exists_title_following {name line : List Char} (written : EntryLine (.title name) line)
    (identifier : IsIdentifier name) (ls : List (List Char)) :
    ∃ after, Text.trim (following (line :: ls)) = name ++ after ∧ EndsLine after ∧
      Text.trim after = Text.trim (following ls) := by
  cases written with
  | title spacingBefore spacingAfter =>
      exact ⟨_, trim_following spacingBefore identifier.isSolid _ ls,
        trim_spacing_following spacingAfter ls⟩

/-! ## Pairs -/

theorem readPairs_of_ok {text rest : List Char} {pair : RawPair}
    (read : readPair text = .ok (pair, rest)) :
    readPairs text = (pair :: (readPairs rest).1, (readPairs rest).2) := by
  rw [readPairs]
  split
  · rename_i found
    rw [read] at found
    cases found
    rfl
  · rename_i found
    rw [read] at found
    cases found

theorem readPairs_of_error {text failure : List Char} (read : readPair text = .error failure) :
    readPairs text = ([], text) := by
  rw [readPairs]
  split
  · rename_i found
    rw [read] at found
    cases found
  · rfl

/-- The pairs of a section are read, and no more if none follows. -/
theorem readPairs_following {pairs : List RawPair} {entries : List Entry} {ls : List (List Char)}
    (written : List.Forall₂ EntryLine (pairs.map .pair ++ entries) ls)
    (writable : ∀ pair ∈ pairs, pair.IsWritable)
    (stops : ∀ ls, List.Forall₂ EntryLine entries ls →
      ∃ failure, readPair (Text.trim (following ls)) = .error failure) :
    ∃ others, List.Forall₂ EntryLine entries others ∧
      readPairs (Text.trim (following ls)) = (pairs, Text.trim (following others)) := by
  induction pairs generalizing ls with
  | nil =>
      obtain ⟨failure, read⟩ := stops ls written
      exact ⟨ls, written, readPairs_of_error read⟩
  | cons pair pairs induction =>
      obtain ⟨first, later⟩ := List.forall_mem_cons.mp writable
      cases written with
      | cons line lines =>
          obtain ⟨others, remaining, read⟩ := induction lines later
          refine ⟨others, remaining, ?_⟩
          rw [readPairs_of_ok (readPair_following line first _), read]

/-! ## Sections -/

theorem readPair_sections {sections : List RawSection} {ls : List (List Char)}
    (writable : ∀ s ∈ sections, s.IsWritable)
    (written : List.Forall₂ EntryLine (sections.flatMap RawSection.entries) ls) :
    ∃ failure, readPair (Text.trim (following ls)) = .error failure := by
  cases sections with
  | nil =>
      cases written
      exact ⟨[], rfl⟩
  | cons s sections =>
      cases written with
      | cons line lines =>
          have title := (writable s List.mem_cons_self).title
          obtain ⟨after, next, ends, _⟩ := exists_title_following line title _
          rw [next]
          exact readPair_title title ends

/-- A section is read where its title stands but for spaces, and the other sections are left. -/
theorem readSection_written {s : RawSection} {sections : List RawSection} {text after : List Char}
    {ls : List (List Char)} (writable : ∀ t ∈ s :: sections, t.IsWritable)
    (written : List.Forall₂ EntryLine
      (s.pairs.map .pair ++ sections.flatMap RawSection.entries) ls)
    (next : skipSpaces text = s.title ++ after) (ends : EndsLine after)
    (same : Text.trim after = Text.trim (following ls)) :
    ∃ others, List.Forall₂ EntryLine (sections.flatMap RawSection.entries) others ∧
      readSection text = .ok (s, Text.trim (following others)) := by
  obtain ⟨first, later⟩ := List.forall_mem_cons.mp writable
  obtain ⟨pair, pairs, all⟩ := List.exists_cons_of_ne_nil first.nonempty
  have valid := first.pairs
  rw [all] at written valid
  obtain ⟨head, tail⟩ := List.forall_mem_cons.mp valid
  cases written with
  | cons line lines =>
      obtain ⟨others, remaining, read⟩ :=
        readPairs_following lines tail fun _ => readPair_sections later
      refine ⟨others, remaining, ?_⟩
      rw [readSection]
      simp only [next, readIdentifier_append first.title ends.takeWhile_isWordChar, same,
        readPair_following line head, read]
      rw [← all]

theorem readSections_of_ok {text rest : List Char} {found : RawSection}
    (read : readSection text = .ok (found, rest)) :
    readSections text = (found :: (readSections rest).1, (readSections rest).2) := by
  rw [readSections]
  split
  · rename_i same
    rw [read] at same
    cases same
    rfl
  · rename_i same
    rw [read] at same
    cases same

theorem readSections_of_error {text failure : List Char}
    (read : readSection text = .error failure) :
    readSections text = ([], text) := by
  rw [readSections]
  split
  · rename_i same
    rw [read] at same
    cases same
  · rfl

theorem readSections_following {sections : List RawSection} {ls : List (List Char)}
    (writable : ∀ s ∈ sections, s.IsWritable)
    (written : List.Forall₂ EntryLine (sections.flatMap RawSection.entries) ls) :
    readSections (Text.trim (following ls)) = (sections, []) := by
  induction sections generalizing ls with
  | nil =>
      cases written
      exact readSections_of_error rfl
  | cons s sections induction =>
      cases written with
      | @cons _ line _ ls first lines =>
          obtain ⟨title, later⟩ := List.forall_mem_cons.mp writable
          obtain ⟨after, next, ends, same⟩ := exists_title_following first title.title ls
          have start : skipSpaces (Text.trim (following (line :: ls))) = s.title ++ after := by
            rw [next]
            exact skipSpaces_solid title.title.isSolid after
          obtain ⟨others, remaining, read⟩ := readSection_written writable lines start ends same
          rw [readSections_of_ok read, induction later remaining]

theorem readRaw_written {sections : List RawSection} {ls : List (List Char)}
    (nonempty : sections ≠ []) (writable : ∀ s ∈ sections, s.IsWritable)
    (written : List.Forall₂ EntryLine (sections.flatMap RawSection.entries) ls) :
    readRaw (['\n'].intercalate ls) = .ok sections := by
  obtain ⟨s, others, rfl⟩ := List.exists_cons_of_ne_nil nonempty
  obtain ⟨title, later⟩ := List.forall_mem_cons.mp writable
  cases written with
  | @cons _ _ _ ls first lines =>
      cases first with
      | @title _ before after spacingBefore spacingAfter =>
          have start : skipSpaces (before ++ s.title ++ after ++ following ls) =
              s.title ++ (after ++ following ls) := by
            simp only [List.append_assoc]
            rw [skipSpaces_append spacingBefore, skipSpaces_solid title.title.isSolid]
          obtain ⟨remaining, left, read⟩ := readSection_written writable lines start
            ((endsLine_following ls).append_left spacingAfter)
            (Text.trim_append_left spacingAfter.isBlank _)
          rw [Text.intercalate_cons]
          change readRaw (before ++ s.title ++ after ++ following ls) = _
          rw [readRaw, read]
          simp only [readSections_following later left, Text.isAllBlank, List.all_nil, if_true]

/-- A document is read back as the sections that were written, whatever the layout. -/
theorem read_written {sections : List RawSection} {text : List Char}
    (written : Written sections text) :
    ∃ found, read (String.ofList text) = .ok found ∧
      List.Forall₂ RawSection.Denotes sections found := by
  obtain ⟨ls, lines, kept⟩ := written.dropComments
  refine ⟨sections.map RawSection.toSection, ?_, ?_⟩
  · rw [read, String.toList_ofList, kept, readRaw_written written.nonempty written.writable lines]
    rfl
  · exact List.forall₂_map_right_iff.mpr
      (List.forall₂_same.mpr fun s _ => s.denotes_toSection)

/-- Two sections, one with a pair without values. -/
def plainSections : List RawSection :=
  [⟨['a'], [⟨['b', '_', '1'], [['2'], ['-', 'x']]⟩, ⟨['c'], []⟩]⟩, ⟨['d'], [⟨['e'], [['f']]⟩]⟩]

/-- The sections among comments and blank lines, with both kinds of line ends. -/
def plainText : List Char :=
  "# x\r\n a\t\r\n\nb_1 :\t2 ,\t-x\n c:\t\r\n \t\n%\nd\n\te :f".toList

private theorem written_plain : Written plainSections plainText where
  nonempty := by decide
  writable := by
    have identifier : ∀ name ∈ [['a'], ['b', '_', '1'], ['c'], ['d'], ['e']],
        IsIdentifier name := by
      simp only [List.forall_mem_cons, List.not_mem_nil, false_imp_iff, implies_true, and_true]
      exact ⟨⟨'a', [], rfl, rfl, by simp⟩, ⟨'b', ['_', '1'], rfl, rfl, by simp [isWordChar]⟩,
        ⟨'c', [], rfl, rfl, by simp⟩, ⟨'d', [], rfl, rfl, by simp⟩, ⟨'e', [], rfl, rfl, by simp⟩⟩
    have valueText : ∀ value ∈ [['2'], ['-', 'x'], ['f']], IsValueText value := by
      simp [IsValueText, Text.isBlank]
    intro s member
    simp only [plainSections, List.mem_cons, List.not_mem_nil, or_false] at member
    rcases member with rfl | rfl
    · refine ⟨identifier _ (by simp), by simp, ?_⟩
      simp only [List.forall_mem_cons]
      exact ⟨⟨identifier _ (by simp), by simp [valueText]⟩,
        ⟨identifier _ (by simp), by simp⟩, by simp⟩
    · refine ⟨identifier _ (by simp), by simp, ?_⟩
      simp only [List.forall_mem_cons]
      exact ⟨⟨identifier _ (by simp), by simp [valueText]⟩, by simp⟩
  layout := by
    have space : IsSpacing [' '] := by simp [IsSpacing]
    have tab : IsSpacing ['\t'] := by simp [IsSpacing]
    have nothing : IsSpacing [] := by simp [IsSpacing]
    have a : EntryLine (.title ['a']) " a\t".toList := .title space tab
    have b : EntryLine (.pair ⟨['b', '_', '1'], [['2'], ['-', 'x']]⟩) "b_1 :\t2 ,\t-x".toList :=
      @EntryLine.pair ⟨['b', '_', '1'], [['2'], ['-', 'x']]⟩ [] [' '] ['\t'] "2 ,\t-x".toList []
        nothing space tab nothing (.cons (.cons space tab .nil))
    have c : EntryLine (.pair ⟨['c'], []⟩) " c:\t".toList :=
      @EntryLine.pair ⟨['c'], []⟩ [' '] [] ['\t'] [] [] space nothing tab nothing .nil
    have d : EntryLine (.title ['d']) "d".toList := .title nothing nothing
    have e : EntryLine (.pair ⟨['e'], [['f']]⟩) "\te :f".toList :=
      @EntryLine.pair ⟨['e'], [['f']]⟩ ['\t'] [' '] [] ['f'] [] tab space nothing nothing
        (.cons .nil)
    have heading : SilentLine "# x".toList :=
      @SilentLine.comment [] ['#'] " x".toList (by simp) (by simp)
    have percent : SilentLine "%".toList := @SilentLine.comment [] ['%'] [] (by simp) (by simp)
    have empty : SilentLine [] := .blank (by simp)
    have blank : SilentLine " \t".toList := .blank (by simp [Text.isBlank])
    exact ⟨_,
      .silent heading (by decide) (.entry a (.silent empty (by simp) (.entry b (.entry c
        (.silent blank (by decide) (.silent percent (by decide) (.entry d (.entry e .nil)))))))),
      .carriageReturn (.carriageReturn (.lineFeed (.lineFeed (.carriageReturn (.lineFeed
        (.lineFeed (.lineFeed (.last _))))))))⟩

theorem read_plain_among_comments :
    Written plainSections plainText ∧
      ∃ found, read (String.ofList plainText) = .ok found ∧
        List.Forall₂ RawSection.Denotes plainSections found :=
  ⟨written_plain, read_written written_plain⟩

end Document
end Task
end PlaneRegion
