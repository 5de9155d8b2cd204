import Mathlib.Data.List.DropRight
import Mathlib.Data.List.TakeWhile
import PlaneRegion.Text.Character

/-!
# Words and blanks

A text is cut where a run of characters ends, and texts are put together with separators between
them. At its ends a text may have blanks, which trimming removes.
-/

namespace PlaneRegion

/-! ## Words of a text -/

namespace Text

theorem isAlpha_iff {c : Char} :
    c.isAlpha = true ↔ (65 ≤ c.toNat ∧ c.toNat ≤ 90) ∨ (97 ≤ c.toNat ∧ c.toNat ≤ 122) := by
  have ranges : c.isAlpha = (decide ('A'.val ≤ c.val ∧ c.val ≤ 'Z'.val) ||
      (decide ('a'.val ≤ c.val) && decide (c.val ≤ 'z'.val))) := rfl
  rw [ranges]
  simp only [Bool.or_eq_true, Bool.and_eq_true, decide_eq_true_eq, UInt32.le_iff_toNat_le]
  rfl

theorem isDigit_iff {c : Char} : c.isDigit = true ↔ 48 ≤ c.toNat ∧ c.toNat ≤ 57 := by
  have range : c.isDigit = (decide ('0'.val ≤ c.val) && decide (c.val ≤ '9'.val)) := rfl
  rw [range]
  simp only [Bool.and_eq_true, decide_eq_true_eq, UInt32.le_iff_toNat_le]
  rfl

/-- A word is taken whole, and nothing more, if it is over where the rest begins. -/
theorem span_append {p : Char → Bool} {word rest : List Char} (inside : ∀ c ∈ word, p c = true)
    (ended : rest.takeWhile p = []) :
    (word ++ rest).takeWhile p = word ∧ (word ++ rest).dropWhile p = rest := by
  have untouched := List.takeWhile_append_dropWhile (p := p) (l := rest)
  rw [ended, List.nil_append] at untouched
  rw [List.takeWhile_append_of_pos inside, List.dropWhile_append_of_pos inside, ended, untouched,
    List.append_nil]
  exact ⟨rfl, rfl⟩

/-- Behind the first text of several with separators between them, each has one before it. -/
theorem intercalate_cons (separator : Char) (first : List Char) (others : List (List Char)) :
    [separator].intercalate (first :: others) =
      first ++ others.flatMap fun text => separator :: text := by
  induction others generalizing first with
  | nil => simp [List.intercalate]
  | cons next others induction =>
      rw [List.intercalate_cons_cons, induction next, List.flatMap_cons]
      simp

/-! ## Blanks at the ends of a text

Trimming removes blanks only, and removes them at the ends only. It does not see how many blanks
stand there, and a text that begins and ends with other characters is left alone by it.
-/

/-- Trimming at the end is dropping blanks from the right. -/
theorem trimEnd_eq_rdropWhile (text : List Char) : trimEnd text = text.rdropWhile isBlank := rfl

theorem trim_nil : trim [] = [] := rfl

/-- What is removed from a text are blanks at its ends. -/
theorem exists_trim (text : List Char) :
    ∃ before after, text = before ++ trim text ++ after ∧ (∀ c ∈ before, isBlank c = true) ∧
      ∀ c ∈ after, isBlank c = true := by
  let tail := text.dropWhile isBlank
  refine ⟨text.takeWhile isBlank, tail.rtakeWhile isBlank, ?_, fun _ member =>
    List.mem_takeWhile_imp member, fun _ member => List.mem_rtakeWhile_imp member⟩
  have ending : trim text ++ tail.rtakeWhile isBlank = tail :=
    List.rdropWhile_append_rtakeWhile
  rw [List.append_assoc, ending]
  exact List.takeWhile_append_dropWhile.symm

/-- Blanks before a text are not seen. -/
theorem trim_append_left {blanks : List Char} (blank : ∀ c ∈ blanks, isBlank c = true)
    (text : List Char) : trim (blanks ++ text) = trim text := by
  rw [trim, List.dropWhile_append_of_pos blank, trim]

/-- Behind a character that is not blank everything stays but the blanks at the end. -/
theorem trimEnd_append_cons (text : List Char) {c : Char} (visible : isBlank c = false)
    (after : List Char) : trimEnd (text ++ c :: after) = text ++ c :: trimEnd after := by
  simp only [trimEnd_eq_rdropWhile]
  induction after using List.reverseRecOn with
  | nil =>
      rw [List.rdropWhile_nil]
      exact List.rdropWhile_concat_neg _ _ _ (by simp [visible])
  | append_singleton after last induction =>
      rw [← List.cons_append, ← List.append_assoc, List.rdropWhile_concat, List.rdropWhile_concat,
        induction]
      split <;> simp

/-- Blanks behind a text are not seen. -/
theorem trim_append_right (text : List Char) {blanks : List Char}
    (blank : ∀ c ∈ blanks, isBlank c = true) : trim (text ++ blanks) = trim text := by
  have nothing : ∀ front : List Char, trimEnd (front ++ blanks) = trimEnd front := by
    intro front
    simp only [trimEnd, List.reverse_append]
    rw [List.dropWhile_append_of_pos fun c member => blank c (List.mem_reverse.mp member)]
  rw [trim, List.dropWhile_append]
  split
  · rename_i empty
    rw [trim, List.isEmpty_iff.mp empty, List.dropWhile_eq_nil_iff.mpr blank]
  · exact nothing _

/-- Blanks that are trimmed at the end once are not seen afterwards. -/
theorem trim_trimEnd (text : List Char) : trim (trimEnd text) = trim text := by
  have ending : trimEnd text ++ text.rtakeWhile isBlank = text :=
    List.rdropWhile_append_rtakeWhile
  conv_rhs => rw [← ending]
  exact (trim_append_right _ fun _ member => List.mem_rtakeWhile_imp member).symm

/-- A text whose last character is not blank. -/
def EndsVisible (text : List Char) : Prop :=
  ∃ rest last, text = rest ++ [last] ∧ isBlank last = false

theorem EndsVisible.append_left (before : List Char) {text : List Char} (ends : EndsVisible text) :
    EndsVisible (before ++ text) := by
  obtain ⟨rest, last, rfl, visible⟩ := ends
  exact ⟨before ++ rest, last, (List.append_assoc ..).symm, visible⟩

/-- A text whose first and last character are not blank. -/
structure IsSolid (text : List Char) : Prop where
  starts : ∃ first rest, text = first :: rest ∧ isBlank first = false
  ends : EndsVisible text

theorem isSolid_of_visible {text : List Char} (nonempty : text ≠ [])
    (visible : ∀ c ∈ text, isBlank c = false) : IsSolid text := by
  constructor
  · obtain ⟨first, rest, rfl⟩ := List.exists_cons_of_ne_nil nonempty
    exact ⟨first, rest, rfl, visible first List.mem_cons_self⟩
  · refine ⟨text.dropLast, text.getLast nonempty, (List.dropLast_append_getLast nonempty).symm, ?_⟩
    exact visible _ (List.getLast_mem nonempty)

theorem IsSolid.append {first last : List Char} (solid : IsSolid first) (ends : EndsVisible last) :
    IsSolid (first ++ last) where
  starts := by
    obtain ⟨c, rest, rfl, visible⟩ := solid.starts
    exact ⟨c, rest ++ last, rfl, visible⟩
  ends := ends.append_left first

/-- A solid text and what follows it stay, but for the blanks at the end. -/
theorem IsSolid.trim_append {text : List Char} (solid : IsSolid text) (after : List Char) :
    trim (text ++ after) = text ++ trimEnd after := by
  obtain ⟨first, rest, starts, visible⟩ := solid.starts
  obtain ⟨front, last, ends, visibleLast⟩ := solid.ends
  have kept : (text ++ after).dropWhile isBlank = text ++ after := by
    rw [starts, List.cons_append, List.dropWhile_cons_of_neg (by simp [visible])]
  rw [trim, kept, ends, List.append_assoc, List.singleton_append,
    trimEnd_append_cons front visibleLast, List.append_assoc, List.singleton_append]

theorem compact_append (first second : List Char) :
    compact (first ++ second) = compact first ++ compact second :=
  List.filter_append ..

theorem compact_eq_nil {blanks : List Char} (blank : ∀ c ∈ blanks, isBlank c = true) :
    compact blanks = [] :=
  List.filter_eq_nil_iff.mpr fun c member => by simp [blank c member]

/-- Blanks at the two ends disappear with all others. -/
theorem compact_trim (text : List Char) : compact (trim text) = compact text := by
  obtain ⟨before, after, split, blankBefore, blankAfter⟩ := exists_trim text
  have parts : compact text = compact before ++ compact (trim text) ++ compact after := by
    rw [← compact_append, ← compact_append, ← split]
  rw [parts, compact_eq_nil blankBefore, compact_eq_nil blankAfter, List.append_nil,
    List.nil_append]

end Text
end PlaneRegion
