import Mathlib.Data.List.Forall2
import PlaneRegion.Proofs.Text.Words
import PlaneRegion.Task.Tables

/-!
# Exported samples are read back

A reader of comma-separated values goes through a text character by character.  A quote at the
beginning of a field opens it, and inside such a field two quotes stand for one, so commas and line
ends count only outside of quotes.  Written records are read back as they are, whatever their fields
hold, and so an exported file has one record for each sample.
-/

namespace PlaneRegion
namespace Csv

/-! ## Reading -/

/-- Where a reader stands in a record. -/
inductive Place where
  /-- A field begins here. -/
  | start
  /-- Inside a field without quotes. -/
  | bare
  /-- Between the quotes of a field. -/
  | quoted
  /-- Behind a quote in a quoted field, which is its end unless another quote follows. -/
  | behindQuote
  /-- Behind a carriage return, which only belongs before a line feed. -/
  | behindReturn

/-- What a reader has found so far. -/
structure Reader where
  place : Place
  /-- The field that the reader is in. -/
  field : List Char
  /-- The fields before it in its record. -/
  fields : List String
  /-- The records before that one. -/
  records : List (List String)

namespace Reader

/-- Nothing has been read. -/
def initial : Reader := ⟨.start, [], [], []⟩

/-- Go on to the next field. -/
def endField (reader : Reader) : Reader :=
  { reader with
    place := .start
    field := []
    fields := reader.fields ++ [String.ofList reader.field] }

/-- Go on to the next record. -/
def endRecord (reader : Reader) : Reader :=
  ⟨.start, [], [], reader.records ++ [reader.endField.fields]⟩

/-- Read one character outside of quotes; a quote does not belong there. -/
def stepBare (reader : Reader) (c : Char) : Option Reader :=
  if c = ',' then some reader.endField
  else if c = '\n' then some reader.endRecord
  else if c = '\r' then some { reader with place := .behindReturn }
  else if c = '"' then none
  else some { reader with place := .bare, field := reader.field ++ [c] }

/-- Read one character. -/
def step (reader : Reader) (c : Char) : Option Reader :=
  match reader.place with
  | .start => if c = '"' then some { reader with place := .quoted } else reader.stepBare c
  | .bare => reader.stepBare c
  | .quoted =>
      if c = '"' then some { reader with place := .behindQuote }
      else some { reader with field := reader.field ++ [c] }
  | .behindQuote =>
      if c = '"' then some { reader with place := .quoted, field := reader.field ++ [c] }
      else if c = ',' ∨ c = '\n' ∨ c = '\r' then reader.stepBare c
      else none
  | .behindReturn => if c = '\n' then some reader.endRecord else none

/-- The records at the end of a text; the last one may be without a line end. -/
def result (reader : Reader) : Option (List (List String)) :=
  match reader.place with
  | .start => if reader.fields = [] then some reader.records else some reader.endRecord.records
  | .bare | .behindQuote => some reader.endRecord.records
  | .quoted | .behindReturn => none

end Reader

/-- The records of a text of comma-separated values. -/
def read (text : String) : Option (List (List String)) :=
  (text.toList.foldlM Reader.step .initial).bind Reader.result

/-! ## Fields -/

/-- A field may end here. -/
def Place.MayEnd (place : Place) : Prop :=
  place = .start ∨ place = .bare ∨ place = .behindQuote

section Fields

variable {place : Place} {field : List Char} {fields : List String} {records : List (List String)}

theorem step_comma (ends : place.MayEnd) :
    Reader.step ⟨place, field, fields, records⟩ ',' =
      some ⟨.start, [], fields ++ [String.ofList field], records⟩ := by
  rcases ends with rfl | rfl | rfl <;> rfl

theorem step_lineFeed (ends : place.MayEnd) :
    Reader.step ⟨place, field, fields, records⟩ '\n' =
      some ⟨.start, [], [], records ++ [fields ++ [String.ofList field]]⟩ := by
  rcases ends with rfl | rfl | rfl <;> rfl

theorem step_plain {c : Char} (outside : place = .start ∨ place = .bare)
    (plain : needsQuotes c = false) :
    Reader.step ⟨place, field, fields, records⟩ c =
      some ⟨.bare, field ++ [c], fields, records⟩ := by
  simp only [needsQuotes, Bool.or_eq_false_iff, beq_eq_false_iff_ne] at plain
  rcases outside with rfl | rfl <;> simp [Reader.step, Reader.stepBare, plain]

/-- Between quotes a character is read as it was written, a quote from two. -/
theorem foldlM_quotedChar (c : Char) :
    (quotedChar c).foldlM Reader.step ⟨.quoted, field, fields, records⟩ =
      some ⟨.quoted, field ++ [c], fields, records⟩ := by
  by_cases quote : c = '"'
  · subst quote
    rfl
  · simp [quotedChar, Reader.step, quote]

theorem foldlM_flatMap_quotedChar (text : List Char) :
    (text.flatMap quotedChar).foldlM Reader.step ⟨.quoted, field, fields, records⟩ =
      some ⟨.quoted, field ++ text, fields, records⟩ := by
  induction text generalizing field with
  | nil => simp
  | cons c text induction =>
      have later := @induction (field ++ [c])
      rw [List.flatMap_cons, List.foldlM_append, foldlM_quotedChar]
      simpa using later

theorem foldlM_plain {text : List Char} (plain : ∀ c ∈ text, needsQuotes c = false)
    (outside : place = .start ∨ place = .bare) :
    ∃ last, last.MayEnd ∧ text.foldlM Reader.step ⟨place, field, fields, records⟩ =
      some ⟨last, field ++ text, fields, records⟩ := by
  induction text generalizing place field with
  | nil => exact ⟨place, outside.imp_right .inl, by simp⟩
  | cons c text induction =>
      obtain ⟨first, others⟩ := List.forall_mem_cons.mp plain
      obtain ⟨last, ends, read⟩ := @induction .bare (field ++ [c]) others (.inr rfl)
      refine ⟨last, ends, ?_⟩
      rw [List.foldlM_cons, step_plain outside first]
      simpa using read

/-- A field is read as it was written, up to a place where it may end. -/
theorem exists_foldlM_field (text : List Char) :
    ∃ last, last.MayEnd ∧ (Csv.field text).foldlM Reader.step ⟨.start, [], fields, records⟩ =
      some ⟨last, text, fields, records⟩ := by
  rw [Csv.field]
  split_ifs with special
  · refine ⟨.behindQuote, .inr (.inr rfl), ?_⟩
    rw [List.cons_append, List.foldlM_cons]
    have opened : Reader.step ⟨.start, [], fields, records⟩ '"' =
        some ⟨.quoted, [], fields, records⟩ := rfl
    simp only [opened, Option.bind_eq_bind, Option.bind_some, List.foldlM_append,
      foldlM_flatMap_quotedChar, List.nil_append]
    rfl
  · simpa using @foldlM_plain .start [] fields records text (by simpa using special) (.inl rfl)

end Fields

/-! ## Records -/

section Records

variable {records : List (List String)}

/-- The fields behind a comma are read one after the other. -/
theorem exists_foldlM_fields {place : Place} (ends : place.MayEnd) (text : List Char)
    (others : List (List Char)) (before : List String) :
    ∃ last lastText front, last.MayEnd ∧
      (others.flatMap fun other => ',' :: field other).foldlM Reader.step
        ⟨place, text, before, records⟩ = some ⟨last, lastText, front, records⟩ ∧
      front ++ [String.ofList lastText] =
        before ++ (text :: others).map String.ofList := by
  induction others generalizing place text before with
  | nil => exact ⟨place, text, before, ends, rfl, rfl⟩
  | cons other others induction =>
      obtain ⟨next, mayEnd, read⟩ :=
        @exists_foldlM_field (before ++ [String.ofList text]) records other
      obtain ⟨last, lastText, front, lastEnds, later, all⟩ :=
        induction mayEnd other (before ++ [String.ofList text])
      refine ⟨last, lastText, front, lastEnds, ?_, by simpa using all⟩
      rw [List.flatMap_cons, List.foldlM_append, List.foldlM_cons, step_comma ends]
      simp only [Option.bind_eq_bind, Option.bind_some, read, later]

/-- A record is read as the fields that were written. -/
theorem foldlM_record {fields : List (List Char)} (filled : fields ≠ []) :
    (record fields).foldlM Reader.step ⟨.start, [], [], records⟩ =
      some ⟨.start, [], [], records ++ [fields.map String.ofList]⟩ := by
  obtain ⟨first, others, rfl⟩ := List.exists_cons_of_ne_nil filled
  obtain ⟨place, ends, read⟩ := @exists_foldlM_field [] records first
  obtain ⟨last, lastText, front, lastEnds, later, all⟩ :=
    @exists_foldlM_fields records place ends first others []
  rw [record, List.map_cons, Text.intercalate_cons, List.flatMap_map, List.foldlM_append,
    List.foldlM_append, read]
  simp only [Option.bind_eq_bind, Option.bind_some, later, List.foldlM_cons, List.foldlM_nil,
    step_lineFeed lastEnds, all]
  rfl

theorem foldlM_flatMap_record {written : List (List (List Char))}
    (filled : ∀ fields ∈ written, fields ≠ []) :
    (written.flatMap record).foldlM Reader.step ⟨.start, [], [], records⟩ =
      some ⟨.start, [], [], records ++ written.map (List.map String.ofList)⟩ := by
  induction written generalizing records with
  | nil => simp
  | cons fields written induction =>
      obtain ⟨first, others⟩ := List.forall_mem_cons.mp filled
      have later := @induction (records ++ [fields.map String.ofList]) others
      rw [List.flatMap_cons, List.foldlM_append, foldlM_record first]
      simpa using later

/-- Written records are read back, whatever their fields hold. -/
theorem read_flatMap_record {written : List (List (List Char))}
    (filled : ∀ fields ∈ written, fields ≠ []) :
    read (String.ofList (written.flatMap record)) =
      some (written.map (List.map String.ofList)) := by
  rw [read, String.toList_ofList, Reader.initial, foldlM_flatMap_record filled]
  rfl

end Records

/-! ## Samples -/

/-- One record for each sample of the curve in order: the label as it is, and the plain forms of the
input and the value. -/
def RecordsOf (curve : SampledCurve) (block : List (List String)) : Prop :=
  List.Forall₂
    (fun sample record => record = [curve.label, Binary64.text sample.1, Binary64.text sample.2])
    curve.samples block

theorem exists_recordsOf (curves : List SampledCurve) :
    ∃ blocks, List.Forall₂ RecordsOf curves blocks ∧
      (records curves).map (List.map String.ofList) = blocks.flatten := by
  refine ⟨curves.map fun curve => curve.samples.map fun sample =>
    [curve.label, Binary64.text sample.1, Binary64.text sample.2], ?_, ?_⟩
  · refine List.forall₂_map_right_iff.mpr (List.forall₂_same.mpr fun curve _ => ?_)
    exact List.forall₂_map_right_iff.mpr (List.forall₂_same.mpr fun sample _ => rfl)
  · simp [records, List.flatMap, Function.comp_def]

/-- An exported file is read back as the header and then, curve by curve, one record for each sample
in order, with the label as it was given; a curve without samples has no records. -/
theorem samples_read_back (curves : List SampledCurve) :
    ∃ blocks : List (List (List String)), List.Forall₂ RecordsOf curves blocks ∧
      read (document curves) = some (["curve", "input", "value"] :: blocks.flatten) := by
  obtain ⟨blocks, each, all⟩ := exists_recordsOf curves
  have filled : ∀ fields ∈ header :: records curves, fields ≠ [] := by
    refine List.forall_mem_cons.mpr ⟨List.cons_ne_nil _ _, fun fields member => ?_⟩
    obtain ⟨curve, _, own⟩ := List.mem_flatMap.mp member
    obtain ⟨sample, _, rfl⟩ := List.mem_map.mp own
    exact List.cons_ne_nil _ _
  refine ⟨blocks, each, ?_⟩
  rw [document, read_flatMap_record filled, List.map_cons, all]
  rfl

/-- A label with a quote, a comma and a line break is one field of one record. -/
example : read (document [⟨"y=\"x\",\n1", [(0, 1)]⟩, ⟨"x=2", []⟩]) =
    some [["curve", "input", "value"], ["y=\"x\",\n1", "0", "1"]] := by decide +kernel

end Csv
end PlaneRegion
