import Mathlib.Logic.Relation
import PlaneRegion.Proofs.Journal.Outcome
import PlaneRegion.Proofs.Task.Setting

/-!
# What a document means

A list of sections gives each setting what the last pair with its name says, and collects the rows
of all pairs under curves.  Only the order of the pairs under one title matters for that, so
sections of different titles can change places, and sections of one title can be joined or cut
apart.
-/

namespace PlaneRegion
namespace Task

/-- The pairs of a document in order, each with the title that it stands under. -/
def titledPairs (sections : List Section) : List (String × Pair) :=
  sections.flatMap fun s => s.pairs.map fun pair => (s.title, pair)

namespace Setting

/-- The pairs that name a setting. -/
def occurrences (s : Setting) (items : List (String × Pair)) : List (String × Pair) :=
  items.filter fun item => (item.1, item.2.key) = s.name

/-- What a task has for a setting after the pairs: what the last pair that names it says, or what
the task had before. -/
def IsLeft (s : Setting) (before after : Task) (items : List (String × Pair)) : Prop :=
  match (s.occurrences items).getLast? with
  | none => s.get after = s.get before
  | some item => ∃ value content,
      item.2.values = [value] ∧ s.Means value content ∧ s.get after = some content

end Setting

/-- The task has the last value of every setting, or the standard one, and the rows of all pairs
under curves: one for each value, and a blank one for a pair without values. -/
structure IsDescribedBy (task : Task) (sections : List Section) : Prop where
  setting : ∀ s : Setting, s.IsLeft standard task (titledPairs sections)
  rows : task.rows =
    ((titledPairs sections).filter fun item => item.1 = "curves").flatMap fun item =>
      (if item.2.values = [] then [""] else item.2.values.map Value.toText).map (⟨item.2.key, ·⟩)

/-- One change to the order or the number of sections that keeps what stands under each title. -/
inductive Rearranged : List Section → List Section → Prop where
  /-- Sections of one title stay in order. -/
  | reordered {sections others : List Section}
      (same : ∀ title, sections.filter (·.title = title) = others.filter (·.title = title)) :
      Rearranged sections others
  /-- Two sections of one title that follow each other become one. -/
  | merged (before after : List Section) (title : String) (pairs later : List Pair) :
      Rearranged (before ++ ⟨title, pairs⟩ :: ⟨title, later⟩ :: after)
        (before ++ ⟨title, pairs ++ later⟩ :: after)

/-! ## All pairs -/

theorem mapM_eq_ok_iff {ε β γ : Type} {f : β → Except ε γ} {items : List β} {results : List γ} :
    items.mapM f = .ok results ↔
      List.Forall₂ (fun item result => f item = .ok result) items results := by
  induction items generalizing results with
  | nil => simp [pure, Except.pure, List.forall₂_nil_left_iff, eq_comm]
  | cons item items induction =>
      simp only [List.mapM_cons, bind_eq_ok_iff, induction, List.forall₂_cons_left_iff]
      constructor
      · rintro ⟨result, head, later, tail, ⟨⟩⟩
        exact ⟨result, later, head, tail, rfl⟩
      · rintro ⟨result, later, head, tail, rfl⟩
        exact ⟨result, head, later, tail, rfl⟩

/-- The curves of a document in order. -/
def rowsUnder (items : List (String × Pair)) : List Row :=
  (items.filter fun item => item.1 = "curves").flatMap fun item => rowsOf item.2

theorem rowsUnder_cons_of_curves {item : String × Pair} (curves : item.1 = "curves")
    (items : List (String × Pair)) :
    rowsUnder (item :: items) = rowsOf item.2 ++ rowsUnder items := by
  simp [rowsUnder, curves]

theorem rowsUnder_cons_of_ne {item : String × Pair} (other : item.1 ≠ "curves")
    (items : List (String × Pair)) : rowsUnder (item :: items) = rowsUnder items := by
  simp [rowsUnder, other]

theorem rowsUnder_append (items others : List (String × Pair)) :
    rowsUnder (items ++ others) = rowsUnder items ++ rowsUnder others := by
  rw [rowsUnder, List.filter_append, List.flatMap_append, rowsUnder, rowsUnder]

/-- The rows of one section. -/
theorem rowsUnder_section (title : String) (pairs : List Pair) :
    rowsUnder (pairs.map fun pair => (title, pair)) =
      if title = "curves" then pairs.flatMap rowsOf else [] := by
  induction pairs with
  | nil => simp [rowsUnder]
  | cons pair pairs induction =>
      rw [List.map_cons]
      by_cases curves : title = "curves"
      · rw [rowsUnder_cons_of_curves curves, induction, if_pos curves, if_pos curves,
          List.flatMap_cons]
      · rw [rowsUnder_cons_of_ne curves, induction, if_neg curves, if_neg curves]

theorem Setting.occurrences_cons_of_name {s : Setting} {item : String × Pair}
    (named : (item.1, item.2.key) = s.name) (items : List (String × Pair)) :
    s.occurrences (item :: items) = item :: s.occurrences items :=
  List.filter_cons_of_pos (decide_eq_true named)

theorem Setting.occurrences_cons_of_ne {s : Setting} {item : String × Pair}
    (other : (item.1, item.2.key) ≠ s.name) (items : List (String × Pair)) :
    s.occurrences (item :: items) = s.occurrences items :=
  List.filter_cons_of_neg (by simpa using other)

/-- A pair that names another setting, or none, does not count. -/
theorem Setting.IsLeft.cons_of_ne {s : Setting} {before task after : Task} {item : String × Pair}
    {items : List (String × Pair)} (later : s.IsLeft task after items)
    (other : (item.1, item.2.key) ≠ s.name) (same : s.get task = s.get before) :
    s.IsLeft before after (item :: items) := by
  rw [IsLeft, occurrences_cons_of_ne other, ← same]
  exact later

/-- A pair that names the setting counts unless a later one does. -/
theorem Setting.IsLeft.cons_of_name {s : Setting} {before task after : Task} {item : String × Pair}
    {items : List (String × Pair)} {value : Value} {content : s.Content}
    (later : s.IsLeft task after items) (named : (item.1, item.2.key) = s.name)
    (values : item.2.values = [value]) (means : s.Means value content)
    (set : s.get task = some content) : s.IsLeft before after (item :: items) := by
  rw [IsLeft, occurrences_cons_of_name named, List.getLast?_cons]
  rw [IsLeft] at later
  cases last : (s.occurrences items).getLast? with
  | none =>
      rw [last] at later
      exact ⟨value, content, values, means, later.trans set⟩
  | some item =>
      rw [last] at later
      exact later

/-- The assignments of acceptable pairs leave every setting with its last value, and append the
rows. -/
theorem foldl_assign {items : List (String × Pair)} {assigned : List Assignment}
    (each : List.Forall₂ (fun item assigned => assignment item.1 item.2 = .ok assigned) items
      assigned) (task : Task) :
    (∀ s : Setting, s.IsLeft task (assigned.foldl assign task) items) ∧
      (assigned.foldl assign task).rows = task.rows ++ rowsUnder items := by
  induction each generalizing task with
  | nil => exact ⟨fun s => rfl, (List.append_nil _).symm⟩
  | @cons item assigned items _ first _ induction =>
      obtain ⟨left, rows⟩ := induction (assign task assigned)
      rcases assignment_eq_ok_iff.mp first with
        ⟨curves, rfl⟩ | ⟨s, value, content, named, values, means, rfl⟩
      · refine ⟨fun s => (left s).cons_of_ne (fun named => s.name_ne_curves ?_) ?_, ?_⟩
        · exact (congrArg Prod.fst named).symm.trans curves
        · cases s <;> rfl
        · rw [List.foldl_cons, rows, rowsUnder_cons_of_curves curves, ← List.append_assoc]
          rfl
      · refine ⟨fun other => ?_, ?_⟩
        · by_cases same : other = s
          · subst same
            exact (left other).cons_of_name named values means (other.get_assign content task)
          · refine (left other).cons_of_ne (fun also => same ?_)
              (Setting.get_assign_of_ne same content task)
            exact Setting.name_injective (also.symm.trans named)
        · have other : item.1 ≠ "curves" := fun curves =>
            s.name_ne_curves ((congrArg Prod.fst named).symm.trans curves)
          rw [List.foldl_cons, rows, s.rows_assign, rowsUnder_cons_of_ne other]

/-! ## Documents -/

theorem rowsOf_eq_map (pair : Pair) :
    rowsOf pair = (if pair.values = [] then [""] else pair.values.map Value.toText).map
      (⟨pair.key, ·⟩) := by
  obtain ⟨key, values⟩ := pair
  cases values with
  | nil => rfl
  | cons value values => exact (List.map_map (l := value :: values)).symm

theorem isDescribedBy_iff {task : Task} {sections : List Section} :
    task.IsDescribedBy sections ↔
      (∀ s : Setting, s.IsLeft standard task (titledPairs sections)) ∧
        task.rows = rowsUnder (titledPairs sections) := by
  simp only [rowsUnder, rowsOf_eq_map]
  exact ⟨fun described => ⟨described.setting, described.rows⟩,
    fun ⟨setting, rows⟩ => ⟨setting, rows⟩⟩

/-- What a value sets a setting to is unique. -/
theorem Setting.Means.unique {s : Setting} {value : Value} {content other : s.Content}
    (means : s.Means value content) (also : s.Means value other) : content = other := by
  cases s with
  | width | height => exact Int.natCast_inj.mp (Value.integer.inj (means.1.symm.trans also.1))
  | scaleX | scaleY | step | smoothness => cases means <;> cases also <;> rfl
  | png | svg | csv | logLevel => exact means.symm.trans also
  | logFile => exact Value.boolean.inj (means.symm.trans also)

/-- A document describes one task at most. -/
theorem IsDescribedBy.unique {task other : Task} {sections : List Section}
    (described : task.IsDescribedBy sections) (also : other.IsDescribedBy sections) :
    task = other := by
  refine Setting.ext_get (fun s => ?_) (described.rows.trans also.rows.symm)
  have left := described.setting s
  have right := also.setting s
  rw [Setting.IsLeft] at left right
  cases last : (s.occurrences (titledPairs sections)).getLast? with
  | none =>
      rw [last] at left right
      exact left.trans right.symm
  | some item =>
      rw [last] at left right
      obtain ⟨value, content, values, means, known⟩ := left
      obtain ⟨same, again, alone, denotes, found⟩ := right
      cases values.symm.trans alone
      rw [known, found, means.unique denotes]

/-- A task whose assignments succeed is the described one. -/
theorem isDescribedBy_foldl {sections : List Section} {assigned : List Assignment}
    (each : List.Forall₂ (fun item assigned => assignment item.1 item.2 = .ok assigned)
      (titledPairs sections) assigned) :
    (assigned.foldl assign standard).IsDescribedBy sections :=
  isDescribedBy_iff.mpr (foldl_assign each standard)

theorem checked_eq_ok_iff {task result : Task} :
    checked task = .ok result ↔
      task = result ∧ result.viewport.fault? = none ∧ result.sampling.fault? = none := by
  rw [checked]
  split
  · rename_i fault viewport
    refine iff_of_false nofun ?_
    rintro ⟨rfl, sound, _⟩
    cases sound.symm.trans viewport
  · rename_i fault _ sampling
    refine iff_of_false nofun ?_
    rintro ⟨rfl, _, sound⟩
    cases sound.symm.trans sampling
  · rename_i viewport sampling
    rw [Except.ok.injEq]
    exact ⟨fun same => same ▸ ⟨rfl, viewport, sampling⟩, And.left⟩

/-- Pairs can be assigned one after the other when each is acceptable on its own. -/
theorem exists_assigned_iff {items : List (String × Pair)} :
    (∃ assigned, List.Forall₂ (fun item assigned => assignment item.1 item.2 = .ok assigned) items
        assigned) ↔ ∀ item ∈ items, IsAcceptable item.1 item.2 := by
  constructor
  · rintro ⟨assigned, each⟩
    induction each with
    | nil => exact nofun
    | cons first _ induction =>
        exact List.forall_mem_cons.mpr ⟨isAcceptable_iff.mpr ⟨_, first⟩, induction⟩
  · exact fun acceptable =>
      exists_forall₂ fun item member => isAcceptable_iff.mp (acceptable item member)

/-- Acceptable pairs describe a task. -/
theorem exists_isDescribedBy {sections : List Section}
    (acceptable : ∀ item ∈ titledPairs sections, IsAcceptable item.1 item.2) :
    ∃ task : Task, task.IsDescribedBy sections := by
  obtain ⟨assigned, each⟩ := exists_assigned_iff.mpr acceptable
  exact ⟨_, isDescribedBy_foldl each⟩

/-- A list of sections is accepted as the task that it describes, if every pair is acceptable and
the task can be used. -/
theorem ofSections_eq_ok_iff {sections : List Section} {task : Task} :
    ofSections sections = .ok task ↔
      (∀ item ∈ titledPairs sections, IsAcceptable item.1 item.2) ∧
        task.IsDescribedBy sections ∧ task.viewport.fault? = none ∧
          task.sampling.fault? = none := by
  have run : ofSections sections = .ok task ↔ ∃ assigned,
      List.Forall₂ (fun item assigned => assignment item.1 item.2 = .ok assigned)
        (titledPairs sections) assigned ∧ checked (assigned.foldl assign standard) = .ok task := by
    rw [ofSections, bind_eq_ok_iff]
    exact exists_congr fun assigned => and_congr_left fun _ => mapM_eq_ok_iff
  rw [run]
  constructor
  · rintro ⟨assigned, each, accepted⟩
    obtain ⟨rfl, viewport, sampling⟩ := checked_eq_ok_iff.mp accepted
    exact ⟨exists_assigned_iff.mp ⟨assigned, each⟩, isDescribedBy_foldl each, viewport, sampling⟩
  · rintro ⟨acceptable, described, usable⟩
    obtain ⟨assigned, each⟩ := exists_assigned_iff.mpr acceptable
    have same := (isDescribedBy_foldl each).unique described
    exact ⟨assigned, each, checked_eq_ok_iff.mpr ⟨same, usable⟩⟩

/-! ## Rearranged sections -/

/-- The pairs under each title are the same in the same order. -/
def AgreeOnTitles (items others : List (String × Pair)) : Prop :=
  ∀ title, items.filter (·.1 = title) = others.filter (·.1 = title)

namespace AgreeOnTitles

variable {items others : List (String × Pair)}

theorem mem_iff (agree : AgreeOnTitles items others) (item : String × Pair) :
    item ∈ items ↔ item ∈ others := by
  have same := agree item.1
  simpa using congrArg (item ∈ ·) same

theorem occurrences_eq (agree : AgreeOnTitles items others) (s : Setting) :
    s.occurrences items = s.occurrences others := by
  have split : ∀ items : List (String × Pair), s.occurrences items =
      (items.filter (·.1 = s.name.1)).filter fun item => item.2.key = s.name.2 := by
    intro items
    rw [List.filter_filter, Setting.occurrences]
    refine List.filter_congr fun item _ => ?_
    rw [Bool.and_comm]
    simp [Prod.ext_iff]
  rw [split, split, agree]

theorem rowsUnder_eq (agree : AgreeOnTitles items others) : rowsUnder items = rowsUnder others := by
  rw [rowsUnder, rowsUnder, agree]

end AgreeOnTitles

theorem filter_titledPairs (title : String) (sections : List Section) :
    (titledPairs sections).filter (·.1 = title) =
      titledPairs (sections.filter (·.title = title)) := by
  induction sections with
  | nil => rfl
  | cons s sections induction =>
      rw [titledPairs] at induction ⊢
      by_cases same : s.title = title <;> simp [titledPairs, induction, same]

theorem Rearranged.agree {sections others : List Section}
    (rearranged : Rearranged sections others) :
    AgreeOnTitles (titledPairs sections) (titledPairs others) := by
  intro title
  cases rearranged with
  | reordered same => rw [filter_titledPairs, filter_titledPairs, same]
  | merged => simp [titledPairs]

/-- Sections that are rearranged step by step, there or back, keep the pairs of each title. -/
theorem agree_of_eqvGen {sections others : List Section}
    (rearranged : Relation.EqvGen Rearranged sections others) :
    AgreeOnTitles (titledPairs sections) (titledPairs others) := by
  induction rearranged with
  | rel _ _ step => exact step.agree
  | refl => exact fun _ => rfl
  | symm _ _ _ induction => exact fun title => (induction title).symm
  | trans _ _ _ _ _ first second => exact fun title => (first title).trans (second title)

/-- A list of sections is accepted exactly when each pair is acceptable on its own and the task that
it describes has a viewport and a sampling that can be used; that task is unique, and it stays the
same when the sections are rearranged. -/
theorem ofSections_means_described_task (sections : List Section) :
    (∀ task, ofSections sections = .ok task ↔
      (∀ item ∈ titledPairs sections, IsAcceptable item.1 item.2) ∧
        task.IsDescribedBy sections ∧ task.viewport.fault? = none ∧
          task.sampling.fault? = none) ∧
    ((∀ item ∈ titledPairs sections, IsAcceptable item.1 item.2) →
      ∃! task : Task, task.IsDescribedBy sections) ∧
    ∀ others, Relation.EqvGen Rearranged sections others →
      ∀ task, ofSections sections = .ok task ↔ ofSections others = .ok task := by
  refine ⟨fun task => ofSections_eq_ok_iff, fun acceptable => ?_, fun others rearranged task => ?_⟩
  · obtain ⟨task, described⟩ := exists_isDescribedBy acceptable
    exact ⟨task, described, fun other also => also.unique described⟩
  · have agree := agree_of_eqvGen rearranged
    simp only [ofSections_eq_ok_iff, isDescribedBy_iff, Setting.IsLeft, agree.mem_iff,
      agree.occurrences_eq, agree.rowsUnder_eq]

end Task
end PlaneRegion
