import PlaneRegion.Task.Basic

/-!
# Settings of a task

A setting is named by the title of its section and a key, and takes one value of its own kind.  A
pair of a document is acceptable when it names a setting and has such a value, or when it stands
under curves.
-/

namespace PlaneRegion
namespace Task

/-! ## Settings -/

/-- The value is a number of pixels below `2 ^ 32`. -/
def Value.IsPixels (value : Value) (pixels : Nat) : Prop :=
  value = .integer pixels ∧ pixels < 0x100000000

/-- The value is a number, which may be written as a whole one. -/
inductive Value.IsNumber : Value → Float → Prop where
  | number (x : Float) : IsNumber (.number x) x
  | integer (n : Int) : IsNumber (.integer n) (Binary64.ofInt n)

/-- What a document can set once. -/
inductive Setting where
  | width
  | height
  | scaleX
  | scaleY
  | step
  | smoothness
  | png
  | svg
  | csv
  | logLevel
  | logFile

namespace Setting

/-- The title of the section and the key under which a setting stands. -/
def name : Setting → String × String
  | width => ("canvas", "width")
  | height => ("canvas", "height")
  | scaleX => ("canvas", "scale_x")
  | scaleY => ("canvas", "scale_y")
  | step => ("sampling", "step")
  | smoothness => ("sampling", "smoothness")
  | png => ("output", "png")
  | svg => ("output", "svg")
  | csv => ("output", "csv")
  | logLevel => ("output", "loglevel")
  | logFile => ("output", "log_file")

/-- What a setting is set to. -/
def Content : Setting → Type
  | width | height => Nat
  | scaleX | scaleY | step | smoothness => Float
  | png | svg | csv | logLevel => String
  | logFile => Bool

/-- What a task has for a setting; texts may be missing. -/
def get : (s : Setting) → Task → Option s.Content
  | width, task => some task.viewport.width
  | height, task => some task.viewport.height
  | scaleX, task => some task.viewport.scaleX
  | scaleY, task => some task.viewport.scaleY
  | step, task => some task.sampling.step
  | smoothness, task => some task.sampling.smoothness
  | png, task => task.output.png
  | svg, task => task.output.svg
  | csv, task => task.output.csv
  | logLevel, task => task.output.logLevel
  | logFile, task => some task.output.logFile

/-- The value is of the kind that a setting takes, and sets it to the content. -/
def Means : (s : Setting) → Value → s.Content → Prop
  | width | height => Value.IsPixels
  | scaleX | scaleY | step | smoothness => Value.IsNumber
  | png | svg | csv | logLevel => fun value path => value.toText = path
  | logFile => fun value wanted => value = .boolean wanted

end Setting

/-- A pair that is right on its own: it stands under curves, or it gives a setting one value of its
kind. -/
def IsAcceptable (title : String) (pair : Pair) : Prop :=
  title = "curves" ∨ ∃ (s : Setting) (value : Value) (content : s.Content),
    (title, pair.key) = s.name ∧ pair.values = [value] ∧ s.Means value content

/-! ## One pair -/

section Readers

variable {ε β γ : Type}

theorem bind_eq_ok_iff {first : Except ε β} {next : β → Except ε γ} {result : γ} :
    (first >>= next) = .ok result ↔ ∃ value, first = .ok value ∧ next value = .ok result := by
  cases first <;> simp [bind, Except.bind]

theorem map_eq_ok_iff {f : β → γ} {attempt : Except ε β} {result : γ} :
    attempt.map f = .ok result ↔ ∃ value, attempt = .ok value ∧ f value = result := by
  cases attempt <;> simp [Except.map]

variable {title : String} {pair : Pair}

theorem single_eq_ok_iff {value : Value} :
    single title pair = .ok value ↔ pair.values = [value] := by
  rw [single]
  split
  · rename_i only values
    rw [values, Except.ok.injEq, List.cons.injEq, and_iff_left rfl]
  · rename_i several
    exact iff_of_false nofun (several value)

theorem singlePixels_eq_ok_iff {pixels : Nat} :
    singlePixels title pair = .ok pixels ↔
      ∃ value, pair.values = [value] ∧ value.IsPixels pixels := by
  simp only [singlePixels, bind_eq_ok_iff, single_eq_ok_iff, Value.IsPixels]
  refine exists_congr fun value => and_congr_right fun _ => ?_
  cases value with
  | integer n =>
      simp only [Value.asInteger?, Value.integer.injEq]
      split
      · simp only [pure, Except.pure, Except.ok.injEq]
        omega
      · exact iff_of_false nofun (by omega)
  | number | boolean | text => exact iff_of_false nofun nofun

theorem singleNumber_eq_ok_iff {x : Float} :
    singleNumber title pair = .ok x ↔ ∃ value, pair.values = [value] ∧ value.IsNumber x := by
  simp only [singleNumber, bind_eq_ok_iff, single_eq_ok_iff]
  refine exists_congr fun value => and_congr_right fun _ => ?_
  cases value with
  | integer n =>
      constructor
      · rintro ⟨⟩
        exact .integer n
      · rintro ⟨⟩
        rfl
  | number =>
      constructor
      · rintro ⟨⟩
        exact .number _
      · rintro ⟨⟩
        rfl
  | boolean | text => exact iff_of_false nofun nofun

theorem singleBoolean_eq_ok_iff {b : Bool} :
    singleBoolean title pair = .ok b ↔ ∃ value, pair.values = [value] ∧ value = .boolean b := by
  simp only [singleBoolean, bind_eq_ok_iff, single_eq_ok_iff]
  refine exists_congr fun value => and_congr_right fun _ => ?_
  cases value with
  | boolean c => simp [Value.asBoolean?, pure, Except.pure]
  | integer | number | text => exact iff_of_false nofun nofun

theorem singleText_eq_ok_iff {path : String} :
    singleText title pair = .ok path ↔ ∃ value, pair.values = [value] ∧ value.toText = path := by
  simp only [singleText, map_eq_ok_iff, single_eq_ok_iff]

end Readers

namespace Setting

/-- The assignment that sets a setting. -/
def assigning : (s : Setting) → s.Content → Assignment
  | width => .width
  | height => .height
  | scaleX => .scaleX
  | scaleY => .scaleY
  | step => .step
  | smoothness => .smoothness
  | png => .png
  | svg => .svg
  | csv => .csv
  | logLevel => .logLevel
  | logFile => .logFile

/-- Read what a pair sets a setting to. -/
def read : (s : Setting) → String → Pair → Except Fault s.Content
  | width | height => singlePixels
  | scaleX | scaleY | step | smoothness => singleNumber
  | png | svg | csv | logLevel => singleText
  | logFile => singleBoolean

theorem read_eq_ok_iff {s : Setting} {title : String} {pair : Pair} {content : s.Content} :
    s.read title pair = .ok content ↔
      ∃ value, pair.values = [value] ∧ s.Means value content := by
  cases s with
  | width | height => exact singlePixels_eq_ok_iff
  | scaleX | scaleY | step | smoothness => exact singleNumber_eq_ok_iff
  | png | svg | csv | logLevel => exact singleText_eq_ok_iff
  | logFile => exact singleBoolean_eq_ok_iff

theorem assignment_of_name {s : Setting} {title : String} {pair : Pair}
    (named : (title, pair.key) = s.name) :
    assignment title pair = (s.read title pair).map s.assigning := by
  obtain ⟨key, values⟩ := pair
  cases s <;> cases named <;> rfl

theorem get_assign (s : Setting) (content : s.Content) (task : Task) :
    s.get (assign task (s.assigning content)) = some content := by
  cases s <;> rfl

theorem get_assign_of_ne {s other : Setting} (different : other ≠ s) (content : s.Content)
    (task : Task) : other.get (assign task (s.assigning content)) = other.get task := by
  cases s <;> cases other <;> first | rfl | exact absurd rfl different

theorem rows_assign (s : Setting) (content : s.Content) (task : Task) :
    (assign task (s.assigning content)).rows = task.rows := by
  cases s <;> rfl

theorem name_injective : Function.Injective name := by
  intro s other same
  cases s <;> cases other <;> first | rfl | exact absurd same (by decide)

theorem name_ne_curves (s : Setting) : s.name.1 ≠ "curves" := by
  cases s <;> decide

/-- Settings and rows are all that a task has. -/
theorem ext_get {task other : Task} (same : ∀ s : Setting, s.get task = s.get other)
    (rows : task.rows = other.rows) : task = other := by
  obtain ⟨⟨_, _, _, _⟩, ⟨_, _⟩, _, ⟨_, _, _, _, _⟩⟩ := task
  cases same width
  cases same height
  cases same scaleX
  cases same scaleY
  cases same step
  cases same smoothness
  cases same png
  cases same svg
  cases same csv
  cases same logLevel
  cases same logFile
  cases rows
  rfl

end Setting

/-- Only curves and the names of settings can be assigned to. -/
theorem named_of_assignment {title : String} {pair : Pair} {assigned : Assignment}
    (accepted : assignment title pair = .ok assigned) :
    title = "curves" ∨ ∃ s : Setting, (title, pair.key) = s.name := by
  have under : ∀ {title key : String} (s : Setting), s.name = (title, key) → pair.key = key →
      ∃ s : Setting, (title, pair.key) = s.name :=
    fun s named same => ⟨s, by rw [named, same]⟩
  unfold assignment at accepted
  split at accepted
  · refine .inr ?_
    split at accepted
    · exact under .width rfl ‹_›
    · exact under .height rfl ‹_›
    · exact under .scaleX rfl ‹_›
    · exact under .scaleY rfl ‹_›
    · cases accepted
  · refine .inr ?_
    split at accepted
    · exact under .step rfl ‹_›
    · exact under .smoothness rfl ‹_›
    · cases accepted
  · exact .inl rfl
  · refine .inr ?_
    split at accepted
    · exact under .png rfl ‹_›
    · exact under .svg rfl ‹_›
    · exact under .csv rfl ‹_›
    · exact under .logLevel rfl ‹_›
    · exact under .logFile rfl ‹_›
    · cases accepted
  · cases accepted

/-- What a pair assigns: the rows of a pair under curves, or what a setting is set to. -/
theorem assignment_eq_ok_iff {title : String} {pair : Pair} {assigned : Assignment} :
    assignment title pair = .ok assigned ↔
      title = "curves" ∧ .rows (rowsOf pair) = assigned ∨
        ∃ (s : Setting) (value : Value) (content : s.Content), (title, pair.key) = s.name ∧
          pair.values = [value] ∧ s.Means value content ∧ s.assigning content = assigned := by
  constructor
  · intro accepted
    rcases named_of_assignment accepted with rfl | ⟨s, named⟩
    · exact .inl ⟨rfl, Except.ok.inj accepted⟩
    · rw [Setting.assignment_of_name named, map_eq_ok_iff] at accepted
      obtain ⟨content, read, same⟩ := accepted
      obtain ⟨value, values, means⟩ := Setting.read_eq_ok_iff.mp read
      exact .inr ⟨s, value, content, named, values, means, same⟩
  · rintro (⟨rfl, rfl⟩ | ⟨s, value, content, named, values, means, rfl⟩)
    · rfl
    · rw [Setting.assignment_of_name named, Setting.read_eq_ok_iff.mpr ⟨value, values, means⟩]
      rfl

theorem isAcceptable_iff {title : String} {pair : Pair} :
    IsAcceptable title pair ↔ ∃ assigned, assignment title pair = .ok assigned := by
  simp only [assignment_eq_ok_iff, IsAcceptable]
  constructor
  · rintro (curves | ⟨s, value, content, named, values, means⟩)
    · exact ⟨_, .inl ⟨curves, rfl⟩⟩
    · exact ⟨_, .inr ⟨s, value, content, named, values, means, rfl⟩⟩
  · rintro ⟨_, ⟨curves, _⟩ | ⟨s, value, content, named, values, means, _⟩⟩
    · exact .inl curves
    · exact .inr ⟨s, value, content, named, values, means⟩

end Task
end PlaneRegion
