/-
**Loading settings, and failing to.**

* `run_bind` and its companions: what a step of the manager answers, and the manager after it;
* `run_loadUsing`: what loading comes to, with any reader of YAML. It reads the file, remembers it,
  gathers and checks the settings, and sets them;
* `LoadCall`, `Manager.after`: calls that load, and the manager after any number of them. It always
  remembers its file by a simple path;
* `Manager.after_failed_call`: a call that fails leaves the settings as they are. But it remembers
  the file that it names, if this can be read.
-/

import DocQuery.Config.Manager
import DocQuery.Proofs.Except
import DocQuery.Proofs.Surroundings

namespace DocQuery

/-! ### Steps of the manager -/

namespace Manager

section Steps

variable {α β : Type} (manager : Manager)

/-- A step and what is behind it, which is left out if the step fails. -/
theorem run_bind (step : Step α) (next : α → Step β) :
    manager.run (step >>= next) =
      match manager.run step with
      | (.ok found, manager') => manager'.run (next found)
      | (.error cause, manager') => (.error cause, manager') := by
  show StateT.run (ExceptT.run step >>= ExceptT.bindCont next) manager = _
  unfold run
  simp only [StateT.run_bind]
  rcases StateT.run (ExceptT.run step) manager with ⟨found | cause, manager'⟩ <;> rfl

/-- A part that does not use the manager leaves it as it is. -/
theorem run_lift (computation : Except ConfigError α) :
    manager.run (liftM computation : Step α) = (computation, manager) := by
  cases computation <;> rfl

end Steps

/-! ### Loading -/

/-- The file that is named, if any is. An empty name stands for none. -/
def named? (file : Option String) : Option String := file.filter fun path => !path.isEmpty

/-- The value that a load starts from. -/
def baseOf (readYaml : YamlReader) (surroundings : Surroundings) (file : Option String) :
    Except ConfigError Json :=
  match named? file with
  | none => .ok (.object [])
  | some path => readSettingsFile readYaml surroundings path

/-- The checked settings of a file's value, the environment and the overrides. -/
def checkedSettings (surroundings : Surroundings) (base overrides : Json) :
    Except ConfigError Settings :=
  gatherSettings surroundings base overrides >>= fun fields =>
    (Settings.ofFields fields).toExcept.mapError .invalid

/-- The manager once a file has been read. -/
def noting (manager : Manager) (file : Option String) : Manager :=
  match named? file with
  | none => manager
  | some path => { manager with file := some (simplePath path) }

section

variable {manager : Manager} {readYaml : YamlReader} {surroundings : Surroundings}
  {file : Option String} {overrides : Json}

/-- A file that was read is remembered. -/
theorem run_readFile : manager.run (readFile readYaml surroundings (named? file)) =
      match baseOf readYaml surroundings file with
      | .error cause => (.error cause, manager)
      | .ok base => (.ok base, manager.noting file) := by
  unfold readFile baseOf noting
  cases named? file with
  | none => rfl
  | some path =>
    dsimp only
    rw [run_bind, run_lift]
    rcases readSettingsFile readYaml surroundings path with cause | value <;> rfl

/-- **What loading comes to.** A file that was read is remembered, whether its settings are accepted
or not. -/
theorem run_loadUsing : manager.run (loadUsing readYaml surroundings file overrides) =
      match baseOf readYaml surroundings file with
      | .error cause => (.error cause, manager)
      | .ok base =>
        match checkedSettings surroundings base overrides with
        | .error cause => (.error cause, manager.noting file)
        | .ok settings =>
          (.ok settings, { manager.noting file with settings := some settings }) := by
  rw [loadUsing, run_bind, show file.filter _ = named? file from rfl, run_readFile]
  cases baseOf readYaml surroundings file with
  | error cause => rfl
  | ok base =>
    dsimp only
    rw [run_bind, run_lift, checkedSettings]
    cases gatherSettings surroundings base overrides with
    | error cause => rfl
    | ok fields =>
      dsimp only
      rw [run_bind, run_lift, ok_bind]
      cases (Settings.ofFields fields).toExcept.mapError ConfigError.invalid <;> rfl

/-- A load leaves the file as it is, or remembers the one that it has read. -/
theorem file_loadUsing :
    (manager.run (loadUsing readYaml surroundings file overrides)).2.file = manager.file ∨
      (manager.run (loadUsing readYaml surroundings file overrides)).2.file =
        (manager.noting file).file := by
  rw [run_loadUsing]
  cases baseOf readYaml surroundings file with
  | error cause => exact .inl rfl
  | ok base =>
    dsimp only
    cases checkedSettings surroundings base overrides <;> exact .inr rfl

/-- A load that fails has read no file and changes nothing, or remembers the file that it has
read. -/
theorem loadUsing_failed {manager' : Manager} {cause : ConfigError}
    (failed : manager.run (loadUsing readYaml surroundings file overrides) =
      (.error cause, manager')) :
    baseOf readYaml surroundings file = .error cause ∧ manager' = manager ∨
      (∃ base, baseOf readYaml surroundings file = .ok base) ∧ manager' = manager.noting file := by
  rw [run_loadUsing] at failed
  cases isBase : baseOf readYaml surroundings file with
  | error cause' =>
    rw [isBase] at failed
    cases failed
    exact .inl ⟨rfl, rfl⟩
  | ok base =>
    rw [isBase] at failed
    dsimp only at failed
    cases checked : checkedSettings surroundings base overrides with
    | error cause' =>
      rw [checked] at failed
      cases failed
      exact .inr ⟨⟨base, rfl⟩, rfl⟩
    | ok settings =>
      rw [checked] at failed
      cases failed

end

end Manager

/-! ### Calls -/

/-- A call that loads settings, or loads them again, in some surroundings. -/
inductive LoadCall where
  | load (surroundings : Surroundings) (file : Option String) (overrides : Json)
  | reload (surroundings : Surroundings)

namespace LoadCall

/-- What a call asks the manager for. -/
def step (readYaml : YamlReader) : LoadCall → Manager.Step Settings
  | .load surroundings file overrides => Manager.loadUsing readYaml surroundings file overrides
  | .reload surroundings => Manager.reloadUsing readYaml surroundings

/-- A call names a file, which can be read, by a path to a place. -/
def Reads (readYaml : YamlReader) (call : LoadCall) (place : String) : Prop :=
  ∃ surroundings path overrides value, call = .load surroundings (some path) overrides ∧
    path ≠ "" ∧ place = simplePath path ∧ readSettingsFile readYaml surroundings path = .ok value

end LoadCall

namespace Manager

/-- The manager after some calls, whether they fail or not. -/
def after (readYaml : YamlReader) (manager : Manager) (calls : List LoadCall) : Manager :=
  calls.foldl (fun manager call => (manager.run (call.step readYaml)).2) manager

/-- The file is remembered by a simple path. -/
def Remembers (manager : Manager) : Prop :=
  ∀ path ∈ manager.file, path ≠ "" ∧ simplePath path = path

theorem Remembers.noting {manager : Manager} (remembers : manager.Remembers)
    (file : Option String) : (manager.noting file).Remembers := by
  unfold Manager.noting
  split
  · exact remembers
  · next path _ =>
    rintro _ ⟨⟩
    exact ⟨simplePath_ne_empty path, simplePath_simplePath path⟩

/-- To read the file once more that is remembered changes nothing. -/
theorem Remembers.noting_file {manager : Manager} (remembers : manager.Remembers) :
    manager.noting manager.file = manager := by
  obtain ⟨settings, file⟩ := manager
  cases file with
  | none => rfl
  | some path =>
    obtain ⟨nonempty, simple⟩ := remembers path rfl
    have named : named? (some path) = some path := by simp [named?, nonempty]
    rw [Manager.noting, named]
    exact congrArg (fun path => Manager.mk settings (some path)) simple

/-- Every call leaves a manager that remembers its file by a simple path. -/
theorem Remembers.run {readYaml : YamlReader} {manager : Manager}
    (remembers : manager.Remembers) (call : LoadCall) :
    (manager.run (call.step readYaml)).2.Remembers := by
  have loaded (surroundings : Surroundings) (file : Option String) (overrides : Json) :
      (manager.run (loadUsing readYaml surroundings file overrides)).2.Remembers := by
    unfold Remembers
    rcases file_loadUsing with same | noted
    · rw [same]
      exact remembers
    · rw [noted]
      exact remembers.noting file
  cases call with
  | load surroundings file overrides => exact loaded surroundings file overrides
  | reload surroundings => exact loaded surroundings manager.file .null

theorem Remembers.after {readYaml : YamlReader} {manager : Manager}
    (remembers : manager.Remembers) (calls : List LoadCall) :
    (manager.after readYaml calls).Remembers := by
  induction calls generalizing manager with
  | nil => exact remembers
  | cons call more ih => exact ih (remembers.run call)

theorem remembers_empty : ({} : Manager).Remembers := nofun

theorem settings_noting (manager : Manager) (file : Option String) :
    (manager.noting file).settings = manager.settings := by
  unfold Manager.noting
  split <;> rfl

theorem run_current_congr {manager manager' : Manager}
    (same : manager'.settings = manager.settings) :
    (manager'.run current).1 = (manager.run current).1 := by
  obtain ⟨settings, file⟩ := manager
  obtain ⟨settings', file'⟩ := manager'
  cases same
  cases settings <;> rfl

theorem named?_eq_some {file : Option String} {path : String} :
    named? file = some path ↔ file = some path ∧ path ≠ "" := by
  simp [named?, Option.filter_eq_some_iff]

/-- A load reads the file that is named if this has a value. -/
theorem reads_load_iff {readYaml : YamlReader} {surroundings : Surroundings}
    {file : Option String} {overrides : Json} {place : String} :
    (LoadCall.load surroundings file overrides).Reads readYaml place ↔
      (∃ path, named? file = some path ∧ place = simplePath path) ∧
        ∃ value, baseOf readYaml surroundings file = .ok value := by
  constructor
  · rintro ⟨_, path, _, value, ⟨⟩, nonempty, isPlace, isRead⟩
    have named := named?_eq_some.mpr ⟨rfl, nonempty⟩
    refine ⟨⟨path, named, isPlace⟩, value, ?_⟩
    rw [baseOf, named]
    exact isRead
  · rintro ⟨⟨path, named, isPlace⟩, value, isRead⟩
    obtain ⟨rfl, nonempty⟩ := named?_eq_some.mp named
    rw [baseOf, named] at isRead
    exact ⟨surroundings, path, overrides, value, rfl, nonempty, isPlace, isRead⟩

/-- **A failed call leaves the settings as they are**, with any reader of YAML. But if it names a file
that can be read, then this is the one that is remembered, and otherwise the manager does not change
at all. -/
theorem after_failed_call (readYaml : YamlReader) (calls : List LoadCall) {call : LoadCall}
    {cause : ConfigError} {manager : Manager}
    (failed : (({} : Manager).after readYaml calls).run (call.step readYaml) =
      (.error cause, manager)) :
    (manager.run current).1 = ((({} : Manager).after readYaml calls).run current).1 ∧
      ((∀ place, call.Reads readYaml place →
          (({} : Manager).after readYaml calls).file = some place) →
        manager = ({} : Manager).after readYaml calls) ∧
      ∀ place, call.Reads readYaml place → manager.file = some place := by
  have remembers := @Remembers.after readYaml _ remembers_empty calls
  generalize ({} : Manager).after readYaml calls = before at failed remembers
  cases call with
  | load surroundings file overrides =>
    rcases loadUsing_failed failed with ⟨unread, rfl⟩ | ⟨⟨base, isRead⟩, rfl⟩
    · refine ⟨rfl, fun _ => rfl, fun place reads => ?_⟩
      obtain ⟨-, _, isRead⟩ := reads_load_iff.mp reads
      rw [unread] at isRead
      cases isRead
    · have settings := run_current_congr (settings_noting before file)
      refine ⟨settings, fun same => ?_, fun place reads => ?_⟩
      · unfold Manager.noting
        cases named : named? file with
        | none => rfl
        | some path =>
          have isFile := same _ (reads_load_iff.mpr ⟨⟨path, named, rfl⟩, base, isRead⟩)
          exact congrArg (Manager.mk before.settings) isFile.symm
      · obtain ⟨⟨path, named, rfl⟩, -⟩ := reads_load_iff.mp reads
        rw [Manager.noting, named]
  | reload surroundings =>
    have unchanged : manager = before := by
      rcases loadUsing_failed failed with ⟨-, same⟩ | ⟨-, noted⟩
      · exact same
      · rw [noted, remembers.noting_file]
    subst unchanged
    refine ⟨rfl, fun _ => rfl, ?_⟩
    rintro place ⟨_, _, _, _, ⟨⟩, _⟩

/-- Two files of settings, the second of them with a version that is none. -/
def twoFiles : Surroundings where
  files := [("a.json", "\x7b\x7d"), ("b.json", "\x7b\"version\":\"1\"\x7d")]

/-- A reader that refuses every text. -/
def withoutYaml : YamlReader := fun _ => .error .badYaml

/-- Loads one of the files, neither of which is in YAML. -/
def loadNamed (name : String) : Step Settings := loadUsing withoutYaml twoFiles (some name) .null

/-- The manager after the first of two files was loaded. -/
def loadedFirst : Manager :=
  ({} : Manager).after withoutYaml [.load twoFiles (some "a.json") .null]

theorem exists_rejected : ∃ cause manager,
    loadedFirst.run (loadNamed "b.json") = (.error cause, manager) := by
  have failed : (loadedFirst.run (loadNamed "b.json")).1.isOk = false := by decide +kernel
  rcases result : loadedFirst.run (loadNamed "b.json") with ⟨cause | settings, manager⟩
  · exact ⟨cause, manager, rfl⟩
  · rw [result] at failed
    cases failed

/-- After the second file was refused the settings are those of the first, but the second is
remembered. -/
theorem after_failed_call_rejected : ∃ cause manager,
    loadedFirst.run (loadNamed "b.json") = (.error cause, manager) ∧
      (manager.run current).1 = (loadedFirst.run current).1 ∧ manager.file = some "b.json" := by
  obtain ⟨cause, manager, failed⟩ := exists_rejected
  have reads : (LoadCall.load twoFiles (some "b.json") .null).Reads withoutYaml "b.json" := by
    refine reads_load_iff.mpr ⟨⟨"b.json", by decide +kernel, by decide +kernel⟩, ?_⟩
    obtain ⟨value, isRead, -⟩ := exists_of_any
      (show (baseOf withoutYaml twoFiles (some "b.json")).toOption.any (fun _ => true) by
        decide +kernel)
    exact ⟨value, isRead⟩
  obtain ⟨settings, -, remembered⟩ := @after_failed_call withoutYaml
    [.load twoFiles (some "a.json") .null] (.load twoFiles (some "b.json") .null) cause manager
    failed
  exact ⟨cause, manager, failed, settings, remembered "b.json" reads⟩

/-- To load again succeeds, and fails once the second file was refused. -/
theorem reload_after_rejected : ∃ cause manager,
    loadedFirst.run (loadNamed "b.json") = (.error cause, manager) ∧
      (loadedFirst.run (reloadUsing withoutYaml twoFiles)).1.isOk = true ∧
      (manager.run (reloadUsing withoutYaml twoFiles)).1.isOk = false := by
  obtain ⟨cause, manager, failed⟩ := exists_rejected
  refine ⟨cause, manager, failed, by decide +kernel, ?_⟩
  rw [show manager = (loadedFirst.run (loadNamed "b.json")).2 by rw [failed]]
  decide +kernel

end Manager

end DocQuery
