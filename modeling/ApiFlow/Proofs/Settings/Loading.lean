import ApiFlow.Settings.Load

/-!
# Faults while settings are loaded

What is wrong with a configuration refuses it, with three exceptions: a path with too long a part, bytes that are no
text, and scalars and integers that have no value or cannot be written.  These are faults, and no refusals.  The reader
of the configuration is any function from a text to entries; what it finds wrong with a scalar is a fault of its own.

* `OnlyNumbers` : a reading whose only faults are those of integers; all readings of entries are of this kind.
* `LoadHazard` : all the faults that can be met.
* `load_fault_iff` : settings are loaded, or refused, exactly if no such fault is met.
-/

set_option autoImplicit false

namespace ApiFlow

theorem Files.Tree.isFile_error {files : Files.Tree} {path : Path} {e : Files.Error}
    (bad : files.isFile path = .error e) : e = .refused .nameTooLong path := by
  unfold isFile find at bad
  by_cases null : path.text.any (·.toNat = 0) = true
  · simp [null] at bad
  · rw [if_neg null] at bad
    cases walked : files.walk [] .directory (files.work.within path).parts with
    | ok entry => cases entry <;> simp [walked] at bad
    | error r =>
        cases r with
        | nameTooLong => simpa [walked, eq_comm] using bad
        | _ => simp [walked] at bad

/-- What is a file can be read. -/
theorem Files.Tree.read_of_isFile {files : Files.Tree} {path : Path} (file : files.isFile path = .ok true) :
    ∃ bytes, files.read path = .ok bytes := by
  unfold isFile at file
  unfold read
  split at file <;> simp_all

/-- What is no file cannot be read. -/
theorem Files.Tree.unread_of_isFile {files : Files.Tree} {path : Path} (file : files.isFile path = .ok false) :
    ∃ e, files.read path = .error e := by
  unfold isFile at file
  unfold read
  split at file <;> simp_all

namespace Settings

open Yaml (Value)

variable {α β : Type} {reader : Yaml.Reader}
variable {files : Files.Tree} {env : Table Text} {path? : Option Path} {start : Path} {f : Fault}

/-- All faults that the reading meets are of a kind. -/
def OnlyFaults (kind : Fault → Prop) (m : Except ConfigStop α) : Prop := ∀ f, m = .error (.fault f) → kind f

namespace OnlyFaults

variable {kind : Fault → Prop}

theorem ok (a : α) : OnlyFaults kind (.ok a) := nofun

theorem refuse (e : ConfigError) : OnlyFaults kind (refuse e : Except ConfigStop α) := nofun

theorem fault (holds : kind f) : OnlyFaults kind (.error (.fault f) : Except ConfigStop α) := by
  rintro _ ⟨⟩
  exact holds

theorem bind {m : Except ConfigStop α} {k : α → Except ConfigStop β} (first : OnlyFaults kind m)
    (rest : ∀ a, OnlyFaults kind (k a)) : OnlyFaults kind (m >>= k) := by
  cases m with
  | ok a => exact rest a
  | error e =>
      rintro f ⟨⟩
      exact first f rfl

theorem mapM {k : α → Except ConfigStop β} (each : ∀ a, OnlyFaults kind (k a)) (l : List α) :
    OnlyFaults kind (l.mapM k) := by
  induction l with
  | nil => exact ok _
  | cons a rest ih =>
      rw [List.mapM_cons]
      exact bind (each a) fun _ => bind ih fun _ => ok _

end OnlyFaults

/-! ## Entries -/

/-- An integer is too long to be written, or too large for a double. -/
inductive NumberFault : Fault → Prop
  | text : NumberFault .integerText
  | size : NumberFault .integerTooLarge

/-- A reading whose only faults are those of integers. -/
abbrev OnlyNumbers (m : Except ConfigStop α) : Prop := OnlyFaults NumberFault m

theorem onlyNumbers_written (text? : Option Text) : OnlyNumbers (written text?) := by
  cases text? with
  | none => exact .fault .text
  | some text => exact .ok text

theorem onlyNumbers_entriesAt (place : Text) (value? : Option Value) : OnlyNumbers (entriesAt place value?) := by
  unfold entriesAt
  split
  · exact .ok _
  · exact .ok _
  · exact .ok _
  · exact .refuse _

theorem onlyNumbers_textOf (value : Value) : OnlyNumbers (textOf value) := by
  unfold textOf
  split
  · exact .ok _
  · exact onlyNumbers_written _

theorem onlyNumbers_textsAt (place : Text) (value? : Option Value) : OnlyNumbers (textsAt place value?) := by
  have entry (e : Value × Value) : OnlyNumbers (do return (← written e.1.text?, ← textOf e.2)) :=
    .bind (onlyNumbers_written _) fun _ => .bind (onlyNumbers_textOf _) fun _ => .ok _
  exact .bind (onlyNumbers_entriesAt place value?) fun entries => .bind (.mapM entry entries) fun _ => .ok _

theorem onlyNumbers_doubleOfInt (i : Int) : OnlyNumbers (doubleOfInt i) := by
  unfold doubleOfInt
  split
  · exact .fault .size
  · exact .ok _

theorem onlyNumbers_secondsIn (place : Text) (value : Value) (text? : Option Text) :
    OnlyNumbers (secondsIn place value text?) := by
  unfold secondsIn
  split
  · exact .ok _
  · exact .bind (onlyNumbers_written _) fun _ => .refuse _

theorem onlyNumbers_secondsOf (place : Text) (value : Value) : OnlyNumbers (secondsOf place value) := by
  unfold secondsOf
  split
  · exact onlyNumbers_doubleOfInt _
  · exact onlyNumbers_doubleOfInt _
  · exact .ok _
  · exact onlyNumbers_secondsIn _ _ _
  · exact onlyNumbers_secondsIn _ _ _
  · exact onlyNumbers_secondsIn _ _ _

theorem onlyNumbers_timeoutOf (place : Text) (value : Value) : OnlyNumbers (timeoutOf place value) := by
  refine .bind (onlyNumbers_secondsOf place value) fun seconds => ?_
  split
  · exact .bind (onlyNumbers_written _) fun _ => .refuse _
  · exact .ok _

theorem onlyNumbers_defaultTimeout (value? : Option Value) : OnlyNumbers (defaultTimeout value?) := by
  unfold defaultTimeout
  split
  · exact .ok _
  · exact .ok _
  · exact onlyNumbers_timeoutOf _ _

theorem onlyNumbers_textOr (usual : Text) (value? : Option Value) : OnlyNumbers (textOr usual value?) := by
  unfold textOr
  split
  · exact onlyNumbers_written _
  · exact .ok _

theorem onlyNumbers_environmentOf (e : Value × Value) : OnlyNumbers (environmentOf e.1 e.2) :=
  .bind (onlyNumbers_written _) fun _ => .bind (onlyNumbers_entriesAt _ _) fun _ =>
    .bind (onlyNumbers_textOr _ _) fun _ => .bind (onlyNumbers_textsAt _ _) fun _ => .ok _

theorem onlyNumbers_ofEntries (entries : List (Value × Value)) : OnlyNumbers (ofEntries entries) :=
  .bind (onlyNumbers_textOr _ _) fun _ => .bind (onlyNumbers_entriesAt _ _) fun _ =>
    .bind (onlyNumbers_defaultTimeout _) fun _ => .bind (onlyNumbers_textsAt _ _) fun _ =>
      .bind (onlyNumbers_entriesAt _ _) fun environments =>
        .bind (.mapM onlyNumbers_environmentOf environments) fun _ => .ok _

theorem onlyNumbers_override (s : Settings) (env : Table Text) : OnlyNumbers (override s env) := by
  unfold override
  dsimp only
  split
  · exact .bind (onlyNumbers_timeoutOf _ _) fun _ => .ok _
  · exact .ok _

/-- **The settings in the entries of a file meet no fault but those of integers.** -/
theorem onlyNumbers_build (file? : Option Path) (entries : List (Value × Value)) :
    OnlyNumbers (build files env file? start entries) :=
  .bind (onlyNumbers_ofEntries entries) fun _ => onlyNumbers_override _ env

/-! ## The environment -/

/-- Settings with the environment to use that a variable names. -/
def activated (s : Settings) (env : Table Text) : Settings :=
  match given? env envVariable with
  | some active => { s with activeEnv := active }
  | none => s

/-- **A variable names the environment to use**, and nothing else of the settings depends on it. -/
theorem activated_kept (s : Settings) (env : Table Text) : ∃ active, activated s env = { s with activeEnv := active } := by
  unfold activated
  cases given? env envVariable with
  | none => exact ⟨s.activeEnv, rfl⟩
  | some active => exact ⟨active, rfl⟩

theorem override_eq (s : Settings) (env : Table Text) : override s env = match given? env timeoutVariable with
    | some value => do return { activated s env with timeout := ← timeoutOf timeoutVariable (.str value) }
    | none => .ok (activated s env) := rfl

/-! ## Files -/

/-- The entries that settings are read from: those of a configuration file, or none. -/
inductive Sourced (reader : Yaml.Reader) (files : Files.Tree) (path? : Option Path) (start : Path) :
    Option Path → List (Value × Value) → Prop
  | usual (nowhere : source? files path? start = .ok none) : Sourced reader files path? start none []
  | file {path : Path} {entries : List (Value × Value)} (found : source? files path? start = .ok (some path))
      (read : contents reader files path = .ok entries) : Sourced reader files path? start (some path) entries

/-- **What can go wrong while settings are loaded**, besides what refuses them: a part of a path that is looked up is
too long, the bytes of the file are no text, a scalar of the file has no value, or an integer in it cannot be
handled. -/
inductive LoadHazard (reader : Yaml.Reader) (files : Files.Tree) (env : Table Text) (path? : Option Path) (start : Path) : Fault → Prop
  | lookup {path : Path} (bad : source? files path? start = .error (.fault (.file (.refused .nameTooLong path)))) :
      LoadHazard reader files env path? start (.file (.refused .nameTooLong path))
  | undecodable {path : Path} {bytes : List UInt8} {m : Utf8.Misfit}
      (found : source? files path? start = .ok (some path)) (read : files.read path = .ok bytes)
      (bad : Utf8.decode bytes = .error m) : LoadHazard reader files env path? start (.encoding (inPieces m))
  | scalar {path : Path} {bytes : List UInt8} {text : Text} {e : Yaml.ScalarError}
      (found : source? files path? start = .ok (some path)) (read : files.read path = .ok bytes)
      (decoded : Utf8.decode bytes = .ok text) (bad : reader (Files.plainLineEnds text) = .error (.scalar e)) :
      LoadHazard reader files env path? start (.scalar e)
  | number {file? : Option Path} {entries : List (Value × Value)} {f : Fault}
      (sourced : Sourced reader files path? start file? entries)
      (bad : build files env file? start entries = .error (.fault f)) (number : NumberFault f) :
      LoadHazard reader files env path? start f

/-- A part of a path is too long. -/
inductive PathFault : Fault → Prop
  | tooLong (path : Path) : PathFault (.file (.refused .nameTooLong path))

theorem pathFault_of_isFile {path : Path} {e : Files.Error} (bad : files.isFile path = .error e) :
    PathFault (.file e) := by
  rw [Files.Tree.isFile_error bad]
  exact .tooLong path

theorem onlyPaths_fileIn? (directory : Path) : OnlyFaults PathFault (fileIn? files directory) := by
  unfold fileIn?
  dsimp only
  split
  · exact .ok _
  · next bad => exact .fault (pathFault_of_isFile bad)

/-- **A configuration file is looked up without a fault**, but for a part of a path that is too long. -/
theorem onlyPaths_source? (path? : Option Path) (start : Path) : OnlyFaults PathFault (source? files path? start) := by
  unfold source?
  split
  · split
    · exact .ok _
    · exact .refuse _
    · next bad => exact .fault (pathFault_of_isFile bad)
  · split
    · refine .bind (onlyPaths_fileIn? _) fun inProject => ?_
      cases inProject with
      | none => exact onlyPaths_fileIn? files.home
      | some path => exact .ok _
    · exact onlyPaths_fileIn? files.home

theorem contents_fault_iff {path : Path} {bytes : List UInt8} (read : files.read path = .ok bytes) :
    contents reader files path = .error (.fault f) ↔
      (∃ m, Utf8.decode bytes = .error m ∧ f = .encoding (inPieces m)) ∨
        ∃ text e, Utf8.decode bytes = .ok text ∧ reader (Files.plainLineEnds text) = .error (.scalar e) ∧
          f = .scalar e := by
  rw [contents, read]
  dsimp only
  cases decoded : Utf8.decode bytes with
  | error m => simp [eq_comm]
  | ok text =>
      dsimp only
      cases value : reader (Files.plainLineEnds text) with
      | error e => cases e <;> simp [refuse, eq_comm, value]
      | ok v =>
          refine iff_of_false ?_ (by simp [value])
          dsimp only
          split <;> simp [refuse]

/-- **Settings are loaded or refused exactly if no fault is met.** -/
theorem load_fault_iff :
    (load files env path? start reader).2 = .error (.fault f) ↔ LoadHazard reader files env path? start f := by
  constructor
  · intro bad
    unfold load at bad
    cases found : source? files path? start with
    | error e =>
        rw [found] at bad
        cases bad
        cases onlyPaths_source? path? start f found with
        | tooLong path => exact .lookup found
    | ok file? =>
        rw [found] at bad
        cases file? with
        | none => exact .number (.usual found) bad (onlyNumbers_build none [] f bad)
        | some path =>
            dsimp only at bad
            cases opened : contents reader files path with
            | ok entries =>
                rw [opened] at bad
                exact .number (.file found opened) bad (onlyNumbers_build (some path) entries f bad)
            | error e =>
                rw [opened] at bad
                cases bad
                cases read : files.read path with
                | error e => simp [contents, read, refuse] at opened
                | ok bytes =>
                    obtain ⟨m, bad, rfl⟩ | ⟨text, e, decoded, bad, rfl⟩ := (contents_fault_iff read).mp opened
                    · exact .undecodable found read bad
                    · exact .scalar found read decoded bad
  · intro hazard
    unfold load
    cases hazard with
    | lookup bad => rw [bad]
    | undecodable found read bad =>
        rw [found]
        dsimp only
        rw [(contents_fault_iff read).mpr (.inl ⟨_, bad, rfl⟩)]
    | scalar found read decoded bad =>
        rw [found]
        dsimp only
        rw [(contents_fault_iff read).mpr (.inr ⟨_, _, decoded, bad, rfl⟩)]
    | number sourced bad =>
        cases sourced with
        | usual nowhere =>
            rw [nowhere]
            exact bad
        | file found opened =>
            rw [found]
            dsimp only
            rw [opened]
            exact bad

end Settings

end ApiFlow
