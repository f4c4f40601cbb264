import ApiFlow.Proofs.Settings.Loading
import Mathlib.Data.List.Infix

/-!
# The project that settings belong to

The project is the nearest directory around the start that holds a settings folder.  Its configuration file is the first
one that is looked for, and the one in the home directory is next.  The project of the settings is told from the place
of the file that they came from, so the file in the home directory makes that directory the project.

* `Path.Around`, `Path.mem_ancestors` : the directories around a path.
* `NearestRoot`, `nearestRoot?_spec`, `exists_nearestRoot` : the project that is found is the nearest one.
* `source_cases` : which file the settings of a project are read from.
* `identity_iff` : settings belong to the nearest project unless the file in another home directory stands in for that of
  the project.
-/

set_option autoImplicit false

namespace ApiFlow

/-! ## Directories around a path -/

namespace Path

variable {d p : Path} {part : Text}

/-- A directory is around a path, or is the path itself. -/
def Around (d p : Path) : Prop := d.anchor = p.anchor ∧ d.parts <+: p.parts

instance : Decidable (Around d p) := inferInstanceAs (Decidable (d.anchor = p.anchor ∧ d.parts <+: p.parts))

/-- The directory that is some levels up. -/
def up (p : Path) (levels : Nat) : Path := { p with parts := p.parts.take (p.parts.length - levels) }

theorem Around.up_eq (around : d.Around p) : p.up (p.parts.length - d.parts.length) = d := by
  obtain ⟨anchor, parts⟩ := around
  have size : p.parts.length - (p.parts.length - d.parts.length) = d.parts.length := Nat.sub_sub_self parts.length_le
  rw [up, size, ← List.prefix_iff_eq_take.mp parts, ← anchor]

theorem up_around (levels : Nat) : (p.up levels).Around p := ⟨rfl, List.take_prefix _ _⟩

/-- What is more levels up is around what is fewer levels up. -/
theorem up_around_up {few many : Nat} (less : few ≤ many) : (p.up many).Around (p.up few) :=
  ⟨rfl, List.take_prefix_take_left (by omega)⟩

theorem ancestors_eq (p : Path) : p.ancestors = (List.range (p.parts.length + 1)).map p.up := rfl

/-- **The ancestors of a path** are the directories around it. -/
theorem mem_ancestors : d ∈ p.ancestors ↔ d.Around p := by
  rw [ancestors_eq, List.mem_map]
  constructor
  · rintro ⟨levels, -, rfl⟩
    exact up_around levels
  · intro around
    exact ⟨_, List.mem_range.mpr (Nat.lt_succ_of_le (Nat.sub_le _ _)), around.up_eq⟩

@[simp] theorem parent_child : (d.child part).parent = d := by simp [child, parent]

@[simp] theorem name_child : (d.child part).name = part := by simp [child, name]

end Path

namespace Settings

variable {reader : Yaml.Reader} {files : Files.Tree} {env : Table Text}
variable {path? : Option Path} {start root : Path} {s : Settings}

/-! ## The nearest project -/

/-- Where the search for a project begins. -/
def origin (files : Files.Tree) (start : Path) : Path := (files.work.within start).flat

/-- A directory holds a settings folder. -/
def HoldsFolder (files : Files.Tree) (directory : Path) : Prop := files.isDirectory (directory.child folderName) = true

instance (directory : Path) : Decidable (HoldsFolder files directory) := inferInstanceAs (Decidable (_ = true))

/-- **The nearest project**: a directory around the start that holds a settings folder, such that all others around the
start that hold one are around it. -/
structure NearestRoot (files : Files.Tree) (start root : Path) : Prop where
  around : root.Around (origin files start)
  holds : HoldsFolder files root
  nearest : ∀ d : Path, d.Around (origin files start) → HoldsFolder files d → d.Around root

/-- **The project that is found** is the nearest one. -/
theorem nearestRoot?_spec (found : nearestRoot? files start = some root) : NearestRoot files start root := by
  change (origin files start).ancestors.find? _ = _ at found
  rw [Path.ancestors_eq, List.find?_map, Option.map_eq_some_iff] at found
  obtain ⟨levels, first, rfl⟩ := found
  obtain ⟨holds, -, fewer⟩ := List.find?_range_eq_some.mp first
  refine ⟨Path.up_around levels, holds, fun d around held => ?_⟩
  rw [← around.up_eq]
  -- a directory further down would have been found before
  refine Path.up_around_up (Nat.not_lt.mp fun below => ?_)
  have missed := fewer _ below
  rw [Function.comp_apply, around.up_eq, held] at missed
  cases missed

/-- **A project is found** if there is one around the start. -/
theorem exists_nearestRoot (known : ∃ d : Path, d.Around (origin files start) ∧ HoldsFolder files d) :
    ∃ root, nearestRoot? files start = some root := by
  obtain ⟨d, around, holds⟩ := known
  refine Option.isSome_iff_exists.mp (List.find?_isSome.mpr ⟨d, Path.mem_ancestors.mpr around, holds⟩)

/-! ## The file and the project -/

/-- The configuration file of a directory. -/
def fileOf (directory : Path) : Path := (directory.child folderName).child fileName

theorem fileIn?_eq (directory : Path) : fileIn? files directory = match files.isFile (fileOf directory) with
    | .ok found => .ok (if found then some (fileOf directory) else none)
    | .error e => .error (.fault (.file e)) := rfl

/-- The file in a settings folder tells its directory. -/
theorem root?_fileOf (directory : Path) : root? files (some (fileOf directory)) start = some directory := by
  simp [root?, fileOf]

/-- Settings are loaded from some entries. -/
theorem exists_sourced (loaded : (load files env path? start reader).2 = .ok s) :
    ∃ file? entries, Sourced reader files path? start file? entries ∧ build files env file? start entries = .ok s := by
  unfold load at loaded
  cases found : source? files path? start with
  | error e =>
      rw [found] at loaded
      cases loaded
  | ok file? =>
      rw [found] at loaded
      cases file? with
      | none => exact ⟨none, [], .usual found, loaded⟩
      | some path =>
          dsimp only at loaded
          cases read : contents reader files path with
          | error e =>
              rw [read] at loaded
              cases loaded
          | ok entries =>
              rw [read] at loaded
              exact ⟨some path, entries, .file found read, loaded⟩

theorem Sourced.source?_eq {file? : Option Path} {entries : List (Yaml.Value × Yaml.Value)}
    (sourced : Sourced reader files path? start file? entries) : source? files path? start = .ok file? := by
  cases sourced with
  | usual nowhere => exact nowhere
  | file found => exact found

/-- The variables of the environment change nothing about the project. -/
theorem project_override {s s' : Settings} (changed : override s env = .ok s') :
    s'.projectRoot = s.projectRoot ∧ s'.projectId = s.projectId := by
  obtain ⟨active, kept⟩ := activated_kept s env
  rw [override_eq, kept] at changed
  split at changed
  · cases read : timeoutOf timeoutVariable _ <;> rw [read] at changed <;> cases changed
    exact ⟨rfl, rfl⟩
  · cases changed
    exact ⟨rfl, rfl⟩

theorem project_build {file? : Option Path} {entries : List (Yaml.Value × Yaml.Value)}
    (built : build files env file? start entries = .ok s) :
    s.projectRoot = root? files file? start ∧ s.projectId = ((root? files file? start).map Path.name).getD [] := by
  unfold build at built
  cases read : ofEntries entries with
  | error e =>
      rw [read] at built
      cases built
  | ok settings =>
      rw [read] at built
      exact project_override built

/-- The configuration file that settings are read from where there is a project: its own, the one in the home directory, or
none. -/
inductive Source (files : Files.Tree) (root : Path) : Option Path → Prop
  | own (there : files.isFile (fileOf root) = .ok true) : Source files root (some (fileOf root))
  | home (missing : files.isFile (fileOf root) = .ok false) (there : files.isFile (fileOf files.home) = .ok true) :
      Source files root (some (fileOf files.home))
  | nowhere (missing : files.isFile (fileOf root) = .ok false) (there : files.isFile (fileOf files.home) = .ok false) :
      Source files root none

theorem source_cases {file? : Option Path} (nearest : nearestRoot? files start = some root)
    (found : source? files none start = .ok file?) : Source files root file? := by
  rw [source?, nearest] at found
  dsimp only at found
  rw [fileIn?_eq, fileIn?_eq] at found
  rcases own : files.isFile (fileOf root) with e | _ | _ <;> rw [own] at found
  · cases found
  · rcases home : files.isFile (fileOf files.home) with e | _ | _ <;> rw [home] at found <;> cases found
    · exact .nowhere own home
    · exact .home own home
  · cases found
    exact .own own

/-- **The home directory stands in for the project**: it has a configuration file, the project has none, and it is not the
project itself. -/
def StandsIn (files : Files.Tree) (root : Path) : Prop :=
  files.isFile (fileOf root) = .ok false ∧ files.isFile (fileOf files.home) = .ok true ∧ files.home ≠ root

/-- The project of the settings is the nearest one exactly if the home directory does not stand in for it. -/
theorem root?_eq_iff {file? : Option Path} (nearest : nearestRoot? files start = some root)
    (source : Source files root file?) : root? files file? start = some root ↔ ¬ StandsIn files root := by
  unfold StandsIn
  cases source with
  | own there => simp [root?_fileOf, there]
  | home missing there => simp [root?_fileOf, missing, there]
  | nowhere missing there => simp [root?, nearest, missing, there]

/-- **Settings belong to the nearest project** around the start and have its name, exactly if the file in another home
directory does not stand in for that of the project. -/
theorem identity_iff (loaded : (load files env none start reader).2 = .ok s)
    (known : ∃ d : Path, d.Around (origin files start) ∧ HoldsFolder files d) :
    ∃ root, NearestRoot files start root ∧
      ((s.projectRoot = some root ∧ s.projectId = root.name) ↔ ¬ StandsIn files root) := by
  obtain ⟨root, nearest⟩ := exists_nearestRoot known
  obtain ⟨file?, entries, sourced, built⟩ := exists_sourced loaded
  obtain ⟨sameRoot, sameId⟩ := project_build built
  refine ⟨root, nearestRoot?_spec nearest, ?_⟩
  rw [← root?_eq_iff nearest (source_cases nearest sourced.source?_eq), sameRoot, sameId]
  refine and_iff_left_of_imp fun same => ?_
  rw [same]
  rfl

/-- A project beside a directory that has an empty configuration file. -/
def besideConfigured (directory : List Text) : Files.Tree where
  entries := [(["work", "proj", ".kest"], .directory), (directory ++ [folderName, fileName], .file [])]
  work := ⟨some [], ["work"]⟩
  home := ⟨some [], ["home"]⟩

/-- The settings in a project's own configuration file belong to the nearest project. -/
theorem identity_iff_own :
    let files := besideConfigured ["work", "proj"]
    let s : Settings := { projectId := "proj", projectRoot := some ⟨some [], ["work", "proj"]⟩,
                          source := some ⟨some [], ["work", "proj", ".kest", "config.yaml"]⟩ }
    (load files [] none ⟨none, ["proj"]⟩).2 = .ok s ∧
      (∃ d : Path, d.Around (origin files ⟨none, ["proj"]⟩) ∧ HoldsFolder files d) ∧
        ∃ root, NearestRoot files ⟨none, ["proj"]⟩ root ∧
          ((s.projectRoot = some root ∧ s.projectId = root.name) ↔ ¬ StandsIn files root) := by
  intro files s
  have loaded : (load files [] none ⟨none, ["proj"]⟩).2 = .ok s := by rfl
  have known : ∃ d : Path, d.Around (origin files ⟨none, ["proj"]⟩) ∧ HoldsFolder files d :=
    ⟨⟨some [], ["work", "proj"]⟩, by decide, by decide⟩
  exact ⟨loaded, known, identity_iff loaded known⟩

/-- The configuration file in the home directory makes it the project, though the settings are those of another. -/
theorem home_stands_in :
    let files := besideConfigured ["home"]
    ∃ s root, (load files [] none ⟨none, ["proj"]⟩).2 = .ok s ∧ NearestRoot files ⟨none, ["proj"]⟩ root ∧
      s.projectRoot ≠ some root ∧ s.projectId ≠ root.name := by
  have loaded : (load (besideConfigured ["home"]) [] none ⟨none, ["proj"]⟩).2 = .ok
      { projectId := "home", projectRoot := some ⟨some [], ["home"]⟩,
        source := some ⟨some [], ["home", ".kest", "config.yaml"]⟩ } := by rfl
  have nearest : nearestRoot? (besideConfigured ["home"]) ⟨none, ["proj"]⟩ = some ⟨some [], ["work", "proj"]⟩ := by decide
  exact ⟨_, _, loaded, nearestRoot?_spec nearest, by decide, by decide⟩

end Settings

end ApiFlow
