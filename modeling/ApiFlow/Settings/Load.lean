import ApiFlow.Note
import ApiFlow.Settings.Read
import ApiFlow.Yaml.Read

/-!
# Loading settings

Settings come from a configuration file: the one that is asked for, that of the project, or that of the home directory.
The project is the nearest directory around the start that holds a settings folder.  Without a file, the settings are
the defaults.  The reader that turns the text of a file into a value is a parameter; the program uses `Yaml.read`.

* `Settings.nearestRoot?` finds the project.
* `Settings.source?` finds the file.
* `Settings.load` reads it and applies the environment.
-/

set_option autoImplicit false

namespace ApiFlow.Settings

open Yaml (Value)

def fileName : Text := "config.yaml".toList

/-- The nearest directory around the start, or the start itself, that holds a settings folder. -/
def nearestRoot? (files : Files.Tree) (start : Path) : Option Path :=
  (files.work.within start).flat.ancestors.find? fun directory => files.isDirectory (directory.child folderName)

/-- The configuration file in the settings folder of a directory, if it is there. -/
def fileIn? (files : Files.Tree) (directory : Path) : Except ConfigStop (Option Path) :=
  let path := (directory.child folderName).child fileName
  match files.isFile path with
  | .ok found => .ok (if found then some path else none)
  | .error e => .error (.fault (.file e))

/-- The configuration file to use: one that is asked for must be there. -/
def source? (files : Files.Tree) (path? : Option Path) (start : Path) : Except ConfigStop (Option Path) :=
  match path? with
  | some path =>
    match files.isFile path with
    | .ok true => .ok (some path)
    | .ok false => refuse (.missingFile path)
    | .error e => .error (.fault (.file e))
  | none => do
    let inProject ← match nearestRoot? files start with
      | some root => fileIn? files root
      | none => .ok none
    match inProject with
    | some path => return some path
    | none => fileIn? files files.home

/-- A misfit as it is told when a file is read in pieces: bytes that are missing at the end are looked for behind the last
piece, where nothing stands in front of them. -/
def inPieces (m : Utf8.Misfit) : Utf8.Misfit :=
  if m.fault.kind = .cutShort then { m with position := 0 } else m

/-- The entries of a configuration file; an empty one has none. -/
def contents (reader : Yaml.Reader) (files : Files.Tree) (path : Path) : Except ConfigStop (List (Value × Value)) :=
  match files.read path with
  | .error e => refuse (.unreadable path e)
  | .ok bytes =>
    match Utf8.decode bytes with
    | .error m => .error (.fault (.encoding (inPieces m)))
    | .ok text =>
      match reader (Files.plainLineEnds text) with
      | .error .malformed => refuse (.malformed path)
      | .error (.scalar e) => .error (.fault (.scalar e))
      | .ok value =>
        match value.opened with
        | .map entries => .ok entries
        | .null => .ok []
        | _ => refuse (.notSettings path)

/-- The project that settings belong to: that of their file if it is in a settings folder, otherwise the nearest one. -/
def root? (files : Files.Tree) (file? : Option Path) (start : Path) : Option Path :=
  match file? with
  | some path => if path.parent.name = folderName then some path.parent.parent else nearestRoot? files start
  | none => nearestRoot? files start

/-- The settings that the entries of a file give. -/
def build (files : Files.Tree) (env : Table Text) (file? : Option Path) (start : Path)
    (entries : List (Value × Value)) : Except ConfigStop Settings := do
  let settings ← ofEntries entries
  let projectRoot := root? files file? start
  let projectId := (projectRoot.map Path.name).getD []
  override { settings with source := file?, projectRoot, projectId } env

/-- A note about where settings come from. -/
def sourceNote (message : Text) : Note := ⟨.debug, .settings, message⟩

/-- Loads the settings, with the notes taken. -/
def load (files : Files.Tree) (env : Table Text) (path? : Option Path) (start : Path)
    (reader : Yaml.Reader := Yaml.read) : List Note × Except ConfigStop Settings :=
  match source? files path? start with
  | .error e => ([], .error e)
  | .ok none => ([sourceNote "No config file found, using defaults".toList], build files env none start [])
  | .ok (some path) =>
    match contents reader files path with
    | .error e => ([], .error e)
    | .ok entries => ([sourceNote ("Loaded config from ".toList ++ path.text)], build files env (some path) start entries)

end ApiFlow.Settings
