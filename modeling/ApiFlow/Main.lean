import ApiFlow.CommandLine.Program
import ApiFlow.Shell.Run

/-!
# The command line

The outer layer of the program: it collects the arguments, the environment, the time and the files that a run may read,
carries the arguments out, and writes what was printed.  Commands run in the shell of this library; there is no network,
so every request goes unanswered.
-/

set_option autoImplicit false

namespace ApiFlow.CommandLine

/-- The bytes of a file, if it can be read. -/
def bytesAt? (path : String) : IO (Option (List UInt8)) := do
  try
    return some (← IO.FS.readBinFile path).toList
  catch _ => return none

/-- The text of a file of the system; one that cannot be read is empty. -/
def systemText (path : String) : IO Text := return Utf8.decodeLossy ((← bytesAt? path).getD [])

/-- The variables of the environment. -/
def environment : IO (Table Text) := do
  let entries := Text.splitWhere (·.toNat = 0) (← systemText "/proc/self/environ")
  return Table.ofWrites (entries.filterMap (Text.cutAt? '='))

/-- The number behind a name in a text of names and numbers. -/
def numberAfter (name : Text) (text : Text) : Nat :=
  ((Text.cut? (name ++ [' ']) text).map fun r => Shell.Arithmetic.decimal (r.2.takeWhile Char.isDigit)).getD 0

/-- The time in nanoseconds since 1970: the moment of the last start and the time since then. -/
def nowNs : IO Nat := do
  let started := numberAfter "btime".toList (← systemText "/proc/stat")
  let awake := (← systemText "/proc/uptime").takeWhile Char.isDigit
  return (started + Shell.Arithmetic.decimal awake) * 1000000000

/-- The digits of a random identifier in groups, with its version and its variant. -/
def uuidOf (digits : Text) : Text :=
  let part (first count : Nat) : Text := (digits.drop first).take count
  Text.join ['-'] [part 0 8, part 8 4, '4' :: part 13 3, '8' :: part 17 3, part 20 12]

/-- The values from outside that names in a document stand for. -/
def builtins (env : Table Text) : IO Builtins := do
  let digits := ((← IO.getRandomBytes 4096).toList).flatMap fun b => Text.hex 2 b.toNat
  let cycle (width n : Nat) : Text := (digits.drop (width * (n % (digits.length / width)))).take width
  return { nowNs := ← nowNs, env, uuid := fun n => uuidOf (cycle 32 n), token := cycle 12 }

/-- The paths that a file names behind an at sign. -/
def namedPaths (text : Text) : List Text :=
  (Text.splitWhere Text.isBlank text).filterMap fun word =>
    match word with
    | '@' :: path => some path
    | _ => none

/-- A file of the tree, if it can be read. -/
def entryAt? (work path : Path) : IO (Option (List Text × Files.Entry)) := do
  let place := (work.within path).flat
  return (← bytesAt? (String.ofList place.text)).map fun bytes => (place.parts, .file bytes)

def commandPaths (arguments : List Text) : List Path :=
  match Command.read arguments with
  | .ok (.run request) => request.file :: request.config?.toList
  | .ok (.graph path) => [path]
  | .error _ => []

/-- The configuration files that are looked for without being named. -/
def settingsPaths (work home : Path) : List Path :=
  (home :: work.ancestors).map fun folder => (folder.child Settings.folderName).child Settings.fileName

/-- The files that the arguments may lead to. -/
def collectFiles (env : Table Text) (arguments : List Text) : IO Files.Tree := do
  let work := Path.ofText (toString (← IO.currentDir)).toList
  let home := Path.ofText ((env.get? "HOME".toList).getD ['/'])
  let named ← (commandPaths arguments).filterMapM (entryAt? work)
  let inside := named.flatMap fun e => match e.2 with
    | .file bytes => (namedPaths (Utf8.decodeLossy bytes)).map Path.ofText
    | .directory => []
  let others ← (inside ++ settingsPaths work home).filterMapM (entryAt? work)
  return { entries := named ++ others, work, home }

/-- Answers no request. -/
def unreachable : Service := fun _ _ => { outcome := .noResponse "request failed: no network".toList }

/-- Runs commands among the given files. -/
def shell (files : Files.Tree) : Shell := fun _ command limit =>
  { outcome := match Shell.answer files { } command limit with
      | .ok outcome => outcome
      | .error f => .broken f.message }

/-- The status that the program leaves to its caller. -/
def exitCode : Ending → Nat
  | .unread n => n
  | .status n => n
  | .fault _ => 1

/-- What is written for errors. -/
def errorText (ending : Ending) (session : Session) : Text :=
  match ending with
  | .fault f => f.message ++ ['\n']
  | .unread _ => if session.errors.isEmpty then [] else session.errors ++ ['\n']
  | .status _ => session.errors

/-- The time of the day of a moment, in universal time. -/
def timeOfDay (ns : Int) : TimeOfDay :=
  let second := (ns / 1000000000 % 86400).toNat
  { hour := ⟨second / 3600 % 24, Nat.mod_lt _ (Nat.zero_lt_succ _)⟩
    minute := ⟨second / 60 % 60, Nat.mod_lt _ (Nat.zero_lt_succ _)⟩
    second := ⟨second % 60, Nat.mod_lt _ (Nat.zero_lt_succ _)⟩ }

/-- Carries the arguments out and writes what comes of them. -/
def carryOut (arguments : List Text) : IO UInt32 := do
  let env ← environment
  let files ← collectFiles env arguments
  let b ← builtins env
  let world : Setup :=
    { builtins := b, service := unreachable, shell := shell files, files, configReader := Yaml.read,
      startTime := timeOfDay b.nowNs }
  let (ending, session) := Program.run world env { draws := { seed := b.nowNs } } arguments
  (← IO.getStdout).putStr (String.ofList session.run.printed)
  (← IO.getStderr).putStr (String.ofList (errorText ending session))
  return (exitCode ending).toUInt32

end ApiFlow.CommandLine

/-- Runs the program with the arguments of the command line. -/
def main (arguments : List String) : IO UInt32 := ApiFlow.CommandLine.carryOut (arguments.map String.toList)
