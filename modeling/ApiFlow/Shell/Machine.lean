import ApiFlow.Files.Tree
import ApiFlow.Number.Double
import ApiFlow.Shell.OptionWalk
import ApiFlow.Shell.Script
import ApiFlow.Table

/-!
# The state of a script that runs

A shell has variables, functions and arguments, a directory that it works in, and descriptors that lead to files or
channels.  A part that runs in a shell of its own shares the files and the channels with the others, but not the scope.

A channel holds the bytes that were written to it and not yet read.  The first three are the output, the output for
errors and the input of the whole script.

* `Acting` is what a command does; `Exit` is how it ends early.
* `Acting.write` and `Acting.readAll` go through descriptors, which `Acting.redirected` changes for a part.
* `Acting.apart` runs a part in a shell of its own.
-/

set_option autoImplicit false

namespace ApiFlow.Shell

/-- Where a descriptor leads. -/
inductive Stream where
  | channel (key : Nat)
  | file (place : List Text)
  | nowhere
  deriving DecidableEq, Repr

/-- The bytes in a channel: those that are read first, and the others with the last one first; they may be those of a
file. -/
structure Channel where
  ready : List UInt8 := []
  newest : List UInt8 := []
  ofFile : Bool := false
  deriving Repr

namespace Channel

def bytes (c : Channel) : List UInt8 := if c.newest.isEmpty then c.ready else c.ready ++ c.newest.reverse

/-- Adds bytes. -/
def push (c : Channel) (bytes : List UInt8) : Channel := { c with newest := bytes.reverseAux c.newest }

end Channel

structure Scope where
  process : Nat := 1
  program : Text := "sh".toList
  arguments : List Text := []
  vars : Table Text := []
  exported : List Text := []
  fixed : List Text := []
  functions : Table Script := []
  traps : Table Text := []
  options : List Char := []
  descriptors : List (Nat × Stream) := [(0, .channel 2), (1, .channel 0), (2, .channel 1)]
  status : Nat := 0
  outputStatus : Nat := 0
  line : Nat := 1
  command : Text := []
  loops : Nat := 0
  calls : Nat := 0
  hidden : List (Text × Option Text) := []
  optionPlace : OptionPlace := {}
  mask : Nat := 18
  lastJob? : Option Nat := none
  deriving Repr

/-- A part that runs in the background, the shell that it runs in, and when it started. -/
structure Job where
  process : Nat
  script : Script
  scope : Scope
  work : Path
  started : Double
  deriving Repr

/-- The state of a script: all shells share what is not in the scope.  A deadline names the process that it ends; the
commands left are those that may still run before time is taken to be up. -/
structure Machine where
  scope : Scope := {}
  files : Files.Tree := {}
  programs : List (List Text) := []
  channels : Array Channel := #[{}, {}, {}]
  documents : List (Nat × Word) := []
  nextDocument : Nat := 0
  nextProcess : Nat := 2
  jobs : List Job := []
  ended : List (Nat × Nat) := []
  pending : List Text := []
  waited : Double := Double.zero false
  deadline? : Option (Double × Nat) := none
  commandsLeft : Nat := 1000000

namespace Machine

def find (m : Machine) (path : Text) : Except Files.Error Files.Entry := m.files.find (m.files.pathOf path)

def read (m : Machine) (path : Text) : Except Files.Error (List UInt8) := m.files.read (m.files.pathOf path)

end Machine

/-- How a command ends early: the shell ends, loops are left or go on, a function returns, or time runs out. -/
inductive Exit where
  | status (code : Nat)
  | killed (process signal : Nat)
  | leave (loops : Nat)
  | next (loops : Nat)
  | back
  | endless
  deriving DecidableEq, Repr

/-- What a command does. -/
abbrev Acting := ExceptT Exit (StateM Machine)

namespace Acting

def modifyScope (f : Scope → Scope) : Acting Unit := modify fun m => { m with scope := f m.scope }

def scope : Acting Scope := return (← get).scope

def setStatus (code : Nat) : Acting Unit := modifyScope fun s => { s with status := code }

def has (option : Char) : Acting Bool := return (← scope).options.contains option

/-- Runs a part and something behind it, however the part ends. -/
def always {α : Type} (act : Acting α) (behind : Acting Unit) : Acting α :=
  ExceptT.mk do
    let r ← act.run
    let _ ← behind.run
    return r

/-- Runs a part and gives how it ended. -/
def caught {α : Type} (act : Acting α) : Acting (Except Exit α) :=
  ExceptT.mk do return .ok (← act.run)

/-! ## Writing and reading -/

/-- A tree with more bytes at the end of a file. -/
def appended (place : List Text) (bytes : List UInt8) (t : Files.Tree) : Files.Tree :=
  let old := match t.entry? place with
    | some (.file old) => old
    | _ => []
  t.put place (.file (old ++ bytes))

def writeTo (stream : Stream) (bytes : List UInt8) : Acting Unit :=
  modify fun m =>
    match stream with
    | .channel key => { m with channels := m.channels.modify key fun c => c.push bytes }
    | .file place => { m with files := appended place bytes m.files }
    | .nowhere => m

def stream? (descriptor : Nat) : Acting (Option Stream) := do
  return ((← scope).descriptors.find? fun e => e.1 = descriptor).map Prod.snd

/-- Writes bytes to a descriptor; false if it is closed. -/
def writeOn (descriptor : Nat) (bytes : List UInt8) : Acting Bool := do
  match ← stream? descriptor with
  | some stream => do
    writeTo stream bytes
    return true
  | none => return false

def write (bytes : List UInt8) : Acting Unit := do
  let _ ← writeOn 1 bytes

def say (s : Text) : Acting Unit := write (Utf8.encode s)

def sayLines (lines : List Text) : Acting Unit := lines.forM fun line => say (line ++ ['\n'])

/-- Writes a line to the output for errors. -/
def complain (s : Text) : Acting Unit := do
  let _ ← writeOn 2 (Utf8.encode (s ++ ['\n']))

/-- Writes a line of the shell itself, with its line and the command that runs. -/
def complainSelf (s : Text) : Acting Unit := do
  let scope ← scope
  let command := if scope.command.isEmpty then [] else scope.command ++ ": ".toList
  complain (scope.program ++ ": ".toList ++ Text.ofNat scope.line ++ ": ".toList ++ command ++ s)

def fail {α : Type} (message : Text) : Acting α := do
  complainSelf message
  throw (.status 2)

/-- Ends a command with an error. -/
def misuse (message : Text) : Acting Unit := do
  complainSelf message
  setStatus 2

/-- The bytes of a channel. -/
def bytesIn (key : Nat) : Acting (List UInt8) := return ((← get).channels[key]?.map Channel.bytes).getD []

def leave (key : Nat) (bytes : List UInt8) : Acting Unit :=
  modify fun m => { m with channels := m.channels.modify key fun c => { c with ready := bytes, newest := [] } }

def newChannel (bytes : List UInt8) (ofFile : Bool) : Acting Nat := do
  let key := (← get).channels.size
  modify fun m => { m with channels := m.channels.push { ready := bytes, ofFile } }
  return key

/-- Takes bytes from the input: what a function finds in them, and the bytes that it leaves. -/
def consume {α : Type} (f : List UInt8 → α × List UInt8) : Acting α := do
  match ← stream? 0 with
  | some (.channel key) => do
    let (x, rest) := f (← bytesIn key)
    leave key rest
    return x
  | _ => return (f []).1

/-- Takes all bytes from the input. -/
def readAll : Acting (List UInt8) := consume fun bytes => (bytes, [])

/-! ## Variables -/

/-- Whether a text may be the name of a variable; if it may not, or if the variable cannot be set, the shell ends. -/
def checkName (name : Text) : Acting Unit := do
  if !isName name then fail (name ++ ": bad variable name".toList)
  if (← scope).fixed.contains name then fail (name ++ ": is read only".toList)

/-- Sets a variable. -/
def assign (name value : Text) : Acting Unit := do
  checkName name
  modifyScope fun s => { s with
    vars := s.vars.set name value
    optionPlace := if name = "OPTIND".toList then OptionPlace.ofText value else s.optionPlace
    exported := if s.options.contains 'a' && !s.exported.contains name then name :: s.exported else s.exported }

def passOn (name : Text) : Acting Unit :=
  modifyScope fun s => if s.exported.contains name then s else { s with exported := name :: s.exported }

/-- Removes a variable. -/
def forget (name : Text) : Acting Unit :=
  modifyScope fun s => { s with
    vars := s.vars.filter fun e => e.1 != name, exported := s.exported.filter (· != name) }

def bringBack (name : Text) (value? : Option Text) : Acting Unit :=
  match value? with
  | some value => modifyScope fun s => { s with vars := s.vars.set name value }
  | none => forget name

/-- Puts a variable back to what it was in another scope. -/
def backTo (before : Scope) (name : Text) : Acting Unit :=
  modifyScope fun s => { s with
    vars := match before.vars.get? name with
      | some value => s.vars.set name value
      | none => s.vars.filter fun e => e.1 != name
    exported := if before.exported.contains name then s.exported else s.exported.filter (· != name) }

/-- Runs a part with variables of its own: they are set first, and put back behind it. -/
def withVariables (names : List Text) (setting act : Acting Unit) : Acting Unit := do
  let before ← scope
  always (do setting; act) (names.forM (backTo before))

/-! ## Redirections -/

/-- What is known of a path: where it leads, and what is there. -/
inductive Target where
  | copy (descriptor : Nat)
  | nowhere
  | place (place : List Text) (around? entry? : Option Files.Entry)

def targetOf (t : Files.Tree) (path : Text) : Target :=
  match String.ofList path with
  | "/dev/null" => .nowhere
  | "/dev/stdin" => .copy 0
  | "/dev/stdout" => .copy 1
  | "/dev/stderr" => .copy 2
  | _ =>
    let place := (t.placed path).parts
    .place place (t.find (t.work.within (t.pathOf path)).parent).toOption (t.find (t.pathOf path)).toOption

def pointTo (descriptor : Nat) (stream? : Option Stream) : Acting Unit :=
  modifyScope fun s =>
    let others := s.descriptors.filter fun e => e.1 != descriptor
    { s with descriptors := match stream? with
        | some stream => (descriptor, stream) :: others
        | none => others }

def refuse (s : Text) : Acting Bool := do
  complainSelf s
  return false

/-- Leads a descriptor to where another one leads; false if that one is closed. -/
def copyStream (descriptor other : Nat) : Acting Bool := do
  match ← stream? other with
  | some stream => do
    pointTo descriptor (some stream)
    return true
  | none => refuse (Text.ofNat other ++ ": Bad file descriptor".toList)

/-- Opens a file for writing; its directory must be there. -/
def openToWrite (descriptor : Nat) (keep force : Bool) (path : Text) : Acting Bool := do
  let t := (← get).files
  let problem (why : String) : Acting Bool := refuse ("cannot create ".toList ++ path ++ ": ".toList ++ why.toList)
  match targetOf t path with
  | .nowhere => do
    pointTo descriptor (some .nowhere)
    return true
  | .copy other => copyStream descriptor other
  | .place place around? entry? =>
    match around?, entry? with
    | _, some .directory => problem "Is a directory"
    | some .directory, _ =>
      if !keep && !force && entry?.isSome && (← has 'C') then problem "File exists"
      else do
        if !keep || entry?.isNone then modify fun m => { m with files := t.put place (.file []) }
        pointTo descriptor (some (.file place))
        return true
    | _, _ => problem "Directory nonexistent"

def openToRead (descriptor : Nat) (path : Text) : Acting Bool := do
  match targetOf (← get).files path with
  | .nowhere => do
    pointTo descriptor (some .nowhere)
    return true
  | .copy other => copyStream descriptor other
  | .place _ _ (some (.file bytes)) => do
    pointTo descriptor (some (.channel (← newChannel bytes true)))
    return true
  | .place place _ (some .directory) => do
    pointTo descriptor (some (.file place))
    return true
  | .place _ _ none => refuse ("cannot open ".toList ++ path ++ ": No such file".toList)

/-- Applies a redirection to its target, which is a text that is read itself in one direction; false if it cannot be
applied. -/
def redirect (descriptor : Nat) (direction : Direction) (target : Text) : Acting Bool := do
  match direction with
  | .write force => openToWrite descriptor false force target
  | .append => openToWrite descriptor true true target
  | .read => openToRead descriptor target
  | .both =>
    if ← openToWrite descriptor true true target then openToRead descriptor target else return false
  | .here _ => do
    pointTo descriptor (some (.channel (← newChannel (Utf8.encode target) false)))
    return true
  | .copy =>
    match target with
    | ['-'] => do
      pointTo descriptor none
      return true
    | [c] => if c.isDigit then copyStream descriptor (c.toNat - 48) else fail Misreading.badDescriptor.message
    | _ => fail Misreading.badDescriptor.message

/-- A redirection with its target. -/
abbrev Opening := Nat × Direction × Text

def redirectAll (openings : List Opening) : Acting Bool :=
  openings.foldlM (fun good o => if good then redirect o.1 o.2.1 o.2.2 else return false) true

/-- Runs a part with redirections, and puts the descriptors back behind it; if a redirection cannot be applied, something
else is run. -/
def redirected (openings : List Opening) (act otherwise : Acting Unit) : Acting Unit := do
  let before := (← scope).descriptors
  let back : Acting Unit := openings.forM fun o =>
    pointTo o.1 ((before.find? fun e => e.1 = o.1).map Prod.snd)
  if openings.isEmpty then act
  else if ← redirectAll openings then always act back
  else do
    back
    otherwise

/-! ## Time -/

def later (x y : Double) : Double := if x.lt y then y else x

/-- Waits for some seconds; a deadline ends a process before. -/
def wait (seconds : Double) : Acting Unit := do
  let m ← get
  let until_ := m.waited.add seconds
  match m.deadline? with
  | some (deadline, process) =>
    if deadline.lt until_ then
      set { m with waited := deadline }
      throw (.killed process 15)
    else set { m with waited := until_ }
  | none => set { m with waited := until_ }

/-- Counts a command; without end, time runs out. -/
def countCommand : Acting Unit := do
  let m ← get
  match m.commandsLeft with
  | 0 => throw .endless
  | n + 1 => set { m with commandsLeft := n }

/-! ## Shells of their own -/

/-- Runs a part in a shell of its own, which knows of the traps only those that ignore a signal; what it does to the scope
is forgotten but for the status.  Only a signal to the whole script and the end of time reach further. -/
def apart (act : Acting Unit) : Acting Unit := do
  let before ← get
  modifyScope fun s => { s with traps := s.traps.filter fun e => e.2.isEmpty }
  let ended ← caught act
  modify fun m => { m with
    scope := { before.scope with
      status := match ended with
        | .error (.status code) => code
        | _ => m.scope.status }
    files := { m.files with work := before.files.work } }
  match ended with
  | .error (.killed process signal) => throw (.killed process signal)
  | .error .endless => throw .endless
  | _ => return ()

/-- Runs a part with its output in a new channel, and gives the channel. -/
def captured (act : Acting Unit) : Acting Nat := do
  let key ← newChannel [] false
  apart do
    pointTo 1 (some (.channel key))
    act
  return key

end Acting

end ApiFlow.Shell
