import ApiFlow.Shell.Condition
import ApiFlow.Shell.Fields
import ApiFlow.Shell.Format
import ApiFlow.Shell.Machine
import ApiFlow.Shell.OptionWalk
import ApiFlow.Shell.Signal

/-!
# The commands of the shell itself

Each command is a function of its arguments.  Some of them are special: what is wrong with their use ends the shell.

* `Builtin.find?` gives the command with a name.
-/

set_option autoImplicit false

namespace ApiFlow.Shell.Builtin

open Acting

/-- Ends a command with a status. -/
def done (code : Nat) : Acting Unit := setStatus code

def ofTruth (b : Bool) : Nat := if b then 0 else 1

/-! ## Printing -/

/-- Writes bytes to the output, if it is open. -/
def print (bytes : List UInt8) (code : Nat) : Acting Unit := do
  if ← writeOn 1 bytes then done code
  else do
    let name := (← scope).command
    complainSelf (name ++ ": I/O error".toList)
    done 1

def echo (arguments : List Text) : Acting Unit := print (Format.echo arguments) 0

def printf (arguments : List Text) : Acting Unit := do
  match arguments with
  | [] => misuse "usage: printf format [arg ...]".toList
  | ['-', '-'] :: [] => misuse "usage: printf format [arg ...]".toList
  | first :: rest =>
    match first, rest with
    | '-' :: c :: _, _ =>
      if first = ['-', '-'] then run (rest.headD []) rest.tail
      else misuse ("Illegal option -".toList ++ [c])
    | _, _ => run first rest
where
  /-- Prints by a format with arguments. -/
  run (format : Text) (arguments : List Text) : Acting Unit := do
    let f := Format.fill format arguments
    f.problems.forM complainSelf
    match f.refusal? with
    | some refusal => do
      write f.bytes
      misuse refusal
    | none => print f.bytes (ofTruth f.problems.isEmpty)

/-! ## Leaving -/

/-- The number that an argument spells; another text ends the shell. -/
def count (argument : Text) : Acting Nat := do
  match Arithmetic.integer? false argument with
  | some i => if 0 ≤ i && i < twoTo 31 then return i.toNat else fail ("Illegal number: ".toList ++ argument)
  | none => fail ("Illegal number: ".toList ++ argument)

def exit (arguments : List Text) : Acting Unit := do
  match arguments with
  | [] => throw (.status (← scope).status)
  | argument :: _ => throw (.status ((← count argument) % 256))

/-- Ends a function. -/
def giveBack (arguments : List Text) : Acting Unit := do
  match arguments with
  | [] => throw .back
  | argument :: _ => do
    done (← count argument)
    throw .back

/-- Leaves loops or goes on with them, as many as there are at most. -/
def leaveLoops (exit : Nat → Exit) (arguments : List Text) : Acting Unit := do
  let n ← match arguments with
    | [] => pure 1
    | argument :: _ => count argument
  if n = 0 then fail ("Illegal number: ".toList ++ arguments.headD [])
  done 0
  let loops := (← scope).loops
  if loops != 0 then throw (exit (min n loops))

/-! ## Variables -/

def written (s : Text) : Text :=
  Text.join "\"'\"".toList ((Text.splitAt '\'' s).map fun part => '\'' :: part ++ ['\''])

def listing (start : String) (vars : Table Text) : List Text :=
  (Text.sort vars.names).map fun name =>
    start.toList ++ name ++ '=' :: written ((vars.get? name).getD [])

/-- The name and the value of an argument that may set a variable. -/
def settingOf (argument : Text) : Text × Option Text :=
  match Text.cutAt? '=' argument with
  | some (name, value) => (name, some value)
  | none => (argument, none)

/-- Sets variables, and does something else with their names. -/
def declare (mark : Text → Acting Unit) (arguments : List Text) : Acting Unit := do
  arguments.forM fun argument => do
    let (name, value?) := settingOf argument
    if !isName name then fail (name ++ ": bad variable name".toList)
    if let some value := value? then assign name value
    mark name
  done 0

def withoutMark (arguments : List Text) : List Text :=
  if arguments.head? = some ['-', '-'] then arguments.tail else arguments

def pass (arguments : List Text) : Acting Unit := do
  let arguments := withoutMark arguments
  if arguments.isEmpty || arguments = ["-p".toList] then
    let scope ← scope
    sayLines (listing "export " (scope.vars.filter fun e => scope.exported.contains e.1))
    done 0
  else declare passOn arguments

/-- Keeps variables from being set. -/
def fix (arguments : List Text) : Acting Unit := do
  let arguments := withoutMark arguments
  if arguments.isEmpty || arguments = ["-p".toList] then
    let scope ← scope
    sayLines (listing "readonly " (scope.vars.filter fun e => scope.fixed.contains e.1))
    done 0
  else declare (fun name => modifyScope fun s => { s with fixed := name :: s.fixed }) arguments

/-- Brings variables back behind a function. -/
def hide (arguments : List Text) : Acting Unit := do
  if (← scope).calls = 0 then fail "not in a function".toList
  arguments.forM fun argument => do
    let (name, value?) := settingOf argument
    if !isName name then fail (name ++ ": bad variable name".toList)
    modifyScope fun s => { s with hidden := (name, s.vars.get? name) :: s.hidden }
    if let some value := value? then assign name value
  done 0

/-- Removes variables or functions. -/
def unset (arguments : List Text) : Acting Unit := do
  let (functions, names) : Bool × List Text := match arguments with
    | ['-', 'f'] :: names => (true, names)
    | ['-', 'v'] :: names => (false, names)
    | names => (false, withoutMark names)
  names.forM fun name => do
    match name with
    | '-' :: c :: _ => fail ("Illegal option -".toList ++ [c])
    | _ =>
      if functions then
        modifyScope fun s => { s with functions := s.functions.filter fun e => e.1 != name }
      else do
        if !isName name then fail (name ++ ": bad variable name".toList)
        if (← scope).fixed.contains name then fail (name ++ ": is read only".toList)
        forget name
  done 0

/-- Drops arguments of the script. -/
def shift (arguments : List Text) : Acting Unit := do
  let n ← match arguments with
    | [] => pure 1
    | argument :: _ => count argument
  let all := (← scope).arguments
  if all.length < n then fail "can't shift that many".toList
  modifyScope fun s => { s with arguments := all.drop n, optionPlace := {} }
  done 0

/-! ## Options -/

def options : List (Char × Text) := [
  ('e', "errexit"), ('f', "noglob"), ('I', "ignoreeof"), ('i', "interactive"), ('m', "monitor"), ('n', "noexec"),
  ('s', "stdin"), ('x', "xtrace"), ('v', "verbose"), ('V', "vi"), ('E', "emacs"), ('C', "noclobber"),
  ('a', "allexport"), ('b', "notify"), ('u', "nounset")].map fun o => (o.1, o.2.toList)

def setOption (on : Bool) (option : Char) : Acting Unit :=
  modifyScope fun s =>
    let others := s.options.filter (· != option)
    { s with options := if on then option :: others else others }

def optionLines (set : List Char) : List Text :=
  "Current option settings".toList ::
    options.map fun o => Text.padRight 16 o.2 ++ (if set.contains o.1 then "on" else "off").toList

def setLetters (on : Bool) (letters : Text) : Acting Unit :=
  letters.forM fun c => do
    if (options.map Prod.fst).contains c then setOption on c else fail ("Illegal option -".toList ++ [c])

/-- Sets options at the start of arguments; gives the arguments left, or none if no argument is set. -/
def setOptions : List Text → Acting (Option (List Text))
  | [] => return none
  | argument :: rest => do
    match argument with
    | ['-', '-'] => return some rest
    | ['-'] => return if rest.isEmpty then none else some rest
    | ['-', 'o'] | ['+', 'o'] =>
      match rest with
      | [] => do
        sayLines (optionLines (← scope).options)
        return none
      | name :: rest => do
        match options.find? fun o => o.2 = name with
        | some o => setOption (argument.head? = some '-') o.1
        | none => fail ("Illegal option -o ".toList ++ name)
        setOptions rest
    | '-' :: letters => do
      setLetters true letters
      setOptions rest
    | '+' :: letters => do
      setLetters false letters
      setOptions rest
    | _ => return some (argument :: rest)

def set (arguments : List Text) : Acting Unit := do
  if arguments.isEmpty then
    sayLines (listing "" (← scope).vars)
  else if let some words ← setOptions arguments then
    modifyScope fun s => { s with arguments := words, optionPlace := {} }
  done 0

/-! ## Directories -/

/-- Prints the directory that the script works in. -/
def pwd : Acting Unit := do
  print (Utf8.encode ((← get).files.work.text ++ ['\n'])) 0

/-- Changes the directory that the script works in. -/
def cd (arguments : List Text) : Acting Unit := do
  let arguments := arguments.filter fun a => !(["-P", "-L", "--"].contains (String.ofList a))
  let m ← get
  let vars := m.scope.vars
  let target := match arguments with
    | ['-'] :: _ => (vars.get? "OLDPWD".toList).getD []
    | argument :: _ => argument
    | [] => (vars.get? "HOME".toList).getD []
  let place := m.files.placed target
  if m.files.isDirectory (m.files.pathOf target) then
    modify fun m => { m with files := { m.files with work := place } }
    assign "OLDPWD".toList m.files.work.text
    assign "PWD".toList place.text
    if arguments.head? = some ['-'] then say (place.text ++ ['\n'])
    done 0
  else misuse ("can't cd to ".toList ++ target)

/-! ## Conditions and input -/

def test (arguments : List Text) : Acting Unit := do
  let m ← get
  match Condition.truth ⟨m.files, m.programs⟩ arguments with
  | .ok b => done (ofTruth b)
  | .error e => misuse e

def bracket (arguments : List Text) : Acting Unit := do
  if arguments.getLast? = some [']'] then test arguments.dropLast else misuse "missing ]".toList

/-- The bytes up to a line end, which a backslash in front keeps from ending the line, whether there is one, and the bytes
behind it. -/
def lineIn (raw : Bool) : List UInt8 → List UInt8 × Bool × List UInt8
  | [] => ([], false, [])
  | 92 :: b :: rest =>
    if raw then
      if b = 10 then ([92], true, rest)
      else
        let (line, ended, rest) := lineIn raw rest
        (92 :: b :: line, ended, rest)
    else
      let (line, ended, rest) := lineIn raw rest
      (if b = 10 then line else 92 :: b :: line, ended, rest)
  | b :: rest =>
    if b = 10 then ([], true, rest)
    else
      let (line, ended, rest) := lineIn raw rest
      (b :: line, ended, rest)

/-- The letters of a line; a backslash quotes the character behind it. -/
def lettersOf : Text → List Letter
  | '\\' :: c :: s => ⟨c, true⟩ :: lettersOf s
  | ['\\'] => []
  | c :: s => ⟨c, false⟩ :: lettersOf s
  | [] => []

/-- Reads a line into variables. -/
def read (arguments : List Text) : Acting Unit := do
  let raw := arguments.head? = some "-r".toList
  let names := if raw then arguments.tail else arguments
  if names.isEmpty then misuse "arg count".toList
  else do
    names.forM fun name => if isName name then pure () else fail (name ++ ": bad variable name".toList)
    let (line, ended) ← consume fun bytes =>
      let (line, ended, rest) := lineIn raw bytes
      ((line, ended), rest)
    let text := (Utf8.decodeLossy line).filter (·.toNat != 0)
    let letters := if raw then Letter.ofText false text else lettersOf text
    let separators := ((← scope).vars.get? "IFS".toList).getD usualSeparators
    let values := fieldsOfLine separators names.length letters
    (names.zip (values ++ List.replicate (names.length - values.length) [])).forM fun e => assign e.1 e.2
    done (ofTruth ended)

/-! ## Signals -/

/-- Sends a signal to the script itself: what is set for it is done later. -/
def receive (process : Nat) (signal : Signal) : Acting Unit := do
  done 0
  match (← scope).traps.get? signal.name, signal.effect with
  | some [], _ => return ()
  | some _, _ =>
    if signal.number = 9 then throw (.killed process 9)
    else modify fun m => { m with pending := m.pending ++ [signal.name] }
  | none, .nothing => return ()
  | none, .stop => throw .endless
  | none, .death => throw (.killed process signal.number)

def send (signal : Signal) (target : Text) : Acting Unit := do
  let m ← get
  match Arithmetic.integer? false target with
  | none => misuse ("Illegal number: ".toList ++ target)
  | some i =>
    if i.toNat = m.scope.process then receive m.scope.process signal
    else if m.jobs.any fun j => j.process = i.toNat then
      if signal.number != 0 then
        modify fun m => { m with
          jobs := m.jobs.filter fun j => j.process != i.toNat
          ended := (i.toNat, 128 + signal.number) :: m.ended }
      done 0
    else do
      complainSelf "No such process".toList
      done 1

/-- How signals are sent. -/
def killUsage : Text :=
  "Usage: kill [-s sigspec | -signum | -sigspec] [pid | job]... or\nkill -l [exitstatus]".toList

/-- Shows the name of a signal, which may be given by the status of a part that it has ended. -/
def nameSignal (argument : Text) : Acting Unit := do
  match argument, Arithmetic.integer? false argument with
  | '-' :: c :: _, _ => misuse ("Illegal option -".toList ++ [c])
  | _, none => misuse ("Illegal number: ".toList ++ argument)
  | _, some i =>
    let n := if 128 < i.toNat then i.toNat - 128 else i.toNat
    match Signal.all.find? fun signal => signal.number = n with
    | some signal => print (Utf8.encode (signal.name ++ ['\n'])) 0
    | none => misuse ("invalid signal number or exit status: ".toList ++ argument)

/-- Sends signals. -/
def kill (arguments : List Text) : Acting Unit := do
  match arguments with
  | [] => misuse killUsage
  | ['-', 'l'] :: [] => print (Utf8.encode (['0', '\n'] ++ Signal.all.flatMap fun signal => signal.name ++ ['\n'])) 0
  | ['-', 'l'] :: argument :: _ => nameSignal argument
  | ['-', 's'] :: name :: targets =>
    match Signal.read? Signal.all name with
    | some signal => targets.forM (send signal)
    | none => misuse ("invalid signal number or name: ".toList ++ name)
  | ('-' :: name) :: targets =>
    match Signal.read? Signal.all name with
    | some signal => targets.forM (send signal)
    | none => misuse ("Illegal option -".toList ++ name.take 1)
  | targets => targets.forM (send Signal.terminating)

/-- Sets what is done on signals. -/
def trap (arguments : List Text) : Acting Unit := do
  match withoutMark arguments with
  | [] => do
    let traps := (← scope).traps
    sayLines ((Signal.atEnd :: Signal.all).filterMap fun signal =>
      (traps.get? signal.name).map fun action => "trap -- ".toList ++ written action ++ ' ' :: signal.name)
    done 0
  | first :: rest => do
    let (action?, names) : Option Text × List Text :=
      if rest.isEmpty then (none, [first]) else if first = ['-'] then (none, rest) else (some first, rest)
    let good ← names.foldlM (fun good name => do
      match Signal.read? (Signal.atEnd :: Signal.all) name with
      | some signal => do
        modifyScope fun scope => { scope with traps := match action? with
          | some action => scope.traps.set signal.name action
          | none => scope.traps.filter fun e => e.1 != signal.name }
        return good
      | none => do
        complain ("trap: ".toList ++ name ++ ": bad trap".toList)
        return false) true
    done (ofTruth good)

/-! ## Other commands -/

def rightsBeside (mask : Nat) : Text :=
  let digits := [mask / 64 % 8, mask / 8 % 8, mask % 8]
  let rights (digit : Nat) : Text := [(4, 'r'), (2, 'w'), (1, 'x')].filterMap fun bit =>
    if digit / bit.1 % 2 = 0 then some bit.2 else none
  Text.join [','] ((['u', 'g', 'o'].zip digits).map fun e => e.1 :: '=' :: rights e.2)

/-- Prints the mask for new files, or takes another one. -/
def umask (arguments : List Text) : Acting Unit := do
  let mask := (← scope).mask
  match arguments with
  | [] => print (Utf8.encode ('0' :: [mask / 64 % 8, mask / 8 % 8, mask % 8].flatMap Text.ofNat ++ ['\n'])) 0
  | ['-', 'S'] :: _ => print (Utf8.encode (rightsBeside mask ++ ['\n'])) 0
  | argument :: _ =>
    if argument.all Char.isDigit then
      if argument.all fun c => c.toNat < 56 then
        modifyScope fun s => { s with mask := (argument.foldl (fun n c => n * 8 + (c.toNat - 48)) 0) % 512 }
        done 0
      else misuse ("Illegal number: ".toList ++ argument)
    else misuse ("Illegal mode: ".toList ++ argument)

/-- Prints a limit of the system; there is none. -/
def ulimit (arguments : List Text) : Acting Unit := do
  match arguments.filter fun argument => argument.head? != some '-' with
  | [] => print (Utf8.encode "unlimited\n".toList) 0
  | limit :: _ => if limit.all Char.isDigit || limit = "unlimited".toList then done 0 else misuse "bad number".toList

/-- Takes the next option from the arguments of the script, or from others. -/
def getopts (arguments : List Text) : Acting Unit := do
  match arguments with
  | known :: name :: others => do
    let scope ← scope
    let words := if others.isEmpty then scope.arguments else others
    let next := OptionWalk.next known words scope.optionPlace
    if let some complaint := next.complaint? then complain complaint
    match next.value with
    | .kept => pure ()
    | .gone => forget "OPTARG".toList
    | .set value => assign "OPTARG".toList value
    assign "OPTIND".toList (Text.ofNat next.place.index)
    modifyScope fun s => { s with optionPlace := next.place }
    if isName name then
      assign name [next.letter]
      done (ofTruth !next.ended)
    else misuse (name ++ ": bad variable name".toList)
  | _ => misuse "Usage: getopts optstring var [arg...]".toList

def times : Acting Unit := do
  sayLines (List.replicate 2 "0m0.000000s 0m0.000000s".toList)
  done 0

/-- A command that needs jobs that are under control. -/
def noJob (_ : List Text) : Acting Unit := misuse "No current job".toList

def find? (name : Text) : Option (List Text → Acting Unit) :=
  match String.ofList name with
  | ":" | "true" | "jobs" | "alias" => some fun _ => done 0
  | "false" => some fun _ => done 1
  | "echo" => some echo
  | "printf" => some printf
  | "exit" => some exit
  | "return" => some giveBack
  | "break" => some (leaveLoops Exit.leave)
  | "continue" => some (leaveLoops Exit.next)
  | "export" => some pass
  | "readonly" => some fix
  | "local" => some hide
  | "unset" => some unset
  | "shift" => some shift
  | "set" => some set
  | "pwd" => some fun _ => pwd
  | "cd" | "chdir" => some cd
  | "test" => some test
  | "[" => some bracket
  | "read" => some read
  | "kill" => some kill
  | "trap" => some trap
  | "umask" => some umask
  | "ulimit" => some ulimit
  | "getopts" => some getopts
  | "times" => some fun _ => times
  | "fg" | "bg" => some noJob
  | _ => none

end ApiFlow.Shell.Builtin
