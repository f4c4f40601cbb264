import ApiFlow.Fault
import ApiFlow.Request.Basic
import ApiFlow.Shell.Fields
import ApiFlow.Shell.Program.Starter
import ApiFlow.Shell.Reading

/-!
# Running a command

A command is a script that runs in a directory within a time limit.  The words of a command are expanded first: what is
not quoted is cut into fields, and a field that is a pattern stands for the files that it matches.

A script that a shell ends goes through its trap for the end.  A part that runs in the background waits until the script
itself waits, or ends.  A loop that goes on without end is one that runs out of time.

All of the shell belongs to the outer layer.  A run takes its shell from its setup, and what is said about runs is said of
every shell; this one lets the program run where the system has none.

* `run` runs a script.
* `answer` runs a command and gives what comes of it.
-/

set_option autoImplicit false

namespace ApiFlow.Shell

open Acting

/-! ## Parameters -/

def joint (scope : Scope) (name : Text) : Text :=
  if name = ['*'] then
    match scope.vars.get? "IFS".toList with
    | some separators => separators.take 1
    | none => [' ']
  else [' ']

def optionText (scope : Scope) : Text :=
  ((Builtin.options.map Prod.fst).filter scope.options.contains).reverse

/-- The value of a variable or of a name that stands for something else. -/
def valueOf? (scope : Scope) (name : Text) : Option Text :=
  match String.ofList name with
  | "?" => some (Text.ofNat scope.status)
  | "#" => some (Text.ofNat scope.arguments.length)
  | "$" => some (Text.ofNat scope.process)
  | "!" => scope.lastJob?.map Text.ofNat
  | "-" => some (optionText scope)
  | "0" => some scope.program
  | "@" | "*" => if scope.arguments.isEmpty then none else some (Text.join (joint scope name) scope.arguments)
  | _ =>
    if !name.isEmpty && name.all Char.isDigit then scope.arguments[Arithmetic.decimal name - 1]?
    else scope.vars.get? name

def isAll (name : Text) : Bool := name = ['@'] || name = ['*']

/-- What is said of a variable that has to be set. -/
def notSet (alsoEmpty : Bool) : Text :=
  "parameter not set".toList ++ (if alsoEmpty then " or null".toList else [])

def separatorsOf (scope : Scope) : Text := (scope.vars.get? "IFS".toList).getD usualSeparators

def outputText (bytes : List UInt8) : Text :=
  (Utf8.decodeLossy (bytes.reverse.dropWhile (· = 10)).reverse).filter (·.toNat != 0)

/-! ## Home directories -/

/-- The home directory of a user. -/
def homeOf? (scope : Scope) (user : Text) : Option Text :=
  if user.isEmpty then scope.vars.get? "HOME".toList
  else if user = "root".toList then some "/root".toList
  else none

/-- A text with the tilde that it starts with put out for a home directory; `alone` tells that the text is all there is up
to a slash or, in a value, a colon. -/
def fromHome (scope : Scope) (inValue alone : Bool) (s : Text) : List Letter :=
  match s with
  | '~' :: rest =>
    let user := rest.takeWhile fun c => c != '/' && !(inValue && c = ':')
    match if user.length = rest.length && !alone then none else homeOf? scope user with
    | some home => Letter.ofText true home ++ Letter.ofText false (rest.drop user.length)
    | none => Letter.ofText false s
  | _ => Letter.ofText false s

/-- A value with the tildes behind its colons put out as well. -/
def fromHomes (scope : Scope) (alone : Bool) (s : Text) : List Letter :=
  let parts := Text.splitAt ':' s
  (parts.zipIdx.map fun e =>
    let isLast := e.2 + 1 = parts.length
    (if e.2 = 0 then [] else Letter.ofText false [':']) ++ fromHome scope true (alone || !isLast) e.1).flatten

/-! ## Commands by name -/

/-- Commands whose arguments may set variables. -/
def declaring : List Text := ["export", "readonly", "local"].map String.toList

def running : List Text := [".", "command", "eval", "exec", "hash", "type", "wait"].map String.toList

def isOwn (name : Text) : Bool := (Builtin.find? name).isSome || running.contains name

def programName? (path : Text) : Option Text :=
  let isKnown (name : Text) : Bool := (Program.find? name).isSome || Starter.names.contains name
  let name := if path.contains '/' then
      match Path.ofText path with
      | { anchor := some _, parts := ["bin", name] } => if path.take 5 = "/bin/".toList then some name else none
      | { anchor := some _, parts := ["usr", "bin", name] } => some name
      | _ => none
    else some path
  name.filter isKnown

/-- What is said of a name that a command has. -/
def kindOf (scope : Scope) (name : Text) : Option Text :=
  if Token.reservedWords.contains name then some " is a shell keyword".toList
  else if Reading.specialCommands.contains name then some " is a special shell builtin".toList
  else if scope.functions.has name then some " is a shell function".toList
  else if isOwn name then some " is a shell builtin".toList
  else (programName? name).map fun program => " is /usr/bin/".toList ++ program

def wayTo? (scope : Scope) (name : Text) : Option Text :=
  if Token.reservedWords.contains name || scope.functions.has name || isOwn name then some name
  else (programName? name).map fun program => if name.contains '/' then name else "/usr/bin/".toList ++ program

/-- Shows how commands are found by their names, or what is said of one that is not. -/
def describe (how strange : Scope → Text → Option Text) (names : List Text) : Acting Unit := do
  let scope ← scope
  let found := names.map fun name => (how scope name, strange scope name)
  sayLines (found.filterMap fun e => e.1.or e.2)
  setStatus (if found.all fun e => e.1.isSome then 0 else 127)

/-- Shows what commands are. -/
def describeKinds (names : List Text) : Acting Unit :=
  describe (fun s n => (kindOf s n).map (n ++ ·)) (fun _ n => some (n ++ ": not found".toList)) names

/-- Shows how commands are found. -/
def describeWays (names : List Text) : Acting Unit := describe wayTo? (fun _ _ => none) names

def underName (name : Text) (act : Acting Unit) : Acting Unit := do
  let before := (← scope).command
  modifyScope fun s => { s with command := name }
  always act (modifyScope fun s => { s with command := before })

/-- Whether a program has a name or is at a path. -/
def isProgram (m : Machine) (name : Text) : Bool :=
  (programName? name).isSome || (name.contains '/' && m.programs.contains (m.files.placed name).parts)

/-- Ends a command that cannot be run: what is at its path is no program, or nothing is there.  Another program may have
been about to start it. -/
def unknown (starter? : Option Text) (name : Text) : Acting Unit := do
  let isThere := name.contains '/' && Names.isThere (← get).files name
  match starter? with
  | some starter =>
    complain (Starter.complaint starter name
      (if isThere then "Permission denied".toList else "No such file or directory".toList))
  | none => complainSelf (name ++ (if isThere then ": Permission denied".toList else ": not found".toList))
  setStatus (if isThere then 126 else 127)

def showPaths (all quiet : Bool) (names : List Text) : Acting Unit := do
  let found := names.map fun name => (programName? name).map fun program =>
    if name.contains '/' then [name]
    else ("/usr/bin/".toList ++ program) :: if all then ["/bin/".toList ++ program] else []
  if !quiet then sayLines (found.filterMap id).flatten
  setStatus (Builtin.ofTruth (!names.isEmpty && found.all Option.isSome))

/-- Tells whether there are commands with some names, which the shell would keep in mind. -/
def checkCommands (names : List Text) : Acting Unit := do
  setStatus 0
  names.forM fun name => do
    match name with
    | ['-', 'r'] | ['-', 'v'] => pure ()
    | '-' :: c :: _ => misuse ("Illegal option -".toList ++ [c])
    | _ =>
      let scope ← scope
      if !(name.contains '/' || scope.functions.has name || isOwn name || (programName? name).isSome) then
        complainSelf (name ++ ": not found".toList)
        setStatus 1

/-- The scope of a program that a shell starts. -/
def childScope (s : Scope) (process : Nat) (program : Text) (arguments : List Text) (options : List Char) : Scope :=
  { process, program, arguments, options, mask := s.mask
    vars := s.vars.filter fun e => s.exported.contains e.1
    exported := s.exported
    descriptors := s.descriptors }

/-- Runs a part in a process of its own; a signal that ends it is its status. -/
def inProcess (enter : Nat → Scope → Scope) (act : Acting Unit) : Acting Unit := do
  let process := (← get).nextProcess
  modify fun m => { m with nextProcess := process + 1 }
  match ← caught (apart do
    modifyScope (enter process)
    act) with
  | .error (.killed p signal) =>
    if p = process then
      let death := ((Signal.numbered? signal).map Signal.death).getD []
      if !death.isEmpty then complain death
      setStatus (128 + signal)
    else throw (.killed p signal)
  | .error e => throw e
  | .ok () => return ()

/-- How a loop goes on behind a part of it. -/
inductive Going where
  | on
  | again
  | out
  deriving DecidableEq, Repr

/-- Runs a part of a loop, and tells how the loop goes on; outer loops may be meant. -/
def part (act : Acting Unit) : Acting Going := do
  match ← caught act with
  | .ok () => return .on
  | .error (.leave (n + 2)) => throw (.leave (n + 1))
  | .error (.leave _) => return .out
  | .error (.next (n + 2)) => throw (.next (n + 1))
  | .error (.next _) => return .again
  | .error e => throw e

def inLoop (act : Acting Unit) : Acting Unit := do
  modifyScope fun s => { s with loops := s.loops + 1 }
  always act (modifyScope fun s => { s with loops := s.loops - 1 })

/-- Ends the shell behind a failed command, if it is set to. -/
def checkFailure (tested : Bool) : Acting Unit := do
  let scope ← scope
  if !tested && scope.status != 0 && scope.options.contains 'e' then throw (.status scope.status)

/-- Runs a part that a function or a file of commands may end before its end. -/
def untilBack (act : Acting Unit) : Acting Unit := do
  match ← caught act with
  | .ok () | .error .back => return ()
  | .error e => throw e

def failReading {α : Type} (e : Misreading × Nat) : Acting α := do
  modifyScope fun s => { s with line := e.2 }
  fail e.1.message

/-- Keeps the texts behind commands that reading has found. -/
def keepDocuments (s : Source) : Acting Unit :=
  modify fun m => { m with documents := s.documents ++ m.documents, nextDocument := s.nextDocument }

/-- The start of a text that is read from a line. -/
def startReading (line : Nat) (text : Text) : Acting Source :=
  return { rest := text, line, nextDocument := (← get).nextDocument }

/-! ## Scripts -/

mutual

/-- The letters that a piece of a word stands for where it is not cut. -/
def expandPiece : (fuel : Nat) → Piece → Acting (List Letter)
  | 0, _ => throw .endless
  | fuel + 1, piece => do
    match piece with
    | .text s quoted => return Letter.ofText quoted s
    | .number expression quoted => do
      let expression ← expandText fuel expression
      let scope ← scope
      match Arithmetic.value scope.vars scope.fixed expression with
      | .ok (i, vars) => do
        modifyScope fun s => { s with vars }
        return Letter.ofText quoted (Text.ofInt i)
      | .error .overflow => throw (.killed scope.process 8)
      | .error e => fail (e.message expression)
    | .output line command quoted => do
      let before := (← scope).status
      let key ← captured (finishing fuel (runWhole fuel line command))
      modifyScope fun s => { s with status := before, outputStatus := s.status }
      return Letter.ofText quoted (outputText (← bytesIn key))
    | .parameter name form argument quoted => do
      let scope ← scope
      let value? := valueOf? scope name
      let strict := scope.options.contains 'u' && !isAll name
      let value : Acting Text := match value? with
        | some s => pure s
        | none => if strict then fail (name ++ ": parameter not set".toList) else pure []
      match form with
      | .unknown => fail "Bad substitution".toList
      | .plain => return Letter.ofText quoted (← value)
      | .length => return Letter.ofText quoted (Text.ofNat (Utf8.encode (← value)).length)
      | .trimmed front longest => do
        let value ← value
        let pattern := Wildcard.ofLetters (← expandWord fuel argument)
        return Letter.ofText quoted
          (if front then Wildcard.trimFront longest pattern value else Wildcard.trimBack longest pattern value)
      | .choice sign alsoEmpty => do
        let given := match value? with
          | some s => !(alsoEmpty && s.isEmpty)
          | none => false
        if sign = '+' then
          if given then expandWord fuel argument else return []
        else if given then return Letter.ofText quoted (value?.getD [])
        else if sign = '=' then do
          let s ← expandText fuel argument
          assign name s
          return Letter.ofText quoted s
        else if sign = '?' then do
          let s ← expandText fuel argument
          fail (name ++ ": ".toList ++ (if argument.isEmpty then notSet alsoEmpty else s))
        else expandWord fuel argument

def expandWord : (fuel : Nat) → Word → Acting (List Letter)
  | 0, _ => throw .endless
  | fuel + 1, w => do
    match w with
    | [] => return []
    | piece :: w => do
      let first ← expandPiece fuel piece
      return first ++ (← expandWord fuel w)

def expandText : (fuel : Nat) → Word → Acting Text
  | 0, _ => throw .endless
  | fuel + 1, w => return Letter.text (← expandWord fuel w)

/-- The text of a value, of which tildes are put out. -/
def expandValue : (fuel : Nat) → (isValue : Bool) → Word → Acting Text
  | 0, _, _ => throw .endless
  | fuel + 1, isValue, w => do
    match w with
    | .text s false :: w => do
      let scope ← scope
      let first := if isValue then fromHomes scope w.isEmpty s else fromHome scope false w.isEmpty s
      return Letter.text first ++ (← expandText fuel w)
    | _ => expandText fuel w

/-- The fields of a word; inside the argument of an expansion, plain text is cut as well. -/
def expandFields : (fuel : Nat) → (inside : Bool) → Fields → Word → Acting Fields
  | 0, _, _, _ => throw .endless
  | fuel + 1, inside, f, w => do
    match w with
    | [] => return f
    | piece :: rest => do
      let scope ← scope
      let separators := separatorsOf scope
      let addAll (quoted : Bool) : Fields :=
        (scope.arguments.zipIdx.foldl (fun f e =>
          let f := if e.2 = 0 then f else f.finish
          let letters := Letter.ofText quoted e.1
          if quoted then f.add letters else f.cut separators .no letters) f)
      match piece with
      | .text s true =>
        let isNone := match s, rest with
          | [], .parameter ['@'] .plain _ true :: _ => scope.arguments.isEmpty
          | _, _ => false
        expandFields fuel inside (if isNone then f else f.add (Letter.ofText true s)) rest
      | .text s false =>
        let letters := Letter.ofText false s
        expandFields fuel inside (if inside then f.cut separators .no letters else f.add letters) rest
      | .parameter ['@'] .plain _ quoted => expandFields fuel inside (addAll quoted) rest
      | .parameter ['*'] .plain _ false => expandFields fuel inside (addAll false) rest
      | .parameter name (.choice sign alsoEmpty) argument _ => do
        let given := match valueOf? scope name with
          | some s => !(alsoEmpty && s.isEmpty)
          | none => false
        if (sign = '+' && given) || (sign = '-' && !given) then
          let f ← expandFields fuel true f argument
          expandFields fuel inside f rest
        else if sign = '-' && isAll name then
          let f ← expandFields fuel inside f [.parameter name .plain [] piece.isQuoted]
          expandFields fuel inside f rest
        else
          let letters ← expandPiece fuel piece
          expandFields fuel inside (if piece.isQuoted then f.add letters else f.cut separators .no letters) rest
      | _ => do
        let letters ← expandPiece fuel piece
        expandFields fuel inside (if piece.isQuoted then f.add letters else f.cut separators .no letters) rest

/-- The fields of a word, with the files that patterns stand for. -/
def expandNames : (fuel : Nat) → Word → Acting (List Text)
  | 0, _ => throw .endless
  | fuel + 1, w => do
    let f ← match w with
      | .text s false :: rest => do
        let start := fromHome (← scope) false rest.isEmpty s
        expandFields fuel false ({ open? := some start : Fields }) rest
      | _ => expandFields fuel false {} w
    if ← has 'f' then return f.all.map Letter.text
    else
      let t := (← get).files
      return f.all.flatMap (Names.all t)

def expandAll : (fuel : Nat) → List Word → Acting (List Text)
  | 0, _ => throw .endless
  | fuel + 1, words => do
    match words with
    | [] => return []
    | w :: words => do
      let first ← expandNames fuel w
      return first ++ (← expandAll fuel words)

/-- The fields of the words of a command that may set variables. -/
def expandSettings : (fuel : Nat) → List Word → Acting (List Text)
  | 0, _ => throw .endless
  | fuel + 1, words => do
    match words with
    | [] => return []
    | w :: words => do
      let first ← match Reading.assignment? w with
        | some (name, value) => do
          let value ← expandValue fuel true value
          pure [name ++ '=' :: value]
        | none => expandNames fuel w
      return first ++ (← expandSettings fuel words)

def expandCommand : (fuel : Nat) → List Word → Acting (List Text)
  | 0, _ => throw .endless
  | fuel + 1, words => do
    match words with
    | [] => return []
    | w :: words => do
      let first ← expandNames fuel w
      match first with
      | [] => expandCommand fuel words
      | name :: _ => return first ++ (← if declaring.contains name then expandSettings fuel words else expandAll fuel words)

def expandTargets : (fuel : Nat) → List Redirect → Acting (List Opening)
  | 0, _ => throw .endless
  | fuel + 1, redirects => do
    match redirects with
    | [] => return []
    | r :: redirects => do
      let target ← match r.direction with
        | .here number =>
          expandText fuel (((← get).documents.find? fun d => d.1 = number).map Prod.snd |>.getD [])
        | _ => expandValue fuel false r.target
      return (r.descriptor, r.direction, target) :: (← expandTargets fuel redirects)

def setValues : (fuel : Nat) → (passed : Bool) → List (Text × Word) → Acting (List Text)
  | 0, _, _ => throw .endless
  | fuel + 1, passed, values => do
    match values with
    | [] => return []
    | (name, w) :: values => do
      let value ← expandValue fuel true w
      assign name value
      if passed then passOn name
      return (name ++ '=' :: value) :: (← setValues fuel passed values)

/-- Shows a command that is about to run. -/
def trace : (fuel : Nat) → (stream? : Option Stream) → (settings fields : List Text) → Acting Unit
  | 0, _, _, _ => return ()
  | _ + 1, stream?, settings, fields => do
    let scope ← scope
    if scope.options.contains 'x' then
      if let some stream := stream? then
        let start := (scope.vars.get? "PS4".toList).getD "+ ".toList
        writeTo stream (Utf8.encode (start ++ Text.join [' '] (settings ++ fields) ++ ['\n']))

def call : (fuel : Nat) → (tested : Bool) → Script → (arguments : List Text) → Acting Unit
  | 0, _, _, _ => throw .endless
  | fuel + 1, tested, body, arguments => do
    let before ← scope
    modifyScope fun s => { s with arguments, loops := 0, calls := s.calls + 1, hidden := [], optionPlace := {} }
    always (untilBack (run fuel tested body)) do
      (← scope).hidden.forM fun e => bringBack e.1 e.2
      modifyScope fun s => { s with
        arguments := before.arguments, loops := before.loops, calls := before.calls, hidden := before.hidden
        optionPlace := before.optionPlace }

def source : (fuel : Nat) → (arguments : List Text) → Acting Unit
  | 0, _ => throw .endless
  | fuel + 1, arguments => do
    match arguments with
    | [] => setStatus 0
    | path :: _ =>
      if !path.contains '/' then fail (path ++ ": not found".toList)
      match (← get).read path with
      | .error _ => fail ("cannot open ".toList ++ path ++ ": No such file".toList)
      | .ok bytes => do
        setStatus 0
        underName path (untilBack (runText fuel false (Utf8.decodeLossy bytes)))

/-- Runs a part that waits in the background; one that takes time is left where it is, unless all are waited for. -/
def settleOne : (fuel : Nat) → (all : Bool) → Job → Acting Unit
  | 0, _, _ => throw .endless
  | fuel + 1, all, job => do
    let before ← get
    set { before with
      waited := job.started
      scope := job.scope
      jobs := before.jobs.filter fun j => j.process != job.process
      files := { before.files with work := job.work } }
    apart (finishing fuel (run fuel false job.script))
    let after ← get
    if !all && job.started.lt after.waited then set before
    else
      set { after with
        waited := later before.waited after.waited
        scope := before.scope
        ended := (job.process, after.scope.status) :: after.ended
        files := { after.files with work := before.files.work } }

/-- Runs the parts that wait in the background. -/
def settle : (fuel : Nat) → (all : Bool) → Acting Unit
  | 0, _ => throw .endless
  | fuel + 1, all => do (← get).jobs.forM (settleOne fuel all)

/-- Waits for parts in the background. -/
def await : (fuel : Nat) → (arguments : List Text) → Acting Unit
  | 0, _ => throw .endless
  | fuel + 1, arguments => do
    settle fuel true
    setStatus 0
    arguments.forM fun argument => do
      let n := Arithmetic.decimal argument
      setStatus ((((← get).ended.find? fun e => e.1 = n).map Prod.snd).getD 127)

/-- Runs a script in a shell of its own, which a program starts. -/
def runChild : (fuel : Nat) → (options : List Char) → (text program : Text) → (arguments : List Text) → Acting Unit
  | 0, _, _, _, _ => throw .endless
  | fuel + 1, options, text, program, arguments =>
    inProcess (fun process s => childScope s process program arguments options) (finishing fuel (runText fuel false text))

def start : (fuel : Nat) → Starter → Acting Unit
  | 0, _ => throw .endless
  | fuel + 1, starter => do
    match starter with
    | .failed code problems => do
      problems.forM complain
      setStatus code
    | .shell options command program arguments => runChild fuel options command program arguments
    | .file options path arguments =>
      match (← get).read path with
      | .ok bytes => runChild fuel options (Utf8.decodeLossy bytes) path arguments
      | .error _ => do
        complain ("sh: 0: cannot open ".toList ++ path ++ ": No such file".toList)
        setStatus 2
    | .fromInput options => runChild fuel options (Utf8.decodeLossy (← readAll)) "sh".toList []
    | .passing starter e words => do
      let before ← scope
      modifyScope fun s => e.values.foldl
        (fun s v => { s with vars := s.vars.set v.1 v.2, exported := v.1 :: s.exported.filter (· != v.1) })
        { s with exported := if e.fresh then [] else s.exported.filter fun name => !e.gone.contains name }
      let act : Acting Unit := match words with
        | [] => do
          let scope ← scope
          sayLines ((scope.vars.filter fun v => scope.exported.contains v.1).map fun v => v.1 ++ '=' :: v.2)
          setStatus 0
        | name :: arguments => startProgram fuel (some starter) name arguments
      always act (modifyScope fun s => { s with vars := before.vars, exported := before.exported })
    | .limited limit words => do
      let before ← get
      let process := before.nextProcess
      let end_ := before.waited.add limit.seconds
      let isFirst := match before.deadline? with
        | some (other, _) => end_.lt other
        | none => true
      set { before with
        nextProcess := process + 1
        deadline? :=
          if isFirst && (Double.zero false).lt limit.seconds then some (end_, process) else before.deadline? }
      let ended ← caught (apart (startProgram fuel (some "timeout".toList) (words.headD []) words.tail))
      modify fun m => { m with deadline? := before.deadline? }
      match ended with
      | .error (.killed p signal) =>
        if p != process then throw (.killed p signal)
        if limit.tells then
          complain ("timeout: sending signal ".toList ++ limit.signal.name ++ " to command ".toList ++
            Program.quoted (words.headD []))
        if limit.signal.number = 9 then complain limit.signal.death
        setStatus (if limit.keeps || limit.signal.number = 9 then 128 + limit.signal.number else 124)
      | .error e => throw e
      | .ok () => return ()
    | .repeated repetition words =>
      match repetition.calls words (Utf8.decodeLossy (← readAll)) with
      | .ok calls => startAll fuel repetition.shows false calls
      | .error e => do
        complain ("xargs: ".toList ++ e)
        setStatus 1
    | .found all quiet names => showPaths all quiet names

/-- Starts programs one after the other until one cannot be started or asks for the end. -/
def startAll : (fuel : Nat) → (shows bad : Bool) → List (List Text) → Acting Unit
  | 0, _, _, _ => throw .endless
  | fuel + 1, shows, bad, calls => do
    match calls with
    | [] => setStatus (if bad then 123 else 0)
    | call :: calls => do
      if shows then complain (Text.join [' '] call)
      let name := call.headD []
      startProgram fuel (some "xargs".toList) name call.tail
      let status := (← scope).status
      if !isProgram (← get) name then return ()
      else if status = 255 then
        complain ("xargs: ".toList ++ name ++ ": exited with status 255; aborting".toList)
        setStatus 124
      else startAll fuel shows (bad || status != 0) calls

/-- Starts the program with a name or at a path; another program may start it. -/
def startProgram : (fuel : Nat) → (starter? : Option Text) → (name : Text) → (arguments : List Text) → Acting Unit
  | 0, _, _, _ => throw .endless
  | fuel + 1, starter?, name, arguments => do
    match programName? name with
    | some program =>
      match Program.find? program with
      | some act => do
        if program = "sleep".toList then settle fuel false
        act arguments
      | none => start fuel (Starter.read program arguments)
    | none => do
      if isProgram (← get) name then start fuel (.file [] name arguments)
      else unknown starter? name

/-- Runs the command with a name; a function may stand for it. -/
def dispatch : (fuel : Nat) → (tested functions : Bool) → (name : Text) → (arguments : List Text) → Acting Unit
  | 0, _, _, _, _ => throw .endless
  | fuel + 1, tested, functions, name, arguments => do
    let scope ← scope
    let isSpecial := Reading.specialCommands.contains name
    match if functions && !isSpecial then scope.functions.get? name else none with
    | some body => call fuel tested body arguments
    | none =>
      match Builtin.find? name with
      | some act => underName name (act arguments)
      | none =>
        match String.ofList name with
        | "." => underName name (source fuel arguments)
        | "eval" => do
          setStatus 0
          underName name (runText fuel tested (Text.join [' '] arguments))
        | "command" => directly fuel tested arguments
        | "hash" => underName name (checkCommands arguments)
        | "type" => describeKinds arguments
        | "wait" => await fuel arguments
        | "exec" => replace fuel arguments
        | _ => startProgram fuel none name arguments

/-- Runs a command that no function stands for, or shows how it is found. -/
def directly : (fuel : Nat) → (tested : Bool) → (arguments : List Text) → Acting Unit
  | 0, _, _ => throw .endless
  | fuel + 1, tested, arguments => do
    match arguments with
    | ['-', 'v'] :: names => describeWays names
    | ['-', 'V'] :: names => describeKinds names
    | ['-', 'p'] :: rest => directly fuel tested rest
    | ['-', '-'] :: rest => directly fuel tested rest
    | name :: rest => dispatch fuel tested false name rest
    | [] => setStatus 0

/-- Runs a program instead of the rest of the script. -/
def replace : (fuel : Nat) → (arguments : List Text) → Acting Unit
  | 0, _ => throw .endless
  | fuel + 1, arguments => do
    match arguments with
    | [] => setStatus 0
    | name :: rest => do
      underName (if (programName? name).isSome then [] else "exec".toList) (startProgram fuel none name rest)
      modifyScope fun s => { s with traps := [] }
      throw (.status (← scope).status)

/-- Does what is set for signals that have come in. -/
def runPending : (fuel : Nat) → Acting Unit
  | 0 => throw .endless
  | fuel + 1 => do
    let m ← get
    match m.pending with
    | [] => return ()
    | name :: others => do
      set { m with pending := others }
      runText fuel true ((m.scope.traps.get? name).getD [])
      setStatus m.scope.status
      runPending fuel

def runSimple : (fuel : Nat) → (tested : Bool) → (line : Nat) → (values : List (Text × Word)) → List Word →
    List Redirect → Acting Unit
  | 0, _, _, _, _, _ => throw .endless
  | fuel + 1, tested, line, values, words, redirects => do
    countCommand
    modifyScope fun s => { s with line, outputStatus := 0 }
    let errors? ← stream? 2
    let fields ← expandCommand fuel words
    let openings ← expandTargets fuel redirects
    match fields with
    | [] =>
      redirected openings
        (do
          let settings ← setValues fuel false values
          trace fuel errors? settings []
          modifyScope fun s => { s with status := s.outputStatus })
        (setStatus 2)
    | name :: arguments =>
      let act : Acting Unit := dispatch fuel tested true name arguments
      if name = "exec".toList then
        if ← redirectAll openings then
          let settings ← setValues fuel (!arguments.isEmpty) values
          trace fuel errors? settings fields
          act
        else throw (.status 2)
      else if Reading.specialCommands.contains name then
        redirected openings
          (do
            let settings ← setValues fuel false values
            trace fuel errors? settings fields
            act)
          (throw (.status 2))
      else
        redirected openings
          (withVariables (values.map Prod.fst)
            (do
              let settings ← setValues fuel true values
              trace fuel errors? settings fields)
            act)
          (setStatus 2)
    runPending fuel

/-- Runs a script; `tested` tells that its status is asked for. -/
def run : (fuel : Nat) → (tested : Bool) → Script → Acting Unit
  | 0, _, _ => throw .endless
  | fuel + 1, tested, s => do
    if ← has 'n' then return ()
    match s with
    | .nothing => return ()
    | .simple line values words redirects => do
      runSimple fuel tested line values words redirects
      checkFailure tested
    | .pipe left right => do
      let before := (← get).waited
      let key ← newChannel [] false
      match ← caught (apart do
        pointTo 1 (some (.channel key))
        finishing fuel (run fuel tested left)) with
      | .ok () | .error .endless => pure ()
      | .error e => throw e
      let first := (← get).waited
      modify fun m => { m with waited := before }
      apart do
        pointTo 0 (some (.channel key))
        finishing fuel (run fuel true right)
      modify fun m => { m with waited := later first m.waited }
      checkFailure tested
    | .negated s => do
      run fuel true s
      setStatus (Builtin.ofTruth ((← scope).status != 0))
    | .andThen left right => do
      run fuel true left
      if (← scope).status = 0 then run fuel tested right
    | .orElse left right => do
      run fuel true left
      if (← scope).status != 0 then run fuel tested right
    | .sequence left right => do
      run fuel tested left
      run fuel tested right
    | .background s => do
      let m ← get
      let process := m.nextProcess
      let job : Job := {
        process, script := s, work := m.files.work, started := m.waited
        scope := { m.scope with
          descriptors := (0, .nowhere) :: m.scope.descriptors.filter fun e => e.1 != 0 } }
      set { m with nextProcess := process + 1, jobs := m.jobs ++ [job] }
      modifyScope fun s => { s with status := 0, lastJob? := some process }
    | .redirected line s redirects => do
      modifyScope fun s => { s with line }
      let openings ← expandTargets fuel redirects
      redirected openings (run fuel tested s) do
        setStatus 2
        checkFailure tested
    | .subshell s => do
      apart (finishing fuel (run fuel tested s))
      checkFailure tested
    | .ifThen test yes no => do
      run fuel true test
      if (← scope).status = 0 then run fuel tested yes
      else do
        if let .nothing := no then setStatus 0
        run fuel tested no
    | .loop until_ test body => inLoop (loop fuel tested until_ test body 0)
    | .forEach name words body => do
      let fields ← expandAll fuel words
      setStatus 0
      inLoop (forEach fuel tested name fields body)
    | .choose subject cases => do
      let s ← expandValue fuel false subject
      choose fuel tested s cases
    | .define name body => modifyScope fun s => { s with functions := s.functions.set name body, status := 0 }

/-- Runs the body of a loop as long as its test allows; `last` is the status of the body before. -/
def loop : (fuel : Nat) → (tested until_ : Bool) → (test body : Script) → (last : Nat) → Acting Unit
  | 0, _, _, _, _, _ => throw .endless
  | fuel + 1, tested, until_, test, body, last => do
    match ← part (run fuel true test) with
    | .out => setStatus last
    | .again => loop fuel tested until_ test body last
    | .on =>
      if ((← scope).status = 0) != until_ then
        match ← part (run fuel tested body) with
        | .out => return ()
        | _ => loop fuel tested until_ test body (← scope).status
      else setStatus last

def forEach : (fuel : Nat) → (tested : Bool) → (name : Text) → List Text → Script → Acting Unit
  | 0, _, _, _, _ => throw .endless
  | fuel + 1, tested, name, fields, body => do
    match fields with
    | [] => return ()
    | field :: fields => do
      assign name field
      match ← part (run fuel tested body) with
      | .out => return ()
      | _ => forEach fuel tested name fields body

/-- Runs the first case that has a pattern for a text. -/
def choose : (fuel : Nat) → (tested : Bool) → (subject : Text) → List (List Word × Script) → Acting Unit
  | 0, _, _, _ => throw .endless
  | fuel + 1, tested, subject, cases => do
    match cases with
    | [] => setStatus 0
    | (patterns, body) :: cases => do
      if ← anyFits fuel subject patterns then
        match body with
        | .nothing => setStatus 0
        | _ => run fuel tested body
      else choose fuel tested subject cases

def anyFits : (fuel : Nat) → (subject : Text) → List Word → Acting Bool
  | 0, _, _ => throw .endless
  | fuel + 1, subject, patterns => do
    match patterns with
    | [] => return false
    | w :: patterns => do
      let letters ← expandWord fuel w
      if Wildcard.fits (Wildcard.ofLetters letters) subject then return true else anyFits fuel subject patterns

def runLines : (fuel : Nat) → (tested : Bool) → Source → Acting Unit
  | 0, _, _ => throw .endless
  | fuel + 1, tested, s => do
    match s.nextLine with
    | .error e => failReading e
    | .ok (none, _) => return ()
    | .ok (some script, s) => do
      keepDocuments s
      run fuel tested script
      runLines fuel tested { s with documents := [] }

def runText : (fuel : Nat) → (tested : Bool) → Text → Acting Unit
  | 0, _, _ => throw .endless
  | fuel + 1, tested, text => do runLines fuel tested (← startReading 1 text)

/-- Runs a text that is read as a whole from a line on. -/
def runWhole : (fuel line : Nat) → Text → Acting Unit
  | 0, _, _ => throw .endless
  | fuel + 1, line, text => do
    match (← startReading line text).whole with
    | .error e => failReading e
    | .ok (script?, s) => do
      keepDocuments s
      setStatus 0
      run fuel false (script?.getD .nothing)

/-- Runs a part as all that a shell does, with what is set for its end. -/
def finishing : (fuel : Nat) → Acting Unit → Acting Unit
  | 0, _ => throw .endless
  | fuel + 1, act => do
    let ended ← caught act
    match ended with
    | .error (.killed process signal) => throw (.killed process signal)
    | .error .endless => throw .endless
    | _ => do
      if let .error (.status code) := ended then setStatus code
      let code := (← scope).status
      match (← scope).traps.get? "EXIT".toList with
      | none | some [] => throw (.status code)
      | some action => do
        modifyScope fun s => { s with traps := s.traps.filter fun e => e.1 != "EXIT".toList }
        match ← caught (untilBack (runText fuel true action)) with
        | .ok () => throw (.status code)
        | .error e => throw e

end

/-! ## Commands -/

/-- The deepest nesting of a script that is followed. -/
def depth : Nat := 100000

/-- The status that a script ends with; a signal counts below zero. -/
def codeOf (m : Machine) : Except Exit Unit → Int
  | .error (.status code) => code
  | .error (.killed _ signal) => -(signal : Int)
  | _ => m.scope.status

/-- What was written to a channel. -/
def writtenTo (m : Machine) (key : Nat) : List UInt8 := (m.channels[key]?.map Channel.bytes).getD []

def isTooLate (limit : Double) (ended : Except Exit Unit) (m : Machine) : Bool :=
  limit.lt m.waited || match ended with
    | .error .endless => true
    | _ => false

/-- What comes of a machine that has stopped. -/
def outcomeOf (limit : Double) (ended : Except Exit Unit) (m : Machine) : Except Fault ShellOutcome :=
  if isTooLate limit ended m then .ok .timedOut
  else
    match Utf8.decode (writtenTo m 0), Utf8.decode (writtenTo m 1) with
    | .error misfit, _ => .error (.encoding misfit)
    | _, .error misfit => .error (.encoding misfit)
    | .ok stdout, .ok stderr =>
      .ok (.output {
        stdout := Files.plainLineEnds stdout, stderr := Files.plainLineEnds stderr, code := codeOf m ended })

/-- What prevents a script from running in a directory. -/
def refusal? (files : Files.Tree) (folder : Path) : Option Files.Error :=
  match files.find folder with
  | .ok .directory => none
  | .ok (.file _) => some (.refused .notDirectory folder)
  | .error e => some e

/-- The variables that a script starts with; programs know the first of them. -/
def startScope (files : Files.Tree) : Scope :=
  let known : Table Text := [
    ("HOME".toList, files.home.text), ("PATH".toList, "/usr/local/bin:/usr/bin:/bin".toList),
    ("PWD".toList, files.work.text)]
  let own : Table Text := [
    ("IFS".toList, usualSeparators), ("OPTIND".toList, ['1']), ("PPID".toList, ['0']), ("PS1".toList, "# ".toList),
    ("PS2".toList, "> ".toList), ("PS4".toList, "+ ".toList)]
  { vars := known ++ own, exported := known.names }

/-- All that a script does, with what it leaves in the background. -/
def wholeRun (command : Text) : Acting Unit := do
  let ended ← caught (finishing depth (runText depth false command))
  settle depth true
  match ended with
  | .ok () => return ()
  | .error e => throw e

/-- Runs a command in a directory, with a time limit in seconds. -/
def answer (files : Files.Tree) (folder : Path) (command : Text) (limit : Double) : Except Fault ShellOutcome :=
  if command.any (·.toNat = 0) then .error (.file .nullCharacter)
  else match refusal? files folder with
    | some e => .ok (.refused ("exec failed: ".toList ++ e.message))
    | none =>
      let work := (files.work.within folder).flat
      let tree : Files.Tree := { files with work }
      let (ended, m) := (wholeRun command).run.run { files := tree, scope := startScope tree }
      outcomeOf limit ended m

end ApiFlow.Shell
