import ApiFlow.Shell.Program.Options

/-!
# Programs for files

These programs list, make, move and remove files and directories, or take paths apart.

* `fileProgram?` gives the program with a name.
-/

set_option autoImplicit false

namespace ApiFlow.Shell.Program

open Acting

def entryAt? (path : Text) : Acting (Option Files.Entry) := do
  return ((← get).find path).toOption

def hasRoom (path : Text) : Acting Bool := do
  match targetOf (← get).files path with
  | .place _ (some .directory) _ => return true
  | _ => return false

def modifyFiles (f : Files.Tree → Files.Tree) : Acting Unit := modify fun m => { m with files := f m.files }

/-- Does something with each word; one that fails makes the status bad. -/
def eachWord (words : List Text) (bad : Nat) (act : Text → Acting (Option Text)) : Acting Unit := do
  let good ← words.foldlM (fun good word => do
    match ← act word with
    | none => return good
    | some problem => do
      complain problem
      return false) true
  setStatus (if good then 0 else bad)

def inside (directory name : Text) : Text :=
  if directory.getLast? = some '/' then directory ++ name else directory ++ '/' :: name

/-! ## Lists -/

def shownNames (o : Options) (path : Text) : Acting (List Text) := do
  let t := (← get).files
  let names := t.namesIn (t.placed path).parts
  let names := if o.has 'a' then ['.'] :: ['.', '.'] :: names
    else if o.has 'A' then names
    else names.filter fun name => name.head? != some '.'
  return if o.has 'r' then names.reverse else names

/-- Lists files and directories: files first, then what is in the directories, with headings if there are several. -/
def ls (arguments : List Text) : Acting Unit :=
  withOptions "ls" 2 { plain := ['a', 'A', 'd', 'r', '1', 'C', 'F', 'l', 'h', 't', 'S', 'R', 'p'] } arguments fun o => do
    let paths := Text.sort (if o.words.isEmpty then [['.']] else o.words)
    let found ← paths.mapM fun path => do return (path, (← get).find path)
    let isPlain (r : Except Files.Error Files.Entry) : Bool :=
      match r with
      | .ok (.file _) => true
      | .ok .directory => o.has 'd'
      | .error _ => false
    let files := (found.filter fun e => isPlain e.2).map Prod.fst
    let directories := (found.filter fun e => e.2.toBool && !isPlain e.2).map Prod.fst
    found.forM fun (path, r) => do
      if let .error e := r then complain ("ls: cannot access ".toList ++ quoted path ++ ": ".toList ++ reasonOf e)
    sayLines (if o.has 'r' then files.reverse else files)
    let _ ← (if o.has 'r' then directories.reverse else directories).foldlM (fun first path => do
      if !first then write [10]
      if 1 < paths.length then sayLines [path ++ [':']]
      sayLines (← shownNames o path)
      return false) files.isEmpty
    setStatus (if found.all fun e => e.2.toBool then 0 else 2)

/-! ## Making and removing -/

def leadingPaths (path : Text) : List Text :=
  let parts := (Text.splitAt '/' path).filter fun p => !p.isEmpty
  let start : Text := if path.head? = some '/' then ['/'] else []
  (List.range parts.length).map fun n => start ++ Text.join ['/'] (parts.take (n + 1))

def makeOne (path : Text) : Acting (Option Text) := do
  let problem (why : String) : Option Text :=
    some ("mkdir: cannot create directory ".toList ++ quoted path ++ ": ".toList ++ why.toList)
  match ← entryAt? path, ← hasRoom path with
  | some _, _ => return problem "File exists"
  | none, false => return problem "No such file or directory"
  | none, true => do
    modifyFiles fun t => t.put (t.placed path).parts .directory
    return none

/-- Makes directories. -/
def mkdir (arguments : List Text) : Acting Unit :=
  withOptions "mkdir" 1 { plain := ['p', 'v'], valued := ['m'], long := [("parents".toList, 'p')] } arguments fun o => do
    if o.words.isEmpty then misused "mkdir" 1 "missing operand".toList
    else
      eachWord o.words 1 fun path => do
        if o.has 'p' then
          (leadingPaths path).foldlM (fun problem? p => do
            if problem?.isSome then return problem?
            match ← entryAt? p with
            | some .directory => return none
            | _ => makeOne p) none
        else makeOne path

/-- Removes empty directories. -/
def rmdir (arguments : List Text) : Acting Unit :=
  withOptions "rmdir" 1 { plain := ['p', 'v'] } arguments fun o => do
    if o.words.isEmpty then misused "rmdir" 1 "missing operand".toList
    else
      eachWord o.words 1 fun path => do
        let problem (why : String) : Option Text :=
          some ("rmdir: failed to remove ".toList ++ quoted path ++ ": ".toList ++ why.toList)
        let t := (← get).files
        match ← entryAt? path with
        | none => return problem "No such file or directory"
        | some (.file _) => return problem "Not a directory"
        | some .directory =>
          if (t.namesIn (t.placed path).parts).isEmpty then
            modifyFiles fun t => t.remove (t.placed path).parts
            return none
          else return problem "Directory not empty"

def rm (arguments : List Text) : Acting Unit :=
  let long : List (Text × Char) := [("recursive".toList, 'r'), ("force".toList, 'f')]
  withOptions "rm" 1 { plain := ['r', 'R', 'f', 'v', 'd', 'i'], long } arguments fun o => do
    if o.words.isEmpty then
      if o.has 'f' then setStatus 0 else misused "rm" 1 "missing operand".toList
    else
      eachWord o.words 1 fun path => do
        let problem (why : String) : Option Text :=
          some ("rm: cannot remove ".toList ++ quoted path ++ ": ".toList ++ why.toList)
        match ← entryAt? path with
        | none => return if o.has 'f' then none else problem "No such file or directory"
        | some .directory =>
          if o.has 'r' || o.has 'R' then
            modifyFiles fun t => t.remove (t.placed path).parts
            return none
          else return problem "Is a directory"
        | some (.file _) => do
          modifyFiles fun t => t.remove (t.placed path).parts
          return none

def touch (arguments : List Text) : Acting Unit :=
  withOptions "touch" 1 { plain := ['a', 'c', 'm'], valued := ['t', 'd', 'r'] } arguments fun o => do
    if o.words.isEmpty then misused "touch" 1 "missing file operand".toList
    else
      eachWord o.words 1 fun path => do
        match ← entryAt? path, ← hasRoom path with
        | some _, _ => return none
        | none, false =>
          return some ("touch: cannot touch ".toList ++ quoted path ++ ": No such file or directory".toList)
        | none, true => do
          if !o.has 'c' then modifyFiles fun t => t.put (t.placed path).parts (.file [])
          return none

/-! ## Copying and moving -/

def lastPart (path : Text) : Text :=
  let cut := Text.dropEndWhile (· = '/') path
  if cut.isEmpty then (if path.isEmpty then [] else ['/']) else ((Text.splitAt '/' cut).getLast?).getD []

/-- A tree with everything at a place and below it at another place as well. -/
def copied (t : Files.Tree) (source target : List Text) : Files.Tree :=
  let found := (t.entries.filter fun e => source.isPrefixOf e.1).map fun e => (target ++ e.1.drop source.length, e.2)
  match t.entry? source with
  | some .directory => found.foldl (fun t e => t.put e.1 e.2) (t.put target .directory)
  | some entry => t.put target entry
  | none => t

/-- The words of a program that has sources and one target, or what is wrong with them. -/
def sourcesOf (name : String) (words : List Text) : Acting (Option (List Text × Text × Bool)) := do
  match words with
  | [] => do
    misused name 1 "missing file operand".toList
    return none
  | [word] => do
    misused name 1 ("missing destination file operand after ".toList ++ quoted word)
    return none
  | _ => do
    let target := words.getLast?.getD []
    let isDirectory := match ← entryAt? target with
      | some .directory => true
      | _ => false
    if 2 < words.length && !isDirectory then
      failed name 1 ("target ".toList ++ quoted target ++
        (if (← entryAt? target).isSome then ": Not a directory" else ": No such file or directory").toList)
      return none
    else return some (words.dropLast, target, isDirectory)

def transfer (name : String) (moves : Bool) (arguments : List Text) : Acting Unit :=
  withOptions name 1 { plain := ['r', 'R', 'a', 'p', 'f', 'v', 'i', 'n', 'u', 'T', 'd'] } arguments fun o => do
    if let some (sources, target, isDirectory) ← sourcesOf name o.words then
      eachWord sources 1 fun path => do
        let to_ := if isDirectory then inside target (lastPart path) else target
        let t := (← get).files
        let start := name.toList ++ ": ".toList
        match ← entryAt? path, ← hasRoom to_ with
        | none, _ => return some (start ++ "cannot stat ".toList ++ quoted path ++ ": No such file or directory".toList)
        | some entry, room =>
          let isTree := match entry with
            | .directory => true
            | .file _ => false
          if isTree && !moves && !(o.has 'r' || o.has 'R' || o.has 'a') then
            return some (start ++ "-r not specified; omitting directory ".toList ++ quoted path)
          else if (t.placed path).parts = (t.placed to_).parts then
            return some (start ++ quoted path ++ " and ".toList ++ quoted to_ ++ " are the same file".toList)
          else if !room then
            return some (start ++ (if moves then "cannot move ".toList ++ quoted path ++ " to ".toList ++ quoted to_
              else "cannot create regular file ".toList ++ quoted to_) ++ ": No such file or directory".toList)
          else do
            modifyFiles fun t =>
              let made := copied t (t.placed path).parts (t.placed to_).parts
              if moves then made.remove (t.placed path).parts else made
            return none

/-- Lets files be run, or keeps them from being run. -/
def chmod (arguments : List Text) : Acting Unit := do
  match arguments.filter fun a => !(a.head? = some '-' && (a.drop 1).all fun c => c = 'R' || c = 'v' || c = 'f') with
  | mode :: paths => do
    let isOdd (c : Char) : Bool := c = '1' || c = '3' || c = '5' || c = '7'
    let allows := if mode.all Char.isDigit then mode.any isOdd else mode.contains 'x' && mode.contains '+'
    let forbids := if mode.all Char.isDigit then !mode.any isOdd else mode.contains 'x' && mode.contains '-'
    eachWord paths 1 fun path => do
      match ← entryAt? path with
      | none => return some ("chmod: cannot access ".toList ++ quoted path ++ ": No such file or directory".toList)
      | some _ => do
        modify fun m =>
          let place := (m.files.placed path).parts
          { m with programs := if allows then place :: m.programs
              else if forbids then m.programs.filter (· != place)
              else m.programs }
        return none
  | [] => misused "chmod" 1 "missing operand".toList

/-! ## Paths -/

/-- Prints the last parts of paths, without an ending that is given. -/
def basename (arguments : List Text) : Acting Unit :=
  withOptions "basename" 1 { plain := ['a', 'z'], valued := ['s'] } arguments fun o => do
    let without (ending name : Text) : Text :=
      if name = ending then name else (Text.stripEnd? ending name).getD name
    let ending? := o.value? 's'
    match o.words with
    | [] => misused "basename" 1 "missing operand".toList
    | words =>
      if o.has 'a' || ending?.isSome then
        sayLines (words.map fun w => without (ending?.getD []) (lastPart w))
        setStatus 0
      else match words with
        | [word] => do
          sayLines [lastPart word]
          setStatus 0
        | [word, ending] => do
          sayLines [without ending (lastPart word)]
          setStatus 0
        | _ => misused "basename" 1 ("extra operand ".toList ++ quoted ((words[2]?).getD []))

def withoutLast (path : Text) : Text :=
  let cut := Text.dropEndWhile (· = '/') path
  let around := Text.dropEndWhile (· = '/') (Text.dropEndWhile (· != '/') cut)
  if cut.contains '/' then (if around.isEmpty then ['/'] else around)
  else if cut.isEmpty && !path.isEmpty then ['/'] else ['.']

/-- Prints paths without their last parts. -/
def dirname (arguments : List Text) : Acting Unit :=
  withOptions "dirname" 1 { plain := ['z'] } arguments fun o => do
    if o.words.isEmpty then misused "dirname" 1 "missing operand".toList
    else
      sayLines (o.words.map withoutLast)
      setStatus 0

/-- Prints paths from the root on. -/
def realpath (arguments : List Text) : Acting Unit :=
  withOptions "realpath" 1 { plain := ['e', 'm', 's'] } arguments fun o => do
    if o.words.isEmpty then misused "realpath" 1 "missing operand".toList
    else
      eachWord o.words 1 fun path => do
        if (← entryAt? path).isSome || (← hasRoom path) then
          sayLines [((← get).files.placed path).text]
          return none
        else return some ("realpath: ".toList ++ path ++ ": No such file or directory".toList)

def fileProgram? (name : Text) : Option (List Text → Acting Unit) :=
  match String.ofList name with
  | "ls" => some ls
  | "mkdir" => some mkdir
  | "rmdir" => some rmdir
  | "rm" => some rm
  | "touch" => some touch
  | "cp" => some (transfer "cp" false)
  | "mv" => some (transfer "mv" true)
  | "chmod" => some chmod
  | "basename" => some basename
  | "dirname" => some dirname
  | "realpath" => some realpath
  | _ => none

end ApiFlow.Shell.Program
