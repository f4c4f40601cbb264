import ApiFlow.Shell.Machine

/-!
# Options of programs

Options are letters behind a hyphen, several of which may stand together; some take a value, which stands right behind them
or is the next argument.  Behind two hyphens everything is a word.

* `Options.read` tells options from words.
* `contents` and `eachFile` give the bytes of the files that the words name.
-/

set_option autoImplicit false

namespace ApiFlow.Shell.Program

open Acting

structure Options where
  letters : List Char := []
  values : List (Char × Text) := []
  words : List Text := []
  problem? : Option Text := none
  deriving DecidableEq, Repr

namespace Options

def has (o : Options) (c : Char) : Bool := o.letters.contains c

def value? (o : Options) (c : Char) : Option Text := (o.values.reverse.find? fun v => v.1 = c).map Prod.snd

def valuesOf (o : Options) (c : Char) : List Text := (o.values.filter fun v => v.1 = c).map Prod.snd

/-- Which letters are options, which of them take a value, which longer names stand for them, and whether the first word
ends the options. -/
structure Known where
  plain : List Char
  valued : List Char := []
  long : List (Text × Char) := []
  stops : Bool := false
  deriving DecidableEq, Repr

/-- Reads the letters behind a hyphen; the first value that is missing is that of the next argument. -/
def readLetters (k : Known) : Options → Text → List Text → Options × List Text
  | o, [], rest => (o, rest)
  | o, c :: letters, rest =>
    if k.valued.contains c then
      if !letters.isEmpty then ({ o with values := o.values ++ [(c, letters)] }, rest)
      else match rest with
        | value :: rest => ({ o with values := o.values ++ [(c, value)] }, rest)
        | [] => ({ o with problem? := some ("option requires an argument -- '".toList ++ [c, '\'']) }, [])
    else if k.plain.contains c then readLetters k { o with letters := o.letters ++ [c] } letters rest
    else ({ o with problem? := some ("invalid option -- '".toList ++ [c, '\'']) }, [])

/-- Reads a longer name, which may hold a value. -/
def readLong (k : Known) (o : Options) (argument : Text) (rest : List Text) : Options × List Text :=
  let (name, value?) := match Text.cutAt? '=' argument with
    | some (name, value) => (name, some value)
    | none => (argument, none)
  match k.long.find? fun e => e.1 = name.drop 2 with
  | some (_, c) =>
    if k.valued.contains c then
      match value?, rest with
      | some value, _ => ({ o with values := o.values ++ [(c, value)] }, rest)
      | none, value :: rest => ({ o with values := o.values ++ [(c, value)] }, rest)
      | none, [] => ({ o with problem? := some ("option '".toList ++ name ++ "' requires an argument".toList) }, [])
    else ({ o with letters := o.letters ++ [c] }, rest)
  | none => ({ o with problem? := some ("unrecognized option '".toList ++ argument ++ ['\'']) }, [])

/-- Reads arguments in order. -/
def readFrom (k : Known) : (fuel : Nat) → Options → List Text → Options
  | 0, o, _ => o
  | _ + 1, o, [] => o
  | fuel + 1, o, argument :: rest =>
    if o.problem?.isSome then o
    else match argument with
      | ['-', '-'] => { o with words := o.words ++ rest }
      | '-' :: '-' :: _ =>
        let (o, rest) := readLong k o argument rest
        readFrom k fuel o rest
      | '-' :: c :: letters =>
        let (o, rest) := readLetters k o (c :: letters) rest
        readFrom k fuel o rest
      | _ =>
        if k.stops then { o with words := o.words ++ argument :: rest }
        else readFrom k fuel { o with words := o.words ++ [argument] } rest

def read (k : Known) (arguments : List Text) : Options := readFrom k (arguments.length + 1) {} arguments

end Options

/-- Where a program says that more is to be learned about its arguments. -/
def hint (name : String) : Text := "Try '".toList ++ name.toList ++ " --help' for more information.".toList

/-- Ends a program with what is wrong with its arguments. -/
def misused (name : String) (code : Nat) (problem : Text) : Acting Unit := do
  complain (name.toList ++ ": ".toList ++ problem)
  complain (hint name)
  setStatus code

def failed (name : String) (code : Nat) (problem : Text) : Acting Unit := do
  complain (name.toList ++ ": ".toList ++ problem)
  setStatus code

def withOptions (name : String) (code : Nat) (k : Options.Known) (arguments : List Text) (act : Options → Acting Unit) :
    Acting Unit :=
  let o := Options.read k arguments
  match o.problem? with
  | some problem => misused name code problem
  | none => act o

def quoted (s : Text) : Text := '\'' :: s ++ ['\'']

/-- What the system says of a path that gives nothing. -/
def reasonOf : Files.Error → Text
  | .refused r _ => r.wording.2
  | .nullCharacter => "Invalid argument".toList

/-- The bytes of a file, or of the input for a hyphen. -/
def contents (path : Text) : Acting (Except Files.Error (List UInt8)) := do
  if path = ['-'] || path = "/dev/stdin".toList then
    match ← stream? 0 with
    | some (.file place) => return .error (.refused .isDirectory { anchor := some [], parts := place })
    | _ => return .ok (← readAll)
  else if path = "/dev/null".toList then return .ok []
  else return (← get).read path

/-- What a program does with the bytes of each file that it is given; without files it takes the input.  Files that give
nothing are reported, and make the status bad. -/
def eachFile (o : Options) (bad : Nat) (report : Text → Files.Error → Text) (act : Text → List UInt8 → Acting Unit) :
    Acting Unit := do
  let good ← (if o.words.isEmpty then [['-']] else o.words).foldlM (fun good path => do
    match ← contents path with
    | .ok bytes => do
      act path bytes
      return good
    | .error e => do
      complain (report path e)
      return false) true
  setStatus (if good then 0 else bad)

/-- The report of a file with its name and the reason. -/
def plainReport (name : String) (path : Text) (e : Files.Error) : Text :=
  name.toList ++ ": ".toList ++ path ++ ": ".toList ++ reasonOf e

/-- The bytes of all files that a program is given, one after the other. -/
def allContents (o : Options) (bad : Nat) (report : Text → Files.Error → Text) (act : List UInt8 → Acting Unit) :
    Acting Unit := do
  let (all, good) ← (if o.words.isEmpty then [['-']] else o.words).foldlM (fun (all, good) path => do
    match ← contents path with
    | .ok bytes => return (all ++ bytes, good)
    | .error e => do
      complain (report path e)
      return (all, false)) (([], true) : List UInt8 × Bool)
  act all
  setStatus (if good then 0 else bad)

def linesOf (bytes : List UInt8) : List (List UInt8) :=
  bytes.foldr (fun b lines =>
    match lines with
    | [] => [[b]]
    | line :: others => if b = 10 then [b] :: lines else (b :: line) :: others) []

def withoutEnd (line : List UInt8) : List UInt8 := if line.getLast? = some 10 then line.dropLast else line

def bytesBefore : List UInt8 → List UInt8 → Bool
  | _, [] => false
  | [], _ :: _ => true
  | a :: s, b :: t => a < b || (a = b && bytesBefore s t)

end ApiFlow.Shell.Program
