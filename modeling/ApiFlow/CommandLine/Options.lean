import ApiFlow.Number.Double
import ApiFlow.Table
import ApiFlow.Text.Quoted

/-!
# Options on a command line

Arguments are read from left to right.  A long option may be shortened to any start that no other option shares, and
takes its value behind `=` or as the next argument; short options may be written together, the last one with its value
attached.  A negative number is an argument and no option.  Behind `--` everything is an argument.  Some options give
variables as `key=value`; blanks around key and value do not count.

* `Grammar.parse` reads arguments by a grammar: the options given in order, the positional argument, and what the grammar
  has no place for.
* `Error.message` is the wording of each error.
* `CommandLine.assignments` are the variables that are given.
-/

set_option autoImplicit false

namespace ApiFlow.Options

/-- What an option takes. -/
inductive Kind where
  | flag
  | help
  | text
  | integer
  | number
  deriving DecidableEq, Repr

/-- An option with its names; the key says where its value goes. -/
structure Switch where
  key : Text
  names : List Text
  kind : Kind
  deriving DecidableEq, Repr

/-- A positional argument: one text, or a word that chooses a command and takes all that follows. -/
inductive Positional where
  | one (name : Text)
  | command (name : Text) (choices : List Text)
  deriving DecidableEq, Repr

/-- The options and the positional argument that a command line may hold. -/
structure Grammar where
  switches : List Switch
  positional : Option Positional := none
  deriving DecidableEq, Repr

inductive Error where
  | ambiguous (written : Text) (candidates : List Text)
  | expectedValue (switch : Switch)
  | ignoredValue (switch : Switch) (value : Text)
  | badValue (switch : Switch) (value : Text)
  | badChoice (name value : Text) (choices : List Text)
  | missing (name : Text)
  | unrecognized (arguments : List Text)
  deriving DecidableEq, Repr

/-- The names of an option between slashes. -/
def Switch.title (s : Switch) : Text := Text.join ['/'] s.names

def Kind.title : Kind → Text
  | integer => "int"
  | number => "float"
  | _ => "str"

def Error.message : Error → Text
  | ambiguous written candidates =>
    "ambiguous option: " ++ written ++ " could match " ++ Text.join ", " candidates
  | expectedValue s => "argument " ++ s.title ++ ": expected one argument"
  | ignoredValue s value => "argument " ++ s.title ++ ": ignored explicit argument " ++ Text.quoted value
  | badValue s value =>
    "argument " ++ s.title ++ ": invalid " ++ s.kind.title ++ " value: " ++ Text.quoted value
  | badChoice name value choices =>
    "argument " ++ name ++ ": invalid choice: " ++ Text.quoted value ++ " (choose from "
      ++ Text.join ", " (choices.map Text.quoted) ++ ")"
  | missing name => "the following arguments are required: " ++ name
  | unrecognized arguments => "unrecognized arguments: " ++ Text.join [' '] arguments

inductive Value where
  | flag
  | text (s : Text)
  | integer (i : Int)
  | number (x : Double)
  deriving DecidableEq, Repr

/-- An argument that looks like an option: the option it names, if any, and the value attached to it. -/
structure Named where
  written : Text
  switch : Option Switch
  value : Option Text
  deriving DecidableEq, Repr

/-- An argument by its role. -/
inductive Item where
  | argument (s : Text)
  | separator
  | option (n : Named)
  deriving DecidableEq, Repr

def Item.raw : Item → Text
  | argument s => s
  | separator => "--"
  | option n => n.written

def find? (switches : List Switch) (name : Text) : Option Switch :=
  switches.find? fun s => s.names.contains name

def allNames (switches : List Switch) : List (Text × Switch) :=
  switches.flatMap fun s => s.names.map fun n => (n, s)

/-- The options that an argument may stand for, with the name meant and the value attached. -/
def candidates (switches : List Switch) (arg : Text) : List (Text × Named) :=
  match arg with
  | '-' :: '-' :: _ =>
    let (start, value) := match Text.cutAt? '=' arg with
      | some (start, value) => (start, some value)
      | none => (arg, none)
    ((allNames switches).filter fun p => start.isPrefixOf p.1).map fun p => (p.1, ⟨arg, some p.2, value⟩)
  | _ =>
    ((allNames switches).filter fun p => p.1 = arg.take 2).map fun p =>
      (p.1, ⟨arg, some p.2, some (arg.drop 2)⟩)

/-- Digits, or digits with a point before the last of them. -/
def isPlainNumber (s : Text) : Bool :=
  let whole := s.takeWhile Text.isDecimal
  match s.dropWhile Text.isDecimal with
  | [] => !whole.isEmpty
  | '.' :: fraction => !fraction.isEmpty && fraction.all Text.isDecimal
  | _ => false

def isNegativeNumber : Text → Bool
  | '-' :: s => isPlainNumber s
  | _ => false

/-- The role of an argument before any `--`. -/
def classify (switches : List Switch) (arg : Text) : Except Error Item :=
  if arg.head? != some '-' then .ok (.argument arg)
  else match find? switches arg with
    | some s => .ok (.option ⟨arg, some s, none⟩)
    | none =>
      if arg.length = 1 then .ok (.argument arg)
      else
        let attached := do
          let (name, value) ← Text.cutAt? '=' arg
          let s ← find? switches name
          some (Item.option ⟨arg, some s, some value⟩)
        match attached with
        | some item => .ok item
        | none =>
          match candidates switches arg with
          | [(_, n)] => .ok (.option n)
          | [] =>
            if isNegativeNumber arg || arg.contains ' ' then .ok (.argument arg)
            else .ok (.option ⟨arg, none, none⟩)
          | many => .error (.ambiguous arg (many.map Prod.fst))

def classifyAll (switches : List Switch) : List Text → Except Error (List Item)
  | [] => .ok []
  | arg :: rest =>
    if arg = "--".toList then .ok (.separator :: rest.map .argument)
    else do
      let item ← classify switches arg
      let items ← classifyAll switches rest
      .ok (item :: items)

/-- What a command line gives. -/
structure Parsed where
  values : List (Text × Value) := []
  positional : Option (List Text) := none
  extras : List Text := []
  deriving DecidableEq, Repr

/-- Why no command line was read: an error, or a wish for help. -/
inductive Stop where
  | error (e : Error)
  | help
  deriving DecidableEq, Repr

def readValue (s : Switch) (text : Text) : Except Error Value :=
  match s.kind with
  | .integer => match Integer.read text with
    | .ok i => .ok (.integer i)
    | .error _ => .error (.badValue s text)
  | .number => match Double.read? text with
    | some x => .ok (.number x)
    | none => .error (.badValue s text)
  | _ => .ok (.text text)

/-- Gives an option its value, or no value to a flag. -/
def Parsed.give (p : Parsed) (s : Switch) (text? : Option Text) : Except Stop Parsed :=
  match s.kind, text? with
  | .help, _ => .error .help
  | _, none => .ok { p with values := p.values ++ [(s.key, .flag)] }
  | _, some text =>
    match readValue s text with
    | .ok v => .ok { p with values := p.values ++ [(s.key, v)] }
    | .error e => .error (.error e)

def Switch.isFlag (s : Switch) : Bool := s.kind = .flag || s.kind = .help

/-- Short options written together: the options with their values, the last one without where its value is the next
argument.  `current` is the option whose attached text is read. -/
def cluster (switches : List Switch) (current : Switch) : Text → Except Error (List (Switch × Option Text))
  | [] => .ok [(current, none)]
  | c :: rest =>
    if !current.isFlag then .ok [(current, some (c :: rest))]
    else match find? switches ['-', c] with
      | some next => do
        let more ← cluster switches next rest
        .ok ((current, none) :: more)
      | none => .error (.ignoredValue current (c :: rest))

/-- The options in an argument with an attached value. -/
def attachedOptions (switches : List Switch) (n : Named) (s : Switch) (value : Text) :
    Except Error (List (Switch × Option Text)) :=
  if !s.isFlag then .ok [(s, some value)]
  else
    match n.written, value with
    | '-' :: '-' :: _, _ => .error (.ignoredValue s value)
    | _, [] => .error (.ignoredValue s value)
    | _, _ => cluster switches s value

/-- Gives several options their values. -/
def Parsed.giveAll (p : Parsed) (given : List (Switch × Option Text)) : Except Stop Parsed :=
  given.foldlM (fun p g => p.give g.1 g.2) p

/-- Applies an argument that looks like an option; `next` is the argument behind it, if the next item is one, and the
answer tells whether it was taken as the value. -/
def Grammar.applyOption (g : Grammar) (n : Named) (next : Option Text) (p : Parsed) : Except Stop (Parsed × Bool) :=
  match n.switch with
  | none => .ok ({ p with extras := p.extras ++ [n.written] }, false)
  | some s =>
    let given := match n.value with
      | some value => attachedOptions g.switches n s value
      | none => .ok [(s, none)]
    match given with
    | .error e => .error (.error e)
    | .ok given =>
      match given.getLast? with
      | some (last, none) =>
        if last.isFlag then (p.giveAll given).map (·, false)
        else match next with
          | some v => (p.giveAll (given.dropLast ++ [(last, some v)])).map (·, true)
          | none => .error (.error (.expectedValue last))
      | _ => (p.giveAll given).map (·, false)

/-- Whether one positional argument is still to come. -/
def Grammar.wantsOne (g : Grammar) (p : Parsed) : Bool :=
  match g.positional, p.positional with
  | some (.one _), none => true
  | _, _ => false

/-- Whether a command is still to come. -/
def Grammar.wantsCommand (g : Grammar) (p : Parsed) : Bool :=
  match g.positional, p.positional with
  | some (.command _ _), none => true
  | _, _ => false

/-- Reads the items from left to right. -/
def Grammar.run (g : Grammar) : List Item → Parsed → Except Stop Parsed
  | [], p => .ok p
  | .option n :: .argument v :: rest, p => do
    let (p, taken) ← g.applyOption n (some v) p
    if taken then g.run rest p else g.run (.argument v :: rest) p
  | .option n :: rest, p => do
    let (p, _) ← g.applyOption n none p
    g.run rest p
  | .argument a :: .separator :: rest, p =>
    if g.wantsOne p then g.run rest { p with positional := some [a] }
    else if g.wantsCommand p then
      .ok { p with positional := some (a :: "--".toList :: rest.map Item.raw) }
    else g.run (.separator :: rest) { p with extras := p.extras ++ [a] }
  | .argument a :: rest, p =>
    if g.wantsOne p then g.run rest { p with positional := some [a] }
    else if g.wantsCommand p then .ok { p with positional := some (a :: rest.map Item.raw) }
    else g.run rest { p with extras := p.extras ++ [a] }
  | .separator :: .argument a :: rest, p =>
    if g.wantsOne p then g.run rest { p with positional := some [a] }
    else if g.wantsCommand p then
      .ok { p with positional := some ("--".toList :: a :: rest.map Item.raw) }
    else g.run (.argument a :: rest) { p with extras := p.extras ++ ["--".toList] }
  | .separator :: rest, p => g.run rest { p with extras := p.extras ++ ["--".toList] }

/-- Checks the positional argument. -/
def Grammar.check (g : Grammar) (p : Parsed) : Except Error Parsed :=
  match g.positional, p.positional with
  | none, _ => .ok p
  | some (.one name), none => .error (.missing name)
  | some (.command name _), none => .error (.missing name)
  | some (.one _), some _ => .ok p
  | some (.command name choices), some words =>
    let word := words.headD []
    if choices.contains word then .ok p else .error (.badChoice name word choices)

/-- Reads arguments by a grammar; what the grammar has no place for is left over. -/
def Grammar.parse (g : Grammar) (arguments : List Text) : Except Stop Parsed :=
  match classifyAll g.switches arguments with
  | .error e => .error (.error e)
  | .ok items => do
    let p ← g.run items {}
    match g.check p with
    | .ok p => .ok p
    | .error e => .error (.error e)

namespace Parsed

def hasFlag (p : Parsed) (key : Text) : Bool := p.values.any fun v => v.1 = key

def texts (p : Parsed) (key : Text) : List Text :=
  p.values.filterMap fun v => match v.2 with
    | .text s => if v.1 = key then some s else none
    | _ => none

def text? (p : Parsed) (key : Text) : Option Text := (p.texts key).getLast?

def integer? (p : Parsed) (key : Text) : Option Int :=
  (p.values.filterMap fun v => match v.2 with
    | .integer i => if v.1 = key then some i else none
    | _ => none).getLast?

def number? (p : Parsed) (key : Text) : Option Double :=
  (p.values.filterMap fun v => match v.2 with
    | .number x => if v.1 = key then some x else none
    | _ => none).getLast?

end Parsed

end ApiFlow.Options

/-! ## Variables -/

namespace ApiFlow.CommandLine

structure AssignmentError where
  entry : Text
  deriving DecidableEq, Repr

def AssignmentError.message (e : AssignmentError) : Text :=
  "invalid --var '" ++ e.entry ++ "', expected key=value"

def assignment (entry : Text) : Except AssignmentError (Text × Text) :=
  match Text.cutAt? '=' entry with
  | some (key, value) => if (Text.trim key).isEmpty then .error ⟨entry⟩ else .ok (Text.trim key, Text.trim value)
  | none => .error ⟨entry⟩

/-- The variables that entries give; a later entry wins. -/
def assignments (entries : List Text) : Except AssignmentError (Table Text) :=
  (entries.mapM assignment).map Table.ofWrites

end ApiFlow.CommandLine
