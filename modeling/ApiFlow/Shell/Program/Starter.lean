import ApiFlow.Shell.Builtin
import ApiFlow.Shell.Program

/-!
# Programs that start others

Some programs run the program that their arguments name: with other variables, for a limited time, or again and again with
words from the input.  A shell that is started runs a script of its own.

* `Starter.read` tells what such a program is asked to do.
* `Repetition.calls` gives the commands that come of the input.
-/

set_option autoImplicit false

namespace ApiFlow.Shell

open Program (hint quoted)

/-! ## What is asked for -/

/-- The variables that a program is given: all or none, without some, and with others. -/
structure Environment where
  fresh : Bool := false
  gone : List Text := []
  values : List (Text × Text) := []
  deriving DecidableEq, Repr

/-- How a program is ended behind some time: the signal, whether its own status is kept, and whether this is told. -/
structure Limit where
  seconds : Double
  signal : Signal := Signal.terminating
  keeps : Bool := false
  tells : Bool := false
  deriving DecidableEq, Repr

/-- How a program is run again and again: with how many words or lines at once, or with each line in some place; what ends
a word, if it is not a blank; and whether it needs words, and is shown. -/
structure Repetition where
  count? : Option Nat := none
  lines? : Option Nat := none
  place? : Option Text := none
  mark? : Option Char := none
  needsWords : Bool := false
  shows : Bool := false
  deriving DecidableEq, Repr

inductive Starter where
  | failed (code : Nat) (problems : List Text)
  | shell (options : List Char) (command program : Text) (arguments : List Text)
  | file (options : List Char) (path : Text) (arguments : List Text)
  | fromInput (options : List Char)
  | passing (starter : Text) (environment : Environment) (words : List Text)
  | limited (limit : Limit) (words : List Text)
  | repeated (repetition : Repetition) (words : List Text)
  | found (all quiet : Bool) (names : List Text)
  deriving DecidableEq, Repr

/-! ## Words of the input -/

namespace Repetition

/-- A cut of the input: whether a backslash is before, the quote that is open, the word, the words of the line and the
lines, each with the last one first. -/
structure Cut where
  escaped : Bool := false
  quote? : Option Char := none
  word? : Option Text := none
  words : List Text := []
  lines : List (List Text) := []

def Cut.push (x : Cut) (c : Char) : Cut := { x with word? := some (c :: x.word?.getD []) }

def Cut.endWord (x : Cut) : Cut :=
  match x.word? with
  | some word => { x with word? := none, words := word.reverse :: x.words }
  | none => x

/-- A cut behind a line; one without words does not count. -/
def Cut.endLine (x : Cut) : Cut :=
  let x := x.endWord
  if x.words.isEmpty then x else { x with words := [], lines := x.words.reverse :: x.lines }

/-- What is wrong with a quote that stays open. -/
def unmatched (quote : Char) : Text :=
  "unmatched ".toList ++ (if quote = '"' then "double".toList else "single".toList) ++
    " quote; by default quotes are special to xargs unless you use the -0 option".toList

/-- A cut behind one more character of the input; `whole` tells that blanks belong to words, but for those in front. -/
def Cut.step (whole : Bool) (x : Cut) (c : Char) : Except Text Cut :=
  if x.escaped then .ok { x.push c with escaped := false }
  else match x.quote? with
    | some quote =>
      if c = quote then .ok { x with quote? := none }
      else if c = '\n' then .error (unmatched quote)
      else .ok (x.push c)
    | none =>
      match c with
      | '\\' => .ok { x with escaped := true }
      | '\n' => .ok x.endLine
      | '"' | '\'' => .ok { x with quote? := some c, word? := some (x.word?.getD []) }
      | ' ' | '\t' => .ok (if whole && x.word?.isSome then x.push c else x.endWord)
      | _ => .ok (x.push c)

def linesOf (whole : Bool) (s : Text) : Except Text (List (List Text)) := do
  let x ← s.foldlM (Cut.step whole) {}
  match x.quote? with
  | some quote => throw (unmatched quote)
  | none => return x.endLine.lines.reverse

/-- Groups of so many things. -/
def inGroups {α : Type} (count : Nat) : (fuel : Nat) → List α → List (List α)
  | 0, _ => []
  | _ + 1, [] => []
  | fuel + 1, words => words.take (max count 1) :: inGroups count fuel (words.drop (max count 1))

/-- The commands that come of the input, or what is wrong with it. -/
def calls (r : Repetition) (words : List Text) (input : Text) : Except Text (List (List Text)) := do
  let lines ← match r.mark? with
    | some mark =>
      let parts := Text.splitAt mark input
      pure ((if parts.getLast? = some [] then parts.dropLast else parts).map fun part => [part])
    | none => linesOf r.place?.isSome input
  let words := if words.isEmpty then ["echo".toList] else words
  match r.place? with
  | some place => return lines.map fun line => words.map (Text.replaceAll place line.flatten)
  | none =>
    let groups : List (List Text) := match r.lines?, r.count? with
      | some count, _ => (inGroups count lines.length lines).map List.flatten
      | none, some count => inGroups count lines.flatten.length lines.flatten
      | none, none => if lines.isEmpty then [] else [lines.flatten]
    return (if groups.isEmpty && !r.needsWords then [[]] else groups).map fun group => words ++ group

end Repetition

/-! ## Arguments -/

namespace Starter

/-- The letters of the options of a shell, its other arguments, and whether a command is one of them. -/
def shellArguments : List Text → Except Text (List Char × Bool × List Text)
  | ('-' :: letters) :: rest =>
    if letters = ['-'] then .ok ([], false, rest)
    else match letters.find? fun c => !((Builtin.options.map Prod.fst).contains c || c = 'c') with
      | some c => .error ("Illegal option -".toList ++ [c])
      | none => do
        let (options, isCommand, rest) ← shellArguments rest
        return (letters.filter (· != 'c') ++ options, isCommand || letters.contains 'c', rest)
  | rest => .ok ([], false, rest)

/-- What a shell is asked to run. -/
def ofShell (arguments : List Text) : Starter :=
  match shellArguments arguments with
  | .error e => failed 2 ["sh: 0: ".toList ++ e]
  | .ok (options, true, command :: rest) => shell options command (rest.headD "sh".toList) rest.tail
  | .ok (_, true, []) => failed 2 ["sh: 0: -c requires an argument".toList]
  | .ok (options, false, path :: rest) => file options path rest
  | .ok (options, false, []) => fromInput options

def misuse (name : String) (code : Nat) (problem : Text) : Starter :=
  failed code [name.toList ++ ": ".toList ++ problem, hint name]

/-- Reads options in front of the words of a program. -/
def withOptions (name : String) (code : Nat) (k : Program.Options.Known) (arguments : List Text)
    (act : Program.Options → Starter) : Starter :=
  let o := Program.Options.read { k with stops := true } arguments
  match o.problem? with
  | some problem => misuse name code problem
  | none => act o

/-- The variables that words in front of others set, and those words. -/
def settings : List Text → List (Text × Text) × List Text
  | [] => ([], [])
  | word :: words =>
    match Text.cutAt? '=' word with
    | some value =>
      let (values, rest) := settings words
      (value :: values, rest)
    | none => ([], word :: words)

/-- What a program that gives other variables is asked to run. -/
def ofEnvironment (arguments : List Text) : Starter :=
  withOptions "env" 125 {
      plain := ['i'], valued := ['u'], long := [("ignore-environment".toList, 'i'), ("unset".toList, 'u')] } arguments
    fun o =>
      let isAlone := o.words.head? = some ['-']
      let (values, words) := settings (if isAlone then o.words.tail else o.words)
      passing "env".toList { fresh := o.has 'i' || isAlone, gone := o.valuesOf 'u', values } words

/-- What a program that goes on behind the end of a session is asked to run. -/
def ofLasting (arguments : List Text) : Starter :=
  withOptions "nohup" 125 { plain := [] } arguments fun o =>
    if o.words.isEmpty then misuse "nohup" 125 "missing operand".toList else passing "nohup".toList {} o.words

def signalFor? (o : Program.Options) : Except Text Signal :=
  match o.value? 's' with
  | none => .ok Signal.terminating
  | some name =>
    let isLong := "SIG".toList.isPrefixOf name
    match Signal.read? Signal.all (if isLong then name.drop 3 else name) with
    | some signal => .ok signal
    | none => .error (quoted name ++ ": invalid signal".toList)

/-- What a program that limits the time of another one is asked to run. -/
def ofLimit (arguments : List Text) : Starter :=
  withOptions "timeout" 125 {
      plain := ['v'], valued := ['s', 'k']
      long := [
        ("verbose".toList, 'v'), ("signal".toList, 's'), ("kill-after".toList, 'k'), ("preserve-status".toList, 'P'),
        ("foreground".toList, 'F')] } arguments
    fun o =>
      let badTime (time : Text) : Starter := misuse "timeout" 125 ("invalid time interval ".toList ++ quoted time)
      let isBad (time : Text) : Bool := (Program.secondsOf? time).isNone
      match (o.value? 'k').filter isBad, signalFor? o, o.words with
      | some time, _, _ => badTime time
      | none, .error e, _ => misuse "timeout" 125 e
      | none, .ok signal, time :: word :: words =>
        match Program.secondsOf? time with
        | some seconds => limited { seconds, signal, keeps := o.has 'P', tells := o.has 'v' } (word :: words)
        | none => badTime time
      | none, .ok _, _ => failed 125 [hint "timeout"]

/-- The character that a text stands for, which may be written with a backslash. -/
def markOf? (s : Text) : Option Char :=
  match s with
  | [c] => some c
  | ['\\', 'n'] => some '\n'
  | ['\\', 't'] => some '\t'
  | ['\\', 'r'] => some '\r'
  | ['\\', '0'] => some (Char.ofNat 0)
  | ['\\', '\\'] => some '\\'
  | _ => none

/-- The counts that options of a repetition may give: each must be a number above zero. -/
def countOf? (o : Program.Options) (option : Char) : Except Text (Option Nat) :=
  match o.value? option with
  | none => .ok none
  | some s =>
    match Arithmetic.integer? false s with
    | none => .error ("invalid number \"".toList ++ s ++ "\" for -".toList ++ option :: " option".toList)
    | some i =>
      if 1 ≤ i then .ok (some i.toNat)
      else .error ("value ".toList ++ s ++ " for -".toList ++ option :: " option should be >= 1".toList)

/-- What a program that repeats another one is asked to run. -/
def ofRepetition (arguments : List Text) : Starter :=
  withOptions "xargs" 1 {
      plain := ['0', 'r', 't', 'x'], valued := ['n', 'L', 'I', 'd', 'P', 's', 'E']
      long := [
        ("null".toList, '0'), ("no-run-if-empty".toList, 'r'), ("verbose".toList, 't'), ("max-args".toList, 'n'),
        ("delimiter".toList, 'd'), ("max-procs".toList, 'P')] } arguments
    fun o =>
      match countOf? o 'n', countOf? o 'L' with
      | .error e, _ | _, .error e => misuse "xargs" 1 e
      | .ok count?, .ok lines? =>
        let repetition : Repetition := {
          count?, lines?, place? := o.value? 'I', needsWords := o.has 'r', shows := o.has 't'
          mark? := if o.has '0' then some (Char.ofNat 0) else (o.value? 'd').bind markOf? }
        match (o.value? 'd').filter fun s => (markOf? s).isNone with
        | some s => failed 1 ["xargs: Invalid input delimiter specification ".toList ++ s ++
            ": the delimiter must be either a single character or an escape sequence starting with \\.".toList]
        | none => repeated repetition o.words

/-- What a program that looks for others is asked to find. -/
def ofSearch : (all quiet : Bool) → List Text → Starter
  | all, quiet, ('-' :: letters) :: names =>
    if letters = ['-'] then found all quiet names
    else match letters.find? fun c => c != 'a' && c != 's' with
      | some c => failed 2 ["Illegal option -".toList ++ [c]]
      | none => ofSearch (all || letters.contains 'a') (quiet || letters.contains 's') names
  | all, quiet, names => found all quiet names

def names : List Text := ["bash", "dash", "env", "nohup", "sh", "timeout", "which", "xargs"].map String.toList

def read (name : Text) (arguments : List Text) : Starter :=
  match String.ofList name with
  | "env" => ofEnvironment arguments
  | "nohup" => ofLasting arguments
  | "timeout" => ofLimit arguments
  | "which" => ofSearch false false arguments
  | "xargs" => ofRepetition arguments
  | _ => ofShell arguments

/-- What a program says of another one that it cannot start. -/
def complaint (starter name problem : Text) : Text :=
  starter ++ ": ".toList ++
    (match String.ofList starter with
      | "env" => quoted name
      | "xargs" => name
      | _ => "failed to run command ".toList ++ quoted name) ++ ": ".toList ++ problem

end Starter

end ApiFlow.Shell
