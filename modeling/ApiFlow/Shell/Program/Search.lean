import ApiFlow.Shell.Arithmetic
import ApiFlow.Shell.Program.Options
import ApiFlow.Shell.Program.Regular

/-!
# Searching lines

Prints the lines of files that a regular expression matches somewhere, or what is asked for instead: other lines, the parts
that match, how many lines there are, or the names of the files.

* `grep` is the program.
-/

set_option autoImplicit false

namespace ApiFlow.Shell.Program

open Acting

/-- A letter of an expression as one that stands for itself. -/
def literally (s : Text) : Regular := s.foldr (fun c r => Regular.row (.itself c) r) .nothing

/-- What is looked for, and how. -/
structure Search where
  regular : Regular
  folds : Bool
  words : Bool
  lines : Bool
  turned : Bool

namespace Search

/-- Whether a match is what is looked for. -/
def accepts (s : Search) (text : Array Char) (f : Regular.Found) : Bool :=
  (!s.lines || (f.first = 0 && f.last = text.size)) &&
    (!s.words || (!Regular.wordBefore text f.first && !Regular.wordAt text f.last))

/-- The first match from a place on that is looked for. -/
def findFrom? (s : Search) (text : Array Char) : (fuel start : Nat) → Option Regular.Found
  | 0, _ => none
  | fuel + 1, start =>
    match s.regular.find? s.folds text start with
    | some f => if s.accepts text f then some f else findFrom? s text fuel (f.first + 1)
    | none => none

/-- All matches from a place on that are not empty. -/
def all (s : Search) (text : Array Char) : (fuel start : Nat) → List Regular.Found
  | 0, _ => []
  | fuel + 1, start =>
    match s.findFrom? text (text.size + 2) start with
    | some f => if f.first = f.last then all s text fuel (f.last + 1) else f :: all s text fuel f.last
    | none => []

/-- Whether a line is looked for. -/
def selects (s : Search) (line : Text) : Bool :=
  let text := line.toArray
  (s.findFrom? text (text.size + 2) 0).isSome != s.turned

end Search

/-- Several expressions as one. -/
def anyOf : List Regular → Regular
  | [] => .itself '\x00'
  | [r] => r
  | r :: others => .either r (anyOf others)

/-- What options and the first word look for. -/
def searchOf (o : Options) (extended plain : Bool) (patterns : List Text) : Except Text Search := do
  let all := patterns.flatMap (Text.splitAt '\n')
  let read (s : Text) : Except Text Regular := if plain then .ok (literally s) else Regular.read extended s
  let lines := o.has 'x'
  let regulars ← all.mapM read
  let whole (r : Regular) : Regular := if lines then .row .lineStart (.row r .lineEnd) else r
  return { regular := anyOf (regulars.map whole), folds := o.has 'i' || o.has 'y', words := o.has 'w', lines, turned := o.has 'v' }

/-- Prints what is asked for of a file; gives whether a line was found. -/
def searchIn (o : Options) (s : Search) (limit? : Option Nat) (headed : Bool) (path : Text) (bytes : List UInt8) :
    Acting Bool := do
  let lines := (linesOf bytes).map fun line => Utf8.decodeLossy (withoutEnd line)
  let selected := (lines.zipIdx 1).filter fun e => s.selects e.1
  let selected := match limit? with
    | some n => selected.take n
    | none => selected
  let name := if path = ['-'] then "(standard input)".toList else path
  let front (number : Nat) : Text :=
    (if headed then name ++ [':'] else []) ++ (if o.has 'n' then Text.ofNat number ++ [':'] else [])
  if o.has 'q' then return !selected.isEmpty
  else if o.has 'l' then do
    if !selected.isEmpty then sayLines [name]
    return !selected.isEmpty
  else if o.has 'L' then do
    if selected.isEmpty then sayLines [name]
    return selected.isEmpty
  else if o.has 'c' then do
    sayLines [(if headed then name ++ [':'] else []) ++ Text.ofNat selected.length]
    return !selected.isEmpty
  else if o.has 'o' then do
    if !o.has 'v' then
      selected.forM fun (line, number) => do
        let text := line.toArray
        sayLines ((s.all text (text.size + 2) 0).map fun f => front number ++ f.group text 0)
    return !selected.isEmpty
  else do
    sayLines (selected.map fun (line, number) => front number ++ line)
    return !selected.isEmpty

def searchUsage : Acting Unit := do
  complain "Usage: grep [OPTION]... PATTERNS [FILE]...".toList
  complain (hint "grep")
  setStatus 2

/-- Prints the lines of files that an expression matches. -/
def grep (extended plain : Bool) (arguments : List Text) : Acting Unit := do
  let known : Options.Known := {
    plain := ['i', 'y', 'v', 'c', 'n', 'q', 'l', 'L', 'o', 'E', 'F', 'G', 'x', 'w', 's', 'h', 'H', 'a', 'r', 'R']
    valued := ['e', 'm', 'A', 'B', 'C', 'f']
    long := [("ignore-case".toList, 'i'), ("invert-match".toList, 'v'), ("count".toList, 'c'), ("quiet".toList, 'q'),
      ("line-number".toList, 'n'), ("only-matching".toList, 'o'), ("extended-regexp".toList, 'E'),
      ("fixed-strings".toList, 'F'), ("word-regexp".toList, 'w'), ("line-regexp".toList, 'x'), ("regexp".toList, 'e'),
      ("max-count".toList, 'm'), ("silent".toList, 'q'), ("no-messages".toList, 's')] }
  let o := Options.read known arguments
  let patterns := o.valuesOf 'e'
  match o.problem?, patterns, o.words with
  | some problem, _, _ => do
    complain ("grep: ".toList ++ problem)
    searchUsage
  | none, [], [] => searchUsage
  | none, _, _ => do
    let (patterns, paths) := if patterns.isEmpty then (o.words.take 1, o.words.drop 1) else (patterns, o.words)
    match searchOf o (extended || o.has 'E') (plain || o.has 'F') patterns with
    | .error e => failed "grep" 2 e
    | .ok s => do
      let paths := if paths.isEmpty then [['-']] else paths
      let headed := (1 < paths.length || o.has 'H') && !o.has 'h'
      let limit? := (o.value? 'm').map fun n => Arithmetic.decimal n
      let (found, good) ← paths.foldlM (fun (found, good) path => do
        match ← contents path with
        | .ok bytes => return (found || (← searchIn o s limit? headed path bytes), good)
        | .error e => do
          if !o.has 's' then complain (plainReport "grep" path e)
          return (found, false)) (false, true)
      setStatus (if found && o.has 'q' then 0 else if !good then 2 else if found then 0 else 1)

end ApiFlow.Shell.Program
