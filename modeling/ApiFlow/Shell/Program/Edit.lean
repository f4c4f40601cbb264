import ApiFlow.Shell.Arithmetic
import ApiFlow.Shell.Program.Options
import ApiFlow.Shell.Program.Regular

/-!
# Editing lines

An editor takes the lines of its input one after the other into a space, runs the commands whose addresses select the line,
and prints what is in the space then.  Commands replace, remove and print, hold something back, or go on elsewhere.

* `Edit.read` reads the commands.
* `sed` is the program.
-/

set_option autoImplicit false

namespace ApiFlow.Shell.Program

open Acting

inductive Address where
  | line (n : Nat)
  | last
  | step (first size : Nat)
  | pattern (r : Regular) (folds : Bool)
  deriving Repr

/-- The lines that a command is for. -/
structure Selection where
  first? : Option Address := none
  second? : Option Address := none
  turned : Bool := false
  deriving Repr

/-- A part of a text that replaces another one: a text, or a group of the match. -/
inductive Substitute where
  | text (s : Text)
  | group (number : Nat)
  deriving DecidableEq, Repr

inductive Edit where
  | replace (r : Regular) (folds : Bool) (parts : List Substitute) (nth : Nat) (all prints : Bool)
  | exchange (source target : Text)
  | delete (toLineEnd : Bool)
  | print (toLineEnd : Bool)
  | number
  | quit (prints : Bool) (code : Nat)
  | next (joins : Bool)
  | put (where_ : Char) (s : Text)
  | hold (joins : Bool)
  | fetch (joins : Bool)
  | swap
  | label (name : Text)
  | jump (name : Text) (ifReplaced : Bool)
  | block
  | blockEnd
  deriving Repr

namespace Edit

/-! ## Reading -/

/-- What is left of the commands. -/
abbrev Reading := StateT Text (Except (Text × Nat))

/-- Ends reading; what is left tells where. -/
def fail {α : Type} (message : String) : Reading α := do throw (message.toList, (← get).length)

def skip (p : Char → Bool) : Reading Unit := modify (List.dropWhile p)

def number? : Reading (Option Nat) := do
  let s ← get
  let digits := s.takeWhile Char.isDigit
  set (s.drop digits.length)
  return if digits.isEmpty then none else some (Arithmetic.decimal digits)

/-- The text up to a mark that no backslash hides; a hidden mark stands for itself, unless the backslash is kept. -/
def upTo? (mark : Char) (keeps : Bool) : (fuel : Nat) → Text → Option (Text × Text)
  | 0, _ => none
  | _ + 1, [] => none
  | fuel + 1, '\\' :: c :: s =>
    (upTo? mark keeps fuel s).map fun r => (if c = mark && !keeps then (c :: r.1, r.2) else ('\\' :: c :: r.1, r.2))
  | fuel + 1, c :: s => if c = mark then some ([], s) else (upTo? mark keeps fuel s).map fun r => (c :: r.1, r.2)

def expression (mark : Char) (unfinished : String) : Reading Text := do
  let s ← get
  match upTo? mark false (s.length + 1) s with
  | some (inner, rest) => do
    set rest
    return inner
  | none => do
    set ([] : Text)
    fail unfinished

/-- An expression that is read. -/
def regular (extended : Bool) (s : Text) : Reading Regular := do
  match Regular.read extended s with
  | .ok r => return r
  | .error e => throw (e, (← get).length)

/-- An address that stands here. -/
def address? (extended : Bool) : Reading (Option Address) := do
  match ← get with
  | '$' :: rest => do
    set rest
    return some .last
  | '/' :: rest => do
    set rest
    let s ← expression '/' "unterminated address regex"
    let r ← regular extended s
    match ← get with
    | 'I' :: rest => do
      set rest
      return some (.pattern r true)
    | _ => return some (.pattern r false)
  | '\\' :: mark :: rest => do
    set rest
    let s ← expression mark "unterminated address regex"
    return some (.pattern (← regular extended s) false)
  | _ => do
    match ← number? with
    | none => return none
    | some n =>
      match ← get with
      | '~' :: rest => do
        set rest
        return some (.step n ((← number?).getD 0))
      | _ => return some (.line n)

/-- A blank inside a line. -/
def isGap (c : Char) : Bool := c = ' ' || c = '\t'

/-- The selection in front of a command. -/
def selection (extended : Bool) : Reading Selection := do
  let first? ← address? extended
  skip isGap
  let second? ← match first?, ← get with
    | some _, ',' :: rest => do
      set rest
      skip isGap
      match ← address? extended with
      | some a => pure (some a)
      | none => fail "unexpected ','"
    | _, _ => pure none
  skip isGap
  match ← get with
  | '!' :: rest => do
    set rest
    skip isGap
    return { first?, second?, turned := true }
  | _ => return { first?, second? }

def parts : Text → List Substitute
  | [] => []
  | '\\' :: 'n' :: s => .text ['\n'] :: parts s
  | '\\' :: 't' :: s => .text ['\t'] :: parts s
  | '\\' :: c :: s => (if c.isDigit then .group (c.toNat - 48) else .text [c]) :: parts s
  | '&' :: s => .group 0 :: parts s
  | c :: s => .text [c] :: parts s

structure Flags where
  all : Bool := false
  prints : Bool := false
  folds : Bool := false
  nth : Nat := 1

/-- The flags behind a replacement. -/
def flags : (fuel : Nat) → Flags → Reading Flags
  | 0, f => return f
  | fuel + 1, f => do
    let s ← get
    match s with
    | 'g' :: rest => do
      set rest
      flags fuel { f with all := true }
    | 'p' :: rest => do
      set rest
      flags fuel { f with prints := true }
    | c :: rest =>
      if c = 'i' || c = 'I' then do
        set rest
        flags fuel { f with folds := true }
      else if c.isDigit then do
        let n ← number?
        flags fuel { f with nth := n.getD 1 }
      else if isGap c || c = ';' || c = '\n' || c.toNat = 0x7d || c = '#' then return f
      else do
        set rest
        fail "unknown option to \x60s'"
    | [] => return f

/-- The text of a command that prints one: up to the end of the line, which a backslash hides. -/
def textLine : Text → Text × Text
  | [] => ([], [])
  | '\\' :: c :: s =>
    let (line, rest) := textLine s
    (c :: line, rest)
  | c :: s =>
    if c = '\n' then ([], s)
    else
      let (line, rest) := textLine s
      (c :: line, rest)

def labelHere : Reading Text := do
  skip isGap
  let s ← get
  let name := s.takeWhile fun c => c != ';' && c != '\n' && c.toNat != 0x7d
  set (s.drop name.length)
  return Text.dropEndWhile isGap name

/-- Reads a command behind its selection. -/
def command (extended : Bool) : Reading Edit := do
  match ← get with
  | [] => fail "missing command"
  | c :: rest => do
    set rest
    match c with
    | 's' =>
      match rest with
      | mark :: rest => do
        set rest
        let s ← expression mark "unterminated \x60s' command"
        let t ← get
        match upTo? mark true (t.length + 1) t with
        | none => do
          set ([] : Text)
          fail "unterminated \x60s' command"
        | some (replacement, rest) => do
          set rest
          let f ← flags (rest.length + 1) {}
          return .replace (← regular extended s) f.folds (parts replacement) f.nth f.all f.prints
      | [] => fail "unterminated \x60s' command"
    | 'y' =>
      match rest with
      | mark :: rest => do
        set rest
        let source ← expression mark "unterminated \x60y' command"
        let target ← expression mark "unterminated \x60y' command"
        if source.length != target.length then fail "strings for \x60y' command are different lengths"
        return .exchange source target
      | [] => fail "unterminated \x60y' command"
    | 'd' => return .delete false
    | 'D' => return .delete true
    | 'p' => return .print false
    | 'P' => return .print true
    | '=' => return .number
    | 'q' => do
      skip isGap
      return .quit true ((← number?).getD 0)
    | 'Q' => do
      skip isGap
      return .quit false ((← number?).getD 0)
    | 'n' => return .next false
    | 'N' => return .next true
    | 'h' => return .hold false
    | 'H' => return .hold true
    | 'g' => return .fetch false
    | 'G' => return .fetch true
    | 'x' => return .swap
    | ':' => return .label (← labelHere)
    | 'b' => return .jump (← labelHere) false
    | 't' => return .jump (← labelHere) true
    | _ =>
      if c = 'a' || c = 'i' || c = 'c' then do
        skip isGap
        let s ← get
        let s := match s with
          | '\\' :: '\n' :: t => t
          | '\\' :: t => t.dropWhile isGap
          | t => t
        if s.isEmpty then fail "expected \\ after \x60a', \x60c' or \x60i'"
        let (line, rest) := textLine s
        set rest
        return .put c line
      else if c.toNat = 0x7b then return .block
      else if c.toNat = 0x7d then return .blockEnd
      else throw ("unknown command: \x60".toList ++ [c, '\''], rest.length)

/-- Whether a command may follow another one without a sign between. -/
def standsOpen : Edit → Bool
  | .block => true
  | .put _ _ => true
  | _ => false

/-- Reads commands one after the other. -/
def readFrom (extended : Bool) : (fuel : Nat) → Reading (List (Selection × Edit))
  | 0 => return []
  | fuel + 1 => do
    skip fun c => isGap c || c = '\n' || c = ';'
    match ← get with
    | [] => return []
    | '#' :: s => do
      set (s.dropWhile (· != '\n'))
      readFrom extended fuel
    | _ => do
      let sel ← selection extended
      let e ← command extended
      skip isGap
      match ← get with
      | [] => return [(sel, e)]
      | c :: rest =>
        if c = ';' || c = '\n' || c.toNat = 0x7d || c = '#' || standsOpen e then
          return (sel, e) :: (← readFrom extended fuel)
        else do
          set rest
          fail "extra characters after command"

def read (extended : Bool) (s : Text) : Except Text (Array (Selection × Edit)) :=
  match (readFrom extended (s.length + 1)).run s with
  | .ok (all, _) => .ok all.toArray
  | .error (e, left) => .error ("-e expression #1, char ".toList ++ Text.ofNat (s.length - left) ++ ": ".toList ++ e)

/-! ## Editing -/

/-- The state of the editor: the space, what is held, the lines that follow, and what was printed. -/
structure State where
  space : Text := []
  held : Text := []
  line : Nat := 0
  ended : Bool := true
  rest : List (Text × Bool) := []
  behind : List Text := []
  active : List Nat := []
  replaced : Bool := false
  printed : List Text := []
  open_ : Bool := false
  code : Nat := 0

/-- How the editor goes on behind a command. -/
inductive Onward where
  | step
  | to (place : Nat)
  | finish (prints : Bool)
  | again
  | stop (prints : Bool)

namespace State

/-- Prints a text and, if it has one, its line end. -/
def print (s : State) (text : Text) (ended : Bool) : State :=
  let text := if s.open_ then '\n' :: text else text
  { s with printed := (if ended then text ++ ['\n'] else text) :: s.printed, open_ := !ended }

/-- Prints what is to stand behind the line. -/
def flush (s : State) : State :=
  s.behind.foldl (fun s t => s.print t true) { s with behind := [] }

def take? (s : State) : Option State :=
  match s.rest with
  | (line, ended) :: rest => some { s with space := line, ended, rest, line := s.line + 1 }
  | [] => none

def isAt (s : State) : Address → Bool
  | .line n => s.line = n
  | .last => s.rest.isEmpty
  | .step first size => if size = 0 then s.line = first else first ≤ s.line && (s.line - first) % size = 0
  | .pattern r folds => (r.find? folds s.space.toArray 0).isSome

/-- Whether a command is for the line, which may start or end its range. -/
def selects (s : State) (place : Nat) (sel : Selection) : Bool × State :=
  let (b, s) : Bool × State := match sel.first?, sel.second? with
    | none, _ => (true, s)
    | some a, none => (s.isAt a, s)
    | some a, some b =>
      let off (s : State) : State := { s with active := s.active.filter (· != place) }
      if s.active.contains place then
        match b with
        | .line n => if s.line < n then (true, s) else (s.line = n, off s)
        | b => if s.isAt b then (true, off s) else (true, s)
      else if s.isAt a then
        let isShort : Bool := match b with
          | .line n => n ≤ s.line
          | _ => false
        (true, if isShort then s else { s with active := place :: s.active })
      else (false, s)
  (b != sel.turned, s)

end State

def filled (text : Array Char) (f : Regular.Found) (parts : List Substitute) : Text :=
  parts.flatMap fun
    | .text s => s
    | .group n => f.group text n

/-- A text with matches replaced from the `nth` one on, and whether one was. -/
def replaceFrom (r : Regular) (folds : Bool) (text : Array Char) (parts : List Substitute) (nth : Nat) (all : Bool) :
    (fuel count start : Nat) → Text × Bool
  | 0, _, start => (text.toList.drop start, false)
  | fuel + 1, count, start =>
    match r.find? folds text start with
    | none => (text.toList.drop start, false)
    | some f =>
      let before := (text.toList.take f.first).drop start
      let isMeant := count = nth || (all && nth < count)
      let inner := if isMeant then filled text f parts else f.group text 0
      if isMeant && !all then (before ++ inner ++ text.toList.drop f.last, true)
      else if f.first = f.last then
        match text[f.last]? with
        | some c =>
          let (rest, b) := replaceFrom r folds text parts nth all fuel (count + 1) (f.last + 1)
          (before ++ inner ++ c :: rest, isMeant || b)
        | none => (before ++ inner, isMeant)
      else
        let (rest, b) := replaceFrom r folds text parts nth all fuel (count + 1) f.last
        (before ++ inner ++ rest, isMeant || b)

def firstLine (s : Text) : Text := s.takeWhile (· != '\n')

/-- Where the block that starts at a place ends. -/
def blockEndFrom (program : Array (Selection × Edit)) : (fuel depth place : Nat) → Nat
  | 0, _, place => place
  | fuel + 1, depth, place =>
    match program[place]? with
    | some (_, .block) => blockEndFrom program fuel (depth + 1) (place + 1)
    | some (_, .blockEnd) => if depth ≤ 1 then place else blockEndFrom program fuel (depth - 1) (place + 1)
    | some _ => blockEndFrom program fuel depth (place + 1)
    | none => place

/-- Where a label stands; the end if there is no label. -/
def placeOfLabel (program : Array (Selection × Edit)) (name : Text) : Nat :=
  if name.isEmpty then program.size
  else (program.findIdx? fun e => match e.2 with
    | .label n => n = name
    | _ => false).getD program.size

/-- Runs a command for the line. -/
def apply (program : Array (Selection × Edit)) (quiet : Bool) (sel : Selection) (e : Edit) (s : State) : State × Onward :=
  match e with
  | .replace r folds parts nth all prints =>
    let text := s.space.toArray
    let (space, done) := replaceFrom r folds text parts nth all (text.size + 2) 1 0
    if done then
      let s := { s with space, replaced := true }
      (if prints then s.print space s.ended else s, .step)
    else (s, .step)
  | .exchange source target =>
    ({ s with space := s.space.map fun c => match source.idxOf? c with
        | some n => (target[n]?).getD c
        | none => c }, .step)
  | .delete toLineEnd =>
    if toLineEnd && s.space.contains '\n' then
      ({ s with space := s.space.drop ((firstLine s.space).length + 1) }, .again)
    else (s, .finish false)
  | .print toLineEnd => (if toLineEnd then s.print (firstLine s.space) true else s.print s.space s.ended, .step)
  | .number => (s.print (Text.ofNat s.line) true, .step)
  | .quit prints code => ({ s with code }, .stop prints)
  | .next joins =>
    let s' := if joins || quiet then s else if s.rest.isEmpty then s else s.print s.space s.ended
    let s' := if joins then s' else s'.flush
    match s'.take? with
    | some t => (if joins then { t with space := s.space ++ '\n' :: t.space } else t, .step)
    | none => (s', .stop true)
  | .put where_ text =>
    if where_ = 'i' then (s.print text true, .step)
    else if where_ = 'a' then ({ s with behind := s.behind ++ [text] }, .step)
    else
      let isInside := sel.second?.isSome && !sel.turned && !s.active.isEmpty
      (if isInside then s else s.print text true, .finish false)
  | .hold joins => ({ s with held := if joins then s.held ++ '\n' :: s.space else s.space }, .step)
  | .fetch joins => ({ s with space := if joins then s.space ++ '\n' :: s.held else s.held }, .step)
  | .swap => ({ s with space := s.held, held := s.space }, .step)
  | .label _ | .block | .blockEnd => (s, .step)
  | .jump name ifReplaced =>
    if ifReplaced && !s.replaced then (s, .step)
    else ({ s with replaced := if ifReplaced then false else s.replaced }, .to (placeOfLabel program name))

/-- Runs the commands from a place on, and then those for the lines that follow. -/
def run (program : Array (Selection × Edit)) (quiet : Bool) : (fuel place : Nat) → State → State
  | 0, _, s => s
  | fuel + 1, place, s =>
    let finished (s : State) (prints : Bool) : State := (if prints && !quiet then s.print s.space s.ended else s).flush
    match program[place]? with
    | none =>
      let s := finished s true
      match s.take? with
      | some s => run program quiet fuel 0 { s with replaced := false }
      | none => s
    | some (sel, e) =>
      let (b, s) := s.selects place sel
      if b then
        match apply program quiet sel e s with
        | (s, .step) => run program quiet fuel (place + 1) s
        | (s, .to place) => run program quiet fuel place s
        | (s, .again) => run program quiet fuel 0 s.flush
        | (s, .finish prints) =>
          let s := finished s prints
          match s.take? with
          | some s => run program quiet fuel 0 { s with replaced := false }
          | none => s
        | (s, .stop prints) => finished s prints
      else
        match e with
        | .block => run program quiet fuel (blockEndFrom program (program.size + 1) 0 place + 1) s
        | _ => run program quiet fuel (place + 1) s

/-- What the editor makes of lines, with the status that it ends with. -/
def edited (program : Array (Selection × Edit)) (quiet : Bool) (lines : List (Text × Bool)) : Text × Nat :=
  let start : State := { rest := lines }
  let fuel := 1000 * (program.size + 2) * (lines.length + 2)
  match start.take? with
  | some s =>
    let s := run program quiet fuel 0 s
    (s.printed.reverse.flatten, s.code)
  | none => ([], 0)

end Edit

/-- Lines with whether they have a line end. -/
def editLines (bytes : List UInt8) : List (Text × Bool) :=
  (linesOf bytes).map fun line => (Utf8.decodeLossy (withoutEnd line), line.getLast? = some 10)

/-- Edits files or the input. -/
def sed (arguments : List Text) : Acting Unit :=
  let known : Options.Known := {
    plain := ['n', 'E', 'r', 'i', 's', 'u', 'z'], valued := ['e', 'f']
    long := [("quiet".toList, 'n'), ("silent".toList, 'n'), ("regexp-extended".toList, 'E'), ("in-place".toList, 'i'),
      ("expression".toList, 'e')] }
  withOptions "sed" 1 known arguments fun o => do
    let scripts := o.valuesOf 'e'
    let (script?, paths) := if scripts.isEmpty then (o.words.head?, o.words.drop 1)
      else (some (Text.join ['\n'] scripts), o.words)
    match script? with
    | none => misused "sed" 1 "no script specified".toList
    | some script =>
      match Edit.read (o.has 'E' || o.has 'r') script with
      | .error e => failed "sed" 1 e
      | .ok program => do
        let paths := if paths.isEmpty then [['-']] else paths
        let found ← paths.mapM fun path => do return (path, ← contents path)
        found.forM fun (path, r) => do
          match r with
          | .error (.refused .isDirectory _) => complain ("sed: couldn't edit ".toList ++ path ++ ": not a regular file".toList)
          | .error e => complain ("sed: can't read ".toList ++ path ++ ": ".toList ++ reasonOf e)
          | .ok _ => return ()
        let good := found.filterMap fun e => e.2.toOption.map fun bytes => (e.1, bytes)
        let code ← if o.has 'i' then do
            good.forM fun (path, bytes) => do
              let (text, _) := Edit.edited program (o.has 'n') (editLines bytes)
              modify fun m => { m with files := m.files.put (m.files.placed path).parts (.file (Utf8.encode text)) }
            pure 0
          else do
            let (text, code) := Edit.edited program (o.has 'n') (good.flatMap fun e => editLines e.2)
            say text
            pure code
        setStatus (if good.length = found.length then code else 2)

end ApiFlow.Shell.Program
