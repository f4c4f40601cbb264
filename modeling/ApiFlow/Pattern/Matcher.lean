import ApiFlow.Pattern.Program

/-!
# Matching patterns

A match is tried from left to right and taken back where the rest fails: each step is given what is to be done behind it.
A try that fails leaves traces: the place that was noted last, and marks of groups.  What is restored before the next try,
and what is not, decides which marks a later part of the pattern sees, so that tries answer with the state they leave in
either case.  Marks are put back in full inside rounds; elsewhere those noted before the try keep the places that it gave
them.  A row repeated for good goes on from the place that its last, failed round has noted.

* `Program.searches` tells whether a pattern matches somewhere in a text.
-/

set_option autoImplicit false

namespace ApiFlow.Pattern

/-- What is noted during a match: a place, and the marks of the groups, of which those beyond the last are unset. -/
structure State where
  place : Nat := 0
  marks : Array (Option Nat) := #[]

/-- A try: whether it matched, and the state that it leaves. -/
abbrev Try := Bool × State

/-- What is to be done behind a step, from a place. -/
abbrev Next := Nat → State → Try

def State.at (s : State) (place : Nat) : State := { s with place }

def done : Next := fun place s => (true, s.at place)

def State.note (s : State) (index place : Nat) : State :=
  let marks := s.marks
  if index < marks.size then { s with marks := marks.setIfInBounds index (some place) }
  else { s with marks := (marks ++ Array.replicate (index - marks.size) none).push (some place) }

/-- A state after a failed try: the marks `saved` before it, with the places that they have now unless they are put back in
full. -/
def State.restored (s : State) (saved : Array (Option Nat)) (full : Bool) : State :=
  { s with marks := if full then saved else s.marks.shrink saved.size }

/-- What a group has matched last, if its end is not before its start. -/
def State.span? (s : State) (number : Nat) : Option (Nat × Nat) :=
  match s.marks[2 * (number - 1)]?, s.marks[2 * (number - 1) + 1]? with
  | some (some a), some (some b) => if a ≤ b then some (a, b) else none
  | _, _ => none

/-- Whether some group ends before it starts. -/
def State.isCrossed (s : State) (groups : Nat) : Bool :=
  (List.range groups).any fun g =>
    match s.marks[2 * g]?, s.marks[2 * g + 1]? with
    | some (some a), some (some b) => b < a
    | _, _ => false

def Single.holdsAt (t : Single) (text : Array Char) (place : Nat) : Bool :=
  match text[place]? with
  | some c => t.holds c.toNat
  | none => false

/-- Whether a word character stands at a place. -/
def wordAt (text : Array Char) (ascii : Bool) (place : Nat) : Bool :=
  match text[place]? with
  | some c => Category.word.holds ascii c.toNat
  | none => false

def Anchor.holds (anchor : Anchor) (text : Array Char) (multiLine ascii : Bool) (place : Nat) : Bool :=
  let changes := (place != 0 && wordAt text ascii (place - 1)) != wordAt text ascii place
  match anchor with
  | textStart => place = 0
  | textEnd => place = text.size
  | lineStart => place = 0 || (multiLine && text[place - 1]? = some '\n')
  | lineEnd =>
    place = text.size || (place + 1 = text.size && text[place]? = some '\n')
      || (multiLine && text[place]? = some '\n')
  | boundary => text.size != 0 && changes
  | inside => text.size != 0 && !changes

/-- Whether two characters are taken for the same. -/
def Likeness.holds (l : Likeness) (a b : Char) : Bool :=
  match l with
  | exact => a = b
  | asciiCase => Text.lowerAscii a.toNat = Text.lowerAscii b.toNat
  | anyCase => Text.lowerCode a.toNat = Text.lowerCode b.toNat

/-- Whether the text at a place repeats what stands between two places. -/
def repeatsAt (text : Array Char) (l : Likeness) (start stop place : Nat) : Bool :=
  (List.range (stop - start)).all fun k =>
    match text[start + k]?, text[place + k]? with
    | some a, some b => l.holds a b
    | _, _ => false

def mayGrow (most : Option Nat) (count : Nat) : Bool :=
  match most with
  | some n => count < n
  | none => true

/-- The number of characters from a place on that pass a test, at most `count`. -/
def Single.runLength (t : Single) (text : Array Char) : (count place : Nat) → Nat
  | 0, _ => 0
  | count + 1, place => if t.holdsAt text place then t.runLength text count (place + 1) + 1 else 0

/-- The number of characters from a place on that pass a test, at most `most`. -/
def Single.extent (t : Single) (text : Array Char) (most : Option Nat) (place : Nat) : Nat :=
  t.runLength text (min (text.size - place) (most.getD text.size)) place

/-- Whether a character stands at a place, if one is asked for. -/
def mayFollowAt (text : Array Char) (ahead : Option Nat) (place : Nat) : Bool :=
  match ahead with
  | some code => (Single.literal code).holdsAt text place
  | none => true

/-- Goes on behind `least + more` characters, or behind fewer down to `least`.  Where a known character must follow, the
other places are not tried. -/
def shrinkRun (text : Array Char) (inside : Bool) (ahead : Option Nat) (start least : Nat)
    (saved : Array (Option Nat)) (next : Next) : (more : Nat) → State → Try
  | more, s =>
    let place := start + least + more
    let tried := if mayFollowAt text ahead place then next place (s.at place) else (false, s)
    if tried.1 then tried
    else
      let left := if mayFollowAt text ahead place then tried.2.restored saved inside else s
      match more with
      | 0 => (false, left)
      | more + 1 => shrinkRun text inside ahead start least saved next more left

/-- Goes on behind `count` characters, or behind more up to `most`; `fuel` bounds the characters. -/
def growRun (text : Array Char) (inside : Bool) (t : Single) (most : Option Nat) (saved : Array (Option Nat))
    (next : Next) : (fuel count place : Nat) → State → Try
  | 0, _, _, s => (false, s)
  | fuel + 1, count, place, s =>
    let tried := next place (s.at place)
    if tried.1 then tried
    else
      let left := (tried.2.restored saved inside).at place
      if !t.holdsAt text place then (false, left)
      else
        let left := if t.isLoweredClass then left.at (place + 1) else left
        if mayGrow most count then growRun text inside t most saved next fuel (count + 1) (place + 1) left
        else (false, left)

def attemptRun (text : Array Char) (inside : Bool) (ahead : Option Nat) (least : Nat) (most : Option Nat)
    (temper : Temper) (t : Single) (place : Nat) (s : State) (next : Next) : Try :=
  if text.size < place + least then (false, s)
  else
    let found := match temper with
      | .lazy => t.extent text (some least) place
      | _ => t.extent text most place
    let s := s.at (if t.isLoweredClass then place + found else place)
    if found < least then (false, s)
    else match temper with
      | .greedy => shrinkRun text inside ahead place least s.marks next (found - least) s
      | .lazy => growRun text inside t most s.marks next (text.size + 1) least (place + least) s
      | .possessive => next (place + found) s

/-- Rounds of a row, as many as possible first; `last` is the place where the last free round began. -/
def greedyRounds (body : Nat → State → Next → Try) (least : Nat) (most : Option Nat) (next : Next) :
    (fuel count : Nat) → (last : Option Nat) → Next
  | 0, _, _, _, s => (false, s)
  | fuel + 1, count, last, place, s =>
    let s := s.at place
    if count < least then
      let tried := body place s (greedyRounds body least most next fuel (count + 1) last)
      if tried.1 then tried else (false, tried.2.at place)
    else
      let more :=
        if mayGrow most count && last != some place then
          body place s (greedyRounds body least most next fuel (count + 1) (some place))
        else (false, s)
      if more.1 then more
      else
        let tried := next place ((more.2.restored s.marks true).at place)
        if tried.1 then tried else (false, tried.2.at place)

/-- Rounds of a row, as few as possible first. -/
def lazyRounds (inside : Bool) (body : Nat → State → Next → Try) (least : Nat) (most : Option Nat) (next : Next) :
    (fuel count : Nat) → (last : Option Nat) → Next
  | 0, _, _, _, s => (false, s)
  | fuel + 1, count, last, place, s =>
    let s := s.at place
    if count < least then
      let tried := body place s (lazyRounds inside body least most next fuel (count + 1) last)
      if tried.1 then tried else (false, tried.2.at place)
    else
      let tried := next place s
      if tried.1 then tried
      else
        let left := (tried.2.restored s.marks inside).at place
        if mayGrow most count && last != some place then
          let more := body place left (lazyRounds inside body least most next fuel (count + 1) (some place))
          if more.1 then more else (false, more.2.at place)
        else (false, left)

def neededRounds (body : Nat → State → Next → Try) : (least : Nat) → State → Try
  | 0, s => (true, s)
  | least + 1, s =>
    let tried := body s.place s done
    if tried.1 then neededRounds body least tried.2 else tried

/-- The rounds beyond those that a repetition for good must have.  A round that fails gives its marks back, but not the
place that it has noted. -/
def extraRounds (body : Nat → State → Next → Try) (most : Option Nat) : (fuel count : Nat) → State → State
  | 0, _, s => s
  | fuel + 1, count, s =>
    if mayGrow most count then
      let tried := body s.place s done
      if !tried.1 then tried.2.restored s.marks true
      else if tried.2.place = s.place then tried.2
      else extraRounds body most fuel (count + 1) tried.2
    else s

/-- A repetition of a row. -/
def attemptRounds (text : Array Char) (inside : Bool) (least : Nat) (most : Option Nat) (temper : Temper)
    (body : Bool → Nat → State → Next → Try) (place : Nat) (s : State) (next : Next) : Try :=
  let fuel := least + (text.size + 2) * (text.size + 2)
  match temper with
  | .greedy => greedyRounds (body true) least most next fuel 0 none place s
  | .lazy => lazyRounds inside (body true) least most next fuel 0 none place s
  | .possessive =>
    let tried := neededRounds (body inside) least (s.at place)
    if tried.1 then
      let left := extraRounds (body inside) most fuel least tried.2
      next left.place left
    else (false, tried.2.at place)

/-- The character that must follow, where it is known: the first of the steps, or what follows them. -/
def aheadOf (steps : List Step) (ahead : Option Nat) : Option Nat :=
  match steps with
  | [] => ahead
  | .single (.literal code) :: _ => some code
  | _ => none

/-- Whether an alternative that begins with a character or a class is ruled out by the character at a place. -/
def isRuledOut (text : Array Char) (place : Nat) : List Step → Bool
  | .single (.literal code) :: _ => !(Single.literal code).holdsAt text place
  | .single (.members k) :: _ => !(Single.members k).holdsAt text place
  | _ => false

mutual

/-- Tries a step at a place, and then what is to be done behind it.  Inside rounds marks are put back in full; `ahead` is
the character that must follow, where it is known. -/
def Step.attempt (text : Array Char) (inside : Bool) (ahead : Option Nat) : Step → Nat → State → Next → Try
  | .single t, place, s, next => if t.holdsAt text place then next (place + 1) s else (false, s)
  | .anchor a multiLine ascii, place, s, next =>
    if a.holds text multiLine ascii place then next place s else (false, s)
  | .mark index, place, s, next => next place (s.note index place)
  | .reference number likeness, place, s, next =>
    match s.span? number with
    | some (start, stop) =>
      if repeatsAt text likeness start stop place then next (place + (stop - start)) s else (false, s)
    | none => (false, s)
  | .choice branches, place, s, next => attemptAny text inside s.marks branches place s next
  | .run least most temper t, place, s, next => attemptRun text inside ahead least most temper t place s next
  | .rounds least most temper body, place, s, next =>
    attemptRounds text inside least most temper (fun i p t k => attemptAll text i none body p t k) place s next
  | .look back negated body, place, s, next =>
    if place < back then if negated then next place s else (false, s)
    else
      let tried := attemptAll text inside none body (place - back) (s.at (place - back)) done
      if negated then if tried.1 then (false, tried.2) else next place (tried.2.restored s.marks inside)
      else if tried.1 then next place tried.2
      else tried
  | .atomic body, place, s, next =>
    let tried := attemptAll text inside none body place (s.at place) done
    if tried.1 then next tried.2.place tried.2 else (false, tried.2.at place)
  | .conditional number yes no, place, s, next =>
    match s.span? number with
    | some _ => attemptAll text inside (if no.isEmpty then ahead else none) yes place s next
    | none => attemptAll text inside ahead no place s next

def attemptAll (text : Array Char) (inside : Bool) (ahead : Option Nat) : List Step → Nat → State → Next → Try
  | [], place, s, next => next place s
  | step :: steps, place, s, next =>
    step.attempt text inside (aheadOf steps ahead) place s
      fun p t => attemptAll text inside ahead steps p t next

/-- Tries alternatives in turn; `saved` are the marks before the first. -/
def attemptAny (text : Array Char) (inside : Bool) (saved : Array (Option Nat)) :
    List (List Step) → Nat → State → Next → Try
  | [], _, s, _ => (false, s)
  | b :: bs, place, s, next =>
    if isRuledOut text place b then attemptAny text inside saved bs place s next
    else
      let tried := attemptAll text inside none b place (s.at place) next
      if tried.1 then tried else attemptAny text inside saved bs place (tried.2.restored saved inside) next

end

/-- The places where a match may begin. -/
def Program.places (p : Program) (text : Array Char) : List Nat :=
  if text.size < p.least then []
  else match p.start with
    | .anywhere => List.range (text.size + 2 - max p.least 1)
    | .literal => List.range text.size
    | .oneOf k => (List.range text.size).filter fun place => (Single.members k).holdsAt text place

def Program.searches (p : Program) (text : Text) : Except Refusal Bool :=
  let chars := text.toArray
  let tries := (p.places chars).map fun place => fun (_ : Unit) =>
    attemptAll chars false none p.steps place { place } done
  match tries.findSome? fun t => let tried := t (); if tried.1 then some tried.2 else none with
  | some s => if s.isCrossed p.groups then .error .crossedGroup else .ok true
  | none => .ok false

def search (pattern text : Text) : Except Refusal Bool := do
  let source ← parse pattern
  let program ← Program.ofSource source
  program.searches text

end ApiFlow.Pattern
