import ApiFlow.Pattern.Character
import ApiFlow.Pattern.Error
import ApiFlow.Pattern.Parser

/-!
# Patterns made ready

Before it is searched for, a pattern becomes a row of steps in which the flags that hold at each place are worked in and
groups are a pair of marks around their steps.  What is repeated is a single character or a row of steps.

* `Program.ofSource` makes a pattern ready, or refuses one that looks behind for texts of different lengths.
* `Start` is what is known of the places where a match can begin.
-/

set_option autoImplicit false

namespace ApiFlow.Pattern

/-- How characters are compared with what a group has matched. -/
inductive Likeness where
  | exact
  | asciiCase
  | anyCase
  deriving DecidableEq, Repr

/-- A step of a match. -/
inductive Step where
  | single (s : Single)
  | anchor (place : Anchor) (multiLine ascii : Bool)
  /-- Notes the place as the start of a group (an even index) or its end (an odd one). -/
  | mark (index : Nat)
  | reference (number : Nat) (likeness : Likeness)
  | choice (branches : List (List Step))
  | run (least : Nat) (most : Option Nat) (temper : Temper) (s : Single)
  | rounds (least : Nat) (most : Option Nat) (temper : Temper) (body : List Step)
  | look (back : Nat) (negated : Bool) (body : List Step)
  | atomic (body : List Step)
  | conditional (number : Nat) (yes no : List Step)

/-- Whether a row of nodes is one test of a single character, groups without number left aside. -/
def isSingle : List Node → Bool
  | [.literal _] => true
  | [.otherThan _] => true
  | [.any] => true
  | [.members _ _] => true
  | [.group none _ body] => isSingle body
  | _ => false

def Flags.likeness (f : Flags) : Likeness :=
  if !f.ignoreCase then .exact else if f.ascii then .asciiCase else .anyCase

/-- A repetition of steps; `single` tells that they are one test of a character. -/
def repeated (least : Nat) (most : Option Nat) (temper : Temper) (single : Bool) (steps : List Step) : Step :=
  match single, steps with
  | true, [.single s] => .run least most temper s
  | _, _ => .rounds least most temper steps

/-- The width of what a lookbehind asks for, if all texts that it matches have the same. -/
def fixedWidth? (body : List Node) : Option Nat :=
  let (lo, hi) := rowWidth body
  if lo = hi then some lo else none

mutual

def Node.steps? (flags : Flags) : Node → Option (List Step)
  | .literal code => some [.single (.ofLiteral flags false code)]
  | .otherThan code => some [.single (.ofLiteral flags true code)]
  | .any => some [.single (.any flags.dotAll)]
  | .members negated items => some [.single (.ofMembers flags negated items)]
  | .anchor place => some [.anchor place flags.multiLine flags.ascii]
  | .reference number _ => some [.reference number flags.likeness]
  | .choice branches => (choiceSteps? flags branches).map fun bs => [.choice bs]
  | .repetition least most temper body =>
    if flags.plainOnly then none
    else (rowSteps? flags body).map fun steps => [repeated least most temper (isSingle body) steps]
  | .group number change body =>
    (rowSteps? (flags.change change) body).map fun steps =>
      match number with
      | some n => .mark (2 * (n - 1)) :: steps ++ [.mark (2 * (n - 1) + 1)]
      | none => steps
  | .ahead negated body => (rowSteps? flags body).map fun steps => [.look 0 negated steps]
  | .behind negated body =>
    match fixedWidth? body with
    | some back => (rowSteps? flags body).map fun steps => [.look back negated steps]
    | none => none
  | .atomic body => (rowSteps? flags body).map fun steps => [.atomic steps]
  | .conditional number yes no =>
    match rowSteps? flags yes, rowSteps? flags no with
    | some ys, some ns => some [.conditional number ys ns]
    | _, _ => none

def rowSteps? (flags : Flags) : List Node → Option (List Step)
  | [] => some []
  | n :: ns =>
    match n.steps? flags, rowSteps? flags ns with
    | some steps, some more => some (steps ++ more)
    | _, _ => none

def choiceSteps? (flags : Flags) : List (List Node) → Option (List (List Step))
  | [] => some []
  | b :: bs =>
    match rowSteps? flags b, choiceSteps? flags bs with
    | some steps, some more => some (steps :: more)
    | _, _ => none

end

/-- A lookbehind reaches back by less than this. -/
def reachLimit : Nat := 2147483648

mutual

/-- Whether a step looks back too far. -/
def Step.reachesTooFar : Step → Bool
  | .single _ => false
  | .anchor _ _ _ => false
  | .mark _ => false
  | .reference _ _ => false
  | .choice branches => anyBranchReaches branches
  | .run _ _ _ _ => false
  | .rounds _ _ _ body => anyReaches body
  | .look back _ body => reachLimit ≤ back || anyReaches body
  | .atomic body => anyReaches body
  | .conditional _ yes no => anyReaches yes || anyReaches no

def anyReaches : List Step → Bool
  | [] => false
  | s :: ss => s.reachesTooFar || anyReaches ss

/-- Whether a step of some alternative looks back too far. -/
def anyBranchReaches : List (List Step) → Bool
  | [] => false
  | b :: bs => anyReaches b || anyBranchReaches bs

end

/-- Where a match can begin. -/
inductive Start where
  /-- Wherever enough characters follow. -/
  | anywhere
  /-- At a character that is known. -/
  | literal
  /-- At a character of a class. -/
  | oneOf (k : CharClass)

/-- Whether a character makes a difference between cases under flags. -/
def Flags.distinguishes (f : Flags) (code : Nat) : Bool := f.ignoreCase && isCased f.ascii code

mutual

/-- Whether a node begins with a character that is known (`some true`), with nothing (`some false`), or otherwise. -/
def Node.leads? (flags : Flags) : Node → Option Bool
  | .literal code => if flags.distinguishes code then none else some true
  | .group _ change body => rowLeads? (flags.change change) body
  | _ => none

/-- Whether a row of nodes begins with a character that is known, with nothing, or otherwise. -/
def rowLeads? (flags : Flags) : List Node → Option Bool
  | [] => some false
  | n :: ns =>
    match n.leads? flags with
    | some false => rowLeads? flags ns
    | known => known

end

/-- The character with which an alternative begins. -/
def firstLiteral? (flags : Flags) : List Node → Option Member
  | .literal code :: _ => if flags.distinguishes code then none else some (.literal code)
  | _ => none

/-- Whether a member of a class is the same in either case, for certain. -/
def Member.isCaseless (member : Member) (flags : Flags) : Bool :=
  match member with
  | literal code => !flags.distinguishes code
  | range lo hi => !flags.ignoreCase || (hi < planeEnd && !(Member.range lo hi).isCased flags.ascii)
  | category _ _ => true

mutual

/-- The class of characters with which a node begins, if it is known; `outer` are the flags of the whole pattern. -/
def Node.firstClass? (outer : Flags) (flags : Flags) : Node → Option CharClass
  | .members negated items =>
    if items.all (·.isCaseless flags) then some { negated, items, ascii := outer.ascii } else none
  | .choice branches =>
    (branches.mapM (firstLiteral? flags)).map fun items => { negated := false, items, ascii := outer.ascii }
  | .group _ change body => rowFirstClass? outer (flags.change change) body
  | _ => none

/-- The class of characters with which a row of nodes begins, if it is known. -/
def rowFirstClass? (outer : Flags) (flags : Flags) : List Node → Option CharClass
  | [] => none
  | n :: _ => n.firstClass? outer flags

end

structure Program where
  steps : List Step
  start : Start
  /-- The least number of characters of a match. -/
  least : Nat
  /-- The number of groups. -/
  groups : Nat

/-- What is known of the places where a match can begin. -/
def startOf (flags : Flags) (nodes : List Node) : Start :=
  if (rowWidth nodes).1 = 0 then .anywhere
  else if rowLeads? flags nodes = some true then .literal
  else match rowFirstClass? flags flags nodes with
    | some k => .oneOf k
    | none => .anywhere

/-- Makes a pattern ready. -/
def Program.ofSource (source : Source) : Except Refusal Program :=
  match rowSteps? source.flags source.nodes with
  | none => .error .malformed
  | some steps =>
    if anyReaches steps then .error .tooFarBehind
    else .ok
      { steps
        start := startOf source.flags source.nodes
        least := (rowWidth source.nodes).1
        groups := source.groups }

end ApiFlow.Pattern
