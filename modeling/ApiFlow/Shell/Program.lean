import ApiFlow.Shell.Builtin
import ApiFlow.Shell.Program.Edit
import ApiFlow.Shell.Program.Files
import ApiFlow.Shell.Program.Lines
import ApiFlow.Shell.Program.Search
import ApiFlow.Shell.Program.Sum

/-!
# Programs

A program is started by its name.  Some programs do what a command of the shell itself does.

* `Program.find?` gives the program with a name.
-/

set_option autoImplicit false

namespace ApiFlow.Shell.Program

open Acting

/-- The seconds that a time of a wait stands for; a letter behind the number is its unit. -/
def secondsOf? (s : Text) : Option Double :=
  let unit? : Option Nat := match s.getLast? with
    | some 's' => some 1
    | some 'm' => some 60
    | some 'h' => some 3600
    | some 'd' => some 86400
    | _ => none
  let seconds? : Option Double := match unit? with
    | some n => (Double.read? s.dropLast).map fun x => x.mul (Double.ofInt n)
    | none => Double.read? s
  seconds?.filter fun x => !x.lt (Double.zero false)

/-- Waits. -/
def sleep (arguments : List Text) : Acting Unit :=
  withOptions "sleep" 1 { plain := [] } arguments fun o => do
    let times := o.words.map fun w => (w, secondsOf? w)
    let bad := times.filter fun t => t.2.isNone
    if o.words.isEmpty then misused "sleep" 1 "missing operand".toList
    else if !bad.isEmpty then
      bad.forM fun t => complain ("sleep: invalid time interval ".toList ++ quoted t.1)
      complain (hint "sleep")
      setStatus 1
    else
      wait ((times.filterMap Prod.snd).foldl Double.add (Double.zero false))
      setStatus 0

/-- Prints the values of variables that programs know. -/
def printenv (arguments : List Text) : Acting Unit := do
  let scope ← scope
  let known : Table Text := scope.vars.filter fun e => scope.exported.contains e.1
  if arguments.isEmpty then
    sayLines (known.map fun e => e.1 ++ '=' :: e.2)
    setStatus 0
  else
    sayLines (arguments.filterMap known.get?)
    setStatus (if arguments.all known.has then 0 else 1)

/-- Prints the name of the system. -/
def uname (_ : List Text) : Acting Unit := do
  sayLines ["Linux".toList]
  setStatus 0

/-- Prints the name of the user. -/
def whoami (_ : List Text) : Acting Unit := do
  sayLines ["root".toList]
  setStatus 0

/-- The programs that do what a command of the shell itself does. -/
def sameAsBuiltin : List Text := ["[", "false", "kill", "printf", "pwd", "test", "true"].map String.toList

def find? (name : Text) : Option (List Text → Acting Unit) :=
  (lineProgram? name).or <| (fileProgram? name).or <|
    if sameAsBuiltin.contains name then Builtin.find? name
    else match String.ofList name with
      | "sleep" => some sleep
      | "printenv" => some printenv
      | "uname" => some uname
      | "whoami" => some whoami
      | "grep" => some (grep false false)
      | "egrep" => some (grep true false)
      | "fgrep" => some (grep false true)
      | "sed" => some sed
      | "expr" => some expr
      | _ => none

end ApiFlow.Shell.Program
