import ApiFlow.Fault
import ApiFlow.Settings.Basic
import ApiFlow.Yaml.Value

/-!
# Reading settings

Settings are read from the entries of a configuration map.  What is missing has its default, and a value that is not of
the form asked for is refused with the place where it stands.  Variables of the environment come before the file.

* `Settings.ofEntries` reads the entries.
* `Settings.override` applies the environment.
-/

set_option autoImplicit false

namespace ApiFlow

/-- Why settings are refused. -/
inductive ConfigError where
  | notMap (place : Text)
  | notSeconds (place value : Text)
  | notPositive (place value : Text)
  | missingFile (path : Path)
  | malformed (path : Path)
  | unreadable (path : Path) (e : Files.Error)
  | notSettings (path : Path)
  deriving DecidableEq, Repr

def ConfigError.message : ConfigError → Text
  | notMap place => place ++ " must be a mapping"
  | notSeconds place value => place ++ " must be a number of seconds, got " ++ value
  | notPositive place value => place ++ " must be positive, got " ++ value
  | missingFile path => "config file not found: " ++ path.text
  | malformed path => "invalid YAML in " ++ path.text
  | unreadable path e => "cannot read " ++ path.text ++ ": " ++ e.message
  | notSettings path => path.text ++ " must contain a mapping"

inductive ConfigStop where
  | refused (e : ConfigError)
  | fault (f : Fault)
  deriving DecidableEq, Repr

namespace Settings

open Yaml (Value)

def refuse {α : Type} (e : ConfigError) : Except ConfigStop α := .error (.refused e)

/-- The entries of a value that must be a map; nothing counts as an empty one. -/
def entriesAt (place : Text) (value? : Option Value) : Except ConfigStop (List (Value × Value)) :=
  match value?.map Value.opened with
  | none => .ok []
  | some .null => .ok []
  | some (.map entries) => .ok entries
  | some _ => refuse (.notMap place)

/-- A text of a value, which has none if it holds an integer with too many digits. -/
def written (text? : Option Text) : Except ConfigStop Text := text?.elim (.error (.fault .integerText)) .ok

/-- A value unless it is false. -/
def unlessFalse (value? : Option Value) : Option Value := value?.filter Value.isTrue

/-- The text of a value; nothing has the empty text. -/
def textOf : Value → Except ConfigStop Text
  | .null => .ok []
  | value => written value.text?

def textsAt (place : Text) (value? : Option Value) : Except ConfigStop (Table Text) := do
  let entries ← entriesAt place value?
  return Table.ofWrites (← entries.mapM fun e => do return (← written e.1.text?, ← textOf e.2))

/-- The double that an integer is nearest to; a too large one is a fault. -/
def doubleOfInt (i : Int) : Except ConfigStop Double :=
  match Double.ofInt i with
  | .infinite _ => .error (.fault .integerTooLarge)
  | x => .ok x

/-- The number of seconds that a text spells. -/
def secondsIn (place : Text) (value : Value) (text? : Option Text) : Except ConfigStop Double :=
  match text?.bind Double.read? with
  | some x => .ok x
  | none => do refuse (.notSeconds place (← written value.nested?))

/-- The number of seconds that a value stands for. -/
def secondsOf (place : Text) (value : Value) : Except ConfigStop Double :=
  match value with
  | .int i => doubleOfInt i
  | .bool b => doubleOfInt (if b then 1 else 0)
  | .real x => .ok x
  | .str s => secondsIn place value (some s)
  | .bytes bs => secondsIn place value (Yaml.Binary.ascii? bs)
  | _ => secondsIn place value none

/-- A timeout, which must be positive. -/
def timeoutOf (place : Text) (value : Value) : Except ConfigStop Double := do
  let seconds ← secondsOf place value
  if seconds.le (Double.zero false) then refuse (.notPositive place (← written value.nested?)) else return seconds

def defaultTimeout (value? : Option Value) : Except ConfigStop Double :=
  match value? with
  | none => .ok (Double.ofInt 30)
  | some .null => .ok (Double.ofInt 30)
  | some value => timeoutOf "defaults.timeout" value

/-- The text of a value, or another one if the value is false or missing. -/
def textOr (usual : Text) (value? : Option Value) : Except ConfigStop Text :=
  match unlessFalse value? with
  | some value => written value.text?
  | none => .ok usual

def environmentOf (key value : Value) : Except ConfigStop (Text × Environment) := do
  let name ← written key.text?
  let place : Text := "environments." ++ name
  let entries ← entriesAt place (unlessFalse (some value))
  let baseUrl ← textOr [] (Value.member? "base_url" entries)
  let values ← textsAt (place ++ ".variables") (Value.member? "variables" entries)
  return (name, { name, baseUrl, values })

def ofEntries (entries : List (Value × Value)) : Except ConfigStop Settings := do
  let activeEnv ← textOr "default" (Value.member? "active_env" entries)
  let logEnabled := ((Value.member? "log_enabled" entries).map Value.isTrue).getD false
  let defaults ← entriesAt "defaults" (unlessFalse (Value.member? "defaults" entries))
  let timeout ← defaultTimeout (Value.member? "timeout" defaults)
  let headers ← textsAt "defaults.headers" (Value.member? "headers" defaults)
  let environments ← entriesAt "environments" (unlessFalse (Value.member? "environments" entries))
  let environments ← environments.mapM fun e => environmentOf e.1 e.2
  return { activeEnv, logEnabled, timeout, headers, environments := Table.ofWrites environments }

def envVariable : Text := "KEST_ENV"

def timeoutVariable : Text := "KEST_HTTP_TIMEOUT"

def levelVariable : Text := "KEST_LOG_LEVEL"

/-- The value of a variable unless it is empty. -/
def given? (env : Table Text) (name : Text) : Option Text := (env.get? name).filter fun v => !v.isEmpty

def override (s : Settings) (env : Table Text) : Except ConfigStop Settings := do
  let s := match given? env envVariable with
    | some active => { s with activeEnv := active }
    | none => s
  match given? env timeoutVariable with
  | some value => return { s with timeout := ← timeoutOf timeoutVariable (.str value) }
  | none => return s

end Settings

end ApiFlow
