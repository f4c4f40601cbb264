import ApiFlow.Body.Path
import ApiFlow.Fault
import ApiFlow.Note
import ApiFlow.Variable.Context

/-!
# Captures

A capture entry `name = query` or `name : query` takes a value out of what a step has produced and writes it into a
variable.  For a response the query is a path into the body; for a command it may also be the whole output or one of its
lines, and an empty text is as good as none.

* `parse?` reads an entry.
* `find` looks a query up.
* `harvest` applies the entries of a step one after the other; a fault stops it, and what was written before stays.
-/

set_option autoImplicit false

namespace ApiFlow.Capture

/-- Reads an entry as name and query; an equals sign comes before a colon. -/
def parse? (entry : Text) : Option (Text × Text) :=
  let mark := if entry.contains '=' || !entry.contains ':' then '=' else ':'
  (Text.cutAt? mark entry).map fun p => (Text.trim p.1, Text.trim p.2)

/-- What captures are taken from. -/
inductive Product where
  | body (text : Text)
  | output (text : Text)
  deriving DecidableEq, Repr

def inBody (body query : Text) : Except Fault (Option Text) :=
  match Body.inBody body (Body.normalize (Text.dropStart "body." query)) with
  | .ok value? => .ok (value?.map Json.asText)
  | .error e => .error (.integer e)

/-- The line of an output with the given number, trimmed; empty if there is none. -/
def lineOf (output index : Text) : Except Fault Text :=
  if index.isEmpty || !index.all Text.isDigit then .ok []
  else match Integer.read index with
    | .ok n => .ok (Text.trim (((Text.splitAt '\n' output)[n.toNat]?).getD []))
    | .error e => .error (.integer e)

/-- The text that a query finds in an output; empty if there is none. -/
def inOutput (output query : Text) : Except Fault Text :=
  if query = "$stdout".toList then .ok output
  else if "$line.".toList.isPrefixOf query then lineOf output (query.drop 6)
  else (inBody output query).map (·.getD [])

def find (query : Text) : Product → Except Fault (Option Text)
  | .body text => inBody text query
  | .output text => (inOutput text query).map fun value => if value.isEmpty then none else some value

/-- An applied entry: the variable, its query, and the value unless the query found none. -/
structure Outcome where
  name : Text
  query : Text
  value? : Option Text
  deriving DecidableEq, Repr

/-- What the entries applied so far have brought. -/
structure Harvest where
  context : Context
  outcomes : List Outcome := []
  notes : List Note := []
  fault? : Option Fault := none

def malformedNote (entry step : Text) : Note :=
  ⟨.warning, .captures, "Ignoring malformed capture '" ++ entry ++ "' in step " ++ step⟩

def unresolvedNote (name query step : Text) : Note :=
  ⟨.warning, .captures, "Capture '" ++ name ++ "' in step " ++ step ++ " did not resolve (" ++ query ++ ")"⟩

/-- The note about a captured value. -/
def capturedNote (name value : Text) : Note := ⟨.debug, .captures, "Captured " ++ name ++ " = " ++ value⟩

def Harvest.note (h : Harvest) (n : Note) : Harvest := { h with notes := h.notes ++ [n] }

/-- Takes in a looked-up entry. -/
def Harvest.add (h : Harvest) (step name query : Text) (value? : Option Text) : Harvest :=
  match value? with
  | none =>
    { h.note (unresolvedNote name query step) with outcomes := h.outcomes ++ [⟨name, query, none⟩] }
  | some value =>
    { h.note (capturedNote name value) with
      context := h.context.write name { value, step }
      outcomes := h.outcomes ++ [⟨name, query, some value⟩] }

def Harvest.take (product : Product) (step : Text) (h : Harvest) (entry : Text) : Harvest :=
  if h.fault?.isSome then h
  else match parse? entry with
    | none => h.note (malformedNote entry step)
    | some (name, query) =>
      match find query product with
      | .error fault => { h with fault? := some fault }
      | .ok value? =>
        if name.isEmpty then h.note (malformedNote entry step) else h.add step name query value?

def harvest (product : Product) (step : Text) (context : Context) (entries : List Text) : Harvest :=
  entries.foldl (Harvest.take product step) { context }

end ApiFlow.Capture
