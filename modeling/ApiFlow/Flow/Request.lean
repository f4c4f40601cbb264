import ApiFlow.Flow.Basic
import ApiFlow.Flow.Directive
import ApiFlow.Text.Arguments

/-!
# Reading requests and commands

A request is a line with method and address, header lines, and after a blank line the body.  The lines `[Queries]`,
`[Headers]`, `[Captures]` and `[Asserts]` open sections.  A command is free text, with `[Captures]` at its end.

* `RequestTemplate.ofBlock` reads a request or says why there is none.
* `CommandTemplate.ofBlock` reads a command.
-/

set_option autoImplicit false

namespace ApiFlow.Flow

inductive RequestError where
  | emptyBlock
  | requestLine (line : Text)
  deriving DecidableEq, Repr

def RequestError.message : RequestError → Text
  | .emptyBlock => "empty block"
  | .requestLine line => "invalid request line: " ++ line

/-- The parts of a request below its first line. -/
inductive RequestSection where
  | headers
  | queries
  | body
  | captures
  | asserts
  deriving DecidableEq, Repr

/-- The line that opens the captures. -/
def capturesMark : Text := "[Captures]"

/-- The line that opens the assertions. -/
def assertsMark : Text := "[Asserts]"

/-- The line that opens the query entries. -/
def queriesMark : Text := "[Queries]"

/-- The line that opens further headers. -/
def headersMark : Text := "[Headers]"

/-- The section that a trimmed line opens. -/
def sectionOf? (trimmed : Text) : Option RequestSection :=
  if trimmed = capturesMark then some .captures
  else if trimmed = assertsMark then some .asserts
  else if trimmed = queriesMark then some .queries
  else if trimmed = headersMark then some .headers
  else none

/-- Whether a trimmed line is blank or a comment. -/
def isIdle (trimmed : Text) : Bool := trimmed.isEmpty || isComment trimmed

/-- A query entry without blanks around its name and value. -/
def tidyQuery (entry : Text) : Text :=
  match Text.cutAt? '=' entry with
  | some (name, value) => Text.trim name ++ '=' :: Text.trim value
  | none => entry

/-- Whether a trimmed line below the headers already belongs to the body. -/
def startsBody (trimmed : Text) : Bool :=
  trimmed.head? = some '{' || trimmed.head? = some '[' || !trimmed.contains ':'

/-- A request being read: its lines of body, the section, and the fields. -/
structure RequestDraft where
  part : RequestSection
  body : List Text
  template : RequestTemplate
  deriving DecidableEq, Repr

def RequestDraft.line (d : RequestDraft) (line : Text) : RequestDraft :=
  let trimmed := Text.trim line
  let t := d.template
  match sectionOf? trimmed with
  | some part => { d with part }
  | none =>
    match d.part with
    | .headers =>
      if trimmed.isEmpty then { d with part := .body }
      else if isComment trimmed then d
      else if startsBody trimmed then { d with part := .body, body := d.body ++ [line] }
      else { d with template := { t with headers := t.headers ++ [trimmed] } }
    | .queries =>
      if trimmed.isEmpty then { d with part := .body }
      else if isComment trimmed then d
      else { d with template := { t with queries := t.queries ++ [tidyQuery trimmed] } }
    | .body => { d with body := d.body ++ [line] }
    | .captures =>
      if isIdle trimmed then d
      else { d with template := { t with captures := t.captures ++ [trimmed] } }
    | .asserts =>
      if isIdle trimmed then d
      else { d with template := { t with asserts := t.asserts ++ [trimmed] } }

/-- The request with its body put together. -/
def RequestDraft.finish (d : RequestDraft) : RequestTemplate :=
  { d.template with body := Text.trim (Text.join ['\n'] d.body) }

def RequestTemplate.ofBlock (raw : Text) : Except RequestError RequestTemplate :=
  match (Text.splitAt '\n' raw).dropWhile (fun line => isIdle (Text.trim line)) with
  | [] => .error .emptyBlock
  | first :: lines =>
    match Text.arguments (Text.trim first) with
    | method :: url :: _ =>
      .ok (lines.foldl RequestDraft.line ⟨.headers, [], { method := Text.upper method, url }⟩).finish
    | _ => .error (.requestLine (Text.trim first))

/-- A capture entry without a comment behind it. -/
def withoutComment (entry : Text) : Text := Text.trim (entry.takeWhile (· != '#'))

/-- A capture entry of a command block, unless the line is blank or a comment. -/
def captureEntry? (line : Text) : Option Text :=
  let trimmed := Text.trim line
  if trimmed = capturesMark || isIdle trimmed then none else some (withoutComment trimmed)

/-- Reads a command block: the text before the captures and the capture entries. -/
def CommandTemplate.ofBlock (raw : Text) : CommandTemplate :=
  let (command, rest) := (Text.splitAt '\n' raw).span fun line => Text.trim line != capturesMark
  { command := Text.trim (Text.join ['\n'] command)
    captures := rest.filterMap captureEntry? }

end ApiFlow.Flow
