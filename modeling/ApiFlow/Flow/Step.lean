import ApiFlow.Flow.Request

/-!
# Reading steps and edges

A step block starts with directives, comments and blank lines; the first other line begins its content, in which a line
`@…` is plain text.  The content is a request or a command, with captures and assertions at its end.

* `headLines` and `contentLines` split a block there.
* `StepHeader.apply` is the effect of one directive.
* `Step.ofBlock` reads a step; it gives warnings for what it passes over, and stops at a number that cannot be read.
* `Edge.ofBlock` reads an edge.
-/

set_option autoImplicit false

namespace ApiFlow.Flow

/-- A number that stops the reading, and the warnings given before it. -/
structure Interrupted where
  error : Integer.ReadError
  warnings : List Text
  deriving DecidableEq, Repr

/-- Whether a line stands in front of the content of a step. -/
def isHeadLine (line : Text) : Bool := isIdle (Text.trim line) || isDirective (Text.trim line)

def headLines (raw : Text) : List Text := (Text.splitAt '\n' raw).takeWhile isHeadLine

/-- The lines of the content. -/
def contentLines (raw : Text) : List Text := (Text.splitAt '\n' raw).dropWhile isHeadLine

/-- What the directives of a step have set so far: its type and the other settings. -/
structure HeadDraft where
  type : Text := "http"
  header : StepHeader := {}
  warnings : List Text := []
  deriving DecidableEq, Repr

/-- Sets a field to the number in front of a value. -/
def HeadDraft.number (d : HeadDraft) (value : Text) (set : StepHeader → Nat → StepHeader) :
    Except Interrupted HeadDraft :=
  match leadingNumber value with
  | .ok n => .ok { d with header := set d.header n }
  | .error error => .error ⟨error, d.warnings⟩

/-- The warning for a directive without effect. -/
def onFailWarning (line : Nat) : Text :=
  "@on-fail is not yet implemented (line " ++ Text.ofNat line ++ "), ignoring"

/-- Applies a directive of a block that starts at `line`. -/
def HeadDraft.apply (line : Nat) (d : HeadDraft) : Text × Text → Except Interrupted HeadDraft
  | (key, value) =>
    let h := d.header
    if key = "id".toList then .ok { d with header := { h with id := value } }
    else if key = "name".toList then .ok { d with header := { h with name := value } }
    else if key = "type".toList then .ok { d with type := Text.lower value }
    else if key = "retry".toList then d.number value fun h n => { h with retry := n }
    else if key = "retry-wait".toList then d.number value fun h n => { h with retryWaitMs := n }
    else if key = "max-duration".toList then d.number value fun h n => { h with maxDurationMs := n }
    else if key = "wait".toList then d.number value fun h n => { h with waitMs := n }
    else if key = "timeout".toList then d.number value fun h n => { h with timeoutMs := n }
    else if key = "poll-timeout".toList then d.number value fun h n => { h with pollTimeoutMs := n }
    else if key = "poll-interval".toList then d.number value fun h n => { h with pollIntervalMs := n }
    else if key = "on-fail".toList then
      .ok { d with header := { h with onFail := value }, warnings := d.warnings ++ [onFailWarning line] }
    else .ok d

/-- The directives among the lines in front of the content. -/
def headDirectives (raw : Text) : List (Text × Text) :=
  (((headLines raw).map Text.trim).filter isDirective).map directive

structure ContentDraft where
  part : RequestSection := .headers
  request : List Text := []
  captures : List Text := []
  asserts : List Text := []
  deriving DecidableEq, Repr

/-- Takes in one line of content; `headers` stands for the part before the captures. -/
def ContentDraft.line (d : ContentDraft) (line : Text) : ContentDraft :=
  let trimmed := Text.trim line
  if trimmed = capturesMark then { d with part := .captures }
  else if trimmed = assertsMark then { d with part := .asserts }
  else match d.part with
    | .captures => if isIdle trimmed then d else { d with captures := d.captures ++ [trimmed] }
    | .asserts => if isIdle trimmed then d else { d with asserts := d.asserts ++ [trimmed] }
    | _ => { d with request := d.request ++ [line] }

def ContentDraft.ofBlock (raw : Text) : ContentDraft := (contentLines raw).foldl ContentDraft.line {}

/-- The text in front of the captures. -/
def ContentDraft.requestText (d : ContentDraft) : Text := Text.trim (Text.join ['\n'] d.request)

def ContentDraft.command (d : ContentDraft) : CommandTemplate :=
  let c := CommandTemplate.ofBlock d.requestText
  { c with captures := c.captures ++ d.captures.map withoutComment, asserts := c.asserts ++ d.asserts }

/-- The request of a step, and a warning if there is none to be read. -/
def ContentDraft.send (d : ContentDraft) (line : Nat) : RequestTemplate × List Text :=
  let (r, warnings) :=
    if d.requestText.isEmpty then (({} : RequestTemplate), [])
    else match RequestTemplate.ofBlock d.requestText with
      | .ok r => (r, [])
      | .error e => ({}, ["step at line " ++ Text.ofNat line ++ ": " ++ e.message])
  ({ r with captures := r.captures ++ d.captures, asserts := r.asserts ++ d.asserts }, warnings)

/-- The warning for a type that no step has. -/
def typeWarnings (type : Text) (line : Nat) : List Text :=
  if type.isEmpty || type = "http".toList || type = "exec".toList then []
  else ["unknown step type '" ++ type ++ "' at line " ++ Text.ofNat line ++ ", treating as http"]

/-- Reads a step block; the warnings are in the order in which they arise. -/
def Step.ofBlock (raw : Text) (line : Nat) : Except Interrupted (Step × List Text) :=
  match (headDirectives raw).foldlM (HeadDraft.apply line) ({} : HeadDraft) with
  | .error e => .error e
  | .ok head =>
    let content := ContentDraft.ofBlock raw
    if head.type = "exec".toList then
      .ok ({ head.header with line, raw, action := .run content.command }, head.warnings)
    else
      let (request, warnings) := content.send line
      .ok ({ head.header with line, raw, action := .send request },
        head.warnings ++ typeWarnings head.type line ++ warnings)

/-- The last value of a directive in a block. -/
def lastValue (raw key : Text) : Text :=
  ((((Text.splitAt '\n' raw).map Text.trim).filter isDirective).map directive).foldl
    (fun value d => if d.1 = key then d.2 else value) []

def Edge.ofBlock (raw : Text) (line : Nat) : Edge where
  source := lastValue raw "from"
  target := lastValue raw "to"
  condition := lastValue raw "on"
  line := line

end ApiFlow.Flow
