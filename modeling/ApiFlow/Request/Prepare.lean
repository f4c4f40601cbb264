import ApiFlow.Address.Query
import ApiFlow.Duration
import ApiFlow.Flow.Basic
import ApiFlow.Request.Basic
import ApiFlow.Settings.Basic
import ApiFlow.Template.Basic

/-!
# Preparing requests

A request template becomes a request: its texts are filled with variables, a relative address goes below the base
address of the environment, queries are appended, and headers are layered: those of the settings, then those of the
flow, then those of the request, where a later one of the same canonical name wins.  A body `@path` is the content of a
file.

* `Preparing.request` gives the request, or says what is missing.
-/

set_option autoImplicit false

namespace ApiFlow

inductive PrepareError where
  | missing (names : List Text)
  | unreadableBody (e : Files.Error)
  deriving DecidableEq, Repr

def PrepareError.message : PrepareError → Text
  | missing names => "required variables not provided: " ++ Text.join ", " names
  | unreadableBody e => "cannot read body file: " ++ e.message

/-- What ends a preparation: an error of the step, or a fault. -/
inductive PrepareStop where
  | refused (e : PrepareError)
  | fault (f : Fault)
  deriving DecidableEq, Repr

/-- A computation that draws values and may end early. -/
abbrev Preparing (α : Type) := ExceptT PrepareStop (StateM Draws) α

namespace Preparing

/-- What texts are filled with, and whether every reference must have a value. -/
structure Filler where
  builtins : Builtins
  vars : Table Text
  strict : Bool

/-- Fills a text; references without a value stay. -/
def fillLoosely (f : Filler) (text : Text) : Preparing Text := ExceptT.mk fun d =>
  let (filled, d) := Template.fill f.builtins f.vars text d
  (.ok filled.text, d)

def fill (f : Filler) (text : Text) : Preparing Text :=
  if f.strict then ExceptT.mk fun d =>
    match Template.fillStrict f.builtins f.vars text d with
    | (.ok filled, d) => (.ok filled, d)
    | (.error names, d) => (.error (.refused (.missing names)), d)
  else fillLoosely f text

def guard {α : Type} (result : Except Fault α) : Preparing α :=
  match result with
  | .ok a => pure a
  | .error e => throw (.fault e)

/-- An address below a base; one that begins with `http` stands for itself. -/
def absolute (base url : Text) : Text :=
  if "http".toList.isPrefixOf url || base.isEmpty then url
  else Text.dropEndWhile (· = '/') base ++ '/' :: url.dropWhile (· = '/')

def address (f : Filler) (base : Text) (t : Flow.RequestTemplate) : Preparing Text := do
  let url := absolute base (← fill f t.url)
  if t.queries.isEmpty then return url
  let queries ← t.queries.mapM (fill f)
  guard ((Address.withEntries url queries).mapError .address)

def defaultHeader (f : Filler) (header : Text × Text) : Preparing (Text × Text) := do
  return (Header.canonical header.1, ← fillLoosely f header.2)

def headers (f : Filler) (defaults flow : Table Text) (t : Flow.RequestTemplate) : Preparing (Table Text) := do
  let defaults ← defaults.mapM (defaultHeader f)
  let flow ← flow.mapM (defaultHeader f)
  let lines ← t.headers.mapM (fill f)
  return Table.ofWrites (defaults ++ flow ++ lines.filterMap Header.ofLine?)

def fileBody (files : Files.Tree) (place : Text) : Preparing (List UInt8) :=
  match files.read (Path.ofText (Text.trim place)) with
  | .ok bytes => pure bytes
  | .error .nullCharacter => throw (.fault (.file .nullCharacter))
  | .error e => throw (.refused (.unreadableBody e))

def body (f : Filler) (files : Files.Tree) (t : Flow.RequestTemplate) : Preparing (List UInt8) := do
  if t.body.isEmpty then return []
  match ← fill f t.body with
  | '@' :: place => fileBody files place
  | data => return Utf8.encode data

/-- The time limit of a request in seconds. -/
def timeout (settings : Settings) (maxDurationMs : Int) : Except Fault Double :=
  if 0 < maxDurationMs then Duration.seconds maxDurationMs else .ok settings.timeout

def request (settings : Settings) (files : Files.Tree) (f : Filler) (flowHeaders : Table Text) (maxDurationMs : Int)
    (t : Flow.RequestTemplate) : Preparing Request := do
  let url ← address f settings.environment.baseUrl t
  let headers ← headers f settings.headers flowHeaders t
  let body ← body f files t
  let timeout ← guard (timeout settings maxDurationMs)
  return { method := Text.upper t.method, url, headers, body, timeout }

end Preparing

end ApiFlow
