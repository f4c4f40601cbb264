import ApiFlow.Json.Parser
import ApiFlow.Json.Printer
import ApiFlow.Summary.Basic
import ApiFlow.Text.Class

/-!
# The summary table

A box of fixed width with a row for each result, the first line of its error and a sample of its body, and the figures
of the run below.

* `row` fits a content into the box.
* `Summary.render` writes the whole table and the line behind it.
-/

set_option autoImplicit false

namespace ApiFlow

namespace SummaryTable

def boxWidth : Nat := 69

/-- The most lines of a body that are shown. -/
def sampleLines : Nat := 5

/-- A text on at most so many characters, with three dots in place of what is cut off.  Where there is no room for the
dots the text is just cut; a negative room counts from its end. -/
def truncate (text : Text) (room : Int) : Text :=
  if (text.length : Int) ≤ room then text
  else if room < 0 then text.take (text.length - room.natAbs)
  else if room ≤ 3 then text.take room.toNat
  else text.take (room.toNat - 3) ++ "..."

/-- A JSON text on several lines; another text as it is. -/
def pretty (text : Text) : Text :=
  match Json.decode? text with
  | some value => value.indented
  | none => text

def row (content : Text) : Text := "│ " ++ Text.padRight (boxWidth - 2) content ++ " │"

def border (left right : Text) : Text := left ++ List.replicate boxWidth '─' ++ right

/-- The sign in front of a result. -/
def mark (success : Bool) : Text := if success then "✓" else "✗"

def firstOf (first second : Text) : Text := if first.isEmpty then second else first

def resultRow (r : StepResult) : Text :=
  row (mark r.success ++ ' ' :: r.start.text ++ " [" ++ r.method ++ "] "
    ++ Text.padRight 30 (truncate (firstOf r.url r.name) 30) ++ ' ' :: Text.padLeft 6 (Text.ofInt r.durationMs) ++ "ms")

/-- The lines of a body that are shown. -/
def sample (body : Text) : List Text :=
  let lines := Text.splitAt '\n' (pretty body)
  if sampleLines < lines.length then lines.take sampleLines ++ [("..." : Text)] else lines

def bodyRows (body : Text) : List Text :=
  if body.isEmpty then []
  else row "    Response Body Sample:" :: (sample body).map fun line => row ("      " ++ truncate line 60)

def errorRows (r : StepResult) : List Text :=
  if r.error.isEmpty then []
  else row ("    Error: " ++ truncate ((Text.lines r.error).head?.getD []) 54) :: bodyRows r.body

def countRow (s : Summary) : Text :=
  row ("Total: " ++ Text.ofNat s.total ++ "  │  Passed: " ++ Text.ofNat s.passed ++ "  │  Failed: "
    ++ Text.ofNat s.failed ++ "  │  Time: " ++ Text.ofInt s.totalMs ++ "ms")

def latencyRows (s : Summary) : List Text :=
  if s.results.isEmpty then []
  else [row ("Slowest: " ++ Text.ofInt (Latency.slowest s.durations) ++ "ms  │  P95: "
    ++ Text.ofInt (Latency.percentile s.durations) ++ "ms")]

def skippedRows (s : Summary) : List Text :=
  if s.skipped.isEmpty then []
  else [row ("Skipped: " ++ Text.ofNat s.skipped.length ++ " (" ++ truncate (Text.join ", " s.skipped) 50 ++ ")")]

/-- The row with the title in the middle. -/
def titleRow : Text := row (List.replicate 28 ' ' ++ "TEST SUMMARY")

def boxLines (s : Summary) : List Text :=
  [border "╭" "╮", titleRow, border "├" "┤"]
    ++ s.results.flatMap (fun r => resultRow r :: errorRows r)
    ++ [border "├" "┤", countRow s, row ("Elapsed: " ++ Text.ofInt (s.elapsedMs?.getD 0) ++ "ms")]
    ++ latencyRows s ++ skippedRows s ++ [border "╰" "╯"]

def verdictLine (s : Summary) : Text :=
  if s.failed = 0 then "\n✓ All tests passed!" else "\n✗ " ++ Text.ofNat s.failed ++ " test(s) failed"

end SummaryTable

def Summary.render (s : Summary) : Text :=
  Text.join ['\n'] (SummaryTable.boxLines s ++ [SummaryTable.verdictLine s])

end ApiFlow
