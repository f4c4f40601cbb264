import ApiFlow.Flow.Basic
import ApiFlow.Note
import ApiFlow.Text.Case
import ApiFlow.Text.Quoted

/-!
# Fenced blocks

A line whose trimmed text starts with three backticks or three tildes opens a block; the next line that starts with the
same three characters closes it.  The lines between are kept as they are.  A block that is never closed is no block.

* `blocks` gives the closed blocks of a text in order.
* `unclosed?` gives the block that is still open at the end.
-/

set_option autoImplicit false

namespace ApiFlow.Flow

/-- The two fences. -/
def fences : List Text := [List.replicate 3 (Char.ofNat 96), List.replicate 3 '~']

/-- The fence that a trimmed line starts with. -/
def fenceOf? (trimmed : Text) : Option Text := fences.find? (·.isPrefixOf trimmed)

/-- An open block: its fence and what is known of it so far. -/
structure OpenBlock where
  fence : Text
  kind : Text
  info : Text
  line : Nat
  body : List Text
  deriving DecidableEq, Repr

def OpenBlock.start (fence trimmed : Text) (line : Nat) : OpenBlock :=
  match Text.firstWord? (Text.trim (trimmed.drop fence.length)) with
  | some (word, rest) => ⟨fence, Text.lower word, rest, line, []⟩
  | none => ⟨fence, [], [], line, []⟩

def OpenBlock.close (b : OpenBlock) : Block := ⟨b.kind, b.info, b.line, Text.join ['\n'] b.body⟩

/-- The blocks of numbered lines, from inside the given block if one is open, and the block open at the end. -/
def scanBlocks : (open? : Option OpenBlock) → (number : Nat) → List Text → List Block × Option OpenBlock
  | open?, _, [] => ([], open?)
  | none, number, line :: lines =>
    match fenceOf? (Text.trim line) with
    | none => scanBlocks none (number + 1) lines
    | some fence => scanBlocks (some (.start fence (Text.trim line) number)) (number + 1) lines
  | some b, number, line :: lines =>
    if b.fence.isPrefixOf (Text.trim line) then
      let (rest, last) := scanBlocks none (number + 1) lines
      (b.close :: rest, last)
    else scanBlocks (some { b with body := b.body ++ [line] }) (number + 1) lines

def blocks (content : Text) : List Block := (scanBlocks none 1 (Text.lines content)).1

/-- The block of a text that is never closed. -/
def unclosed? (content : Text) : Option OpenBlock := (scanBlocks none 1 (Text.lines content)).2

/-- The note about a block that is never closed. -/
def fenceNotes (content : Text) : List Note :=
  match unclosed? content with
  | none => []
  | some b =>
    [⟨.warning, .fences, "Unterminated " ++ Text.quoted b.kind ++ " block starting at line "
      ++ Text.ofNat b.line ++ " was ignored"⟩]

end ApiFlow.Flow
