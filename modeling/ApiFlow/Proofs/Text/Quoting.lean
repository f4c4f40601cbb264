import ApiFlow.Proofs.Text.Fields

/-!
# Every way of writing arguments

An argument is written as a row of pieces.  A bare piece holds neither separators nor quotes; a quoted one stands between
two equal quotes and holds anything else than that quote.  An argument that is written this way shows: it has a character,
or at least a pair of quotes.  On a line the arguments stand with separators between them, and there may be more of them
at both ends.

Such a line is split into just these arguments, the empty ones among them, and every list of arguments can be written so.

* `Piece`, `Word`, `Line` : how arguments are written.
* `argumentsFrom_pieces`, `argumentsFrom_word` : the pieces of an argument are put together again.
* `argumentsFrom_spread` : separators end an argument.
* `arguments_written` : splitting a line is the inverse of writing it.
-/

set_option autoImplicit false

namespace ApiFlow.Arguments

open Text (isQuote isSeparator argumentsFrom)

/-! ## Writing -/

/-- A part of a written argument. -/
inductive Piece where
  | bare (text : Text) (free : Text.Bare text)
  | quoted (mark : Char) (text : Text) (quote : isQuote mark = true) (free : mark ∉ text)

namespace Piece

/-- What a piece stands for. -/
def text : Piece → Text
  | bare text _ => text
  | quoted _ text _ _ => text

/-- How a piece is written. -/
def written : Piece → Text
  | bare text _ => text
  | quoted mark text _ _ => mark :: (text ++ [mark])

/-- Whether a piece stands between quotes. -/
def isQuoted : Piece → Bool
  | bare _ _ => false
  | quoted _ _ _ _ => true

end Piece

/-- What a row of pieces stands for. -/
def textOf (pieces : List Piece) : Text := pieces.flatMap Piece.text

/-- How a row of pieces is written. -/
def writtenOf (pieces : List Piece) : Text := pieces.flatMap Piece.written

/-- A row of pieces shows if it stands for a character or has quotes. -/
def Shows (pieces : List Piece) : Prop := textOf pieces = [] → ∃ piece ∈ pieces, piece.isQuoted = true

/-- A written argument. -/
structure Word where
  pieces : List Piece
  shows : Shows pieces

/-- The argument that was written. -/
def Word.text (w : Word) : Text := textOf w.pieces

/-- How the argument is written. -/
def Word.written (w : Word) : Text := writtenOf w.pieces

/-- Separators at an end of a line. -/
structure Padding where
  text : Text
  separates : ∀ c ∈ text, isSeparator c = true

/-- Separators between two arguments. -/
structure Gap extends Padding where
  wide : text ≠ []

/-- A line of arguments. -/
inductive Line where
  | blank (padding : Padding)
  | words (front : Padding) (first : Word) (rest : List (Gap × Word)) (back : Padding)

/-- Further arguments of a line, each behind a gap. -/
def spread (rest : List (Gap × Word)) : Text := rest.flatMap fun next => next.1.text ++ next.2.written

/-- How a line is written. -/
def Line.text : Line → Text
  | blank padding => padding.text
  | words front first rest back => front.text ++ (first.written ++ (spread rest ++ back.text))

/-- The arguments that were written on a line. -/
def Line.arguments : Line → List Text
  | blank _ => []
  | words _ first rest _ => first.text :: rest.map fun next => next.2.text

/-! ## Pieces -/

variable {pieces : List Piece} {s : Text}

/-- A quoted run ends at the next copy of its quote. -/
theorem argumentsFrom_quoted {mark : Char} (free : mark ∉ s) (begun rest : Text) :
    argumentsFrom (some mark) (some begun) (s ++ mark :: rest) = argumentsFrom none (some (begun ++ s)) rest := by
  induction s generalizing begun with
  | nil => rw [List.nil_append, argumentsFrom, if_pos rfl, List.append_nil]
  | cons c s ih =>
      obtain ⟨other, free⟩ := List.ne_and_not_mem_of_not_mem_cons free
      rw [List.cons_append, argumentsFrom, if_neg (Ne.symm other), Option.getD_some, ih free, List.append_assoc,
        List.singleton_append]

/-- **A piece** goes to the end of an argument that has been begun. -/
theorem argumentsFrom_piece (piece : Piece) (begun rest : Text) :
    argumentsFrom none (some begun) (piece.written ++ rest) = argumentsFrom none (some (begun ++ piece.text)) rest := by
  cases piece with
  | bare text free => exact Text.argumentsFrom_append free begun rest
  | quoted mark text quote free =>
      have whole : (Piece.quoted mark text quote free).written ++ rest = mark :: (text ++ mark :: rest) := by
        simp [Piece.written]
      rw [whole, argumentsFrom, if_pos quote, Option.getD_some, argumentsFrom_quoted free]
      rfl

theorem argumentsFrom_pieces (pieces : List Piece) (begun rest : Text) :
    argumentsFrom none (some begun) (writtenOf pieces ++ rest) =
      argumentsFrom none (some (begun ++ textOf pieces)) rest := by
  induction pieces generalizing begun with
  | nil => rw [textOf, List.flatMap_nil, List.append_nil]; rfl
  | cons piece pieces ih =>
      rw [writtenOf, List.flatMap_cons, List.append_assoc, argumentsFrom_piece]
      rw [← writtenOf, ih, textOf, textOf, List.flatMap_cons, List.append_assoc]

/-- A piece that has a character or quotes begins an argument. -/
theorem argumentsFrom_first {piece : Piece} (shows : piece.text = [] → piece.isQuoted = true) (rest : Text) :
    argumentsFrom none none (piece.written ++ rest) = argumentsFrom none (some piece.text) rest := by
  cases piece with
  | bare text free => exact Text.argumentsFrom_begin (fun none => Bool.false_ne_true (shows none)) free rest
  | quoted mark text quote free =>
      -- behind its first quote the piece is read as one that goes to the end of an empty argument
      have begins : argumentsFrom none none ((Piece.quoted mark text quote free).written ++ rest) =
          argumentsFrom none (some []) ((Piece.quoted mark text quote free).written ++ rest) := by
        rw [Piece.written, List.cons_append, argumentsFrom, argumentsFrom, if_pos quote, if_pos quote]
        rfl
      rw [begins, argumentsFrom_piece, List.nil_append]

/-- **A written argument** is put together from its pieces. -/
theorem argumentsFrom_word (shows : Shows pieces) (rest : Text) :
    argumentsFrom none none (writtenOf pieces ++ rest) = argumentsFrom none (some (textOf pieces)) rest := by
  induction pieces with
  | nil =>
      obtain ⟨_, none, -⟩ := shows rfl
      cases none
  | cons piece pieces ih =>
      rw [writtenOf, List.flatMap_cons, List.append_assoc, ← writtenOf, textOf, List.flatMap_cons, ← textOf]
      by_cases first : piece.text = [] → piece.isQuoted = true
      · rw [argumentsFrom_first first, argumentsFrom_pieces]
      · -- a bare piece without a character leaves no trace
        obtain ⟨empty, bare⟩ := Classical.not_imp.mp first
        have others : Shows pieces := by
          intro none
          obtain ⟨quoted, listed, isQuoted⟩ := shows (by rw [textOf, List.flatMap_cons, empty, List.nil_append]; exact none)
          rcases List.mem_cons.mp listed with rfl | listed
          · exact absurd isQuoted bare
          · exact ⟨quoted, listed, isQuoted⟩
        have nothing : piece.written = [] := by
          cases piece with
          | bare text free => exact empty
          | quoted mark text quote free => exact absurd rfl bare
        rw [nothing, empty, List.nil_append, List.nil_append, ih others]

/-! ## Separators -/

theorem not_isQuote {c : Char} (separator : isSeparator c = true) : isQuote c = false := by
  rcases Bool.or_eq_true_iff.mp separator with space | tab
  · rw [of_decide_eq_true space]
    decide
  · rw [of_decide_eq_true tab]
    decide

theorem argumentsFrom_padding (padding : Padding) (rest : Text) :
    argumentsFrom none none (padding.text ++ rest) = argumentsFrom none none rest := by
  obtain ⟨s, separates⟩ := padding
  induction s with
  | nil => rfl
  | cons c s ih =>
      obtain ⟨here, others⟩ := List.forall_mem_cons.mp separates
      rw [List.cons_append, argumentsFrom, if_neg (by simp [not_isQuote here]), if_pos here]
      exact ih others

/-- **Separators end an argument.** -/
theorem argumentsFrom_gap {padding : Padding} (wide : padding.text ≠ []) (argument rest : Text) :
    argumentsFrom none (some argument) (padding.text ++ rest) = argument :: argumentsFrom none none rest := by
  obtain ⟨s, separates⟩ := padding
  obtain ⟨c, s, rfl⟩ := List.exists_cons_of_ne_nil wide
  obtain ⟨here, others⟩ := List.forall_mem_cons.mp separates
  have behind := argumentsFrom_padding ⟨s, others⟩ rest
  rw [List.cons_append, argumentsFrom, if_neg (by simp [not_isQuote here]), if_pos here, behind]
  rfl

theorem argumentsFrom_back (back : Padding) (argument : Text) :
    argumentsFrom none (some argument) back.text = [argument] := by
  by_cases none : back.text = []
  · rw [none]
    rfl
  · have ended := argumentsFrom_gap none argument []
    rwa [List.append_nil] at ended

/-- **Each gap ends an argument**, and the line ends the last one. -/
theorem argumentsFrom_spread (argument : Text) (rest : List (Gap × Word)) (back : Padding) :
    argumentsFrom none (some argument) (spread rest ++ back.text) = argument :: rest.map fun next => next.2.text := by
  induction rest generalizing argument with
  | nil => exact argumentsFrom_back back argument
  | cons next rest ih =>
      obtain ⟨gap, word⟩ := next
      have whole : spread ((gap, word) :: rest) ++ back.text =
          gap.text ++ (writtenOf word.pieces ++ (spread rest ++ back.text)) := by
        simp [spread, Word.written]
      rw [whole, argumentsFrom_gap gap.wide, argumentsFrom_word word.shows, ih, List.map_cons]
      rfl

/-! ## Lines -/

/-- A character between quotes of the other kind. -/
def Piece.ofChar (c : Char) : Piece :=
  if double : c = '"' then .quoted '\'' [c] rfl (by simp [double])
  else .quoted '"' [c] rfl (by simpa using Ne.symm double)

theorem Piece.text_ofChar (c : Char) : (ofChar c).text = [c] := by
  unfold ofChar
  split <;> rfl

/-- An argument with each character between quotes, and an empty pair of quotes in front. -/
def Word.ofText (s : Text) : Word where
  pieces := .quoted '"' [] rfl List.not_mem_nil :: s.map Piece.ofChar
  shows _ := ⟨_, List.mem_cons_self, rfl⟩

theorem Word.text_ofText (s : Text) : (ofText s).text = s := by
  have each : (s.map Piece.ofChar).flatMap Piece.text = s := by
    rw [List.flatMap_map]
    simp only [Piece.text_ofChar, List.flatMap_singleton']
  rw [text, textOf, ofText, List.flatMap_cons, each]
  rfl

/-- **Every list of arguments can be written.** -/
theorem exists_line (args : List Text) : ∃ line : Line, line.arguments = args := by
  have nowhere : Padding := ⟨[], List.forall_mem_nil _⟩
  cases args with
  | nil => exact ⟨.blank nowhere, rfl⟩
  | cons first rest =>
      have space : ∀ c ∈ [' '], isSeparator c = true := fun c listed => by
        rw [List.mem_singleton.mp listed]
        rfl
      have gap : Gap := ⟨⟨[' '], space⟩, List.cons_ne_nil _ _⟩
      refine ⟨.words nowhere (.ofText first) (rest.map fun s => (gap, .ofText s)) nowhere, ?_⟩
      simp [Line.arguments, Word.text_ofText, Function.comp_def]

/-- **Splitting a line is the inverse of writing it**: whatever pieces, quotes and separators a line is written with, it is
split into the arguments that were written, and every list of arguments can be written. -/
theorem arguments_written :
    (∀ line : Line, Text.arguments line.text = line.arguments) ∧ ∀ args, ∃ line : Line, line.arguments = args := by
  refine ⟨fun line => ?_, exists_line⟩
  cases line with
  | blank padding =>
      have nothing := argumentsFrom_padding padding []
      rw [List.append_nil] at nothing
      exact nothing
  | words front first rest back =>
      rw [Text.arguments, Line.text, argumentsFrom_padding, Word.written, argumentsFrom_word first.shows,
        argumentsFrom_spread]
      rfl

/-- Pieces of all kinds side by side, and an empty argument behind them. -/
example : Text.arguments " -H\"a b\"'\"c' \t''  ".toList = ["-Ha b\"c".toList, []] := by decide

end ApiFlow.Arguments
