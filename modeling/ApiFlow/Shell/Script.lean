import ApiFlow.Text.Basic

/-!
# Scripts

A script is a command, or several commands that are joined: one after the other, depending on how the first one ends, or
with the output of one as the input of the next.  Commands are made of words, and a word is made of pieces, which are
quoted or not: plain text, or something that is expanded when the command runs.

A command that is put in place of its output is kept as text: reading checks it where it stands, and running reads it
again with the line that it starts on.

* `Word` is a word, `Script` a script.
* `Misreading` is why a text is no script.
-/

set_option autoImplicit false

namespace ApiFlow.Shell

/-- What an expansion makes of its parameter. -/
inductive Form where
  | plain
  | length
  | choice (sign : Char) (alsoEmpty : Bool)
  | trimmed (front longest : Bool)
  | unknown
  deriving DecidableEq, Repr

inductive Piece where
  | text (s : Text) (quoted : Bool)
  | parameter (name : Text) (form : Form) (argument : List Piece) (quoted : Bool)
  | number (expression : List Piece) (quoted : Bool)
  | output (line : Nat) (command : Text) (quoted : Bool)
  deriving Repr

def Piece.isQuoted : Piece → Bool
  | .text _ q => q
  | .parameter _ _ _ q => q
  | .number _ q => q
  | .output _ _ q => q

abbrev Word := List Piece

namespace Word

def consText (s : Text) (quoted : Bool) : Word → Word
  | .text t q :: w => if q = quoted then .text (s ++ t) q :: w else .text s quoted :: .text t q :: w
  | w => .text s quoted :: w

def bare? : Word → Option Text
  | [] => some []
  | .text s false :: w => (bare? w).map (s ++ ·)
  | _ :: _ => none

def hasQuotes (w : Word) : Bool := w.any Piece.isQuoted

/-- The plain text of a word; expansions give none. -/
def plainText : Word → Text
  | [] => []
  | .text s _ :: w => s ++ plainText w
  | _ :: w => plainText w

end Word

/-! ## Names -/

def startsName (c : Char) : Bool := c.isAlpha || c = '_'

def isNameChar (c : Char) : Bool := c.isAlphanum || c = '_'

def isName (s : Text) : Bool := (s.head?.map startsName).getD false && s.all isNameChar

def isSpecialName (c : Char) : Bool := c.isDigit || ("!#$*-?@".toList).contains c

/-! ## Commands -/

/-- What a redirection does with its descriptor; the text behind a command has a number. -/
inductive Direction where
  | read
  | write (force : Bool)
  | append
  | both
  | copy
  | here (document : Nat)
  deriving DecidableEq, Repr

structure Redirect where
  descriptor : Nat
  direction : Direction
  target : Word
  deriving Repr

/-- A script; commands that report by a line know it. -/
inductive Script where
  | nothing
  | simple (line : Nat) (values : List (Text × Word)) (words : List Word) (redirects : List Redirect)
  | pipe (left right : Script)
  | negated (s : Script)
  | andThen (left right : Script)
  | orElse (left right : Script)
  | sequence (left right : Script)
  | background (s : Script)
  | redirected (line : Nat) (s : Script) (redirects : List Redirect)
  | subshell (s : Script)
  | ifThen (test yes no : Script)
  | loop (until_ : Bool) (test body : Script)
  | forEach (name : Text) (words : List Word) (body : Script)
  | choose (subject : Word) (cases : List (List Word × Script))
  | define (name : Text) (body : Script)
  deriving Repr

/-! ## Errors -/

/-- Why a text is no script. -/
inductive Misreading where
  | openQuote
  | openBrace
  | openSum
  | openAccent
  | badLoop
  | badFunction
  | badDescriptor
  | unexpected (sign : Text) (expected? : Option Text)
  deriving DecidableEq, Repr

/-- What should have stood at a place. -/
def expectation (expected? : Option Text) : Text :=
  match expected? with
  | some s => " (expecting ".toList ++ s ++ ")".toList
  | none => []

def Misreading.message (m : Misreading) : Text :=
  "Syntax error: ".toList ++ match m with
    | openQuote => "Unterminated quoted string".toList
    | openBrace => r"Missing '}'".toList
    | openSum => "Missing '))'".toList
    | openAccent => "EOF in backquote substitution".toList
    | badLoop => "Bad for loop variable".toList
    | badFunction => "Bad function name".toList
    | badDescriptor => "Bad fd number".toList
    | unexpected sign expected? => sign ++ " unexpected".toList ++ expectation expected?

end ApiFlow.Shell
