import ApiFlow.Shell.Script

/-!
# Reading scripts

A text is read a line at a time: the commands of a line are known as a whole before the next line is looked at, so an
error on a later line does not keep the earlier ones from running.  A backslash at the end of a line hides the line end
everywhere but between single quotes.

Words that close or continue a command are reserved only where a command may start; elsewhere they are plain words.  The
texts behind a command are read at the end of its line, and a redirection knows them by their number.

Every step either takes a character or goes down one level of the grammar, so a bound from the length of the text is
enough for all of them.

* `Source.nextLine` reads the commands of the next line.
* `Source.whole` reads all commands at once.
-/

set_option autoImplicit false

namespace ApiFlow.Shell

/-- A word, a sign or the end; a redirection comes with the sign that it is written with. -/
inductive Token where
  | word (w : Word)
  | reserved (s : Text)
  | sign (s : Text)
  | redirect (descriptor : Nat) (written : Text)
  | newline
  | finish
  deriving Repr

namespace Token

def reservedWords : List Text :=
  ["!", r"{", r"}", "case", "do", "done", "elif", "else", "esac", "fi", "for", "if", "in", "then", "until",
    "while"].map String.toList

def asReserved (t : Token) : Token :=
  match t with
  | .word w =>
    match (if w.hasQuotes then none else w.bare?).filter reservedWords.contains with
    | some s => .reserved s
    | none => t
  | _ => t

def isSign (t : Token) (s : String) : Bool :=
  match t with
  | .sign r => r = s.toList
  | _ => false

def isReserved (t : Token) (s : String) : Bool :=
  match t with
  | .reserved r => r = s.toList
  | _ => false

/-- A sign or a reserved word as an error shows it. -/
def inQuotes (s : Text) : Text := '"' :: s ++ ['"']

def shown : Token → Text
  | .word _ => "word".toList
  | .reserved s => inQuotes s
  | .sign s => inQuotes s
  | .redirect _ _ => "redirection".toList
  | .newline => "newline".toList
  | .finish => "end of file".toList

/-- Whether commands inside others end in front of a token. -/
def closes : Token → Bool
  | .finish => true
  | .sign s => [")", ";;"].contains (String.ofList s)
  | .reserved s =>
    [r"}", "do", "done", "elif", "else", "esac", "fi", "then"].contains (String.ofList s)
  | _ => false

end Token

/-- A text behind a command that is still to be read, with the line that ends it. -/
structure Waiting where
  number : Nat
  mark : Text
  literal : Bool
  dropTabs : Bool
  deriving Repr

/-- What is left of a text, and what has been found in it. -/
structure Source where
  rest : Text
  line : Nat := 1
  back? : Option Token := none
  waiting : List Waiting := []
  documents : List (Nat × Word) := []
  nextDocument : Nat := 0
  deriving Repr

/-- A misreading with its line. -/
abbrev Reading := StateT Source (Except (Misreading × Nat))

namespace Reading

/-! ## Characters -/

/-- A text behind line ends that are hidden, with its line. -/
def unhidden : (line : Nat) → Text → Nat × Text
  | line, '\\' :: '\n' :: s => unhidden (line + 1) s
  | line, s => (line, s)

/-- The next character, which is not a hidden line end. -/
def peek : Reading (Option Char) := do
  let s ← get
  let (line, rest) := unhidden s.line s.rest
  set { s with line, rest }
  return rest.head?

def peekRaw : Reading (Option Char) := return (← get).rest.head?

/-- Moves behind the next character. -/
def advance : Reading Unit := modify fun s =>
  match s.rest with
  | '\n' :: rest => { s with rest, line := s.line + 1 }
  | _ :: rest => { s with rest }
  | [] => s

def fail {α : Type} (m : Misreading) : Reading α := do throw (m, (← get).line)

/-- The characters here that go on as told. -/
def takeWhile (p : Char → Bool) : (fuel : Nat) → Reading Text
  | 0 => return []
  | fuel + 1 => do
    match ← peek with
    | some c =>
      if p c then
        advance
        return c :: (← takeWhile p fuel)
      else return []
    | none => return []

def singleQuoted : (fuel : Nat) → Reading Text
  | 0 => fail .openQuote
  | fuel + 1 => do
    match ← peekRaw with
    | none => fail .openQuote
    | some c => do
      advance
      if c = '\'' then return [] else return c :: (← singleQuoted fuel)

/-- The text between accents, of which a backslash takes the meaning of some characters. -/
def accented (quoted : Bool) : (fuel : Nat) → Reading Text
  | 0 => fail .openAccent
  | fuel + 1 => do
    match ← peek with
    | none => fail .openAccent
    | some c => do
      advance
      if c.toNat = 0x60 then return []
      else if c = '\\' then
        match ← peekRaw with
        | none => return c :: (← accented quoted fuel)
        | some d => do
          advance
          let hides := d = '\\' || d.toNat = 0x60 || d = '$' || (quoted && d = '"')
          return (if hides then [d] else [c, d]) ++ (← accented quoted fuel)
      else return c :: (← accented quoted fuel)

/-! ## Signs -/

def endsWord (c : Char) : Bool := (" \t\n;&|()<>".toList).contains c

def redirectSign (first : Char) : Reading Text := do
  let go (c : Char) : Reading Text := do
    advance
    return [first, c]
  match first, ← peek with
  | '>', some '>' => go '>'
  | '>', some '|' => go '|'
  | _, some '&' => go '&'
  | '<', some '>' => go '>'
  | '<', some '<' => do
    advance
    match ← peek with
    | some '-' => do
      advance
      return "<<-".toList
    | _ => return "<<".toList
  | _, _ => return [first]

/-- A sign behind its first character, which may stand twice. -/
def doubled (c : Char) : Reading Token := do
  if (← peek) = some c then
    advance
    return .sign [c, c]
  else return .sign [c]

/-- Skips the rest of a line. -/
def skipComment : (fuel : Nat) → Reading Unit
  | 0 => return ()
  | fuel + 1 => do
    match ← peekRaw with
    | some '\n' | none => return ()
    | some _ => do
      advance
      skipComment fuel

/-- Whether a backslash between double quotes takes the meaning of a character. -/
def isHidden (c : Char) : Bool := c = '\\' || c.toNat = 0x60 || c = '$'

/-- The text of a character behind a backslash between double quotes. -/
def behindBackslash (others : Text) : Reading Text := do
  match ← peekRaw with
  | none => return ['\\']
  | some c => do
    advance
    return if isHidden c || others.contains c then [c] else ['\\', c]

def joined : Word → Word → Word
  | [], w => w
  | .text s q :: pieces, w => Word.consText s q (joined pieces w)
  | piece :: pieces, w => piece :: joined pieces w

/-- The text in front of what is left later. -/
def takenUntil (before after : Text) : Text := before.take (before.length - after.length)

/-- The name and the value of a word that assigns a variable. -/
def assignment? : Word → Option (Text × Word)
  | .text s false :: w =>
    match Text.cutAt? '=' s with
    | some (name, value) =>
      if isName name then some (name, if value.isEmpty then w else .text value false :: w) else none
    | none => none
  | _ => none

/-- Commands that a function cannot stand for. -/
def specialCommands : List Text :=
  [".", ":", "break", "continue", "eval", "exec", "exit", "export", "local", "readonly", "return", "set", "shift",
    "times", "trap", "unset"].map String.toList

/-- The parameters of a script, each one for itself. -/
def allArguments : Word := [.parameter ['@'] .plain [] true]

/-- The body of a text behind a command, taken as it is. -/
def literalLines (w : Waiting) : (fuel : Nat) → Text → Text × Nat × Text
  | 0, s => (s, 0, [])
  | fuel + 1, s =>
    let line := (s.takeWhile (· != '\n'))
    let kept := if w.dropTabs then line.dropWhile (· = '\t') else line
    match s.drop line.length with
    | [] => if kept = w.mark then ([], 0, []) else (kept, 0, [])
    | _ :: rest =>
      if kept = w.mark then ([], 1, rest)
      else
        let (body, lines, rest) := literalLines w fuel rest
        (kept ++ '\n' :: body, lines + 1, rest)

/-- Moves behind a line that ends a text behind a command, if it stands here. -/
def passesMark (w : Waiting) : Reading Bool := do
  let s ← get
  let rest := if w.dropTabs then s.rest.dropWhile (· = '\t') else s.rest
  set { s with rest }
  if w.mark.isPrefixOf rest then
    match rest.drop w.mark.length with
    | [] => do
      set { s with rest := [] }
      return true
    | '\n' :: rest => do
      set { s with rest, line := s.line + 1 }
      return true
    | _ => return false
  else return false

def putBack (t : Token) : Reading Unit := modify fun s => { s with back? := some t }

def refuse {α : Type} (t : Token) (expected? : Option Text) : Reading α := fail (.unexpected t.shown expected?)

/-- Where a redirection leads. -/
def directionOf (written : Text) : Direction :=
  match String.ofList written with
  | ">" => .write false
  | ">|" => .write true
  | ">>" => .append
  | "<" => .read
  | "<>" => .both
  | _ => .copy

/-- The descriptor that a redirection changes if none is written. -/
def usualDescriptor (written : Text) : Nat := if written.head? = some '<' then 0 else 1

mutual

/-- The pieces of a word up to its end. -/
def word : (fuel : Nat) → Reading Word
  | 0 => return []
  | fuel + 1 => do
    match ← peek with
    | none => return []
    | some c =>
      if endsWord c then return []
      else do
        advance
        let first ← unquoted fuel c
        return joined first (← word fuel)

/-- The pieces that start with a character outside quotes. -/
def unquoted : (fuel : Nat) → Char → Reading Word
  | 0, _ => return []
  | fuel + 1, c => do
    match c with
    | '\'' => return [.text (← singleQuoted (fuel + 1)) true]
    | '"' => return .text [] true :: (← doubleQuoted fuel)
    | '\\' => do
      match ← peekRaw with
      | none => return [.text ['\\'] true]
      | some d => do
        advance
        return [.text [d] true]
    | '$' => dollar fuel false
    | _ => if c.toNat = 0x60 then accent fuel false else return [.text [c] false]

def doubleQuoted : (fuel : Nat) → Reading Word
  | 0 => fail .openQuote
  | fuel + 1 => do
    match ← peek with
    | none => fail .openQuote
    | some c => do
      advance
      if c = '"' then return []
      else
        let first ← quotedPiece fuel ['"'] c
        return joined first (← doubleQuoted fuel)

def quotedPiece : (fuel : Nat) → (others : Text) → Char → Reading Word
  | 0, _, _ => return []
  | fuel + 1, others, c => do
    match c with
    | '\\' => return [.text (← behindBackslash others) true]
    | '$' => dollar fuel true
    | _ => if c.toNat = 0x60 then accent fuel true else return [.text [c] true]

/-- What stands behind a sign in braces, up to the closing brace. -/
def argument : (fuel : Nat) → Reading Word
  | 0 => fail .openBrace
  | fuel + 1 => do
    match ← peek with
    | none => fail .openBrace
    | some c => do
      advance
      if c.toNat = 0x7d then return []
      else
        let first ← unquoted fuel c
        return joined first (← argument fuel)

/-- What stands behind a sign in braces between double quotes, up to the closing brace; a further pair of double quotes
keeps a brace from closing. -/
def quotedArgument : (fuel : Nat) → (inner : Bool) → Reading Word
  | 0, _ => fail .openQuote
  | fuel + 1, inner => do
    match ← peek with
    | none => fail .openQuote
    | some c => do
      advance
      if c.toNat = 0x7d && !inner then return []
      else if c = '"' then quotedArgument fuel !inner
      else
        let first ← quotedPiece fuel ['"', '}'] c
        return joined first (← quotedArgument fuel inner)

/-- The pieces of a sum up to its end, inside some parentheses. -/
def sum : (fuel depth : Nat) → Reading Word
  | 0, _ => fail .openSum
  | fuel + 1, depth => do
    match ← peek with
    | none => fail .openSum
    | some c => do
      advance
      if c = '(' then return Word.consText [c] true (← sum fuel (depth + 1))
      else if c = ')' then
        match depth with
        | 0 => do
          if (← peek) = some ')' then
            advance
            return []
          else return Word.consText [c] true (← sum fuel 0)
        | depth + 1 => return Word.consText [c] true (← sum fuel depth)
      else
        let first ← quotedPiece fuel ['"'] c
        return joined first (← sum fuel depth)

/-- What stands behind a dollar sign. -/
def dollar : (fuel : Nat) → (quoted : Bool) → Reading Word
  | 0, _ => return []
  | fuel + 1, quoted => do
    match ← peek with
    | none => return [.text ['$'] quoted]
    | some c =>
      if c = '(' then do
        advance
        if (← peek) = some '(' then
          advance
          return [.number (← sum fuel 0) quoted]
        else
          let before ← get
          inner fuel
          let after ← get
          set { before with rest := after.rest, line := after.line }
          return [.output before.line (takenUntil before.rest after.rest).dropLast quoted]
      else if c.toNat = 0x7b then do
        advance
        braced fuel quoted
      else if startsName c then return [.parameter (← takeWhile isNameChar (fuel + 1)) .plain [] quoted]
      else if isSpecialName c then do
        advance
        return [.parameter [c] .plain [] quoted]
      else return [.text ['$'] quoted]

/-- The command between accents. -/
def accent : (fuel : Nat) → (quoted : Bool) → Reading Word
  | 0, _ => return []
  | fuel + 1, quoted => do
    let command ← accented quoted (fuel + 1)
    let outside ← get
    set { outside with rest := command, line := 1, back? := none, waiting := [] }
    let _ ← list fuel false true
    set outside
    return [.output 1 command quoted]

/-- The commands in parentheses behind a dollar sign. -/
def inner : (fuel : Nat) → Reading Unit
  | 0 => refuse .finish none
  | fuel + 1 => do
    modify fun s => { s with back? := none, waiting := [] }
    let _ ← list fuel false true
    let t ← token fuel false false
    if t.isSign ")" then return () else refuse t (some (Token.inQuotes [')']))

/-- What stands in braces behind a dollar sign. -/
def braced : (fuel : Nat) → (quoted : Bool) → Reading Word
  | 0, _ => fail .openBrace
  | fuel + 1, quoted => do
    match ← peek with
    | none => formed fuel quoted [] .unknown
    | some c =>
      if startsName c then named fuel quoted (← takeWhile isNameChar (fuel + 1))
      else if c.isDigit then named fuel quoted (← takeWhile Char.isDigit (fuel + 1))
      else if c = '#' then do
        advance
        match (← peek), (← get).rest[1]? with
        | some d, after? =>
          if isNameChar d then
            let name ← if d.isDigit then takeWhile Char.isDigit (fuel + 1) else takeWhile isNameChar (fuel + 1)
            formed fuel quoted name (if (← peek).map Char.toNat = some 0x7d then .length else .unknown)
          else if d.toNat != 0x7d && after?.map Char.toNat = some 0x7d then do
            advance
            formed fuel quoted [d] (if isSpecialName d then .length else .unknown)
          else named fuel quoted ['#']
        | none, _ => named fuel quoted ['#']
      else if isSpecialName c then do
        advance
        named fuel quoted [c]
      else formed fuel quoted [] .unknown

/-- What stands behind a name in braces. -/
def named : (fuel : Nat) → (quoted : Bool) → (name : Text) → Reading Word
  | 0, _, _ => fail .openBrace
  | fuel + 1, quoted, name => do
    match ← peek with
    | none => formed fuel quoted name .unknown
    | some c => do
      advance
      let isChoice (c : Char) : Bool := ("-+?=".toList).contains c
      if c.toNat = 0x7d then return [.parameter name .plain [] quoted]
      else if isChoice c then formed fuel quoted name (.choice c false)
      else if c = ':' then
        match ← peek with
        | some d => do
          advance
          formed fuel quoted name (if isChoice d then .choice d true else .unknown)
        | none => formed fuel quoted name .unknown
      else if c = '%' || c = '#' then
        if (← peek) = some c then
          advance
          formed fuel quoted name (.trimmed (c = '#') true)
        else formed fuel quoted name (.trimmed (c = '#') false)
      else formed fuel quoted name .unknown

/-- The form of an expansion, and what is left of it. -/
def formed : (fuel : Nat) → (quoted : Bool) → (name : Text) → Form → Reading Word
  | 0, _, _, _ => fail .openBrace
  | fuel + 1, quoted, name, form => do
    let isTrimmed := match form with
      | .trimmed _ _ => true
      | _ => false
    let w ← if quoted && !isTrimmed then quotedArgument fuel false else argument fuel
    return [.parameter name form w quoted]

/-- A word, or a redirection if it is a digit in front of one. -/
def wordToken : (fuel : Nat) → Reading Token
  | 0 => return .finish
  | fuel + 1 => do
    let w ← word fuel
    match w, ← peek with
    | [], some c =>
      if c = '<' || c = '>' then do
        advance
        let written ← redirectSign c
        return .redirect (usualDescriptor written) written
      else return .word w
    | [.text [d] false], some c =>
      if d.isDigit && (c = '<' || c = '>') then do
        advance
        return .redirect (d.toNat - 48) (← redirectSign c)
      else return .word w
    | _, _ => return .word w

/-- The next token of the text. -/
def freshToken : (fuel : Nat) → Reading Token
  | 0 => return .finish
  | fuel + 1 => do
    match ← peek with
    | none => return .finish
    | some c =>
      if c = ' ' || c = '\t' then do
        advance
        freshToken fuel
      else if c = '#' then do
        skipComment (← get).rest.length
        freshToken fuel
      else if c = '\n' then do
        advance
        return .newline
      else if c = '&' || c = '|' || c = ';' then do
        advance
        doubled c
      else if c = '(' || c = ')' then do
        advance
        return .sign [c]
      else wordToken fuel

/-- The next token; line ends may be passed over, and words may be reserved. -/
def token : (fuel : Nat) → (passLines reserve : Bool) → Reading Token
  | 0, _, _ => return .finish
  | fuel + 1, passLines, reserve => do
    let t ← match (← get).back? with
      | some t => do
        modify fun s => { s with back? := none }
        pure t
      | none => freshToken fuel
    match t with
    | .newline =>
      if passLines then do
        readDocuments fuel
        token fuel passLines reserve
      else return t
    | _ => return if reserve then t.asReserved else t

/-- The body of a text behind a command, of which parts are expanded. -/
def document : (fuel : Nat) → Waiting → (atStart : Bool) → Reading Word
  | 0, _, _ => return []
  | fuel + 1, w, atStart => do
    if atStart && (← passesMark w) then return []
    else
      match ← peek with
      | none => return []
      | some c => do
        advance
        let first ← quotedPiece fuel [] c
        return joined first (← document fuel w (c = '\n'))

/-- Reads the texts that wait for the end of a line. -/
def readDocuments : (fuel : Nat) → Reading Unit
  | 0 => return ()
  | fuel + 1 => do
    let s ← get
    match s.waiting with
    | [] => return ()
    | w :: others => do
      set { s with waiting := others }
      let body ← if w.literal then do
          let (body, lines, rest) := literalLines w (fuel + 1) s.rest
          modify fun s => { s with rest, line := s.line + lines }
          pure [Piece.text body true]
        else document fuel w true
      modify fun s => { s with documents := (w.number, body) :: s.documents }
      readDocuments fuel

/-- A redirection behind its sign. -/
def redirectTarget : (fuel descriptor : Nat) → (written : Text) → Reading Redirect
  | 0, _, _ => refuse .finish none
  | fuel + 1, descriptor, written => do
    match ← token fuel false false with
    | .word w =>
      if written.take 2 = "<<".toList then do
        let s ← get
        let waiting : Waiting :=
          { number := s.nextDocument, mark := w.plainText, literal := w.hasQuotes, dropTabs := written.length = 3 }
        set { s with waiting := s.waiting ++ [waiting], nextDocument := s.nextDocument + 1 }
        return ⟨descriptor, .here s.nextDocument, []⟩
      else return ⟨descriptor, directionOf written, w⟩
    | t => refuse t none

/-- The redirections behind a command. -/
def redirects : (fuel : Nat) → (reserve : Bool) → Reading (List Redirect)
  | 0, _ => return []
  | fuel + 1, reserve => do
    match ← token fuel false reserve with
    | .redirect descriptor written => do
      let r ← redirectTarget fuel descriptor written
      return r :: (← redirects fuel false)
    | t => do
      putBack t
      return []

/-- Moves behind a reserved word or a sign, which must stand here. -/
def expect : (fuel : Nat) → (s : String) → Reading Unit
  | 0, _ => return ()
  | fuel + 1, s => do
    let t ← token fuel false false
    if t.isReserved s || t.isSign s then return () else refuse t (some (Token.inQuotes s.toList))

/-- Commands one after the other; those inside others may be required. -/
def list : (fuel : Nat) → (top mayBeEmpty : Bool) → Reading (Option Script)
  | 0, _, _ => return none
  | fuel + 1, top, mayBeEmpty => listFrom fuel top mayBeEmpty none

/-- More commands behind others. -/
def listFrom : (fuel : Nat) → (top started : Bool) → Option Script → Reading (Option Script)
  | 0, _, _, done? => return done?
  | fuel + 1, top, started, done? => do
    match ← token fuel (!top) true with
    | .newline => do
      readDocuments fuel
      return some (done?.getD .nothing)
    | .finish => do
      readDocuments fuel
      putBack .finish
      return done?
    | t => do
      putBack t
      if !top && started && t.closes then return done?
      else
        let next ← chain fuel
        let t ← token fuel false false
        let next := if t.isSign "&" then .background next else next
        let all : Script := match done? with
          | some done => .sequence done next
          | none => next
        match t with
        | .finish => do
          readDocuments fuel
          putBack t
          return some all
        | .newline => do
          putBack t
          listFrom fuel top true (some all)
        | t =>
          if t.isSign "&" || t.isSign ";" then listFrom fuel top true (some all)
          else if top then refuse t none
          else do
            putBack t
            return some all

/-- Commands inside others, of which there must be one. -/
def body : (fuel : Nat) → Reading Script
  | 0 => refuse .finish none
  | fuel + 1 => return (← list fuel false false).getD .nothing

/-- Commands of which a later one depends on how the earlier ones end. -/
def chain : (fuel : Nat) → Reading Script
  | 0 => refuse .finish none
  | fuel + 1 => do
    let first ← pipeline fuel false false
    chainFrom fuel first

def chainFrom : (fuel : Nat) → Script → Reading Script
  | 0, first => return first
  | fuel + 1, first => do
    let t ← token fuel false false
    if t.isSign "&&" then
      let next ← pipeline fuel true true
      chainFrom fuel (.andThen first next)
    else if t.isSign "||" then
      let next ← pipeline fuel true true
      chainFrom fuel (.orElse first next)
    else
      putBack t
      return first

/-- Commands that pass their output on, perhaps with their status turned round. -/
def pipeline : (fuel : Nat) → (passLines reserve : Bool) → Reading Script
  | 0, _, _ => refuse .finish none
  | fuel + 1, passLines, reserve => do
    let t ← token fuel passLines reserve
    if t.isReserved "!" then
      let first ← command fuel false true
      return .negated (← pipelineFrom fuel first)
    else
      putBack t
      let first ← command fuel false false
      pipelineFrom fuel first

def pipelineFrom : (fuel : Nat) → Script → Reading Script
  | 0, first => return first
  | fuel + 1, first => do
    let t ← token fuel false false
    if t.isSign "|" then
      let next ← command fuel true true
      return .pipe first (← pipelineFrom fuel next)
    else
      putBack t
      return first

def command : (fuel : Nat) → (passLines reserve : Bool) → Reading Script
  | 0, _, _ => refuse .finish none
  | fuel + 1, passLines, reserve => do
    let t ← token fuel passLines reserve
    let line := (← get).line
    match t with
    | .word _ | .redirect _ _ => do
      putBack t
      simple fuel line [] [] []
    | _ =>
      let s ← compound fuel t
      match ← redirects fuel true with
      | [] => return s
      | others => return .redirected line s others

/-- A command that starts with a sign or a reserved word. -/
def compound : (fuel : Nat) → Token → Reading Script
  | 0, t => refuse t none
  | fuel + 1, t => do
    if t.isSign "(" then
      let s ← body fuel
      expect fuel ")"
      return .subshell s
    else if t.isReserved r"{" then
      let s ← body fuel
      expect fuel r"}"
      return s
    else if t.isReserved "if" then branch fuel
    else if t.isReserved "while" then repeated fuel false
    else if t.isReserved "until" then repeated fuel true
    else if t.isReserved "for" then forLoop fuel
    else if t.isReserved "case" then selection fuel
    else refuse t none

/-- The words and redirections of a command, or a function if parentheses follow a single word. -/
def simple : (fuel line : Nat) → List (Text × Word) → List Word → List Redirect → Reading Script
  | 0, line, values, words, others => return .simple line values words others
  | fuel + 1, line, values, words, others => do
    match ← token fuel false false with
    | .word w =>
      match if words.isEmpty then assignment? w else none with
      | some value => simple fuel line (values ++ [value]) words others
      | none => simple fuel line values (words ++ [w]) others
    | .redirect descriptor written => do
      let r ← redirectTarget fuel descriptor written
      simple fuel line values words (others ++ [r])
    | t =>
      if t.isSign "(" && words.length = 1 && values.isEmpty && others.isEmpty then
        expect fuel ")"
        match words.head? >>= fun w => if w.hasQuotes then none else w.bare? with
        | some name =>
          if isName name && !specialCommands.contains name then
            return .define name (← command fuel true true)
          else fail .badFunction
        | none => fail .badFunction
      else
        putBack t
        return .simple line values words others

/-- A choice behind its first word. -/
def branch : (fuel : Nat) → Reading Script
  | 0 => refuse .finish none
  | fuel + 1 => do
    let test ← body fuel
    expect fuel "then"
    let yes ← body fuel
    let t ← token fuel false false
    if t.isReserved "elif" then return .ifThen test yes (← branch fuel)
    else if t.isReserved "else" then
      let no ← body fuel
      expect fuel "fi"
      return .ifThen test yes no
    else
      putBack t
      expect fuel "fi"
      return .ifThen test yes .nothing

/-- A loop behind its first word. -/
def repeated : (fuel : Nat) → (until_ : Bool) → Reading Script
  | 0, _ => refuse .finish none
  | fuel + 1, until_ => do
    let test ← body fuel
    expect fuel "do"
    let s ← body fuel
    expect fuel "done"
    return .loop until_ test s

/-- The words of a loop up to the end of the line. -/
def loopWords : (fuel : Nat) → Reading (List Word)
  | 0 => return []
  | fuel + 1 => do
    match ← token fuel false false with
    | .word w => return w :: (← loopWords fuel)
    | .newline => return []
    | t => if t.isSign ";" then return [] else refuse t none

/-- A loop over words behind its first word. -/
def forLoop : (fuel : Nat) → Reading Script
  | 0 => refuse .finish none
  | fuel + 1 => do
    let name? := match ← token fuel false false with
      | .word w => if w.hasQuotes then none else w.bare?.filter isName
      | _ => none
    match name? with
    | none => fail .badLoop
    | some name =>
      let t ← token fuel true true
      let words ← if t.isReserved "in" then loopWords fuel
        else do
          if !t.isSign ";" then putBack t
          pure [allArguments]
      let t ← token fuel true true
      if t.isReserved "do" then
        let s ← body fuel
        expect fuel "done"
        return .forEach name words s
      else refuse t (some (Token.inQuotes "do".toList))

/-- The patterns of a case behind the first token, up to the closing parenthesis. -/
def patterns : (fuel : Nat) → Token → Reading (List Word)
  | 0, _ => return []
  | fuel + 1, t => do
    let w : Word := match t with
      | .word w => w
      | .reserved s => [.text s false]
      | _ => []
    let next ← token fuel false false
    if next.isSign "|" then
      let t ← token fuel false false
      return w :: (← patterns fuel t)
    else if next.isSign ")" then return [w]
    else refuse next (some (Token.inQuotes [')']))

def cases : (fuel : Nat) → Reading (List (List Word × Script))
  | 0 => return []
  | fuel + 1 => do
    let t ← token fuel true true
    if t.isReserved "esac" then return []
    else
      let t ← if t.isSign "(" then token fuel false false else pure t
      let words ← patterns fuel t
      let s := (← list fuel false true).getD .nothing
      let t ← token fuel true true
      if t.isReserved "esac" then return [(words, s)]
      else if t.isSign ";;" then return (words, s) :: (← cases fuel)
      else refuse t (some (Token.inQuotes ";;".toList))

/-- A selection behind its first word. -/
def selection : (fuel : Nat) → Reading Script
  | 0 => refuse .finish none
  | fuel + 1 => do
    match ← token fuel false false with
    | .word subject => do
      let t ← token fuel true true
      if t.isReserved "in" then return .choose subject (← cases fuel)
      else refuse t (some (Token.inQuotes "in".toList))
    | t => refuse t (some "word".toList)

end

end Reading

namespace Source

/-- A bound for the steps that reading takes. -/
def bound (s : Source) : Nat := 16 * s.rest.length + 64

/-- Reads the commands of the next line; there are none at the end. -/
def nextLine (s : Source) : Except (Misreading × Nat) (Option Script × Source) :=
  (Reading.list s.bound true false).run s

/-- Reads all commands. -/
def whole (s : Source) : Except (Misreading × Nat) (Option Script × Source) :=
  (Reading.list s.bound false true).run s

end Source

end ApiFlow.Shell
