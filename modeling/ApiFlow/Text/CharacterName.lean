import ApiFlow.Text.Class
import ApiFlow.Text.Names.Alphabets
import ApiFlow.Text.Names.Ancient
import ApiFlow.Text.Names.Pictures
import ApiFlow.Text.Names.Syllables
import ApiFlow.Text.Names.Symbols

/-!
# Characters by name

The names of characters are listed in the order of code points, each told from the one before it.  An entry of the lists is
one of these:

* `@` and a hexadecimal number: the code point of the next name, where it is not the one behind that of the last name;
* a digit and words: the name that begins with so many words of the name before and ends with these words;
* `*`: the name before, with the word `SMALL` for `CAPITAL`; the next name is told from the one before this;
* `+` and a number: so many names, each the name before with its last number greater by one.

Case does not count in these names.  Hangul syllables and unified ideographs have names by rule, in capital letters only.
Other names are listed apart: those of control characters, which have none besides, abbreviations, and the corrected names
of some characters (Unicode 14).

* `codeNamed?` gives the code point of the character with a name.
-/

set_option autoImplicit false

/-! ## Other names -/

namespace ApiFlow.Text

/-- Names with the code points that they also stand for. -/
def otherNames : List (String × Nat) := [
  ("NULL", 0x0), ("NUL", 0x0), ("START OF HEADING", 0x1), ("SOH", 0x1), ("START OF TEXT", 0x2), ("STX", 0x2),
  ("END OF TEXT", 0x3), ("ETX", 0x3), ("END OF TRANSMISSION", 0x4), ("EOT", 0x4), ("ENQUIRY", 0x5), ("ENQ", 0x5),
  ("ACKNOWLEDGE", 0x6), ("ACK", 0x6), ("ALERT", 0x7), ("BEL", 0x7), ("BACKSPACE", 0x8), ("BS", 0x8),
  ("CHARACTER TABULATION", 0x9), ("HORIZONTAL TABULATION", 0x9), ("HT", 0x9), ("TAB", 0x9), ("LINE FEED", 0xa),
  ("NEW LINE", 0xa), ("END OF LINE", 0xa), ("LF", 0xa), ("NL", 0xa), ("EOL", 0xa), ("LINE TABULATION", 0xb),
  ("VERTICAL TABULATION", 0xb), ("VT", 0xb), ("FORM FEED", 0xc), ("FF", 0xc), ("CARRIAGE RETURN", 0xd), ("CR", 0xd),
  ("SHIFT OUT", 0xe), ("LOCKING-SHIFT ONE", 0xe), ("SO", 0xe), ("SHIFT IN", 0xf), ("LOCKING-SHIFT ZERO", 0xf),
  ("SI", 0xf), ("DATA LINK ESCAPE", 0x10), ("DLE", 0x10), ("DEVICE CONTROL ONE", 0x11), ("DC1", 0x11),
  ("DEVICE CONTROL TWO", 0x12), ("DC2", 0x12), ("DEVICE CONTROL THREE", 0x13), ("DC3", 0x13),
  ("DEVICE CONTROL FOUR", 0x14), ("DC4", 0x14), ("NEGATIVE ACKNOWLEDGE", 0x15), ("NAK", 0x15),
  ("SYNCHRONOUS IDLE", 0x16), ("SYN", 0x16), ("END OF TRANSMISSION BLOCK", 0x17), ("ETB", 0x17), ("CANCEL", 0x18),
  ("CAN", 0x18), ("END OF MEDIUM", 0x19), ("EOM", 0x19), ("SUBSTITUTE", 0x1a), ("SUB", 0x1a), ("ESCAPE", 0x1b),
  ("ESC", 0x1b), ("INFORMATION SEPARATOR FOUR", 0x1c), ("FILE SEPARATOR", 0x1c), ("FS", 0x1c),
  ("INFORMATION SEPARATOR THREE", 0x1d), ("GROUP SEPARATOR", 0x1d), ("GS", 0x1d), ("INFORMATION SEPARATOR TWO", 0x1e),
  ("RECORD SEPARATOR", 0x1e), ("RS", 0x1e), ("INFORMATION SEPARATOR ONE", 0x1f), ("UNIT SEPARATOR", 0x1f),
  ("US", 0x1f), ("SP", 0x20), ("DELETE", 0x7f), ("DEL", 0x7f), ("PADDING CHARACTER", 0x80), ("PAD", 0x80),
  ("HIGH OCTET PRESET", 0x81), ("HOP", 0x81), ("BREAK PERMITTED HERE", 0x82), ("BPH", 0x82), ("NO BREAK HERE", 0x83),
  ("NBH", 0x83), ("INDEX", 0x84), ("IND", 0x84), ("NEXT LINE", 0x85), ("NEL", 0x85), ("START OF SELECTED AREA", 0x86),
  ("SSA", 0x86), ("END OF SELECTED AREA", 0x87), ("ESA", 0x87), ("CHARACTER TABULATION SET", 0x88),
  ("HORIZONTAL TABULATION SET", 0x88), ("HTS", 0x88), ("CHARACTER TABULATION WITH JUSTIFICATION", 0x89),
  ("HORIZONTAL TABULATION WITH JUSTIFICATION", 0x89), ("HTJ", 0x89), ("LINE TABULATION SET", 0x8a),
  ("VERTICAL TABULATION SET", 0x8a), ("VTS", 0x8a), ("PARTIAL LINE FORWARD", 0x8b), ("PARTIAL LINE DOWN", 0x8b),
  ("PLD", 0x8b), ("PARTIAL LINE BACKWARD", 0x8c), ("PARTIAL LINE UP", 0x8c), ("PLU", 0x8c),
  ("REVERSE LINE FEED", 0x8d), ("REVERSE INDEX", 0x8d), ("RI", 0x8d), ("SINGLE SHIFT TWO", 0x8e),
  ("SINGLE-SHIFT-2", 0x8e), ("SS2", 0x8e), ("SINGLE SHIFT THREE", 0x8f), ("SINGLE-SHIFT-3", 0x8f), ("SS3", 0x8f),
  ("DEVICE CONTROL STRING", 0x90), ("DCS", 0x90), ("PRIVATE USE ONE", 0x91), ("PRIVATE USE-1", 0x91), ("PU1", 0x91),
  ("PRIVATE USE TWO", 0x92), ("PRIVATE USE-2", 0x92), ("PU2", 0x92), ("SET TRANSMIT STATE", 0x93), ("STS", 0x93),
  ("CANCEL CHARACTER", 0x94), ("CCH", 0x94), ("MESSAGE WAITING", 0x95), ("MW", 0x95), ("START OF GUARDED AREA", 0x96),
  ("START OF PROTECTED AREA", 0x96), ("SPA", 0x96), ("END OF GUARDED AREA", 0x97), ("END OF PROTECTED AREA", 0x97),
  ("EPA", 0x97), ("START OF STRING", 0x98), ("SOS", 0x98), ("SINGLE GRAPHIC CHARACTER INTRODUCER", 0x99),
  ("SGC", 0x99), ("SINGLE CHARACTER INTRODUCER", 0x9a), ("SCI", 0x9a), ("CONTROL SEQUENCE INTRODUCER", 0x9b),
  ("CSI", 0x9b), ("STRING TERMINATOR", 0x9c), ("ST", 0x9c), ("OPERATING SYSTEM COMMAND", 0x9d), ("OSC", 0x9d),
  ("PRIVACY MESSAGE", 0x9e), ("PM", 0x9e), ("APPLICATION PROGRAM COMMAND", 0x9f), ("APC", 0x9f), ("NBSP", 0xa0),
  ("SHY", 0xad), ("LATIN CAPITAL LETTER GHA", 0x1a2), ("LATIN SMALL LETTER GHA", 0x1a3), ("CGJ", 0x34f),
  ("ALM", 0x61c), ("SYRIAC SUBLINEAR COLON SKEWED LEFT", 0x709), ("KANNADA LETTER LLLA", 0xcde),
  ("LAO LETTER FO FON", 0xe9d), ("LAO LETTER FO FAY", 0xe9f), ("LAO LETTER RO", 0xea3), ("LAO LETTER LO", 0xea5),
  ("TIBETAN MARK BKA- SHOG GI MGO RGYAN", 0xfd0), ("HANGUL JONGSEONG YESIEUNG-KIYEOK", 0x11ec),
  ("HANGUL JONGSEONG YESIEUNG-SSANGKIYEOK", 0x11ed), ("HANGUL JONGSEONG SSANGYESIEUNG", 0x11ee),
  ("HANGUL JONGSEONG YESIEUNG-KHIEUKH", 0x11ef), ("FVS1", 0x180b), ("FVS2", 0x180c), ("FVS3", 0x180d),
  ("MVS", 0x180e), ("FVS4", 0x180f), ("ZWSP", 0x200b), ("ZWNJ", 0x200c), ("ZWJ", 0x200d), ("LRM", 0x200e),
  ("RLM", 0x200f), ("LRE", 0x202a), ("RLE", 0x202b), ("PDF", 0x202c), ("LRO", 0x202d), ("RLO", 0x202e),
  ("NNBSP", 0x202f), ("MMSP", 0x205f), ("WJ", 0x2060), ("LRI", 0x2066), ("RLI", 0x2067), ("FSI", 0x2068),
  ("PDI", 0x2069), ("WEIERSTRASS ELLIPTIC FUNCTION", 0x2118), ("MICR ON US SYMBOL", 0x2448),
  ("MICR DASH SYMBOL", 0x2449), ("LEFTWARDS TRIANGLE-HEADED ARROW WITH DOUBLE VERTICAL STROKE", 0x2b7a),
  ("RIGHTWARDS TRIANGLE-HEADED ARROW WITH DOUBLE VERTICAL STROKE", 0x2b7c), ("YI SYLLABLE ITERATION MARK", 0xa015),
  ("MYANMAR LETTER KHAMTI LLA", 0xaa6e), ("PRESENTATION FORM FOR VERTICAL RIGHT WHITE LENTICULAR BRACKET", 0xfe18),
  ("BYTE ORDER MARK", 0xfeff), ("BOM", 0xfeff), ("ZWNBSP", 0xfeff), ("CUNEIFORM SIGN NU11 TENU", 0x122d4),
  ("CUNEIFORM SIGN NU11 OVER NU11 BUR OVER BUR", 0x122d5), ("MEDEFAIDRIN CAPITAL LETTER H", 0x16e56),
  ("MEDEFAIDRIN CAPITAL LETTER NG", 0x16e57), ("MEDEFAIDRIN SMALL LETTER H", 0x16e76),
  ("MEDEFAIDRIN SMALL LETTER NG", 0x16e77), ("HENTAIGANA LETTER E-1", 0x1b001),
  ("BYZANTINE MUSICAL SYMBOL FTHORA SKLIRON CHROMA VASIS", 0x1d0c5)]

/-! ## Names by lists and rules -/

/-- The number that digits spell, in a base up to sixteen. -/
def digitsValue (base : Nat) (digits : Text) : Nat :=
  digits.foldl (fun n c => n * base + (if c.isDigit then c.toNat - 48 else c.toNat - 55)) 0

/-- Where a list of names stands: the next code point, the name before it, and the name that the next is told from. -/
structure NameCursor where
  code : Nat := 0
  last : List Text := []
  model : List Text := []

/-- A word with the number at its end greater by one, in as many digits. -/
def nextNumbered (word : Text) : Text :=
  let digits := (word.reverse.takeWhile Char.isDigit).reverse
  let number := ofNat (digitsValue 10 digits + 1)
  word.take (word.length - digits.length) ++ List.replicate (digits.length - number.length) '0' ++ number

/-- A name with the number at its end greater by one. -/
def nextName : List Text → List Text
  | [] => []
  | [word] => [nextNumbered word]
  | word :: words => word :: nextName words

/-- A name with its first word `CAPITAL` turned to `SMALL`. -/
def smallName : List Text → List Text
  | [] => []
  | word :: words => if word = "CAPITAL".toList then "SMALL".toList :: words else word :: smallName words

/-- A cursor behind a name. -/
def NameCursor.name (c : NameCursor) (name : List Text) : NameCursor :=
  { code := c.code + 1, last := name, model := name }

/-- The code point of a name among numbered names, or the cursor behind them. -/
def NameCursor.numbered (target : List Text) : (count : Nat) → NameCursor → Nat ⊕ NameCursor
  | 0, c => .inr c
  | count + 1, c =>
    let name := nextName c.last
    if name = target then .inl c.code else (c.name name).numbered target count

/-- The code point of a name if an entry gives it, or the cursor behind the entry. -/
def NameCursor.read (target : List Text) (c : NameCursor) (entry : Text) : Nat ⊕ NameCursor :=
  match entry with
  | '@' :: digits => .inr { c with code := digitsValue 16 digits }
  | '+' :: digits => c.numbered target (digitsValue 10 digits)
  | ['*'] =>
    let name := smallName c.last
    if name = target then .inl c.code else .inr { c with code := c.code + 1, last := name }
  | kept :: words =>
    let name := c.model.take (kept.toNat - 48) ++ if words.isEmpty then [] else splitWhere (· = ' ') words
    if name = target then .inl c.code else .inr (c.name name)
  | [] => .inr c

/-- The code point of a name in a line of a list, or the cursor behind the line; `entry` holds the entry that is being
read, last character first. -/
def NameCursor.readLine (target : List Text) : Text → (entry : Text) → NameCursor → Nat ⊕ NameCursor
  | [], _, c => .inr c
  | ';' :: s, entry, c =>
    match c.read target entry.reverse with
    | .inl code => .inl code
    | .inr c => readLine target s [] c
  | ch :: s, entry, c => readLine target s (ch :: entry) c

def listed? (target : List Text) : List String → NameCursor → Option Nat
  | [], _ => none
  | line :: lines, c =>
    match c.readLine target line.toList [] with
    | .inl code => some code
    | .inr c => listed? target lines c

/-- Ranges of characters that are named by a word and their number. -/
def numberedRanges : List (String × Nat × Nat) := [
  ("CJK COMPATIBILITY IDEOGRAPH-", 0xf900, 0xfa6d), ("CJK COMPATIBILITY IDEOGRAPH-", 0xfa70, 0xfad9),
  ("CJK COMPATIBILITY IDEOGRAPH-", 0x2f800, 0x2fa1d), ("KHITAN SMALL SCRIPT CHARACTER-", 0x18b00, 0x18cd5),
  ("NUSHU CHARACTER-", 0x1b170, 0x1b2fb)]

def ideographRanges : List (Nat × Nat) := [
  (0x3400, 0x4dbf), (0x4e00, 0x9fff), (0x20000, 0x2a6df), (0x2a700, 0x2b738), (0x2b740, 0x2b81d),
  (0x2b820, 0x2cea1), (0x2ceb0, 0x2ebe0), (0x30000, 0x3134a)]

/-- Ranges of the characters `VS1` to `VS256`, with the number of the first. -/
def selectorRanges : List (Nat × Nat × Nat) := [(1, 0xfe00, 0xfe0f), (17, 0xe0100, 0xe01ef)]

def isCapitalHex (c : Char) : Bool := c.isDigit || ('A' ≤ c && c ≤ 'F')

/-- The code point that is named by its number behind a word. -/
def numberNamed? (name : Text) : Option Nat :=
  numberedRanges.findSome? fun r =>
    let digits := name.drop r.1.length
    if name.take r.1.length = r.1.toList && (digits.length = 4 || digits.length = 5) && digits.all isCapitalHex
        && digits.head? != some '0' then
      let code := digitsValue 16 digits
      if r.2.1 ≤ code && code ≤ r.2.2 then some code else none
    else none

def ideographNamed? (digits : Text) : Option Nat :=
  let code := digitsValue 16 digits
  if (digits.length = 4 || digits.length = 5) && digits.all isCapitalHex && inRanges ideographRanges code then some code
  else none

def selectorNamed? (name : Text) : Option Nat :=
  match name with
  | 'V' :: 'S' :: digits =>
    if digits.all Char.isDigit && digits.head? != some '0' && digits.length ≤ 3 && !digits.isEmpty then
      let n := digitsValue 10 digits
      selectorRanges.findSome? fun r =>
        if r.1 ≤ n && n - r.1 ≤ r.2.2 - r.2.1 then some (r.2.1 + (n - r.1)) else none
    else none
  | _ => none

/-- The initial, medial and final sounds of Hangul syllables. -/
def hangulSounds : List (List String) := [
  ["G", "GG", "N", "D", "DD", "R", "M", "B", "BB", "S", "SS", "", "J", "JJ", "C", "K", "T", "P", "H"],
  ["A", "AE", "YA", "YAE", "EO", "E", "YEO", "YE", "O", "WA", "WAE", "OE", "YO", "U", "WEO", "WE", "WI", "YU", "EU",
    "YI", "I"],
  ["", "G", "GG", "GS", "N", "NJ", "NH", "D", "L", "LG", "LM", "LB", "LS", "LT", "LP", "LH", "M", "B", "BS", "S",
    "SS", "NG", "J", "C", "K", "T", "P", "H"]]

/-- The longest of some sounds with which a text begins: its number and the rest of the text. -/
def longestSound? (sounds : List String) (text : Text) : Option (Nat × Text) :=
  let found := (sounds.zipIdx.filter fun p => p.1.toList.isPrefixOf text).foldl
    (fun (best : Option (String × Nat)) p => match best with
      | some b => if b.1.length < p.1.length then some p else best
      | none => some p) none
  found.map fun p => (p.2, text.drop p.1.length)

/-- The number of a Hangul syllable that is spelled by its sounds; `number` is that of the sounds before. -/
def syllable? (number : Nat) : List (List String) → Text → Option Nat
  | [], [] => some number
  | [], _ => none
  | sounds :: more, text =>
    match longestSound? sounds text with
    | some (n, rest) => syllable? (number * sounds.length + n) more rest
    | none => none

/-- The words that name a rule. -/
def hangulMark : Text := "HANGUL SYLLABLE ".toList

/-- The words that name a rule. -/
def ideographMark : Text := "CJK UNIFIED IDEOGRAPH-".toList

def codeNamed? (name : Text) : Option Nat :=
  if hangulMark.isPrefixOf name then (syllable? 0 hangulSounds (name.drop hangulMark.length)).map (· + 0xac00)
  else if ideographMark.isPrefixOf name then ideographNamed? (name.drop ideographMark.length)
  else
    let name := name.map Char.toUpper
    let target := splitWhere (· = ' ') name
    (numberNamed? name).orElse fun _ => (selectorNamed? name).orElse fun _ =>
      ((otherNames.find? fun r => r.1.toList = name).map Prod.snd).orElse fun _ =>
        [alphabetNames, symbolNames, syllableNames, ancientNames, pictureNames].findSome? fun table =>
          listed? target table {}

end ApiFlow.Text
