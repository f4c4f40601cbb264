import ApiFlow.Shell.Format
import ApiFlow.Shell.Program.Options

/-!
# Programs for lines

These programs print the lines of files or of their input: all of them, some of them, parts of them, in another order, or how
many there are.

* `lineProgram?` gives the program with a name.
-/

set_option autoImplicit false

namespace ApiFlow.Shell.Program

open Acting

/-! ## Whole files -/

def column (width n : Nat) : Text := Text.padLeft width (Text.ofNat n)

/-- Lines with their numbers; those that are empty may have none. -/
def numbered (alsoEmpty : Bool) : (number : Nat) → List (List UInt8) → List UInt8
  | _, [] => []
  | n, line :: lines =>
    if alsoEmpty || line != [10] then Utf8.encode (column 6 n ++ ['\t']) ++ line ++ numbered alsoEmpty (n + 1) lines
    else line ++ numbered alsoEmpty n lines

/-- Prints files one after the other. -/
def cat (arguments : List Text) : Acting Unit :=
  withOptions "cat" 1 { plain := "benstuAETv".toList, long := [("number".toList, 'n')] } arguments fun o => do
    let ends (bytes : List UInt8) : List UInt8 := bytes.flatMap fun b => if b = 10 then [36, 10] else [b]
    let tabs (bytes : List UInt8) : List UInt8 := bytes.flatMap fun b => if b = 9 then [94, 73] else [b]
    eachFile o 1 (plainReport "cat") fun _ bytes => do
      let lines := linesOf bytes
      let bytes := if o.has 'b' then numbered false 1 lines else if o.has 'n' then numbered true 1 lines else bytes
      let bytes := if o.has 'A' || o.has 'T' || o.has 't' then tabs bytes else bytes
      write (if o.has 'A' || o.has 'E' || o.has 'e' then ends bytes else bytes)

/-- Prints the lines of files from the last to the first. -/
def tac (arguments : List Text) : Acting Unit :=
  withOptions "tac" 1 { plain := [] } arguments fun o =>
    eachFile o 1 (fun path e => "tac: failed to open ".toList ++ quoted path ++ " for reading: ".toList ++ reasonOf e)
      fun _ bytes => write (linesOf bytes).reverse.flatten

/-- Prints the lines of files, each one from its end to its start. -/
def rev (arguments : List Text) : Acting Unit :=
  withOptions "rev" 1 { plain := [] } arguments fun o =>
    eachFile o 1 (fun path e => "rev: cannot open ".toList ++ path ++ ": ".toList ++ reasonOf e) fun _ bytes =>
      (linesOf bytes).forM fun line => do
        say (Utf8.decodeLossy (withoutEnd line)).reverse
        if line.getLast? = some 10 then write [10]

/-- Prints the input, and writes it to files. -/
def tee (arguments : List Text) : Acting Unit :=
  withOptions "tee" 1 { plain := ['a', 'i'] } arguments fun o => do
    let bytes ← readAll
    write bytes
    let good ← o.words.foldlM (fun good path => do
      let t := (← get).files
      match targetOf t path with
      | .place _ _ (some .directory) => do
        complain ("tee: ".toList ++ path ++ ": Is a directory".toList)
        return false
      | .place place (some .directory) entry? => do
        let old := match entry? with
          | some (.file old) => if o.has 'a' then old else []
          | _ => []
        modify fun m => { m with files := m.files.put place (.file (old ++ bytes)) }
        return good
      | .place _ _ _ => do
        complain ("tee: ".toList ++ path ++ ": No such file or directory".toList)
        return false
      | .copy descriptor => do
        let _ ← writeOn descriptor bytes
        return good
      | .nowhere => return good) true
    setStatus (if good then 0 else 1)

/-! ## The first and the last lines -/

/-- How many lines or bytes are asked for: so many, or all but so many, or all from a place on. -/
inductive Amount where
  | only (n : Nat)
  | without (n : Nat)
  | starting (n : Nat)
  deriving DecidableEq, Repr

/-- The factor of a unit behind a number. -/
def unitOf? (s : Text) : Option Nat :=
  match String.ofList s with
  | "" => some 1
  | "b" => some 512
  | "K" | "k" | "KiB" => some 1024
  | "kB" | "KB" => some 1000
  | "M" | "MiB" => some 1048576
  | "MB" => some 1000000
  | _ => none

def amountOf? (s : Text) : Option Amount :=
  let count? (digits : Text) : Option Nat :=
    let n := digits.takeWhile Char.isDigit
    if n.isEmpty then none else (unitOf? (digits.drop n.length)).map (· * Arithmetic.decimal n)
  match s with
  | '-' :: digits => (count? digits).map .without
  | '+' :: digits => (count? digits).map .starting
  | digits => (count? digits).map .only

/-- The parts that are asked for of the first ones. -/
def firstOf {α : Type} (a : Amount) (parts : List α) : List α :=
  match a with
  | .only n | .starting n => parts.take n
  | .without n => parts.take (parts.length - n)

def lastOf {α : Type} (a : Amount) (parts : List α) : List α :=
  match a with
  | .only n | .without n => parts.drop (parts.length - n)
  | .starting n => parts.drop (n - 1)

/-- An old way of writing an option for the number of lines. -/
def plainAmount (alsoPlus : Bool) : List Text → List Text
  | ('-' :: c :: rest) :: words =>
    if c.isDigit then "-n".toList :: (c :: rest) :: words else ('-' :: c :: rest) :: words
  | ('+' :: c :: rest) :: words =>
    if alsoPlus && c.isDigit then "-n".toList :: ('+' :: c :: rest) :: words else ('+' :: c :: rest) :: words
  | words => words

/-- Prints a part of each file, with headings if there are several. -/
def someParts (name : String) (alsoPlus : Bool) (choose : {α : Type} → Amount → List α → List α)
    (arguments : List Text) : Acting Unit :=
  let known : Options.Known :=
    { plain := ['q', 'v', 'f', 'F'], valued := ['n', 'c'], long := [("lines".toList, 'n'), ("bytes".toList, 'c')] }
  withOptions name 1 known (plainAmount alsoPlus arguments) fun o => do
    let (inBytes, written) := match o.value? 'c' with
      | some written => (true, written)
      | none => (false, (o.value? 'n').getD "10".toList)
    match amountOf? written with
    | none =>
      failed name 1 ("invalid number of ".toList ++ (if inBytes then "bytes" else "lines").toList ++ ": ".toList ++
        quoted written)
    | some amount => do
      let headed := (1 < o.words.length && !o.has 'q') || o.has 'v'
      let report (path : Text) (e : Files.Error) : Text :=
        match e with
        | .refused .isDirectory _ => name.toList ++ ": error reading ".toList ++ quoted path ++ ": Is a directory".toList
        | _ => name.toList ++ ": cannot open ".toList ++ quoted path ++ " for reading: ".toList ++ reasonOf e
      let paths := if o.words.isEmpty then [['-']] else o.words
      let (good, _) ← paths.foldlM (fun (good, first) path => do
        let bytes ← if path = "/dev/zero".toList then
            match amount with
            | .only n => pure (.ok (List.replicate n (0 : UInt8)))
            | _ => throw Exit.endless
          else contents path
        match bytes with
        | .ok bytes => do
          if headed then
            if !first then write [10]
            say ("==> ".toList ++ (if path = ['-'] then "standard input".toList else path) ++ " <==\n".toList)
          write (if inBytes then choose amount bytes else (choose amount (linesOf bytes)).flatten)
          return (good, false)
        | .error e => do
          complain (report path e)
          return (false, first)) (true, true)
      setStatus (if good then 0 else 1)

/-! ## Counting -/

def wordCount (bytes : List UInt8) : Nat :=
  let isSpace (b : UInt8) : Bool := b = 32 || (9 ≤ b && b ≤ 13)
  (bytes.foldl (fun (n, inside) b => if isSpace b then (n, false) else (if inside then n else n + 1, true)) (0, false)).1

/-- The lines, words, characters, bytes and the greatest width of a line. -/
def counts (bytes : List UInt8) : List Nat := [
  (bytes.filter (· = 10)).length, wordCount bytes, (bytes.filter fun b => b < 128 || 192 ≤ b).length, bytes.length,
  ((linesOf bytes).map fun line => (withoutEnd line).length).foldl max 0]

/-- What is counted of a path: its bytes, and whether its size is known without reading. -/
structure Counted where
  path : Text
  bytes : Except Files.Error (List UInt8)
  isSized : Bool

def counted (path : Text) : Acting Counted := do
  let m ← get
  let channel? : Option Channel := match ← stream? 0 with
    | some (.channel key) => m.channels[key]?
    | _ => none
  let isSized := if path = ['-'] then (channel?.map Channel.ofFile).getD false else true
  return { path, bytes := ← contents path, isSized }

/-- The width of the columns: a single number stands alone, and what has no size makes them wide. -/
def countWidth (shown : Nat) (all : List Counted) : Nat :=
  let isWide := all.any fun c => match c.bytes with
    | .ok _ => !c.isSized
    | .error (.refused .isDirectory _) => true
    | .error _ => false
  let size := (all.map fun c => if c.isSized then (c.bytes.toOption.getD []).length else 0).foldl (· + ·) 0
  if shown = 1 && all.length = 1 then 1 else max (Text.ofNat size).length (if isWide then 7 else 1)

/-- Counts the lines, words and bytes of files. -/
def wc (arguments : List Text) : Acting Unit :=
  let kinds := ['l', 'w', 'm', 'c', 'L']
  let long : List (Text × Char) :=
    [("lines".toList, 'l'), ("words".toList, 'w'), ("bytes".toList, 'c'), ("chars".toList, 'm')]
  withOptions "wc" 1 { plain := kinds, long } arguments fun o => do
    let asked := kinds.map (if o.letters.isEmpty then ['l', 'w', 'c'] else o.letters).contains
    let all ← (if o.words.isEmpty then [['-']] else o.words).mapM counted
    let width := countWidth (asked.filter id).length all
    let line (numbers : List Nat) (name : Text) : Text :=
      Text.join [' '] ((numbers.zip asked).filterMap fun e => if e.2 then some (column width e.1) else none) ++
        (if name.isEmpty then [] else ' ' :: name)
    all.forM fun c => do
      let name := if o.words.isEmpty then [] else c.path
      match c.bytes with
      | .ok bytes => sayLines [line (counts bytes) name]
      | .error e => do
        complain (plainReport "wc" c.path e)
        if let .refused .isDirectory _ := e then sayLines [line (counts []) name]
    let good := all.filterMap fun c => c.bytes.toOption
    if 1 < all.length then
      sayLines [line ((good.map counts).foldl (List.zipWith (· + ·)) (counts [])) "total".toList]
    setStatus (if good.length = all.length then 0 else 1)

/-! ## Order -/

/-- A key to sort by: the fields from one to another, by number or from the end. -/
structure SortKey where
  first : Nat
  last? : Option Nat
  letters : List Char
  deriving DecidableEq, Repr

def sortKey (s : Text) : SortKey :=
  let number (s : Text) : Nat := Arithmetic.decimal (s.takeWhile Char.isDigit)
  let letters (s : Text) : List Char := s.filter Char.isAlpha
  match Text.cutAt? ',' s with
  | some (a, b) => ⟨number a, some (number b), letters a ++ letters b⟩
  | none => ⟨number s, none, letters s⟩

/-- The fields of a line: between separators, or each with the blanks in front of it. -/
def sortFields (separator? : Option UInt8) (line : List UInt8) : List (List UInt8) :=
  let isBlank (b : UInt8) : Bool := b = 32 || b = 9
  match separator? with
  | some separator =>
    line.foldr (fun b fields =>
      match fields with
      | [] => [[b]]
      | f :: others => if b = separator then [] :: f :: others else (b :: f) :: others) [[]]
  | none =>
    let starts := (line.zip (32 :: line)).map fun e => isBlank e.1 && !isBlank e.2
    (line.zip starts).foldr (fun e fields =>
      match fields with
      | [] => [[e.1]]
      | f :: others => if e.2 then [] :: (e.1 :: f) :: others else (e.1 :: f) :: others) [[]]

def keyPart (separator? : Option UInt8) (k : SortKey) (line : List UInt8) : List UInt8 :=
  let fields := (sortFields separator? line).filter fun f => separator?.isSome || !f.isEmpty
  let chosen := match k.last? with
    | some last => (fields.take last).drop (k.first - 1)
    | none => fields.drop (k.first - 1)
  match separator? with
  | some separator => (chosen.intersperse [separator]).flatten
  | none => chosen.flatten

/-- The number at the start of a line, in thousandths of thousandths. -/
def leadingNumber (line : List UInt8) : Int :=
  let s := (Utf8.decodeLossy line).dropWhile fun c => c = ' ' || c = '\t'
  let (negative, s) := match s with
    | '-' :: t => (true, t)
    | t => (false, t)
  let whole := s.takeWhile Char.isDigit
  let part := match s.drop whole.length with
    | '.' :: t => t.takeWhile Char.isDigit
    | _ => []
  let n := Arithmetic.decimal (whole ++ (part ++ List.replicate 6 '0').take 6)
  if negative then -(n : Int) else n

/-- Whether a line comes before another one by letters of options; in capitals and small letters alike if asked for. -/
def orderBy (letters : List Char) (a b : List UInt8) : Ordering :=
  let folded (s : List UInt8) : List UInt8 :=
    let s := if letters.contains 'b' then s.dropWhile fun b => b = 32 || b = 9 else s
    if letters.contains 'f' then s.map fun b => if 97 ≤ b && b ≤ 122 then b - 32 else b else s
  let result := if letters.contains 'n' then compare (leadingNumber a) (leadingNumber b)
    else if bytesBefore (folded a) (folded b) then .lt
    else if bytesBefore (folded b) (folded a) then .gt
    else .eq
  if letters.contains 'r' then result.swap else result

/-- The order of two lines by keys, and by the whole lines where the keys are alike. -/
def sortOrder (o : Options) (a b : List UInt8) : Ordering :=
  let global := o.letters.filter fun c => ['n', 'r', 'f', 'b'].contains c
  let separator? := (o.value? 't').bind fun s => (Utf8.encode s).head?
  let keys := (o.valuesOf 'k').map sortKey
  let byKeys := keys.foldl (fun found k =>
    match found with
    | .eq =>
      orderBy (if k.letters.isEmpty then global else k.letters) (keyPart separator? k a) (keyPart separator? k b)
    | found => found) Ordering.eq
  let first := if keys.isEmpty then orderBy global a b else byKeys
  match first with
  | .eq => if o.has 's' || o.has 'u' then .eq else orderBy (global.filter (· = 'r')) a b
  | found => found

/-- Lines of which none is like the one before it. -/
def withoutAlike (alike : List UInt8 → List UInt8 → Bool) : List (List UInt8) → List (List UInt8)
  | [] => []
  | line :: lines =>
    match withoutAlike alike lines with
    | next :: others => if alike line next then line :: others else line :: next :: others
    | [] => [line]

/-- Prints the lines of files in order. -/
def sort (arguments : List Text) : Acting Unit :=
  let known : Options.Known := {
    plain := ['n', 'r', 'u', 'f', 'b', 's', 'd', 'i', 'g', 'V', 'h', 'M', 'R', 'c', 'z', 'm'], valued := ['k', 't', 'o']
    long := [("reverse".toList, 'r'), ("unique".toList, 'u'), ("numeric-sort".toList, 'n'), ("key".toList, 'k')] }
  withOptions "sort" 2 known arguments fun o => do
    let report (path : Text) (e : Files.Error) : Text := "sort: cannot read: ".toList ++ path ++ ": ".toList ++ reasonOf e
    let paths := if o.words.isEmpty then [['-']] else o.words
    let found ← paths.mapM fun path => do return (path, ← contents path)
    match found.find? fun f => !f.2.toBool with
    | some (path, .error e) => do
      complain (report path e)
      setStatus 2
    | _ => do
      let lines := found.flatMap fun f => (linesOf (f.2.toOption.getD [])).map withoutEnd
      let sorted := lines.mergeSort fun a b => sortOrder o a b != .gt
      let sorted := if o.has 'u' then withoutAlike (fun a b => sortOrder o a b = .eq) sorted else sorted
      write (sorted.flatMap fun line => line ++ [10])
      setStatus 0

/-- Lines with how often each of them follows itself. -/
def runs (alike : List UInt8 → List UInt8 → Bool) (lines : List (List UInt8)) : List (Nat × List UInt8) :=
  lines.foldr (fun line runs =>
    match runs with
    | (n, next) :: others => if alike line next then (n + 1, line) :: others else (1, line) :: (n, next) :: others
    | [] => [(1, line)]) []

/-- Prints lines that follow like ones only once. -/
def uniq (arguments : List Text) : Acting Unit :=
  let long : List (Text × Char) := [("count".toList, 'c'), ("repeated".toList, 'd'), ("unique".toList, 'u')]
  withOptions "uniq" 1 { plain := ['c', 'd', 'u', 'i'], long } arguments fun o => do
    match ← contents (o.words.headD ['-']) with
    | .error e => failed "uniq" 1 (o.words.headD [] ++ ": ".toList ++ reasonOf e)
    | .ok bytes => do
      let small (line : List UInt8) : List UInt8 :=
        if o.has 'i' then line.map fun b => if 65 ≤ b && b ≤ 90 then b + 32 else b else line
      let found := runs (fun a b => small a = small b) ((linesOf bytes).map withoutEnd)
      let chosen := found.filter fun r => (!o.has 'd' || 1 < r.1) && (!o.has 'u' || r.1 = 1)
      write (chosen.flatMap fun r =>
        (if o.has 'c' then Utf8.encode (column 7 r.1 ++ [' ']) else []) ++ r.2 ++ [10])
      setStatus 0

/-! ## Parts of lines -/

/-- The places that a list of numbers and ranges asks for. -/
def isChosen (list : Text) (n : Nat) : Bool :=
  (Text.splitAt ',' list).any fun range =>
    match Text.cutAt? '-' range with
    | some (a, b) => (a.isEmpty || Arithmetic.decimal a ≤ n) && (b.isEmpty || n ≤ Arithmetic.decimal b)
    | none => Arithmetic.decimal range = n

def chosenOf {α : Type} (list : Text) (parts : List α) : List α :=
  (parts.zipIdx.filter fun e => isChosen list (e.2 + 1)).map Prod.fst

/-- Prints parts of lines. -/
def cut (arguments : List Text) : Acting Unit :=
  withOptions "cut" 1 { plain := ['s', 'n'], valued := ['d', 'f', 'c', 'b'] } arguments fun o => do
    match o.value? 'f', (o.value? 'c').or (o.value? 'b') with
    | none, none => misused "cut" 1 "you must specify a list of bytes, characters, or fields".toList
    | some fields, _ => do
      let separator := ((o.value? 'd').bind fun s => (Utf8.encode s).head?).getD 9
      eachFile o 1 (plainReport "cut") fun _ bytes =>
        (linesOf bytes).forM fun line => do
          let line := withoutEnd line
          if line.contains separator then
            write (((chosenOf fields (sortFields (some separator) line)).intersperse [separator]).flatten ++ [10])
          else if !o.has 's' then write (line ++ [10])
    | none, some places =>
      eachFile o 1 (plainReport "cut") fun _ bytes =>
        (linesOf bytes).forM fun line => write (chosenOf places (withoutEnd line) ++ [10])

def kindMembers (name : Text) : List UInt8 :=
  ((List.range 128).filter fun n =>
    let c := Char.ofNat n
    match String.ofList name with
    | "lower" => c.isLower
    | "upper" => c.isUpper
    | "alpha" => c.isAlpha
    | "digit" => c.isDigit
    | "alnum" => c.isAlphanum
    | "space" => n = 32 || (9 ≤ n && n ≤ 13)
    | "blank" => n = 32 || n = 9
    | "punct" => 33 ≤ n && n ≤ 126 && !c.isAlphanum
    | "cntrl" => n < 32 || n = 127
    | "print" => 32 ≤ n && n ≤ 126
    | "graph" => 33 ≤ n && n ≤ 126
    | "xdigit" => c.isDigit || ('a' ≤ c.toLower && c.toLower ≤ 'f')
    | _ => false).map Nat.toUInt8

/-- The bytes of a set: named kinds, ranges and single ones. -/
def setOf : (fuel : Nat) → List UInt8 → List UInt8
  | 0, _ => []
  | _ + 1, [] => []
  | fuel + 1, 91 :: 58 :: rest =>
    let name := rest.takeWhile (· != 58)
    kindMembers (Utf8.decodeLossy name) ++ setOf fuel (rest.drop (name.length + 2))
  | fuel + 1, a :: 45 :: b :: rest =>
    (List.range (b.toNat + 1 - a.toNat)).map (fun n => (a.toNat + n).toUInt8) ++ setOf fuel rest
  | fuel + 1, b :: rest => b :: setOf fuel rest

/-- The bytes that a text describes as a set. -/
def membersOf (s : Text) : List UInt8 :=
  let bytes := (Format.escaped s).1
  setOf (bytes.length + 1) bytes

def squeezed (set : List UInt8) (bytes : List UInt8) : List UInt8 :=
  bytes.foldr (fun b rest => if rest.head? = some b && set.contains b then rest else b :: rest) []

/-- Exchanges bytes of the input for others, drops some of them, or keeps them from following themselves. -/
def tr (arguments : List Text) : Acting Unit :=
  withOptions "tr" 1 { plain := ['d', 's', 'c', 'C', 't'] } arguments fun o => do
    let first := membersOf (o.words.headD [])
    let isIn (b : UInt8) : Bool := first.contains b != (o.has 'c' || o.has 'C')
    match o.words with
    | [] => misused "tr" 1 "missing operand".toList
    | [set] =>
      if o.has 'd' then
        write ((← readAll).filter fun b => !isIn b)
        setStatus 0
      else if o.has 's' then
        let bytes ← readAll
        write (squeezed (bytes.filter isIn) bytes)
        setStatus 0
      else
        complain ("tr: missing operand after ".toList ++ quoted set)
        complain "Two strings must be given when translating.".toList
        complain (hint "tr")
        setStatus 1
    | _ :: second :: _ => do
      let second := membersOf second
      let bytes ← readAll
      let last (b : UInt8) : UInt8 := second.getLast?.getD b
      let changed (b : UInt8) : UInt8 :=
        if o.has 'c' || o.has 'C' then if isIn b then last b else b
        else match first.reverse.idxOf? b with
          | some n => (second[first.length - 1 - n]?).getD (last b)
          | none => b
      if o.has 'd' then write (squeezed second (bytes.filter fun b => !isIn b))
      else
        let bytes := bytes.map changed
        write (if o.has 's' then squeezed second bytes else bytes)
      setStatus 0

/-! ## Lines that are made -/

/-- A number of thousandths of thousandths with some digits behind its point. -/
def decimalText (places : Nat) (i : Int) : Text :=
  (if i < 0 then ['-'] else []) ++ Format.fixed false places i.natAbs 1000000

/-- A decimal in thousandths of thousandths, with the number of digits behind its point. -/
def decimalOf? (s : Text) : Option (Int × Nat) :=
  let (negative, t) := match s with
    | '-' :: t => (true, t)
    | '+' :: t => (false, t)
    | t => (false, t)
  let whole := t.takeWhile Char.isDigit
  let (part, rest) := match t.drop whole.length with
    | '.' :: u => (u.takeWhile Char.isDigit, u.dropWhile Char.isDigit)
    | u => ([], u)
  if (whole.isEmpty && part.isEmpty) || !rest.isEmpty || 6 < part.length then none
  else
    let n := Arithmetic.decimal (whole ++ part ++ List.replicate (6 - part.length) '0')
    some (if negative then -(n : Int) else n, part.length)

/-- The numbers from one on, up or down in steps to another one. -/
def series (first step last : Int) : List Int :=
  let count := if step = 0 then 0
    else if (0 < step && last < first) || (step < 0 && first < last) then 0
    else ((last - first) / step).toNat + 1
  (List.range count).map fun (n : Nat) => first + n * step

def numbersAsWords (arguments : List Text) : List Text :=
  let isNumber (a : Text) : Bool := (decimalOf? a).isSome
  match arguments.span fun a => !isNumber a with
  | (options, numbers) => options ++ (if numbers.isEmpty then [] else ['-', '-'] :: numbers)

/-- Prints a series of numbers. -/
def seq (arguments : List Text) : Acting Unit :=
  let arguments := if arguments.contains ['-', '-'] then arguments else numbersAsWords arguments
  withOptions "seq" 1 { plain := ['w'], valued := ['s', 'f'] } arguments fun o => do
    match o.words.find? fun w => (decimalOf? w).isNone with
    | some word => misused "seq" 1 ("invalid floating point argument: ".toList ++ quoted word)
    | none =>
      let numbers := o.words.filterMap decimalOf?
      let places := (numbers.map Prod.snd).dropLast.foldl max 0
      let show_ (all : List Int) : Acting Unit := do
        let lines := all.map (decimalText places)
        let width := (lines.map List.length).foldl max 0
        let padded := lines.map fun line => if o.has 'w' then List.replicate (width - line.length) '0' ++ line else line
        if !padded.isEmpty then say (Text.join ((o.value? 's').getD ['\n']) padded ++ ['\n'])
        setStatus 0
      match numbers.map Prod.fst with
      | [last] => show_ (series 1000000 1000000 last)
      | [first, last] => show_ (series first 1000000 last)
      | [first, step, last] =>
        if step = 0 then
          misused "seq" 1 ("invalid Zero increment value: ".toList ++ quoted ((o.words[1]?).getD []))
        else show_ (series first step last)
      | [] => misused "seq" 1 "missing operand".toList
      | _ => misused "seq" 1 ("extra operand ".toList ++ quoted ((o.words[3]?).getD []))

/-- Prints a line again and again.  Nothing can take it all, so only the first part is made: as much as a reader takes at
once, and the end of time if nobody reads it. -/
def yes (arguments : List Text) : Acting Unit := do
  let line := Utf8.encode (Text.join [' '] (if arguments.isEmpty then [['y']] else arguments) ++ ['\n'])
  match ← stream? 1 with
  | some (.channel 0) | some (.file _) => throw .endless
  | _ => do
    write (List.replicate (262144 / line.length + 1) line).flatten
    setStatus 0

/-- Prints arguments; escapes count only if they are asked for. -/
def echo (arguments : List Text) : Acting Unit := do
  let isOption (a : Text) : Bool := a.head? = some '-' && 1 < a.length && a.tail.all fun c => ("neE".toList).contains c
  let options := (arguments.takeWhile isOption).flatten
  let words := arguments.dropWhile isOption
  let text := Text.join [' '] words
  let escapes := (options.filter fun c => c = 'e' || c = 'E').getLast? = some 'e'
  let (bytes, ended) := if escapes then Format.escaped text else (Utf8.encode text, false)
  write (if options.contains 'n' || ended then bytes else bytes ++ [10])
  setStatus 0

def nl (arguments : List Text) : Acting Unit :=
  withOptions "nl" 1 { plain := [], valued := ['b'] } arguments fun o =>
    allContents o 1 (plainReport "nl") fun bytes => write (numbered (o.value? 'b' = some ['a']) 1 (linesOf bytes))

def lineProgram? (name : Text) : Option (List Text → Acting Unit) :=
  match String.ofList name with
  | "cat" => some cat
  | "tac" => some tac
  | "rev" => some rev
  | "tee" => some tee
  | "head" => some (someParts "head" false firstOf)
  | "tail" => some (someParts "tail" true lastOf)
  | "wc" => some wc
  | "sort" => some sort
  | "uniq" => some uniq
  | "cut" => some cut
  | "tr" => some tr
  | "seq" => some seq
  | "yes" => some yes
  | "echo" => some echo
  | "nl" => some nl
  | _ => none

end ApiFlow.Shell.Program
