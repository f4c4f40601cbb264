import ApiFlow.Json.Parser
import ApiFlow.Json.Printer
import ApiFlow.Proofs.Number.Digits
import ApiFlow.Proofs.Variable.Writes

/-!
# Values that are written and read back

A string between quotes is read as the characters that were written, whichever of them were escaped, and an integer as
the digits that were written, up to what follows them.  A value without doubles is then read back from its text, with its
items and members in the order in which they were written, whatever is nested in what.  An integer of more digits than
can be read, or a name that an object has twice, would not survive.

* `stringBody_written`, `scalar_integer` : reading a string and an integer that were written, in front of any text.
* `Over` : values whose integers can be read and whose objects have each name once, with doubles of a given kind.
* `Exact` : such a value without doubles.
* `Exact.readsBack` : its text is read back in front of anything that does not go on with a number.
* `decode?_compact` : its text is read back as a whole.
* `decode?_text`, `decode?_integer`, `decode?_nested` : objects with one member, and such objects one inside the other.
-/

set_option autoImplicit false

namespace ApiFlow.Json

variable {c e : Char} {rest : Text}

/-! ## The piece of one character -/

theorem pieces_letter (other : e ≠ 'u') (escaped : escape? e = some c) (rest : Text) :
    pieces ('\\' :: e :: rest) = (pieces rest).map fun r => (.char c :: r.1, r.2) := by
  rw [pieces.eq_def]
  split
  case h_4 same =>
    cases same
    rw [escaped]
    cases pieces rest <;> rfl
  case h_5 noSlash same =>
    obtain ⟨rfl, rfl⟩ := List.cons.inj same
    exact absurd rfl (noSlash e rest rfl)
  all_goals simp_all

theorem pieces_plain (visible : 32 ≤ c.toNat) (quote : c ≠ '"') (slash : c ≠ '\\') (rest : Text) :
    pieces (c :: rest) = (pieces rest).map fun r => (.char c :: r.1, r.2) := by
  have printable : ¬ (decide (c.toNat < 32) || decide (c = '\\')) = true := by
    rw [Bool.or_eq_true, decide_eq_true_iff, decide_eq_true_iff, not_or]
    exact ⟨Nat.not_lt.mpr visible, slash⟩
  rw [pieces.eq_def]
  split
  case h_5 same =>
    obtain ⟨rfl, rfl⟩ := List.cons.inj same
    rw [if_neg printable]
    cases pieces rest <;> rfl
  all_goals simp_all

/-- A control character is written with four hexadecimal digits, of which the first two are zero. -/
theorem controlDigits_eq : ∀ n < 32,
    List.replicate (4 - (Nat.toDigits 16 n).length) '0' ++ Nat.toDigits 16 n =
      ['0', '0', Nat.digitChar (n / 16), Nat.digitChar (n % 16)] := by
  decide

theorem unitOf?_control : ∀ n < 32, unitOf? '0' '0' (Nat.digitChar (n / 16)) (Nat.digitChar (n % 16)) = some n := by
  decide

theorem pieces_control {n : Nat} (small : n < 32) (rest : Text) :
    pieces ("\\u" ++ (List.replicate (4 - (Nat.toDigits 16 n).length) '0' ++ Nat.toDigits 16 n) ++ rest) =
      (pieces rest).map fun r => (.unit n :: r.1, r.2) := by
  rw [controlDigits_eq n small]
  change pieces ('\\' :: 'u' :: '0' :: '0' :: Nat.digitChar (n / 16) :: Nat.digitChar (n % 16) :: rest) = _
  rw [pieces, unitOf?_control n small]
  cases pieces rest <;> rfl

theorem eq_ofNat_of_toNat_eq {n : Nat} (same : c.toNat = n) : c = Char.ofNat n := by
  rw [← same, Char.ofNat_toNat]

/-- How a character is written: a letter behind a backslash, its number, or itself. -/
theorem escapeChar_cases (c : Char) :
    (∃ e, e ≠ 'u' ∧ escape? e = some c ∧ escapeChar c = ['\\', e]) ∨
      (c.toNat < 32 ∧
        escapeChar c = "\\u" ++ (List.replicate (4 - (Nat.toDigits 16 c.toNat).length) '0' ++ Nat.toDigits 16 c.toNat)) ∨
      (32 ≤ c.toNat ∧ c ≠ '"' ∧ c ≠ '\\' ∧ escapeChar c = [c]) := by
  by_cases quote : c = '"'
  · exact .inl ⟨'"', by subst quote; decide⟩
  by_cases slash : c = '\\'
  · exact .inl ⟨'\\', by subst slash; decide⟩
  by_cases feed : c = '\n'
  · exact .inl ⟨'n', by subst feed; decide⟩
  by_cases ret : c = '\r'
  · exact .inl ⟨'r', by subst ret; decide⟩
  by_cases tab : c = '\t'
  · exact .inl ⟨'t', by subst tab; decide⟩
  by_cases bell : c.toNat = 8
  · exact .inl ⟨'b', by rw [eq_ofNat_of_toNat_eq bell]; decide⟩
  by_cases page : c.toNat = 12
  · exact .inl ⟨'f', by rw [eq_ofNat_of_toNat_eq page]; decide⟩
  by_cases small : c.toNat < 32
  · exact .inr (.inl ⟨small, by simp [escapeChar, quote, slash, feed, ret, tab, bell, page, small]⟩)
  · exact .inr (.inr ⟨by omega, quote, slash, by simp [escapeChar, quote, slash, feed, ret, tab, bell, page, small]⟩)

/-- A control character is half of no pair, so its unit stands for itself whatever follows. -/
theorem joinPieces_control (small : c.toNat < 32) (more : List Piece) :
    joinPieces (.unit c.toNat :: more) = c :: joinPieces more := by
  have high : isHigh c.toNat = false := by simp [isHigh]; omega
  have low : isLow c.toNat = false := by simp [isLow]; omega
  have alone : unitChar c.toNat = c := by simp [unitChar, high, low]
  cases more with
  | nil => simp [joinPieces, alone]
  | cons next more => cases next <;> simp [joinPieces, high, alone]

/-! ## Strings -/

theorem stringBody_escapeChar (c : Char) (rest : Text) :
    stringBody (escapeChar c ++ rest) = (stringBody rest).map fun r => (c :: r.1, r.2) := by
  have piece : ∃ p, pieces (escapeChar c ++ rest) = (pieces rest).map (fun r => (p :: r.1, r.2)) ∧
      ∀ more, joinPieces (p :: more) = c :: joinPieces more := by
    rcases escapeChar_cases c with ⟨e, other, escaped, written⟩ | ⟨small, written⟩ | ⟨visible, quote, slash, written⟩
    · exact ⟨.char c, by rw [written]; exact pieces_letter other escaped rest, fun more => by rw [joinPieces]⟩
    · exact ⟨.unit c.toNat, by rw [written]; exact pieces_control small rest, joinPieces_control small⟩
    · exact ⟨.char c, by rw [written]; exact pieces_plain visible quote slash rest, fun more => by rw [joinPieces]⟩
  obtain ⟨p, read, joined⟩ := piece
  rw [stringBody, stringBody, read]
  cases pieces rest <;> simp [joined]

/-- **A string that was written is read back.** -/
theorem stringBody_written (s rest : Text) : stringBody (s.flatMap escapeChar ++ '"' :: rest) = some (s, rest) := by
  induction s with
  | nil => simp [stringBody, pieces, joinPieces]
  | cons c s ih => rw [List.flatMap_cons, List.append_assoc, stringBody_escapeChar, ih]; rfl

/-! ## Integers -/

theorem isDigit_digit (digit : 48 ≤ c.toNat ∧ c.toNat ≤ 57) : isDigit c = true := by
  rw [isDigit, Bool.and_eq_true, decide_eq_true_iff, decide_eq_true_iff]
  exact ⟨Nat.le_trans (by decide) digit.1, Nat.le_trans digit.2 (by decide)⟩

/-- What may follow a number: nothing that goes on with it. -/
def Ends (rest : Text) : Prop := ∀ c ∈ rest.head?, isDigit c = false ∧ c ≠ '.' ∧ c ≠ 'e' ∧ c ≠ 'E'

theorem fractionPart_ends (ends : Ends rest) : fractionPart rest = ([], rest) := by
  rcases rest with _ | ⟨c, rest⟩
  · rfl
  · have other : c ≠ '.' := (ends c rfl).2.1
    unfold fractionPart
    split
    · rename_i same
      exact absurd (List.cons.inj same).1 other
    · rfl

theorem exponentPart_ends (ends : Ends rest) : exponentPart rest = (none, rest) := by
  rcases rest with _ | ⟨c, rest⟩
  · rfl
  · obtain ⟨-, -, lower, upper⟩ := ends c rfl
    rw [exponentPart, if_neg (by simp [lower, upper])]

/-- A positive number is written without a zero in front. -/
theorem head?_ofNat {n : Nat} (positive : n ≠ 0) : (Text.ofNat n).head? ≠ some '0' := by
  intro zero
  obtain ⟨digits, written⟩ : ∃ digits, Text.ofNat n = '0' :: digits := by
    cases same : Text.ofNat n with
    | nil => exact absurd same (ofNat_ne_nil n)
    | cons c digits =>
        rw [same] at zero
        cases zero
        exact ⟨digits, rfl⟩
  have decimal : ∀ c ∈ digits, 48 ≤ c.toNat ∧ c.toNat ≤ 57 := fun c member =>
    isDigit_of_mem_ofNat (n := n) (by rw [written]; exact List.mem_cons_of_mem _ member)
  have value : Nat.ofDigitChars 10 digits 0 = n := by
    have whole : Nat.ofDigitChars 10 (Text.ofNat n) 0 = n := Nat.ofDigitChars_toDigits (by decide) (by decide)
    rwa [written, Nat.ofDigitChars_cons] at whole
  have small := ofDigitChars_lt decimal 0
  rw [value, Nat.zero_add, Nat.one_mul] at small
  have some : 0 < digits.length := Nat.pos_of_ne_zero fun none => by
    rw [none, show tenTo 0 = 1 from rfl] at small
    omega
  have short : (Text.ofNat n).length ≤ digits.length := (Nat.length_toDigits_le_iff (by decide) some).mpr small
  rw [written, List.length_cons] at short
  omega

theorem digitsValue_ofNat (n : Nat) : digitsValue (Text.ofNat n) = n :=
  (Integer.valueOf_digits (Text.ofNat n)).trans (Nat.ofDigitChars_toDigits (by decide) (by decide))

/-- **The digits of a natural number are read back**, up to what follows them. -/
theorem numberBody_written {n : Nat} (fits : (Text.ofNat n).length ≤ Integer.digitLimit) (ends : Ends rest)
    (negative : Bool) : numberBody negative (Text.ofNat n ++ rest) = some (.int (Double.signed negative n), rest) := by
  have span : digitSpan (Text.ofNat n ++ rest) = (Text.ofNat n, rest) := by
    obtain ⟨front, back⟩ := Text.takeWhile_dropWhile_append
      (fun c member => isDigit_digit (isDigit_of_mem_ofNat (n := n) member)) (fun c first => (ends c first).1)
    rw [digitSpan, front, back]
  have some : (Text.ofNat n).isEmpty = false := by simp [ofNat_ne_nil]
  have zeros : ∀ t, Text.ofNat n ++ rest = '0' :: t → n = 0 := by
    intro t same
    refine Classical.byContradiction fun positive => head?_ofNat positive ?_
    obtain ⟨c, digits, written⟩ := List.exists_cons_of_ne_nil (ofNat_ne_nil n)
    rw [written] at same ⊢
    exact congrArg Option.some (List.cons.inj same).1
  by_cases zero : n = 0
  · subst zero
    change numberBody negative ('0' :: rest) = _
    rw [numberBody]
    dsimp only
    rw [if_neg (by decide), fractionPart_ends ends]
    dsimp only
    rw [exponentPart_ends ends]
    dsimp only
    rw [if_pos (by rfl), if_neg (by decide)]
    rfl
  · rw [numberBody, span]
    · dsimp only
      rw [if_neg (by simp [some]), fractionPart_ends ends]
      dsimp only
      rw [exponentPart_ends ends]
      dsimp only
      rw [if_pos (by rfl), if_neg (Nat.not_lt.mpr fits), digitsValue_ofNat]
    · exact fun t same => zero (zeros t same)

theorem scalar_digit (digit : 48 ≤ c.toNat ∧ c.toNat ≤ 57) (s : Text) : scalar (c :: s) = numberBody false (c :: s) := by
  rw [scalar]
  all_goals
    rintro _ same
    cases same
    exact absurd digit (by decide)

theorem scalar_minus (digit : 48 ≤ c.toNat ∧ c.toNat ≤ 57) (s : Text) :
    scalar ('-' :: c :: s) = numberBody true (c :: s) := by
  rw [scalar]
  rintro _ same
  rw [(List.cons.inj same).1] at digit
  exact absurd digit (by decide)

/-- **An integer that was written is read back**, up to what follows it. -/
theorem scalar_integer {i : Int} (fits : (Text.ofNat i.natAbs).length ≤ Integer.digitLimit) (ends : Ends rest) :
    scalar (Text.ofInt i ++ rest) = some (.int i, rest) := by
  have number (negative : Bool) := numberBody_written fits ends negative
  obtain ⟨c, digits, written⟩ := List.exists_cons_of_ne_nil (ofNat_ne_nil i.natAbs)
  have digit : 48 ≤ c.toNat ∧ c.toNat ≤ 57 := isDigit_of_mem_ofNat (n := i.natAbs) (by rw [written]; exact List.mem_cons_self)
  rw [written] at number
  rw [Text.ofInt, written]
  split
  · have size : Double.signed true i.natAbs = i := by
      rw [Double.signed, if_pos rfl]
      omega
    rw [List.cons_append, List.cons_append, scalar_minus digit, ← List.cons_append, number, size]
  · have size : Double.signed false i.natAbs = i := by
      rw [Double.signed, if_neg (by decide)]
      omega
    rw [List.cons_append, scalar_digit digit, ← List.cons_append, number, size]

/-! ## Values without doubles -/

variable {v : Json} {values : List Json} {entries : List (Text × Json)} {fuel : Nat}

/-- A value whose integers have no more digits than can be read, whose objects have each name once, and whose doubles are
of a given kind. -/
inductive Over (kind : Double → Prop) : Json → Prop where
  | null : Over kind .null
  | bool (b : Bool) : Over kind (.bool b)
  | int {i : Int} (fits : (Text.ofNat i.natAbs).length ≤ Integer.digitLimit) : Over kind (.int i)
  | real {x : Double} (given : kind x) : Over kind (.real x)
  | str (s : Text) : Over kind (.str s)
  | arr {items : List Json} (each : ∀ item ∈ items, Over kind item) : Over kind (.arr items)
  | obj {members : List (Text × Json)} (distinct : (Table.names members).Nodup)
      (each : ∀ member ∈ members, Over kind member.2) : Over kind (.obj members)

/-- A value without doubles that can be read as it is. -/
abbrev Exact : Json → Prop := Over fun _ => False

/-! ## How a text begins -/

theorem skipGap_cons (solid : isGap c = false) (s : Text) : skipGap (c :: s) = c :: s := by
  rw [skipGap, List.dropWhile_cons, if_neg (by simp [solid])]

theorem isGap_digit (digit : 48 ≤ c.toNat ∧ c.toNat ≤ 57) : isGap c = false := by
  simp only [isGap, Bool.or_eq_false_iff, decide_eq_false_iff_not]
  refine ⟨⟨⟨?_, ?_⟩, ?_⟩, ?_⟩ <;> rintro rfl <;> exact absurd digit (by decide)

/-- The text of an integer begins with a digit or with the sign. -/
theorem ofInt_begins (i : Int) :
    ∃ c t, Text.ofInt i = c :: t ∧ (c = '-' ∨ 48 ≤ c.toNat ∧ c.toNat ≤ 57) := by
  obtain ⟨c, digits, written⟩ := List.exists_cons_of_ne_nil (ofNat_ne_nil i.natAbs)
  have digit : 48 ≤ c.toNat ∧ c.toNat ≤ 57 :=
    isDigit_of_mem_ofNat (n := i.natAbs) (by rw [written]; exact List.mem_cons_self)
  rw [Text.ofInt, written]
  split
  · exact ⟨'-', c :: digits, rfl, .inl rfl⟩
  · exact ⟨c, digits, rfl, .inr digit⟩

/-- The character begins a value: it is no blank, and it does not close an array. -/
def Begins (c : Char) : Prop := isGap c = false ∧ c ≠ ']'

instance (c : Char) : Decidable (Begins c) := inferInstanceAs (Decidable (_ ∧ _))

theorem begins_integer (first : c = '-' ∨ 48 ≤ c.toNat ∧ c.toNat ≤ 57) : Begins c ∧ c ≠ '[' ∧ c ≠ '{' := by
  rcases first with rfl | digit
  · decide
  · refine ⟨⟨isGap_digit digit, ?_⟩, ?_, ?_⟩ <;> rintro rfl <;> exact absurd digit (by decide)

theorem Exact.begins (exact : Exact v) : ∃ c t, compact v = c :: t ∧ Begins c := by
  cases exact with
  | null => exact ⟨'n', "ull", rfl, by decide⟩
  | bool b =>
      cases b with
      | false => exact ⟨'f', "alse", rfl, by decide⟩
      | true => exact ⟨'t', "rue", rfl, by decide⟩
  | @int i fits =>
      obtain ⟨c, t, written, first⟩ := ofInt_begins i
      exact ⟨c, t, written, (begins_integer first).1⟩
  | real given => exact given.elim
  | str s => exact ⟨'"', _, rfl, by decide⟩
  | arr each => exact ⟨'[', _, rfl, by decide⟩
  | obj distinct each => exact ⟨'{', _, rfl, by decide⟩

theorem Exact.skipGap (exact : Exact v) (s : Text) : Json.skipGap (compact v ++ s) = compact v ++ s := by
  obtain ⟨c, t, written, begins⟩ := exact.begins
  rw [written]
  exact skipGap_cons begins.1 (t ++ s)

theorem compactItems_cons (v next : Json) (values : List Json) :
    compactItems (v :: next :: values) = compact v ++ ',' :: compactItems (next :: values) := rfl

/-- Items begin as the first of them does. -/
theorem begins_items (exact : Exact v) (values : List Json) : ∃ c t, compactItems (v :: values) = c :: t ∧ Begins c := by
  obtain ⟨c, t, written, begins⟩ := exact.begins
  cases values with
  | nil => exact ⟨c, t, written, begins⟩
  | cons next values => exact ⟨c, _, by rw [compactItems_cons, written]; rfl, begins⟩

/-! ## Reading back -/

/-- The text of a value is read back in front of what does not go on with a number.  The fuel is that of the whole text,
of which the value is a part. -/
def ReadsBack (v : Json) : Prop :=
  ∀ fuel rest, (compact v).length ≤ fuel → Ends rest → value fuel (compact v ++ rest) = some (v, rest)

theorem ends_comma (s : Text) : Ends (',' :: s) := by
  rintro c ⟨⟩
  decide

theorem ends_bracket (s : Text) : Ends (']' :: s) := by
  rintro c ⟨⟩
  decide

theorem ends_brace (s : Text) : Ends ('}' :: s) := by
  rintro c ⟨⟩
  decide

theorem value_scalar (noArray : c ≠ '[') (noObject : c ≠ '{') (s : Text) :
    value (fuel + 1) (c :: s) = scalar (c :: s) := by
  rw [value]
  · rintro _ same
    exact noArray (List.cons.inj same).1
  · rintro _ same
    exact noObject (List.cons.inj same).1

/-- **Items that were written are read back**, up to the closing bracket. -/
theorem items_written (each : ∀ v ∈ values, Exact v ∧ ReadsBack v) (some : values ≠ [])
    (enough : (compactItems values).length < fuel) (rest : Text) :
    items fuel (compactItems values ++ ']' :: rest) = .some (values, rest) := by
  induction values generalizing fuel with
  | nil => exact absurd rfl some
  | cons v values ih =>
      obtain ⟨fuel, rfl⟩ := Nat.exists_eq_succ_of_ne_zero (Nat.ne_of_gt (Nat.zero_lt_of_lt enough))
      obtain ⟨⟨-, reads⟩, others⟩ := List.forall_mem_cons.mp each
      rw [items]
      cases values with
      | nil =>
          have first : value fuel (compactItems [v] ++ ']' :: rest) = .some (v, ']' :: rest) :=
            reads fuel _ (Nat.le_of_lt_succ enough) (ends_bracket rest)
          rw [first]
          rfl
      | cons next values =>
          rw [compactItems_cons, List.length_append, List.length_cons] at enough
          have first : value fuel (compactItems (v :: next :: values) ++ ']' :: rest) =
              .some (v, ',' :: (compactItems (next :: values) ++ ']' :: rest)) := by
            rw [compactItems_cons, List.append_assoc]
            exact reads fuel _ (by omega) (ends_comma _)
          have solid : skipGap (compactItems (next :: values) ++ ']' :: rest) =
              compactItems (next :: values) ++ ']' :: rest := by
            obtain ⟨c, t, written, begins⟩ := begins_items (others next List.mem_cons_self).1 values
            rw [written]
            exact skipGap_cons begins.1 _
          rw [first]
          change (items fuel (skipGap (compactItems (next :: values) ++ ']' :: rest))).bind _ = _
          rw [solid, ih others (List.cons_ne_nil _ _) (by omega)]
          rfl

theorem stringText_append (name s : Text) : stringText name ++ s = '"' :: (name.flatMap escapeChar ++ '"' :: s) := by
  simp [stringText]

theorem compactMembers_cons (entry next : Text × Json) (entries : List (Text × Json)) :
    compactMembers (entry :: next :: entries) =
      stringText entry.1 ++ ':' :: (compact entry.2 ++ ',' :: compactMembers (next :: entries)) := by
  rw [compactMembers, List.append_assoc]
  · rfl
  · exact List.cons_ne_nil next entries

theorem members_name (fuel : Nat) (name s : Text) : members (fuel + 1) (stringText name ++ ':' :: s) =
    (value fuel (skipGap s)).bind fun r => match skipGap r.2 with
      | ',' :: t => (members fuel (skipGap t)).bind fun more => some ((name, r.1) :: more.1, more.2)
      | '}' :: t => some ([(name, r.1)], t)
      | _ => none := by
  rw [stringText_append, members, stringBody_written]
  rfl

/-- **Members that were written are read back**, up to the closing brace. -/
theorem members_written (each : ∀ entry ∈ entries, Exact entry.2 ∧ ReadsBack entry.2) (some : entries ≠ [])
    (enough : (compactMembers entries).length < fuel) (rest : Text) :
    members fuel (compactMembers entries ++ '}' :: rest) = .some (entries, rest) := by
  induction entries generalizing fuel with
  | nil => exact absurd rfl some
  | cons entry entries ih =>
      obtain ⟨fuel, rfl⟩ := Nat.exists_eq_succ_of_ne_zero (Nat.ne_of_gt (Nat.zero_lt_of_lt enough))
      obtain ⟨⟨exact, reads⟩, others⟩ := List.forall_mem_cons.mp each
      cases entries with
      | nil =>
          have text : compactMembers [entry] ++ '}' :: rest =
              stringText entry.1 ++ ':' :: (compact entry.2 ++ '}' :: rest) := by
            rw [compactMembers, List.append_assoc]
            rfl
          have short : (compact entry.2).length < (compactMembers [entry]).length := by
            rw [compactMembers, List.length_append, List.length_cons]
            omega
          rw [text, members_name, exact.skipGap, reads fuel _ (by omega) (ends_brace rest)]
          rfl
      | cons next entries =>
          rw [compactMembers_cons, List.length_append, List.length_cons, List.length_append, List.length_cons] at enough
          have text : compactMembers (entry :: next :: entries) ++ '}' :: rest = stringText entry.1 ++
              ':' :: (compact entry.2 ++ ',' :: (compactMembers (next :: entries) ++ '}' :: rest)) := by
            rw [compactMembers_cons]
            simp
          have solid : skipGap (compactMembers (next :: entries) ++ '}' :: rest) =
              compactMembers (next :: entries) ++ '}' :: rest := by
            cases entries <;> rfl
          rw [text, members_name, exact.skipGap, reads fuel _ (by omega) (ends_comma _)]
          change (members fuel (skipGap (compactMembers (next :: entries) ++ '}' :: rest))).bind _ = _
          rw [solid, ih others (List.cons_ne_nil _ _) (by omega)]
          rfl

theorem readsBack_array (each : ∀ v ∈ values, Exact v ∧ ReadsBack v) : ReadsBack (.arr values) := by
  intro fuel rest enough ends
  obtain ⟨fuel, rfl⟩ := Nat.exists_eq_succ_of_ne_zero (Nat.ne_of_gt (Nat.lt_of_lt_of_le (Nat.succ_pos _) enough))
  cases values with
  | nil => rfl
  | cons v values =>
      have text : compact (.arr (v :: values)) ++ rest = '[' :: (compactItems (v :: values) ++ ']' :: rest) := by
        simp [compact]
      have long : (compactItems (v :: values)).length < fuel := by
        simp only [compact, List.length_cons, List.length_append, List.length_nil] at enough
        omega
      obtain ⟨c, t, written, begins⟩ := begins_items (each v List.mem_cons_self).1 values
      have solid : skipGap (compactItems (v :: values) ++ ']' :: rest) = c :: (t ++ ']' :: rest) := by
        rw [written]
        exact skipGap_cons begins.1 _
      have read := items_written each (List.cons_ne_nil v values) long rest
      rw [written] at read
      rw [text, value, solid]
      split
      · rename_i same
        exact absurd (List.cons.inj same).1 begins.2
      · rw [← List.cons_append, read]
        rfl

theorem readsBack_object (distinct : (Table.names entries).Nodup)
    (each : ∀ entry ∈ entries, Exact entry.2 ∧ ReadsBack entry.2) : ReadsBack (.obj entries) := by
  intro fuel rest enough ends
  obtain ⟨fuel, rfl⟩ := Nat.exists_eq_succ_of_ne_zero (Nat.ne_of_gt (Nat.lt_of_lt_of_le (Nat.succ_pos _) enough))
  cases entries with
  | nil => rfl
  | cons entry entries =>
      have text : compact (.obj (entry :: entries)) ++ rest =
          '{' :: (compactMembers (entry :: entries) ++ '}' :: rest) := by
        simp [compact]
      have long : (compactMembers (entry :: entries)).length < fuel := by
        simp only [compact, List.length_cons, List.length_append, List.length_nil] at enough
        omega
      obtain ⟨t, written⟩ : ∃ t, compactMembers (entry :: entries) = '"' :: t := by
        cases entries <;> exact ⟨_, rfl⟩
      have read := members_written each (List.cons_ne_nil entry entries) long rest
      rw [written, List.cons_append] at read
      rw [text, value, written, List.cons_append, skipGap_cons (by decide)]
      change (members fuel ('"' :: (t ++ '}' :: rest))).map
        (fun r : List (Text × Json) × Text => (Json.obj (Table.ofWrites r.1), r.2)) = _
      rw [read, Option.map_some, Table.ofWrites_of_nodup distinct]

/-- **The text of a value without doubles is read back.** -/
theorem Exact.readsBack (exact : Exact v) : ReadsBack v := by
  induction exact with
  | null =>
      intro fuel rest enough _
      obtain ⟨fuel, rfl⟩ := Nat.exists_eq_add_of_le' (Nat.le_trans (by decide : 1 ≤ (compact .null).length) enough)
      rfl
  | bool b =>
      intro fuel rest enough _
      have some : 1 ≤ (compact (.bool b)).length := by cases b <;> decide
      obtain ⟨fuel, rfl⟩ := Nat.exists_eq_add_of_le' (Nat.le_trans some enough)
      cases b <;> rfl
  | @int i fits =>
      intro fuel rest enough ends
      obtain ⟨c, t, written, first⟩ := ofInt_begins i
      obtain ⟨-, noArray, noObject⟩ := begins_integer first
      rw [compact, written, List.length_cons] at enough
      obtain ⟨fuel, rfl⟩ := Nat.exists_eq_add_of_le' (Nat.le_trans (Nat.le_add_left 1 t.length) enough)
      rw [compact, ← scalar_integer fits ends, written]
      exact value_scalar noArray noObject (t ++ rest)
  | real given => exact given.elim
  | str s =>
      intro fuel rest enough _
      obtain ⟨fuel, rfl⟩ := Nat.exists_eq_succ_of_ne_zero (Nat.ne_of_gt (Nat.lt_of_lt_of_le (Nat.succ_pos _) enough))
      rw [compact, stringText_append, Nat.succ_eq_add_one, value_scalar (by decide) (by decide), scalar, stringBody_written]
      rfl
  | arr each ih => exact readsBack_array fun v listed => ⟨each v listed, ih v listed⟩
  | obj distinct each ih => exact readsBack_object distinct fun entry listed => ⟨each entry listed, ih entry listed⟩

/-- **The text of a value without doubles is read back as a whole.** -/
theorem decode?_compact (exact : Exact v) : decode? (compact v) = some v := by
  have solid := exact.skipGap []
  have read := exact.readsBack ((compact v).length + 1) [] (Nat.le_succ _) (by rintro c ⟨⟩)
  rw [List.append_nil] at solid read
  rw [decode?, solid, read]
  rfl

/-! ## Objects with one member -/

theorem exact_single (name : Text) (exact : Exact v) : Exact (.obj [(name, v)]) :=
  .obj (by simp [Table.names]) fun _ listed => List.mem_singleton.mp listed ▸ exact

/-- **An object with one member that holds a text is read back.** -/
theorem decode?_text (name s : Text) : decode? (compact (.obj [(name, .str s)])) = some (.obj [(name, .str s)]) :=
  decode?_compact (exact_single name (.str s))

/-- **An object with one member that holds an integer is read back**, if the integer is short enough to be read. -/
theorem decode?_integer (name : Text) {i : Int} (fits : (Text.ofNat i.natAbs).length ≤ Integer.digitLimit) :
    decode? (compact (.obj [(name, .int i)])) = some (.obj [(name, .int i)]) :=
  decode?_compact (exact_single name (.int fits))

/-- A value under a row of keys, from the outside. -/
def nested : List Text → Json
  | [] => null
  | key :: keys => obj [(key, nested keys)]

theorem exact_nested (keys : List Text) : Exact (nested keys) := by
  induction keys with
  | nil => exact .null
  | cons key keys ih => exact exact_single key ih

/-- **A row of nested objects is read back.** -/
theorem decode?_nested (keys : List Text) : decode? (compact (nested keys)) = some (nested keys) :=
  decode?_compact (exact_nested keys)

end ApiFlow.Json
