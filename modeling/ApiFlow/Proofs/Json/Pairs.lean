import ApiFlow.Json.Parser

/-!
# Code units in pairs

A JSON string may spell a character beyond the first plane as two code units, a high one and a low one.  It may as well
spell one of the two alone.  A text of this library is a row of characters, and half a pair is none: it is read as the
replacement character, which is the one place where the reader loses something.  Texts in which that does not happen
are whole.

* `unitsOf_joinPieces_iff` : a string is read to the code units that it spells exactly if its units are paired.
* `scan_of_pieces` : scanning a text from its start meets each of its strings as the reader does.
* `Whole.stringBody` : the strings of a whole text are read to the code units that they spell.
-/

set_option autoImplicit false

namespace ApiFlow.Json

/-! ## Code units -/

/-- The code units of a character. -/
def charUnits (c : Char) : List Nat :=
  if c.toNat < 0x10000 then [c.toNat]
  else [0xd800 + (c.toNat - 0x10000) / 1024, 0xdc00 + (c.toNat - 0x10000) % 1024]

/-- The code units of a text. -/
def unitsOf (s : Text) : List Nat := s.flatMap charUnits

/-- The code units that a piece spells. -/
def Piece.units : Piece → List Nat
  | .char c => charUnits c
  | .unit n => [n]

/-- One unit of a pair. -/
def isHalf (n : Nat) : Bool := isHigh n || isLow n

/-- Each unit of a pair stands beside the other one. -/
def isPaired : List Piece → Bool
  | [] => true
  | .char _ :: rest => isPaired rest
  | .unit n :: .unit m :: rest =>
    if isHigh n && isLow m then isPaired rest else !isHalf n && isPaired (.unit m :: rest)
  | .unit n :: rest => !isHalf n && isPaired rest

variable {n m : Nat} {ps : List Piece} {s rest : Text}

theorem toNat_ofNat_of_valid (valid : n.isValidChar) : (Char.ofNat n).toNat = n := by
  rw [Char.ofNat, dif_pos valid]
  rfl

theorem charUnits_pair (high : isHigh n = true) (low : isLow m = true) :
    charUnits (Char.ofNat (0x10000 + (n - 0xd800) * 1024 + (m - 0xdc00))) = [n, m] := by
  simp only [isHigh, isLow, Bool.and_eq_true, decide_eq_true_eq] at high low
  have valid : (0x10000 + (n - 0xd800) * 1024 + (m - 0xdc00)).isValidChar := by
    refine Or.inr ⟨?_, ?_⟩ <;> omega
  rw [charUnits, toNat_ofNat_of_valid valid, if_neg (by omega)]
  simp only [List.cons.injEq, and_true]
  omega

theorem charUnits_unitChar (short : n < 0x10000) (alone : isHalf n = false) : charUnits (unitChar n) = [n] := by
  have valid : n.isValidChar := by
    simp only [isHalf, isHigh, isLow, Bool.or_eq_false_iff, Bool.and_eq_false_iff, decide_eq_false_iff_not] at alone
    unfold Nat.isValidChar
    omega
  rw [isHalf] at alone
  rw [unitChar, alone, if_neg Bool.false_ne_true, charUnits, toNat_ofNat_of_valid valid, if_pos short]

/-- Half a pair is read as another unit. -/
theorem charUnits_unitChar_of_isHalf (half : isHalf n = true) : charUnits (unitChar n) = [0xfffd] := by
  rw [isHalf] at half
  rw [unitChar, if_pos half]
  rfl

theorem ne_replacement (half : isHalf n = true) : 0xfffd ≠ n := by
  simp only [isHalf, isHigh, isLow, Bool.or_eq_true, Bool.and_eq_true, decide_eq_true_eq] at half
  omega

/-- A unit that stands alone is read as it is written exactly if it is not half a pair. -/
theorem alone_iff {more : Text} {units : List Nat} (short : n < 0x10000) :
    charUnits (unitChar n) ++ unitsOf more = n :: units ↔ isHalf n = false ∧ unitsOf more = units := by
  cases half : isHalf n with
  | true =>
      rw [charUnits_unitChar_of_isHalf half]
      simp [ne_replacement half]
  | false =>
      rw [charUnits_unitChar short half]
      simp

/-- **A string is read to the code units that it spells exactly if its units are paired.** -/
theorem unitsOf_joinPieces_iff (short : ∀ n, Piece.unit n ∈ ps → n < 0x10000) :
    unitsOf (joinPieces ps) = ps.flatMap Piece.units ↔ isPaired ps = true := by
  fun_induction joinPieces ps with
  | case1 => simp [unitsOf, isPaired]
  | case2 c rest ih =>
      have ih := ih fun n member => short n (List.mem_cons_of_mem _ member)
      simpa [unitsOf, isPaired, Piece.units] using ih
  | case3 n m rest pair ih =>
      have ih := ih fun k member => short k (List.mem_cons_of_mem _ (List.mem_cons_of_mem _ member))
      rw [isPaired, if_pos pair, ← ih]
      rw [Bool.and_eq_true] at pair
      rw [unitsOf, List.flatMap_cons, charUnits_pair pair.1 pair.2]
      simp [unitsOf, Piece.units]
  | case4 n m rest unpaired ih =>
      have ih := ih fun k member => short k (List.mem_cons_of_mem _ member)
      rw [isPaired, if_neg unpaired, Bool.and_eq_true, Bool.not_eq_true', ← ih, unitsOf, List.flatMap_cons,
        List.flatMap_cons]
      exact alone_iff (short n (by simp))
  | case5 n rest last ih =>
      have ih := ih fun k member => short k (List.mem_cons_of_mem _ member)
      rw [isPaired, Bool.and_eq_true, Bool.not_eq_true', ← ih, unitsOf, List.flatMap_cons, List.flatMap_cons]
      · exact alone_iff (short n (by simp))
      · exact last

/-! ## Whole texts -/

/-- The pieces of a text that is scanned from its start.  Outside of strings JSON has no backslash, so the units that
are met are those in the strings. -/
def scan : Text → List Piece
  | [] => []
  | '\\' :: 'u' :: a :: b :: c :: d :: s => ((unitOf? a b c d).elim (.char 'u') .unit) :: scan s
  | '\\' :: e :: s => .char ((escape? e).getD e) :: scan s
  | c :: s => .char c :: scan s

/-- A text in which each unit of a pair stands beside the other one. -/
def Whole (s : Text) : Prop := isPaired (scan s) = true

instance (s : Text) : Decidable (Whole s) := inferInstanceAs (Decidable (isPaired (scan s) = true))

/-- A character ends a row of units. -/
theorem isPaired_append_char (ps qs : List Piece) (c : Char) :
    isPaired (ps ++ .char c :: qs) = (isPaired ps && isPaired qs) := by
  fun_induction isPaired ps with
  | case1 => simp [isPaired]
  | case2 d rest ih => simpa [isPaired] using ih
  | case3 n m rest pair ih => simpa [isPaired, pair] using ih
  | case4 n m rest unpaired ih =>
      simp only [List.cons_append] at ih
      simp [isPaired, unpaired, ih, Bool.and_assoc]
  | case5 n rest last ih =>
      cases rest with
      | nil => simp [isPaired]
      | cons p rest =>
          cases p with
          | char d =>
              simp only [List.cons_append, isPaired] at ih
              simp [isPaired, ih, Bool.and_assoc]
          | unit m => exact absurd rfl (last m rest)

theorem hexValue?_lt {c : Char} (digit : hexValue? c = some n) : n < 16 := by
  have code {a b : Char} : a ≤ b ↔ a.toNat ≤ b.toNat := Iff.rfl
  have ends : '9'.toNat = 57 ∧ 'f'.toNat = 102 ∧ 'F'.toNat = 70 := ⟨rfl, rfl, rfl⟩
  simp only [hexValue?, Bool.and_eq_true, decide_eq_true_eq, code, ends] at digit
  split at digit
  · cases digit
    omega
  split at digit
  · cases digit
    omega
  split at digit
  · cases digit
    omega
  · cases digit

theorem unitOf?_lt {a b c d : Char} (unit : unitOf? a b c d = some n) : n < 0x10000 := by
  simp only [unitOf?, Option.bind_eq_bind, Option.bind_eq_some_iff, Option.some.injEq] at unit
  obtain ⟨x, hx, y, hy, z, hz, w, hw, rfl⟩ := unit
  have := hexValue?_lt hx
  have := hexValue?_lt hy
  have := hexValue?_lt hz
  have := hexValue?_lt hw
  omega

/-- **Scanning a text meets each of its strings as the reader does**, and a unit is what four digits spell. -/
theorem scan_of_pieces (read : pieces s = some (ps, rest)) :
    scan s = ps ++ .char '"' :: scan rest ∧ ∀ n, Piece.unit n ∈ ps → n < 0x10000 := by
  fun_induction pieces s generalizing ps with
  | case1 => cases read
  | case2 s =>
      cases read
      exact ⟨by rw [scan] <;> simp, by simp⟩
  | case3 a b c d s ih =>
      obtain ⟨n, unit, ⟨qs, after⟩, more, same⟩ := by
        simpa only [Option.bind_eq_bind, Option.bind_eq_some_iff] using read
      cases same
      obtain ⟨scanned, short⟩ := ih more
      refine ⟨by rw [scan, unit, scanned]; rfl, ?_⟩
      intro k member
      rcases List.mem_cons.mp member with here | later
      · cases here
        exact unitOf?_lt unit
      · exact short k later
  | case4 e s other ih =>
      obtain ⟨c, escaped, ⟨qs, after⟩, more, same⟩ := by
        simpa only [Option.bind_eq_bind, Option.bind_eq_some_iff] using read
      cases same
      obtain ⟨scanned, short⟩ := ih more
      refine ⟨by rw [scan, escaped, scanned]; rfl; exact other, ?_⟩
      intro k member
      exact short k (by simpa using member)
  | case5 c s => cases read
  | case6 c s quote unit slash visible ih =>
      obtain ⟨⟨qs, after⟩, more, same⟩ := by
        simpa only [Option.bind_eq_bind, Option.bind_eq_some_iff] using read
      cases same
      obtain ⟨scanned, short⟩ := ih more
      refine ⟨by rw [scan, scanned]; rfl; exact unit; exact slash, ?_⟩
      intro k member
      exact short k (by simpa using member)

/-- **The strings of a whole text are read to the code units that they spell**, and what follows a string is whole
again. -/
theorem Whole.stringBody {text : Text} (whole : Whole s) (read : stringBody s = some (text, rest)) :
    ∃ ps, pieces s = some (ps, rest) ∧ unitsOf text = ps.flatMap Piece.units ∧ Whole rest := by
  obtain ⟨⟨ps, after⟩, met, same⟩ := Option.map_eq_some_iff.mp read
  cases same
  obtain ⟨scanned, short⟩ := scan_of_pieces met
  rw [Whole, scanned, isPaired_append_char, Bool.and_eq_true] at whole
  exact ⟨ps, met, (unitsOf_joinPieces_iff short).mpr whole.1, whole.2⟩

/-- A pair in full, and half of one. -/
example : Whole "[\"\\ud83d\\ude00\"]".toList ∧ ¬ Whole "[\"\\ud83d\"]".toList := by decide

end ApiFlow.Json
