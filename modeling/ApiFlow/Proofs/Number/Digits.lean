import ApiFlow.Flow.Directive
import ApiFlow.Proofs.Text.Lines
import Mathlib.Data.List.TakeWhile

/-!
# Numbers that are written and read

The decimal text of a natural number is a row of digits, and that of an integer may have a sign in front; reading it gives
the number again, unless there are more digits than a literal may have.

The digits in front of a text may be digit signs without a decimal value, or too many to be read.  In both cases there
is no number; in all others it is the value of the digits, and zero where there are none.

* `Integer.read_ofInt`, `Flow.leadingNumber_ofNat` : reading what was written.
* `ofInt_injective` : different integers are written differently.
* `Integer.digitRunIn_ten` : how far a row of decimal digits goes.
* `Integer.read_digits` : when a row of digits can be read.
* `Flow.leadingNumber_ok_iff` : the number in front of a text.
-/

set_option autoImplicit false

namespace ApiFlow

/-! ## Digits -/

theorem isDigit_of_mem_ofNat {n : Nat} {c : Char} (member : c ∈ Text.ofNat n) : 48 ≤ c.toNat ∧ c.toNat ≤ 57 := by
  have digit : c.isDigit = true := Nat.isDigit_of_mem_toDigits (by decide) (by decide) member
  simpa [Char.isDigit, UInt32.le_iff_toNat_le] using digit

theorem ofNat_ne_nil (n : Nat) : Text.ofNat n ≠ [] := Nat.toDigits_ne_nil

theorem ofNat_injective {m n : Nat} (same : Text.ofNat m = Text.ofNat n) : m = n := by
  have value (k : Nat) : Nat.ofDigitChars 10 (Text.ofNat k) 0 = k := Nat.ofDigitChars_toDigits (by decide) (by decide)
  rw [← value m, same, value n]

/-- So many digits behind a number in front. -/
theorem ofDigitChars_lt {s : Text} (digits : ∀ c ∈ s, 48 ≤ c.toNat ∧ c.toNat ≤ 57) (front : Nat) :
    Nat.ofDigitChars 10 s front < (front + 1) * tenTo s.length := by
  induction s generalizing front with
  | nil => simp [Nat.ofDigitChars, tenTo]
  | cons c s ih =>
      obtain ⟨here, rest⟩ := List.forall_mem_cons.mp digits
      have next : tenTo (c :: s).length = 10 * tenTo s.length := by
        rw [Nat.mul_comm]
        exact Nat.pow_succ (m := s.length) (n := 10)
      have zero : '0'.toNat = 48 := rfl
      rw [Nat.ofDigitChars_cons]
      calc Nat.ofDigitChars 10 s (10 * front + (c.toNat - '0'.toNat))
          < (10 * front + (c.toNat - '0'.toNat) + 1) * tenTo s.length := ih rest _
        _ ≤ ((front + 1) * 10) * tenTo s.length := Nat.mul_le_mul_right _ (by omega)
        _ = (front + 1) * tenTo (c :: s).length := by rw [next, Nat.mul_assoc]

/-- Different integers are written differently. -/
theorem ofInt_injective {i j : Int} (same : Text.ofInt i = Text.ofInt j) : i = j := by
  have noSign (n : Nat) (s : Text) : Text.ofNat n ≠ '-' :: s := by
    intro written
    have digit := isDigit_of_mem_ofNat (n := n) (c := '-') (by rw [written]; exact List.mem_cons_self)
    exact absurd digit (by decide)
  rw [Text.ofInt, Text.ofInt] at same
  split at same <;> split at same
  · have := ofNat_injective (List.cons.inj same).2
    omega
  · exact absurd same.symm (noSign _ _)
  · exact absurd same (noSign _ _)
  · have := ofNat_injective same
    omega

namespace Text

variable {c : Char}

theorem decimalValue?_digit (digit : 48 ≤ c.toNat ∧ c.toNat ≤ 57) : decimalValue? c = some (c.toNat - 48) := by
  rw [decimalValue?]
  simp [digit.1, digit.2]

theorem isDigit_digit (digit : 48 ≤ c.toNat ∧ c.toNat ≤ 57) : isDigit c = true := by
  rw [isDigit, isDecimal, decimalValue?_digit digit]
  rfl

theorem isBlank_digit (digit : 48 ≤ c.toNat ∧ c.toNat ≤ 57) : isBlank c = false := by
  obtain ⟨low, high⟩ := digit
  simp only [isBlank, Bool.or_eq_false_iff, Bool.and_eq_false_iff, decide_eq_false_iff_not]
  omega

theorem blankFree_ofNat (n : Nat) : BlankFree (ofNat n) :=
  fun _ member => isBlank_digit (isDigit_of_mem_ofNat member)

end Text

/-! ## Reading -/

namespace Integer

theorem digitIn?_digit {c : Char} (digit : 48 ≤ c.toNat ∧ c.toNat ≤ 57) : digitIn? 10 c = some (c.toNat - 48) := by
  have small : c.toNat - 48 < 10 := by omega
  rw [digitIn?, Text.decimalValue?_digit digit]
  simp [small]

/-- A row of digits is read to its end. -/
theorem digitRunIn_digits {s : Text} (digits : ∀ c ∈ s, 48 ≤ c.toNat ∧ c.toNat ≤ 57) (afterDigit : Bool) :
    digitRunIn 10 afterDigit s = some (s.map fun c => c.toNat - 48, []) := by
  induction s generalizing afterDigit with
  | nil => rfl
  | cons c s ih =>
      obtain ⟨here, rest⟩ := List.forall_mem_cons.mp digits
      unfold digitRunIn
      rw [digitIn?_digit here]
      dsimp only
      rw [ih rest]
      rfl

theorem signOf_digits {s : Text} (digits : ∀ c ∈ s, 48 ≤ c.toNat ∧ c.toNat ≤ 57) : signOf s = (false, s) := by
  unfold signOf
  split
  · exact absurd (digits _ List.mem_cons_self) (by decide)
  · exact absurd (digits _ List.mem_cons_self) (by decide)
  · rfl

theorem dropMark_ten (s : Text) : dropMark 10 s = s := by
  have none : markLetter? 10 = none := rfl
  unfold dropMark
  split
  · simp [none]
  · rfl

/-- The value of a row of digits. -/
theorem valueOf_digits (s : Text) : valueOf (s.map fun c => c.toNat - 48) = Nat.ofDigitChars 10 s 0 := by
  rw [valueOf, valueIn, List.foldl_map, Nat.ofDigitChars_eq_foldl]
  congr 1
  funext total c
  rw [Nat.mul_comm]
  rfl

theorem signOf_ofInt (i : Int) : signOf (Text.ofInt i) = (decide (i < 0), Text.ofNat i.natAbs) := by
  rw [Text.ofInt]
  by_cases negative : i < 0
  · rw [if_pos negative, decide_eq_true negative]
    rfl
  · rw [if_neg negative, decide_eq_false negative]
    exact signOf_digits fun _ member => isDigit_of_mem_ofNat member

theorem trimNumber_ofInt (i : Int) : Text.trimNumber (Text.ofInt i) = Text.ofInt i := by
  have solid : ∀ c ∈ Text.ofInt i, Text.isNumberBlank c = false := by
    intro c member
    have blank : Text.isBlank c = false := by
      rw [Text.ofInt] at member
      split at member
      · rcases List.mem_cons.mp member with rfl | digit
        · decide
        · exact Text.blankFree_ofNat _ c digit
      · exact Text.blankFree_ofNat _ c member
    rw [Text.isNumberBlank, blank]
    rfl
  rw [Text.trimNumber, Text.dropWhile_eq_self fun c first => solid c (List.mem_of_mem_head? first),
    Text.dropEndWhile_eq_self fun c last => solid c (List.mem_of_mem_getLast? last)]

/-- **Reading an integer that was written.** -/
theorem read_ofInt {i : Int} (fits : (Text.ofNat i.natAbs).length ≤ digitLimit) : read (Text.ofInt i) = .ok i := by
  have digits : ∀ c ∈ Text.ofNat i.natAbs, 48 ≤ c.toNat ∧ c.toNat ≤ 57 := fun _ member => isDigit_of_mem_ofNat member
  have value : valueIn 10 ((Text.ofNat i.natAbs).map fun c => c.toNat - 48) = i.natAbs :=
    (valueOf_digits (Text.ofNat i.natAbs)).trans (Nat.ofDigitChars_toDigits (by decide) (by decide))
  have some : (Text.ofNat i.natAbs).map (fun c => c.toNat - 48) ≠ [] := by simp [ofNat_ne_nil]
  have signed : (if decide (i < 0) = true then -(i.natAbs : Int) else i.natAbs) = i := by
    split <;> simp only [decide_eq_true_eq] at * <;> omega
  rw [read, readIn, trimNumber_ofInt, signOf_ofInt]
  dsimp only
  rw [dropMark_ten, digitRunIn_digits digits]
  dsimp only
  rw [if_neg (by simp [Nat.not_lt.mpr fits]), if_neg (by simpa using some), value, signed]

/-- **Reading a number that was written.** -/
theorem read_ofNat {n : Nat} (fits : (Text.ofNat n).length ≤ digitLimit) : read (Text.ofNat n) = .ok n :=
  read_ofInt (i := n) fits

end Integer

theorem Flow.leadingNumber_ofNat {n : Nat} (fits : (Text.ofNat n).length ≤ Integer.digitLimit) :
    leadingNumber (Text.ofNat n) = .ok n := by
  have all : (Text.ofNat n).takeWhile Text.isDigit = Text.ofNat n := by
    have whole : (Text.ofNat n ++ []).takeWhile Text.isDigit = Text.ofNat n ++ [].takeWhile Text.isDigit :=
      List.takeWhile_append_of_pos fun _ member => Text.isDigit_digit (isDigit_of_mem_ofNat member)
    simpa using whole
  obtain ⟨d, digits, some⟩ := List.exists_cons_of_ne_nil (ofNat_ne_nil n)
  rw [leadingNumber, (Text.blankFree_ofNat n).trimmed, all, some]
  dsimp only
  rw [← some, Integer.read_ofNat fits]
  rfl

/-! ## Digits of any script -/

namespace Text

/-- The digits of any script and the digit signs are no blanks. -/
theorem isBlank_of_isDigit {c : Char} (digit : isDigit c = true) : isBlank c = false := by
  have blanks : ∀ n ∈ [9, 10, 11, 12, 13, 28, 29, 30, 31, 32, 0x85, 0xa0, 0x1680, 0x2000, 0x2001, 0x2002, 0x2003,
      0x2004, 0x2005, 0x2006, 0x2007, 0x2008, 0x2009, 0x200a, 0x2028, 0x2029, 0x202f, 0x205f, 0x3000],
      isDigit (Char.ofNat n) = false := by decide
  by_contra blank
  have listed := blanks c.toNat (by
    simp only [isBlank, Bool.not_eq_false, Bool.or_eq_true, Bool.and_eq_true, decide_eq_true_eq] at blank
    simp only [List.mem_cons, List.not_mem_nil, or_false]
    omega)
  rw [Char.ofNat_toNat, digit] at listed
  cases listed

theorem decimalValue?_lt {c : Char} {d : Nat} (value : decimalValue? c = some d) : d < 10 := by
  unfold decimalValue? at value
  dsimp only at value
  split at value
  · rename_i ascii
    simp only [Bool.and_eq_true, decide_eq_true_eq] at ascii
    cases value
    omega
  · split at value
    · cases value
    · obtain ⟨r, -, rfl⟩ := Option.map_eq_some_iff.mp value
      exact Nat.mod_lt _ (by decide)

end Text

namespace Integer

/-- To base ten no letter is a digit. -/
theorem digitIn?_ten (c : Char) : digitIn? 10 c = Text.decimalValue? c := by
  rw [digitIn?]
  cases value : Text.decimalValue? c with
  | some d => simpa using Text.decimalValue?_lt value
  | none =>
      have letter : ∀ d ∈ letterValue? c, ¬d < 10 := by
        intro d known
        unfold letterValue? at known
        simp only [Char.le_def, UInt32.le_iff_toNat_le, Bool.and_eq_true, decide_eq_true_eq] at known
        have small : 'a'.val.toNat = 97 := rfl
        have large : 'A'.val.toNat = 65 := rfl
        have code : c.val.toNat = c.toNat := rfl
        split at known
        · cases known
          omega
        · split at known <;> cases known
          omega
      simpa using letter

/-- **A row of decimal digits** goes as far as the digits go, where no underscore stands. -/
theorem digitRunIn_ten {s : Text} (free : '_' ∉ s) (afterDigit : Bool) :
    digitRunIn 10 afterDigit s =
      some ((s.takeWhile Text.isDecimal).filterMap Text.decimalValue?, s.dropWhile Text.isDecimal) := by
  induction s generalizing afterDigit with
  | nil => rfl
  | cons c s ih =>
      obtain ⟨here, free⟩ := not_or.mp (mt List.mem_cons.mpr free)
      unfold digitRunIn
      rw [digitIn?_ten]
      cases value : Text.decimalValue? c with
      | some d =>
          have decimal : Text.isDecimal c = true := by rw [Text.isDecimal, value, Option.isSome_some]
          dsimp only
          rw [ih free, List.takeWhile_cons_of_pos decimal, List.dropWhile_cons_of_pos decimal,
            List.filterMap_cons_some value]
          rfl
      | none =>
          have sign : ¬Text.isDecimal c = true := by simp [Text.isDecimal, value]
          dsimp only
          rw [if_neg (Ne.symm here), List.takeWhile_cons_of_neg sign, List.dropWhile_cons_of_neg sign]
          rfl

/-- Digits that can be read: they have decimal values and are not too many. -/
def Readable (digits : Text) : Prop := (∀ c ∈ digits, Text.isDecimal c = true) ∧ digits.length ≤ digitLimit

instance (digits : Text) : Decidable (Readable digits) := inferInstanceAs (Decidable (_ ∧ _))

/-- The number that decimal digits spell; zero where there are none. -/
def spelled (digits : Text) : Nat := valueOf (digits.filterMap Text.decimalValue?)

/-- Neither blanks nor signs stand around digits. -/
theorem bare_digits {s : Text} (digits : ∀ c ∈ s, Text.isDigit c = true) : signOf (Text.trimNumber s) = (false, s) := by
  have solid : ∀ c ∈ s, Text.isNumberBlank c = false := by
    intro c member
    rw [Text.isNumberBlank, Text.isBlank_of_isDigit (digits c member)]
    rfl
  rw [Text.trimNumber, Text.dropWhile_eq_self fun c first => solid c (List.mem_of_mem_head? first),
    Text.dropEndWhile_eq_self fun c last => solid c (List.mem_of_mem_getLast? last)]
  unfold signOf
  split
  · exact absurd (digits '-' List.mem_cons_self) (by decide)
  · exact absurd (digits '+' List.mem_cons_self) (by decide)
  · rfl

/-- **When a row of digits can be read**, and what it spells. -/
theorem read_digits {s : Text} (some : s ≠ []) (digits : ∀ c ∈ s, Text.isDigit c = true) :
    (Readable s → read s = .ok (spelled s)) ∧ (¬Readable s → ∃ e, read s = .error e) := by
  have free : '_' ∉ s := fun member => absurd (digits '_' member) (by decide)
  have opened : read s =
      if ((s.takeWhile Text.isDecimal).filterMap Text.decimalValue?).length > digitLimit then
        .error (.tooLong ((s.takeWhile Text.isDecimal).filterMap Text.decimalValue?).length)
      else if ((s.takeWhile Text.isDecimal).filterMap Text.decimalValue?).isEmpty ||
          !(s.dropWhile Text.isDecimal).isEmpty then .error (.literal 10 s)
      else .ok (spelled (s.takeWhile Text.isDecimal)) := by
    have unmarked : (markLetter? 10).isNone = true := rfl
    rw [read, readIn, bare_digits digits]
    dsimp only
    rw [dropMark_ten, digitRunIn_ten free, unmarked]
    simp [spelled, valueOf]
  have counted {t : Text} (decimal : ∀ c ∈ t, Text.isDecimal c = true) :
      (t.filterMap Text.decimalValue?).length = t.length :=
    List.filterMap_length_eq_length.mpr decimal
  have taken : ∀ c ∈ s.takeWhile Text.isDecimal, Text.isDecimal c = true := fun c => List.mem_takeWhile_imp
  rw [opened, counted taken]
  constructor
  · rintro ⟨decimal, short⟩
    have whole : s.takeWhile Text.isDecimal = s := List.takeWhile_eq_self_iff.mpr decimal
    have none : s.dropWhile Text.isDecimal = [] := List.dropWhile_eq_nil_iff.mpr decimal
    have filled : s.filterMap Text.decimalValue? ≠ [] := by
      rw [← List.length_pos_iff, counted decimal, List.length_pos_iff]
      exact some
    rw [whole, none, if_neg (Nat.not_lt.mpr short), if_neg (by simpa using filled)]
  · intro unreadable
    split
    · exact ⟨_, rfl⟩
    · rename_i short
      have rest : s.dropWhile Text.isDecimal ≠ [] := by
        intro none
        have decimal := List.dropWhile_eq_nil_iff.mp none
        rw [List.takeWhile_eq_self_iff.mpr decimal] at short
        exact unreadable ⟨decimal, Nat.not_lt.mp short⟩
      rw [if_pos (by simp [rest])]
      exact ⟨_, rfl⟩

end Integer

namespace Flow

/-- The digits in front of a text. -/
def leadingDigits (value : Text) : Text := (Text.trim value).takeWhile Text.isDigit

/-- **The number in front of a text** is the one that its first digits spell, if they can be read. -/
theorem leadingNumber_ok_iff {value : Text} {n : Nat} :
    leadingNumber value = .ok n ↔
      Integer.Readable (leadingDigits value) ∧ n = Integer.spelled (leadingDigits value) := by
  have digits : ∀ c ∈ leadingDigits value, Text.isDigit c = true := fun c => List.mem_takeWhile_imp
  cases found : leadingDigits value with
  | nil =>
      have zero : leadingNumber value = .ok 0 := by rw [leadingNumber, ← leadingDigits, found]
      have readable : Integer.Readable [] := ⟨List.forall_mem_nil _, Nat.zero_le _⟩
      have spelled : Integer.spelled [] = 0 := rfl
      simp [zero, readable, spelled, eq_comm]
  | cons d rest =>
      have opened : leadingNumber value = (Integer.read (d :: rest)).map Int.toNat := by
        rw [leadingNumber, ← leadingDigits, found]
      rw [found] at digits
      obtain ⟨right, wrong⟩ := Integer.read_digits (List.cons_ne_nil d rest) digits
      by_cases readable : Integer.Readable (d :: rest)
      · simp [opened, right readable, readable, Except.map, eq_comm]
      · obtain ⟨e, refused⟩ := wrong readable
        simp [opened, refused, readable, Except.map]

end Flow

end ApiFlow
