import ApiFlow.Proofs.Text.Fields
import ApiFlow.Text.Case

/-!
# ASCII characters

What holds of all ASCII characters is checked one by one.  Among them the case of a letter is one bit, so that upper and
lower case undo each other, and the case of a text is that of its characters.

* `IsAscii` : texts of ASCII characters, and `ascii_induction` : checking all of them.
* `toLower_toUpper`, `toUpper_toLower` : only the last change of case counts.
* `trim_map_toLower` : blanks have no case.
* `lower_ascii`, `upperChar_ascii` : the case of ASCII texts and characters.
-/

set_option autoImplicit false

namespace ApiFlow.Text

variable {c : Char} {s : Text}

/-- What holds of the ASCII characters, one by one. -/
@[elab_as_elim]
theorem ascii_induction {P : Char → Prop} (each : ∀ n < 128, P (Char.ofNat n)) (c : Char) (ascii : c.toNat < 128) : P c :=
  Char.ofNat_toNat c ▸ each c.toNat ascii

/-- A text of ASCII characters. -/
def IsAscii (s : Text) : Prop := ∀ c ∈ s, c.toNat < 128

instance (s : Text) : Decidable (IsAscii s) := List.decidableBAll (fun c : Char => c.toNat < 128) s

theorem mem_of_mem_trim (listed : c ∈ trim s) : c ∈ s := by
  rw [trim, trimRight, dropEndWhile, List.mem_reverse] at listed
  exact (List.dropWhile_subset _) (List.mem_reverse.mp ((List.dropWhile_subset _) listed))

theorem IsAscii.trim (ascii : IsAscii s) : IsAscii (Text.trim s) := fun c listed => ascii c (mem_of_mem_trim listed)

/-- Letters and digits of ASCII. -/
theorem ascii_of_isAlphanum (letter : c.isAlphanum = true) : c.toNat < 128 := by
  change ((decide ('A'.val ≤ c.val ∧ c.val ≤ 'Z'.val) || decide ('a'.val ≤ c.val) && decide (c.val ≤ 'z'.val)) ||
    decide ('0'.val ≤ c.val) && decide (c.val ≤ '9'.val)) = true at letter
  simp only [Bool.or_eq_true, Bool.and_eq_true, decide_eq_true_eq, UInt32.le_iff_toNat_le] at letter
  rcases letter with (upper | lower) | digit
  · exact Nat.lt_of_le_of_lt upper.2 (by decide)
  · exact Nat.lt_of_le_of_lt lower.2 (by decide)
  · exact Nat.lt_of_le_of_lt digit.2 (by decide)

/-! ## Case of characters -/

/-- Characters beyond ASCII stay as they are. -/
theorem toLower_of_not_ascii (wide : ¬ c.toNat < 128) : c.toLower = c :=
  dif_neg fun upper => wide (Nat.lt_of_le_of_lt (UInt32.le_iff_toNat_le.mp upper.2) (by decide))

theorem toUpper_of_not_ascii (wide : ¬ c.toNat < 128) : c.toUpper = c :=
  dif_neg fun lower => wide (Nat.lt_of_le_of_lt (UInt32.le_iff_toNat_le.mp lower.2) (by decide))

theorem toLower_toLower (c : Char) : c.toLower.toLower = c.toLower := by
  by_cases ascii : c.toNat < 128
  · refine ascii_induction ?_ c ascii
    decide
  · rw [toLower_of_not_ascii ascii, toLower_of_not_ascii ascii]

theorem toLower_toUpper (c : Char) : c.toUpper.toLower = c.toLower := by
  by_cases ascii : c.toNat < 128
  · refine ascii_induction ?_ c ascii
    decide
  · rw [toUpper_of_not_ascii ascii]

theorem toUpper_toLower (c : Char) : c.toLower.toUpper = c.toUpper := by
  by_cases ascii : c.toNat < 128
  · refine ascii_induction ?_ c ascii
    decide
  · rw [toLower_of_not_ascii ascii]

/-- A hyphen has no case. -/
theorem toLower_eq_hyphen_iff (c : Char) : c.toLower = '-' ↔ c = '-' := by
  by_cases ascii : c.toNat < 128
  · refine ascii_induction ?_ c ascii
    decide
  · rw [toLower_of_not_ascii ascii]

theorem isBlank_toLower (c : Char) : isBlank c.toLower = isBlank c := by
  by_cases ascii : c.toNat < 128
  · refine ascii_induction ?_ c ascii
    decide
  · rw [toLower_of_not_ascii ascii]

/-! ## Case of texts -/

/-- Trimming sees no case. -/
theorem trim_map_toLower (s : Text) : trim (s.map Char.toLower) = (trim s).map Char.toLower := by
  have blank : isBlank ∘ Char.toLower = isBlank := funext isBlank_toLower
  have left (s : Text) : (s.map Char.toLower).dropWhile isBlank = (s.dropWhile isBlank).map Char.toLower := by
    rw [List.dropWhile_map, blank]
  rw [trim, trim, trimLeft, trimLeft, left, trimRight, trimRight, dropEndWhile, dropEndWhile, ← List.map_reverse, left,
    List.map_reverse]

theorem upperChar_ascii (ascii : c.toNat < 128) : upperChar c = [c.toUpper] := if_pos ascii

theorem lowerFrom_ascii (ascii : IsAscii s) (afterLetter : Bool) : lowerFrom afterLetter s = s.map Char.toLower := by
  induction s generalizing afterLetter with
  | nil => rfl
  | cons c s ih =>
      obtain ⟨here, rest⟩ := List.forall_mem_cons.mp ascii
      have simple : lowerSimple c = c.toLower := if_pos here
      rw [lowerFrom, if_neg (by omega), if_neg (by omega), simple, ih rest]
      rfl

theorem lower_ascii (ascii : IsAscii s) : lower s = s.map Char.toLower := lowerFrom_ascii ascii false

end ApiFlow.Text
