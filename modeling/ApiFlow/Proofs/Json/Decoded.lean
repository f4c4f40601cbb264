import ApiFlow.Body.Path
import ApiFlow.Proofs.Json.RoundTrip

/-!
# What can be read can be written

Reading a text gives integers that are short enough to be read again, and objects that have each name once.  The same
holds of every array and object inside, so what a path leads to can be written and read back if it has no doubles.

* `Sound` : values as they are read.
* `decode?_sound` : every value that is read is of that kind.
* `RealFree`, `Over.exact` : a sound value without doubles is read back from its text.
* `follow_sound` : what a path leads to in a sound value is sound, if it is an array or an object.
-/

set_option autoImplicit false

namespace ApiFlow

namespace Json

/-- A value as it is read: any doubles, integers that are short enough, and objects with each name once. -/
abbrev Sound : Json → Prop := Over fun _ => True

/-- A value without doubles. -/
inductive RealFree : Json → Prop where
  | null : RealFree .null
  | bool (b : Bool) : RealFree (.bool b)
  | int (i : Int) : RealFree (.int i)
  | str (s : Text) : RealFree (.str s)
  | arr {items : List Json} (each : ∀ item ∈ items, RealFree item) : RealFree (.arr items)
  | obj {members : List (Text × Json)} (each : ∀ member ∈ members, RealFree member.2) : RealFree (.obj members)

variable {v : Json} {s rest : Text} {fuel : Nat}

/-- A sound value without doubles can be read as it is written. -/
theorem Over.exact {kind : Double → Prop} (sound : Over kind v) (free : RealFree v) : Exact v := by
  induction sound with
  | null => exact .null
  | bool b => exact .bool b
  | int fits => exact .int fits
  | real given => cases free
  | str s => exact .str s
  | arr each ih =>
      cases free with
      | arr free => exact .arr fun item listed => ih item listed (free item listed)
  | obj distinct each ih =>
      cases free with
      | obj free => exact .obj distinct fun member listed => ih member listed (free member listed)

/-! ## Scalars -/

/-- The number that digits spell is written with no more digits, whatever zeros they begin with. -/
theorem length_digitsValue_le (digits : ∀ c ∈ s, isDigit c = true) (some : s ≠ []) :
    (Text.ofNat (digitsValue s)).length ≤ s.length := by
  have decimal : ∀ c ∈ s, 48 ≤ c.toNat ∧ c.toNat ≤ 57 := by
    intro c listed
    have digit := digits c listed
    rw [isDigit, Bool.and_eq_true, decide_eq_true_iff, decide_eq_true_iff] at digit
    exact digit
  have small := ofDigitChars_lt decimal 0
  rw [Nat.zero_add, Nat.one_mul] at small
  refine (Nat.length_toDigits_le_iff (by decide) (List.length_pos_iff.mpr some)).mpr ?_
  rw [digitsValue, Integer.valueOf_digits]
  exact small

theorem natAbs_signed (negative : Bool) (n : Nat) : (Double.signed negative n).natAbs = n := by
  cases negative <;> simp [Double.signed]

theorem numberBody_sound {negative : Bool} (read : numberBody negative s = some (v, rest)) : Sound v := by
  unfold numberBody at read
  split at read
  rename_i whole behind span
  have digits : ∀ c ∈ whole, isDigit c = true := by
    split at span
    · cases span
      exact List.forall_mem_singleton.mpr (by decide)
    · cases span
      exact List.all_eq_true.mp List.all_takeWhile
  split at read
  · cases read
  rename_i filled
  have some : whole ≠ [] := by simpa using filled
  dsimp only at read
  split at read
  · split at read
    · cases read
    rename_i short
    cases read
    refine .int ?_
    rw [natAbs_signed]
    exact Nat.le_trans (length_digitsValue_le digits some) (Nat.not_lt.mp short)
  · cases read
    exact .real trivial

theorem sound_of_map {α : Type} {found : Option α} {f : α → Json × Text} (each : ∀ a, Sound (f a).1)
    (read : found.map f = some (v, rest)) : Sound v := by
  obtain ⟨a, -, same⟩ := Option.map_eq_some_iff.mp read
  have first : (f a).1 = v := congrArg Prod.fst same
  exact first ▸ each a

theorem scalar_sound (read : scalar s = some (v, rest)) : Sound v := by
  unfold scalar at read
  split at read
  · exact sound_of_map (fun _ => .str _) read
  · exact sound_of_map (fun _ => .null) read
  · exact sound_of_map (fun _ => .bool _) read
  · exact sound_of_map (fun _ => .bool _) read
  · exact sound_of_map (fun _ => .real trivial) read
  · exact sound_of_map (fun _ => .real trivial) read
  · exact sound_of_map (fun _ => .real trivial) read
  · exact numberBody_sound read
  · exact numberBody_sound read

/-! ## Arrays and objects -/

theorem ofWrites_sound {writes : List (Text × Json)} (each : ∀ write ∈ writes, Sound write.2) :
    Sound (.obj (Table.ofWrites writes)) := by
  refine .obj (Table.nodup_names_ofWrites writes) fun member listed => each member ?_
  exact (Table.mem_setAll listed).resolve_left List.not_mem_nil

/-- What is read with so much fuel is sound. -/
structure ReadsSound (fuel : Nat) : Prop where
  value : ∀ {s v rest}, Json.value fuel s = some (v, rest) → Sound v
  items : ∀ {s values rest}, Json.items fuel s = some (values, rest) → ∀ v ∈ values, Sound v
  members : ∀ {s entries rest}, Json.members fuel s = some (entries, rest) → ∀ entry ∈ entries, Sound entry.2

theorem ReadsSound.value_succ (less : ReadsSound fuel) (read : Json.value (fuel + 1) s = some (v, rest)) : Sound v := by
  unfold Json.value at read
  split at read
  · cases read
  · rename_i same
    cases same
    split at read
    · cases read
      exact .arr (List.forall_mem_nil _)
    · obtain ⟨r, items, same⟩ := Option.map_eq_some_iff.mp read
      cases same
      exact .arr (less.items items)
  · rename_i same
    cases same
    split at read
    · cases read
      exact .obj List.nodup_nil (List.forall_mem_nil _)
    · obtain ⟨r, members, same⟩ := Option.map_eq_some_iff.mp read
      cases same
      exact ofWrites_sound (less.members members)
  · exact scalar_sound read

theorem ReadsSound.items_succ (less : ReadsSound fuel) {values : List Json}
    (read : Json.items (fuel + 1) s = some (values, rest)) : ∀ v ∈ values, Sound v := by
  rw [Json.items] at read
  obtain ⟨⟨item, behind⟩, first, read⟩ := Option.bind_eq_some_iff.mp read
  dsimp only at read
  split at read
  · obtain ⟨⟨more, last⟩, others, same⟩ := Option.bind_eq_some_iff.mp read
    cases same
    exact List.forall_mem_cons.mpr ⟨less.value first, less.items others⟩
  · cases read
    exact List.forall_mem_singleton.mpr (less.value first)
  · cases read

theorem ReadsSound.members_succ (less : ReadsSound fuel) {entries : List (Text × Json)}
    (read : Json.members (fuel + 1) s = some (entries, rest)) : ∀ entry ∈ entries, Sound entry.2 := by
  unfold Json.members at read
  split at read
  · cases read
  · rename_i same
    cases same
    obtain ⟨⟨name, behind⟩, -, read⟩ := Option.bind_eq_some_iff.mp read
    dsimp only at read
    split at read
    · obtain ⟨⟨item, behind⟩, first, read⟩ := Option.bind_eq_some_iff.mp read
      dsimp only at read
      split at read
      · obtain ⟨⟨more, last⟩, others, same⟩ := Option.bind_eq_some_iff.mp read
        cases same
        exact List.forall_mem_cons.mpr ⟨less.value first, less.members others⟩
      · cases read
        exact List.forall_mem_singleton.mpr (less.value first)
      · cases read
    · cases read
  · cases read

theorem readsSound (fuel : Nat) : ReadsSound fuel := by
  induction fuel with
  | zero => exact ⟨fun read => (nomatch read), fun read => (nomatch read), fun read => (nomatch read)⟩
  | succ fuel less => exact ⟨less.value_succ, less.items_succ, less.members_succ⟩

/-- **Every value that is read is sound.** -/
theorem decode?_sound (read : decode? s = some v) : Sound v := by
  obtain ⟨⟨found, behind⟩, first, read⟩ := Option.bind_eq_some_iff.mp read
  dsimp only at read
  split at read
  · cases read
    exact (readsSound _).value first
  · cases read

end Json

namespace Body

open Json

variable {v found : Json} {part : Text} {parts : List Text}

/-- What a part leads to is sound, or it is the length of an array. -/
theorem step_sound (sound : Sound v) (led : step v part = .ok (some found)) : Sound found ∨ ∃ n, found = .int n := by
  cases sound with
  | obj distinct each => exact .inl (each (part, found) (Table.mem_of_get? (Except.ok.inj led)))
  | @arr items each =>
      change itemAt items part = _ at led
      unfold itemAt at led
      split at led
      · cases led
        exact .inr ⟨_, rfl⟩
      · split at led
        · cases read : Integer.read part with
          | error e =>
              rw [read] at led
              cases led
          | ok n =>
              rw [read] at led
              exact .inl (each found (List.mem_of_getElem? (Except.ok.inj led)))
        · cases led
  | null => cases led
  | bool => cases led
  | int => cases led
  | real => cases led
  | str => cases led

/-- **What a path leads to in a sound value** is sound, or it is the length of an array. -/
theorem follow_sound (sound : Sound v) (led : follow parts v = .ok (some found)) : Sound found ∨ ∃ n, found = .int n := by
  induction parts generalizing v with
  | nil =>
      cases led
      exact .inl sound
  | cons part parts ih =>
      rw [follow] at led
      split at led
      · rename_i next one
        obtain inside | ⟨n, rfl⟩ := step_sound sound one
        · exact ih inside led
        · cases parts with
          | nil =>
              cases led
              exact .inr ⟨n, rfl⟩
          | cons part parts => cases led
      · cases led
      · cases led

/-- What a path leads to in a body is sound, or it is the length of an array. -/
theorem inBody_sound {body path : Text} (led : inBody body path = .ok (some found)) :
    Sound found ∨ ∃ n, found = .int n := by
  unfold inBody at led
  split at led
  · cases led
  · rename_i read
    rw [find] at led
    split at led
    · cases led
      exact .inl (decode?_sound read)
    · exact follow_sound (decode?_sound read) led

end Body

end ApiFlow
