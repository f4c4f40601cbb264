import ApiFlow.Text.Utf8

/-!
# Bytes that are written and read back

Every text is read back from its bytes, with faults reported and with faults replaced: there are none.  A character of
three or four bytes is the case that needs care, since after some first bytes only a part of the second ones is let
through, and it is the part that no shorter character and no half of a pair would be written with.

* `decodeStep_encodeChar` : a character is read back from its bytes, whatever follows them.
* `decode_encode`, `decodeLossy_encode` : the two decoders read every text back.
-/

set_option autoImplicit false

namespace ApiFlow.Utf8

variable {n lo hi need done acc bits : Nat} {b : UInt8}

/-! ## Bytes -/

theorem toNat_toUInt8 (small : n < 256) : n.toUInt8.toNat = n := by
  rw [Nat.toUInt8, UInt8.toNat_ofNat', Nat.mod_eq_of_lt small]

/-- A byte that continues a character brings its last six bits. -/
theorem continuations_cons (low : lo ≤ 0x80 + n) (high : 0x80 + n ≤ hi) (small : n < 64) (bytes : List UInt8) :
    continuations lo hi (need + 1) done acc ((0x80 + n).toUInt8 :: bytes) =
      continuations 0x80 0xbf need (done + 1) (acc * 64 + n) bytes := by
  have byte : (0x80 + n).toUInt8.toNat = 0x80 + n := toNat_toUInt8 (by omega)
  have six : (0x80 + n) % 64 = n := by omega
  rw [continuations, byte, six]
  exact if_pos (by simp [low, high])

theorem continuations_next (small : n < 64) (bytes : List UInt8) :
    continuations 0x80 0xbf (need + 1) done acc ((0x80 + n).toUInt8 :: bytes) =
      continuations 0x80 0xbf need (done + 1) (acc * 64 + n) bytes :=
  continuations_cons (by omega) (by omega) small bytes

/-- A first byte beyond ASCII and the continuation bytes that it asks for. -/
theorem decodeStep_of_shape (wide : 0x80 ≤ n) (small : n < 256) (shape : shape? n = some (need, lo, hi, bits))
    (rest : List UInt8) :
    decodeStep n.toUInt8 rest = (continuations lo hi need 1 bits rest).map fun m => (Char.ofNat m, need + 1) := by
  rw [decodeStep, toNat_toUInt8 small, if_neg (Nat.not_lt.mpr wide), shape]

/-! ## First bytes -/

/-- The second byte of three lies in the range that the first byte asks for, unless the character is half of a pair. -/
theorem shape?_three (big : 0x800 ≤ n) (small : n < 0x10000) (whole : n < 0xd800 ∨ 0xdfff < n) :
    ∃ lo hi, shape? (0xe0 + n / 4096) = some (2, lo, hi, n / 4096) ∧ lo ≤ 0x80 + n / 64 % 64 ∧
      0x80 + n / 64 % 64 ≤ hi := by
  unfold shape?
  rw [if_neg (by omega), if_neg (by omega)]
  by_cases first : n / 4096 = 0
  · exact ⟨0xa0, 0xbf, by rw [first]; rfl, by omega, by omega⟩
  rw [if_neg (by omega)]
  by_cases paired : n / 4096 = 0xd
  · exact ⟨0x80, 0x9f, by rw [paired]; rfl, by omega, by omega⟩
  rw [if_neg (by omega), if_pos (by omega), Nat.add_sub_cancel_left]
  exact ⟨0x80, 0xbf, rfl, by omega, by omega⟩

/-- The second byte of four lies in the range that the first byte asks for. -/
theorem shape?_four (big : 0x10000 ≤ n) (small : n < 0x110000) :
    ∃ lo hi, shape? (0xf0 + n / 262144) = some (3, lo, hi, n / 262144) ∧ lo ≤ 0x80 + n / 4096 % 64 ∧
      0x80 + n / 4096 % 64 ≤ hi := by
  unfold shape?
  rw [if_neg (by omega), if_neg (by omega), if_neg (by omega), if_neg (by omega), if_neg (by omega)]
  by_cases first : n / 262144 = 0
  · exact ⟨0x90, 0xbf, by rw [first]; rfl, by omega, by omega⟩
  rw [if_neg (by omega)]
  by_cases last : n / 262144 = 4
  · exact ⟨0x80, 0x8f, by rw [last]; rfl, by omega, by omega⟩
  rw [if_pos (by omega), Nat.add_sub_cancel_left]
  exact ⟨0x80, 0xbf, rfl, by omega, by omega⟩

/-! ## Characters -/

theorem valid_toNat (c : Char) : c.toNat < 0xd800 ∨ 0xdfff < c.toNat ∧ c.toNat < 0x110000 := c.valid

/-- **A character is read back from its bytes**, whatever follows them. -/
theorem decodeStep_encodeChar (c : Char) :
    ∃ b more, encodeChar c = b :: more ∧ ∀ rest, decodeStep b (more ++ rest) = .ok (c, more.length + 1) := by
  have valid := valid_toNat c
  rw [encodeChar]
  by_cases one : c.toNat < 0x80
  · refine ⟨_, [], if_pos one, fun rest => ?_⟩
    rw [decodeStep, toNat_toUInt8 (by omega), if_pos one, Char.ofNat_toNat]
    rfl
  rw [if_neg one]
  by_cases two : c.toNat < 0x800
  · have shape : shape? (0xc0 + c.toNat / 64) = some (1, 0x80, 0xbf, c.toNat / 64) := by
      rw [shape?, if_neg (by omega), if_pos (by omega), Nat.add_sub_cancel_left]
    have whole : c.toNat / 64 * 64 + c.toNat % 64 = c.toNat := by omega
    refine ⟨_, _, if_pos two, fun rest => ?_⟩
    rw [decodeStep_of_shape (by omega) (by omega) shape, List.singleton_append, continuations_next (by omega),
      continuations, whole, Except.map, Char.ofNat_toNat]
    rfl
  rw [if_neg two]
  by_cases three : c.toNat < 0x10000
  · obtain ⟨lo, hi, shape, low, high⟩ := shape?_three (n := c.toNat) (by omega) three (by omega)
    have whole : (c.toNat / 4096 * 64 + c.toNat / 64 % 64) * 64 + c.toNat % 64 = c.toNat := by omega
    refine ⟨_, _, if_pos three, fun rest => ?_⟩
    rw [decodeStep_of_shape (by omega) (by omega) shape, List.cons_append, continuations_cons low high (by omega),
      List.singleton_append, continuations_next (by omega), continuations, whole, Except.map, Char.ofNat_toNat]
    rfl
  · obtain ⟨lo, hi, shape, low, high⟩ := shape?_four (n := c.toNat) (by omega) (by omega)
    have whole : ((c.toNat / 262144 * 64 + c.toNat / 4096 % 64) * 64 + c.toNat / 64 % 64) * 64 + c.toNat % 64 =
        c.toNat := by omega
    refine ⟨_, _, if_neg three, fun rest => ?_⟩
    rw [decodeStep_of_shape (by omega) (by omega) shape, List.cons_append, continuations_cons low high (by omega),
      List.cons_append, continuations_next (by omega), List.singleton_append, continuations_next (by omega),
      continuations, whole, Except.map, Char.ofNat_toNat]
    rfl

/-! ## Texts -/

theorem decodeFrom_skip (more rest : List UInt8) (position : Nat) :
    decodeFrom more.length position (more ++ rest) = decodeFrom 0 (position + more.length) rest := by
  induction more generalizing position with
  | nil => rfl
  | cons b more ih =>
      rw [List.length_cons, List.cons_append, decodeFrom, ih]
      congr 1
      omega

theorem decodeLossyFrom_skip (more rest : List UInt8) :
    decodeLossyFrom more.length (more ++ rest) = decodeLossyFrom 0 rest := by
  induction more with
  | nil => rfl
  | cons b more ih => exact ih

theorem encode_cons (c : Char) (s : Text) : encode (c :: s) = encodeChar c ++ encode s := List.flatMap_cons

theorem decodeFrom_encode (s : Text) (position : Nat) : decodeFrom 0 position (encode s) = .ok s := by
  induction s generalizing position with
  | nil => rfl
  | cons c s ih =>
      obtain ⟨b, more, written, read⟩ := decodeStep_encodeChar c
      rw [encode_cons, written, List.cons_append, decodeFrom, read]
      dsimp only
      rw [Nat.add_sub_cancel, decodeFrom_skip, ih]
      rfl

/-- **A text is read back from its bytes.** -/
theorem decode_encode (s : Text) : decode (encode s) = .ok s := decodeFrom_encode s 0

/-- **A text is read back from its bytes** where faults are replaced. -/
theorem decodeLossy_encode (s : Text) : decodeLossy (encode s) = s := by
  unfold decodeLossy
  induction s with
  | nil => rfl
  | cons c s ih =>
      obtain ⟨b, more, written, read⟩ := decodeStep_encodeChar c
      rw [encode_cons, written, List.cons_append, decodeLossyFrom, read]
      dsimp only
      rw [Nat.add_sub_cancel, decodeLossyFrom_skip, ih]

end ApiFlow.Utf8
