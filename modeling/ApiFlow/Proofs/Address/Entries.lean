import ApiFlow.Address.Query
import ApiFlow.Proofs.Text.Ascii
import ApiFlow.Proofs.Text.Utf8

/-!
# Entries that are appended to a query

Names and values of any characters are read back from the query that they are written in.  An encoded text is made of
characters that stand for themselves, of plus signs, and of percent signs with two digits, so neither the marks between
pairs and between name and value nor the one that ends a query stand in it.

An address with an authority is put together from its parts so that it is split into the same parts again.  Appending
entries to its query therefore changes nothing else, and the query has all its pairs as before, with those of the entries
behind them.

* `Query.IsCode`, `Query.decode_encode` : the characters of an encoded text, and what it is decoded to.
* `Query.pairs_ofPairs` : the pairs of a query that was written are those it was written from.
* `Parted` : parts as an address with an authority is split into.
* `parted_of_split`, `Parted.split_join` : splitting gives such parts, and splits what is put together from them.
* `withEntries_split` : what the address with the entries is split into.
-/

set_option autoImplicit false

namespace ApiFlow.Query

variable {c : Char} {s : Text}

/-! ## The characters of an encoded text -/

/-- A character of an encoded text. -/
def IsCode (c : Char) : Prop := isPlain c = true ∨ c = '+' ∨ c = '%'

theorem isPlain_hexDigit : ∀ n < 16, isPlain (hexDigit n) = true := by
  decide

theorem isCode_percentByte (b : UInt8) (listed : c ∈ percentByte b) : IsCode c := by
  have high : b.toNat / 16 < 16 := by have := b.toNat_lt; omega
  have low : b.toNat % 16 < 16 := Nat.mod_lt _ (by decide)
  simp only [percentByte, List.mem_cons, List.not_mem_nil, or_false] at listed
  rcases listed with rfl | rfl | rfl
  · exact .inr (.inr rfl)
  · exact .inl (isPlain_hexDigit _ high)
  · exact .inl (isPlain_hexDigit _ low)

theorem isCode_encode (s : Text) (listed : c ∈ encode s) : IsCode c := by
  obtain ⟨d, -, listed⟩ := List.mem_flatMap.mp listed
  rw [encodeChar] at listed
  split at listed
  · rename_i plain
    exact .inl (List.mem_singleton.mp listed ▸ plain)
  · split at listed
    · exact .inr (.inl (List.mem_singleton.mp listed))
    · obtain ⟨b, -, digit⟩ := List.mem_flatMap.mp listed
      exact isCode_percentByte b digit

theorem isPlain_ascii (plain : isPlain c = true) : c.toNat < 128 := by
  simp only [isPlain, Bool.or_eq_true, decide_eq_true_eq] at plain
  rcases plain with (((letter | rfl) | rfl) | rfl) | rfl
  · exact Text.ascii_of_isAlphanum letter
  all_goals decide

theorem IsCode.ascii (code : IsCode c) : c.toNat < 128 := by
  rcases code with plain | rfl | rfl
  · exact isPlain_ascii plain
  · decide
  · decide

/-- A character that neither stands for itself nor for another one is no character of an encoded text. -/
theorem IsCode.ne (code : IsCode c) {mark : Char} (other : ¬ IsCode mark) : c ≠ mark := fun same => other (same ▸ code)

instance (c : Char) : Decidable (IsCode c) := inferInstanceAs (Decidable (_ ∨ _))

/-! ## Names and values -/

/-- A blank in the place of a plus sign. -/
def unplus (c : Char) : Char := if c = '+' then ' ' else c

theorem hexValue?_hexDigit : ∀ n < 16, hexValue? (hexDigit n) = some n := by
  decide

theorem hexByte?_digits (b : UInt8) (rest : Text) :
    hexByte? (hexDigit (b.toNat / 16) :: hexDigit (b.toNat % 16) :: rest) = some b := by
  have high : b.toNat / 16 < 16 := by have := b.toNat_lt; omega
  have low : b.toNat % 16 < 16 := Nat.mod_lt _ (by decide)
  have whole : 16 * (b.toNat / 16) + b.toNat % 16 = b.toNat := Nat.div_add_mod _ _
  rw [hexByte?, hexValue?_hexDigit _ high, hexValue?_hexDigit _ low]
  change some (16 * (b.toNat / 16) + b.toNat % 16).toUInt8 = some b
  rw [whole]
  exact congrArg some UInt8.ofNat_toNat

theorem unplus_hexDigit : ∀ n < 16, unplus (hexDigit n) = hexDigit n := by
  decide

/-- A byte is read back from its digits. -/
theorem asciiBytes_percentByte (b : UInt8) (rest : Text) :
    asciiBytes 0 ((percentByte b).map unplus ++ rest) = b :: asciiBytes 0 rest := by
  have high : b.toNat / 16 < 16 := by have := b.toNat_lt; omega
  have low : b.toNat % 16 < 16 := Nat.mod_lt _ (by decide)
  rw [percentByte, List.map_cons, List.map_cons, List.map_cons, unplus_hexDigit _ high, unplus_hexDigit _ low]
  change asciiBytes 0 ('%' :: hexDigit (b.toNat / 16) :: hexDigit (b.toNat % 16) :: rest) = _
  rw [asciiBytes, if_pos rfl, hexByte?_digits]
  rfl

theorem asciiBytes_percentBytes (bytes : List UInt8) (rest : Text) :
    asciiBytes 0 ((bytes.flatMap percentByte).map unplus ++ rest) = bytes ++ asciiBytes 0 rest := by
  induction bytes with
  | nil => rfl
  | cons b bytes ih =>
      rw [List.flatMap_cons, List.map_append, List.append_assoc, asciiBytes_percentByte, ih, List.cons_append]

/-- The bytes of a character are read back from its code. -/
theorem asciiBytes_encodeChar (c : Char) (rest : Text) :
    asciiBytes 0 ((encodeChar c).map unplus ++ rest) = Utf8.encodeChar c ++ asciiBytes 0 rest := by
  rw [encodeChar]
  split
  · rename_i plain
    have percent : c ≠ '%' := by
      rintro rfl
      exact absurd plain (by decide)
    have plus : c ≠ '+' := by
      rintro rfl
      exact absurd plain (by decide)
    have byte : Utf8.encodeChar c = [c.toNat.toUInt8] := by rw [Utf8.encodeChar, if_pos (isPlain_ascii plain)]
    rw [byte, List.map_singleton, unplus, if_neg plus, List.singleton_append, asciiBytes, if_neg percent,
      List.singleton_append]
  · split
    · rename_i blank
      subst blank
      change asciiBytes 0 (' ' :: rest) = _
      rw [asciiBytes, if_neg (by decide)]
      rfl
    · exact asciiBytes_percentBytes _ _

theorem asciiBytes_encode (s : Text) : asciiBytes 0 ((encode s).map unplus) = Utf8.encode s := by
  induction s with
  | nil => rfl
  | cons c s ih =>
      have both : encode (c :: s) = encodeChar c ++ encode s := List.flatMap_cons
      rw [both, List.map_append, asciiBytes_encodeChar, ih, Utf8.encode_cons]

theorem decodeFrom_ascii (ascii : ∀ c ∈ s, c.toNat < 128) (run : Text) :
    decodeFrom run s = decodeRun (run.reverse ++ s.map unplus) := by
  induction s generalizing run with
  | nil => rw [decodeFrom, List.map_nil, List.append_nil]
  | cons c s ih =>
      obtain ⟨here, rest⟩ := List.forall_mem_cons.mp ascii
      rw [decodeFrom, if_pos here, ih rest, List.reverse_cons, List.append_assoc]
      rfl

/-- **A name or value is decoded to what was encoded.** -/
theorem decode_encode (s : Text) : decode (encode s) = s := by
  rw [decode, decodeFrom_ascii fun c listed => (isCode_encode s listed).ascii]
  change Utf8.decodeLossy (asciiBytes 0 ((encode s).map unplus)) = s
  rw [asciiBytes_encode, Utf8.decodeLossy_encode]

/-! ## Pairs -/

theorem not_mem_encode {mark : Char} (other : ¬ IsCode mark) (s : Text) : mark ∉ encode s :=
  fun listed => other (isCode_encode s listed)

/-- A mark that is no code and not the one between name and value does not stand in a pair. -/
theorem not_mem_fieldOf {mark : Char} (other : ¬ IsCode mark) (sign : mark ≠ '=') (pair : Text × Text) :
    mark ∉ fieldOf pair := by
  rw [fieldOf, List.mem_append, List.mem_cons, not_or, not_or]
  exact ⟨not_mem_encode other _, sign, not_mem_encode other _⟩

theorem pairOf_fieldOf (pair : Text × Text) : pairOf (fieldOf pair) = pair := by
  rw [pairOf, fieldOf, Address.splitOff, Text.cutAt?_append (not_mem_encode (by decide) _)]
  change (decode (encode pair.1), decode (encode pair.2)) = pair
  rw [decode_encode, decode_encode]

/-- **The pairs of a query that was written** are those it was written from, in order. -/
theorem pairs_ofPairs (ps : List (Text × Text)) : pairs (ofPairs ps) = ps := by
  by_cases none : ps = []
  · subst none
    rfl
  have some : ps.map fieldOf ≠ [] := by simpa using none
  have free : ∀ field ∈ ps.map fieldOf, '&' ∉ field := by
    simp only [List.forall_mem_map]
    exact fun pair _ => not_mem_fieldOf (by decide) (by decide) pair
  have filled : ∀ field ∈ ps.map fieldOf, (!field.isEmpty) = true := by
    simp only [List.forall_mem_map]
    exact fun pair _ => by simp [fieldOf]
  rw [pairs, ofPairs, Text.splitAt_join some free, List.filter_eq_self.mpr filled, List.map_map]
  exact List.map_id'' pairOf_fieldOf ps

theorem not_mem_ofPairs {mark : Char} (other : ¬ IsCode mark) (sign : mark ≠ '=') (between : mark ≠ '&')
    (ps : List (Text × Text)) : mark ∉ ofPairs ps := by
  intro listed
  obtain separator | ⟨field, among, inside⟩ := Text.mem_of_mem_join listed
  · exact between (List.mem_singleton.mp separator)
  · obtain ⟨pair, -, rfl⟩ := List.mem_map.mp among
    exact not_mem_fieldOf other sign pair inside

end ApiFlow.Query

namespace ApiFlow.Address

variable {a : Address} {s front back text : Text} {mark : Char}

/-! ## Parts in front of a mark -/

/-- What stands before a mark, and behind it, stands in the text, and the mark does not stand before itself. -/
theorem splitOff_parts (cut : splitOff mark s = (front, back)) : front <+: s ∧ mark ∉ front ∧ back ⊆ s := by
  rw [splitOff] at cut
  cases found : Text.cutAt? mark s with
  | none =>
      rw [found] at cut
      cases cut
      exact ⟨List.prefix_rfl, Text.cutAt?_eq_none_iff.mp found, List.nil_subset s⟩
  | some parts =>
      rw [found] at cut
      cases cut
      obtain ⟨rfl, free⟩ := Text.cutAt?_eq_some_iff.mp found
      exact ⟨List.prefix_append front _, free,
        fun c listed => List.mem_append_right front (List.mem_cons_of_mem mark listed)⟩

/-- A part with its mark in front; the mark is not written in front of an empty part. -/
def marked (mark : Char) (part : Text) : Text := if part.isEmpty then [] else mark :: part

theorem mem_marked {c : Char} (listed : c ∈ marked mark s) : c = mark ∨ c ∈ s := by
  rw [marked] at listed
  split at listed
  · cases listed
  · exact List.mem_cons.mp listed

theorem head?_marked {c : Char} (first : c ∈ (marked mark s).head?) : c = mark := by
  rw [marked] at first
  split at first
  · cases first
  · exact (Option.some.inj first).symm

/-- A part behind its mark is split off again. -/
theorem splitOff_marked (free : mark ∉ front) (back : Text) :
    splitOff mark (front ++ marked mark back) = (front, back) := by
  rw [splitOff]
  cases back with
  | nil =>
      rw [marked, List.isEmpty_nil, if_pos rfl, List.append_nil, Text.cutAt?_of_not_mem free]
      rfl
  | cons c back =>
      rw [marked, List.isEmpty_cons, if_neg (by decide), Text.cutAt?_append free]
      rfl

/-! ## Schemes -/

/-- A scheme as it is split off: a letter in front, and no capitals. -/
structure IsScheme (scheme : Text) : Prop where
  begins : ∃ c rest, scheme = c :: rest ∧ startsScheme c = true
  chars : scheme.all isSchemeChar = true
  lower : scheme.map Char.toLower = scheme

theorem ascii_of_isSchemeChar {c : Char} (listed : isSchemeChar c = true) : c.toNat < 0x80 := by
  simp only [isSchemeChar, Bool.or_eq_true, decide_eq_true_eq] at listed
  rcases listed with ((letter | rfl) | rfl) | rfl
  · exact Text.ascii_of_isAlphanum letter
  all_goals decide

theorem startsScheme_toLower {c : Char} (ascii : c.toNat < 0x80) :
    startsScheme c = true → startsScheme c.toLower = true := by
  refine Text.ascii_induction ?_ c ascii
  decide

theorem isSchemeChar_toLower {c : Char} (ascii : c.toNat < 0x80) :
    isSchemeChar c = true → isSchemeChar c.toLower = true := by
  refine Text.ascii_induction ?_ c ascii
  decide

theorem schemeChar_kept {c : Char} (ascii : c.toNat < 0x80) :
    isSchemeChar c = true → isDropped c = false ∧ isLeading c = false ∧ c ≠ ':' := by
  refine Text.ascii_induction ?_ c ascii
  decide

/-- Letters and the other characters of a scheme stay such in lower case. -/
theorem IsScheme.ofWritten {written : Text} (begins : ∃ c rest, written = c :: rest ∧ startsScheme c = true)
    (chars : written.all isSchemeChar = true) : IsScheme (written.map Char.toLower) := by
  have each {c : Char} (listed : c ∈ written) : isSchemeChar c = true := List.all_eq_true.mp chars c listed
  constructor
  · obtain ⟨c, rest, rfl, starts⟩ := begins
    have ascii := ascii_of_isSchemeChar (each List.mem_cons_self)
    exact ⟨c.toLower, rest.map Char.toLower, rfl, startsScheme_toLower ascii starts⟩
  · rw [List.all_map, List.all_eq_true]
    exact fun c listed => isSchemeChar_toLower (ascii_of_isSchemeChar (each listed)) (each listed)
  · rw [List.map_map]
    exact List.map_congr_left fun c _ => Text.toLower_toLower c

theorem IsScheme.char {scheme : Text} (proper : IsScheme scheme) {c : Char} (listed : c ∈ scheme) :
    isDropped c = false ∧ isLeading c = false ∧ c ≠ ':' := by
  have schemeChar := List.all_eq_true.mp proper.chars c listed
  exact schemeChar_kept (ascii_of_isSchemeChar schemeChar) schemeChar

/-- A scheme stands in front of the rest of a text, or there is none. -/
theorem splitScheme_parts {scheme : Text} (cut : splitScheme s = (scheme, back)) :
    (scheme = [] ∨ IsScheme scheme) ∧ back <:+ s := by
  unfold splitScheme at cut
  split at cut
  · rename_i c written colon rest taken dropped
    split at cut
    · rename_i proper
      cases cut
      obtain ⟨starts, chars⟩ := Bool.and_eq_true_iff.mp proper
      refine ⟨.inr (IsScheme.ofWritten ⟨c, written, rfl, starts⟩ chars), (List.suffix_cons colon back).trans ?_⟩
      rw [← dropped]
      exact List.dropWhile_suffix _
    · cases cut
      exact ⟨.inl rfl, List.suffix_rfl⟩
  · cases cut
    exact ⟨.inl rfl, List.suffix_rfl⟩

/-- **A scheme is split off again.** -/
theorem IsScheme.split {scheme : Text} (proper : IsScheme scheme) (rest : Text) :
    splitScheme (scheme ++ ':' :: rest) = (scheme, rest) := by
  have kept : ∀ c ∈ scheme, (c != ':') = true := fun c listed => bne_iff_ne.mpr (proper.char listed).2.2
  have stop : ∀ c ∈ (':' :: rest).head?, (c != ':') = false := by simp
  obtain ⟨front, back⟩ := Text.takeWhile_dropWhile_append kept stop
  obtain ⟨c, more, written, starts⟩ := proper.begins
  have lower := proper.lower
  have chars := proper.chars
  rw [written] at lower chars front back ⊢
  rw [splitScheme, front, back]
  dsimp only
  rw [if_pos (by rw [starts, chars]; rfl), lower]

theorem splitScheme_slash (rest : Text) : splitScheme ('/' :: rest) = ([], '/' :: rest) := by
  rw [splitScheme, List.takeWhile_cons, if_pos (by decide)]
  split
  · rename_i taken _
    cases taken
    rfl
  · rfl

/-! ## Authorities -/

/-- An authority that is not empty stands behind two slashes, up to what ends it. -/
theorem splitAuthority_parts (cut : splitAuthority s = (front, back)) (host : front ≠ []) :
    s = '/' :: '/' :: (front ++ back) ∧ (∀ c ∈ front, endsAuthority c = false) ∧
      ∀ c ∈ back.head?, endsAuthority c = true := by
  revert cut
  fun_cases splitAuthority s with
  | case1 rest =>
      rintro ⟨⟩
      refine ⟨by rw [List.takeWhile_append_dropWhile], fun c listed => ?_, fun c first => ?_⟩
      · simpa using List.all_eq_true.mp List.all_takeWhile c listed
      · have stops := List.head?_dropWhile_not (!endsAuthority ·) rest
        rw [first] at stops
        simpa using stops
  | case2 =>
      rintro ⟨⟩
      exact absurd rfl host

/-- **An authority is split off again.** -/
theorem splitAuthority_append (authority : ∀ c ∈ front, endsAuthority c = false)
    (ends : ∀ c ∈ back.head?, endsAuthority c = true) :
    splitAuthority ('/' :: '/' :: (front ++ back)) = (front, back) := by
  have kept : ∀ c ∈ front, (!endsAuthority c) = true := fun c listed => by simp [authority c listed]
  have stop : ∀ c ∈ back.head?, (!endsAuthority c) = false := fun c first => by simp [ends c first]
  obtain ⟨taken, dropped⟩ := Text.takeWhile_dropWhile_append kept stop
  rw [splitAuthority, taken, dropped]

/-- What stands behind an authority, up to a question mark or a number sign, is empty or begins with a slash. -/
theorem path_opens (ends : ∀ c ∈ s.head?, endsAuthority c = true) (begins : front <+: s)
    (marks : '?' ∉ front ∧ '#' ∉ front) : front = [] ∨ ∃ rest, front = '/' :: rest := by
  cases front with
  | nil => exact .inl rfl
  | cons c rest =>
      obtain ⟨behind, rfl⟩ := begins
      have ended : endsAuthority c = true := ends c rfl
      simp only [endsAuthority, Bool.or_eq_true, decide_eq_true_eq] at ended
      rcases ended with (rfl | rfl) | rfl
      · exact .inr ⟨rest, rfl⟩
      · exact absurd List.mem_cons_self marks.1
      · exact absurd List.mem_cons_self marks.2

/-! ## Addresses -/

/-- Parts as an address with an authority is split into. -/
structure Parted (a : Address) : Prop where
  scheme : a.scheme = [] ∨ IsScheme a.scheme
  host : a.authority ≠ []
  authority : ∀ c ∈ a.authority, endsAuthority c = false
  path : a.path = [] ∨ ∃ rest, a.path = '/' :: rest
  pathMarks : '?' ∉ a.path ∧ '#' ∉ a.path
  queryMark : '#' ∉ a.query
  kept : ∀ c ∈ a.authority ++ a.path ++ a.query ++ a.fragment, isDropped c = false
  checked : checkAuthority a.authority = .ok ()

/-- Splitting is cutting off one part after the other. -/
theorem split_ok (given : split text = .ok a) : ∃ whole behind rest front, (∀ c ∈ whole, isDropped c = false) ∧
    splitScheme whole = (a.scheme, behind) ∧ splitAuthority behind = (a.authority, rest) ∧
    splitOff '#' rest = (front, a.fragment) ∧ splitOff '?' front = (a.path, a.query) ∧
    checkAuthority a.authority = .ok () := by
  have kept : ∀ c ∈ (text.dropWhile isLeading).filter (!isDropped ·), isDropped c = false := by
    intro c listed
    simpa using (List.mem_filter.mp listed).2
  unfold split at given
  dsimp only at given
  generalize (text.dropWhile isLeading).filter (!isDropped ·) = whole at given kept
  cases checked : checkAuthority (splitAuthority (splitScheme whole).2).1 with
  | error e =>
      rw [checked] at given
      cases given
  | ok u =>
      rw [checked] at given
      cases given
      exact ⟨whole, _, _, _, kept, rfl, rfl, rfl, rfl, checked⟩

/-- **An address with an authority is split into such parts.** -/
theorem parted_of_split (given : split text = .ok a) (host : a.authority ≠ []) : Parted a := by
  obtain ⟨whole, behind, rest, front, kept, schemed, hosted, ended, asked, checked⟩ := split_ok given
  obtain ⟨scheme, behindScheme⟩ := splitScheme_parts schemed
  obtain ⟨opened, bounded, ends⟩ := splitAuthority_parts hosted host
  obtain ⟨beforeFragment, noFragment, inRest⟩ := splitOff_parts ended
  obtain ⟨beforeQuery, noQuery, inFront⟩ := splitOff_parts asked
  have marks : '?' ∉ a.path ∧ '#' ∉ a.path := ⟨noQuery, fun listed => noFragment (beforeQuery.subset listed)⟩
  have inBehind : a.authority ++ rest ⊆ behind := by
    rw [opened]
    exact List.subset_cons_of_subset _ (List.subset_cons_of_subset _ (List.Subset.refl _))
  refine ⟨scheme, host, bounded, path_opens ends (beforeQuery.trans beforeFragment) marks, marks,
    fun listed => noFragment (inFront listed), fun c listed => kept c (behindScheme.subset (inBehind ?_)), checked⟩
  simp only [List.mem_append] at listed ⊢
  rcases listed with ((authority | path) | query) | fragment
  · exact .inl authority
  · exact .inr (beforeFragment.subset (beforeQuery.subset path))
  · exact .inr (beforeFragment.subset (inFront query))
  · exact .inr (inRest fragment)

/-- What stands behind the authority of an address. -/
def tail (a : Address) : Text := (a.path ++ marked '?' a.query) ++ marked '#' a.fragment

/-- Parts with an authority are put together with two slashes in front of it. -/
theorem Parted.join_eq (parted : Parted a) :
    a.join = (if a.scheme.isEmpty then [] else a.scheme ++ [':']) ++ '/' :: '/' :: (a.authority ++ a.tail) := by
  have host : a.authority.isEmpty = false := by simpa using parted.host
  have path : (if a.path.isEmpty || a.path.head? = some '/' then a.path else '/' :: a.path) = a.path := by
    rcases parted.path with none | ⟨rest, some⟩
    · rw [none]
      rfl
    · rw [some]
      rfl
  rw [join, authorityText, host, Bool.not_false, Bool.true_or, if_pos rfl, path, tail, marked, marked]
  simp

theorem Parted.tail_ends (parted : Parted a) : ∀ c ∈ a.tail.head?, endsAuthority c = true := by
  intro c first
  rw [tail, List.append_assoc] at first
  rcases parted.path with none | ⟨rest, some⟩
  · rw [none, List.nil_append, List.head?_append] at first
    rcases query : (marked '?' a.query).head? with _ | d
    · rw [query] at first
      rw [head?_marked first]
      rfl
    · rw [query] at first
      cases first
      rw [head?_marked query]
      rfl
  · rw [some] at first
    cases first
    rfl

theorem Parted.kept_behind (parted : Parted a) : ∀ c ∈ '/' :: '/' :: (a.authority ++ a.tail), isDropped c = false := by
  intro c listed
  simp only [tail, List.mem_cons, List.mem_append] at listed
  rcases listed with rfl | rfl | authority | (path | query) | fragment
  · rfl
  · rfl
  · exact parted.kept c (by simp [authority])
  · exact parted.kept c (by simp [path])
  · obtain rfl | query := mem_marked query
    · rfl
    · exact parted.kept c (by simp [query])
  · obtain rfl | fragment := mem_marked fragment
    · rfl
    · exact parted.kept c (by simp [fragment])

/-- Nothing is dropped from what is put together. -/
theorem Parted.join_kept (parted : Parted a) : (a.join.dropWhile isLeading).filter (!isDropped ·) = a.join := by
  have whole : (∀ c ∈ a.join.head?, isLeading c = false) ∧ ∀ c ∈ a.join, isDropped c = false := by
    rw [parted.join_eq]
    rcases parted.scheme with none | proper
    · rw [none]
      refine ⟨fun c first => ?_, parted.kept_behind⟩
      cases first
      rfl
    · obtain ⟨c, rest, written, -⟩ := proper.begins
      have some : a.scheme.isEmpty = false := by rw [written]; rfl
      rw [some, if_neg (by decide)]
      refine ⟨fun d first => (proper.char ?_).2.1, fun d listed => ?_⟩
      · rw [written] at first ⊢
        cases first
        exact List.mem_cons_self
      · simp only [List.mem_append (t := '/' :: _), List.mem_append (t := [':']), List.mem_singleton] at listed
        rcases listed with (scheme | rfl) | behind
        · exact (proper.char scheme).1
        · rfl
        · exact parted.kept_behind d behind
  rw [Text.dropWhile_eq_self whole.1, List.filter_eq_self]
  exact fun c listed => by simp [whole.2 c listed]

/-- **What is put together from such parts is split into them again.** -/
theorem Parted.split_join (parted : Parted a) : split a.join = .ok a := by
  have schemed : splitScheme a.join = (a.scheme, '/' :: '/' :: (a.authority ++ a.tail)) := by
    rw [parted.join_eq]
    rcases parted.scheme with none | proper
    · rw [none]
      exact splitScheme_slash _
    · obtain ⟨c, rest, written, -⟩ := proper.begins
      have some : a.scheme.isEmpty = false := by rw [written]; rfl
      rw [some, if_neg (by decide), List.append_assoc]
      exact proper.split _
  have noMark : '#' ∉ a.path ++ marked '?' a.query := by
    rw [List.mem_append, not_or]
    exact ⟨parted.pathMarks.2, fun listed => (mem_marked listed).elim (by decide) parted.queryMark⟩
  unfold split
  dsimp only
  rw [parted.join_kept, schemed]
  dsimp only
  rw [splitAuthority_append parted.authority parted.tail_ends]
  dsimp only
  rw [tail, splitOff_marked noMark]
  dsimp only
  rw [splitOff_marked parted.pathMarks.1, parted.checked]
  rfl

/-- The query of an address may be any that was written. -/
theorem Parted.withQuery (parted : Parted a) (ps : List (Text × Text)) :
    Parted { a with query := Query.ofPairs ps } where
  scheme := parted.scheme
  host := parted.host
  authority := parted.authority
  path := parted.path
  pathMarks := parted.pathMarks
  queryMark := Query.not_mem_ofPairs (by decide) (by decide) (by decide) ps
  kept := by
    intro c listed
    simp only [List.mem_append] at listed
    rcases listed with ((authority | path) | query) | fragment
    · exact parted.kept c (by simp [authority])
    · exact parted.kept c (by simp [path])
    · have other {mark : Char} (code : ¬ Query.IsCode mark) (sign : mark ≠ '=') (between : mark ≠ '&') : c ≠ mark :=
        fun same => Query.not_mem_ofPairs code sign between ps (same ▸ query)
      simp only [isDropped, Bool.or_eq_false_iff, decide_eq_false_iff_not]
      exact ⟨⟨other (by decide) (by decide) (by decide), other (by decide) (by decide) (by decide)⟩,
        other (by decide) (by decide) (by decide)⟩
    · exact parted.kept c (by simp [fragment])
  checked := parted.checked

/-- **Appending entries to a query loses nothing.**  The address with the entries is split into the parts of the given
address, apart from the query, and that has the pairs of the given query and behind them, in order, those of the entries
with an equals sign. -/
theorem withEntries_split {url : Text} (entries : List Text) (given : split url = .ok a) (host : a.authority ≠ []) :
    ∃ merged b, withEntries url entries = .ok merged ∧ split merged = .ok b ∧ b.scheme = a.scheme ∧
      b.authority = a.authority ∧ b.path = a.path ∧ b.fragment = a.fragment ∧
      Query.pairs b.query = Query.pairs a.query ++ entries.filterMap (Text.cutAt? '=') := by
  have parted := parted_of_split given host
  have merged : withEntries url entries = .ok (join { a with
      query := Query.ofPairs (Query.pairs a.query ++ entries.filterMap (Text.cutAt? '=')) }) := by
    rw [withEntries, given]
    rfl
  exact ⟨_, _, merged, (parted.withQuery _).split_join, rfl, rfl, rfl, rfl, Query.pairs_ofPairs _⟩

/-- An address with a user, a port, an empty field, a percent sign that stands for itself and a fragment, and entries with
reserved characters, without a name, and without an equals sign. -/
theorem withEntries_split_search :
    let url : Text := "HTTPS://ann@api.test:80/a b?x=1&&y=%zz+ü#top?"
    let a : Address := ⟨"https", "ann@api.test:80", "/a b", "x=1&&y=%zz+ü", "top?"⟩
    let entries : List Text := ["q=a+b&c=#", "flag", "=", "größe==5 %"]
    (split url = .ok a ∧ a.authority ≠ []) ∧
      ∃ merged b, withEntries url entries = .ok merged ∧ split merged = .ok b ∧ b.scheme = "https".toList ∧
        b.authority = "ann@api.test:80".toList ∧ b.path = "/a b".toList ∧ b.fragment = "top?".toList ∧
        Query.pairs b.query = [("x".toList, "1".toList), ("y".toList, "%zz ü".toList), ("q".toList, "a+b&c=#".toList),
          ([], []), ("größe".toList, "=5 %".toList)] := by
  intro url a entries
  have given : split url = .ok a := by rfl
  have host : a.authority ≠ [] := by decide
  have pairs : Query.pairs a.query ++ entries.filterMap (Text.cutAt? '=') = [("x".toList, "1".toList),
      ("y".toList, "%zz ü".toList), ("q".toList, "a+b&c=#".toList), ([], []), ("größe".toList, "=5 %".toList)] := by
    decide +kernel
  refine ⟨⟨given, host⟩, ?_⟩
  rw [← pairs]
  exact withEntries_split entries given host

end ApiFlow.Address
