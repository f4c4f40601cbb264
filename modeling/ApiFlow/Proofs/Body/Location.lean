import ApiFlow.Proofs.Body.Normal
import ApiFlow.Proofs.Number.Digits

/-!
# Locations as paths

A location in a value is a row of object keys and array indices.  It is written as a path with a backslash in front of
each backslash and each dot of a key, indices in decimal, and dots between.  The path is in normal form if the keys are
plain, it splits into the keys and digits that it was written from, and following it leads where the location does.

* `valueAt?`, `render` : the value at a location, and the path that is written for it.
* `normalize_render`, `split_render` : the path stays as it is, and its parts are the selectors of the location.
* `Leads` : the value at a location, or the absence of its last key or index.
* `find_render_iff` : the path leads there exactly if no index has more digits than can be read.
-/

set_option autoImplicit false

namespace ApiFlow.Body

/-- One step into a value. -/
inductive Selector where
  | key (name : Text)
  | index (n : Nat)
  deriving DecidableEq, Repr

namespace Selector

/-- The value that a selector picks out of another. -/
def pick? : Selector → Json → Option Json
  | key name, .obj members => Table.get? members name
  | index n, .arr items => items[n]?
  | _, _ => none

/-- The name of a key. -/
def name? : Selector → Option Text
  | key name => some name
  | index _ => none

/-- The part of a path that names the selector. -/
def part : Selector → Text
  | key name => name
  | index n => Text.ofNat n

end Selector

/-- The steps into a value, from the outside. -/
abbrev Location := List Selector

/-- The value at a location. -/
def valueAt? : Location → Json → Option Json
  | [], value => some value
  | s :: location, value => (s.pick? value).bind (valueAt? location)

/-- A key with a backslash in front of each backslash and each dot. -/
def escape (name : Text) : Text := name.flatMap fun c => if c = '\\' ∨ c = '.' then ['\\', c] else [c]

/-- A selector as it is written. -/
def Selector.text : Selector → Text
  | key name => escape name
  | index n => Text.ofNat n

/-- The path that is written for a location. -/
def render (location : Location) : Text := Text.join ['.'] (location.map Selector.text)

/-- A location whose keys keep their meaning in a path. -/
structure Plain (location : Location) : Prop where
  some : location ≠ []
  named : ∀ s ∈ location, ∀ name ∈ s.name?, name ≠ [] ∧ ¬ HasIndex name
  first : ∀ s ∈ location.head?, ∀ name ∈ s.name?, name ≠ ['$'] ∧ Text.SolidStart name
  last : ∀ s ∈ location.getLast?, ∀ name ∈ s.name?, Text.SolidEnd name
  inner : ∀ s ∈ location.dropLast, ∀ name ∈ s.name?, name.getLast? ≠ Option.some '.'

/-- What is at a location: a value; or nothing, if the location ends with a key that the object there does not have, or
with an index at or past the end of the array there. -/
inductive Leads (document : Json) : Location → Option Json → Prop where
  | value {location : Location} {value : Json} (there : valueAt? location document = some value) :
      Leads document location (some value)
  | noKey {front : Location} {name : Text} {members : List (Text × Json)}
      (object : valueAt? front document = some (.obj members)) (absent : Table.get? members name = none) :
      Leads document (front ++ [.key name]) none
  | noItem {front : Location} {n : Nat} {items : List Json} (array : valueAt? front document = some (.arr items))
      (past : items.length ≤ n) : Leads document (front ++ [.index n]) none

/-- An index has no more digits than can be read. -/
def Selector.Readable : Selector → Prop
  | key _ => True
  | index n => (Text.ofNat n).length ≤ Integer.digitLimit

instance : (s : Selector) → Decidable s.Readable
  | .key _ => inferInstanceAs (Decidable True)
  | .index _ => inferInstanceAs (Decidable (_ ≤ _))

/-- No index has more digits than can be read. -/
def Readable (location : Location) : Prop := ∀ s ∈ location, s.Readable

variable {c : Char} {s : Selector} {location front : Location} {document value next : Json}

/-! ## Escaped keys -/

theorem escape_cons (c : Char) (name : Text) :
    escape (c :: name) = (if c = '\\' ∨ c = '.' then ['\\', c] else [c]) ++ escape name := rfl

theorem escape_ne_nil {name : Text} (some : name ≠ []) : escape name ≠ [] := by
  obtain ⟨c, name, rfl⟩ := List.exists_cons_of_ne_nil some
  rw [escape_cons]
  split <;> simp

/-- A written key begins with a backslash or with its first character, which is then no dot. -/
theorem head?_escape (name : Text) :
    (escape name).head? = name.head? ∧ name.head? ≠ some '.' ∨ (escape name).head? = some '\\' := by
  cases name with
  | nil => exact .inl ⟨rfl, by simp⟩
  | cons c name =>
      rw [escape_cons]
      split
      · exact .inr rfl
      · rename_i plain
        exact .inl ⟨rfl, fun dot => plain (.inr (Option.some.inj dot))⟩

theorem head?_escape_ne_dot (name : Text) : (escape name).head? ≠ some '.' := by
  rcases head?_escape name with ⟨same, other⟩ | slash
  · rwa [same]
  · rw [slash]
    decide

theorem getLast?_escape (name : Text) : (escape name).getLast? = name.getLast? := by
  rcases List.eq_nil_or_concat name with rfl | ⟨front, c, rfl⟩
  · rfl
  · rw [List.concat_eq_append, escape, List.flatMap_append, List.flatMap_singleton, List.getLast?_concat]
    split
    · rw [List.getLast?_append]
      rfl
    · exact List.getLast?_concat

/-- What begins a written key and holds no backslash begins the key. -/
theorem prefix_of_prefix_escape {front name : Text} (noSlash : '\\' ∉ front) (begins : front <+: escape name) :
    front <+: name := by
  induction front generalizing name with
  | nil => exact List.nil_prefix
  | cons d front ih =>
      obtain ⟨other, noSlash⟩ := List.ne_and_not_mem_of_not_mem_cons noSlash
      cases name with
      | nil => exact absurd (List.prefix_nil.mp begins) (List.cons_ne_nil _ _)
      | cons c name =>
          rw [escape_cons] at begins
          split at begins
          · exact absurd (List.cons_prefix_cons.mp begins).1.symm other
          · obtain ⟨same, behind⟩ := List.cons_prefix_cons.mp begins
            exact List.cons_prefix_cons.mpr ⟨same, ih noSlash behind⟩

theorem not_hasIndex_escape {name : Text} (free : ¬ HasIndex name) : ¬ HasIndex (escape name) := by
  induction name with
  | nil => exact not_hasIndex_nil
  | cons c name ih =>
      rw [hasIndex_cons, not_or] at free
      rw [escape_cons]
      split
      · rename_i special
        have noBracket : '[' ∉ ['\\', c] := by
          rcases special with rfl | rfl <;> decide
        exact fun index => ih free.2 (index.behind noBracket)
      · rw [List.singleton_append, hasIndex_cons]
        rintro (⟨bracket, found⟩ | behind)
        · exact free.1 ⟨bracket,
            isSome_bracketIndex?_of_prefix found fun _ _ noSlash => prefix_of_prefix_escape noSlash⟩
        · exact ih free.2 behind

theorem singleDotted_escape (name : Text) : SingleDotted (escape name) := by
  induction name with
  | nil => exact .nil
  | cons c name ih =>
      have chained : SingleDotted (c :: escape name) :=
        List.isChain_cons.mpr ⟨fun d first both => head?_escape_ne_dot name (by rw [← both.2]; exact first), ih⟩
      rw [escape_cons]
      split
      · exact List.isChain_cons.mpr ⟨fun _ _ both => absurd both.1 (by decide), chained⟩
      · exact chained

/-- **A written key is read back** as the start of the first part. -/
theorem split_escape (name rest : Text) :
    ∃ part parts, split rest = part :: parts ∧ split (escape name ++ rest) = (name ++ part) :: parts := by
  induction name with
  | nil =>
      obtain ⟨part, parts, same⟩ := List.exists_cons_of_ne_nil (split_ne_nil rest)
      exact ⟨part, parts, same, same⟩
  | cons c name ih =>
      obtain ⟨part, parts, behind, whole⟩ := ih
      refine ⟨part, parts, behind, ?_⟩
      rw [escape_cons, List.append_assoc]
      split
      · change split ('\\' :: c :: (escape name ++ rest)) = _
        rw [split, whole]
        rfl
      · rename_i plain
        obtain ⟨notSlash, notDot⟩ := not_or.mp plain
        rw [List.singleton_append, split_cons notDot notSlash, whole]
        rfl

/-! ## Written selectors -/

theorem not_mem_ofNat {n : Nat} (other : ¬ (48 ≤ c.toNat ∧ c.toNat ≤ 57)) : c ∉ Text.ofNat n :=
  fun member => other (isDigit_of_mem_ofNat member)

theorem Selector.split_text (s : Selector) (rest : Text) :
    ∃ part parts, split rest = part :: parts ∧ split (s.text ++ rest) = (s.part ++ part) :: parts := by
  cases s with
  | key name => exact split_escape name rest
  | index n => exact split_front (not_mem_ofNat (by decide)) (not_mem_ofNat (by decide)) rest

theorem Selector.head?_text_ne_dot (s : Selector) : s.text.head? ≠ some '.' := by
  cases s with
  | key name => exact head?_escape_ne_dot name
  | index n => exact fun first => not_mem_ofNat (n := n) (by decide) (List.mem_of_mem_head? first)

theorem Selector.singleDotted_text (s : Selector) : SingleDotted s.text := by
  cases s with
  | key name => exact singleDotted_escape name
  | index n =>
      refine List.isChain_iff_forall_rel_of_append_cons_cons.mpr fun a b front back whole both => ?_
      refine not_mem_ofNat (n := n) (c := '.') (by decide) ?_
      change (Text.ofNat n : Text) = _ at whole
      rw [whole, both.1]
      simp

theorem render_cons (s : Selector) (some : location ≠ []) : render (s :: location) = s.text ++ '.' :: render location :=
  Text.join_cons ['.'] s.text (by simpa using some)

/-- **The path of a location splits into its selectors.** -/
theorem split_render (some : location ≠ []) : split (render location) = location.map Selector.part := by
  induction location with
  | nil => exact absurd rfl some
  | cons s location ih =>
      by_cases last : location = []
      · subst last
        obtain ⟨part, parts, none, whole⟩ := s.split_text []
        obtain ⟨rfl, rfl⟩ := List.cons.inj none
        simpa [render, Text.join] using whole
      · obtain ⟨part, parts, behind, whole⟩ := s.split_text ('.' :: render location)
        have opened : split ('.' :: render location) = [] :: location.map Selector.part := by
          rw [← ih last]
          rfl
        obtain ⟨rfl, rfl⟩ := List.cons.inj (behind.symm.trans opened)
        rw [render_cons s last, whole, List.append_nil, List.map_cons]

/-! ## The normal form -/

theorem Plain.text_ne_nil (plain : Plain location) (listed : s ∈ location) : s.text ≠ [] := by
  cases s with
  | key name => exact escape_ne_nil (plain.named _ listed name rfl).1
  | index n => exact ofNat_ne_nil n

theorem Plain.indexFree (plain : Plain location) (listed : s ∈ location) : ¬ HasIndex s.text := by
  cases s with
  | key name => exact not_hasIndex_escape (plain.named _ listed name rfl).2
  | index n => exact not_hasIndex_of_not_mem (not_mem_ofNat (by decide))

/-- What begins a text and does not hold a character in it stands in front of that character. -/
theorem prefix_left {front a b : Text} (absent : c ∉ front) (begins : front <+: a ++ c :: b) : front <+: a := by
  have whole : a ++ [c] <+: a ++ c :: b := List.prefix_append_right_inj a |>.mpr (List.prefix_append [c] b)
  rcases List.prefix_or_prefix_of_prefix begins whole with inside | around
  · rcases List.prefix_concat_iff.mp inside with rfl | short
    · exact absurd (by simp) absent
    · exact short
  · exact absurd (around.subset (by simp)) absent

theorem not_hasIndex_join {a b : Text} (left : ¬ HasIndex a) (right : ¬ HasIndex b) : ¬ HasIndex (a ++ '.' :: b) := by
  induction a with
  | nil =>
      rw [List.nil_append, hasIndex_cons]
      exact not_or.mpr ⟨fun both => absurd both.1 (by decide), right⟩
  | cons c a ih =>
      rw [hasIndex_cons, not_or] at left
      rw [List.cons_append, hasIndex_cons]
      rintro (⟨bracket, found⟩ | behind)
      · exact left.1 ⟨bracket, isSome_bracketIndex?_of_prefix found fun _ noDot _ => prefix_left noDot⟩
      · exact ih left.2 behind

theorem head?_render (some : s.text ≠ []) (location : Location) : (render (s :: location)).head? = s.text.head? := by
  obtain ⟨c, rest, whole⟩ := List.exists_cons_of_ne_nil some
  by_cases last : location = []
  · subst last
    rfl
  · rw [render_cons s last, whole]
    rfl

theorem indexFree_render (each : ∀ s ∈ location, ¬ HasIndex s.text) : ¬ HasIndex (render location) := by
  induction location with
  | nil => exact not_hasIndex_nil
  | cons s location ih =>
      obtain ⟨here, others⟩ := List.forall_mem_cons.mp each
      by_cases last : location = []
      · subst last
        exact here
      · rw [render_cons s last]
        exact not_hasIndex_join here (ih others)

/-- Dots stand apart if no selector but the last ends with one. -/
theorem singleDotted_render (some : ∀ s ∈ location, s.text ≠ [])
    (inner : ∀ s ∈ location.dropLast, s.text.getLast? ≠ Option.some '.') : SingleDotted (render location) := by
  induction location with
  | nil => exact .nil
  | cons s location ih =>
      cases location with
      | nil => exact s.singleDotted_text
      | cons t location =>
          obtain ⟨here, others⟩ := List.forall_mem_cons.mp (List.dropLast_cons_of_ne_nil (List.cons_ne_nil t location) ▸ inner)
          have rest := ih (List.forall_mem_cons.mp some).2 others
          have next : t.text ≠ [] := (List.forall_mem_cons.mp (List.forall_mem_cons.mp some).2).1
          rw [render_cons s (List.cons_ne_nil t location)]
          refine List.isChain_append.mpr ⟨s.singleDotted_text, List.isChain_cons.mpr ⟨fun d begins both => ?_, rest⟩, ?_⟩
          · refine t.head?_text_ne_dot ?_
            rw [← head?_render next location, ← both.2]
            exact begins
          · intro d ends e _ both
            refine here ?_
            rw [← both.1]
            exact ends

/-- A written selector begins and ends with no blank if a key does not. -/
theorem Selector.solidStart_text (s : Selector) (start : ∀ name ∈ s.name?, Text.SolidStart name) :
    Text.SolidStart s.text := by
  cases s with
  | key name =>
      intro c first
      rcases head?_escape name with ⟨same, -⟩ | slash
      · exact start name rfl c (same ▸ first)
      · rw [Selector.text, slash] at first
        cases first
        decide
  | index n => exact (Text.blankFree_ofNat n).solidStart

theorem Selector.solidEnd_text (s : Selector) (ends : ∀ name ∈ s.name?, Text.SolidEnd name) : Text.SolidEnd s.text := by
  cases s with
  | key name =>
      intro c last
      rw [Selector.text, getLast?_escape] at last
      exact ends name rfl c last
  | index n => exact (Text.blankFree_ofNat n).solidEnd

theorem Plain.solid_render (plain : Plain location) :
    Text.SolidStart (render location) ∧ Text.SolidEnd (render location) := by
  obtain ⟨s, rest, whole⟩ := List.exists_cons_of_ne_nil plain.some
  obtain ⟨front, last, ending⟩ := List.eq_nil_or_concat location |>.resolve_left plain.some
  rw [List.concat_eq_append] at ending
  have start : Text.SolidStart s.text :=
    s.solidStart_text fun name named => (plain.first s (by rw [whole]; rfl) name named).2
  have ends : Text.SolidEnd last.text :=
    last.solidEnd_text (plain.last last (by rw [ending, List.getLast?_concat]; rfl))
  refine ⟨fun c first => ?_, ?_⟩
  · rw [whole, head?_render (plain.text_ne_nil (by rw [whole]; exact List.mem_cons_self))] at first
    exact start c first
  · rw [ending, render, List.map_append]
    by_cases alone : front = []
    · subst alone
      exact ends
    · have some : last.text ≠ [] := plain.text_ne_nil (by rw [ending]; simp)
      rw [Text.join_append _ (by simpa using alone) (by simp)]
      exact Text.solidEnd_append _ (by simp [Text.join]) (Text.solidEnd_append _ some ends)

/-- The path begins with the sign for the whole body only if the first key is that sign. -/
theorem Plain.rootless_render (plain : Plain location) : ¬ Rooted (render location) := by
  obtain ⟨s, rest, rfl⟩ := List.exists_cons_of_ne_nil plain.some
  have first := head?_render (plain.text_ne_nil List.mem_cons_self) rest
  cases s with
  | index n =>
      refine not_rooted_of_head?_ne ?_
      rw [first]
      exact fun sign => not_mem_ofNat (n := n) (by decide) (List.mem_of_mem_head? sign)
  | key name =>
      obtain ⟨tail, whole⟩ : ∃ tail, render (.key name :: rest) = escape name ++ tail := by
        by_cases last : rest = []
        · exact ⟨[], by rw [last, List.append_nil]; rfl⟩
        · exact ⟨_, render_cons (.key name) last⟩
      intro rooted
      obtain ⟨behind, same, dot⟩ : ∃ behind, escape name ++ tail = '$' :: behind ∧ ∀ c ∈ behind.head?, c = '.' := by
        rw [whole] at rooted
        rcases rooted with alone | ⟨behind, begins⟩
        · exact ⟨[], alone, by simp⟩
        · exact ⟨'.' :: behind, begins.symm, by simp⟩
      obtain ⟨named, -⟩ := plain.named _ List.mem_cons_self name rfl
      obtain ⟨c, name, rfl⟩ := List.exists_cons_of_ne_nil named
      rw [escape_cons] at same
      split at same
      · cases same
      · obtain ⟨rfl, rfl⟩ := List.cons.inj same
        by_cases sign : name = []
        · exact (plain.first _ rfl _ rfl).1 (by rw [sign])
        · obtain ⟨d, more, written⟩ := List.exists_cons_of_ne_nil (escape_ne_nil sign)
          have next : d = '.' := dot d (by rw [written]; rfl)
          exact head?_escape_ne_dot name (by rw [written, next]; rfl)

/-- **The path of a location is in normal form.** -/
theorem Plain.normalize_render (plain : Plain location) : normalize (render location) = render location := by
  refine Normal.normalize_of_rootless ⟨?_, ?_, ?_, ?_⟩ plain.rootless_render
  · exact Text.trim_eq_self_iff.mpr plain.solid_render
  · exact indexFree_render fun s listed => plain.indexFree listed
  · refine singleDotted_render (fun s listed => plain.text_ne_nil listed) fun s listed => ?_
    cases s with
    | key name =>
        rw [Selector.text, getLast?_escape]
        exact plain.inner _ listed name rfl
    | index n => exact fun last => not_mem_ofNat (n := n) (by decide) (List.mem_of_getLast? last)
  · obtain ⟨s, rest, rfl⟩ := List.exists_cons_of_ne_nil plain.some
    rw [head?_render (plain.text_ne_nil List.mem_cons_self)]
    exact s.head?_text_ne_dot

/-! ## Following the path -/

/-- The item that an index in decimal names, if it can be read. -/
theorem itemAt_ofNat (items : List Json) (n : Nat) :
    ((Text.ofNat n).length ≤ Integer.digitLimit → itemAt items (Text.ofNat n) = .ok items[n]?) ∧
      (¬ (Text.ofNat n).length ≤ Integer.digitLimit → ∃ e, itemAt items (Text.ofNat n) = .error e) := by
  have digits : ∀ c ∈ Text.ofNat n, Text.isDigit c = true := fun c member => Text.isDigit_digit (isDigit_of_mem_ofNat member)
  have number : itemAt items (Text.ofNat n) = (Integer.read (Text.ofNat n)).map fun n => items[n.toNat]? := by
    have size : Text.ofNat n ≠ ['#'] := fun same => not_mem_ofNat (n := n) (c := '#') (by decide) (by rw [same]; simp)
    have some : (Text.ofNat n).isEmpty = false := by simp [ofNat_ne_nil]
    rw [itemAt, if_neg size, if_pos (by simpa [some] using digits)]
  refine ⟨fun fits => ?_, fun long => ?_⟩
  · rw [number, Integer.read_ofNat fits]
    rfl
  · obtain ⟨e, refused⟩ := (Integer.read_digits (ofNat_ne_nil n) digits).2 fun readable => long readable.2
    exact ⟨e, by rw [number, refused]; rfl⟩

/-- What a selector picks is what its part of the path leads to. -/
theorem step_part (picked : s.pick? value = some next) :
    (s.Readable → step value s.part = .ok (some next)) ∧ (¬ s.Readable → ∃ e, step value s.part = .error e) := by
  cases s with
  | key name =>
      cases value with
      | obj members => exact ⟨fun _ => congrArg Except.ok picked, fun long => absurd trivial long⟩
      | _ => cases picked
  | index n =>
      cases value with
      | arr items =>
          obtain ⟨short, long⟩ := itemAt_ofNat items n
          exact ⟨fun fits => (short fits).trans (congrArg Except.ok picked), long⟩
      | _ => cases picked

/-- **Following the path of a location** comes to the value there and goes on, unless an index cannot be read. -/
theorem follow_front (there : valueAt? front document = some value) (parts : List Text) :
    (Readable front → follow (front.map Selector.part ++ parts) document = follow parts value) ∧
      (¬ Readable front → ∃ e, follow (front.map Selector.part ++ parts) document = .error e) := by
  induction front generalizing document with
  | nil =>
      cases there
      exact ⟨fun _ => rfl, fun long => absurd (List.forall_mem_nil _) long⟩
  | cons s front ih =>
      obtain ⟨next, picked, there⟩ := Option.bind_eq_some_iff.mp there
      obtain ⟨short, long⟩ := step_part picked
      obtain ⟨goes, stops⟩ := ih there
      rw [Readable, List.forall_mem_cons, List.map_cons, List.cons_append, follow]
      by_cases here : s.Readable
      · rw [short here]
        exact ⟨fun all => goes all.2, fun some => stops fun rest => some ⟨here, rest⟩⟩
      · obtain ⟨e, refused⟩ := long here
        rw [refused]
        exact ⟨fun all => absurd all.1 here, fun _ => ⟨e, rfl⟩⟩

theorem find_render (plain : Plain location) (document : Json) :
    find document (render location) = follow (location.map Selector.part) document := by
  have some : render location ≠ [] := by
    obtain ⟨s, rest, rfl⟩ := List.exists_cons_of_ne_nil plain.some
    exact Text.join_ne_nil ['.'] (plain.text_ne_nil List.mem_cons_self) _
  rw [find, plain.normalize_render, if_neg (by simpa using some), split_render plain.some]

theorem readable_concat {s : Selector} : Readable (front ++ [s]) ↔ Readable front ∧ s.Readable := by
  simp only [Readable, List.forall_mem_append, List.forall_mem_singleton]

/-- **What the path of a location comes to**: what the location leads to, or an error if an index cannot be read. -/
theorem Leads.find_render {value? : Option Json} (leads : Leads document location value?) (plain : Plain location) :
    (Readable location → find document (render location) = .ok value?) ∧
      (¬ Readable location → ∃ e, find document (render location) = .error e) := by
  rw [Body.find_render plain]
  cases leads with
  | value there =>
      obtain ⟨goes, stops⟩ := follow_front there []
      rw [List.append_nil] at goes stops
      exact ⟨goes, stops⟩
  | @noKey front name members object absent =>
      obtain ⟨goes, stops⟩ := follow_front object [name]
      have last : follow [name] (.obj members) = .ok none := by rw [follow, step, absent]
      rw [readable_concat, List.map_append]
      exact ⟨fun all => (goes all.1).trans last, fun some => stops fun inner => some ⟨inner, trivial⟩⟩
  | @noItem front n items array past =>
      obtain ⟨goes, stops⟩ := follow_front array [Text.ofNat n]
      obtain ⟨short, long⟩ := itemAt_ofNat items n
      rw [List.getElem?_eq_none past] at short
      rw [readable_concat, List.map_append]
      constructor
      · rintro ⟨inner, fits⟩
        exact (goes inner).trans (by rw [follow, step, short fits])
      · intro some
        by_cases inner : Readable front
        · obtain ⟨e, refused⟩ := long fun fits => some ⟨inner, fits⟩
          exact ⟨e, (goes inner).trans (by rw [follow, step, refused])⟩
        · exact stops inner

/-- **The path of a location leads where the location does** exactly if none of its indices has more digits than can be
read: to the value there, and to nothing where the last key or the last index is not there. -/
theorem find_render_iff {value? : Option Json} (plain : Plain location) (leads : Leads document location value?) :
    find document (render location) = .ok value? ↔ Readable location := by
  obtain ⟨goes, stops⟩ := leads.find_render plain
  refine ⟨fun found => ?_, goes⟩
  by_contra long
  obtain ⟨e, refused⟩ := stops long
  cases found.symm.trans refused

/-- An object in an array in an object, under keys with dots, backslashes and blanks. -/
def shelf : Json := .obj [("a.b\\", .arr [.null, .obj [(" c.", .str "book")]])]

/-- The location of the text in it. -/
def bookPlace : Location := [.key "a.b\\", .index 1, .key " c."]

/-- The text is found at the path of its location. -/
theorem find_render_iff_book :
    (Plain bookPlace ∧ Leads shelf bookPlace (some (.str "book"))) ∧ render bookPlace = "a\\.b\\\\.1. c\\.".toList ∧
      find shelf (render bookPlace) = .ok (some (.str "book")) := by
  have plain : Plain bookPlace := ⟨by decide, by decide, by decide, by decide, by decide⟩
  have leads : Leads shelf bookPlace (some (.str "book")) := .value rfl
  have readable : ∀ s ∈ bookPlace, s.Readable := by decide
  exact ⟨⟨plain, leads⟩, by decide, (find_render_iff plain leads).mpr readable⟩

/-- A power of ten has a digit more than its exponent. -/
theorem not_length_power_le {n : Nat} (some : n ≠ 0) : ¬ (Text.ofNat (Nat.pow 10 n)).length ≤ n := fun fits =>
  Nat.lt_irrefl _ ((Nat.length_toDigits_le_iff (by decide) (Nat.pos_of_ne_zero some)).mp fits)

/-- An index with more digits than can be read is past the end of an array, but its path does not lead to nothing. -/
theorem find_long_index :
    let location : Location := [.index (Nat.pow 10 Integer.digitLimit)]
    Plain location ∧ Leads (.arr []) location none ∧ find (.arr []) (render location) ≠ .ok none := by
  intro location
  have plain : Plain location := ⟨by simp [location], by simp [location, Selector.name?], by simp [location, Selector.name?],
    by simp [location, Selector.name?], by simp [location]⟩
  have leads : Leads (.arr []) location none := @Leads.noItem _ [] _ [] rfl (Nat.zero_le _)
  have long : ¬ Readable location := by
    intro readable
    exact not_length_power_le (by decide) (readable _ (List.mem_singleton_self _))
  obtain ⟨e, refused⟩ := (leads.find_render plain).2 long
  refine ⟨plain, leads, ?_⟩
  rw [refused]
  exact nofun

end ApiFlow.Body
