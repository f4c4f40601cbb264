import ApiFlow.Proofs.Text.Fields

/-!
# Searching in a text

What a search finds in a text that is put together from parts, when the parts in front hold nothing that could begin the
searched text.

* `occursIn_iff_infix` : a text occurs in another if it is an infix of it.
* `cut?_eq_none_iff`, `cut?_front`, `cut?_back` : a search that finds nothing, one that passes over a front, and one
  that does not go on in a back.
* `IsRun.unique` : a row of characters of one kind, where these stand together in a text.
-/

set_option autoImplicit false

namespace ApiFlow.Text

variable {token s front : Text} {c : Char}

theorem occursIn_cons (token : Text) (c : Char) (s : Text) :
    occursIn token (c :: s) = (token.isPrefixOf (c :: s) || occursIn token s) := by
  rw [occursIn, cut?]
  split
  · rename_i here
    simp [here]
  · rename_i absent
    simp [absent, occursIn]

theorem occursIn_iff_infix : occursIn token s = true ↔ token <:+: s := by
  induction s with
  | nil =>
      rw [occursIn, cut?, List.infix_nil]
      cases token <;> simp
  | cons c s ih => rw [occursIn_cons, Bool.or_eq_true, ih, List.infix_cons_iff, List.isPrefixOf_iff_prefix]

theorem cut?_eq_none_iff : cut? token s = none ↔ ¬ token <:+: s := by
  rw [← occursIn_iff_infix, occursIn]
  simp

/-- A search passes over a front in which the first character of the searched text does not stand. -/
theorem cut?_front (free : c ∉ front) (token s : Text) :
    cut? (c :: token) (front ++ s) = (cut? (c :: token) s).map fun p => (front ++ p.1, p.2) := by
  induction front with
  | nil => simp
  | cons d front ih =>
      obtain ⟨other, rest⟩ := List.ne_and_not_mem_of_not_mem_cons free
      rw [List.cons_append, cut?, if_neg (by simp [List.isPrefixOf, other]), ih rest]
      cases cut? (c :: token) s <;> rfl

/-- A search finds what stands right behind such a front. -/
theorem cut?_found (free : c ∉ front) (token s : Text) :
    cut? (c :: token) (front ++ (c :: token ++ s)) = some (front, s) := by
  have here : cut? (c :: token) (c :: token ++ s) = some ([], s) := by
    have match' : (c :: token).isPrefixOf (c :: (token ++ s)) = true :=
      List.isPrefixOf_iff_prefix.mpr (List.prefix_append (c :: token) s)
    rw [List.cons_append, cut?, if_pos match']
    simp
  rw [cut?_front free, here]
  simp

/-- A character that the searched text does not hold may stand behind a text, or in front of it. -/
theorem infix_snoc_iff (absent : c ∉ token) (some : token ≠ []) : token <:+: s ++ [c] ↔ token <:+: s := by
  constructor
  · rintro ⟨before, after, whole⟩
    rcases List.eq_nil_or_concat after with rfl | ⟨rest, d, rfl⟩
    · rw [List.append_nil] at whole
      obtain ⟨init, last, rfl⟩ := List.eq_nil_or_concat token |>.resolve_left some
      rw [List.concat_eq_append, ← List.append_assoc] at whole
      have same := List.singleton_inj.mp (List.append_inj' whole rfl).2
      exact absurd (by simp [same]) absent
    · rw [List.concat_eq_append, ← List.append_assoc] at whole
      exact ⟨before, rest, (List.append_inj' whole rfl).1⟩
  · exact fun inside => inside.trans (List.prefix_append s [c]).isInfix

theorem infix_cons_iff_of_not_mem (absent : c ∉ token) (some : token ≠ []) : token <:+: c :: s ↔ token <:+: s := by
  rw [List.infix_cons_iff]
  refine or_iff_right fun begins => ?_
  obtain ⟨d, rest, rfl⟩ := List.exists_cons_of_ne_nil some
  exact absent (by simp [(List.cons_prefix_cons.mp begins).1])

/-- What begins with a character that a front does not hold stands behind the front. -/
theorem infix_front_iff (free : c ∉ front) : c :: token <:+: front ++ s ↔ c :: token <:+: s := by
  rw [← occursIn_iff_infix, ← occursIn_iff_infix, occursIn, occursIn, cut?_front free, Option.isSome_map]

theorem prefix_append_iff {back : Text} (free : ∀ c ∈ token, c ∉ back) : token <+: s ++ back ↔ token <+: s := by
  refine ⟨fun begins => ?_, fun begins => begins.trans (List.prefix_append s back)⟩
  induction token generalizing s with
  | nil => exact List.nil_prefix
  | cons c token ih =>
      obtain ⟨here, later⟩ := List.forall_mem_cons.mp free
      cases s with
      | nil => exact absurd (begins.subset List.mem_cons_self) here
      | cons d s =>
          obtain ⟨rfl, rest⟩ := List.cons_prefix_cons.mp begins
          exact List.cons_prefix_cons.mpr ⟨rfl, ih later rest⟩

/-- A search does not go on in a text that holds none of the searched characters. -/
theorem cut?_back {back : Text} (some : token ≠ []) (free : ∀ c ∈ token, c ∉ back) (s : Text) :
    cut? token (s ++ back) = (cut? token s).map fun p => (p.1, p.2 ++ back) := by
  induction s with
  | nil =>
      obtain ⟨c, rest, rfl⟩ := List.exists_cons_of_ne_nil some
      have absent : ¬ c :: rest <:+: back := fun inside => free c List.mem_cons_self (inside.subset List.mem_cons_self)
      rw [List.nil_append, cut?_eq_none_iff.mpr absent]
      rfl
  | cons d s ih =>
      have same : token.isPrefixOf (d :: (s ++ back)) = token.isPrefixOf (d :: s) := by
        rw [Bool.eq_iff_iff, List.isPrefixOf_iff_prefix, List.isPrefixOf_iff_prefix]
        exact prefix_append_iff (s := d :: s) free
      rw [List.cons_append, cut?, cut?, same, ih]
      by_cases here : token.isPrefixOf (d :: s) = true
      · obtain ⟨rest, whole⟩ := List.isPrefixOf_iff_prefix.mp here
        rw [if_pos here, if_pos here, ← List.cons_append, ← whole, List.append_assoc]
        simp
      · rw [if_neg here, if_neg here, Option.map_map, Option.map_map]
        rfl

theorem eq_of_cut? {before after : Text} (found : cut? token s = some (before, after)) :
    s = before ++ (token ++ after) := by
  induction s generalizing before with
  | nil =>
      cases token with
      | nil => cases found; rfl
      | cons c token => cases found
  | cons d s ih =>
      rw [cut?] at found
      split at found
      · rename_i here
        obtain ⟨rest, whole⟩ := List.isPrefixOf_iff_prefix.mp here
        rw [← whole, List.drop_left] at found
        cases found
        exact whole.symm
      · obtain ⟨p, further, same⟩ := Option.map_eq_some_iff.mp found
        cases same
        rw [ih further, List.cons_append]

/-- A text in which the characters of one kind stand together, between a front and a back without any. -/
structure IsRun (p : Char → Bool) (front run back : Text) : Prop where
  some : run ≠ []
  all : ∀ c ∈ run, p c = true
  noneFront : ∀ c ∈ front, p c = false
  noneBack : ∀ c ∈ back, p c = false

/-- The characters of that kind are those between the two lengths. -/
theorem IsRun.holds_iff {p : Char → Bool} {run back : Text} {i : Nat} (parts : IsRun p front run back)
    (here : (front ++ (run ++ back))[i]? = Option.some c) :
    p c = true ↔ front.length ≤ i ∧ i < front.length + run.length := by
  rcases Nat.lt_or_ge i front.length with before | beyond
  · rw [List.getElem?_append_left before] at here
    rw [parts.noneFront c (List.mem_of_getElem? here)]
    exact iff_of_false Bool.false_ne_true (by omega)
  · rw [List.getElem?_append_right beyond] at here
    rcases Nat.lt_or_ge (i - front.length) run.length with inside | behind
    · rw [List.getElem?_append_left inside] at here
      exact iff_of_true (parts.all c (List.mem_of_getElem? here)) (by omega)
    · rw [List.getElem?_append_right behind] at here
      rw [parts.noneBack c (List.mem_of_getElem? here)]
      exact iff_of_false Bool.false_ne_true (by omega)

/-- **A run is found in one place only**: no other row of such characters has others on both sides. -/
theorem IsRun.unique {p : Char → Bool} {run back before row after : Text} (parts : IsRun p front run back)
    (some : row ≠ []) (all : ∀ c ∈ row, p c = true) (ends : ∀ c ∈ before.getLast?, p c = false)
    (starts : ∀ c ∈ after.head?, p c = false) (same : front ++ (run ++ back) = before ++ (row ++ after)) :
    front = before ∧ run = row ∧ back = after := by
  have holds {i : Nat} {c : Char} (here : (before ++ (row ++ after))[i]? = Option.some c) :=
    parts.holds_iff (same ▸ here)
  have inside {j : Nat} (short : j < row.length) :
      front.length ≤ before.length + j ∧ before.length + j < front.length + run.length := by
    refine (holds (i := before.length + j) (c := row[j]) ?_).mp (all _ (List.getElem_mem short))
    rw [List.getElem?_append_right (by omega), Nat.add_sub_cancel_left, List.getElem?_append_left short,
      List.getElem?_eq_getElem short]
  have length := List.length_pos_iff.mpr some
  have total := congrArg List.length same
  simp only [List.length_append] at total
  have first := inside (j := 0) length
  have last := inside (j := row.length - 1) (by omega)
  have left : before.length ≤ front.length := by
    refine Nat.not_lt.mp fun beyond => ?_
    obtain ⟨c, here⟩ : ∃ c, before.getLast? = Option.some c :=
      Option.ne_none_iff_exists'.mp (mt List.getLast?_eq_none_iff.mp (by rintro rfl; exact Nat.not_lt_zero _ beyond))
    have other := ends c here
    rw [List.getLast?_eq_getElem?] at here
    rw [(holds ((List.getElem?_append_left (by omega)).trans here)).mpr (by omega)] at other
    cases other
  have right : run.length ≤ row.length := by
    refine Nat.not_lt.mp fun beyond => ?_
    obtain ⟨c, here⟩ : ∃ c, after.head? = Option.some c :=
      Option.ne_none_iff_exists'.mp (mt List.head?_eq_none_iff.mp (by rintro rfl; simp at total; omega))
    have other := starts c here
    rw [List.head?_eq_getElem?] at here
    have place : (before ++ (row ++ after))[before.length + row.length]? = Option.some c := by
      rw [← List.append_assoc, ← List.length_append, List.getElem?_append_right (Nat.le_refl _), Nat.sub_self, here]
    rw [(holds place).mpr (by omega)] at other
    cases other
  obtain ⟨fronts, rest⟩ := List.append_inj same (by omega)
  exact ⟨fronts, List.append_inj rest (by omega)⟩

/-- A start that a text does not have is not dropped. -/
theorem dropStart_of_not_prefix {start : Text} (other : ¬ start <+: s) : dropStart start s = s := by
  rw [dropStart, if_neg (by simpa using other)]

end ApiFlow.Text
