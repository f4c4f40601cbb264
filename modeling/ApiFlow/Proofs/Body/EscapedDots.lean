import ApiFlow.Proofs.Body.Normal

/-!
# Escaped dots in the dotted form of a path

A dot behind an odd run of backslashes is part of a key.  The splitting of a path honours that, but the dotted form makes
one dot of each run of dots, escaped or not.  A separator right behind an escaped dot is therefore lost, and the keys
around it become one.

* `escapes`, `DotsApart` : which dots are escaped, and paths in which no two separators stand side by side.
* `MeetsDot` : an escaped dot has a separator right behind it.
* `length_split_singleDots_lt` : each such place costs a part of the path.
* `split_normalize_iff` : the dotted form of a path has the parts of the path exactly if there is no such place.
-/

set_option autoImplicit false

namespace ApiFlow.Body

variable {c : Char} {s front path : Text}

/-- What follows the text is escaped: an odd number of backslashes stands at the end. -/
def escapes (front : Text) : Bool := (front.reverse.takeWhile (· = '\\')).length % 2 = 1

/-- Of two dots side by side at least one is escaped. -/
def DotsApart (path : Text) : Prop :=
  ∀ front back, path = front ++ '.' :: '.' :: back → escapes front ∨ escapes (front ++ ['.'])

/-- An escaped dot has another dot right behind it. -/
def MeetsDot (path : Text) : Prop := ∃ front back, path = front ++ '.' :: '.' :: back ∧ escapes front

/-- Two dots side by side stand behind a front of the path. -/
theorem forall_doubleDot_iff (P : Text → Prop) :
    (∀ front back, path = front ++ '.' :: '.' :: back → P front) ↔
      ∀ n < path.length, ['.', '.'] <+: path.drop n → P (path.take n) := by
  constructor
  · rintro all n - ⟨back, whole⟩
    refine all (path.take n) back ?_
    calc path = path.take n ++ path.drop n := (List.take_append_drop n path).symm
      _ = path.take n ++ '.' :: '.' :: back := by rw [← whole]; rfl
  · rintro all front back rfl
    have here := all front.length (by simp) (by simp)
    rwa [List.take_left] at here

instance (path : Text) : Decidable (DotsApart path) :=
  decidable_of_iff _ (forall_doubleDot_iff fun front => escapes front ∨ escapes (front ++ ['.'])).symm

/-! ## What is escaped -/

theorem escapes_cons (other : c ≠ '\\') (front : Text) : escapes (c :: front) = escapes front := by
  have stop : [c].takeWhile (· = '\\') = [] := by simp [other]
  rw [escapes, escapes, List.reverse_cons, List.takeWhile_append, stop]
  split <;> simp_all

/-- A pair that a backslash begins does not matter to what follows. -/
theorem escapes_pair (c : Char) (front : Text) : escapes ('\\' :: c :: front) = escapes front := by
  by_cases slash : c = '\\'
  · subst slash
    have two : ['\\', '\\'].takeWhile (· = '\\') = ['\\', '\\'] := rfl
    rw [escapes, escapes, List.reverse_cons, List.reverse_cons, List.append_assoc, List.takeWhile_append]
    split
    · rename_i all
      rw [List.singleton_append, two, List.length_append, all]
      simp
    · rfl
  · have stop : [c, '\\'].takeWhile (· = '\\') = [] := by simp [slash]
    rw [escapes, escapes, List.reverse_cons, List.reverse_cons, List.append_assoc, List.takeWhile_append]
    split
    · rename_i all
      rw [List.singleton_append, stop, List.append_nil, all]
    · rfl

theorem not_escapes_dot (front : Text) : escapes (front ++ ['.']) = false := by
  rw [escapes, List.reverse_append]
  rfl

theorem DotsApart.tail (apart : DotsApart (c :: s)) (other : c ≠ '\\') : DotsApart s := by
  rintro front back rfl
  have here := apart (c :: front) back rfl
  rwa [escapes_cons other, List.cons_append, escapes_cons other] at here

theorem DotsApart.behind (apart : DotsApart ('\\' :: c :: s)) : DotsApart s := by
  rintro front back rfl
  have here := apart ('\\' :: c :: front) back rfl
  rwa [escapes_pair, List.cons_append, List.cons_append, escapes_pair] at here

/-- No dot stands right behind a separator. -/
theorem DotsApart.head?_ne (apart : DotsApart ('.' :: s)) : s.head? ≠ some '.' := by
  intro first
  cases s with
  | nil => cases first
  | cons c s =>
      cases first
      rcases apart [] s rfl with escaped | escaped <;> exact absurd escaped (by decide)

/-- Where two dots stand side by side, the first one is escaped. -/
theorem DotsApart.meetsDot_iff (apart : DotsApart path) : MeetsDot path ↔ ¬ SingleDotted path := by
  rw [SingleDotted, List.isChain_iff_forall_rel_of_append_cons_cons]
  constructor
  · rintro ⟨front, back, rfl, -⟩ single
    exact single rfl ⟨rfl, rfl⟩
  · intro double
    push Not at double
    obtain ⟨a, b, front, back, whole, rfl, rfl⟩ := double
    rcases apart front back whole with escaped | escaped
    · exact ⟨front, back, whole, escaped⟩
    · exact absurd escaped (by rw [not_escapes_dot]; exact Bool.false_ne_true)

/-! ## Counting parts -/

theorem length_pushFirst (c : Char) (s : Text) : (Text.pushFirst c (split s)).length = (split s).length := by
  obtain ⟨part, parts, same⟩ := List.exists_cons_of_ne_nil (split_ne_nil s)
  rw [same]
  rfl

theorem length_split_escaped (c : Char) (s : Text) : (split ('\\' :: c :: s)).length = (split s).length := by
  rw [split, length_pushFirst]

theorem length_split_separator (s : Text) : (split ('.' :: s)).length = (split s).length + 1 := rfl

theorem length_split_cons (notDot : c ≠ '.') (notSlash : c ≠ '\\') (s : Text) :
    (split (c :: s)).length = (split s).length := by
  rw [split_cons notDot notSlash, length_pushFirst]

/-- A run of dots that does not begin a text is in what follows its first character. -/
theorem not_singleDotted_tail (double : ¬ SingleDotted (c :: s)) (keep : ¬ (c = '.' ∧ s.head? = some '.')) :
    ¬ SingleDotted s := by
  refine fun single => double (List.isChain_cons.mpr ⟨fun d first both => keep ⟨both.1, ?_⟩, single⟩)
  rw [← both.2]
  exact first

/-- **Where an escaped dot meets a separator, a part of the path is lost.** -/
theorem length_split_singleDots_lt (apart : DotsApart s) (double : ¬ SingleDotted s) :
    (split (singleDots s)).length < (split s).length := by
  fun_induction split s with
  | case1 => exact absurd .nil double
  | case2 => exact absurd (.singleton _) double
  | case3 c s ih =>
      have slash : ¬ ('\\' = '.' ∧ (c :: s).head? = some '.') := fun both => absurd both.1 (by decide)
      rw [length_pushFirst, singleDots_cons slash]
      by_cases meets : c = '.' ∧ s.head? = some '.'
      · -- the escaped dot swallows the separator, and what follows is no shorter than before
        obtain ⟨rfl, first⟩ := meets
        obtain ⟨t, rfl⟩ : ∃ t, s = '.' :: t := List.head?_eq_some_iff.mp first
        have inner : singleDots ('.' :: t) = '.' :: singleDots t :=
          singleDots_cons fun both => apart.behind.head?_ne both.2
        have shorter : (split (singleDots ('.' :: t))).length ≤ (split ('.' :: t)).length := by
          by_cases single : SingleDotted ('.' :: t)
          · rw [single.singleDots_eq]
          · exact Nat.le_of_lt (ih apart.behind single)
        rw [singleDots_dots first, inner, length_split_escaped]
        rw [inner, length_split_separator] at shorter
        exact shorter
      · have rest := not_singleDotted_tail (not_singleDotted_tail double slash) meets
        rw [singleDots_cons meets, length_split_escaped]
        exact ih apart.behind rest
  | case4 s _ _ ih =>
      have next : ¬ ('.' = '.' ∧ s.head? = some '.') := fun both => apart.head?_ne both.2
      rw [singleDots_cons next, length_split_separator, List.length_cons]
      exact Nat.succ_lt_succ (ih (apart.tail (by decide)) (not_singleDotted_tail double next))
  | case5 c s last paired notDot ih =>
      have notSlash : c ≠ '\\' := by
        intro same
        cases s with
        | nil => exact last same rfl
        | cons d s => exact paired d s same rfl
      have next : ¬ (c = '.' ∧ s.head? = some '.') := fun both => notDot both.1
      rw [singleDots_cons next, length_split_cons notDot notSlash, length_pushFirst]
      exact ih (apart.tail notSlash) (not_singleDotted_tail double next)

/-! ## The dotted form -/

/-- **The dotted form of a path has the parts of the path** exactly if no escaped dot has a separator right behind it,
for every path without blanks around it and without an index, that begins neither with the sign for the whole body nor
with a dot, and in which no two separators stand side by side. -/
theorem split_normalize_iff (trimmed : Text.trim path = path) (indexFree : ¬ HasIndex path)
    (rootless : path.head? ≠ some '$') (undotted : path.head? ≠ some '.') (apart : DotsApart path) :
    split (normalize path) = split path ↔ ¬ MeetsDot path := by
  have dotted : normalize path = singleDots path := by
    have first : (singleDots path).head? = path.head? := head?_singleDots path
    rw [normalize, trimmed, dotIndices_of_indexFree indexFree,
      dropRoot_of_rootless (not_rooted_of_head?_ne (by rwa [first])), dropWhile_dot (by rwa [first])]
  rw [dotted, apart.meetsDot_iff, not_not]
  constructor
  · intro same
    by_contra double
    exact absurd (congrArg List.length same) (Nat.ne_of_lt (length_split_singleDots_lt apart double))
  · intro single
    rw [single.singleDots_eq]

/-- A path with an escaped dot between letters, an escaped backslash in front of a separator, an escaped dot behind one,
and brackets without digits. -/
theorem split_normalize_iff_keys :
    let path : Text := "a\\.b\\\\.\\.c[k]"
    (Text.trim path = path ∧ ¬ HasIndex path ∧ path.head? ≠ some '$' ∧ path.head? ≠ some '.' ∧ DotsApart path) ∧
      split (normalize path) = split path ∧ split path = [("a.b\\" : Text), ".c[k]"] := by
  intro path
  have plain : Text.trim path = path ∧ ¬ HasIndex path ∧ path.head? ≠ some '$' ∧ path.head? ≠ some '.' ∧
      DotsApart path := by decide
  have single : ¬ MeetsDot path := by
    rw [plain.2.2.2.2.meetsDot_iff]
    decide
  exact ⟨plain, (split_normalize_iff plain.1 plain.2.1 plain.2.2.1 plain.2.2.2.1 plain.2.2.2.2).mpr single, by decide⟩

/-- The key `a.` in front of the key `b`: the dotted form makes one key of the two. -/
theorem separator_behind_escaped_dot_lost :
    let path : Text := "a\\..b"
    (Text.trim path = path ∧ ¬ HasIndex path ∧ path.head? ≠ some '$' ∧ path.head? ≠ some '.' ∧ DotsApart path) ∧
      split path = [("a." : Text), "b"] ∧ split (normalize path) = [("a.b" : Text)] := by
  decide

end ApiFlow.Body
