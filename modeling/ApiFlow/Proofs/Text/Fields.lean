import ApiFlow.Text.Arguments
import ApiFlow.Text.Class

/-!
# Texts that are put together and taken apart again

What is written with marks and blanks between its parts is read back part by part, as long as no part holds what stands
between the parts.

An argument in double quotes is read as it was written, blanks and single quotes included; a double quote inside ends the
quoted run, stands in single quotes, and begins the next run.

* `trim_append` : parts without blanks at the outer ends keep all that stands between them.
* `splitAt_join`, `join_splitAt` : splitting at a mark and joining with it are inverse to each other.
* `cutAt?_append`, `firstWord?_append`, `arguments_pair` : the first part and the rest.
* `arguments_wrap` : a line of arguments in quotes.
-/

set_option autoImplicit false

namespace ApiFlow.Text

variable {s a b : Text} {p : Char → Bool} {mark : Char}

/-! ## Blanks at the ends -/

/-- The text does not begin with a blank. -/
def SolidStart (s : Text) : Prop := ∀ c ∈ s.head?, isBlank c = false

/-- The text does not end with a blank. -/
def SolidEnd (s : Text) : Prop := ∀ c ∈ s.getLast?, isBlank c = false

instance (s : Text) : Decidable (SolidStart s) :=
  decidable_of_iff (s.head?.all (!isBlank ·) = true) (by simp [SolidStart, Option.all_eq_true])

instance (s : Text) : Decidable (SolidEnd s) :=
  decidable_of_iff (s.getLast?.all (!isBlank ·) = true) (by simp [SolidEnd, Option.all_eq_true])

theorem dropWhile_eq_self (first : ∀ c ∈ s.head?, p c = false) : s.dropWhile p = s := by
  cases s with
  | nil => rfl
  | cons c s => rw [List.dropWhile_cons, if_neg (by simp [first c rfl])]

theorem dropEndWhile_eq_self (last : ∀ c ∈ s.getLast?, p c = false) : dropEndWhile p s = s := by
  rw [dropEndWhile, dropWhile_eq_self (by simpa using last), List.reverse_reverse]

theorem trimLeft_eq_self (start : SolidStart s) : trimLeft s = s := dropWhile_eq_self start

theorem trimRight_eq_self (ends : SolidEnd s) : trimRight s = s := dropEndWhile_eq_self ends

theorem solidStart_trimLeft (s : Text) : SolidStart (trimLeft s) := by
  intro c first
  have blank := List.head?_dropWhile_not isBlank s
  rw [show s.dropWhile isBlank = trimLeft s from rfl, Option.mem_def.mp first] at blank
  simpa using blank

theorem solidEnd_trimRight (s : Text) : SolidEnd (trimRight s) := by
  intro c last
  have start := solidStart_trimLeft s.reverse
  refine start c ?_
  rwa [trimRight, dropEndWhile, List.getLast?_reverse] at last

/-- **A text is trimmed exactly if neither end is a blank.** -/
theorem trim_eq_self_iff : trim s = s ↔ SolidStart s ∧ SolidEnd s := by
  constructor
  · intro trimmed
    have left : (trimLeft s).length ≤ s.length := (List.dropWhile_suffix isBlank).length_le
    have right : (trim s).length ≤ (trimLeft s).length := by
      rw [trim, trimRight, dropEndWhile, List.length_reverse]
      simpa using (List.dropWhile_suffix isBlank (l := (trimLeft s).reverse)).length_le
    have whole : trimLeft s = s := by
      refine (List.dropWhile_suffix isBlank).eq_of_length (Nat.le_antisymm left ?_)
      exact (congrArg List.length trimmed) ▸ right
    refine ⟨whole ▸ solidStart_trimLeft s, ?_⟩
    rw [← trimmed]
    exact solidEnd_trimRight _
  · rintro ⟨start, ends⟩
    rw [trim, trimLeft_eq_self start, trimRight_eq_self ends]

theorem solidStart_append (some : a ≠ []) (start : SolidStart a) (b : Text) : SolidStart (a ++ b) := by
  cases a with
  | nil => exact absurd rfl some
  | cons c a => exact start

theorem solidEnd_append (a : Text) (some : b ≠ []) (ends : SolidEnd b) : SolidEnd (a ++ b) := by
  intro c last
  obtain ⟨d, same⟩ := Option.ne_none_iff_exists'.mp (mt List.getLast?_eq_none_iff.mp some)
  rw [List.getLast?_append, same, Option.some_or] at last
  exact ends c (same.trans last)

/-- **Parts keep what stands between them** if their outer ends are no blanks. -/
theorem trim_append (someA : a ≠ []) (someB : b ≠ []) (start : SolidStart a) (ends : SolidEnd b) (between : Text) :
    trim (a ++ (between ++ b)) = a ++ (between ++ b) :=
  trim_eq_self_iff.mpr
    ⟨solidStart_append someA start _, solidEnd_append _ (by simp [someB]) (solidEnd_append _ someB ends)⟩

theorem trimRight_append (ends : SolidEnd a) (b : Text) : trimRight (a ++ b) = a ++ trimRight b := by
  rw [trimRight, dropEndWhile, List.reverse_append, List.dropWhile_append]
  split
  · rename_i blank
    have none : trimRight b = [] := by rw [trimRight, dropEndWhile, List.isEmpty_iff.mp blank]; rfl
    rw [none, List.append_nil]
    exact trimRight_eq_self ends
  · rw [List.reverse_append, List.reverse_reverse]
    rfl

/-- A text keeps a front whose ends are no blanks. -/
theorem trim_front (some : a ≠ []) (start : SolidStart a) (ends : SolidEnd a) (b : Text) :
    trim (a ++ b) = a ++ trimRight b := by
  rw [trim, trimLeft_eq_self (solidStart_append some start b), trimRight_append ends]

/-- A text keeps a first character that is no blank. -/
theorem trim_cons {c : Char} (solid : isBlank c = false) (s : Text) : ∃ t, trim (c :: s) = c :: t := by
  have left : trimLeft (c :: s) = c :: s := trimLeft_eq_self fun d first => by cases first; exact solid
  rw [trim, left, trimRight, dropEndWhile, List.reverse_cons, List.dropWhile_append]
  split
  · exact ⟨[], by simp [solid]⟩
  · exact ⟨_, List.reverse_append⟩

theorem trimLeft_cons (c : Char) (s : Text) : trimLeft (c :: s) = if isBlank c then trimLeft s else c :: s :=
  List.dropWhile_cons

theorem trimRight_concat (s : Text) (c : Char) : trimRight (s ++ [c]) = if isBlank c then trimRight s else s ++ [c] := by
  rw [trimRight, dropEndWhile, List.reverse_concat, List.dropWhile_cons]
  split
  · rfl
  · rw [List.reverse_cons, List.reverse_reverse]

/-- **What does not change with a blank at either end** does not change by trimming. -/
theorem eq_of_trim {α : Type} {f : Text → α} (front : ∀ c s, isBlank c = true → f (c :: s) = f s)
    (back : ∀ s c, isBlank c = true → f (s ++ [c]) = f s) (s : Text) : f (trim s) = f s := by
  have right (t : Text) : f (trimRight t) = f t := by
    rw [← List.reverse_reverse t]
    induction t.reverse with
    | nil => rfl
    | cons c t ih =>
        rw [List.reverse_cons, trimRight_concat]
        split
        · rename_i blank
          rw [ih, back _ c blank]
        · rfl
  have left (t : Text) : f (trimLeft t) = f t := by
    induction t with
    | nil => rfl
    | cons c t ih =>
        rw [trimLeft_cons]
        split
        · rename_i blank
          rw [ih, front c t blank]
        · rfl
  rw [trim, right, left]

theorem trim_blank_cons {c : Char} (blank : isBlank c = true) (s : Text) : trim (c :: s) = trim s := by
  rw [trim, trimLeft_cons, if_pos blank, trim]

theorem trim_concat_blank {c : Char} (blank : isBlank c = true) (s : Text) : trim (s ++ [c]) = trim s := by
  rw [trim, trim, trimLeft, trimLeft, List.dropWhile_append]
  split
  · rename_i none
    rw [List.isEmpty_iff.mp none, List.dropWhile_cons, if_pos blank]
    rfl
  · rw [trimRight_concat, if_pos blank]

/-- Only blanks are trimmed away. -/
theorem mem_trim_iff {c : Char} (solid : isBlank c = false) (s : Text) : c ∈ trim s ↔ c ∈ s := by
  have other {d : Char} (blank : isBlank d = true) : c ≠ d := by
    rintro rfl
    exact absurd blank (by simp [solid])
  refine Iff.of_eq (eq_of_trim (f := fun s => c ∈ s) (fun d s blank => ?_) (fun s d blank => ?_) s)
  · rw [List.mem_cons, or_iff_right (other blank)]
  · rw [List.mem_append, List.mem_singleton, or_iff_left (other blank)]

theorem trim_trim (s : Text) : trim (trim s) = trim s :=
  eq_of_trim (fun _ s blank => trim_blank_cons blank s) (fun s _ blank => trim_concat_blank blank s) s

/-- No blank stands in the text. -/
def BlankFree (s : Text) : Prop := ∀ c ∈ s, isBlank c = false

instance (s : Text) : Decidable (BlankFree s) := List.decidableBAll _ s

theorem BlankFree.append (first : BlankFree a) (second : BlankFree b) : BlankFree (a ++ b) :=
  List.forall_mem_append.mpr ⟨first, second⟩

theorem BlankFree.solidStart (solid : BlankFree s) : SolidStart s :=
  fun c first => solid c (List.mem_of_mem_head? first)

theorem BlankFree.solidEnd (solid : BlankFree s) : SolidEnd s :=
  fun c last => solid c (List.mem_of_mem_getLast? last)

theorem BlankFree.trimmed (solid : BlankFree s) : trim s = s :=
  trim_eq_self_iff.mpr ⟨solid.solidStart, solid.solidEnd⟩

/-! ## Fields -/

theorem splitWhere_of_not_mem (free : ∀ c ∈ s, p c = false) : splitWhere p s = [s] := by
  induction s with
  | nil => rfl
  | cons c s ih =>
      obtain ⟨here, rest⟩ := List.forall_mem_cons.mp free
      rw [splitWhere, if_neg (by simp [here]), ih rest, pushFirst]

theorem splitWhere_ne_nil (p : Char → Bool) (s : Text) : splitWhere p s ≠ [] := by
  cases s with
  | nil => simp [splitWhere]
  | cons c s =>
      rw [splitWhere]
      split
      · simp
      · cases splitWhere p s <;> simp [pushFirst]

theorem splitWhere_append {c : Char} (stop : p c = true) (a b : Text) :
    splitWhere p (a ++ c :: b) = splitWhere p a ++ splitWhere p b := by
  induction a with
  | nil => exact if_pos stop
  | cons d a ih =>
      rw [List.cons_append, splitWhere, splitWhere, ih]
      split
      · rfl
      · obtain ⟨first, fields, whole⟩ := List.exists_cons_of_ne_nil (splitWhere_ne_nil p a)
        rw [whole]
        rfl

theorem splitAt_ne_nil (mark : Char) (s : Text) : splitAt mark s ≠ [] := splitWhere_ne_nil _ s

theorem splitAt_of_not_mem (free : mark ∉ s) : splitAt mark s = [s] :=
  splitWhere_of_not_mem fun c member => decide_eq_false fun (same : c = mark) => free (same ▸ member)

/-- **The fields of two texts with a mark between them.** -/
theorem splitAt_append_mark (mark : Char) (a b : Text) : splitAt mark (a ++ mark :: b) = splitAt mark a ++ splitAt mark b :=
  splitWhere_append (decide_eq_true rfl) a b

theorem splitAt_append (free : mark ∉ a) (b : Text) : splitAt mark (a ++ mark :: b) = a :: splitAt mark b := by
  rw [splitAt_append_mark, splitAt_of_not_mem free, List.singleton_append]

/-- Any other character in front of a text goes into its first field. -/
theorem splitAt_cons {c : Char} (other : c ≠ mark) (s : Text) : splitAt mark (c :: s) = pushFirst c (splitAt mark s) :=
  if_neg (by simpa using other)

/-- The first field begins as the text does. -/
theorem head?_splitAt_cons {c : Char} (other : c ≠ mark) (s : Text) :
    ∃ t, (splitAt mark (c :: s)).head? = some (c :: t) := by
  obtain ⟨first, fields, whole⟩ := List.exists_cons_of_ne_nil (splitAt_ne_nil mark s)
  rw [splitAt_cons other, whole]
  exact ⟨first, rfl⟩

theorem join_cons (separator field : Text) {fields : List Text} (some : fields ≠ []) :
    join separator (field :: fields) = field ++ (separator ++ join separator fields) := by
  cases fields with
  | nil => exact absurd rfl some
  | cons next rest => rw [join, List.append_assoc]; simp

theorem join_append (separator : Text) {first second : List Text} (someFirst : first ≠ []) (someSecond : second ≠ []) :
    join separator (first ++ second) = join separator first ++ (separator ++ join separator second) := by
  induction first with
  | nil => exact absurd rfl someFirst
  | cons field rest ih =>
      by_cases last : rest = []
      · subst last
        exact join_cons separator field someSecond
      · rw [List.cons_append, join_cons _ _ (by simp [last]), ih last, join_cons _ _ last]
        simp

theorem join_pushFirst (separator : Text) (c : Char) {fields : List Text} (some : fields ≠ []) :
    join separator (pushFirst c fields) = c :: join separator fields := by
  cases fields with
  | nil => exact absurd rfl some
  | cons field rest =>
      by_cases last : rest = []
      · subst last
        rfl
      · rw [pushFirst, join_cons _ _ last, join_cons _ _ last, List.cons_append]

/-- **Joined fields split into themselves** if none of them holds the mark. -/
theorem splitAt_join {fields : List Text} (some : fields ≠ []) (free : ∀ field ∈ fields, mark ∉ field) :
    splitAt mark (join [mark] fields) = fields := by
  induction fields with
  | nil => exact absurd rfl some
  | cons field rest ih =>
      obtain ⟨here, others⟩ := List.forall_mem_cons.mp free
      by_cases last : rest = []
      · subst last
        exact splitAt_of_not_mem here
      · rw [join_cons _ _ last, List.singleton_append, splitAt_append here, ih last others]

/-- **A split text joins to itself.** -/
theorem join_splitAt (mark : Char) (s : Text) : join [mark] (splitAt mark s) = s := by
  induction s with
  | nil => rfl
  | cons c s ih =>
      have some := splitAt_ne_nil mark s
      unfold splitAt at ih some ⊢
      by_cases here : c = mark
      · subst here
        rw [splitWhere, if_pos (decide_eq_true rfl), join_cons _ _ some, ih]
        rfl
      · rw [splitWhere, if_neg (by simp [here]), join_pushFirst _ _ some, ih]

theorem join_concat (separator : Text) (front : List Text) (last t : Text) :
    join separator (front ++ [last ++ t]) = join separator (front ++ [last]) ++ t := by
  by_cases none : front = []
  · subst none
    rfl
  · rw [join_append _ none (by simp), join_append _ none (by simp), List.append_assoc, List.append_assoc]
    rfl

theorem mem_of_mem_splitAt {field : Text} {c : Char} (listed : field ∈ splitAt mark s) (member : c ∈ field) :
    c ∈ s ∧ c ≠ mark := by
  induction s generalizing field with
  | nil =>
      rw [splitAt, splitWhere, List.mem_singleton] at listed
      subst listed
      cases member
  | cons d s ih =>
      unfold splitAt at ih listed
      by_cases here : d = mark
      · rw [splitWhere, if_pos (decide_eq_true here)] at listed
        rcases List.mem_cons.mp listed with rfl | listed
        · cases member
        · exact ⟨List.mem_cons_of_mem _ (ih listed member).1, (ih listed member).2⟩
      · rw [splitWhere, if_neg (by simp [here])] at listed
        obtain ⟨first, rest, fields⟩ := List.exists_cons_of_ne_nil (splitWhere_ne_nil (fun x => decide (x = mark)) s)
        rw [fields] at ih listed
        rcases List.mem_cons.mp listed with rfl | listed
        · rcases List.mem_cons.mp member with rfl | member
          · exact ⟨List.mem_cons_self, here⟩
          · exact ⟨List.mem_cons_of_mem _ (ih List.mem_cons_self member).1, (ih List.mem_cons_self member).2⟩
        · have both := ih (List.mem_cons_of_mem _ listed) member
          exact ⟨List.mem_cons_of_mem _ both.1, both.2⟩

theorem not_mem_of_mem_splitAt {field : Text} (listed : field ∈ splitAt mark s) : mark ∉ field :=
  fun member => (mem_of_mem_splitAt listed member).2 rfl

/-- A mark behind a text begins an empty field. -/
theorem splitAt_concat_mark (mark : Char) (s : Text) : splitAt mark (s ++ [mark]) = splitAt mark s ++ [[]] :=
  splitAt_append_mark mark s []

/-- Any other character behind a text goes into its last field. -/
theorem splitAt_concat {c : Char} (other : c ≠ mark) (s : Text) :
    ∃ front last, splitAt mark s = front ++ [last] ∧ splitAt mark (s ++ [c]) = front ++ [last ++ [c]] := by
  obtain ⟨front, last, fields⟩ := (List.eq_nil_or_concat _).resolve_left (splitAt_ne_nil mark s)
  rw [List.concat_eq_append] at fields
  refine ⟨front, last, fields, ?_⟩
  have whole : join [mark] (front ++ [last ++ [c]]) = s ++ [c] := by
    rw [join_concat, ← fields, join_splitAt]
  have free : ∀ field ∈ front ++ [last], mark ∉ field := fun field listed =>
    not_mem_of_mem_splitAt (s := s) (fields ▸ listed)
  rw [← whole]
  refine splitAt_join (by simp) fun field listed => ?_
  rcases List.mem_append.mp listed with inside | ends
  · exact free field (List.mem_append_left _ inside)
  · rw [List.mem_singleton.mp ends, List.mem_append, List.mem_singleton, not_or]
    exact ⟨free last (by simp), Ne.symm other⟩

/-- A character of joined fields stands in a field or in a separator. -/
theorem mem_of_mem_join {separator : Text} {fields : List Text} {c : Char} (listed : c ∈ join separator fields) :
    c ∈ separator ∨ ∃ field ∈ fields, c ∈ field := by
  fun_induction join separator fields with
  | case1 => cases listed
  | case2 field => exact .inr ⟨field, List.mem_cons_self, listed⟩
  | case3 field rest _ ih =>
      obtain front | later := List.mem_append.mp listed
      · exact (List.mem_append.mp front).symm.imp_right fun here => ⟨field, List.mem_cons_self, here⟩
      · exact (ih later).imp_right fun ⟨other, among, there⟩ => ⟨other, List.mem_cons_of_mem field among, there⟩

theorem join_ne_nil (separator : Text) {field : Text} (some : field ≠ []) (rest : List Text) :
    join separator (field :: rest) ≠ [] := by
  by_cases last : rest = []
  · subst last
    exact some
  · rw [join_cons _ _ last]
    simp [some]

/-- A text whose first part begins with no blank begins with none. -/
theorem solidStart_join (separator : Text) {field : Text} (some : field ≠ []) (start : SolidStart field)
    (rest : List Text) : SolidStart (join separator (field :: rest)) := by
  by_cases last : rest = []
  · subst last
    exact start
  · rw [join_cons _ _ last]
    exact solidStart_append some start _

/-- A text made of parts that end with no blank ends with none. -/
theorem solidEnd_join (separator : Text) {fields : List Text} (some : fields ≠ [])
    (each : ∀ field ∈ fields, field ≠ [] ∧ SolidEnd field) :
    join separator fields ≠ [] ∧ SolidEnd (join separator fields) := by
  induction fields with
  | nil => exact absurd rfl some
  | cons field rest ih =>
      obtain ⟨here, others⟩ := List.forall_mem_cons.mp each
      by_cases last : rest = []
      · subst last
        exact here
      · obtain ⟨more, ends⟩ := ih last others
        rw [join_cons _ _ last]
        exact ⟨by simp [here.1], solidEnd_append _ (by simp [more]) (solidEnd_append _ more ends)⟩

/-! ## First parts -/

theorem cutAt?_append (free : mark ∉ a) (b : Text) : cutAt? mark (a ++ mark :: b) = some (a, b) := by
  induction a with
  | nil => rw [List.nil_append, cutAt?, if_pos rfl]
  | cons c a ih =>
      obtain ⟨here, rest⟩ := List.ne_and_not_mem_of_not_mem_cons free
      rw [List.cons_append, cutAt?, if_neg (Ne.symm here), ih rest]
      rfl

theorem cutAt?_eq_none_iff : cutAt? mark s = none ↔ mark ∉ s := by
  induction s with
  | nil => simp [cutAt?]
  | cons c s ih =>
      by_cases here : c = mark
      · simp [cutAt?, here]
      · simp [cutAt?, here, Ne.symm here, ih]

theorem cutAt?_of_not_mem (free : mark ∉ a) : cutAt? mark a = none := cutAt?_eq_none_iff.mpr free

theorem cutAt?_eq_some_iff : cutAt? mark s = some (a, b) ↔ s = a ++ mark :: b ∧ mark ∉ a := by
  constructor
  · intro cut
    induction s generalizing a with
    | nil => cases cut
    | cons c s ih =>
        rw [cutAt?] at cut
        split at cut
        · rename_i here
          cases cut
          exact ⟨congrArg (· :: b) here, List.not_mem_nil⟩
        · rename_i other
          obtain ⟨⟨front, rest⟩, further, same⟩ := Option.map_eq_some_iff.mp cut
          cases same
          obtain ⟨rfl, free⟩ := ih further
          exact ⟨rfl, List.not_mem_cons_of_ne_of_not_mem (Ne.symm other) free⟩
  · rintro ⟨rfl, free⟩
    exact cutAt?_append free b

/-- Where a test holds of a front and of nothing right behind it, it splits the list there. -/
theorem takeWhile_dropWhile_append {α : Type} {p : α → Bool} {front rest : List α} (holds : ∀ x ∈ front, p x = true)
    (stop : ∀ x ∈ rest.head?, p x = false) :
    (front ++ rest).takeWhile p = front ∧ (front ++ rest).dropWhile p = rest := by
  rw [List.takeWhile_append_of_pos holds, List.dropWhile_append_of_pos holds]
  cases rest with
  | nil => exact ⟨List.append_nil front, rfl⟩
  | cons x rest => simp [stop x rfl]

/-- **A word** and what follows the blanks after it. -/
theorem firstWord?_append (some : a ≠ []) (solid : BlankFree a) {b : Text}
    (stop : ∀ c ∈ b.head?, isBlank c = true) : firstWord? (a ++ b) = Option.some (a, trimLeft b) := by
  have start : trimLeft (a ++ b) = a ++ b := trimLeft_eq_self (solidStart_append some solid.solidStart _)
  obtain ⟨left, right⟩ := takeWhile_dropWhile_append (p := (!isBlank ·)) (fun c member => by simp [solid c member])
    (fun c first => by simp [stop c first])
  obtain ⟨c, w, whole⟩ := List.exists_cons_of_ne_nil (show a ++ b ≠ [] by simp [some])
  rw [whole] at start left right
  rw [whole, firstWord?, start]
  dsimp only
  rw [left, right]

/-- A text without blanks is one word. -/
theorem words_word (some : a ≠ []) (solid : BlankFree a) : words a = [a] := by
  obtain ⟨c, w, rfl⟩ := List.exists_cons_of_ne_nil some
  rw [words, splitWhere_of_not_mem solid]
  rfl

/-! ## Arguments -/

/-- Neither a separator nor a quote stands in the text: nothing that ends or quotes an argument. -/
def Bare (s : Text) : Prop := ∀ c ∈ s, isSeparator c = false ∧ isQuote c = false

instance (s : Text) : Decidable (Bare s) := List.decidableBAll _ s

/-- Neither a blank nor a quote stands in the text. -/
def Plain (s : Text) : Prop := ∀ c ∈ s, isBlank c = false ∧ isQuote c = false

instance (s : Text) : Decidable (Plain s) := List.decidableBAll _ s

theorem Plain.blankFree (plain : Plain s) : BlankFree s := fun c member => (plain c member).1

theorem not_isSeparator {c : Char} (solid : isBlank c = false) : isSeparator c = false := by
  have space : c ≠ ' ' := fun same => absurd solid (by rw [same]; decide)
  have tab : c ≠ '\t' := fun same => absurd solid (by rw [same]; decide)
  simp [isSeparator, space, tab]

theorem Plain.bare (plain : Plain s) : Bare s :=
  fun c member => ⟨not_isSeparator (plain c member).1, (plain c member).2⟩

theorem argumentsFrom_append (bare : Bare a) (current b : Text) :
    argumentsFrom none (some current) (a ++ b) = argumentsFrom none (some (current ++ a)) b := by
  induction a generalizing current with
  | nil => rw [List.nil_append, List.append_nil]
  | cons c a ih =>
      obtain ⟨here, rest⟩ := List.forall_mem_cons.mp bare
      rw [List.cons_append, argumentsFrom, if_neg (by simp [here.2]), if_neg (by simp [here.1]),
        Option.getD_some, ih rest, List.append_assoc, List.singleton_append]

/-- An argument without separators and quotes begins at its first character. -/
theorem argumentsFrom_begin (someA : a ≠ []) (bare : Bare a) (b : Text) :
    argumentsFrom none none (a ++ b) = argumentsFrom none (some a) b := by
  obtain ⟨c, a, rfl⟩ := List.exists_cons_of_ne_nil someA
  obtain ⟨here, rest⟩ := List.forall_mem_cons.mp bare
  rw [List.cons_append, argumentsFrom, if_neg (by simp [here.2]), if_neg (by simp [here.1]),
    Option.getD_none, argumentsFrom_append rest]
  rfl

/-- **Two plain arguments** with a blank between them. -/
theorem arguments_pair (someA : a ≠ []) (someB : b ≠ []) (plainA : Plain a) (plainB : Plain b) :
    arguments (a ++ ' ' :: b) = [a, b] := by
  have last : argumentsFrom none none b = [b] := by
    have whole := argumentsFrom_begin someB plainB.bare []
    rw [List.append_nil] at whole
    exact whole
  have gap : argumentsFrom none (some a) (' ' :: b) = a :: argumentsFrom none none b := rfl
  rw [arguments, argumentsFrom_begin someA plainA.bare, gap, last]

/-! ## Arguments in quotes -/

/-- What stands for a character inside double quotes. -/
def wrapChar (c : Char) : Text := if c = '"' then "\"'\"'\"" else [c]

/-- An argument in double quotes. -/
def wrap (s : Text) : Text := '"' :: (s.flatMap wrapChar ++ ['"'])

/-- **An argument in quotes** is read as it was written. -/
theorem argumentsFrom_wrap (s : Text) (rest : Text) :
    argumentsFrom none none (wrap s ++ rest) = argumentsFrom none (some s) rest := by
  have inside (begun : Text) : argumentsFrom (some '"') (some begun) (s.flatMap wrapChar ++ '"' :: rest) =
      argumentsFrom none (some (begun ++ s)) rest := by
    induction s generalizing begun with
    | nil => rw [List.flatMap_nil, List.nil_append, argumentsFrom, if_pos rfl, List.append_nil]
    | cons c s ih =>
        rw [List.flatMap_cons, List.append_assoc, wrapChar]
        by_cases quote : c = '"'
        · subst quote
          -- The run ends, the quote stands in single quotes, and the next run begins.
          have gap (more : Text) : argumentsFrom (some '"') (some begun) ("\"'\"'\"".toList ++ more) =
              argumentsFrom (some '"') (some (begun ++ ['"'])) more := rfl
          rw [if_pos rfl, gap, ih, List.append_assoc, List.singleton_append]
        · rw [if_neg quote, List.singleton_append, argumentsFrom, if_neg quote, ih, Option.getD_some, List.append_assoc,
            List.singleton_append]
  have whole : wrap s ++ rest = '"' :: (s.flatMap wrapChar ++ '"' :: rest) := by simp [wrap]
  rw [whole, argumentsFrom, if_pos (by decide), Option.getD_none, inside, List.nil_append]

/-- **A line of arguments in quotes** gives these arguments. -/
theorem arguments_wrap (args : List Text) : arguments (join [' '] (args.map wrap)) = args := by
  induction args with
  | nil => rfl
  | cons arg args ih =>
      by_cases last : args = []
      · subst last
        have whole := argumentsFrom_wrap arg []
        rw [List.append_nil] at whole
        exact whole
      · have gap (more : Text) : argumentsFrom none (some arg) (' ' :: more) = arg :: argumentsFrom none none more := rfl
        rw [List.map_cons, join_cons _ _ (by simpa using last), arguments, argumentsFrom_wrap, List.singleton_append, gap]
        exact congrArg (arg :: ·) ih

end ApiFlow.Text
