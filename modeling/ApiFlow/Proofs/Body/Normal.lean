import ApiFlow.Body.Path
import ApiFlow.Proofs.Text.Fields
import ApiFlow.Proofs.Text.Search
import Mathlib.Data.List.Chain
import Mathlib.Data.List.TakeWhile

/-!
# Paths as they stand

A text without dots, brackets and backslashes is a part of a path as it stands.  It stays the start of the first part
whatever is written behind it, so a path that goes on where a key ends names another key.

A path in normal form has no blanks around it, no index in brackets, no two dots side by side and no dot in front.
Bringing a path into the dotted form leaves such a path as it is, unless it begins with the sign for the whole body; and
what it makes of a path without blanks is in normal form.  It may still begin with that sign, which is dropped once only:
the dotted form of `$.$.a` is `$.a`, and the dotted form of this is `a`.

* `normalize_front`, `split_front` : the start of a path is kept by both readings.
* `inBody_key` : the path that is a key leads to the value of the key.
* `inBody_absent` : a path whose first part begins like no key of the body leads nowhere.
* `HasIndex`, `SingleDotted` : what the two rewritings look for, and what they leave nothing of.
* `Normal.normalize_of_rootless` : a normal path without the sign in front stays as it is.
* `normal_normalize` : the dotted form is normal.
* `normalize_normalize_iff` : when the dotted form of a dotted form is the same.
* `mem_normalize_iff` : a character that is no sign of a path stays.
-/

set_option autoImplicit false

namespace ApiFlow.Body

/-- A text that a path may begin with and that has no meaning in a path. -/
structure Front (front : Text) : Prop where
  some : front ≠ []
  starts : Text.SolidStart front
  ends : Text.SolidEnd front
  noRoot : front.head? ≠ Option.some '$'
  noBracket : '[' ∉ front
  noDot : '.' ∉ front
  noSlash : '\\' ∉ front

variable {front : Text}

theorem dotIndices_append (noBracket : '[' ∉ front) (s : Text) :
    dotIndices 0 (front ++ s) = front ++ dotIndices 0 s := by
  induction front with
  | nil => rfl
  | cons c front ih =>
      obtain ⟨other, rest⟩ := List.ne_and_not_mem_of_not_mem_cons noBracket
      rw [List.cons_append, dotIndices, if_neg (Ne.symm other), ih rest]
      rfl

theorem singleDots_append (noDot : '.' ∉ front) (s : Text) : singleDots (front ++ s) = front ++ singleDots s := by
  induction front with
  | nil => rfl
  | cons c front ih =>
      obtain ⟨other, rest⟩ := List.ne_and_not_mem_of_not_mem_cons noDot
      rw [List.cons_append, singleDots, if_neg (by simp [Ne.symm other]), ih rest]
      rfl

theorem Front.dropRoot (plain : Front front) (s : Text) : Body.dropRoot (front ++ s) = front ++ s := by
  obtain ⟨c, rest, rfl⟩ := List.exists_cons_of_ne_nil plain.some
  have other : c ≠ '$' := fun same => plain.noRoot (by rw [same]; rfl)
  rw [Body.dropRoot, if_neg (by simp [other]), Text.dropStart, if_neg (by simp [List.isPrefixOf, Ne.symm other])]

/-- **The dotted form of a path keeps its front.** -/
theorem normalize_front (plain : Front front) (s : Text) :
    normalize (front ++ s) = front ++ singleDots (dotIndices 0 (Text.trimRight s)) := by
  rw [normalize, Text.trim_front plain.some plain.starts plain.ends, dotIndices_append plain.noBracket,
    singleDots_append plain.noDot, plain.dropRoot]
  obtain ⟨c, rest, rfl⟩ := List.exists_cons_of_ne_nil plain.some
  have other : c ≠ '.' := fun same => plain.noDot (by rw [same]; exact List.mem_cons_self)
  rw [List.cons_append, List.dropWhile_cons, if_neg (by simpa using other)]

theorem normalize_of_front (plain : Front front) : normalize front = front := by
  have whole := normalize_front plain []
  rw [List.append_nil] at whole
  exact whole.trans (List.append_nil front)

theorem split_ne_nil (s : Text) : split s ≠ [] := by
  fun_cases split s with
  | case1 => exact List.cons_ne_nil _ _
  | case2 => exact List.cons_ne_nil _ _
  | case3 c s => cases split s <;> exact List.cons_ne_nil _ _
  | case4 => exact List.cons_ne_nil _ _
  | case5 c s => cases split s <;> exact List.cons_ne_nil _ _

theorem split_cons {c : Char} (notDot : c ≠ '.') (notSlash : c ≠ '\\') (s : Text) :
    split (c :: s) = Text.pushFirst c (split s) := by
  rw [split, if_neg notDot]
  · exact fun same => absurd same notSlash
  · exact fun _ _ same => absurd same notSlash

/-- The parts of a path hold its characters, but for the dots between them and the backslashes. -/
theorem mem_flatten_split {c : Char} (notDot : c ≠ '.') (notSlash : c ≠ '\\') (s : Text) :
    c ∈ (split s).flatten ↔ c ∈ s := by
  have pushed (d : Char) {parts : List Text} (some : parts ≠ []) :
      (Text.pushFirst d parts).flatten = d :: parts.flatten := by
    obtain ⟨part, parts, rfl⟩ := List.exists_cons_of_ne_nil some
    rfl
  induction s using split.induct with
  | case1 => rfl
  | case2 => simp [split, notSlash]
  | case3 d s ih =>
      rw [split, pushed d (split_ne_nil s), List.mem_cons, List.mem_cons, or_iff_right notSlash, List.mem_cons]
      exact or_congr_right ih
  | case4 s _ _ ih =>
      have cut : split ('.' :: s) = [] :: split s := rfl
      rw [cut, List.flatten_cons, List.nil_append, List.mem_cons, or_iff_right notDot]
      exact ih
  | case5 d s alone pair other ih =>
      rw [split.eq_4 d s alone pair, if_neg other, pushed d (split_ne_nil s), List.mem_cons, List.mem_cons]
      exact or_congr_right ih

/-- **The first part of a path keeps its front.** -/
theorem split_front (noDot : '.' ∉ front) (noSlash : '\\' ∉ front) (s : Text) :
    ∃ part parts, split s = part :: parts ∧ split (front ++ s) = (front ++ part) :: parts := by
  induction front with
  | nil =>
      obtain ⟨part, parts, same⟩ := List.exists_cons_of_ne_nil (split_ne_nil s)
      exact ⟨part, parts, same, same⟩
  | cons c front ih =>
      obtain ⟨notDot, noDot⟩ := List.ne_and_not_mem_of_not_mem_cons noDot
      obtain ⟨notSlash, noSlash⟩ := List.ne_and_not_mem_of_not_mem_cons noSlash
      obtain ⟨part, parts, rest, whole⟩ := ih noDot noSlash
      refine ⟨part, parts, rest, ?_⟩
      rw [List.cons_append, split_cons (Ne.symm notDot) (Ne.symm notSlash), whole]
      rfl

/-! ## Looking up -/

variable {body key : Text} {members : List (Text × Json)}

/-- **The path that is a key leads to the value of the key.** -/
theorem inBody_key (plain : Front key) (object : Json.decode? body = some (.obj members)) :
    inBody body key = .ok (Table.get? members key) := by
  have whole : split key = [key] := by
    obtain ⟨part, parts, last, whole⟩ := split_front plain.noDot plain.noSlash []
    obtain ⟨rfl, rfl⟩ := List.cons.inj last
    simpa using whole
  rw [inBody, object]
  change find _ _ = _
  rw [find, normalize_of_front plain, if_neg (by simpa using plain.some), whole, follow, step]
  cases Table.get? members key <;> rfl

/-- **A path whose first part begins like no key of the body leads nowhere.** -/
theorem inBody_absent (plain : Front front) (object : Json.decode? body = some (.obj members))
    (foreign : ∀ rest, Table.get? members (front ++ rest) = none) (s : Text) : inBody body (front ++ s) = .ok none := by
  rw [inBody, object]
  change find _ _ = _
  rw [find, normalize_front plain]
  obtain ⟨part, parts, -, whole⟩ := split_front plain.noDot plain.noSlash (singleDots (dotIndices 0 (Text.trimRight s)))
  rw [if_neg (by simp [plain.some]), whole, follow, step, foreign part]

/-! ## Paths in normal form -/

variable {c : Char} {s a b path : Text}

/-! ## Indices in brackets -/

/-- Decimal digits stand between brackets somewhere in the text. -/
def HasIndex (s : Text) : Prop :=
  ∃ digits : Text, digits ≠ [] ∧ (∀ c ∈ digits, Text.isDecimal c = true) ∧ '[' :: (digits ++ [']']) <:+: s

theorem bracketIndex?_eq_some_iff {digits : Text} :
    bracketIndex? s = some digits ↔
      digits ≠ [] ∧ (∀ c ∈ digits, Text.isDecimal c = true) ∧ digits ++ [']'] <+: s := by
  constructor
  · intro found
    unfold bracketIndex? at found
    split at found
    · rename_i d ds rest taken dropped
      cases found
      refine ⟨List.cons_ne_nil d ds, fun c member => ?_, rest, ?_⟩
      · exact List.mem_takeWhile_imp (taken ▸ member)
      · rw [← taken, List.append_assoc, List.singleton_append, ← dropped]
        exact List.takeWhile_append_dropWhile
    · cases found
  · rintro ⟨some, decimal, rest, rfl⟩
    obtain ⟨d, ds, rfl⟩ := List.exists_cons_of_ne_nil some
    have stop : ∀ c ∈ (']' :: rest).head?, Text.isDecimal c = false := by
      intro c first
      cases first
      decide
    obtain ⟨taken, dropped⟩ := Text.takeWhile_dropWhile_append decimal stop
    rw [List.append_assoc, List.singleton_append, bracketIndex?, taken, dropped]
    rfl

/-- An index that begins one text begins every text that begins as that one does, up to its first dot or backslash. -/
theorem isSome_bracketIndex?_of_prefix {t : Text} (found : (bracketIndex? t).isSome)
    (keeps : ∀ front : Text, '.' ∉ front → '\\' ∉ front → front <+: t → front <+: s) : (bracketIndex? s).isSome := by
  obtain ⟨digits, found⟩ := Option.isSome_iff_exists.mp found
  obtain ⟨some, decimal, begins⟩ := bracketIndex?_eq_some_iff.mp found
  have free {c : Char} (sign : Text.isDecimal c = false) (other : c ≠ ']') : c ∉ digits ++ [']'] := by
    rw [List.mem_append, not_or, List.mem_singleton]
    exact ⟨fun member => Bool.false_ne_true (sign.symm.trans (decimal c member)), other⟩
  have kept := keeps (digits ++ [']']) (free (by decide) (by decide)) (free (by decide) (by decide)) begins
  rw [bracketIndex?_eq_some_iff.mpr ⟨some, decimal, kept⟩]
  rfl

theorem not_hasIndex_nil : ¬ HasIndex [] := by
  rintro ⟨digits, -, -, inside⟩
  exact absurd (List.infix_nil.mp inside) (List.cons_ne_nil _ _)

theorem hasIndex_cons : HasIndex (c :: s) ↔ (c = '[' ∧ (bracketIndex? s).isSome) ∨ HasIndex s := by
  simp only [Option.isSome_iff_exists, bracketIndex?_eq_some_iff]
  constructor
  · rintro ⟨digits, some, decimal, inside⟩
    rcases List.infix_cons_iff.mp inside with begins | behind
    · obtain ⟨same, begins⟩ := List.cons_prefix_cons.mp begins
      exact .inl ⟨same.symm, digits, some, decimal, begins⟩
    · exact .inr ⟨digits, some, decimal, behind⟩
  · rintro (⟨rfl, digits, some, decimal, begins⟩ | ⟨digits, some, decimal, inside⟩)
    · exact ⟨digits, some, decimal, (List.cons_prefix_cons.mpr ⟨rfl, begins⟩).isInfix⟩
    · exact ⟨digits, some, decimal, List.infix_cons inside⟩

instance decidableHasIndex : (s : Text) → Decidable (HasIndex s)
  | [] => .isFalse not_hasIndex_nil
  | _ :: s =>
    have := decidableHasIndex s
    decidable_of_iff _ hasIndex_cons.symm

theorem HasIndex.of_infix (index : HasIndex a) (inside : a <:+: s) : HasIndex s := by
  obtain ⟨digits, some, decimal, within⟩ := index
  exact ⟨digits, some, decimal, within.trans inside⟩

theorem not_hasIndex_of_not_mem (noBracket : '[' ∉ s) : ¬ HasIndex s := by
  rintro ⟨digits, -, -, inside⟩
  exact noBracket (inside.subset List.mem_cons_self)

/-- What holds no opening bracket may stand in front of a text. -/
theorem HasIndex.behind (noBracket : '[' ∉ a) (index : HasIndex (a ++ s)) : HasIndex s := by
  induction a with
  | nil => exact index
  | cons c a ih =>
      obtain ⟨other, noBracket⟩ := List.ne_and_not_mem_of_not_mem_cons noBracket
      rw [List.cons_append, hasIndex_cons] at index
      exact ih noBracket (index.resolve_left fun first => other first.1.symm)

/-- A text without an index keeps its brackets. -/
theorem dotIndices_of_indexFree (free : ¬ HasIndex s) : dotIndices 0 s = s := by
  induction s with
  | nil => rfl
  | cons c s ih =>
      rw [hasIndex_cons, not_or] at free
      rw [dotIndices, ih free.2]
      split
      · rename_i bracket
        have none : bracketIndex? s = none := by simpa [bracket] using free.1
        rw [none]
      · rfl

theorem dotIndices_skip (skip : Nat) (s : Text) : dotIndices skip s = dotIndices 0 (s.drop skip) := by
  induction s generalizing skip with
  | nil => cases skip <;> rfl
  | cons c s ih =>
      cases skip with
      | zero => rfl
      | succ skip => exact ih skip

/-- A text is empty, or begins with an index, or with a character that is kept. -/
theorem dotIndices_cases (s : Text) :
    s = [] ∨ (∃ digits rest, '[' ∉ digits ∧ s = '[' :: (digits ++ ']' :: rest) ∧
        dotIndices 0 s = '.' :: (digits ++ dotIndices 0 rest)) ∨
      ∃ c rest, s = c :: rest ∧ (c = '[' → bracketIndex? rest = none) ∧ dotIndices 0 s = c :: dotIndices 0 rest := by
  cases s with
  | nil => exact .inl rfl
  | cons c s =>
      by_cases bracket : c = '['
      · cases found : bracketIndex? s with
        | none => exact .inr (.inr ⟨c, s, rfl, fun _ => found, by rw [dotIndices, if_pos bracket, found]⟩)
        | some digits =>
            obtain ⟨-, decimal, rest, rfl⟩ := bracketIndex?_eq_some_iff.mp found
            have noBracket : '[' ∉ digits := fun member => absurd (decimal '[' member) (by decide)
            refine .inr (.inl ⟨digits, rest, noBracket, by rw [bracket]; simp, ?_⟩)
            rw [dotIndices, if_pos bracket, found]
            dsimp only
            rw [dotIndices_skip, List.cons_append]
            simp
      · exact .inr (.inr ⟨c, s, rfl, fun same => absurd same bracket, by rw [dotIndices, if_neg bracket]⟩)

theorem mem_of_mem_dotIndices (s : Text) (member : c ∈ dotIndices 0 s) : c ∈ s ∨ c = '.' := by
  rcases dotIndices_cases s with rfl | ⟨digits, rest, -, rfl, rewritten⟩ | ⟨d, rest, rfl, -, rewritten⟩
  · cases member
  · rw [rewritten, List.mem_cons, List.mem_append] at member
    rcases member with rfl | digit | behind
    · exact .inr rfl
    · exact .inl (by simp [digit])
    · exact (mem_of_mem_dotIndices rest behind).imp_left fun listed => by simp [listed]
  · rw [rewritten, List.mem_cons] at member
    rcases member with rfl | behind
    · exact .inl List.mem_cons_self
    · exact (mem_of_mem_dotIndices rest behind).imp_left (List.mem_cons_of_mem d)
termination_by s.length

/-- What begins a rewritten text and holds no dot begins the text. -/
theorem prefix_of_prefix_dotIndices {front : Text} (noDot : '.' ∉ front) (begins : front <+: dotIndices 0 s) : front <+: s := by
  induction front generalizing s with
  | nil => exact List.nil_prefix
  | cons d front ih =>
      obtain ⟨other, noDot⟩ := List.ne_and_not_mem_of_not_mem_cons noDot
      rcases dotIndices_cases s with rfl | ⟨digits, rest, -, -, rewritten⟩ | ⟨c, rest, rfl, -, rewritten⟩
      · exact absurd (List.prefix_nil.mp begins) (List.cons_ne_nil _ _)
      · rw [rewritten] at begins
        exact absurd (List.cons_prefix_cons.mp begins).1.symm other
      · rw [rewritten] at begins
        obtain ⟨rfl, behind⟩ := List.cons_prefix_cons.mp begins
        exact List.cons_prefix_cons.mpr ⟨rfl, ih noDot behind⟩

/-- **No index is left.** -/
theorem not_hasIndex_dotIndices (s : Text) : ¬ HasIndex (dotIndices 0 s) := by
  rcases dotIndices_cases s with rfl | ⟨digits, rest, noBracket, rfl, rewritten⟩ | ⟨d, rest, rfl, none, rewritten⟩
  · exact not_hasIndex_nil
  · rw [rewritten, hasIndex_cons]
    rintro (⟨same, -⟩ | behind)
    · exact absurd same (by decide)
    · exact not_hasIndex_dotIndices rest (behind.behind noBracket)
  · rw [rewritten, hasIndex_cons]
    rintro (⟨bracket, found⟩ | behind)
    · have still := isSome_bracketIndex?_of_prefix found fun _ noDot _ => prefix_of_prefix_dotIndices noDot
      rw [none bracket] at still
      cases still
    · exact not_hasIndex_dotIndices rest behind
termination_by s.length

/-! ## Runs of dots -/

/-- No two dots stand side by side. -/
def SingleDotted (s : Text) : Prop := s.IsChain fun a b => ¬ (a = '.' ∧ b = '.')

instance (s : Text) : Decidable (SingleDotted s) := inferInstanceAs (Decidable (s.IsChain _))

theorem singleDots_cons (keep : ¬ (c = '.' ∧ s.head? = some '.')) : singleDots (c :: s) = c :: singleDots s := by
  rw [singleDots, if_neg (by simpa using keep)]

theorem singleDots_dots (first : s.head? = some '.') : singleDots ('.' :: s) = singleDots s := by
  rw [singleDots, if_pos (by simp [first])]

theorem head?_singleDots (s : Text) : (singleDots s).head? = s.head? := by
  induction s with
  | nil => rfl
  | cons c s ih =>
      by_cases keep : c = '.' ∧ s.head? = some '.'
      · obtain ⟨rfl, first⟩ := keep
        rw [singleDots_dots first, ih, first]
        rfl
      · rw [singleDots_cons keep]
        rfl

theorem sublist_singleDots (s : Text) : List.Sublist (singleDots s) s := by
  induction s with
  | nil => exact .slnil
  | cons c s ih =>
      rw [singleDots]
      split
      · exact ih.cons c
      · exact ih.cons_cons c

/-- **A text without runs of dots keeps its dots.** -/
theorem SingleDotted.singleDots_eq (single : SingleDotted s) : singleDots s = s := by
  induction s with
  | nil => rfl
  | cons c s ih =>
      obtain ⟨next, rest⟩ := List.isChain_cons.mp single
      rw [singleDots_cons fun both => next '.' both.2 ⟨both.1, rfl⟩, ih rest]

/-- **No run of dots is left.** -/
theorem singleDotted_singleDots (s : Text) : SingleDotted (singleDots s) := by
  induction s with
  | nil => exact .nil
  | cons c s ih =>
      by_cases keep : c = '.' ∧ s.head? = some '.'
      · obtain ⟨rfl, first⟩ := keep
        rw [singleDots_dots first]
        exact ih
      · rw [singleDots_cons keep]
        refine List.isChain_cons.mpr ⟨fun d first both => keep ⟨both.1, ?_⟩, ih⟩
        rw [head?_singleDots] at first
        rw [first, both.2]

/-- What begins a text with single dots and holds no dot begins the text. -/
theorem prefix_of_prefix_singleDots {front : Text} (noDot : '.' ∉ front) (begins : front <+: singleDots s) : front <+: s := by
  induction front generalizing s with
  | nil => exact List.nil_prefix
  | cons d front ih =>
      obtain ⟨other, noDot⟩ := List.ne_and_not_mem_of_not_mem_cons noDot
      have first : s.head? = some d := by
        rw [← head?_singleDots]
        obtain ⟨rest, whole⟩ := begins
        rw [← whole]
        rfl
      obtain ⟨rest, rfl⟩ : ∃ rest, s = d :: rest := by
        cases s with
        | nil => cases first
        | cons c rest => exact ⟨rest, by rw [Option.some.inj first]⟩
      rw [singleDots_cons fun both => other both.1.symm] at begins
      exact List.cons_prefix_cons.mpr ⟨rfl, ih noDot (List.cons_prefix_cons.mp begins).2⟩

theorem not_hasIndex_singleDots (free : ¬ HasIndex s) : ¬ HasIndex (singleDots s) := by
  induction s with
  | nil => exact not_hasIndex_nil
  | cons c s ih =>
      rw [hasIndex_cons, not_or] at free
      rw [singleDots]
      split
      · exact ih free.2
      · rw [hasIndex_cons]
        rintro (⟨bracket, found⟩ | behind)
        · exact free.1 ⟨bracket,
            isSome_bracketIndex?_of_prefix found fun _ noDot _ => prefix_of_prefix_singleDots noDot⟩
        · exact ih free.2 behind

/-! ## Normal paths -/

/-- A path that the rewritings leave as it is, but for the sign for the whole body. -/
structure Normal (path : Text) : Prop where
  trimmed : Text.trim path = path
  indexFree : ¬ HasIndex path
  single : SingleDotted path
  undotted : path.head? ≠ some '.'

/-- A path is the sign for the whole body, or begins with it. -/
def Rooted (path : Text) : Prop := path = ['$'] ∨ ['$', '.'] <+: path

instance (path : Text) : Decidable (Rooted path) := inferInstanceAs (Decidable (_ ∨ _))

theorem dropRoot_of_rootless (rootless : ¬ Rooted path) : dropRoot path = path := by
  obtain ⟨other, begins⟩ := not_or.mp rootless
  rw [dropRoot, if_neg other, Text.dropStart_of_not_prefix begins]

theorem not_rooted_of_head?_ne (other : path.head? ≠ some '$') : ¬ Rooted path := by
  rintro (rfl | ⟨rest, rfl⟩) <;> exact other rfl

theorem dropWhile_dot (undotted : path.head? ≠ some '.') : path.dropWhile (· = '.') = path :=
  Text.dropWhile_eq_self fun c first => by
    simpa using fun same : c = '.' => undotted (same ▸ first)

theorem Normal.normalize_eq (normal : Normal path) : normalize path = (dropRoot path).dropWhile (· = '.') := by
  rw [normalize, normal.trimmed, dotIndices_of_indexFree normal.indexFree, normal.single.singleDots_eq]

/-- **A normal path stays as it is**, if it does not begin with the sign for the whole body. -/
theorem Normal.normalize_of_rootless (normal : Normal path) (rootless : ¬ Rooted path) : normalize path = path := by
  rw [normal.normalize_eq, dropRoot_of_rootless rootless, dropWhile_dot normal.undotted]

/-- The sign for the whole body is dropped. -/
theorem Normal.normalize_root (normal : Normal ('$' :: '.' :: path)) : normalize ('$' :: '.' :: path) = path := by
  have undotted : path.head? ≠ some '.' := by
    intro first
    obtain ⟨-, behind⟩ := List.isChain_cons.mp normal.single
    exact (List.isChain_cons.mp behind).1 '.' first ⟨rfl, rfl⟩
  have dropped : dropRoot ('$' :: '.' :: path) = path := by simp [dropRoot, Text.dropStart]
  rw [normal.normalize_eq, dropped, dropWhile_dot undotted]

theorem suffix_dropRoot (path : Text) : dropRoot path <:+ path := by
  rw [dropRoot]
  split
  · exact List.nil_suffix
  · rw [Text.dropStart]
    split
    · exact List.drop_suffix _ path
    · exact List.suffix_rfl

theorem suffix_normalize (solid : Text.BlankFree path) : normalize path <:+ singleDots (dotIndices 0 path) := by
  rw [normalize, solid.trimmed]
  exact (List.dropWhile_suffix _).trans (suffix_dropRoot _)

/-- **The dotted form of a path is normal**, if the path holds no blanks. -/
theorem normal_normalize (solid : Text.BlankFree path) : Normal (normalize path) where
  trimmed := by
    refine Text.BlankFree.trimmed fun c member => ?_
    have listed := (sublist_singleDots _).subset ((suffix_normalize solid).subset member)
    rcases mem_of_mem_dotIndices path listed with listed | rfl
    · exact solid c listed
    · decide
  indexFree := fun index =>
    not_hasIndex_singleDots (not_hasIndex_dotIndices path) (index.of_infix (suffix_normalize solid).isInfix)
  single := (singleDotted_singleDots _).suffix (suffix_normalize solid)
  undotted := by
    intro first
    have stopped := List.head?_dropWhile_not (· = '.') (dropRoot (singleDots (dotIndices 0 (Text.trim path))))
    rw [normalize] at first
    rw [first] at stopped
    exact absurd stopped (by decide)

/-- **The dotted form of a dotted form is the same** unless it begins with the sign for the whole body once more. -/
theorem normalize_normalize_iff (solid : Text.BlankFree path) :
    normalize (normalize path) = normalize path ↔ ¬ Rooted (normalize path) := by
  have normal := normal_normalize solid
  constructor
  · rintro same (sign | ⟨rest, begins⟩)
    · rw [sign] at same
      exact absurd same (by decide)
    · have whole : normalize path = '$' :: '.' :: rest := begins.symm
      rw [whole] at normal same
      have shorter := congrArg List.length (normal.normalize_root.symm.trans same)
      simp only [List.length_cons] at shorter
      omega
  · exact normal.normalize_of_rootless

/-! ## Characters that stay -/

/-- A character that the rewritings neither write nor drop. -/
def Stays (c : Char) : Prop := Text.isBlank c = false ∧ c ∉ "$.[]".toList

instance (c : Char) : Decidable (Stays c) := inferInstanceAs (Decidable (_ ∧ _))

theorem Stays.dot (stays : Stays c) : c ≠ '.' := fun same => stays.2 (by simp [same])

theorem mem_dotIndices_iff (stays : Stays c) (s : Text) : c ∈ dotIndices 0 s ↔ c ∈ s := by
  have opening : c ≠ '[' := fun same => stays.2 (by simp [same])
  have closing : c ≠ ']' := fun same => stays.2 (by simp [same])
  rcases dotIndices_cases s with rfl | ⟨digits, rest, -, rfl, rewritten⟩ | ⟨d, rest, rfl, -, rewritten⟩
  · rfl
  · simp [rewritten, mem_dotIndices_iff stays rest, stays.dot, opening, closing]
  · rw [rewritten, List.mem_cons, List.mem_cons, mem_dotIndices_iff stays rest]
termination_by s.length

theorem mem_singleDots_iff (other : c ≠ '.') (s : Text) : c ∈ singleDots s ↔ c ∈ s := by
  induction s with
  | nil => rfl
  | cons d s ih =>
      rw [singleDots]
      split
      · rename_i dots
        have dot : d = '.' := by simpa using (Bool.and_eq_true_iff.mp dots).1
        rw [ih, List.mem_cons, dot, or_iff_right other]
      · rw [List.mem_cons, List.mem_cons, ih]

theorem mem_dropRoot_iff (stays : Stays c) (s : Text) : c ∈ dropRoot s ↔ c ∈ s := by
  have sign : c ≠ '$' := fun same => stays.2 (by simp [same])
  by_cases rooted : Rooted s
  · rcases rooted with rfl | ⟨rest, rfl⟩
    · simp [dropRoot, sign]
    · simp [dropRoot, Text.dropStart, sign, stays.dot]
  · rw [dropRoot_of_rootless rooted]

theorem mem_dropWhile_dot_iff (other : c ≠ '.') (s : Text) : c ∈ s.dropWhile (· = '.') ↔ c ∈ s := by
  induction s with
  | nil => rfl
  | cons d s ih =>
      rw [List.dropWhile_cons]
      split
      · rename_i dot
        have dot : d = '.' := by simpa using dot
        rw [ih, List.mem_cons, dot, or_iff_right other]
      · rfl

/-- **The dotted form holds the same characters**, but for blanks, dots, brackets and the sign for the whole body. -/
theorem mem_normalize_iff (stays : Stays c) (s : Text) : c ∈ normalize s ↔ c ∈ s := by
  rw [normalize, mem_dropWhile_dot_iff stays.dot, mem_dropRoot_iff stays, mem_singleDots_iff stays.dot,
    mem_dotIndices_iff stays, Text.mem_trim_iff stays.1]

end ApiFlow.Body
