import ApiFlow.Proofs.Number.Digits
import ApiFlow.Proofs.Template.Open
import ApiFlow.Proofs.Template.Spelling
import ApiFlow.Proofs.Text.Search
import ApiFlow.Proofs.Variable.Writes

/-!
# Filling a filled template again

A template is filled in one pass, and the filled text is not read again.  If no value holds a brace, the values that were
put in bring no reference along; but the braces that stand around a reference in the template may make a new one of the
value between them.  Nothing else can: every reference of the filled text has come about in this way, and where there is
none the text stays as it is.

* `parts` : what filling puts in the place of each piece.
* `Laid` : how the parts of a template without open references lie.
* `Laid.cut` : two closing braces end where a part ends.
* `Laid.arises` : a reference of the filled text begins with a literal brace and a value stands in it.
* `stable_iff` : a text stays as it is if and only if it holds no reference with a name.
* `stable_fill_iff` : what this comes to for a filled template.
-/

set_option autoImplicit false

namespace ApiFlow

/-- A text without braces. -/
def Braceless (s : Text) : Prop := '{' ∉ s ∧ '}' ∉ s

instance (s : Text) : Decidable (Braceless s) := inferInstanceAs (Decidable (_ ∧ _))

theorem Braceless.of_subset {a b : Text} (free : Braceless b) (within : ∀ c ∈ a, c ∈ b) : Braceless a :=
  ⟨fun member => free.1 (within _ member), fun member => free.2 (within _ member)⟩

theorem braceless_nil : Braceless [] := ⟨List.not_mem_nil, List.not_mem_nil⟩

theorem braceless_append {a b : Text} : Braceless (a ++ b) ↔ Braceless a ∧ Braceless b := by
  simp only [Braceless, List.mem_append, not_or]
  exact and_and_and_comm

theorem braceless_cons {c : Char} {s : Text} : Braceless (c :: s) ↔ (c ≠ '{' ∧ c ≠ '}') ∧ Braceless s := by
  simp only [Braceless, List.mem_cons, not_or, ne_comm (a := c), ne_eq]
  exact and_and_and_comm

/-! ## Values without braces -/

namespace Text

/-- A replacement brings in nothing but characters of the new text. -/
theorem mem_replaceFrom {old new s : Text} {skip : Nat} {c : Char} (member : c ∈ replaceFrom old new skip s) :
    c ∈ new ∨ c ∈ s := by
  induction s generalizing skip with
  | nil => cases skip <;> cases member
  | cons b s ih =>
      cases skip with
      | succ skip => exact (ih member).imp_right (List.mem_cons_of_mem b)
      | zero =>
          rw [replaceFrom] at member
          split at member
          · rcases List.mem_append.mp member with inside | later
            · exact .inl inside
            · exact (ih later).imp_right (List.mem_cons_of_mem b)
          · rcases List.mem_cons.mp member with rfl | later
            · exact .inr List.mem_cons_self
            · exact (ih later).imp_right (List.mem_cons_of_mem b)

end Text

theorem Braceless.replaceAll {old new s : Text} (replacement : Braceless new) (free : Braceless s) :
    Braceless (Text.replaceAll old new s) :=
  ⟨fun member => (Text.mem_replaceFrom member).elim replacement.1 free.1,
    fun member => (Text.mem_replaceFrom member).elim replacement.2 free.2⟩

theorem Template.braceless_unescape {raw : Text} (free : Braceless raw) : Braceless (unescape raw) :=
  Braceless.replaceAll (by decide) (Braceless.replaceAll (by decide) free)

theorem braceless_ofNat (n : Nat) : Braceless (Text.ofNat n) :=
  ⟨fun member => absurd (isDigit_of_mem_ofNat member) (by decide),
    fun member => absurd (isDigit_of_mem_ofNat member) (by decide)⟩

theorem braceless_ofInt (i : Int) : Braceless (Text.ofInt i) := by
  rw [Text.ofInt]
  split
  · exact braceless_cons.mpr ⟨by decide, braceless_ofNat _⟩
  · exact braceless_ofNat _

namespace Builtins

theorem braceless_twoDigits (n : Int) : Braceless (twoDigits n) := by
  rw [twoDigits]
  split
  · exact braceless_cons.mpr ⟨by decide, braceless_ofInt n⟩
  · exact braceless_ofInt n

theorem braceless_isoDate (second : Int) : Braceless (isoDate second) := by
  rw [isoDate]
  obtain ⟨year, month, day⟩ := civilDate (second.fdiv 86400)
  simp only [braceless_append, braceless_cons, braceless_ofInt, braceless_twoDigits, true_and]
  decide

variable {b : Builtins}

theorem braceless_standard (uuid : ∀ n, Braceless (b.uuid n)) (token : ∀ n, Braceless (b.token n)) (name : Text)
    (d : Draws) : Braceless (b.standard name d).1 := by
  unfold standard
  split_ifs
  · exact braceless_ofInt _
  · exact braceless_ofInt _
  · exact braceless_ofInt _
  · exact braceless_isoDate _
  · exact uuid _
  · exact braceless_append.mpr ⟨braceless_append.mpr ⟨by decide, braceless_ofInt _⟩, by decide⟩
  · exact token _
  · exact braceless_nil

/-- **No built-in value holds a brace** if the environment, the identifiers, the random strings and the added values hold
none. -/
theorem braceless_resolve (env : ∀ entry ∈ b.env, Braceless entry.2) (uuid : ∀ n, Braceless (b.uuid n))
    (token : ∀ n, Braceless (b.token n)) (added : ∀ entry ∈ b.added, Braceless entry.2) (name : Text) (d : Draws) :
    Braceless (b.resolve name d).1 := by
  rw [resolve]
  split
  · cases value : b.env.get? (name.drop envMark.length) with
    | none => exact braceless_nil
    | some v => exact env _ (Table.mem_of_get? value)
  · split
    · rename_i v value
      exact added _ (Table.mem_of_get? value)
    · exact braceless_standard uuid token name d

end Builtins

namespace Template

variable {builtins : Builtins} {vars : Table Text} {template : Text} {r : Reference} {d : Draws}

/-! ## Parts of a filled text -/

/-- What filling puts in the place of a piece: the character, the reference as it is written, or a value. -/
inductive Part where
  | char (c : Char)
  | kept (r : Reference)
  | value (r : Reference) (v : Text)

/-- The text of a part. -/
def Part.text : Part → Text
  | char c => [c]
  | kept r => r.source
  | value _ v => v

/-- The text that the template had in the place of a part. -/
def Part.source : Part → Text
  | char c => [c]
  | kept r => r.source
  | value r _ => r.source

/-- The character that a part is, if no reference stood in its place. -/
def Part.char? : Part → Option Char
  | char c => some c
  | kept _ => none
  | value _ _ => none

/-- What filling puts in the place of the pieces. -/
def parts (builtins : Builtins) (vars : Table Text) : List Piece → Draws → List Part
  | [], _ => []
  | .char c :: pieces, d => .char c :: parts builtins vars pieces d
  | .reference r :: pieces, d =>
    if r.name.isEmpty then .kept r :: parts builtins vars pieces d
    else (match (r.value builtins vars d).1 with
      | some v => .value r v
      | none => .kept r) :: parts builtins vars pieces (r.value builtins vars d).2

theorem text_fillPieces (pieces : List Piece) (d : Draws) :
    (fillPieces builtins vars pieces d).1.text = (parts builtins vars pieces d).flatMap Part.text := by
  induction pieces generalizing d with
  | nil => rfl
  | cons p rest ih =>
      cases p with
      | char c => exact congrArg (c :: ·) (ih d)
      | reference r =>
          rw [fillPieces, parts]
          by_cases nameless : r.name.isEmpty = true
          · rw [if_pos nameless, if_pos nameless]
            exact congrArg (r.source ++ ·) (ih d)
          · rw [if_neg nameless, if_neg nameless, List.flatMap_cons, ← ih]
            obtain ⟨value?, later⟩ := r.value builtins vars d
            cases value? <;> rfl

/-- How parts lie one behind the other: no reference begins at a character in what the template had there; a reference that
is kept has no name; and values hold no braces. -/
inductive Laid : List Part → Prop where
  | nil : Laid []
  | char {c : Char} {rest : List Part} (alone : reference? (c :: rest.flatMap Part.source) = none) (behind : Laid rest) :
      Laid (.char c :: rest)
  | kept {r : Reference} {rest : List Part} (spelled : Spelled r) (nameless : r.name = []) (behind : Laid rest) :
      Laid (.kept r :: rest)
  | value {r : Reference} {v : Text} {rest : List Part} (spelled : Spelled r) (free : Braceless v) (behind : Laid rest) :
      Laid (.value r v :: rest)

/-- A reference stands for a value, and the value holds no braces. -/
def Reference.StandsBraceless (r : Reference) (builtins : Builtins) (vars : Table Text) : Prop :=
  ∀ d, ∃ v, (r.value builtins vars d).1 = some v ∧ Braceless v

/-- **The parts of a template lie as they should**, if each of its references stands for a value without braces. -/
theorem laid_parts (stands : ∀ r ∈ references template, r.StandsBraceless builtins vars) (d : Draws) :
    Laid (parts builtins vars (pieces template) d) ∧
      (parts builtins vars (pieces template) d).flatMap Part.source = template := by
  induction template using textInduction generalizing d with
  | nil => exact ⟨.nil, rfl⟩
  | char c s alone ih =>
      rw [references_char alone] at stands
      obtain ⟨behind, source⟩ := ih stands d
      rw [pieces_char alone, parts]
      exact ⟨.char (by rw [source]; exact alone) behind, congrArg (c :: ·) source⟩
  | reference r s spelled ih =>
      have later : ∀ q ∈ references s, q.StandsBraceless builtins vars := fun q listed =>
        stands q ((mem_references_spelled spelled s).mpr (.inr listed))
      rw [pieces_spelled spelled, parts]
      by_cases nameless : r.name = []
      · obtain ⟨behind, source⟩ := ih later d
        rw [if_pos (by simpa using nameless)]
        exact ⟨.kept spelled nameless behind, congrArg (r.source ++ ·) source⟩
      · obtain ⟨v, value, free⟩ := stands r ((mem_references_spelled spelled s).mpr (.inl ⟨rfl, nameless⟩)) d
        obtain ⟨behind, source⟩ := ih later (r.value builtins vars d).2
        rw [if_neg (by simpa using nameless), value]
        exact ⟨.value spelled free behind, congrArg (r.source ++ ·) source⟩

/-! ## Where the references of the filled text come from -/

/-- In a row of parts a reference has come about: a stretch that begins with a literal brace and holds a value reads as
the reference. -/
def ArisesIn (all : List Part) (r : Reference) : Prop :=
  ∃ front inner back, all = front ++ .char '{' :: inner ++ back ∧ (∃ q v, .value q v ∈ inner) ∧
    r.source = '{' :: inner.flatMap Part.text

theorem ArisesIn.behind {all : List Part} (arises : ArisesIn all r) (before : List Part) : ArisesIn (before ++ all) r := by
  obtain ⟨front, inner, back, rfl, holds, source⟩ := arises
  exact ⟨before ++ front, inner, back, by simp, holds, source⟩

theorem Laid.of_append {front back : List Part} (laid : Laid (front ++ back)) : Laid back := by
  induction front with
  | nil => exact laid
  | cons p front ih =>
      cases laid with
      | char _ behind => exact ih behind
      | kept _ _ behind => exact ih behind
      | value _ _ behind => exact ih behind

/-- The text ends with two closing braces, or is the second of them. -/
def Closes (s : Text) : Prop := s = ['}'] ∨ ['}', '}'] <:+ s

theorem Closes.mem {s : Text} (closes : Closes s) : '}' ∈ s := by
  rcases closes with rfl | ends
  · exact List.mem_singleton_self _
  · exact ends.subset List.mem_cons_self

theorem Closes.of_append {a b : Text} (closes : Closes (a ++ b)) (some : b ≠ []) : Closes b := by
  rcases closes with single | ends
  · exact .inl ((List.append_eq_singleton_iff.mp single).elim And.right fun both => absurd both.2 some)
  · rcases List.suffix_or_suffix_of_suffix ends (List.suffix_append a b) with inside | longer
    · exact .inr inside
    · rcases List.suffix_cons_iff.mp longer with whole | shorter
      · exact .inr (whole ▸ List.suffix_rfl)
      · rcases List.suffix_cons_iff.mp shorter with last | empty
        · exact .inl last
        · exact absurd (List.suffix_nil.mp empty) some

/-- The braces that close a reference are its last two characters. -/
theorem Spelled.eq_nil_of_closes (spelled : Spelled r) {front back : Text} (split : r.source = front ++ back)
    (closes : Closes front) : back = [] := by
  obtain ⟨body, source, free, -⟩ := spelled.exists_body
  have open' : '}' ∉ '{' :: '{' :: body := by simpa using free
  have begins : front <+: ('{' :: '{' :: body) ++ ['}'] ++ ['}'] := ⟨back, by rw [← split, source]; simp⟩
  rcases List.prefix_concat_iff.mp begins with whole | begins
  · rw [whole, source] at split
    simpa using split
  rcases List.prefix_concat_iff.mp begins with whole | begins
  · exfalso
    rcases closes with single | ends
    · rw [whole] at single
      simp at single
    · rw [whole] at ends
      obtain ⟨first, pair, inside⟩ := (List.suffix_concat_iff.mp ends).resolve_left (by simp)
      have same : ['}'] = first := List.append_cancel_right (by simpa using pair)
      exact open' (inside.subset (by simp [← same]))
  · exact absurd (begins.subset closes.mem) open'

/-- A closing pair of braces ends with a part or behind it, if it cannot end within the part. -/
theorem exists_cut {p : Part} {behind : List Part} {front rest : Text} (closes : Closes front)
    (whole : p.text ++ behind.flatMap Part.text = front ++ rest)
    (within : ∀ back, p.text = front ++ back → back = [])
    (later : ∀ {front}, behind.flatMap Part.text = front ++ rest → Closes front →
      ∃ inner back, behind = inner ++ back ∧ inner.flatMap Part.text = front ∧ back.flatMap Part.text = rest) :
    ∃ inner back, p :: behind = inner ++ back ∧ inner.flatMap Part.text = front ∧ back.flatMap Part.text = rest := by
  rcases List.append_eq_append_iff.mp whole with ⟨more, split, after⟩ | ⟨more, split, after⟩
  · by_cases none : more = []
    · subst none
      exact ⟨[p], behind, rfl, by simpa using split.symm, by simpa using after⟩
    · subst split
      obtain ⟨inner, back, rfl, text, left⟩ := later after (closes.of_append none)
      exact ⟨p :: inner, back, rfl, congrArg (p.text ++ ·) text, left⟩
  · obtain rfl := within more split
    exact ⟨[p], behind, rfl, by simpa using split, by simpa using after.symm⟩

/-- **A closing pair of braces ends where a part ends.**  Of the pair only its last brace may be left, the other having stood
in the part before. -/
theorem Laid.cut {all : List Part} (laid : Laid all) {front rest : Text} (whole : all.flatMap Part.text = front ++ rest)
    (closes : Closes front) :
    ∃ inner back, all = inner ++ back ∧ inner.flatMap Part.text = front ∧ back.flatMap Part.text = rest := by
  induction laid generalizing front with
  | nil => exact absurd closes.mem (by simp [(List.append_eq_nil_iff.mp whole.symm).1])
  | @char c behind alone _ ih =>
      refine exists_cut closes whole (fun back split => ?_) ih
      rcases List.append_eq_singleton_iff.mp split.symm with ⟨none, -⟩ | ⟨-, none⟩
      · exact absurd closes.mem (by simp [none])
      · exact none
  | kept spelled _ _ ih => exact exists_cut closes whole (fun back split => spelled.eq_nil_of_closes split closes) ih
  | @value r v behind _ free _ ih =>
      refine exists_cut closes whole (fun back split => ?_) ih
      have split : v = front ++ back := split
      exact absurd (split ▸ List.mem_append_left back closes.mem) free.2

/-! ## References of the filled text -/

theorem references_braceless {v : Text} (free : Braceless v) (s : Text) : references (v ++ s) = references s := by
  induction v with
  | nil => rfl
  | cons c v ih =>
      have other : c ≠ '{' := fun same => free.1 (same ▸ List.mem_cons_self)
      rw [List.cons_append, references_char (reference?_other other _)]
      exact ih (free.of_subset fun _ => List.mem_cons_of_mem c)

/-- Where no value stands, the filled text is that of the template. -/
theorem text_eq_source {all : List Part} (none : ∀ q v, Part.value q v ∉ all) :
    all.flatMap Part.text = all.flatMap Part.source := by
  rw [List.flatMap_def, List.flatMap_def]
  refine congrArg List.flatten (List.map_congr_left fun p listed => ?_)
  cases p with
  | char c => rfl
  | kept q => rfl
  | value q v => exact absurd listed (none q v)

/-- **Every reference of the filled text has come about around a value.** -/
theorem Laid.arises {all : List Part} (laid : Laid all) (listed : r ∈ references (all.flatMap Part.text)) :
    ArisesIn all r := by
  cases laid with
  | nil => cases listed
  | @value q v behind _ free after =>
      have listed : r ∈ references (v ++ behind.flatMap Part.text) := listed
      rw [references_braceless free] at listed
      exact (after.arises listed).behind [_]
  | @kept q behind spelled nameless after =>
      have later := ((mem_references_spelled spelled _).mp listed).resolve_left fun here => here.2 nameless
      exact (after.arises later).behind [_]
  | @char c behind alone after =>
      have listed : r ∈ references (c :: behind.flatMap Part.text) := listed
      cases read : reference? (c :: behind.flatMap Part.text) with
      | none =>
          rw [references_char read] at listed
          exact (after.arises listed).behind [_]
      | some q =>
          obtain ⟨spelled, rest, whole⟩ := reference?_eq_some_iff.mp read
          obtain ⟨body, source, -, -⟩ := spelled.exists_body
          have closes : Closes q.source := .inr ⟨'{' :: '{' :: body, by simp [source]⟩
          -- the new reference ends with a part, since no value holds a brace
          obtain ⟨stretch, back, split, text, left⟩ := (Laid.char alone after).cut whole.symm closes
          cases stretch with
          | nil => simp [source] at text
          | cons first inner =>
              obtain ⟨rfl, rfl⟩ : Part.char c = first ∧ behind = inner ++ back := List.cons.inj split
              rw [← whole, ← left] at listed
              rcases (mem_references_spelled spelled _).mp listed with ⟨rfl, -⟩ | later
              · obtain ⟨rfl, -⟩ : c = '{' ∧ _ := List.cons.inj (text.trans source)
                refine ⟨[], inner, back, rfl, ?_, text.symm⟩
                -- without a value in between, the reference would have stood in the template
                by_contra absent
                have none : ∀ q v, Part.value q v ∉ inner := fun q v listed => absent ⟨q, v, listed⟩
                have same : '{' :: (inner ++ back).flatMap Part.source = r.source ++ back.flatMap Part.source := by
                  rw [List.flatMap_append, ← text_eq_source none, ← text]
                  rfl
                rw [same, spelled.read] at alone
                cases alone
              · have behind := after.of_append.arises later
                exact behind.behind (.char c :: inner)
termination_by all.length

/-! ## Literals -/

/-- The character that a piece is, if it is no reference. -/
def Piece.char? : Piece → Option Char
  | char c => some c
  | reference _ => none

/-- What stands in a template outside its references. -/
def outside (template : Text) : Text := (pieces template).filterMap Piece.char?

theorem filterMap_parts (pieces : List Piece) (d : Draws) :
    (parts builtins vars pieces d).filterMap Part.char? = pieces.filterMap Piece.char? := by
  induction pieces generalizing d with
  | nil => rfl
  | cons p rest ih =>
      cases p with
      | char c => exact congrArg (c :: ·) (ih d)
      | reference r =>
          rw [parts]
          by_cases nameless : r.name.isEmpty = true
          · rw [if_pos nameless]
            exact ih d
          · rw [if_neg nameless]
            cases (r.value builtins vars d).1 <;> exact ih _

/-- A brace with which the text of parts begins, if no other one follows it, is a literal. -/
theorem Laid.first_literal {inner back : List Part} {s : Text} (laid : Laid (inner ++ back))
    (text : inner.flatMap Part.text = '{' :: s) (single : s.head? ≠ some '{') :
    ∃ t, inner.filterMap Part.char? = '{' :: t := by
  induction inner with
  | nil => cases text
  | cons p inner ih =>
      cases laid with
      | char _ after =>
          obtain ⟨rfl, -⟩ := List.cons.inj text
          exact ⟨_, rfl⟩
      | @kept q _ spelled _ after =>
          obtain ⟨body, source, -, -⟩ := spelled.exists_body
          have text : q.source ++ inner.flatMap Part.text = '{' :: s := text
          rw [source] at text
          exact absurd (by rw [← (List.cons.inj text).2]; rfl) single
      | @value q v _ _ free after =>
          cases v with
          | nil => exact ih after text
          | cons c v =>
              obtain ⟨rfl, -⟩ := List.cons.inj text
              exact absurd List.mem_cons_self free.1

/-- **A new reference takes two literal braces** with only references between them. -/
theorem ArisesIn.marks {all : List Part} (laid : Laid all) (spelled : Spelled r) (arises : ArisesIn all r) :
    ['{', '{'] <:+: all.filterMap Part.char? := by
  obtain ⟨front, inner, back, rfl, -, source'⟩ := arises
  obtain ⟨body, source, -, first⟩ := spelled.exists_body
  have text : inner.flatMap Part.text = '{' :: (body ++ ['}', '}']) := (List.cons.inj (source'.symm.trans source)).2
  have single : (body ++ ['}', '}']).head? ≠ some '{' := by
    cases body with
    | nil => decide
    | cons c body => exact first
  rw [List.append_assoc] at laid ⊢
  cases laid.of_append with
  | char _ after =>
      obtain ⟨t, literal⟩ := after.first_literal text single
      refine ⟨front.filterMap Part.char?, t ++ back.filterMap Part.char?, ?_⟩
      simp [Part.char?, literal]

/-! ## Texts that stay as they are -/

/-- Filling leaves the text as it is, whatever the variables. -/
def Stable (builtins : Builtins) (s : Text) : Prop := ∀ vars d, (fill builtins vars s d).1.text = s

theorem text_fill (s : Text) (d : Draws) :
    (fill builtins vars s d).1.text = (parts builtins vars (pieces s) d).flatMap Part.text :=
  text_fillPieces (pieces s) d

theorem text_fill_of_references (none : references template = []) (d : Draws) :
    (fill builtins vars template d).1.text = template := by
  rw [text_fill]
  induction template using textInduction with
  | nil => rfl
  | char c s alone ih =>
      rw [references_char alone] at none
      rw [pieces_char alone, parts]
      exact congrArg (c :: ·) (ih none)
  | reference r s spelled ih =>
      rw [references_spelled spelled] at none
      by_cases nameless : r.name = []
      · rw [if_pos nameless] at none
        rw [pieces_spelled spelled, parts, if_pos (by simpa using nameless)]
        exact congrArg (r.source ++ ·) (ih none)
      · rw [if_neg nameless] at none
        cases none

/-- Each reference that a value without braces takes the place of takes two opening braces along. -/
theorem count_fill (stands : ∀ r ∈ references template, r.StandsBraceless builtins vars) (d : Draws) :
    (fill builtins vars template d).1.text.count '{' + 2 * (references template).length ≤ template.count '{' := by
  rw [text_fill]
  induction template using textInduction generalizing d with
  | nil => exact Nat.le_refl 0
  | char c s alone ih =>
      rw [references_char alone] at stands ⊢
      have fewer := ih stands d
      rw [pieces_char alone, parts, List.flatMap_cons, Part.text, List.singleton_append, List.count_cons, List.count_cons]
      omega
  | reference r s spelled ih =>
      have later : ∀ q ∈ references s, q.StandsBraceless builtins vars := fun q listed =>
        stands q ((mem_references_spelled spelled s).mpr (.inr listed))
      rw [references_spelled spelled, pieces_spelled spelled, parts]
      by_cases nameless : r.name = []
      · have fewer := ih later d
        rw [if_pos nameless, if_pos (by simpa using nameless), List.flatMap_cons, Part.text, List.count_append,
          List.count_append]
        omega
      · have fewer := ih later (r.value builtins vars d).2
        obtain ⟨v, value, free⟩ := stands r ((mem_references_spelled spelled s).mpr (.inl ⟨rfl, nameless⟩)) d
        obtain ⟨body, source, -, -⟩ := spelled.exists_body
        have two : 2 ≤ r.source.count '{' := by simp [source]
        rw [if_neg nameless, if_neg (by simpa using nameless), value, List.flatMap_cons, Part.text, List.count_append,
          List.count_append, List.count_eq_zero.mpr free.1, List.length_cons]
        omega

/-- A built-in, a variable or a default gives the reference a value, without braces. -/
theorem Reference.standsBraceless (drawn : ∀ name d, Braceless (builtins.resolve name d).1)
    (values : ∀ entry ∈ vars, Braceless entry.2)
    (given : builtins.has r.name = true ∨ vars.has r.name = true ∨ ∃ raw, r.fallback = some raw ∧ Braceless raw) :
    r.StandsBraceless builtins vars := by
  intro d
  rw [Reference.value]
  by_cases known : builtins.has r.name = true
  · exact ⟨_, by rw [if_pos known], drawn r.name d⟩
  rw [if_neg known]
  cases value : vars.get? r.name with
  | some v => exact ⟨v, rfl, values _ (Table.mem_of_get? value)⟩
  | none =>
      obtain ⟨raw, written, free⟩ := (given.resolve_left known).resolve_left (by simp [Table.has, value])
      exact ⟨unescape raw, by rw [written]; rfl, braceless_unescape free⟩

/-- **A text stays as it is** if and only if it holds no reference with a name, since every name can be given a value. -/
theorem stable_iff (drawn : ∀ name d, Braceless (builtins.resolve name d).1) :
    Stable builtins template ↔ references template = [] := by
  constructor
  · intro stable
    let vars : Table Text := (references template).map fun r => (r.name, [])
    have values : ∀ entry ∈ vars, Braceless entry.2 := by
      intro entry listed
      obtain ⟨r, -, rfl⟩ := List.mem_map.mp listed
      exact braceless_nil
    have named (r : Reference) (listed : r ∈ references template) : vars.has r.name = true := by
      rw [Table.has, Option.isSome_iff_ne_none, ne_eq, Table.get?_eq_none_iff, not_not]
      simp only [vars, Table.names, List.map_map]
      exact List.mem_map_of_mem (f := fun r => r.name) listed
    have fewer := count_fill (fun r listed => r.standsBraceless drawn values (.inr (.inl (named r listed)))) ⟨0, 0⟩
    rw [stable vars] at fewer
    exact List.length_eq_zero_iff.mp (by omega)
  · exact fun none vars d => text_fill_of_references none d

/-- **What filling a filled template again comes to**, if neither the values nor the defaults hold braces and no reference
is left without a value.  Every reference of the filled text has come about around a value, from a literal brace on; the
text stays as it is, whatever the variables, exactly if there is no such reference; and there is none if no two opening
braces are next to each other in what stands outside the references of the template. -/
theorem stable_fill_iff (values : ∀ entry ∈ vars, Braceless entry.2)
    (defaults : ∀ r ∈ references template, ∀ raw ∈ r.fallback, Braceless raw)
    (drawn : ∀ name d, Braceless (builtins.resolve name d).1)
    (closed : (fill builtins vars template d).1.unresolved = []) :
    let result := (fill builtins vars template d).1.text
    (∀ r ∈ references result, ArisesIn (parts builtins vars (pieces template) d) r) ∧
      (Stable builtins result ↔ references result = []) ∧
      (Text.occursIn ['{', '{'] (outside template) = false → Stable builtins result) := by
  intro result
  have stands : ∀ r ∈ references template, r.StandsBraceless builtins vars := by
    intro r listed
    refine r.standsBraceless drawn values ?_
    rw [unresolved_fill, openNames, List.map_eq_nil_iff, List.filter_eq_nil_iff] at closed
    have given := closed r listed
    cases written : r.fallback with
    | some raw => exact .inr (.inr ⟨raw, rfl, defaults r listed raw written⟩)
    | none =>
        simp only [Reference.isOpen, written, Option.isNone_none, Bool.and_true, Bool.and_eq_true, Bool.not_eq_true',
          not_and, Bool.not_eq_false] at given
        by_cases known : builtins.has r.name = true
        · exact .inl known
        · exact .inr (.inl (given (by simpa using known)))
  obtain ⟨laid, -⟩ := laid_parts stands d
  have arises : ∀ r ∈ references result, ArisesIn (parts builtins vars (pieces template) d) r := by
    intro r listed
    rw [show result = _ from text_fill template d] at listed
    exact laid.arises listed
  refine ⟨arises, stable_iff drawn, fun apart => (stable_iff drawn).mpr ?_⟩
  rw [List.eq_nil_iff_forall_not_mem]
  intro r listed
  have marks := (arises r listed).marks laid (spelled_of_mem listed)
  rw [filterMap_parts, ← outside, ← Text.occursIn_iff_infix, apart] at marks
  cases marks

/-- Sources of built-in values without braces. -/
def plainBuiltins : Builtins := ⟨0, [], fun _ => "id", fun _ => "x", []⟩

theorem braceless_plainBuiltins (name : Text) (d : Draws) : Braceless (plainBuiltins.resolve name d).1 :=
  have id : Braceless "id" := by decide
  have letter : Braceless "x" := by decide
  Builtins.braceless_resolve (by decide) (fun _ => id) (fun _ => letter) (by decide) name d

/-- Two pairs of braces without a name, a variable, a default and a built-in: what they are filled to stays as it is. -/
theorem stable_fill_iff_users :
    let vars : Table Text := [("id", "7")]
    let template : Text :=
      r#"{{}} /users/{{id}}?q={{q | default: "all"}}#{{$uuid}}"#
    (∀ entry ∈ vars, Braceless entry.2) ∧ (∀ r ∈ references template, ∀ raw ∈ r.fallback, Braceless raw) ∧
      (fill plainBuiltins vars template ⟨0, 0⟩).1 = { text := "{{}} /users/7?q=all#id", unresolved := [] } ∧
      Stable plainBuiltins "{{}} /users/7?q=all#id" := by
  intro vars template
  have values : ∀ entry ∈ vars, Braceless entry.2 := by decide
  have defaults : ∀ r ∈ references template, ∀ raw ∈ r.fallback, Braceless raw := by decide +kernel
  have filled : (fill plainBuiltins vars template ⟨0, 0⟩).1 =
      { text := "{{}} /users/7?q=all#id", unresolved := [] } := by decide +kernel
  obtain ⟨-, stable, -⟩ := stable_fill_iff values defaults braceless_plainBuiltins (d := ⟨0, 0⟩) (by rw [filled])
  rw [filled] at stable
  exact ⟨values, defaults, filled, stable.mpr (by decide)⟩

/-- A reference within another pair of braces: the filled text is a reference to its value. -/
theorem not_stable_doubled_braces :
    let vars : Table Text := [("a", "b")]
    let template : Text := "{{{{a}}}}"
    (∀ entry ∈ vars, Braceless entry.2) ∧ (∀ r ∈ references template, ∀ raw ∈ r.fallback, Braceless raw) ∧
      (∀ name d, Braceless (plainBuiltins.resolve name d).1) ∧
      (fill plainBuiltins vars template ⟨0, 0⟩).1 = { text := "{{b}}", unresolved := [] } ∧
      (fill plainBuiltins [("b", "c")] "{{b}}" ⟨0, 0⟩).1.text = "c" :=
  ⟨by decide, by decide +kernel, braceless_plainBuiltins, by decide +kernel, by decide +kernel⟩

end Template

end ApiFlow
