import ApiFlow.Proofs.Flow.RoundTrip
import Mathlib.Data.Nat.Find

/-!
# Where blocks begin and end

The lines of a text, read without a scanner: outside of blocks the first line with a fence opens one, and the first line
behind it with the same fence closes that one.  The scan finds the blocks between such lines and nothing else.

* `FirstFence`, `Closes`, `OpensFrom` : which lines open a block, and which close one.
* `scan_induction` : lines are read block by block.
* `scanBlocks_opens`, `scanBlocks_closes`, `scanBlocks_unclosed` : what the scan makes of one block.
* `scanBlocks_spans` : the blocks from a line on.
* `blocks_exact` : the blocks of a text, the lines with fences, and the note about a block that is not closed.
-/

set_option autoImplicit false

namespace ApiFlow.Flow

variable {lines : List Text} {k o c i : Nat}

/-! ## Lines with fences -/

/-- The fence that a line starts with, apart from blanks in front of it; lines are counted from zero. -/
def fenceAt? (lines : List Text) (i : Nat) : Option Text := lines[i]?.bind fun line => fenceOf? (Text.trim line)

/-- Line `o` is the first one from line `k` on that has a fence. -/
structure FirstFence (lines : List Text) (k o : Nat) : Prop where
  reached : k ≤ o
  fenced : fenceAt? lines o ≠ none
  prose : ∀ i, k ≤ i → i < o → fenceAt? lines i = none

/-- Line `c` is the first one behind line `o` that has the same fence. -/
structure Closes (lines : List Text) (o c : Nat) : Prop where
  behind : o < c
  same : fenceAt? lines c = fenceAt? lines o
  inside : ∀ i, o < i → i < c → fenceAt? lines i ≠ fenceAt? lines o

/-- The lines that open a block where no block is open in front of line `k`: the first one with a fence, and behind the
line that closes its block those that open one from there on. -/
inductive OpensFrom (lines : List Text) : (k o : Nat) → Prop where
  | first {k o : Nat} : FirstFence lines k o → OpensFrom lines k o
  | later {k p c o : Nat} : FirstFence lines k p → Closes lines p c → OpensFrom lines (c + 1) o → OpensFrom lines k o

/-- What stands behind the three characters of the fence. -/
def fenceText (line : Text) : Text := Text.trim ((Text.trim line).drop 3)

/-- The block that line `o` opens and line `c` closes: its kind is the first word behind the fence, in lower case. -/
def blockAt (lines : List Text) (o c : Nat) : Block where
  kind := Text.lower ((Text.words (fenceText (lines.getD o []))).headD [])
  info := Text.trimLeft ((fenceText (lines.getD o [])).dropWhile (!Text.isBlank ·))
  line := o + 1
  raw := Text.join ['\n'] ((lines.take c).drop (o + 1))

/-! ## Fences -/

theorem length_of_mem_fences : ∀ fence ∈ fences, fence.length = 3 := by decide

theorem mem_fences_of_fenceOf? {fence t : Text} (found : fenceOf? t = some fence) : fence ∈ fences ∧ fence <+: t := by
  have begins := List.find?_some (p := (List.isPrefixOf · t)) found
  exact ⟨List.mem_of_find?_eq_some found, List.isPrefixOf_iff_prefix.mp begins⟩

/-- A line starts with one fence at most. -/
theorem fenceOf?_eq_some_iff {fence t : Text} : fenceOf? t = some fence ↔ fence ∈ fences ∧ fence <+: t := by
  have different : ∀ f ∈ fences, ∀ g ∈ fences, f.head? = g.head? → f = g := by decide
  have first {f : Text} (listed : f ∈ fences) (begins : f <+: t) : f.head? = t.head? := by
    obtain ⟨rest, rfl⟩ := begins
    obtain ⟨d, f, rfl⟩ := List.exists_cons_of_length_eq_add_one (length_of_mem_fences f listed)
    rfl
  refine ⟨mem_fences_of_fenceOf?, fun ⟨listed, begins⟩ => ?_⟩
  cases found : fenceOf? t with
  | none => exact absurd (List.isPrefixOf_iff_prefix.mpr begins) (List.find?_eq_none.mp found fence listed)
  | some other =>
      obtain ⟨other', begins'⟩ := mem_fences_of_fenceOf? found
      rw [different other other' fence listed ((first other' begins').trans (first listed begins).symm)]

/-- The fence of an open block stands at a line exactly if it is the fence of that line. -/
theorem isPrefixOf_fence_iff {fence : Text} (fenced : fence ∈ fences) (t : Text) :
    fence.isPrefixOf t = true ↔ fenceOf? t = some fence := by
  rw [fenceOf?_eq_some_iff, List.isPrefixOf_iff_prefix]
  exact ⟨fun begins => ⟨fenced, begins⟩, fun found => found.2⟩

/-- A line with a fence is there, and has this fence alone. -/
theorem fenceAt?_eq_some_iff {fence : Text} :
    fenceAt? lines i = some fence ↔ ∃ line, lines[i]? = some line ∧ fenceOf? (Text.trim line) = some fence :=
  Option.bind_eq_some_iff

theorem fenceAt?_of_getElem? {line : Text} (here : lines[i]? = some line) :
    fenceAt? lines i = fenceOf? (Text.trim line) := by
  rw [fenceAt?, here, Option.bind_some]

theorem lt_of_fenceAt? (fenced : fenceAt? lines i ≠ none) : i < lines.length := by
  obtain ⟨fence, found⟩ := Option.ne_none_iff_exists'.mp fenced
  obtain ⟨line, here, -⟩ := fenceAt?_eq_some_iff.mp found
  exact (List.getElem?_eq_some_iff.mp here).1

/-! ## One block after the other -/

theorem FirstFence.unique {o' : Nat} (one : FirstFence lines k o) (other : FirstFence lines k o') : o = o' := by
  rcases Nat.lt_trichotomy o o' with less | same | more
  · exact absurd (other.prose o one.reached less) one.fenced
  · exact same
  · exact absurd (one.prose o' other.reached more) other.fenced

theorem Closes.unique {c' : Nat} (one : Closes lines o c) (other : Closes lines o c') : c = c' := by
  rcases Nat.lt_trichotomy c c' with less | same | more
  · exact absurd one.same (other.inside c one.behind less)
  · exact same
  · exact absurd other.same (one.inside c' other.behind more)

theorem Closes.lt_length (opens : fenceAt? lines o ≠ none) (closed : Closes lines o c) : c < lines.length :=
  lt_of_fenceAt? (closed.same ▸ opens)

theorem firstFence_or_prose (lines : List Text) (k : Nat) :
    (∃ o, FirstFence lines k o) ∨ ∀ i, k ≤ i → fenceAt? lines i = none := by
  by_cases some : ∃ o, k ≤ o ∧ fenceAt? lines o ≠ none
  · obtain ⟨reached, fenced⟩ := Nat.find_spec some
    refine .inl ⟨_, reached, fenced, fun i above below => ?_⟩
    exact Classical.byContradiction fun other => Nat.find_min some below ⟨above, other⟩
  · exact .inr fun i above => Classical.byContradiction fun other => some ⟨i, above, other⟩

theorem closes_or_unclosed (lines : List Text) (o : Nat) :
    (∃ c, Closes lines o c) ∨ ∀ i, o < i → fenceAt? lines i ≠ fenceAt? lines o := by
  by_cases some : ∃ c, o < c ∧ fenceAt? lines c = fenceAt? lines o
  · obtain ⟨behind, same⟩ := Nat.find_spec some
    exact .inl ⟨_, behind, same, fun i above below equal => Nat.find_min some below ⟨above, equal⟩⟩
  · exact .inr fun i above equal => some ⟨i, above, equal⟩

/-- **Lines are read block by block**: no line from `k` on has a fence, or the first one that has one opens a block that
is never closed, or its block is closed and the lines are read on from behind it. -/
theorem scan_induction {motive : Nat → Prop} (lines : List Text)
    (prose : ∀ k, (∀ i, k ≤ i → fenceAt? lines i = none) → motive k)
    (unclosed : ∀ k o, FirstFence lines k o → (∀ i, o < i → fenceAt? lines i ≠ fenceAt? lines o) → motive k)
    (closed : ∀ k o c, FirstFence lines k o → Closes lines o c → motive (c + 1) → motive k) (k : Nat) : motive k := by
  rcases firstFence_or_prose lines k with ⟨o, first⟩ | none
  · rcases closes_or_unclosed lines o with ⟨c, closes⟩ | open'
    · have below := closes.lt_length first.fenced
      have above := first.reached
      have behind := closes.behind
      exact closed k o c first closes (scan_induction lines prose unclosed closed (c + 1))
    · exact unclosed k o first open'
  · exact prose k none
termination_by lines.length - k

/-! ## Lines that open blocks -/

theorem OpensFrom.reached (opens : OpensFrom lines k o) : k ≤ o ∧ fenceAt? lines o ≠ none := by
  induction opens with
  | first here => exact ⟨here.reached, here.fenced⟩
  | later here closes _ ih =>
      have above := here.reached
      have behind := closes.behind
      exact ⟨by omega, ih.2⟩

/-- Without fences no block is opened. -/
theorem not_opensFrom (prose : ∀ i, k ≤ i → fenceAt? lines i = none) : ¬ OpensFrom lines k o :=
  fun opens => opens.reached.2 (prose o opens.reached.1)

theorem opensFrom_iff_of_unclosed (first : FirstFence lines k i)
    (unclosed : ∀ j, i < j → fenceAt? lines j ≠ fenceAt? lines i) : OpensFrom lines k o ↔ o = i := by
  constructor
  · rintro (here | ⟨here, closes, -⟩)
    · exact here.unique first
    · cases here.unique first
      exact absurd closes.same (unclosed _ closes.behind)
  · rintro rfl
    exact .first first

theorem opensFrom_iff_of_closes (first : FirstFence lines k i) (closes : Closes lines i c) :
    OpensFrom lines k o ↔ o = i ∨ OpensFrom lines (c + 1) o := by
  constructor
  · rintro (here | ⟨here, closes', rest⟩)
    · exact .inl (here.unique first)
    · cases here.unique first
      cases closes'.unique closes
      exact .inr rest
  · rintro (rfl | rest)
    · exact .first first
    · exact .later first closes rest

/-! ## The scan of one block -/

/-- The first of the fields between blanks reaches to the first blank. -/
theorem head?_splitWhere (p : Char → Bool) (s : Text) :
    (Text.splitWhere p s).head? = some (s.takeWhile (!p ·)) := by
  induction s with
  | nil => rfl
  | cons c s ih =>
      rw [Text.splitWhere]
      by_cases stop : p c = true
      · simp [stop]
      · obtain ⟨field, fields, split⟩ := List.exists_cons_of_ne_nil (Text.splitWhere_ne_nil p s)
        rw [split] at ih ⊢
        cases ih
        simp [stop, Text.pushFirst]

/-- The first word of a text reaches to the first blank, if the text begins with none. -/
theorem headD_words {s : Text} (start : Text.SolidStart s) :
    (Text.words s).headD [] = s.takeWhile (!Text.isBlank ·) := by
  cases s with
  | nil => rfl
  | cons c s =>
      have solid : Text.isBlank c = false := start c rfl
      have first := head?_splitWhere Text.isBlank (c :: s)
      obtain ⟨field, fields, split⟩ := List.exists_cons_of_ne_nil (Text.splitWhere_ne_nil Text.isBlank (c :: s))
      rw [split] at first
      cases first
      rw [Text.words, split]
      simp [solid]

theorem solidStart_trim (s : Text) : Text.SolidStart (Text.trim s) :=
  (Text.trim_eq_self_iff.mp (Text.trim_trim s)).1

/-- What is known of a block when its first line has been read. -/
theorem start_eq {fence : Text} (fenced : fence ∈ fences) (line : Text) (number : Nat) :
    OpenBlock.start fence (Text.trim line) number =
      ⟨fence, Text.lower ((Text.words (fenceText line)).headD []),
        Text.trimLeft ((fenceText line).dropWhile (!Text.isBlank ·)), number, []⟩ := by
  have start := solidStart_trim ((Text.trim line).drop 3)
  rw [OpenBlock.start, length_of_mem_fences fence fenced, Text.firstWord?, fenceText, headD_words start,
    Text.trimLeft_eq_self start]
  cases Text.trim ((Text.trim line).drop 3) <;> rfl

/-- The lines from `a` on are those up to `b` and those from there on. -/
theorem drop_eq_between {a b : Nat} (order : a ≤ b) (lines : List Text) :
    lines.drop a = (lines.take b).drop a ++ lines.drop b := by
  conv_lhs => rw [← List.take_append_drop b lines, List.drop_append]
  by_cases short : b ≤ lines.length
  · rw [List.length_take, Nat.min_eq_left short, Nat.sub_eq_zero_of_le order, List.drop_zero]
  · rw [List.drop_eq_nil_of_le (by omega : lines.length ≤ b), List.drop_nil]

/-- A line between two others. -/
theorem mem_between {a b : Nat} {line : Text} (listed : line ∈ (lines.take b).drop a) :
    ∃ i, a ≤ i ∧ i < b ∧ lines[i]? = some line := by
  obtain ⟨j, here⟩ := List.mem_iff_getElem?.mp listed
  rw [List.getElem?_drop, List.getElem?_take] at here
  split at here
  · exact ⟨a + j, by omega, ‹_›, here⟩
  · cases here

/-- **The scan passes over prose** and opens a block at the first line with a fence. -/
theorem scanBlocks_opens (first : FirstFence lines k o) :
    ∃ line fence, lines[o]? = some line ∧ fence ∈ fences ∧ fenceAt? lines o = some fence ∧
      scanBlocks none (k + 1) (lines.drop k) =
        scanBlocks (some (.start fence (Text.trim line) (o + 1))) (o + 2) (lines.drop (o + 1)) := by
  obtain ⟨fence, found⟩ := Option.ne_none_iff_exists'.mp first.fenced
  obtain ⟨line, here, opens⟩ := fenceAt?_eq_some_iff.mp found
  obtain ⟨short, same⟩ := List.getElem?_eq_some_iff.mp here
  have prose : ∀ line ∈ (lines.take o).drop k, IsProse line := by
    intro other listed
    obtain ⟨i, above, below, there⟩ := mem_between listed
    exact (fenceAt?_of_getElem? there).symm.trans (first.prose i above below)
  have place : k + 1 + ((lines.take o).drop k).length = o + 1 := by
    have reached := first.reached
    rw [List.length_drop, List.length_take, Nat.min_eq_left (Nat.le_of_lt short)]
    omega
  refine ⟨line, fence, here, (fenceOf?_eq_some_iff.mp opens).1, found, ?_⟩
  rw [drop_eq_between first.reached lines, scanBlocks_prose prose, place, List.drop_eq_getElem_cons short, same, scanBlocks,
    opens]

/-- **The scan of a block that is closed.** -/
theorem scanBlocks_closes (first : FirstFence lines k o) (closes : Closes lines o c) :
    scanBlocks none (k + 1) (lines.drop k) =
      (blockAt lines o c :: (scanBlocks none (c + 2) (lines.drop (c + 1))).1,
        (scanBlocks none (c + 2) (lines.drop (c + 1))).2) := by
  obtain ⟨line, fence, here, fenced, found, opened⟩ := scanBlocks_opens first
  obtain ⟨last, there, ends⟩ := fenceAt?_eq_some_iff.mp (closes.same.trans found)
  obtain ⟨short, same⟩ := List.getElem?_eq_some_iff.mp there
  have inside : ∀ line ∈ (lines.take c).drop (o + 1), fence.isPrefixOf (Text.trim line) = false := by
    intro other listed
    obtain ⟨i, above, below, at'⟩ := mem_between listed
    rw [Bool.eq_false_iff]
    intro begins
    refine closes.inside i above below ?_
    rw [fenceAt?_of_getElem? at', (isPrefixOf_fence_iff fenced _).mp begins, found]
  have place : o + 2 + ((lines.take c).drop (o + 1)).length = c + 1 := by
    have behind := closes.behind
    rw [List.length_drop, List.length_take, Nat.min_eq_left (Nat.le_of_lt short)]
    omega
  have block : blockAt lines o c = ⟨Text.lower ((Text.words (fenceText line)).headD []),
      Text.trimLeft ((fenceText line).dropWhile (!Text.isBlank ·)), o + 1,
      Text.join ['\n'] ((lines.take c).drop (o + 1))⟩ := by
    rw [blockAt, List.getD_eq_getElem?_getD, here, Option.getD_some]
  rw [opened, start_eq fenced, drop_eq_between closes.behind lines, scanBlocks_body inside, place,
    List.drop_eq_getElem_cons short, same, scanBlocks, if_pos ((isPrefixOf_fence_iff fenced _).mpr ends), block]
  rfl

/-- **The scan of a block that is not closed** finds nothing. -/
theorem scanBlocks_unclosed (first : FirstFence lines k o)
    (unclosed : ∀ i, o < i → fenceAt? lines i ≠ fenceAt? lines o) :
    ∃ b, scanBlocks none (k + 1) (lines.drop k) = ([], some b) := by
  obtain ⟨line, fence, here, fenced, found, opened⟩ := scanBlocks_opens first
  have inside : ∀ line ∈ lines.drop (o + 1), fence.isPrefixOf (Text.trim line) = false := by
    intro other listed
    obtain ⟨j, there⟩ := List.mem_iff_getElem?.mp listed
    rw [List.getElem?_drop] at there
    rw [Bool.eq_false_iff]
    intro begins
    refine unclosed (o + 1 + j) (by omega) ?_
    rw [fenceAt?_of_getElem? there, (isPrefixOf_fence_iff fenced _).mp begins, found]
  have scanned := scanBlocks_body (b := .start fence (Text.trim line) (o + 1))
    (by rw [start_eq fenced]; exact inside) (o + 2) []
  rw [List.append_nil] at scanned
  exact ⟨_, opened.trans scanned⟩

theorem scanBlocks_none (prose : ∀ i, k ≤ i → fenceAt? lines i = none) :
    scanBlocks none (k + 1) (lines.drop k) = ([], none) := by
  have all : ∀ line ∈ lines.drop k, IsProse line := by
    intro other listed
    obtain ⟨j, there⟩ := List.mem_iff_getElem?.mp listed
    rw [List.getElem?_drop] at there
    exact (fenceAt?_of_getElem? there).symm.trans (prose (k + j) (Nat.le_add_right k j))
  have scanned := scanBlocks_prose all (k + 1) []
  rwa [List.append_nil] at scanned

/-! ## All blocks -/

/-- The places of blocks from line `k` on, in order and apart from each other: those of the lines that open a block with
those that close it. -/
structure Spans (lines : List Text) (k : Nat) (spans : List (Nat × Nat)) : Prop where
  listed : ∀ o c, (o, c) ∈ spans ↔ OpensFrom lines k o ∧ Closes lines o c
  apart : spans.Pairwise fun p q => p.2 < q.1

theorem Spans.nil (none : ∀ o c, OpensFrom lines k o → ¬ Closes lines o c) : Spans lines k [] where
  listed o c := ⟨nofun, fun ⟨opens, closes⟩ => absurd closes (none o c opens)⟩
  apart := .nil

theorem Spans.cons {spans : List (Nat × Nat)} (first : FirstFence lines k o) (closes : Closes lines o c)
    (rest : Spans lines (c + 1) spans) : Spans lines k ((o, c) :: spans) where
  listed o' c' := by
    rw [List.mem_cons, rest.listed, opensFrom_iff_of_closes first closes, Prod.mk.injEq]
    constructor
    · rintro (⟨rfl, rfl⟩ | ⟨opens, closes'⟩)
      · exact ⟨.inl rfl, closes⟩
      · exact ⟨.inr opens, closes'⟩
    · rintro ⟨rfl | opens, closes'⟩
      · exact .inl ⟨rfl, closes'.unique closes⟩
      · exact .inr ⟨opens, closes'⟩
  apart := List.pairwise_cons.mpr ⟨fun q listed => ((rest.listed q.1 q.2).mp listed).1.reached.1, rest.apart⟩

/-- **The blocks from a line on** are those between the lines that open and close them. -/
theorem scanBlocks_spans (lines : List Text) (k : Nat) :
    ∃ spans, Spans lines k spans ∧
      (scanBlocks none (k + 1) (lines.drop k)).1 = spans.map fun p => blockAt lines p.1 p.2 := by
  induction k using scan_induction lines with
  | prose k none => exact ⟨[], .nil fun o c opens => absurd opens (not_opensFrom none), by rw [scanBlocks_none none]; rfl⟩
  | unclosed k o first unclosed =>
      obtain ⟨b, scanned⟩ := scanBlocks_unclosed first unclosed
      refine ⟨[], .nil fun o' c opens closes => ?_, by rw [scanned]; rfl⟩
      cases (opensFrom_iff_of_unclosed first unclosed).mp opens
      exact unclosed c closes.behind closes.same
  | closed k o c first closes ih =>
      obtain ⟨spans, rest, found⟩ := ih
      exact ⟨(o, c) :: spans, rest.cons first closes, by rw [scanBlocks_closes first closes, List.map_cons, ← found]⟩

/-- A block stays open at the end exactly if a line opens one that no line closes. -/
theorem scanBlocks_isSome_iff (lines : List Text) (k : Nat) :
    (scanBlocks none (k + 1) (lines.drop k)).2.isSome = true ↔
      ∃ o, OpensFrom lines k o ∧ ∀ c, ¬ Closes lines o c := by
  induction k using scan_induction lines with
  | prose k none =>
      rw [scanBlocks_none none]
      exact ⟨nofun, fun ⟨o, opens, _⟩ => absurd opens (not_opensFrom none)⟩
  | unclosed k o first unclosed =>
      obtain ⟨b, scanned⟩ := scanBlocks_unclosed first unclosed
      rw [scanned]
      exact ⟨fun _ => ⟨o, .first first, fun c closes => unclosed c closes.behind closes.same⟩, fun _ => rfl⟩
  | closed k o c first closes ih =>
      rw [scanBlocks_closes first closes]
      refine ih.trans ⟨?_, ?_⟩
      · rintro ⟨o', opens, never⟩
        exact ⟨o', .later first closes opens, never⟩
      · rintro ⟨o', opens, never⟩
        rcases (opensFrom_iff_of_closes first closes).mp opens with rfl | opens
        · exact absurd closes (never c)
        · exact ⟨o', opens, never⟩

/-! ## All lines with fences -/

/-- What a line with a fence is where the lines from `k` on are read: it opens a block, or closes one, or stands in a
block with the other fence, or behind the last line that opens a block, which no line closes. -/
inductive FenceRole (lines : List Text) (k i : Nat) : Prop where
  | opens (here : OpensFrom lines k i)
  | closes (o : Nat) (opens : OpensFrom lines k o) (here : Closes lines o i)
  | inside (o c : Nat) (opens : OpensFrom lines k o) (closes : Closes lines o c) (behind : o < i) (before : i < c)
      (other : fenceAt? lines i ≠ fenceAt? lines o)
  | unclosed (o : Nat) (opens : OpensFrom lines k o) (last : ∀ p, OpensFrom lines k p → p ≤ o)
      (never : ∀ c, ¬ Closes lines o c) (behind : o < i)

theorem FenceRole.later (first : FirstFence lines k o) (closes : Closes lines o c) (role : FenceRole lines (c + 1) i) :
    FenceRole lines k i := by
  cases role with
  | opens here => exact .opens (.later first closes here)
  | closes p opens here => exact .closes p (.later first closes opens) here
  | inside p d opens here behind before other => exact .inside p d (.later first closes opens) here behind before other
  | unclosed p opens last never behind =>
      refine .unclosed p (.later first closes opens) (fun q other => ?_) never behind
      rcases (opensFrom_iff_of_closes first closes).mp other with rfl | rest
      · have := closes.behind
        have := opens.reached.1
        omega
      · exact last q rest

/-- **Every line with a fence** has one of these places. -/
theorem fenceRole (lines : List Text) (k : Nat) : ∀ i, k ≤ i → fenceAt? lines i ≠ none → FenceRole lines k i := by
  induction k using scan_induction lines with
  | prose k none => exact fun i above fenced => absurd (none i above) fenced
  | unclosed k o first unclosed =>
      intro i above fenced
      rcases Nat.lt_trichotomy i o with less | rfl | more
      · exact absurd (first.prose i above less) fenced
      · exact .opens (.first first)
      · exact .unclosed o (.first first) (fun p opens => Nat.le_of_eq ((opensFrom_iff_of_unclosed first unclosed).mp opens))
          (fun c closes => unclosed c closes.behind closes.same) more
  | closed k o c first closes ih =>
      intro i above fenced
      rcases Nat.lt_trichotomy i o with less | rfl | more
      · exact absurd (first.prose i above less) fenced
      · exact .opens (.first first)
      · rcases Nat.lt_trichotomy i c with less | rfl | beyond
        · exact .inside o c (.first first) closes more less (closes.inside i more less)
        · exact .closes o (.first first) closes
        · exact .later first closes (ih i beyond fenced)

/-! ## The blocks of a text -/

/-- **No line of a block starts with its fence.** -/
theorem fenceOf?_raw {content : Text} (opens : fenceAt? (Text.lines content) o ≠ none)
    (closes : Closes (Text.lines content) o c) {line : Text}
    (listed : line ∈ Text.splitAt '\n' (blockAt (Text.lines content) o c).raw) :
    fenceOf? (Text.trim line) ≠ fenceAt? (Text.lines content) o := by
  have free : ∀ line ∈ ((Text.lines content).take c).drop (o + 1), Text.LineFree line := fun line among =>
    Text.lineFree_of_mem_lines (List.mem_of_mem_take (List.mem_of_mem_drop among))
  rcases splitAt_join_cases free with same | ⟨-, empty⟩
  · rw [blockAt, same] at listed
    obtain ⟨i, above, below, here⟩ := mem_between listed
    rw [← fenceAt?_of_getElem? here]
    exact closes.inside i above below
  · rw [blockAt, empty, List.mem_singleton] at listed
    subst listed
    exact Ne.symm opens

/-- **The blocks of a text are those between the lines that open a block and the lines that close it**, in their order.
Inside of a block no line has its fence, every line with a fence has its place, and a block that is never closed is
warned of. -/
theorem blocks_exact (content : Text) :
    (∃ spans, Spans (Text.lines content) 0 spans ∧
        blocks content = spans.map fun p => blockAt (Text.lines content) p.1 p.2) ∧
      (∀ b ∈ blocks content, ∀ line ∈ Text.splitAt '\n' b.raw,
        fenceOf? (Text.trim line) ≠ fenceAt? (Text.lines content) (b.line - 1)) ∧
      (∀ i, fenceAt? (Text.lines content) i ≠ none → FenceRole (Text.lines content) 0 i) ∧
      ((∃ note ∈ fenceNotes content, note.level = .warning) ↔
        ∃ o, OpensFrom (Text.lines content) 0 o ∧ ∀ c, ¬ Closes (Text.lines content) o c) := by
  obtain ⟨spans, places, found⟩ := scanBlocks_spans (Text.lines content) 0
  have whole : blocks content = spans.map fun p => blockAt (Text.lines content) p.1 p.2 := found
  have warned : (∃ note ∈ fenceNotes content, note.level = .warning) ↔ (unclosed? content).isSome = true := by
    rw [fenceNotes]
    cases unclosed? content <;> simp
  refine ⟨⟨spans, places, whole⟩, fun b listed line inside => ?_, fun i => fenceRole _ 0 i (Nat.zero_le i),
    warned.trans (scanBlocks_isSome_iff (Text.lines content) 0)⟩
  rw [whole] at listed
  obtain ⟨⟨o, c⟩, among, rfl⟩ := List.mem_map.mp listed
  obtain ⟨opens, closes⟩ := (places.listed o c).mp among
  exact fenceOf?_raw opens.reached.2 closes inside

/-- A block in tildes with a fence of the other kind inside, and a block in backticks that is not closed. -/
def nested : Text := "~~~Step x\n  ```\n ~~~~\n```\nGET /a"

/-- The fence inside belongs to the block, a longer fence closes it, and the last block is warned of. -/
theorem blocks_exact_nested :
    blocks nested = [⟨"step", "x", 1, "  ```"⟩] ∧ FenceRole (Text.lines nested) 0 1 ∧
      ∃ o, OpensFrom (Text.lines nested) 0 o ∧ ∀ c, ¬ Closes (Text.lines nested) o c := by
  obtain ⟨-, -, role, warned⟩ := blocks_exact nested
  exact ⟨by decide +kernel, role 1 (by decide +kernel), warned.mp (by decide +kernel)⟩

end ApiFlow.Flow
