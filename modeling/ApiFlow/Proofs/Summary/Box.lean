import ApiFlow.Proofs.Number.Digits
import ApiFlow.Summary.Render
import Mathlib.Algebra.Order.BigOperators.Group.List

/-!
# The summary is a box

Every row of the summary is as wide as its borders, however long the addresses, names, errors and bodies are, for these are
cut to what their row has room for.  What is not cut is the method, the figures and the number of skipped steps; each has a
bound that its row leaves for it.  Lines that come out of an error or a body hold no line feed, so that no row is broken;
the texts that are written as they are must hold none.

* `Moderate` : the bounds.
* `IsRow` : a line of the box, and `isRow_row` : a content that fits.
* `isRow_resultRow`, `isRow_errorRows`, `isRow_countRow`, `isRow_latencyRows`, `isRow_skippedRows` : each kind of row.
* `splitAt_render`, `render_rectangular` : the rendered summary, line by line.
-/

set_option autoImplicit false

namespace ApiFlow.SummaryTable

variable {s : Summary} {r : StepResult} {content text line : Text} {i : Int}

/-! ## Contents that fit -/

/-- A line of the box: as wide as a border, and one line. -/
structure IsRow (line : Text) : Prop where
  width : line.length = 71
  whole : '\n' ∉ line

/-- **A content that fits** makes a row. -/
theorem isRow_row (fits : content.length ≤ 67) (whole : '\n' ∉ content) : IsRow (row content) where
  width := by
    simp only [row, Text.padRight, boxWidth, List.length_append, List.length_replicate]
    simp
    omega
  whole := by simp [row, Text.padRight, whole]

theorem isRow_border {left right : Text} (corners : left.length = 1 ∧ right.length = 1)
    (whole : '\n' ∉ left ++ right) : IsRow (border left right) where
  width := by simp [border, boxWidth, corners]
  whole := by simpa [border] using whole

theorem length_truncate_le (text : Text) {room : Int} (wide : 0 ≤ room) : ((truncate text room).length : Int) ≤ room := by
  unfold truncate
  split
  · assumption
  · split
    · omega
    · split
      · rw [List.length_take]
        omega
      · simp
        omega

theorem not_mem_truncate (whole : '\n' ∉ text) (room : Int) : '\n' ∉ truncate text room := by
  have cut (n : Nat) : '\n' ∉ text.take n := fun member => whole (List.mem_of_mem_take member)
  unfold truncate
  split
  · exact whole
  · split
    · exact cut _
    · split
      · exact cut _
      · simp [cut]

theorem not_mem_ofNat (n : Nat) : '\n' ∉ Text.ofNat n := fun member => by
  have digit := isDigit_of_mem_ofNat member
  exact absurd digit (by decide)

theorem not_mem_ofInt (i : Int) : '\n' ∉ Text.ofInt i := by
  unfold Text.ofInt
  split <;> simp [not_mem_ofNat]

theorem length_ofInt_le (i : Int) : (Text.ofInt i).length ≤ (Text.ofNat i.natAbs).length + 1 := by
  unfold Text.ofInt
  split <;> simp

theorem length_ofInt (natural : 0 ≤ i) : (Text.ofInt i).length = (Text.ofNat i.natAbs).length := by
  rw [Text.ofInt, if_neg (by omega)]

/-! ## Bounds -/

/-- What a row has no room to cut: the bounds for it, and the texts that are written as they are. -/
structure Moderate (s : Summary) : Prop where
  methods : ∀ r ∈ s.results, r.method.length ≤ 14
  durations : ∀ r ∈ s.results, 0 ≤ r.durationMs ∧ (Text.ofNat r.durationMs.natAbs).length ≤ 6
  lines : ∀ r ∈ s.results, '\n' ∉ r.method ∧ '\n' ∉ r.url ∧ '\n' ∉ r.name
  skippedLines : ∀ name ∈ s.skipped, '\n' ∉ name
  counts : (Text.ofNat s.total).length + (Text.ofNat s.passed).length + (Text.ofNat s.failed).length
    + (Text.ofNat s.totalMs.natAbs).length ≤ 21
  elapsed : (Text.ofNat (s.elapsedMs?.getD 0).natAbs).length ≤ 50
  skipped : (Text.ofNat s.skipped.length).length ≤ 5

/-! ## Rows of a result -/

theorem length_twoPlaces (n : Nat) : (twoPlaces n).length = 2 := by
  have three : (Nat.toDigits 10 (100 + n % 100)).length = 3 := by
    refine le_antisymm ?_ ?_
    · exact (Nat.length_toDigits_le_iff (by decide) (by decide)).mpr (by omega)
    · rw [← not_lt, Nat.lt_succ_iff, Nat.length_toDigits_le_iff (by decide) (by decide)]
      omega
  rw [twoPlaces, List.length_drop, three]

theorem not_mem_twoPlaces (n : Nat) : '\n' ∉ twoPlaces n :=
  fun member => not_mem_ofNat _ (List.mem_of_mem_drop member)

theorem length_timeText (t : TimeOfDay) : t.text.length = 8 := by
  simp [TimeOfDay.text, length_twoPlaces]

theorem not_mem_timeText (t : TimeOfDay) : '\n' ∉ t.text := by
  simp [TimeOfDay.text, not_mem_twoPlaces]

theorem isRow_resultRow (moderate : Moderate s) (listed : r ∈ s.results) : IsRow (resultRow r) := by
  have method := moderate.methods r listed
  obtain ⟨natural, digits⟩ := moderate.durations r listed
  obtain ⟨methodWhole, urlWhole, nameWhole⟩ := moderate.lines r listed
  have address : ((truncate (firstOf r.url r.name) 30).length : Int) ≤ 30 := length_truncate_le _ (by decide)
  have duration : (Text.ofInt r.durationMs).length ≤ 6 := (length_ofInt natural).trans_le digits
  have markWidth : (mark r.success).length = 1 := by unfold mark; split <;> rfl
  have markWhole : '\n' ∉ mark r.success := by unfold mark; split <;> decide
  have addressWhole : '\n' ∉ truncate (firstOf r.url r.name) 30 := by
    refine not_mem_truncate ?_ 30
    unfold firstOf
    split <;> assumption
  refine isRow_row ?_ ?_
  · simp [Text.padRight, Text.padLeft, length_timeText, markWidth]
    omega
  · simp [Text.padRight, Text.padLeft, not_mem_timeText, not_mem_ofInt, markWhole, methodWhole, addressWhole]

theorem not_mem_sample (listed : line ∈ sample text) : '\n' ∉ line := by
  unfold sample at listed
  dsimp only at listed
  split at listed
  · rcases List.mem_append.mp listed with shown | dots
    · exact Text.not_mem_of_mem_splitAt (List.mem_of_mem_take shown)
    · rw [List.mem_singleton.mp dots]
      decide
  · exact Text.not_mem_of_mem_splitAt listed

theorem isRow_bodyRows (listed : line ∈ bodyRows text) : IsRow line := by
  unfold bodyRows at listed
  split at listed
  · cases listed
  · rcases List.mem_cons.mp listed with rfl | listed
    · exact isRow_row (by decide) (by decide)
    · obtain ⟨shown, sampled, rfl⟩ := List.mem_map.mp listed
      have width : ((truncate shown 60).length : Int) ≤ 60 := length_truncate_le shown (by decide)
      refine isRow_row ?_ ?_
      · simp
        omega
      · simp [not_mem_truncate (not_mem_sample sampled)]

theorem isRow_errorRows (listed : line ∈ errorRows r) : IsRow line := by
  unfold errorRows at listed
  split at listed
  · cases listed
  · rcases List.mem_cons.mp listed with rfl | listed
    · have whole : '\n' ∉ (Text.lines r.error).head?.getD [] := by
        cases first : (Text.lines r.error).head? with
        | none => exact List.not_mem_nil
        | some line => exact (Text.lineFree_of_mem_lines (List.mem_of_mem_head? first)).newline
      generalize (Text.lines r.error).head?.getD [] = line at whole ⊢
      have width : ((truncate line 54).length : Int) ≤ 54 := length_truncate_le line (by decide)
      refine isRow_row ?_ ?_
      · simp
        omega
      · simp [not_mem_truncate whole]
    · exact isRow_bodyRows listed

/-! ## Rows with figures -/

theorem totalMs_nonneg (moderate : Moderate s) : 0 ≤ s.totalMs := by
  rw [Summary.totalMs, ← List.sum_eq_foldl]
  refine List.sum_nonneg fun ms listed => ?_
  obtain ⟨r, ran, rfl⟩ := List.mem_map.mp listed
  exact (moderate.durations r ran).1

theorem isRow_countRow (moderate : Moderate s) : IsRow (countRow s) := by
  have counts := moderate.counts
  rw [← length_ofInt (totalMs_nonneg moderate)] at counts
  refine isRow_row ?_ ?_
  · simp
    omega
  · simp [not_mem_ofNat, not_mem_ofInt]

theorem isRow_elapsedRow (moderate : Moderate s) :
    IsRow (row ("Elapsed: " ++ Text.ofInt (s.elapsedMs?.getD 0) ++ "ms")) := by
  have elapsed := moderate.elapsed
  have width := length_ofInt_le (s.elapsedMs?.getD 0)
  refine isRow_row ?_ ?_
  · simp
    omega
  · simp [not_mem_ofInt]

/-- Whatever stands at a place of the sorted durations has as few digits as each of them. -/
theorem length_figure_le (moderate : Moderate s) (place : Nat) :
    (Text.ofInt ((Latency.sorted s.durations)[place]?.getD 0)).length ≤ 6 := by
  cases stands : (Latency.sorted s.durations)[place]? with
  | none => decide
  | some ms =>
      have listed : ms ∈ s.durations := (List.mergeSort_perm _ _).mem_iff.mp (List.mem_of_getElem? stands)
      obtain ⟨r, ran, rfl⟩ := List.mem_map.mp listed
      obtain ⟨natural, digits⟩ := moderate.durations r ran
      exact (length_ofInt natural).trans_le digits

theorem isRow_latencyRows (moderate : Moderate s) (listed : line ∈ latencyRows s) : IsRow line := by
  unfold latencyRows at listed
  split at listed
  · cases listed
  · rw [List.mem_singleton.mp listed]
    have slowest := length_figure_le moderate ((Latency.sorted s.durations).length - 1)
    rw [← List.getLast?_eq_getElem?] at slowest
    have percentile := length_figure_le moderate (Latency.percentilePlace s.durations.length)
    refine isRow_row ?_ ?_
    · simp [Latency.slowest, Latency.percentile]
      omega
    · simp [not_mem_ofInt]

theorem isRow_skippedRows (moderate : Moderate s) (listed : line ∈ skippedRows s) : IsRow line := by
  unfold skippedRows at listed
  split at listed
  · cases listed
  · rw [List.mem_singleton.mp listed]
    have digits := moderate.skipped
    have whole : '\n' ∉ Text.join ", " s.skipped := by
      intro member
      rcases Text.mem_of_mem_join member with comma | ⟨name, listed, here⟩
      · exact absurd comma (by decide)
      · exact moderate.skippedLines name listed here
    generalize Text.join ", " s.skipped = names at whole ⊢
    have width : ((truncate names 50).length : Int) ≤ 50 := length_truncate_le names (by decide)
    refine isRow_row ?_ ?_
    · simp
      omega
    · simp [not_mem_ofNat, not_mem_truncate whole]

/-! ## The box -/

/-- **Every line of the box is a row.** -/
theorem isRow_boxLines (moderate : Moderate s) (listed : line ∈ boxLines s) : IsRow line := by
  simp only [boxLines, List.mem_append, List.mem_flatMap, List.mem_cons, List.not_mem_nil, or_false] at listed
  obtain (((((rfl | rfl | rfl) | ⟨r, ran, rfl | listed⟩) | rfl | rfl | rfl) | listed) | listed) | rfl := listed
  · exact isRow_border (by decide) (by decide)
  · exact isRow_row (by decide) (by decide)
  · exact isRow_border (by decide) (by decide)
  · exact isRow_resultRow moderate ran
  · exact isRow_errorRows listed
  · exact isRow_border (by decide) (by decide)
  · exact isRow_countRow moderate
  · exact isRow_elapsedRow moderate
  · exact isRow_latencyRows moderate listed
  · exact isRow_skippedRows moderate listed
  · exact isRow_border (by decide) (by decide)

/-- The verdict stands behind an empty line. -/
theorem verdictLine_eq (s : Summary) :
    verdictLine s = '\n' :: (verdictLine s).drop 1 ∧ '\n' ∉ (verdictLine s).drop 1 := by
  unfold verdictLine
  split
  · exact ⟨rfl, by decide⟩
  · exact ⟨rfl, by simp [not_mem_ofNat]⟩

/-- The lines of the rendered summary are those of the box, an empty one and the verdict. -/
theorem splitAt_render (whole : ∀ line ∈ boxLines s, '\n' ∉ line) :
    Text.splitAt '\n' s.render = boxLines s ++ [[], (verdictLine s).drop 1] := by
  obtain ⟨opened, verdictWhole⟩ := verdictLine_eq s
  have someBox : boxLines s ≠ [] := by simp [boxLines]
  have joined : s.render = Text.join ['\n'] (boxLines s ++ [[], (verdictLine s).drop 1]) := by
    rw [Summary.render, Text.join_append _ someBox (List.cons_ne_nil _ _), Text.join_append _ someBox (List.cons_ne_nil _ _),
      Text.join_cons _ _ (List.cons_ne_nil _ _), Text.join, Text.join, opened]
    rfl
  rw [joined, Text.splitAt_join (by simp)]
  intro line listed
  rcases List.mem_append.mp listed with inside | behind
  · exact whole line inside
  · rcases List.mem_cons.mp behind with rfl | last
    · exact List.not_mem_nil
    · rw [List.mem_singleton.mp last]
      exact verdictWhole

/-- **The summary is a box**: from its top border to its bottom border every line of a rendered summary is 71 characters
wide, whatever the errors and the bodies are and however long the addresses and names. -/
theorem render_rectangular (moderate : Moderate s) :
    ∃ inside : List Text,
      Text.splitAt '\n' s.render =
        border "╭" "╮" :: (inside ++ [border "╰" "╯"]) ++ [[], (verdictLine s).drop 1] ∧
      ∀ line ∈ border "╭" "╮" :: (inside ++ [border "╰" "╯"]), line.length = 71 := by
  have rows (line : Text) (listed : line ∈ boxLines s) : IsRow line := isRow_boxLines moderate listed
  obtain ⟨inside, box⟩ : ∃ inside, boxLines s = border "╭" "╮" :: (inside ++ [border "╰" "╯"]) :=
    ⟨_, by rw [boxLines]; rfl⟩
  refine ⟨inside, ?_, fun line listed => (rows line (box ▸ listed)).width⟩
  rw [splitAt_render fun line listed => (rows line listed).whole, box]

/-- A failure at the end of a day, with the widest figures, a long address, an error of two lines and a body of several. -/
def wideFailure : Summary where
  results := [{
    name := "sync", method := "PROPFIND-DEPTH", url := List.replicate 80 'a', durationMs := 999999,
    error := List.replicate 200 'x' ++ "\nmore", body := "[1, 2, 3, 4, 5, 6]",
    start := ⟨Fin.last 23, Fin.last 59, Fin.last 59⟩ }]
  skipped := ["profile", "logout"]
  elapsedMs? := some 1000002

theorem render_rectangular_wideFailure :
    Moderate wideFailure ∧ ∃ inside : List Text,
      Text.splitAt '\n' wideFailure.render =
        border "╭" "╮" :: (inside ++ [border "╰" "╯"]) ++ [[], (verdictLine wideFailure).drop 1] ∧
      ∀ line ∈ border "╭" "╮" :: (inside ++ [border "╰" "╯"]), line.length = 71 := by
  have moderate : Moderate wideFailure :=
    ⟨by decide, by decide, by decide, by decide, by decide, by decide, by decide⟩
  exact ⟨moderate, render_rectangular moderate⟩

end ApiFlow.SummaryTable
