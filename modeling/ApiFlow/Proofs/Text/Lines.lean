import ApiFlow.Proofs.Text.Fields

/-!
# Lines that are written one below the other

A line without a boundary inside, followed by a line feed, is the first line of the text.  Text in front of further lines
leaves them as they are, whatever boundaries it holds itself.

* `lineFree_of_mem_lines` : what a line may hold.
* `lines_append` : one line in front of others.
* `lines_paragraph` : any text in front of others, on lines of its own.
* `lines_seam` : the lines of two texts with a line feed between them.
-/

set_option autoImplicit false

namespace ApiFlow.Text

variable {s : Text}

theorem isBlank_of_isLineEnd {c : Char} (boundary : isLineEnd c = true) : isBlank c = true := by
  simp only [isLineEnd, isBlank, Bool.or_eq_true, Bool.and_eq_true, decide_eq_true_eq] at boundary ⊢
  omega

/-- No boundary of lines stands in the text. -/
def LineFree (s : Text) : Prop := ∀ c ∈ s, isLineEnd c = false

instance (s : Text) : Decidable (LineFree s) := List.decidableBAll _ s

/-- The only boundaries of lines in the text are line feeds. -/
def FeedsOnly (s : Text) : Prop := ∀ c ∈ s, isLineEnd c = true → c = '\n'

instance (s : Text) : Decidable (FeedsOnly s) := List.decidableBAll _ s

theorem BlankFree.lineFree (solid : BlankFree s) : LineFree s := by
  refine fun c member => Bool.eq_false_iff.mpr fun boundary => ?_
  cases (solid c member).symm.trans (isBlank_of_isLineEnd boundary)

theorem LineFree.append {t : Text} (first : LineFree s) (second : LineFree t) : LineFree (s ++ t) := by
  intro c member
  rcases List.mem_append.mp member with here | there
  · exact first c here
  · exact second c there

theorem LineFree.cons {c : Char} (here : isLineEnd c = false) (rest : LineFree s) : LineFree (c :: s) :=
  List.forall_mem_cons.mpr ⟨here, rest⟩

theorem LineFree.newline (free : LineFree s) : '\n' ∉ s := fun member => absurd (free '\n' member) (by decide)

theorem lines_cons {c : Char} (inside : isLineEnd c = false) (s : Text) : lines (c :: s) = pushFirst c (lines s) := by
  rw [lines, if_neg (by simp [inside])]
  rintro _ rfl
  simp [isLineEnd] at inside

theorem lines_boundary {c : Char} (boundary : isLineEnd c = true) (other : c = '\r' → ∀ t, s ≠ '\n' :: t) :
    lines (c :: s) = [] :: lines s := by
  rw [lines, if_pos boundary]
  exact fun t return_ same => other return_ t same

theorem mem_pushFirst {c : Char} {fields : List Text} {field : Text} (listed : field ∈ pushFirst c fields) :
    field ∈ fields ∨ ∃ first, field = c :: first ∧ (first = [] ∨ first ∈ fields) := by
  cases fields with
  | nil => exact .inr ⟨[], List.mem_singleton.mp listed, .inl rfl⟩
  | cons first rest =>
      rcases List.mem_cons.mp listed with here | there
      · exact .inr ⟨first, here, .inr List.mem_cons_self⟩
      · exact .inl (List.mem_cons_of_mem first there)

/-- **No boundary stands inside a line.** -/
theorem lineFree_of_mem_lines {line : Text} (listed : line ∈ lines s) : LineFree line := by
  induction s using lines.induct generalizing line with
  | case1 => cases listed
  | case2 s ih =>
      rw [lines] at listed
      rcases List.mem_cons.mp listed with rfl | later
      · exact List.forall_mem_nil _
      · exact ih later
  | case3 c s other boundary ih =>
      rw [lines_boundary boundary fun return_ t same => other t return_ same] at listed
      rcases List.mem_cons.mp listed with rfl | later
      · exact List.forall_mem_nil _
      · exact ih later
  | case4 c s other inside ih =>
      have inside : isLineEnd c = false := by simpa using inside
      rw [lines_cons inside] at listed
      rcases mem_pushFirst listed with there | ⟨first, rfl, rfl | there⟩
      · exact ih there
      · exact .cons inside (List.forall_mem_nil _)
      · exact .cons inside (ih there)

/-- **A line in front of others.** -/
theorem lines_append (free : LineFree s) (rest : Text) : lines (s ++ '\n' :: rest) = s :: lines rest := by
  induction s with
  | nil => rfl
  | cons c s ih =>
      obtain ⟨here, free⟩ := List.forall_mem_cons.mp free
      rw [List.cons_append, lines_cons here, ih free, pushFirst]

theorem lines_eq_nil_iff : lines s = [] ↔ s = [] := by
  refine ⟨fun none => ?_, fun empty => by rw [empty, lines]⟩
  unfold lines at none
  split at none
  · rfl
  · cases none
  · split at none
    · cases none
    · rename_i c s _ _
      cases rest : lines s <;> simp [pushFirst, rest] at none

/-- A line feed behind a text ends its last line, or stands on a line of its own. -/
theorem lines_feed (s : Text) :
    ∃ gap, (gap = [] ∨ gap = [[]]) ∧ ∀ rest, lines (s ++ '\n' :: rest) = lines s ++ gap ++ lines rest := by
  induction s using lines.induct with
  | case1 => exact ⟨[[]], .inr rfl, fun _ => rfl⟩
  | case2 s ih =>
      obtain ⟨gap, either, same⟩ := ih
      refine ⟨gap, either, fun rest => ?_⟩
      rw [List.cons_append, List.cons_append, lines, lines, same]
      rfl
  | case3 c s other boundary ih =>
      rw [lines_boundary boundary fun return_ t same => other t return_ same]
      by_cases last : c = '\r' ∧ s = []
      · -- A carriage return at the end is one boundary with the line feed behind it.
        obtain ⟨rfl, rfl⟩ := last
        exact ⟨[], .inl rfl, fun _ => rfl⟩
      · obtain ⟨gap, either, same⟩ := ih
        refine ⟨gap, either, fun rest => ?_⟩
        have apart : c = '\r' → ∀ t, s ++ '\n' :: rest ≠ '\n' :: t := by
          intro return_ t same
          cases s with
          | nil => exact last ⟨return_, rfl⟩
          | cons d s => exact other s return_ (by rw [(List.cons.inj same).1])
        rw [List.cons_append, lines_boundary boundary apart, same]
        rfl
  | case4 c s other inside ih =>
      have inside : isLineEnd c = false := by simpa using inside
      obtain ⟨gap, either, same⟩ := ih
      cases first : lines s with
      | nil =>
          rw [lines_eq_nil_iff.mp first, lines_cons inside]
          exact ⟨[], .inl rfl, fun rest => by rw [List.singleton_append, lines_cons inside]; rfl⟩
      | cons line more =>
          refine ⟨gap, either, fun rest => ?_⟩
          rw [List.cons_append, lines_cons inside, lines_cons inside, same, first]
          rfl

/-- **Any text in front of others**: its own lines come first, perhaps with an empty one behind them. -/
theorem lines_paragraph (s rest : Text) :
    lines (s ++ '\n' :: rest) = lines s ++ lines rest ∨ lines (s ++ '\n' :: rest) = lines s ++ [] :: lines rest := by
  obtain ⟨gap, rfl | rfl, same⟩ := lines_feed s
  · exact .inl (by rw [same, List.append_nil])
  · exact .inr (by rw [same, List.append_assoc]; rfl)

/-- **Behind a line feed the lines begin anew.** -/
theorem lines_seam (s rest : Text) : lines (s ++ '\n' :: rest) = lines (s ++ ['\n']) ++ lines rest := by
  obtain ⟨gap, -, same⟩ := lines_feed s
  rw [same, same, lines_eq_nil_iff.mpr rfl, List.append_nil]

end ApiFlow.Text
