import ApiFlow.Proofs.Flow.Recovery
import ApiFlow.Proofs.Flow.SameRequest

/-!
# Directives and content do not interfere

A step block is its head lines and its content.  The settings of the step are those of the directives in its head,
whatever its content says, and what the step does is read from the content, whatever directives set besides the type.  A
line `@…` of the content is content.

* `Divided` : a block that is made of head lines and content.
* `foldl_has` : a fold that takes in every item and loses none.
* `ContentDraft.has_foldl`, `RequestDraft.has_foldl` : every directive in the content is in one of its sections, and in
  one part of the request.
* `Step.head_and_content_apart` : two blocks with the same head, and two with the same content.
-/

set_option autoImplicit false

namespace ApiFlow.Flow

/-- A block is made of head lines and content: its content begins at the first line that is no head line. -/
structure Divided (raw : Text) (head content : List Text) : Prop where
  lines : Text.splitAt '\n' raw = head ++ content
  head : ∀ line ∈ head, isHeadLine line = true
  content : ∀ line ∈ content.head?, isHeadLine line = false

/-- **Every block is divided in one way.** -/
theorem divided_iff {raw : Text} {head content : List Text} :
    Divided raw head content ↔ head = headLines raw ∧ content = contentLines raw := by
  constructor
  · rintro ⟨lines, head, content⟩
    obtain ⟨front, back⟩ := Text.takeWhile_dropWhile_append head content
    rw [headLines, contentLines, lines]
    exact ⟨front.symm, back.symm⟩
  · rintro ⟨rfl, rfl⟩
    refine ⟨List.takeWhile_append_dropWhile.symm, fun line listed => List.mem_takeWhile_imp listed, fun line first => ?_⟩
    have stop := List.head?_dropWhile_not isHeadLine (Text.splitAt '\n' raw)
    rw [show (Text.splitAt '\n' raw).dropWhile isHeadLine = contentLines raw from rfl, Option.mem_def.mp first] at stop
    simpa using stop

section

variable {raw : Text} {head content : List Text}

theorem Divided.directives (divided : Divided raw head content) : headDirectives raw = directivesIn head := by
  rw [(divided_iff.mp divided).1]
  rfl

theorem Divided.draft (divided : Divided raw head content) :
    ContentDraft.ofBlock raw = content.foldl ContentDraft.line {} := by
  rw [(divided_iff.mp divided).2]
  rfl

theorem Divided.free (divided : Divided raw head content) : ∀ line ∈ content, '\n' ∉ line := fun _ listed =>
  Text.not_mem_of_mem_splitAt (s := raw) (divided.lines ▸ List.mem_append_right head listed)

end

/-! ## Lines that are kept -/

/-- **What a step takes in and later steps keep** is there after all steps. -/
theorem foldl_has {σ α : Type} {step : σ → α → σ} {Has : σ → α → Prop} {a : α}
    (takes : ∀ s, Has (step s a) a) (keeps : ∀ s b, Has s a → Has (step s b) a) {l : List α} (listed : a ∈ l) (s : σ) :
    Has (l.foldl step s) a := by
  have kept (rest : List α) (s : σ) (here : Has s a) : Has (rest.foldl step s) a := by
    induction rest generalizing s with
    | nil => exact here
    | cons b rest ih => exact ih _ (keeps s b here)
  obtain ⟨front, back, rfl⟩ := List.append_of_mem listed
  rw [List.foldl_append, List.foldl_cons]
  exact kept back _ (takes _)

theorem not_idle_of_isDirective {trimmed : Text} (directive : isDirective trimmed = true) : isIdle trimmed = false :=
  Bool.eq_false_iff.mpr fun idle => not_isDirective_of_idle idle directive

/-- No mark of a section is a directive. -/
theorem sectionOf?_of_isDirective {trimmed : Text} (directive : isDirective trimmed = true) :
    sectionOf? trimmed = none := by
  have apart (mark : Text) (plain : isDirective mark = false) : trimmed ≠ mark := fun same => by
    rw [same, plain] at directive
    cases directive
  exact sectionOf?_eq_none_iff.mpr
    ⟨apart _ (by decide), apart _ (by decide), apart _ (by decide), apart _ (by decide)⟩

section

variable {l : Text}

theorem isFront_of_isDirective (directive : isDirective (Text.trim l) = true) : IsFront l := by
  obtain ⟨captures, asserts, -⟩ := sectionOf?_eq_none_iff.mp (sectionOf?_of_isDirective directive)
  exact ⟨captures, asserts⟩

namespace ContentDraft

variable {d : ContentDraft}

/-- A line is in one of the sections: as it is in front of the captures, and else without the blanks at its ends. -/
def Has (d : ContentDraft) (line : Text) : Prop :=
  line ∈ d.request ∨ Text.trim line ∈ d.captures ∨ Text.trim line ∈ d.asserts

theorem has_line (directive : isDirective (Text.trim l) = true) (d : ContentDraft) : (d.line l).Has l := by
  obtain ⟨captures, asserts⟩ := isFront_of_isDirective directive
  have busy := not_idle_of_isDirective directive
  rw [line, if_neg captures, if_neg asserts]
  cases part : d.part with
  | captures => exact .inr (.inl (by simp [busy]))
  | asserts => exact .inr (.inr (by simp [busy]))
  | headers => exact .inl (by simp)
  | queries => exact .inl (by simp)
  | body => exact .inl (by simp)

theorem Has.line (has : d.Has l) (other : Text) : (d.line other).Has l := by
  unfold Has at has ⊢
  unfold ContentDraft.line
  dsimp only
  split
  · exact has
  · split
    · exact has
    · split
      · split
        · exact has
        · exact has.imp_right (.imp_left (List.mem_append_left _))
      · split
        · exact has
        · exact has.imp_right (.imp_right (List.mem_append_left _))
      · exact has.imp_left (List.mem_append_left _)

/-- **Every directive among the lines of the content is in one of its sections.** -/
theorem has_foldl {lines : List Text} (listed : l ∈ lines) (directive : isDirective (Text.trim l) = true)
    (d : ContentDraft) : (lines.foldl line d).Has l :=
  foldl_has (fun d => has_line directive d) (fun _ other has => Has.line has other) listed d

/-- Behind the first mark no line is added to those in front of the captures. -/
theorem foldl_closed (closed : d.part = .captures ∨ d.part = .asserts) (lines : List Text) :
    (lines.foldl line d).request = d.request := by
  induction lines generalizing d with
  | nil => rfl
  | cons l lines ih =>
      have step : ((d.line l).part = .captures ∨ (d.line l).part = .asserts) ∧ (d.line l).request = d.request := by
        unfold line
        dsimp only
        split
        · exact ⟨.inl rfl, rfl⟩
        · split
          · exact ⟨.inr rfl, rfl⟩
          · rcases closed with part | part <;> rw [part] <;> dsimp only <;> split <;> simp [part]
      exact (ih step.1).trans step.2

/-- **The lines in front of the captures** are those in front of the first mark. -/
theorem foldl_request {lines : List Text} (opened : d.part = .headers) :
    (lines.foldl line d).request = d.request ++ lines.takeWhile fun l => decide (IsFront l) := by
  induction lines generalizing d with
  | nil => simp
  | cons l lines ih =>
      rw [List.foldl_cons, List.takeWhile_cons]
      by_cases front : IsFront l
      · have one : ∀ l' ∈ [l], IsFront l' := by simpa
        have next : d.line l = { d with request := d.request ++ [l] } := foldl_front one opened
        rw [if_pos (by simpa using front), next, ih (by exact opened), List.append_assoc]
        rfl
      · rw [if_neg (by simpa using front), List.append_nil]
        -- A mark leaves the lines as they are, and so do all lines below it.
        by_cases captures : Text.trim l = capturesMark
        · have next : d.line l = { d with part := .captures } := if_pos captures
          rw [next, foldl_closed (.inl rfl)]
        · have asserts : Text.trim l = assertsMark := by
            by_contra other
            exact front ⟨captures, other⟩
          have next : d.line l = { d with part := .asserts } := by rw [line, if_neg captures, if_pos asserts]
          rw [next, foldl_closed (.inr rfl)]

end ContentDraft

namespace RequestDraft

variable {d : RequestDraft}

/-- A line is in one part of a request. -/
def Has (d : RequestDraft) (line : Text) : Prop :=
  Text.trim line ∈ d.template.headers ∨ tidyQuery (Text.trim line) ∈ d.template.queries ∨ line ∈ d.body ∨
    Text.trim line ∈ d.template.captures ∨ Text.trim line ∈ d.template.asserts

theorem has_line (directive : isDirective (Text.trim l) = true) (d : RequestDraft) : (d.line l).Has l := by
  have busy := not_idle_of_isDirective directive
  obtain ⟨some, plain⟩ : (Text.trim l).isEmpty = false ∧ isComment (Text.trim l) = false := by
    simpa [isIdle] using busy
  rw [line, sectionOf?_of_isDirective directive]
  unfold Has
  cases part : d.part with
  | headers =>
      dsimp only
      rw [if_neg (by simp [some]), if_neg (by simp [plain])]
      split
      · exact .inr (.inr (.inl (by simp)))
      · exact .inl (by simp)
  | queries =>
      dsimp only
      rw [if_neg (by simp [some]), if_neg (by simp [plain])]
      exact .inr (.inl (by simp))
  | body => exact .inr (.inr (.inl (by simp)))
  | captures =>
      dsimp only
      rw [if_neg (by simp [busy])]
      exact .inr (.inr (.inr (.inl (by simp))))
  | asserts =>
      dsimp only
      rw [if_neg (by simp [busy])]
      exact .inr (.inr (.inr (.inr (by simp))))

/-- A request with more in each of its parts. -/
theorem Has.mono {d' : RequestDraft} (has : d.Has l) (headers : d.template.headers ⊆ d'.template.headers)
    (queries : d.template.queries ⊆ d'.template.queries) (body : d.body ⊆ d'.body)
    (captures : d.template.captures ⊆ d'.template.captures) (asserts : d.template.asserts ⊆ d'.template.asserts) :
    d'.Has l :=
  has.imp (fun h => headers h) (.imp (fun h => queries h) (.imp (fun h => body h)
    (.imp (fun h => captures h) fun h => asserts h)))

theorem Has.line (has : d.Has l) (other : Text) : (d.line other).Has l := by
  unfold RequestDraft.line
  dsimp only
  repeat' split
  all_goals exact has.mono (by simp) (by simp) (by simp) (by simp) (by simp)

/-- **Every directive among the lines of a request is in one of its parts.** -/
theorem has_foldl {lines : List Text} (listed : l ∈ lines) (directive : isDirective (Text.trim l) = true)
    (d : RequestDraft) : (lines.foldl line d).Has l :=
  foldl_has (fun d => has_line directive d) (fun _ other has => Has.line has other) listed d

end RequestDraft

/-! ## Lines of a text -/

/-- The line is one of the text, but for the blanks at its ends. -/
def ShowsLine (text line : Text) : Prop := ∃ l ∈ Text.splitAt '\n' text, Text.trim l = Text.trim line

instance (text line : Text) : Decidable (ShowsLine text line) := List.decidableBEx _ _

/-- A line that is not blank stays when the text is trimmed. -/
theorem showsLine_trim (some : Text.trim l ≠ []) (s : Text) : ShowsLine (Text.trim s) l ↔ ShowsLine s l := by
  refine Iff.of_eq (Text.eq_of_trim (f := fun s => ShowsLine s l) (fun c s blank => ?_) (fun s c blank => ?_) s)
  · unfold ShowsLine
    by_cases feed : c = '\n'
    · have first : Text.splitAt '\n' (c :: s) = [] :: Text.splitAt '\n' s := if_pos (by simpa using feed)
      rw [first, List.exists_mem_cons_iff, or_iff_right fun same => some same.symm]
    · obtain ⟨line, rest, fields⟩ := List.exists_cons_of_ne_nil (Text.splitAt_ne_nil '\n' s)
      rw [Text.splitAt_cons feed, fields, Text.pushFirst, List.exists_mem_cons_iff, List.exists_mem_cons_iff,
        Text.trim_blank_cons blank]
  · unfold ShowsLine
    by_cases feed : c = '\n'
    · rw [feed, Text.splitAt_concat_mark]
      simp only [List.mem_append, List.mem_singleton, or_and_right, exists_or, exists_eq_left]
      rw [or_iff_left fun same => some same.symm]
    · obtain ⟨front, last, short, long⟩ := Text.splitAt_concat feed s
      rw [short, long]
      simp only [List.mem_append, List.mem_singleton, or_and_right, exists_or, exists_eq_left,
        Text.trim_concat_blank blank]

/-- Trimmed text that is joined from lines shows each of them that is not blank. -/
theorem showsLine_joined {lines : List Text} (some : Text.trim l ≠ []) (free : ∀ line ∈ lines, '\n' ∉ line)
    (listed : l ∈ lines) : ShowsLine (Text.trim (Text.join ['\n'] lines)) l := by
  rw [showsLine_trim some, ShowsLine, Text.splitAt_join (List.ne_nil_of_mem listed) free]
  exact ⟨l, listed, rfl⟩

end

/-! ## What a step shows of its content -/

/-- A line is in one part of a request; a query entry stands there without blanks around its name and value. -/
def RequestTemplate.Shows (r : RequestTemplate) (line : Text) : Prop :=
  Text.trim line ∈ r.headers ∨ tidyQuery (Text.trim line) ∈ r.queries ∨ ShowsLine r.body line ∨
    Text.trim line ∈ r.captures ∨ Text.trim line ∈ r.asserts

/-- A line is in one part of a command; a capture stands there without the comment behind it. -/
def CommandTemplate.Shows (c : CommandTemplate) (line : Text) : Prop :=
  ShowsLine c.command line ∨ withoutComment (Text.trim line) ∈ c.captures ∨ Text.trim line ∈ c.asserts

/-- A line is in one part of what a step does. -/
def Action.Shows (line : Text) : Action → Prop
  | .send r => r.Shows line
  | .run c => c.Shows line

/-- A request that its lines cannot be read as. -/
def ContentDraft.Unread (d : ContentDraft) (e : RequestError) : Prop :=
  d.requestText ≠ [] ∧ RequestTemplate.ofBlock d.requestText = .error e

section

variable {l : Text} {d : ContentDraft}

theorem trim_ne_nil (directive : isDirective (Text.trim l) = true) : Text.trim l ≠ [] := by
  intro none
  rw [none] at directive
  cases directive

/-- The body of a request shows every directive among its lines. -/
theorem RequestDraft.Has.shows {d : RequestDraft} (has : d.Has l) (directive : isDirective (Text.trim l) = true)
    (free : ∀ line ∈ d.body, '\n' ∉ line) : d.finish.Shows l :=
  has.imp_right (.imp_right (.imp_left (showsLine_joined (trim_ne_nil directive) free)))

/-- The lines of the body are lines that were read. -/
theorem RequestDraft.body_foldl_subset (lines : List Text) (d : RequestDraft) :
    (lines.foldl RequestDraft.line d).body ⊆ d.body ++ lines := by
  induction lines generalizing d with
  | nil => simp
  | cons l lines ih =>
      have step : (d.line l).body ⊆ d.body ++ [l] := by
        unfold RequestDraft.line
        dsimp only
        repeat' split
        all_goals simp
      intro line listed
      rcases List.mem_append.mp (ih (d.line l) listed) with here | later
      · rcases List.mem_append.mp (step here) with body | same
        · exact List.mem_append_left _ body
        · exact List.mem_append_right _ (List.mem_singleton.mp same ▸ List.mem_cons_self)
      · exact List.mem_append_right _ (List.mem_cons_of_mem _ later)

/-- **A request shows every directive below its request line.** -/
theorem RequestTemplate.shows_of_ofLines {first : Text} {rest : List Text} {r : RequestTemplate}
    (read : RequestTemplate.ofLines (first :: rest) = .ok r) (busy : isIdle (Text.trim first) = false)
    (free : ∀ line ∈ rest, '\n' ∉ line) (listed : l ∈ rest) (directive : isDirective (Text.trim l) = true) :
    r.Shows l := by
  unfold RequestTemplate.ofLines at read
  rw [List.dropWhile_cons, if_neg (by simp [busy])] at read
  dsimp only at read
  split at read
  · cases read
    refine (RequestDraft.has_foldl listed directive _).shows directive fun line inBody => ?_
    exact free line (by simpa using RequestDraft.body_foldl_subset rest _ inBody)
  · cases read

/-- A text without the mark of the captures is all command. -/
theorem CommandTemplate.ofBlock_front {text : Text}
    (front : ∀ line ∈ Text.splitAt '\n' text, Text.trim line ≠ capturesMark) :
    CommandTemplate.ofBlock text = { command := Text.trim text } := by
  have plain : ∀ line ∈ Text.splitAt '\n' text, (Text.trim line != capturesMark) = true := by simpa using front
  rw [CommandTemplate.ofBlock, List.span_eq_takeWhile_dropWhile, List.takeWhile_eq_self_iff.mpr plain,
    List.dropWhile_eq_nil_iff.mpr plain]
  dsimp only
  rw [Text.join_splitAt]
  rfl

/-- **A command shows every directive in its content.** -/
theorem ContentDraft.Has.command (has : d.Has l) (directive : isDirective (Text.trim l) = true)
    (free : ∀ line ∈ d.request, '\n' ∉ line) (fronts : ∀ line ∈ d.request, IsFront line) : d.command.Shows l := by
  have front : ∀ line ∈ Text.splitAt '\n' d.requestText, Text.trim line ≠ capturesMark := by
    intro line listed mark
    have shown : ShowsLine (Text.join ['\n'] d.request) capturesMark :=
      (showsLine_trim (l := capturesMark) (by decide) _).mp ⟨line, listed, mark.trans (by decide)⟩
    obtain ⟨line', listed', mark'⟩ := shown
    by_cases none : d.request = []
    · rw [none] at listed'
      rw [List.mem_singleton.mp listed'] at mark'
      exact absurd mark' (by decide)
    · rw [Text.splitAt_join none free] at listed'
      exact (fronts line' listed').1 (mark'.trans (by decide))
  unfold ContentDraft.command
  rw [CommandTemplate.ofBlock_front front]
  rcases has with request | captures | asserts
  · left
    dsimp only
    rw [showsLine_trim (trim_ne_nil directive)]
    exact showsLine_joined (trim_ne_nil directive) free request
  · exact .inr (.inl (List.mem_append_right _ (List.mem_map_of_mem captures)))
  · exact .inr (.inr (List.mem_append_right _ asserts))

theorem RequestTemplate.Shows.extended {r : RequestTemplate} (shown : r.Shows l) (captures asserts : List Text) :
    (r.extended captures asserts).Shows l :=
  shown.imp_right (.imp_right (.imp_right (.imp (List.mem_append_left _) (List.mem_append_left _))))

/-- **A request shows every directive in its content**, unless its lines cannot be read. -/
theorem ContentDraft.Has.send (has : d.Has l) (directive : isDirective (Text.trim l) = true)
    (free : ∀ line ∈ d.request, '\n' ∉ line) (start : ∀ line ∈ d.request.head?, isHeadLine line = false)
    (number : Nat) :
    (d.send number).1.Shows l ∨ ∃ e, d.Unread e ∧ requestWarning number e ∈ (d.send number).2 := by
  rcases has with request | captures | asserts
  · obtain ⟨first, rest, whole⟩ := List.exists_cons_of_ne_nil (List.ne_nil_of_mem request)
    have some : d.requestText ≠ [] := by
      intro none
      have shown : ShowsLine d.requestText l := showsLine_joined (trim_ne_nil directive) free request
      rw [none] at shown
      obtain ⟨line, listed, same⟩ := shown
      rw [List.mem_singleton.mp listed] at same
      exact trim_ne_nil directive same.symm
    have lines : RequestTemplate.ofBlock d.requestText = RequestTemplate.ofLines (first :: rest) := by
      rw [ContentDraft.requestText, RequestTemplate.ofBlock_trim, RequestTemplate.ofBlock_eq,
        Text.splitAt_join (by simp [whole]) free, whole]
    have head : isHeadLine first = false := start first (by rw [whole]; rfl)
    obtain ⟨busy, other⟩ : isIdle (Text.trim first) = false ∧ isDirective (Text.trim first) = false := by
      simpa [isHeadLine] using head
    -- The request line is no directive, so the line stands below it.
    have below : l ∈ rest := by
      rw [whole] at request
      refine (List.mem_cons.mp request).resolve_left fun same => ?_
      rw [same, other] at directive
      cases directive
    cases read : RequestTemplate.ofBlock d.requestText with
    | error e =>
        refine .inr ⟨e, ⟨some, read⟩, ?_⟩
        rw [ContentDraft.send, if_neg (by simpa using some), read]
        exact List.mem_singleton.mpr rfl
    | ok r =>
        left
        rw [ContentDraft.send, if_neg (by simpa using some), read]
        have inside : ∀ line ∈ rest, '\n' ∉ line := fun line listed => free line (whole ▸ List.mem_cons_of_mem _ listed)
        exact (RequestTemplate.shows_of_ofLines (lines ▸ read) busy inside below directive).extended _ _
  · exact .inl (.inr (.inr (.inr (.inl (List.mem_append_right _ captures)))))
  · exact .inl (.inr (.inr (.inr (.inr (List.mem_append_right _ asserts)))))

end

/-! ## Blocks -/

theorem ContentDraft.send_fst (d : ContentDraft) (m n : Nat) : (d.send m).1 = (d.send n).1 := by
  unfold ContentDraft.send
  by_cases none : d.requestText.isEmpty = true
  · rw [if_pos none, if_pos none]
  · rw [if_neg none, if_neg none]
    cases RequestTemplate.ofBlock d.requestText <;> rfl

/-- What a step does, by its type. -/
def actionOf (type : Text) (d : ContentDraft) (line : Nat) : Action :=
  if type = "exec".toList then .run d.command else .send (d.send line).1

section

variable {raw : Text} {head content : List Text} {line : Nat} {s : Step} {warnings : List Text}

/-- **A divided block can be read exactly if the numbers in its head can.**  Its settings are those of the head, and its
action is that of the content. -/
theorem Divided.ofBlock_ok_iff (divided : Divided raw head content) :
    Step.ofBlock raw line = .ok (s, warnings) ↔ NumbersReadable (directivesIn head) ∧
      s = { settingsOf (directivesIn head) with
        line, raw, action := actionOf (typeGiven (directivesIn head)) (content.foldl ContentDraft.line {}) line } ∧
      warnings = (Block.mk [] [] line raw).warnings := by
  have read : Step.ofBlock raw line = .ok (s, warnings) ↔ _ := Step.ofBlock_ok_iff (b := ⟨[], [], line, raw⟩)
  rw [read, Prod.mk.injEq, Block.step, divided.directives, divided.draft]
  rfl

theorem isCommand_actionOf (h : StepHeader) (type : Text) (d : ContentDraft) (line : Nat) (raw : Text) :
    Step.isCommand { h with line, raw, action := actionOf type d line } = decide (type = "exec".toList) := by
  unfold Step.isCommand actionOf
  dsimp only
  by_cases exec : type = "exec".toList
  · rw [if_pos exec, decide_eq_true exec]
  · rw [if_neg exec, decide_eq_false exec]

theorem actionOf_congr {type type' : Text} (same : decide (type' = "exec".toList) = decide (type = "exec".toList))
    (d : ContentDraft) (m n : Nat) : actionOf type' d m = actionOf type d n := by
  unfold actionOf
  rw [d.send_fst m n]
  simp only [decide_eq_decide.mp same]

/-- The front of the content begins as the content does. -/
theorem Divided.request (divided : Divided raw head content) :
    (∀ line ∈ (content.foldl ContentDraft.line {}).request, '\n' ∉ line ∧ IsFront line) ∧
      ∀ line ∈ (content.foldl ContentDraft.line {}).request.head?, isHeadLine line = false := by
  have front : (content.foldl ContentDraft.line {}).request = content.takeWhile fun l => decide (IsFront l) := by
    rw [ContentDraft.foldl_request rfl]
    rfl
  rw [front]
  refine ⟨fun line listed => ⟨?_, by simpa using List.mem_takeWhile_imp listed⟩, fun line first => ?_⟩
  · exact divided.free line ((List.takeWhile_prefix _).subset listed)
  · rw [List.head?_takeWhile] at first
    exact divided.content line (Option.mem_filter_iff.mp first).1

/-- **Directives and content do not interfere.**  A block with the same head has the same settings and the same type, and
can be read if this one can; a block with the same content and a type that agrees does the same; and a directive in the
content is content, which the step shows unless its request line cannot be read. -/
theorem Step.head_and_content_apart (divided : Divided raw head content)
    (read : Step.ofBlock raw line = .ok (s, warnings)) :
    (∀ {raw' : Text} {content' : List Text}, Divided raw' head content' → ∀ line', ∃ s' warnings',
        Step.ofBlock raw' line' = .ok (s', warnings') ∧ s'.toStepHeader = s.toStepHeader ∧
          s'.isCommand = s.isCommand) ∧
      (∀ {raw' : Text} {head' : List Text} {line' : Nat} {s' : Step} {warnings' : List Text},
        Divided raw' head' content → Step.ofBlock raw' line' = .ok (s', warnings') → s'.isCommand = s.isCommand →
          s'.action = s.action) ∧
      ∀ l ∈ content, isDirective (Text.trim l) = true → (ContentDraft.ofBlock raw).Has l ∧
        (s.action.Shows l ∨ ∃ e, (ContentDraft.ofBlock raw).Unread e ∧ requestWarning line e ∈ warnings) := by
  obtain ⟨readable, rfl, rfl⟩ := divided.ofBlock_ok_iff.mp read
  refine ⟨fun divided' line' => ?_, fun divided' read' same => ?_, fun l listed directive => ?_⟩
  · exact ⟨_, _, divided'.ofBlock_ok_iff.mpr ⟨readable, rfl, rfl⟩, rfl, by
      rw [isCommand_actionOf, isCommand_actionOf]⟩
  · obtain ⟨-, rfl, -⟩ := divided'.ofBlock_ok_iff.mp read'
    rw [isCommand_actionOf, isCommand_actionOf] at same
    exact actionOf_congr same _ _ _
  · have has := ContentDraft.has_foldl listed directive {}
    obtain ⟨fronts, start⟩ := divided.request
    rw [Block.warnings, divided.directives, divided.draft]
    refine ⟨has, ?_⟩
    unfold actionOf
    by_cases exec : typeGiven (directivesIn head) = "exec".toList
    · rw [if_pos exec]
      exact .inl (has.command directive (fun line listed => (fronts line listed).1) fun line listed => (fronts line listed).2)
    · rw [if_neg exec, if_neg exec]
      refine (has.send directive (fun line listed => (fronts line listed).1) start line).imp_right ?_
      rintro ⟨e, unread, warned⟩
      exact ⟨e, unread, List.mem_append_right _ (List.mem_append_right _ warned)⟩

end

instance (raw : Text) (head content : List Text) : Decidable (Divided raw head content) :=
  decidable_of_iff _ divided_iff.symm

/-- A step with directives in its head, in its body and among its captures. -/
def greeting : Text := "# greet\n@retry 2\nPOST /greet\n@retry 9\n[Captures]\n@id = id"

/-- The directives below the request line are its body and a capture; other content leaves the number of retries, and
another head the request. -/
theorem Step.head_and_content_apart_greeting :
    Divided greeting ["# greet", "@retry 2"] ["POST /greet", "@retry 9", "[Captures]", "@id = id"] ∧
      Step.ofBlock greeting 4 = .ok ({ retry := 2, line := 4, raw := greeting, action := .send {
        method := "POST", url := "/greet", body := "@retry 9", captures := ["@id = id"] } }, []) ∧
      (∃ s warnings, Step.ofBlock "# greet\n@retry 2\n[Asserts]\n@wait 5" 1 = .ok (s, warnings) ∧
        s.toStepHeader = { retry := 2 } ∧ s.isCommand = false) ∧
      (∀ s warnings, Step.ofBlock "@name x\n\nPOST /greet\n@retry 9\n[Captures]\n@id = id" 7 = .ok (s, warnings) →
        s.isCommand = false →
          s.action = .send { method := "POST", url := "/greet", body := "@retry 9", captures := ["@id = id"] }) := by
  have divided : Divided greeting ["# greet", "@retry 2"] ["POST /greet", "@retry 9", "[Captures]", "@id = id"] := by
    decide +kernel
  have read : Step.ofBlock greeting 4 = .ok ({ retry := 2, line := 4, raw := greeting, action := .send {
      method := "POST", url := "/greet", body := "@retry 9", captures := ["@id = id"] } }, []) := by
    decide +kernel
  obtain ⟨settings, action, -⟩ := Step.head_and_content_apart divided read
  have waiting : Divided "# greet\n@retry 2\n[Asserts]\n@wait 5" ["# greet", "@retry 2"] ["[Asserts]", "@wait 5"] := by
    decide +kernel
  have named : Divided "@name x\n\nPOST /greet\n@retry 9\n[Captures]\n@id = id" ["@name x", ""]
      ["POST /greet", "@retry 9", "[Captures]", "@id = id"] := by
    decide +kernel
  exact ⟨divided, read, settings waiting 1, fun s warnings => action named⟩

end ApiFlow.Flow
