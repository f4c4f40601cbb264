import ApiFlow.Proofs.Flow.Metadata
import ApiFlow.Proofs.Number.Digits
import Mathlib.Data.List.TakeDrop
import Mathlib.Data.List.TakeWhile

/-!
# Steps that are written and read back

The lines of a step are its directives and its content.  The directives end where the content begins, and the sections
of the content end where their marks say; within a section every line is read as it was written.

* `HeadDraft.Takes` : what directives make of the settings of a step.
* `RequestTemplate.ofBlock_lines`, `CommandTemplate.ofBlock_command` : the two kinds of content.
* `Step.ofBlock_lines` : a whole step.
-/

set_option autoImplicit false

namespace ApiFlow.Flow

variable {key value : Text}

/-! ## Directives -/

/-- The directives in some lines lead from one draft to another. -/
def HeadDraft.Takes (line : Nat) (lines : List Text) (d d' : HeadDraft) : Prop :=
  (directivesIn lines).foldlM (HeadDraft.apply line) d = .ok d'

variable {line : Nat} {d d' d'' : HeadDraft} {first second : List Text}

theorem HeadDraft.Takes.append (one : HeadDraft.Takes line first d d') (two : HeadDraft.Takes line second d' d'') :
    HeadDraft.Takes line (first ++ second) d d'' := by
  unfold HeadDraft.Takes at one two ⊢
  rw [directivesIn_append, List.foldlM_append, one]
  exact two

theorem takes_nil (line : Nat) (d : HeadDraft) : HeadDraft.Takes line [] d d := rfl

/-- A field that is empty leaves the draft as it is, and one that is not is applied. -/
theorem takes_field (word : IsKey key) (inside : IsLine value) (empty : value = [] → d = d')
    (given : value ≠ [] → d.apply line (key, value) = .ok d') : HeadDraft.Takes line (fieldLines key value) d d' := by
  unfold HeadDraft.Takes
  rw [directivesIn_fieldLines word inside]
  by_cases none : value = []
  · rw [if_pos none, empty none]
    rfl
  · rw [if_neg none, List.foldlM_cons, given none]
    rfl

theorem isLine_ofNat (n : Nat) : IsLine (Text.ofNat n) :=
  isLine_of_blankFree (Text.blankFree_ofNat n)

/-- A number that is zero leaves the draft as it is, and one that is not is set. -/
theorem takes_number (set : StepHeader → Nat → StepHeader) {type : Text} {h : StepHeader} {warnings : List Text}
    {n : Int} (word : IsKey key) (fits : 0 ≤ n ∧ (Text.ofInt n).length ≤ Integer.digitLimit)
    (applied : ∀ v, HeadDraft.apply line ⟨type, h, warnings⟩ (key, v) = HeadDraft.number ⟨type, h, warnings⟩ v set)
    (zero : set h 0 = h) :
    HeadDraft.Takes line (numberLines (key, n)) ⟨type, h, warnings⟩ ⟨type, set h n.toNat, warnings⟩ := by
  obtain ⟨natural, short⟩ := fits
  obtain ⟨k, rfl⟩ := Int.eq_ofNat_of_zero_le natural
  by_cases none : k = 0
  · subst none
    rw [show set h (Int.toNat (0 : Nat)) = h from zero]
    exact takes_nil line _
  · have text : Text.ofInt (k : Int) = Text.ofNat k := rfl
    rw [text] at short
    unfold HeadDraft.Takes
    rw [numberLines, if_neg (by simpa using none), text,
      directivesIn_directiveLine word (isLine_ofNat k) (ofNat_ne_nil k), List.foldlM_cons, applied, HeadDraft.number,
      leadingNumber_ofNat short]
    rfl

/-- What the directives of a step warn of. -/
def headWarnings (h : StepHeader) (line : Nat) : List Text := if h.onFail.isEmpty then [] else [onFailWarning line]

/-- The type of a step, as a directive gives it. -/
def typeOf (isCommand : Bool) : Text := if isCommand then "exec" else "http"

theorem takes_type (isCommand : Bool) (line : Nat) (h : StepHeader) :
    HeadDraft.Takes line (fieldLines "type" (if isCommand then "exec" else [])) ⟨"http", h, []⟩
      ⟨typeOf isCommand, h, []⟩ := by
  cases isCommand with
  | false => exact takes_nil line _
  | true =>
      have lower : Text.lower "exec".toList = "exec".toList := by decide +kernel
      have inside : IsLine "exec".toList := by decide
      refine takes_field (by decide) inside nofun fun _ => ?_
      exact congrArg (fun type => Except.ok (⟨type, h, []⟩ : HeadDraft)) lower

/-- The numbers of a step are read one after the other. -/
theorem takes_numbers {h : StepHeader} (good : h.WellFormed) (type : Text) (line : Nat) :
    HeadDraft.Takes line (h.numbers.flatMap numberLines) ⟨type, { id := h.id, name := h.name }, []⟩
      ⟨type, { h with onFail := [] }, []⟩ := by
  obtain ⟨id, name, retry, retryWaitMs, maxDurationMs, waitMs, pollTimeoutMs, pollIntervalMs, timeoutMs, onFail⟩ := h
  have fits := good.numbers
  simp only [StepHeader.numbers, List.forall_mem_cons] at fits
  obtain ⟨fitsRetry, fitsRetryWait, fitsMax, fitsWait, fitsTimeout, fitsPoll, fitsInterval, -⟩ := fits
  obtain ⟨retry, rfl⟩ := Int.eq_ofNat_of_zero_le fitsRetry.1
  obtain ⟨retryWaitMs, rfl⟩ := Int.eq_ofNat_of_zero_le fitsRetryWait.1
  obtain ⟨maxDurationMs, rfl⟩ := Int.eq_ofNat_of_zero_le fitsMax.1
  -- Each number is set in the draft that the numbers before it have left.
  have h₁ : HeadDraft.Takes line (numberLines ("retry", (retry : Int))) ⟨type, { id, name }, []⟩
      ⟨type, { id, name, retry }, []⟩ :=
    takes_number (fun h n => { h with retry := n }) (by decide) fitsRetry (fun _ => rfl) rfl
  have h₂ : HeadDraft.Takes line (numberLines ("retry-wait", (retryWaitMs : Int))) ⟨type, { id, name, retry }, []⟩
      ⟨type, { id, name, retry, retryWaitMs }, []⟩ :=
    takes_number (fun h n => { h with retryWaitMs := n }) (by decide) fitsRetryWait (fun _ => rfl) rfl
  have h₃ : HeadDraft.Takes line (numberLines ("max-duration", (maxDurationMs : Int)))
      ⟨type, { id, name, retry, retryWaitMs }, []⟩ ⟨type, { id, name, retry, retryWaitMs, maxDurationMs }, []⟩ :=
    takes_number (fun h n => { h with maxDurationMs := n }) (by decide) fitsMax (fun _ => rfl) rfl
  have h₄ : HeadDraft.Takes line (numberLines ("wait", (waitMs : Int)))
      ⟨type, { id, name, retry, retryWaitMs, maxDurationMs }, []⟩
      ⟨type, { id, name, retry, retryWaitMs, maxDurationMs, waitMs }, []⟩ :=
    takes_number (fun h n => { h with waitMs := n }) (by decide) fitsWait (fun _ => rfl) rfl
  have h₅ : HeadDraft.Takes line (numberLines ("timeout", (timeoutMs : Int)))
      ⟨type, { id, name, retry, retryWaitMs, maxDurationMs, waitMs }, []⟩
      ⟨type, { id, name, retry, retryWaitMs, maxDurationMs, waitMs, timeoutMs }, []⟩ :=
    takes_number (fun h n => { h with timeoutMs := n }) (by decide) fitsTimeout (fun _ => rfl) rfl
  have h₆ : HeadDraft.Takes line (numberLines ("poll-timeout", (pollTimeoutMs : Int)))
      ⟨type, { id, name, retry, retryWaitMs, maxDurationMs, waitMs, timeoutMs }, []⟩
      ⟨type, { id, name, retry, retryWaitMs, maxDurationMs, waitMs, timeoutMs, pollTimeoutMs }, []⟩ :=
    takes_number (fun h n => { h with pollTimeoutMs := n }) (by decide) fitsPoll (fun _ => rfl) rfl
  have h₇ : HeadDraft.Takes line (numberLines ("poll-interval", (pollIntervalMs : Int)))
      ⟨type, { id, name, retry, retryWaitMs, maxDurationMs, waitMs, timeoutMs, pollTimeoutMs }, []⟩
      ⟨type, { id, name, retry, retryWaitMs, maxDurationMs, waitMs, timeoutMs, pollTimeoutMs, pollIntervalMs }, []⟩ :=
    takes_number (fun h n => { h with pollIntervalMs := n }) (by decide) fitsInterval (fun _ => rfl) rfl
  exact h₁.append (h₂.append (h₃.append (h₄.append (h₅.append (h₆.append (h₇.append (takes_nil line _)))))))

/-- **The directives of a step are read as they were written.** -/
theorem takes_header {h : StepHeader} (good : h.WellFormed) (isCommand : Bool) (line : Nat) :
    HeadDraft.Takes line (h.lines isCommand) {} ⟨typeOf isCommand, h, headWarnings h line⟩ := by
  have takesId : HeadDraft.Takes line (fieldLines "id" h.id) {} ⟨"http", { id := h.id }, []⟩ :=
    takes_field (by decide) good.id (fun none => absurd none good.named) fun _ => rfl
  have takesName : HeadDraft.Takes line (fieldLines "name" h.name) ⟨"http", { id := h.id }, []⟩
      ⟨"http", { id := h.id, name := h.name }, []⟩ :=
    takes_field (by decide) good.name (fun none => by rw [none]) fun _ => rfl
  have takesOnFail : HeadDraft.Takes line (fieldLines "on-fail" h.onFail)
      ⟨typeOf isCommand, { h with onFail := [] }, []⟩ ⟨typeOf isCommand, h, headWarnings h line⟩ := by
    refine takes_field (by decide) good.onFail (fun none => ?_) fun some => ?_
    · rw [headWarnings, none]
      exact congrArg (fun onFail => (⟨typeOf isCommand, { h with onFail }, []⟩ : HeadDraft)) none.symm
    · rw [headWarnings, if_neg (by simpa using some)]
      rfl
  exact (((takesId.append takesName).append (takes_type isCommand line _)).append
    (takes_numbers good (typeOf isCommand) line)).append takesOnFail

/-! ## Sections -/

/-- A step that adds each good item to a list, at a place that it does not leave, adds all good items in order. -/
theorem foldl_collect {σ α : Type} {step : σ → α → σ} (add : σ → List α → σ) (Here : σ → Prop) {Good : α → Prop}
    (nil : ∀ s, add s [] = s) (cons : ∀ s a l, add (add s [a]) l = add s (a :: l))
    (stays : ∀ s a, Here s → Here (add s [a])) (one : ∀ s a, Here s → Good a → step s a = add s [a]) {l : List α}
    (good : ∀ a ∈ l, Good a) {s : σ} (here : Here s) : l.foldl step s = add s l := by
  induction l generalizing s with
  | nil => exact (nil s).symm
  | cons a l ih =>
      obtain ⟨first, others⟩ := List.forall_mem_cons.mp good
      rw [List.foldl_cons, one s a here first, ih others (stays s a here), cons]

theorem sectionOf?_eq_none_iff {trimmed : Text} :
    sectionOf? trimmed = none ↔
      trimmed ≠ capturesMark ∧ trimmed ≠ assertsMark ∧ trimmed ≠ queriesMark ∧ trimmed ≠ headersMark := by
  have opens (here : Prop) [Decidable here] (part : RequestSection) (other : Option RequestSection) :
      (if here then some part else other) = none ↔ ¬ here ∧ other = none := by
    by_cases h : here <;> simp [h]
  rw [sectionOf?, opens, opens, opens, opens]
  simp only [and_true, ne_eq]

theorem mem_sectionLines {mark line : Text} {entries : List Text} (listed : line ∈ sectionLines mark entries) :
    line = mark ∨ line ∈ entries := by
  unfold sectionLines at listed
  split at listed
  · cases listed
  · exact List.mem_cons.mp listed

theorem IsEntry.not_idle {s : Text} (entry : IsEntry s) : isIdle s = false := by
  rw [isIdle, entry.solid]
  simpa using entry.some

/-- The line stands in front of the captures of a step. -/
def IsFront (line : Text) : Prop := Text.trim line ≠ capturesMark ∧ Text.trim line ≠ assertsMark

section Content

variable {c : ContentDraft} {lines entries : List Text}

theorem ContentDraft.foldl_front (front : ∀ l ∈ lines, IsFront l) (part : c.part = .headers) :
    lines.foldl ContentDraft.line c = { c with request := c.request ++ lines } := by
  refine foldl_collect (fun (c : ContentDraft) lines => { c with request := c.request ++ lines })
    (fun c => c.part = .headers) (fun _ => by simp) (fun _ _ _ => by simp) (fun _ _ here => here)
    (fun c l here front => ?_) front part
  rw [ContentDraft.line, if_neg front.1, if_neg front.2, here]

theorem ContentDraft.foldl_captures (tail : ∀ e ∈ entries, IsTail e) (part : c.part = .captures) :
    entries.foldl ContentDraft.line c = { c with captures := c.captures ++ entries } := by
  refine foldl_collect (fun (c : ContentDraft) entries => { c with captures := c.captures ++ entries })
    (fun c => c.part = .captures) (fun _ => by simp) (fun _ _ _ => by simp) (fun _ _ here => here)
    (fun c e here tail => ?_) tail part
  rw [ContentDraft.line, tail.trimmed, if_neg tail.captures, if_neg tail.asserts, here]
  exact if_neg (by simp [tail.not_idle])

theorem ContentDraft.foldl_asserts (tail : ∀ e ∈ entries, IsTail e) (part : c.part = .asserts) :
    entries.foldl ContentDraft.line c = { c with asserts := c.asserts ++ entries } := by
  refine foldl_collect (fun (c : ContentDraft) entries => { c with asserts := c.asserts ++ entries })
    (fun c => c.part = .asserts) (fun _ => by simp) (fun _ _ _ => by simp) (fun _ _ here => here)
    (fun c e here tail => ?_) tail part
  rw [ContentDraft.line, tail.trimmed, if_neg tail.captures, if_neg tail.asserts, here]
  exact if_neg (by simp [tail.not_idle])

/-- **The sections of the content of a step**: what stands in front, the captures and the assertions. -/
theorem ContentDraft.foldl_content {captures asserts : List Text} (front : ∀ l ∈ lines, IsFront l)
    (tailCaptures : ∀ e ∈ captures, IsTail e) (tailAsserts : ∀ e ∈ asserts, IsTail e) :
    ∃ part,
      (lines ++ sectionLines capturesMark captures ++ sectionLines assertsMark asserts).foldl ContentDraft.line {} =
        { part, request := lines, captures, asserts } := by
  -- A section without entries has no mark, so the place in which it ends depends on the sections before it.
  have first : lines.foldl ContentDraft.line {} = { request := lines } := foldl_front front rfl
  have second : ∃ part, (sectionLines capturesMark captures).foldl ContentDraft.line { request := lines } =
      { part, request := lines, captures } := by
    by_cases none : captures = []
    · subst none
      exact ⟨.headers, rfl⟩
    · rw [sectionLines, if_neg (by simpa using none), List.foldl_cons]
      exact ⟨.captures, foldl_captures tailCaptures rfl⟩
  obtain ⟨part, second⟩ := second
  have third : ∃ part',
      (sectionLines assertsMark asserts).foldl ContentDraft.line { part, request := lines, captures } =
        { part := part', request := lines, captures, asserts } := by
    by_cases none : asserts = []
    · subst none
      exact ⟨part, rfl⟩
    · rw [sectionLines, if_neg (by simpa using none), List.foldl_cons]
      exact ⟨.asserts, foldl_asserts tailAsserts rfl⟩
  obtain ⟨part', third⟩ := third
  exact ⟨part', by rw [List.foldl_append, List.foldl_append, first, second, third]⟩

end Content

/-! ## Requests -/

theorem sectionOf?_of_startsBody {h : Text} (header : startsBody h = false) : sectionOf? h = none := by
  have apart (mark : Text) (starts : startsBody mark = true) : h ≠ mark := fun same => by
    rw [same, starts] at header
    cases header
  exact sectionOf?_eq_none_iff.mpr
    ⟨apart _ (by decide), apart _ (by decide), apart _ (by decide), apart _ (by decide)⟩

section Request

variable {r : RequestTemplate} {d : RequestDraft} {lines : List Text}

theorem RequestDraft.foldl_headers (good : ∀ h ∈ lines, IsEntry h ∧ startsBody h = false) (part : d.part = .headers) :
    lines.foldl RequestDraft.line d =
      { d with template := { d.template with headers := d.template.headers ++ lines } } := by
  refine foldl_collect
    (fun (d : RequestDraft) lines => { d with template := { d.template with headers := d.template.headers ++ lines } })
    (fun d => d.part = .headers) (fun _ => by simp) (fun _ _ _ => by simp) (fun _ _ here => here)
    (fun d h here good => ?_) good part
  obtain ⟨entry, header⟩ := good
  rw [RequestDraft.line, entry.trimmed, sectionOf?_of_startsBody header, here]
  dsimp only
  rw [if_neg (by simpa using entry.some), if_neg (by simp [entry.solid]), if_neg (by simp [header])]

theorem RequestDraft.foldl_queries (good : ∀ q ∈ lines, IsEntry q ∧ sectionOf? q = none ∧ tidyQuery q = q)
    (part : d.part = .queries) :
    lines.foldl RequestDraft.line d =
      { d with template := { d.template with queries := d.template.queries ++ lines } } := by
  refine foldl_collect
    (fun (d : RequestDraft) lines => { d with template := { d.template with queries := d.template.queries ++ lines } })
    (fun d => d.part = .queries) (fun _ => by simp) (fun _ _ _ => by simp) (fun _ _ here => here)
    (fun d q here good => ?_) good part
  obtain ⟨entry, plain, tidy⟩ := good
  rw [RequestDraft.line, entry.trimmed, plain, here]
  dsimp only
  rw [if_neg (by simpa using entry.some), if_neg (by simp [entry.solid]), tidy]

theorem RequestDraft.foldl_body (good : ∀ l ∈ lines, sectionOf? (Text.trim l) = none) (part : d.part = .body) :
    lines.foldl RequestDraft.line d = { d with body := d.body ++ lines } := by
  refine foldl_collect (fun (d : RequestDraft) lines => { d with body := d.body ++ lines }) (fun d => d.part = .body)
    (fun _ => by simp) (fun _ _ _ => by simp) (fun _ _ here => here) (fun d l here good => ?_) good part
  rw [RequestDraft.line, good, here]

/-- A blank line behind headers or queries begins the body. -/
theorem RequestDraft.line_blank (part : d.part = .headers ∨ d.part = .queries) :
    d.line [] = { d with part := .body } := by
  have none : sectionOf? (Text.trim []) = none := rfl
  rcases part with here | here <;> (rw [RequestDraft.line, none, here]; rfl)

/-- **The lines below the request line are read as they were written.** -/
theorem RequestDraft.foldl_lines (good : r.WellFormed) :
    ((r.headers ++ sectionLines queriesMark r.queries ++ bodyLines r.body).foldl RequestDraft.line
      ⟨.headers, [], { method := r.method, url := r.url }⟩).finish = { r with captures := [], asserts := [] } := by
  have first : r.headers.foldl RequestDraft.line ⟨.headers, [], { method := r.method, url := r.url }⟩ =
      ⟨.headers, [], { method := r.method, url := r.url, headers := r.headers }⟩ := foldl_headers good.headers rfl
  have second : ∃ part, (part = .headers ∨ part = .queries) ∧
      (sectionLines queriesMark r.queries).foldl RequestDraft.line
        ⟨.headers, [], { method := r.method, url := r.url, headers := r.headers }⟩ =
      ⟨part, [], { method := r.method, url := r.url, headers := r.headers, queries := r.queries }⟩ := by
    by_cases none : r.queries = []
    · rw [none]
      exact ⟨.headers, .inl rfl, rfl⟩
    · rw [sectionLines, if_neg (by simpa using none), List.foldl_cons]
      exact ⟨.queries, .inr rfl, foldl_queries good.queries rfl⟩
  obtain ⟨part, place, second⟩ := second
  rw [List.foldl_append, List.foldl_append, first, second]
  -- A body begins behind a blank line, which ends the headers and the queries alike.
  by_cases none : r.body = []
  · have empty : bodyLines r.body = [] := by rw [none]; rfl
    rw [empty, List.foldl_nil, RequestDraft.finish]
    exact congrArg (fun body => ({ method := r.method, url := r.url, headers := r.headers, queries := r.queries, body } :
      RequestTemplate)) none.symm
  · rw [bodyLines, if_neg (by simpa using none), List.foldl_cons, line_blank place, foldl_body good.plain rfl,
      RequestDraft.finish]
    have whole : Text.trim (Text.join ['\n'] (Text.splitAt '\n' r.body)) = r.body := by
      rw [Text.join_splitAt, good.body.trimmed]
    exact congrArg (fun body => ({ method := r.method, url := r.url, headers := r.headers, queries := r.queries, body } :
      RequestTemplate)) whole

/-- The request line keeps its place, and is no comment, no directive and no mark of a section. -/
theorem requestLine_fits (good : r.WellFormed) :
    IsEntry (r.method ++ ' ' :: r.url) ∧ isDirective (r.method ++ ' ' :: r.url) = false ∧
      IsFront (r.method ++ ' ' :: r.url) := by
  obtain ⟨someMethod, plainMethod⟩ := good.method
  obtain ⟨someUrl, plainUrl⟩ := good.url
  have method : IsLine r.method := isLine_of_blankFree plainMethod.blankFree
  have url : IsLine r.url := isLine_of_blankFree plainUrl.blankFree
  have line : IsLine (r.method ++ ' ' :: r.url) := method.append someMethod url someUrl [' '] (by decide)
  have apart {mark : Text} (word : ' ' ∉ mark) : Text.trim (r.method ++ ' ' :: r.url) ≠ mark := by
    rw [line.trimmed]
    exact fun same => word (same ▸ by simp)
  obtain ⟨comment, directive⟩ := good.start
  obtain ⟨c, m, cons⟩ := List.exists_cons_of_ne_nil someMethod
  rw [cons] at comment directive
  refine ⟨⟨line, by simp, ?_⟩, ?_, apart (by decide), apart (by decide)⟩
  · rw [cons]
    exact comment
  · rw [cons]
    exact directive

/-- The lines of a body keep their place. -/
theorem lineFree_of_mem_splitAt {s line : Text} (inside : IsLines s) (listed : line ∈ Text.splitAt '\n' s) :
    Text.LineFree line := by
  refine fun c member => Bool.eq_false_iff.mpr fun boundary => ?_
  obtain ⟨origin, other⟩ := Text.mem_of_mem_splitAt listed member
  exact other (inside.feeds c origin boundary)

theorem isEntry_queriesMark : IsEntry queriesMark := by decide

/-- The lines of a request in front of its body are entries, and no mark of captures or assertions is among them. -/
theorem frontLines_fit (good : r.WellFormed) :
    ∀ line ∈ (r.method ++ ' ' :: r.url) :: (r.headers ++ sectionLines queriesMark r.queries),
      IsEntry line ∧ IsFront line := by
  have front {line : Text} (entry : IsEntry line) (plain : sectionOf? line = none) : IsFront line := by
    obtain ⟨captures, asserts, -⟩ := sectionOf?_eq_none_iff.mp plain
    exact ⟨entry.trimmed.symm ▸ captures, entry.trimmed.symm ▸ asserts⟩
  refine List.forall_mem_cons.mpr ⟨⟨(requestLine_fits good).1, (requestLine_fits good).2.2⟩, ?_⟩
  refine List.forall_mem_append.mpr ⟨fun h listed => ?_, fun line listed => ?_⟩
  · obtain ⟨entry, header⟩ := good.headers h listed
    exact ⟨entry, front entry (sectionOf?_of_startsBody header)⟩
  · rcases mem_sectionLines listed with rfl | listed
    · exact ⟨isEntry_queriesMark, by decide, by decide⟩
    · obtain ⟨entry, plain, -⟩ := good.queries line listed
      exact ⟨entry, front entry plain⟩

theorem RequestTemplate.lines_eq (r : RequestTemplate) :
    r.lines = ((r.method ++ ' ' :: r.url) :: (r.headers ++ sectionLines queriesMark r.queries)) ++ bodyLines r.body :=
  rfl

theorem requestLines_fit (good : r.WellFormed) : ∀ line ∈ r.lines, Text.LineFree line ∧ IsFront line := by
  rw [RequestTemplate.lines_eq]
  refine List.forall_mem_append.mpr ⟨fun line listed => ?_, fun line listed => ?_⟩
  · obtain ⟨entry, front⟩ := frontLines_fit good line listed
    exact ⟨entry.free, front⟩
  · unfold bodyLines at listed
    split at listed
    · cases listed
    · rcases List.mem_cons.mp listed with rfl | listed
      · exact ⟨nofun, by decide, by decide⟩
      · obtain ⟨captures, asserts, -⟩ := sectionOf?_eq_none_iff.mp (good.plain line listed)
        exact ⟨lineFree_of_mem_splitAt good.body listed, captures, asserts⟩

/-- The text of a request has no blank at either end. -/
theorem trim_requestText (good : r.WellFormed) : Text.trim (Text.join ['\n'] r.lines) = Text.join ['\n'] r.lines := by
  have line : IsEntry (r.method ++ ' ' :: r.url) := (requestLine_fits good).1
  have start := Text.solidStart_join ['\n'] line.some (Text.trim_eq_self_iff.mp line.trimmed).1
  have ends := Text.solidEnd_join ['\n'] (List.cons_ne_nil _ _) fun line listed =>
    ⟨(frontLines_fit good line listed).1.some, (Text.trim_eq_self_iff.mp (frontLines_fit good line listed).1.trimmed).2⟩
  refine Text.trim_eq_self_iff.mpr ⟨start _, ?_⟩
  rw [RequestTemplate.lines_eq]
  by_cases none : r.body = []
  · have empty : bodyLines r.body = [] := by rw [none]; rfl
    rw [empty, List.append_nil]
    exact ends.2
  · -- The end of the text is the end of the body.
    rw [bodyLines, if_neg (by simpa using none), Text.join_append _ (by simp) (by simp),
      Text.join_cons _ _ (Text.splitAt_ne_nil _ _), Text.join_splitAt]
    have body : Text.SolidEnd r.body := (Text.trim_eq_self_iff.mp good.body.trimmed).2
    exact Text.solidEnd_append _ (by simp) (Text.solidEnd_append _ (by simp)
      (Text.solidEnd_append _ (by simp) (Text.solidEnd_append _ none body)))

/-- **A request is read as it was written**, its captures and assertions aside. -/
theorem RequestTemplate.ofBlock_lines (good : r.WellFormed) :
    RequestTemplate.ofBlock (Text.join ['\n'] r.lines) = .ok { r with captures := [], asserts := [] } := by
  have split : Text.splitAt '\n' (Text.join ['\n'] r.lines) = r.lines :=
    Text.splitAt_join (by simp [RequestTemplate.lines]) fun line listed => (requestLines_fit good line listed).1.newline
  have line : IsEntry (r.method ++ ' ' :: r.url) := (requestLine_fits good).1
  have first : r.lines.dropWhile (fun line => isIdle (Text.trim line)) = r.lines := by
    rw [RequestTemplate.lines, List.dropWhile_cons, if_neg (by simp [line.trimmed, line.not_idle])]
  have arguments : Text.arguments (Text.trim (r.method ++ ' ' :: r.url)) = [r.method, r.url] := by
    rw [line.trimmed, Text.arguments_pair good.method.1 good.url.1 good.method.2 good.url.2]
  rw [RequestTemplate.ofBlock, split, first, RequestTemplate.lines]
  dsimp only
  rw [arguments]
  dsimp only
  rw [good.upper, RequestDraft.foldl_lines good]

/-- **A request is put together again** from its lines, its captures and its assertions. -/
theorem ContentDraft.send_lines (good : r.WellFormed) (part : RequestSection) (line : Nat) :
    ContentDraft.send ⟨part, r.lines, r.captures, r.asserts⟩ line = (r, []) := by
  have text : ContentDraft.requestText ⟨part, r.lines, r.captures, r.asserts⟩ = Text.join ['\n'] r.lines :=
    trim_requestText good
  have some : Text.join ['\n'] r.lines ≠ [] := Text.join_ne_nil _ (requestLine_fits good).1.some _
  rw [ContentDraft.send, text, if_neg (by simpa using some), RequestTemplate.ofBlock_lines good]
  rfl

end Request

/-! ## Commands -/

section Command

variable {c : CommandTemplate}

theorem commandLines_fit (good : c.WellFormed) : ∀ line ∈ c.lines, Text.LineFree line ∧ IsFront line := by
  unfold CommandTemplate.lines
  split
  · exact List.forall_mem_nil _
  · exact fun line listed => ⟨lineFree_of_mem_splitAt good.command listed, good.plain line listed⟩

/-- The text of a command is the command. -/
theorem commandText (good : c.WellFormed) : Text.trim (Text.join ['\n'] c.lines) = c.command := by
  unfold CommandTemplate.lines
  split
  · rename_i none
    rw [List.isEmpty_iff.mp none]
    rfl
  · rw [Text.join_splitAt, good.command.trimmed]

/-- **A command is read as it was written**, with no captures of its own. -/
theorem CommandTemplate.ofBlock_command (good : c.WellFormed) :
    CommandTemplate.ofBlock c.command = { command := c.command } := by
  have front : ∀ line ∈ Text.splitAt '\n' c.command, (Text.trim line != capturesMark) = true :=
    fun line listed => by simpa using (good.plain line listed).1
  rw [CommandTemplate.ofBlock, List.span_eq_takeWhile_dropWhile, List.takeWhile_eq_self_iff.mpr front,
    List.dropWhile_eq_nil_iff.mpr front]
  dsimp only
  rw [Text.join_splitAt, good.command.trimmed]
  rfl

/-- Without a number sign nothing of a capture is a comment. -/
theorem withoutComment_of_free {entry : Text} (line : IsLine entry) (free : '#' ∉ entry) :
    withoutComment entry = entry := by
  have all : ∀ c ∈ entry, (c != '#') = true := fun c member => by
    have other : c ≠ '#' := fun same => free (same ▸ member)
    simpa using other
  rw [withoutComment, List.takeWhile_eq_self_iff.mpr all, line.trimmed]

/-- **A command is put together again** from its lines, its captures and its assertions. -/
theorem ContentDraft.command_lines (good : c.WellFormed) (part : RequestSection) :
    ContentDraft.command ⟨part, c.lines, c.captures, c.asserts⟩ = c := by
  have captures : c.captures.map withoutComment = c.captures := by
    refine (List.map_congr_left fun entry listed => ?_).trans (List.map_id c.captures)
    exact withoutComment_of_free (good.captures entry listed).1.toIsLine (good.captures entry listed).2
  rw [ContentDraft.command, ContentDraft.requestText, commandText good, CommandTemplate.ofBlock_command good]
  dsimp only
  rw [captures]
  rfl

end Command

/-! ## Steps -/

section Step

variable {fence : Text} {s : Step}

/-- Every line of the directives of a step is a directive. -/
theorem isField_of_mem_headerLines {h : StepHeader} (good : h.WellFormed) {isCommand : Bool} {line : Text}
    (listed : line ∈ h.lines isCommand) : IsField line := by
  simp only [StepHeader.lines, List.mem_append] at listed
  rcases listed with (((id | name) | type) | number) | onFail
  · exact isField_of_mem_fieldLines (by decide) good.id id
  · exact isField_of_mem_fieldLines (by decide) good.name name
  · have inside : IsLine (if isCommand then "exec".toList else []) := by
      cases isCommand
      · exact isLine_nil
      · decide
    exact isField_of_mem_fieldLines (by decide) inside type
  · obtain ⟨n, member, field⟩ := List.mem_flatMap.mp number
    have keys : ∀ key ∈ h.numbers.map Prod.fst, IsKey key := by
      show ∀ key ∈ (["retry", "retry-wait", "max-duration", "wait", "timeout", "poll-timeout", "poll-interval"] :
        List String).map String.toList, IsKey key
      decide
    have text : Text.ofInt n.2 = Text.ofNat n.2.natAbs := if_neg (by have := (good.numbers n member).1; omega)
    unfold numberLines at field
    split at field
    · cases field
    · rw [text] at field
      exact ⟨n.1, _, keys _ (List.mem_map_of_mem member), isLine_ofNat _, ofNat_ne_nil _, List.mem_singleton.mp field⟩
  · exact isField_of_mem_fieldLines (by decide) good.onFail onFail

/-- The parts of what a step does: its own lines stand in front, and its entries below. -/
theorem actionLines_fit (good : s.action.WellFormed) :
    (∀ line ∈ s.action.lines, Text.LineFree line ∧ IsFront line) ∧ (∀ e ∈ s.captures, IsTail e) ∧
      ∀ e ∈ s.asserts, IsTail e := by
  unfold Step.captures Step.asserts
  cases action : s.action with
  | send r =>
      rw [action] at good
      exact ⟨requestLines_fit good, good.captures, good.asserts⟩
  | run c =>
      rw [action] at good
      exact ⟨commandLines_fit good, fun e listed => (good.captures e listed).1, good.asserts⟩

theorem lineFree_of_mem_sectionLines {mark : Text} {entries : List Text} (free : Text.LineFree mark)
    (tail : ∀ e ∈ entries, IsTail e) {line : Text} (listed : line ∈ sectionLines mark entries) :
    Text.LineFree line := by
  rcases mem_sectionLines listed with rfl | listed
  · exact free
  · exact (tail line listed).free

theorem lineFree_of_mem_content (good : s.action.WellFormed) {line : Text} (listed : line ∈ s.content) :
    Text.LineFree line := by
  obtain ⟨front, captures, asserts⟩ := actionLines_fit good
  simp only [Step.content, List.mem_append] at listed
  rcases listed with (listed | listed) | listed
  · exact (front line listed).1
  · exact lineFree_of_mem_sectionLines (by decide) captures listed
  · exact lineFree_of_mem_sectionLines (by decide) asserts listed

/-- The first line of a command begins as the command does. -/
theorem not_isHeadLine_of_command {c : CommandTemplate} (good : c.WellFormed) (some : c.command ≠ []) :
    ∀ line ∈ (Text.splitAt '\n' c.command).head?, isHeadLine line = false := by
  obtain ⟨first, command, whole⟩ := List.exists_cons_of_ne_nil some
  obtain ⟨comment, directive⟩ := good.start
  have solid : Text.isBlank first = false :=
    (Text.trim_eq_self_iff.mp good.command.trimmed).1 first (by rw [whole]; rfl)
  have inside : first ≠ '\n' := fun feed => absurd solid (by rw [feed]; decide)
  obtain ⟨rest, head⟩ := Text.head?_splitAt_cons inside command
  obtain ⟨rest', trimmed⟩ := Text.trim_cons solid rest
  have comment' : isComment (first :: rest') = false := by rwa [whole] at comment
  have directive' : isDirective (first :: rest') = false := by rwa [whole] at directive
  rw [whole, head]
  rintro line ⟨⟩
  rw [isHeadLine, trimmed, isIdle, comment', directive']
  rfl

/-- **The content of a step does not begin with a directive, a comment or a blank line.** -/
theorem not_isHeadLine_of_content (good : s.action.WellFormed) : ∀ line ∈ s.content.head?, isHeadLine line = false := by
  have mark {mark : Text} (entries : List Text) (text : isHeadLine mark = false) :
      ∀ line ∈ (sectionLines mark entries).head?, isHeadLine line = false := by
    unfold sectionLines
    split
    · exact nofun
    · rintro line ⟨⟩
      exact text
  have action : ∀ line ∈ s.action.lines.head?, isHeadLine line = false := by
    cases action : s.action with
    | send r =>
        rw [action] at good
        obtain ⟨line, directive, -⟩ := requestLine_fits good
        rintro first ⟨⟩
        rw [isHeadLine, line.trimmed, line.not_idle, directive]
        rfl
    | run c =>
        rw [action] at good
        unfold Action.lines CommandTemplate.lines
        dsimp only
        split
        · exact nofun
        · rename_i some
          exact not_isHeadLine_of_command good (by simpa using some)
  -- A step that does nothing has content all the same if it has captures or assertions.
  intro line first
  simp only [Step.content, List.head?_append, Option.mem_def, Option.or_eq_some_iff] at first
  rcases first with (first | ⟨-, first⟩) | ⟨-, first⟩
  · exact action line first
  · exact mark s.captures (by decide) line first
  · exact mark s.asserts (by decide) line first

/-- A step is split where its content begins. -/
theorem headLines_lines (good : s.WellFormed fence) :
    headLines (Text.join ['\n'] s.lines) = s.toStepHeader.lines s.isCommand ∧
      contentLines (Text.join ['\n'] s.lines) = s.content := by
  have free : ∀ line ∈ s.lines, Text.LineFree line := List.forall_mem_append.mpr
    ⟨fun line listed => (isField_of_mem_headerLines good.header listed).fits.1,
      fun line listed => lineFree_of_mem_content good.action listed⟩
  have id : fieldLines "id" s.id ≠ [] := by
    rw [fieldLines, if_neg (by simpa using good.header.named)]
    exact List.cons_ne_nil _ _
  have some : s.lines ≠ [] := by
    simp only [Step.lines, StepHeader.lines, ne_eq, List.append_eq_nil_iff, id, false_and, not_false_eq_true]
  have head : ∀ line ∈ s.toStepHeader.lines s.isCommand, isHeadLine line = true := fun line listed => by
    rw [isHeadLine, (isField_of_mem_headerLines good.header listed).fits.2.1, Bool.or_true]
  have split := Text.splitAt_join some fun line listed => (free line listed).newline
  rw [headLines, contentLines, split, Step.lines]
  exact Text.takeWhile_dropWhile_append head (not_isHeadLine_of_content good.action)

/-- **A step is read as it was written**, at the line where it stands.  The only warning is for a directive without
effect. -/
theorem Step.ofBlock_lines (good : s.WellFormed fence) (line : Nat) :
    Step.ofBlock (Text.join ['\n'] s.lines) line =
      .ok ({ s with line, raw := Text.join ['\n'] s.lines }, headWarnings s.toStepHeader line) := by
  obtain ⟨head, content⟩ := headLines_lines good
  have directives : (headDirectives (Text.join ['\n'] s.lines)).foldlM (HeadDraft.apply line) {} =
      .ok ⟨typeOf s.isCommand, s.toStepHeader, headWarnings s.toStepHeader line⟩ := by
    rw [headDirectives, head]
    exact takes_header good.header s.isCommand line
  obtain ⟨front, captures, asserts⟩ := actionLines_fit good.action
  obtain ⟨part, sections⟩ := ContentDraft.foldl_content (fun line listed => (front line listed).2) captures asserts
  rw [Step.ofBlock, directives]
  dsimp only
  rw [ContentDraft.ofBlock, content, Step.content, sections]
  obtain ⟨header, _, _, action⟩ := s
  cases action with
  | send r =>
      have send : ContentDraft.send ⟨part, Action.lines (.send r), r.captures, r.asserts⟩ line = (r, []) :=
        ContentDraft.send_lines good.action part line
      have known : typeWarnings (typeOf false) line = [] := rfl
      unfold Step.captures Step.asserts Step.isCommand
      dsimp only
      rw [if_neg (by decide), send, known]
      simp only [List.append_nil]
  | run c =>
      have command : ContentDraft.command ⟨part, Action.lines (.run c), c.captures, c.asserts⟩ = c :=
        ContentDraft.command_lines good.action part
      unfold Step.captures Step.asserts Step.isCommand
      dsimp only
      rw [if_pos (by decide), command]

end Step

end ApiFlow.Flow
