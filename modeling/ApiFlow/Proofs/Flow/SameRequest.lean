import ApiFlow.Proofs.Flow.StepText

/-!
# Requests in steps and requests by themselves

A step sends the request that its block would be by itself, where nothing but the sections at its end tells the two
readings apart: the step splits captures and assertions off and reads the rest as a request, and the request reads its
sections as they come.

* `RequestTemplate.ofBlock_trim` : blanks at the ends of a block do not count.
* `Tail.line`, `Tail.foldl` : the two readings of the sections at the end, line by line and for all lines.
* `Step.ofBlock_request` : both readings of a whole block.
-/

set_option autoImplicit false

namespace ApiFlow.Flow

/-! ## Blanks at the ends -/

/-- Reads the lines of a request. -/
def RequestTemplate.ofLines (lines : List Text) : Except RequestError RequestTemplate :=
  match lines.dropWhile (fun line => isIdle (Text.trim line)) with
  | [] => .error .emptyBlock
  | first :: lines =>
    match Text.arguments (Text.trim first) with
    | method :: url :: _ =>
      .ok (lines.foldl RequestDraft.line ⟨.headers, [], { method := Text.upper method, url }⟩).finish
    | _ => .error (.requestLine (Text.trim first))

theorem RequestTemplate.ofBlock_eq (raw : Text) :
    RequestTemplate.ofBlock raw = RequestTemplate.ofLines (Text.splitAt '\n' raw) := rfl

section Blank

variable {c : Char} (blank : Text.isBlank c = true)
include blank

/-- A blank at the end of a body does not count. -/
theorem RequestDraft.finish_body (d : RequestDraft) {body body' : List Text}
    (longer : Text.join ['\n'] body' = Text.join ['\n'] body ++ [c]) :
    RequestDraft.finish { d with body := body' } = RequestDraft.finish { d with body } := by
  rw [RequestDraft.finish, RequestDraft.finish, longer, Text.trim_concat_blank blank]

/-- A blank at the end of the last line does not count. -/
theorem RequestDraft.finish_line (d : RequestDraft) (line : Text) :
    (d.line (line ++ [c])).finish = (d.line line).finish := by
  obtain ⟨part, body, template⟩ := d
  have longer : Text.join ['\n'] (body ++ [line ++ [c]]) = Text.join ['\n'] (body ++ [line]) ++ [c] :=
    Text.join_concat _ _ _ _
  rw [RequestDraft.line, RequestDraft.line, Text.trim_concat_blank blank]
  cases sectionOf? (Text.trim line) with
  | some part => rfl
  | none =>
      cases part with
      | headers =>
          dsimp only
          split
          · rfl
          · split
            · rfl
            · split
              · exact RequestDraft.finish_body blank ⟨.body, body, template⟩ longer
              · rfl
      | body => exact RequestDraft.finish_body blank ⟨.body, body, template⟩ longer
      | _ => rfl

end Blank

/-- An empty line at the end does not count. -/
theorem RequestDraft.finish_empty (d : RequestDraft) : (d.line []).finish = d.finish := by
  have none : sectionOf? (Text.trim []) = none := rfl
  obtain ⟨part, body, template⟩ := d
  rw [RequestDraft.line, none]
  cases part with
  | body =>
      by_cases empty : body = []
      · rw [empty]
        rfl
      · exact RequestDraft.finish_body (c := '\n') (by decide) ⟨.body, body, template⟩ (Text.join_append _ empty (by simp))
  | _ => rfl

namespace RequestTemplate

theorem ofLines_concat_empty (front : List Text) : ofLines (front ++ [[]]) = ofLines front := by
  unfold ofLines
  rw [List.dropWhile_append]
  cases front.dropWhile (fun line => isIdle (Text.trim line)) with
  | nil => rfl
  | cons first rest =>
      dsimp only [List.isEmpty_cons]
      rw [if_neg (by decide), List.cons_append]
      dsimp only
      simp only [List.foldl_append, List.foldl_cons, List.foldl_nil, RequestDraft.finish_empty]

theorem ofLines_concat_blank {c : Char} (blank : Text.isBlank c = true) (front : List Text) (line : Text) :
    ofLines (front ++ [line ++ [c]]) = ofLines (front ++ [line]) := by
  have same := Text.trim_concat_blank blank line
  unfold ofLines
  rw [List.dropWhile_append, List.dropWhile_append]
  cases front.dropWhile (fun line => isIdle (Text.trim line)) with
  | nil =>
      dsimp only [List.isEmpty_nil]
      rw [if_pos rfl, if_pos rfl, List.dropWhile_cons, List.dropWhile_cons, same]
      cases isIdle (Text.trim line) with
      | true => rfl
      | false =>
          rw [if_neg (by decide), if_neg (by decide)]
          dsimp only
          rw [same]
  | cons first rest =>
      dsimp only [List.isEmpty_cons]
      rw [if_neg (by decide), if_neg (by decide), List.cons_append, List.cons_append]
      dsimp only
      simp only [List.foldl_append, List.foldl_cons, List.foldl_nil, RequestDraft.finish_line blank]

theorem ofLines_request {first method url : Text} {others : List Text} (busy : isIdle (Text.trim first) = false)
    (arguments : Text.arguments (Text.trim first) = method :: url :: others) (rest : List Text) :
    ofLines (first :: rest) =
      .ok (rest.foldl RequestDraft.line ⟨.headers, [], { method := Text.upper method, url }⟩).finish := by
  rw [ofLines, List.dropWhile_cons, if_neg (by simp [busy])]
  dsimp only
  rw [arguments]

theorem ofLines_idle {line : Text} (idle : isIdle (Text.trim line) = true) (rest : List Text) :
    ofLines (line :: rest) = ofLines rest := by
  rw [ofLines, List.dropWhile_cons, if_pos idle, ofLines]

/-- The first line is read without the blanks at its ends. -/
theorem ofLines_trim {line line' : Text} (same : Text.trim line = Text.trim line') (rest : List Text) :
    ofLines (line :: rest) = ofLines (line' :: rest) := by
  by_cases idle : isIdle (Text.trim line) = true
  · rw [ofLines_idle idle, ofLines_idle (same ▸ idle)]
  · unfold ofLines
    rw [List.dropWhile_cons, List.dropWhile_cons, if_neg idle, if_neg (same ▸ idle)]
    dsimp only
    rw [same]

/-- **Blanks at the ends of a block do not count.** -/
theorem ofBlock_trim (raw : Text) : ofBlock (Text.trim raw) = ofBlock raw := by
  refine Text.eq_of_trim (fun c s blank => ?_) (fun s c blank => ?_) raw
  · rw [ofBlock_eq, ofBlock_eq, Text.splitAt, Text.splitAt, Text.splitWhere]
    split
    · exact ofLines_idle rfl _
    · obtain ⟨line, rest, fields⟩ := List.exists_cons_of_ne_nil (Text.splitWhere_ne_nil (fun x => decide (x = '\n')) s)
      rw [fields]
      exact ofLines_trim (Text.trim_blank_cons blank line) rest
  · rw [ofBlock_eq, ofBlock_eq]
    by_cases feed : c = '\n'
    · rw [feed, Text.splitAt_concat_mark, ofLines_concat_empty]
    · obtain ⟨front, last, short, long⟩ := Text.splitAt_concat feed s
      rw [short, long, ofLines_concat_blank blank]

end RequestTemplate

/-! ## Sections at the end -/

/-- The line goes back from the captures or the assertions to the front of a request. -/
def ReopensFront (line : Text) : Prop := Text.trim line = queriesMark ∨ Text.trim line = headersMark

instance (line : Text) : Decidable (ReopensFront line) := inferInstanceAs (Decidable (_ ∨ _))

instance (line : Text) : Decidable (IsFront line) := inferInstanceAs (Decidable (_ ∧ _))

/-- Below the first mark of captures or assertions no line goes back to the front. -/
def SectionsLast (lines : List Text) : Prop := lines.Pairwise fun above below => ¬ IsFront above → ¬ ReopensFront below

instance (lines : List Text) : Decidable (SectionsLast lines) := inferInstanceAs (Decidable (List.Pairwise _ _))

/-- Both readings of the lines below the front: the request reads on from its draft of the front, and the step keeps the
lines of the front as they are. -/
structure SameTail (front : RequestDraft) (lines : List Text) (d : RequestDraft) (c : ContentDraft) : Prop where
  part : d.part = c.part
  place : c.part = .captures ∨ c.part = .asserts
  body : d.body = front.body
  template : d.template = { front.template with
    captures := front.template.captures ++ c.captures
    asserts := front.template.asserts ++ c.asserts }
  request : c.request = lines

namespace SameTail

variable {front d : RequestDraft} {lines : List Text} {c : ContentDraft} {l : Text}

/-- The first mark of captures or assertions ends the front in both readings. -/
theorem enter (front : RequestDraft) (lines : List Text) (mark : ¬ IsFront l) :
    SameTail front lines (front.line l) (ContentDraft.line { request := lines } l) := by
  have template : front.template = { front.template with
      captures := front.template.captures ++ [], asserts := front.template.asserts ++ [] } := by simp
  by_cases captures : Text.trim l = capturesMark
  · rw [RequestDraft.line, ContentDraft.line, captures]
    exact ⟨rfl, .inl rfl, rfl, template, rfl⟩
  · have asserts : Text.trim l = assertsMark := by
      by_contra other
      exact mark ⟨captures, other⟩
    rw [RequestDraft.line, ContentDraft.line, asserts]
    exact ⟨rfl, .inr rfl, rfl, template, rfl⟩

/-- **Both readings take in the same entry**, or go to the same section. -/
theorem line (same : SameTail front lines d c) (stays : ¬ ReopensFront l) :
    SameTail front lines (d.line l) (c.line l) := by
  obtain ⟨queries, headers⟩ := not_or.mp stays
  by_cases captures : Text.trim l = capturesMark
  · rw [RequestDraft.line, ContentDraft.line, captures]
    exact ⟨rfl, .inl rfl, same.body, same.template, same.request⟩
  · by_cases asserts : Text.trim l = assertsMark
    · rw [RequestDraft.line, ContentDraft.line, asserts]
      exact ⟨rfl, .inr rfl, same.body, same.template, same.request⟩
    · have plain := sectionOf?_eq_none_iff.mpr ⟨captures, asserts, queries, headers⟩
      rw [RequestDraft.line, ContentDraft.line, plain, if_neg captures, if_neg asserts]
      rcases same.place with place | place
      · rw [same.part, place]
        dsimp only
        split
        · exact same
        · exact ⟨rfl, .inl rfl, same.body, by simp [same.template], same.request⟩
      · rw [same.part, place]
        dsimp only
        split
        · exact same
        · exact ⟨rfl, .inr rfl, same.body, by simp [same.template], same.request⟩

theorem foldl {rest : List Text} (same : SameTail front lines d c) (stays : ∀ l ∈ rest, ¬ ReopensFront l) :
    SameTail front lines (rest.foldl RequestDraft.line d) (rest.foldl ContentDraft.line c) := by
  induction rest generalizing d c with
  | nil => exact same
  | cons l rest ih =>
      obtain ⟨here, others⟩ := List.forall_mem_cons.mp stays
      exact ih (same.line here) others

end SameTail

/-- A request with captures and assertions added at its end. -/
def RequestTemplate.extended (r : RequestTemplate) (captures asserts : List Text) : RequestTemplate :=
  { r with captures := r.captures ++ captures, asserts := r.asserts ++ asserts }

/-- **Both readings of the lines below the request line**: the step has lines of the front, captures and assertions of
which the first read as a request and the others added to it make up the whole request. -/
theorem foldl_both {first : Text} {rest : List Text} (start : IsFront first) (last : SectionsLast rest)
    (d : RequestDraft) :
    ∃ part front captures asserts, front <+: rest ∧
      (first :: rest).foldl ContentDraft.line {} = ⟨part, first :: front, captures, asserts⟩ ∧
      (rest.foldl RequestDraft.line d).finish =
        (front.foldl RequestDraft.line d).finish.extended captures asserts := by
  obtain ⟨front, tail, rfl, fronts, stop⟩ : ∃ front tail, rest = front ++ tail ∧ (∀ l ∈ front, IsFront l) ∧
      ∀ l ∈ tail.head?, ¬ IsFront l := by
    refine ⟨rest.takeWhile fun l => decide (IsFront l), rest.dropWhile fun l => decide (IsFront l),
      List.takeWhile_append_dropWhile.symm, fun l listed => ?_, fun l first => ?_⟩
    · simpa using List.mem_takeWhile_imp listed
    · have blank := List.head?_dropWhile_not (fun l => decide (IsFront l)) rest
      rw [Option.mem_def.mp first] at blank
      simpa using blank
  have content : (first :: front).foldl ContentDraft.line {} = { request := first :: front } :=
    ContentDraft.foldl_front (List.forall_mem_cons.mpr ⟨start, fronts⟩) rfl
  rw [← List.cons_append, List.foldl_append, List.foldl_append, content]
  cases tail with
  | nil => exact ⟨.headers, front, [], [], List.prefix_append _ _, rfl, by simp [RequestTemplate.extended]⟩
  | cons mark others =>
      have stays : ∀ l ∈ others, ¬ ReopensFront l := fun l listed =>
        (List.pairwise_cons.mp (List.pairwise_append.mp last).2.1).1 l listed (stop mark rfl)
      have same := (SameTail.enter (front.foldl RequestDraft.line d) (first :: front) (stop mark rfl)).foldl stays
      rw [List.foldl_cons, List.foldl_cons]
      generalize others.foldl RequestDraft.line _ = e at same ⊢
      generalize others.foldl ContentDraft.line _ = c at same ⊢
      obtain ⟨part, request, captures, asserts⟩ := c
      obtain ⟨-, -, body, template, rfl⟩ := same
      refine ⟨part, front, captures, asserts, List.prefix_append _ _, rfl, ?_⟩
      rw [RequestDraft.finish, RequestDraft.finish, body, template]
      rfl

/-! ## Whole blocks -/

/-- The request line of a block that is read as a request: the first line that is neither blank nor a comment, with a
method and an address. -/
theorem exists_requestLine {raw : Text} {r : RequestTemplate} (read : RequestTemplate.ofBlock raw = .ok r) :
    ∃ idle first rest method url others, Text.splitAt '\n' raw = idle ++ first :: rest ∧
      (∀ l ∈ idle, isIdle (Text.trim l) = true) ∧ isIdle (Text.trim first) = false ∧
      Text.arguments (Text.trim first) = method :: url :: others ∧
      r = (rest.foldl RequestDraft.line ⟨.headers, [], { method := Text.upper method, url }⟩).finish := by
  have split := List.takeWhile_append_dropWhile (p := fun l => isIdle (Text.trim l)) (l := Text.splitAt '\n' raw)
  have stop := List.head?_dropWhile_not (fun l => isIdle (Text.trim l)) (Text.splitAt '\n' raw)
  unfold RequestTemplate.ofBlock at read
  split at read
  · cases read
  · rename_i first rest whole
    rw [whole] at split stop
    split at read
    · rename_i method url others arguments
      cases read
      refine ⟨_, first, rest, method, url, others, split.symm, fun l listed => ?_, by simpa using stop, arguments, rfl⟩
      exact List.mem_takeWhile_imp (p := fun l => isIdle (Text.trim l)) listed
    · cases read

/-- Neither a blank line nor a comment is a directive. -/
theorem not_isDirective_of_idle {trimmed : Text} (idle : isIdle trimmed = true) : ¬ isDirective trimmed = true := by
  cases trimmed with
  | nil => decide
  | cons c t =>
      have comment : c = '#' := by simpa [isIdle, isComment] using idle
      simp [isDirective, comment]

section

variable {raw first : Text} {idle rest : List Text}

/-- A block that begins with a request line has a head of blank lines and comments, and the request line opens its
content. -/
theorem head_of_requestLine (whole : Text.splitAt '\n' raw = idle ++ first :: rest)
    (idles : ∀ l ∈ idle, isIdle (Text.trim l) = true) (busy : isIdle (Text.trim first) = false)
    (plain : isDirective (Text.trim first) = false) : headLines raw = idle ∧ contentLines raw = first :: rest := by
  rw [headLines, contentLines, whole]
  refine Text.takeWhile_dropWhile_append (fun l listed => by simp [isHeadLine, idles l listed]) fun l stop => ?_
  cases stop
  simp [isHeadLine, busy, plain]

theorem headDirectives_of_idle (head : headLines raw = idle) (idles : ∀ l ∈ idle, isIdle (Text.trim l) = true) :
    headDirectives raw = [] := by
  rw [headDirectives, head, List.map_eq_nil_iff, List.filter_eq_nil_iff]
  intro trimmed listed
  obtain ⟨l, member, rfl⟩ := List.mem_map.mp listed
  exact not_isDirective_of_idle (idles l member)

/-- The request line is no mark, since a mark is one word. -/
theorem isFront_requestLine {method url : Text} {others : List Text}
    (arguments : Text.arguments (Text.trim first) = method :: url :: others) : IsFront first := by
  have short : ∀ mark, (Text.arguments mark).length < 2 → Text.trim first ≠ mark := fun mark few same => by
    rw [← same, arguments, List.length_cons, List.length_cons] at few
    omega
  exact ⟨short _ (by decide), short _ (by decide)⟩

/-- The text of the front is read as its lines, whatever blanks it loses at its ends. -/
theorem ofBlock_requestText {front : List Text} {method url : Text} {others : List Text}
    (whole : Text.splitAt '\n' raw = idle ++ first :: rest) (inside : front <+: rest)
    (busy : isIdle (Text.trim first) = false)
    (arguments : Text.arguments (Text.trim first) = method :: url :: others) (part : RequestSection)
    (captures asserts : List Text) :
    RequestTemplate.ofBlock (ContentDraft.requestText ⟨part, first :: front, captures, asserts⟩) =
      .ok (front.foldl RequestDraft.line ⟨.headers, [], { method := Text.upper method, url }⟩).finish := by
  have free : ∀ l ∈ first :: front, '\n' ∉ l := by
    intro l listed
    refine Text.not_mem_of_mem_splitAt (s := raw) (whole ▸ List.mem_append_right _ ?_)
    exact (List.prefix_cons_inj first).mpr inside |>.subset listed
  rw [ContentDraft.requestText, RequestTemplate.ofBlock_trim, RequestTemplate.ofBlock_eq,
    Text.splitAt_join (by simp) free, RequestTemplate.ofLines_request busy arguments]

end

/-- **A step sends the request that its block would be by itself**, if the block begins with the request line and keeps
captures and assertions at its end. -/
theorem Step.ofBlock_request {raw : Text} {r : RequestTemplate} (read : RequestTemplate.ofBlock raw = .ok r)
    (plain : ∀ l ∈ (Text.splitAt '\n' raw).find? fun l => !isIdle (Text.trim l), isDirective (Text.trim l) = false)
    (last : SectionsLast (Text.splitAt '\n' raw)) (line : Nat) :
    Step.ofBlock raw line = .ok ({ line, raw, action := .send r }, []) := by
  obtain ⟨idle, first, rest, method, url, others, whole, idles, busy, arguments, rfl⟩ := exists_requestLine read
  have plain : isDirective (Text.trim first) = false := by
    refine plain first ?_
    rw [whole, List.find?_append, List.find?_eq_none.mpr fun l listed => by simp [idles l listed], Option.none_or,
      List.find?_cons, busy]
    rfl
  obtain ⟨head, lines⟩ := head_of_requestLine whole idles busy plain
  have lastRest : SectionsLast rest := by
    rw [whole] at last
    exact (List.pairwise_cons.mp (List.pairwise_append.mp last).2.1).2
  obtain ⟨part, front, captures, asserts, inside, sections, same⟩ :=
    foldl_both (isFront_requestLine arguments) lastRest ⟨.headers, [], { method := Text.upper method, url }⟩
  have text := ofBlock_requestText whole inside busy arguments part captures asserts
  have some : (ContentDraft.requestText ⟨part, first :: front, captures, asserts⟩).isEmpty = false := by
    refine Bool.eq_false_iff.mpr fun none => ?_
    rw [List.isEmpty_iff.mp none] at text
    cases text
  have content : ContentDraft.ofBlock raw = ⟨part, first :: front, captures, asserts⟩ := by
    rw [ContentDraft.ofBlock, lines, sections]
  have send : ContentDraft.send ⟨part, first :: front, captures, asserts⟩ line =
      ((rest.foldl RequestDraft.line ⟨.headers, [], { method := Text.upper method, url }⟩).finish, []) := by
    rw [ContentDraft.send, if_neg (by simp [some]), text, same]
    rfl
  rw [Step.ofBlock, headDirectives_of_idle head idles, content]
  dsimp only [List.foldlM_nil, pure, Except.pure]
  rw [if_neg (by decide), send]
  rfl

/-- A request with a body between its queries and its captures, which are opened twice. -/
def upload : Text :=
  "\n # upload\n post /items\nAccept: */*\n[Queries]\nq = 1\n\n@first line\n  \n[Captures]\n\nID = body.id\n" ++
    "[Asserts]\n# status\n status == 201\n[Captures]\nTAG = body.tag  \n"

/-- The directive in the body is text, and the blank line in front of the captures is no part of it. -/
theorem Step.ofBlock_request_upload :
    RequestTemplate.ofBlock upload = .ok {
        method := "POST", url := "/items", headers := ["Accept: */*"], queries := ["q=1"], body := "@first line",
        captures := ["ID = body.id", "TAG = body.tag"], asserts := ["status == 201"] } ∧
      SectionsLast (Text.splitAt '\n' upload) ∧
      Step.ofBlock upload 7 = .ok ({
        line := 7, raw := upload, action := .send {
          method := "POST", url := "/items", headers := ["Accept: */*"], queries := ["q=1"], body := "@first line",
          captures := ["ID = body.id", "TAG = body.tag"], asserts := ["status == 201"] } }, []) := by
  have read : RequestTemplate.ofBlock upload = .ok {
      method := "POST", url := "/items", headers := ["Accept: */*"], queries := ["q=1"], body := "@first line",
      captures := ["ID = body.id", "TAG = body.tag"], asserts := ["status == 201"] } := by
    decide +kernel
  have last : SectionsLast (Text.splitAt '\n' upload) := by decide +kernel
  exact ⟨read, last, Step.ofBlock_request read (by decide +kernel) last 7⟩

end ApiFlow.Flow
