import ApiFlow.Proofs.Body.Lookups
import ApiFlow.Proofs.Flow.SameRequest
import ApiFlow.Proofs.Variable.Writes

/-!
# The same capture of a command and of a request

A step block may end with a section of one capture.  The step then has this capture and no other, whatever stands in
front, if no line there opens captures or assertions.  A path in the capture is looked up in the output of a command as it
is in the body of a response.  What a command gets to look up is the entry without its comment, though, and a comment
begins at the first number sign, which may stand inside a path: the length of an array cannot be captured from an output.

* `withCapture` : a block with such a section, and `AllFront` : a text that may stand in front of it.
* `captures_withCapture` : the captures of the step that is read from the block.
* `Body.route`, `Capture.parts` : the parts that a path is followed by; its number signs stand in them.
* `exists_found_apart` : a JSON text in which a path leads nowhere and what stands in front of its number sign does.
* `PathEntry` : an entry for a path, and `PathEntry.withoutComment_entryOf` : what a command makes of it.
* `Alike` : a command has captured what a request has, except for an empty text.
* `alike_of_entry` : two harvests from one entry are alike.
* `routes_agree_iff` : for which entries a command and a request capture alike from every JSON text.
-/

set_option autoImplicit false

namespace ApiFlow.Flow

variable {front entry : Text} {lines : List Text}

/-- A text with a section of one capture behind it. -/
def withCapture (front entry : Text) : Text := front ++ '\n' :: (capturesMark ++ '\n' :: entry)

/-- No line of the text opens captures or assertions. -/
def AllFront (front : Text) : Prop := ∀ l ∈ Text.splitAt '\n' front, IsFront l

instance (front : Text) : Decidable (AllFront front) := List.decidableBAll (fun l => IsFront l) (Text.splitAt '\n' front)

/-! ## What stands in front -/

theorem isFront_blank_cons {c : Char} (blank : Text.isBlank c = true) (l : Text) : IsFront (c :: l) ↔ IsFront l := by
  rw [IsFront, IsFront, Text.trim_blank_cons blank]

theorem isFront_concat_blank {c : Char} (blank : Text.isBlank c = true) (l : Text) : IsFront (l ++ [c]) ↔ IsFront l := by
  rw [IsFront, IsFront, Text.trim_concat_blank blank]

theorem isFront_nil : IsFront [] := by decide

/-- **Blanks at the ends** open no section and close none. -/
theorem allFront_trim (front : Text) : AllFront (Text.trim front) ↔ AllFront front := by
  refine Iff.of_eq (Text.eq_of_trim (f := AllFront) (fun c s blank => propext ?_) (fun s c blank => propext ?_) front)
  · by_cases feed : c = '\n'
    · subst feed
      have fields : Text.splitAt '\n' ('\n' :: s) = [] :: Text.splitAt '\n' s := Text.splitAt_append List.not_mem_nil s
      rw [AllFront, fields, List.forall_mem_cons, and_iff_right isFront_nil, AllFront]
    · obtain ⟨first, others, fields⟩ := List.exists_cons_of_ne_nil (Text.splitAt_ne_nil '\n' s)
      have pushed : Text.splitAt '\n' (c :: s) = (c :: first) :: others := by
        rw [Text.splitAt_cons feed, fields]
        rfl
      rw [AllFront, pushed, AllFront, fields, List.forall_mem_cons, List.forall_mem_cons, isFront_blank_cons blank]
  · by_cases feed : c = '\n'
    · rw [AllFront, feed, Text.splitAt_concat_mark, List.forall_mem_append, List.forall_mem_singleton,
        and_iff_left isFront_nil, AllFront]
    · obtain ⟨others, last, short, long⟩ := Text.splitAt_concat feed s
      rw [AllFront, long, AllFront, short, List.forall_mem_append, List.forall_mem_append, List.forall_mem_singleton,
        List.forall_mem_singleton, isFront_concat_blank blank]

/-- Lines that open nothing make up such a text. -/
theorem allFront_join (fronts : ∀ l ∈ lines, IsFront l) (free : ∀ l ∈ lines, '\n' ∉ l) :
    AllFront (Text.trim (Text.join ['\n'] lines)) := by
  rw [allFront_trim, AllFront]
  by_cases none : lines = []
  · subst none
    exact List.forall_mem_singleton.mpr isFront_nil
  · rwa [Text.splitAt_join none free]

/-! ## Captures of the front -/

/-- A command block without a mark has no captures. -/
theorem captures_command_front (fronts : AllFront front) : (CommandTemplate.ofBlock front).captures = [] := by
  have plain : ∀ l ∈ Text.splitAt '\n' front, (Text.trim l != capturesMark) = true :=
    fun l listed => bne_iff_ne.mpr (fronts l listed).1
  rw [CommandTemplate.ofBlock, List.span_eq_takeWhile_dropWhile, List.dropWhile_eq_nil_iff.mpr plain]
  rfl

theorem sectionOf?_ne_captures {trimmed : Text} (other : trimmed ≠ capturesMark) :
    sectionOf? trimmed ≠ some .captures := by
  rw [sectionOf?, if_neg other]
  split
  · decide
  · split
    · decide
    · split <;> decide

/-- Outside the captures, a line that does not open them adds no capture. -/
theorem captures_line_front {d : RequestDraft} {l : Text} (here : IsFront l) (outside : d.part ≠ .captures) :
    (d.line l).template.captures = d.template.captures ∧ (d.line l).part ≠ .captures := by
  obtain ⟨part, body, t⟩ := d
  rw [RequestDraft.line]
  cases opened : sectionOf? (Text.trim l) with
  | some next =>
      refine ⟨rfl, fun same => sectionOf?_ne_captures here.1 (opened.trans (congrArg some ?_))⟩
      exact same
  | none =>
      cases part with
      | headers =>
          dsimp only
          split
          · exact ⟨rfl, by rintro ⟨⟩⟩
          · split
            · exact ⟨rfl, by rintro ⟨⟩⟩
            · split <;> exact ⟨rfl, by rintro ⟨⟩⟩
      | queries =>
          dsimp only
          split
          · exact ⟨rfl, by rintro ⟨⟩⟩
          · split <;> exact ⟨rfl, by rintro ⟨⟩⟩
      | body => exact ⟨rfl, by rintro ⟨⟩⟩
      | captures => exact absurd rfl outside
      | asserts =>
          dsimp only
          split <;> exact ⟨rfl, by rintro ⟨⟩⟩

theorem captures_foldl_front (fronts : ∀ l ∈ lines, IsFront l) {d : RequestDraft} (outside : d.part ≠ .captures) :
    (lines.foldl RequestDraft.line d).template.captures = d.template.captures := by
  induction lines generalizing d with
  | nil => rfl
  | cons l lines ih =>
      obtain ⟨here, others⟩ := List.forall_mem_cons.mp fronts
      obtain ⟨same, still⟩ := captures_line_front here outside
      rw [List.foldl_cons, ih others still, same]

/-- A request block without a mark has no captures. -/
theorem captures_request_front (fronts : AllFront front) {r : RequestTemplate}
    (read : RequestTemplate.ofBlock front = .ok r) : r.captures = [] := by
  rw [RequestTemplate.ofBlock_eq, RequestTemplate.ofLines] at read
  have behind : (Text.splitAt '\n' front).dropWhile (fun line => isIdle (Text.trim line)) ⊆ Text.splitAt '\n' front :=
    (List.dropWhile_suffix _).subset
  split at read
  · cases read
  · rename_i first rest dropped
    split at read
    · cases read
      rw [dropped] at behind
      exact captures_foldl_front (fun l listed => fronts l (behind (List.mem_cons_of_mem first listed))) (by rintro ⟨⟩)
    · cases read

/-! ## The block -/

/-- **The content of a block with one capture**, by section. -/
theorem content_withCapture (fronts : AllFront front) (tail : IsTail entry) :
    ∃ part lines, (∀ l ∈ lines, l ∈ Text.splitAt '\n' front) ∧
      ContentDraft.ofBlock (withCapture front entry) = { part, request := lines, captures := [entry] } := by
  have whole : Text.splitAt '\n' (withCapture front entry) = Text.splitAt '\n' front ++ [capturesMark, entry] := by
    rw [withCapture, Text.splitAt_append_mark, Text.splitAt_append (by decide), Text.splitAt_of_not_mem tail.free.newline]
  have content : contentLines (withCapture front entry) =
      (Text.splitAt '\n' front).dropWhile isHeadLine ++ [capturesMark, entry] := by
    rw [contentLines, whole, List.dropWhile_append]
    split
    · rename_i none
      rw [List.isEmpty_iff.mp none]
      rfl
    · rfl
  have inFront : ∀ l ∈ (Text.splitAt '\n' front).dropWhile isHeadLine, l ∈ Text.splitAt '\n' front :=
    fun l listed => (List.dropWhile_suffix _).subset listed
  obtain ⟨part, read⟩ := ContentDraft.foldl_content (fun l listed => fronts l (inFront l listed))
    (List.forall_mem_singleton.mpr tail) (List.forall_mem_nil _)
  refine ⟨part, _, inFront, ?_⟩
  rw [ContentDraft.ofBlock, content, ← read]
  simp [sectionLines]

theorem captures_command (clear : AllFront (Text.trim (Text.join ['\n'] lines))) (part : RequestSection) :
    (ContentDraft.command { part, request := lines, captures := [entry] }).captures = [withoutComment entry] := by
  change (CommandTemplate.ofBlock (Text.trim (Text.join ['\n'] lines))).captures ++ _ = _
  rw [captures_command_front clear]
  rfl

theorem captures_send (clear : AllFront (Text.trim (Text.join ['\n'] lines))) (part : RequestSection) (line : Nat) :
    (ContentDraft.send { part, request := lines, captures := [entry] } line).1.captures = [entry] := by
  rw [ContentDraft.send, ContentDraft.requestText]
  dsimp only
  split
  · rfl
  · cases read : RequestTemplate.ofBlock (Text.trim (Text.join ['\n'] lines)) with
    | error e => rfl
    | ok r =>
        dsimp only
        rw [captures_request_front clear read, List.nil_append]

/-- **The captures of a step whose block has one capture**: the entry, which a command cuts off at a number sign. -/
theorem captures_withCapture (fronts : AllFront front) (tail : IsTail entry) {line : Nat} {s : Step} {warnings : List Text}
    (read : Step.ofBlock (withCapture front entry) line = .ok (s, warnings)) :
    s.captures = [if s.isCommand then withoutComment entry else entry] := by
  obtain ⟨part, lines, inFront, content⟩ := content_withCapture fronts tail
  have clear : AllFront (Text.trim (Text.join ['\n'] lines)) :=
    allFront_join (fun l listed => fronts l (inFront l listed))
      fun l listed => Text.not_mem_of_mem_splitAt (inFront l listed)
  rw [Step.ofBlock, content] at read
  split at read
  · cases read
  · dsimp only at read
    split at read
    · cases read
      exact captures_command clear part
    · cases read
      exact captures_send clear part line

end ApiFlow.Flow

namespace ApiFlow

/-! ## The parts of a path -/

namespace Body

variable {c : Char}

/-- The parts that a path is followed by. -/
def route (path : Text) : List Text := if (normalize path).isEmpty then [] else split (normalize path)

theorem find_eq_follow (value : Json) (path : Text) : find value path = follow (route path) value := by
  rw [find, route]
  split <;> rfl

theorem mem_flatten_route_iff (stays : Stays c) (notSlash : c ≠ '\\') (path : Text) :
    c ∈ (route path).flatten ↔ c ∈ path := by
  rw [route]
  split
  · rename_i none
    rw [← mem_normalize_iff stays path, List.isEmpty_iff.mp none]
    rfl
  · rw [mem_flatten_split stays.dot notSlash, mem_normalize_iff stays]

end Body

namespace Json

/-- The text of an object stands without blanks around it. -/
theorem trim_compact_obj (members : List (Text × Json)) : Text.trim (compact (obj members)) = compact (obj members) := by
  refine Text.trim_eq_self_iff.mpr ⟨?_, ?_⟩
  · rintro c ⟨⟩
    decide
  · refine Text.solidEnd_append _ (by decide) ?_
    rintro c ⟨⟩
    decide

end Json

namespace Capture

open Body

variable {query text : Text}

/-- The parts that a query for a path is followed by. -/
def parts (query : Text) : List Text := route (normalize (Text.dropStart "body." query))

theorem inBody_compact {v : Json} {value? : Option Json} (exact : Json.Exact v)
    (led : follow (parts query) v = .ok value?) : inBody v.compact query = .ok (value?.map Json.asText) := by
  rw [parts, ← find_eq_follow] at led
  rw [inBody, Body.inBody, Json.decode?_compact exact]
  dsimp only
  rw [led]

/-- **The number signs of a query** stand in its parts. -/
theorem mem_flatten_parts (query : Text) : '#' ∈ (parts query).flatten ↔ '#' ∈ query := by
  have sign : Stays '#' := by decide
  rw [parts, mem_flatten_route_iff sign (by decide), mem_normalize_iff sign, Text.dropStart]
  split
  · rename_i begins
    obtain ⟨rest, rfl⟩ := List.isPrefixOf_iff_prefix.mp begins
    rw [List.drop_left, List.mem_append, or_iff_right (by decide)]
  · rfl

/-! ## What stands in front of a number sign -/

/-- A query up to its first number sign. -/
def uncommented (query : Text) : Text := query.takeWhile (· != '#')

theorem not_mem_uncommented (query : Text) : '#' ∉ uncommented query := by
  intro sign
  exact absurd (List.mem_takeWhile_imp sign) (by decide)

theorem uncommented_of_not_mem (free : '#' ∉ query) : uncommented query = query := by
  refine List.takeWhile_eq_self_iff.mpr fun c member => bne_iff_ne.mpr ?_
  rintro rfl
  exact free member

/-- **A text in which the front of a path leads somewhere and the path does not**: objects under the parts of the front. -/
theorem exists_found_apart (sign : '#' ∈ query) :
    ∃ text v value, Json.decode? text = some v ∧ Text.trim text = text ∧ value ≠ [] ∧
      inBody text (uncommented query) = .ok (some value) ∧ inBody text query = .ok none := by
  -- One more key below the parts of the front: the null at the end would be captured as an empty text.
  obtain ⟨part, listed, inside⟩ := List.mem_flatten.mp ((mem_flatten_parts query).mpr sign)
  have front : '#' ∉ (parts (uncommented query)).flatten :=
    fun member => not_mem_uncommented query ((mem_flatten_parts _).mp member)
  have apart : ¬ parts query <+: parts (uncommented query) ++ ["x".toList] := by
    intro begins
    rcases List.mem_append.mp (begins.subset listed) with early | last
    · exact front (List.mem_flatten.mpr ⟨part, early, inside⟩)
    · rw [List.mem_singleton.mp last] at inside
      exact absurd inside (by decide)
  have exact := Json.exact_nested (parts (uncommented query) ++ ["x".toList])
  refine ⟨(Json.nested (parts (uncommented query) ++ ["x".toList])).compact, _, (Json.nested ["x".toList]).asText,
    Json.decode?_compact exact, ?_, by decide, ?_, ?_⟩
  · cases parts (uncommented query) with
    | nil => exact Json.trim_compact_obj _
    | cons key keys => exact Json.trim_compact_obj _
  · exact inBody_compact exact (follow_nested _ _)
  · exact inBody_compact exact (follow_nested_apart apart)

/-! ## The entry -/

/-- The entry of a capture with a path: a name and a query without blanks and equals signs, and not a comment. -/
@[mk_iff]
structure PathEntry (name query : Text) : Prop where
  named : name ≠ []
  nameSolid : Text.BlankFree name
  nameFree : '=' ∉ name ∧ '#' ∉ name
  asked : query ≠ []
  solid : Text.BlankFree query
  free : '=' ∉ query
  path : query.head? ≠ some '$'
  plain : query.head? ≠ some '#'

instance (name query : Text) : Decidable (PathEntry name query) := decidable_of_iff _ (pathEntry_iff name query).symm

namespace PathEntry

variable {name query : Text}

theorem parsed (good : PathEntry name query) : parse? (entryOf name query) = some (name, query) :=
  parse?_entryOf good.nameSolid good.nameFree.1 good.solid

theorem trimmed (good : PathEntry name query) : Text.trim (entryOf name query) = entryOf name query := by
  rw [entryOf, List.append_assoc]
  exact Text.trim_eq_self_iff.mpr ⟨Text.solidStart_append good.named good.nameSolid.solidStart _,
    Text.solidEnd_append name (by simp) (Text.solidEnd_append " = ".toList good.asked good.solid.solidEnd)⟩

/-- The entry is neither a mark nor idle. -/
theorem isTail (good : PathEntry name query) : Flow.IsTail (entryOf name query) := by
  have equals : '=' ∈ entryOf name query := by simp [entryOf_eq]
  have other {mark : Text} (free : '=' ∉ mark) : entryOf name query ≠ mark := by
    rintro rfl
    exact free equals
  have inLine : Text.LineFree (entryOf name query) :=
    (good.nameSolid.lineFree.append (by decide)).append good.solid.lineFree
  have solid : Flow.isComment (entryOf name query) = false := by
    obtain ⟨c, rest, rfl⟩ := List.exists_cons_of_ne_nil good.named
    have noSign : c ≠ '#' := fun same => good.nameFree.2 (by simp [same])
    simpa [Flow.isComment, entryOf] using noSign
  exact ⟨⟨⟨good.trimmed, inLine⟩, other (by decide), solid⟩, other (by decide), other (by decide)⟩

/-- The front of a path is the path of an entry. -/
theorem uncommented (good : PathEntry name query) : PathEntry name (uncommented query) := by
  obtain ⟨c, rest, rfl⟩ := List.exists_cons_of_ne_nil good.asked
  have noSign : c ≠ '#' := fun same => good.plain (by rw [same]; rfl)
  have first : Capture.uncommented (c :: rest) = c :: Capture.uncommented rest :=
    List.takeWhile_cons_of_pos (bne_iff_ne.mpr noSign)
  have front : Capture.uncommented (c :: rest) ⊆ c :: rest := (List.takeWhile_prefix _).subset
  exact { good with
    asked := by rw [first]; exact List.cons_ne_nil _ _
    solid := fun d member => good.solid d (front member)
    free := fun member => good.free (front member)
    path := by rw [first]; exact good.path
    plain := by rw [first]; exact good.plain }

/-- **A command keeps the entry up to its first number sign.** -/
theorem withoutComment_entryOf (good : PathEntry name query) :
    Flow.withoutComment (entryOf name query) = entryOf name (Capture.uncommented query) := by
  have kept : ∀ c ∈ name ++ " = ", (c != '#') = true := by
    intro c member
    refine bne_iff_ne.mpr ?_
    rintro rfl
    rcases List.mem_append.mp member with inName | between
    · exact good.nameFree.2 inName
    · exact absurd between (by decide)
  rw [Flow.withoutComment, entryOf, List.takeWhile_append_of_pos kept]
  exact good.uncommented.trimmed

end PathEntry

/-! ## Harvests -/

/-- What a command has captured is what a request has captured, except that an empty text counts as none: no value then,
and the variables stay as they were. -/
structure Alike (before : Context) (sent ran : Harvest) : Prop where
  fault : ran.fault? = sent.fault?
  captured : ran.outcomes.map (fun o => (o.name, o.value?)) =
    sent.outcomes.map fun o => (o.name, o.value?.filter fun value => !value.isEmpty)
  kept : (∀ o ∈ sent.outcomes, o.value? ≠ some []) → ran.context = sent.context
  empty : (∃ o ∈ sent.outcomes, o.value? = some []) → ran.context = before

variable {name : Text}

/-- **One entry captures alike** from a text as a body and as an output. -/
theorem alike_of_entry (good : PathEntry name query) (text step : Text) (context : Context) :
    Alike context (harvest (.body text) step context [entryOf name query])
      (harvest (.output text) step context [entryOf name query]) := by
  rw [harvest_single good.parsed good.named, harvest_single good.parsed good.named, find_output good.path]
  cases find query (.body text) with
  | error fault => exact ⟨rfl, rfl, fun _ => rfl, fun _ => rfl⟩
  | ok value? =>
      cases value? with
      | none => exact ⟨rfl, rfl, fun _ => rfl, fun _ => rfl⟩
      | some value =>
          cases value with
          | nil => exact ⟨rfl, rfl, fun some => absurd rfl (some _ (List.mem_singleton.mpr rfl)), fun _ => rfl⟩
          | cons c rest =>
              refine ⟨rfl, rfl, fun _ => rfl, ?_⟩
              rintro ⟨o, listed, none⟩
              rw [List.mem_singleton.mp listed] at none
              cases none

/-- **From some text a command captures what the path does not lead to**, if there is a number sign in it. -/
theorem exists_not_alike (good : PathEntry name query) (sign : '#' ∈ query) :
    ∃ text v, Json.decode? text = some v ∧ Text.trim text = text ∧ ∀ step context,
      ¬ Alike context (harvest (.body text) step context [entryOf name query])
        (harvest (.output text) step context [entryOf name (uncommented query)]) := by
  obtain ⟨text, v, value, read, trimmed, some, found, absent⟩ := exists_found_apart sign
  refine ⟨text, v, read, trimmed, fun step context alike => ?_⟩
  have sent : find query (.body text) = .ok none := absent
  have ran : find (uncommented query) (.output text) = .ok (Option.some value) := by
    rw [find_output good.uncommented.path, find, found]
    exact congrArg Except.ok (Option.filter_some_pos (by simpa using some))
  have captured := alike.captured
  rw [harvest_single good.parsed good.named, harvest_single good.uncommented.parsed good.named, sent, ran] at captured
  simp [Harvest.add, Harvest.note] at captured

end Capture

open ApiFlow.Flow Capture

variable {name query front front' : Text} {line line' : Nat} {ran sent : Step} {warnings warnings' : List Text}

/-- **A command and a request capture alike from every JSON text** exactly if no number sign stands in the path: for every
step with a command and every step with a request whose blocks end with the same capture. -/
theorem routes_agree_iff (good : PathEntry name query) (fronts : AllFront front) (fronts' : AllFront front')
    (ranRead : Step.ofBlock (withCapture front (entryOf name query)) line = .ok (ran, warnings))
    (command : ran.isCommand = true)
    (sentRead : Step.ofBlock (withCapture front' (entryOf name query)) line' = .ok (sent, warnings'))
    (request : sent.isCommand = false) :
    (∀ text v step context, Json.decode? text = some v → Text.trim text = text →
      Alike context (harvest (.body text) step context sent.captures) (harvest (.output text) step context ran.captures)) ↔
    '#' ∉ query := by
  have ranCaptures : ran.captures = [entryOf name (uncommented query)] := by
    rw [captures_withCapture fronts good.isTail ranRead, command, if_pos rfl, good.withoutComment_entryOf]
  have sentCaptures : sent.captures = [entryOf name query] := by
    rw [captures_withCapture fronts' good.isTail sentRead, request]
    rfl
  rw [ranCaptures, sentCaptures]
  -- The text that tells the two apart has no blanks around it, so it is what a command prints and a service sends.
  constructor
  · intro alike sign
    obtain ⟨text, v, read, trimmed, apart⟩ := exists_not_alike good sign
    exact apart [] [] (alike text v [] [] read trimmed)
  · intro free text v step context _ _
    rw [uncommented_of_not_mem free]
    exact alike_of_entry good text step context

/-- The first item of an array, from a command and from a request. -/
theorem routes_agree_iff_item :
    let entry := entryOf "first" "items.0"
    (PathEntry "first" "items.0" ∧ AllFront "@type exec\ncat items.json" ∧ AllFront "GET /items\n") ∧
      ∃ ran sent, Step.ofBlock (withCapture "@type exec\ncat items.json" entry) 3 = .ok (ran, []) ∧ ran.isCommand = true ∧
        Step.ofBlock (withCapture "GET /items\n" entry) 9 = .ok (sent, []) ∧ sent.isCommand = false ∧
        ∀ text v step context, Json.decode? text = some v → Text.trim text = text →
          Alike context (harvest (.body text) step context sent.captures)
            (harvest (.output text) step context ran.captures) := by
  intro entry
  have given : PathEntry "first" "items.0" ∧ AllFront "@type exec\ncat items.json" ∧ AllFront "GET /items\n" := by decide
  obtain ⟨ran, ranRead, command⟩ : ∃ s, Step.ofBlock (withCapture "@type exec\ncat items.json" entry) 3 = .ok (s, []) ∧
      s.isCommand = true := ⟨_, rfl, rfl⟩
  obtain ⟨sent, sentRead, request⟩ : ∃ s, Step.ofBlock (withCapture "GET /items\n" entry) 9 = .ok (s, []) ∧
      s.isCommand = false := ⟨_, rfl, rfl⟩
  have agree := routes_agree_iff given.1 given.2.1 given.2.2 ranRead command sentRead request
  exact ⟨given, ran, sent, ranRead, command, sentRead, request, agree.mpr (by decide)⟩

/-- The length of an array: a request has it, and a command has looked up an item without a name. -/
theorem length_cut_off :
    let entry := entryOf "n" "items.#"
    let text : Text := r#"{"items":[1,2]}"#
    (PathEntry "n" "items.#" ∧ AllFront "@type exec\ncat items.json" ∧ AllFront "GET /items\n" ∧
        (∃ v, Json.decode? text = some v) ∧ Text.trim text = text) ∧
      ∃ ran sent, Step.ofBlock (withCapture "@type exec\ncat items.json" entry) 3 = .ok (ran, []) ∧ ran.isCommand = true ∧
        Step.ofBlock (withCapture "GET /items\n" entry) 9 = .ok (sent, []) ∧ sent.isCommand = false ∧
        (harvest (.body text) "count" [] sent.captures).outcomes = [⟨"n", "items.#", some "2"⟩] ∧
        (harvest (.output text) "count" [] ran.captures).outcomes = [⟨"n", "items.", none⟩] ∧
        ¬ Alike [] (harvest (.body text) "count" [] sent.captures) (harvest (.output text) "count" [] ran.captures) := by
  intro entry text
  have given : PathEntry "n" "items.#" ∧ AllFront "@type exec\ncat items.json" ∧ AllFront "GET /items\n" := by decide
  obtain ⟨good, fronts, fronts'⟩ := given
  have frontGood : PathEntry "n" "items." := by decide
  obtain ⟨s, ranRead, command⟩ : ∃ s, Step.ofBlock (withCapture "@type exec\ncat items.json" entry) 3 = .ok (s, []) ∧
      s.isCommand = true := ⟨_, rfl, rfl⟩
  obtain ⟨s', sentRead, request⟩ : ∃ s, Step.ofBlock (withCapture "GET /items\n" entry) 9 = .ok (s, []) ∧
      s.isCommand = false := ⟨_, rfl, rfl⟩
  have cut : s.captures = [entryOf "n" "items."] := by
    rw [captures_withCapture fronts good.isTail ranRead, command, if_pos rfl, good.withoutComment_entryOf]
    rfl
  have whole : s'.captures = [entry] := by
    rw [captures_withCapture fronts' good.isTail sentRead, request]
    rfl
  let v : Json := .obj [("items", .arr [.int 1, .int 2])]
  have written : text = v.compact := by decide
  have exact : Json.Exact v := by
    refine Json.exact_single _ (.arr ?_)
    simp only [List.forall_mem_cons]
    exact ⟨.int (by decide), .int (by decide), nofun⟩
  have length : inBody text "items.#" = .ok (some "2") := by
    have led : Body.follow (parts "items.#") v = .ok (some (.int 2)) := rfl
    rw [written]
    exact inBody_compact exact led
  have unnamed : inBody text "items." = .ok none := by
    have led : Body.follow (parts "items.") v = .ok none := rfl
    rw [written]
    exact inBody_compact exact led
  have sent : (harvest (.body text) "count" [] [entry]).outcomes = [⟨"n", "items.#", some "2"⟩] := by
    rw [harvest_single good.parsed good.named, find, length]
    rfl
  have ran : (harvest (.output text) "count" [] [entryOf "n" "items."]).outcomes = [⟨"n", "items.", none⟩] := by
    rw [harvest_single frontGood.parsed frontGood.named, find_output frontGood.path, find, unnamed]
    rfl
  refine ⟨⟨good, fronts, fronts', ⟨v, by rw [written]; exact Json.decode?_compact exact⟩, by decide⟩, s, s',
    ranRead, command, sentRead, request, by rw [whole]; exact sent, by rw [cut]; exact ran, fun alike => ?_⟩
  have captured := alike.captured
  rw [whole, cut, sent, ran] at captured
  exact absurd captured (by decide)

end ApiFlow
