import ApiFlow.Proofs.Run.Frame
import ApiFlow.Proofs.Variable.Writes

/-!
# What a step captures

Captures are taken from what a step has got: from every response that was accepted, and from the output of a command that
has succeeded.  What these are is read off the calls that the step has made and the replies to them.

* `Capture.writes` : what capture entries write, said without the variables that they are written into.
* `Capture.reaped_harvest` : a harvest makes these writes and reports them.
* `Finds` : among the calls from one state to another, these have brought something.
* `lastFound`, `FindsLast` : what the last of these calls has brought.
* `captured` : the writes of a step, in order of rounds and then of entries; `lastCaptured` : those of its last send.
-/

set_option autoImplicit false

namespace ApiFlow

open ApiFlow.Flow

/-! ## Captures as writes -/

namespace Capture

variable {product : Product} {step : Text} {h : Harvest} {start : Context} {done : List (Text × Text)}

/-- What one entry writes: nothing if it is malformed or its query finds no value. -/
def write? (product : Product) (entry : Text) : Option (Text × Text) :=
  match parse? entry with
  | none => none
  | some (name, query) =>
    match find query product with
    | .ok (some value) => if name.isEmpty then none else some (name, value)
    | _ => none

/-- What some entries write, in order. -/
def writes (product : Product) (entries : List Text) : List (Text × Text) := entries.filterMap (write? product)

/-- The values that were found, as writes. -/
def resolved (outcomes : List Outcome) : List (Text × Text) :=
  outcomes.filterMap fun o => o.value?.map fun value => (o.name, value)

/-- A name that no entry captures is not written. -/
theorem not_mem_writes {entries : List Text} {name : Text}
    (other : ∀ entry ∈ entries, ∀ query, parse? entry ≠ some (name, query)) :
    name ∉ (writes product entries).map Prod.fst := by
  intro written
  obtain ⟨write, member, rfl⟩ := List.mem_map.mp written
  obtain ⟨entry, listed, wrote⟩ := List.mem_filterMap.mp member
  unfold write? at wrote
  split at wrote
  · cases wrote
  · rename_i name query parsed
    split at wrote
    · split at wrote
      · cases wrote
      · cases wrote
        exact other entry listed query parsed
    · cases wrote

/-- What a harvest for a step has done so far, next to the variables that it began with. -/
structure Reaped (step : Text) (start : Context) (done : List (Text × Text)) (h : Harvest) : Prop where
  context : h.context = start.writeAll step done
  outcomes : resolved h.outcomes = done

theorem Reaped.note (reaped : Reaped step start done h) (n : Note) : Reaped step start done (h.note n) :=
  ⟨reaped.context, reaped.outcomes⟩

theorem Reaped.add (reaped : Reaped step start done h) (name query : Text) (value? : Option Text) :
    Reaped step start (done ++ (value?.map fun value => (name, value)).toList) (h.add step name query value?) := by
  cases value? with
  | none =>
      refine ⟨?_, by simp [resolved, Harvest.add, ← reaped.outcomes]⟩
      rw [Option.map_none, Option.toList_none, List.append_nil]
      exact reaped.context
  | some value =>
      refine ⟨?_, by simp [resolved, Harvest.add, ← reaped.outcomes]⟩
      rw [Harvest.add, Context.writeAll_append, ← reaped.context]
      rfl

/-- **One entry** whose query does not stop adds its write. -/
theorem Reaped.take (reaped : Reaped step start done h) (running : h.fault? = none) {entry : Text}
    (fits : entryFault? product entry = none) :
    Reaped step start (done ++ (write? product entry).toList) (h.take product step entry) := by
  unfold entryFault? at fits
  unfold Harvest.take write?
  rw [running]
  cases parsed : parse? entry with
  | none => simpa [parsed] using reaped.note _
  | some p =>
      obtain ⟨name, query⟩ := p
      cases found : find query product with
      | error f => simp [parsed, found] at fits
      | ok value? =>
          by_cases unnamed : name.isEmpty = true
          · cases value? <;> simpa [found, unnamed] using reaped.note _
          · cases value? with
            | none => simpa [found, unnamed] using reaped.add name query none
            | some value => simpa [found, unnamed] using reaped.add name query (some value)

theorem Reaped.foldl (reaped : Reaped step start done h) (running : h.fault? = none) {entries : List Text}
    (fits : faultIn? product entries = none) :
    Reaped step start (done ++ writes product entries) (entries.foldl (Harvest.take product step) h) := by
  induction entries generalizing h done with
  | nil => simpa [writes] using reaped
  | cons entry rest ih =>
      have each := List.findSome?_eq_none_iff.mp fits
      have first : entryFault? product entry = none := each entry List.mem_cons_self
      have others : faultIn? product rest = none :=
        List.findSome?_eq_none_iff.mpr fun e listed => each e (List.mem_cons_of_mem _ listed)
      have next : (h.take product step entry).fault? = none := (fault?_take running entry).trans first
      have both := ih (reaped.take running first) next others
      have split : (write? product entry).toList ++ writes product rest = writes product (entry :: rest) := by
        rw [writes, writes, List.filterMap_cons]
        cases write? product entry <;> rfl
      rwa [List.append_assoc, split] at both

/-- **A harvest without a fault makes the writes of its entries, and reports them.** -/
theorem reaped_harvest {entries : List Text} (fits : faultIn? product entries = none) :
    Reaped step start (writes product entries) (harvest product step start entries) := by
  have begun : Reaped step start [] { context := start } := ⟨rfl, rfl⟩
  exact begun.foldl rfl fits

end Capture

namespace Running

variable {setup : Setup} {s t u : RunState}

/-- Captures are written into the variables of the run, and nothing else is. -/
theorem context_capture {product : Capture.Product} {step : Text} {entries : List Text} {outcomes : List Capture.Outcome}
    (returned : Returns (capture product step entries) s outcomes t) :
    t.context = s.context.writeAll step (Capture.writes product entries) := by
  obtain ⟨fits, -, rfl⟩ := returns_capture.mp returned
  have reaped : Capture.Reaped step s.context _ (Capture.harvest product step s.context entries) :=
    Capture.reaped_harvest fits
  exact reaped.context

/-! ## What calls have brought -/

section Log

variable {α β ε : Type} {log : RunState → List α} {good? : α × Nat → Option β} {first second : List β}

/-- What a log has gained, each entry with the number of those before it. -/
def added (before after : List α) : List (α × Nat) := (after.drop before.length).zipIdx before.length

theorem added_append (before more : List α) : added before (before ++ more) = more.zipIdx before.length := by
  rw [added, List.drop_left]

theorem added_trans {xs ys zs : List α} (one : xs <+: ys) (two : ys <+: zs) :
    added xs zs = added xs ys ++ added ys zs := by
  obtain ⟨a, rfl⟩ := one
  obtain ⟨b, rfl⟩ := two
  rw [added_append, added_append, List.append_assoc, added_append, List.zipIdx_append, List.length_append, Nat.add_comm]

/-- From one state to another a log may have grown, and what was added has brought just this. -/
structure Finds (log : RunState → List α) (good? : α × Nat → Option β) (s : RunState) (found : List β) (t : RunState) :
    Prop where
  grown : log s <+: log t
  found : (added (log s) (log t)).filterMap good? = found

theorem Finds.of_same (same : log t = log s) : Finds log good? s [] t := by
  refine ⟨same ▸ List.prefix_rfl, ?_⟩
  rw [same, added, List.drop_length]
  rfl

theorem Finds.trans (one : Finds log good? s first t) (two : Finds log good? t second u) :
    Finds log good? s (first ++ second) u := by
  refine ⟨one.grown.trans two.grown, ?_⟩
  rw [added_trans one.grown two.grown, List.filterMap_append, one.found, two.found]

/-- What is done before and afterwards without a call does not matter. -/
theorem Finds.congr {s' t' : RunState} (finds : Finds log good? s first t) (before : log s' = log s)
    (after : log t' = log t) : Finds log good? s' first t' :=
  ⟨by rw [before, after]; exact finds.grown, by rw [before, after]; exact finds.found⟩

theorem Finds.one {entry : α} (same : log t = log s ++ [entry]) :
    Finds log good? s (good? (entry, (log s).length)).toList t := by
  refine ⟨same ▸ List.prefix_append _ _, ?_⟩
  rw [same, added_append, List.zipIdx_singleton]
  cases outcome : good? (entry, (log s).length) <;> simp [outcome]

/-- What the last entry has brought that a log has gained from one state to another. -/
def lastFound (log : RunState → List α) (good? : α × Nat → Option β) (s t : RunState) : Option β :=
  (added (log s) (log t)).getLast?.bind good?

theorem lastFound_of_same (same : log t = log s) : lastFound log good? s t = none := by
  rw [lastFound, same, added, List.drop_length]
  rfl

theorem lastFound_one {entry : α} (same : log t = log s ++ [entry]) :
    lastFound log good? s t = good? (entry, (log s).length) := by
  rw [lastFound, same, added_append, List.zipIdx_singleton]
  rfl

theorem lastFound_congr {s' t' : RunState} (before : log s' = log s) (after : log t' = log t) :
    lastFound log good? s' t' = lastFound log good? s t := by
  rw [lastFound, before, after, lastFound]

/-- Where the log has grown in the end, what it has gained before does not matter. -/
theorem lastFound_trans (one : log s <+: log t) (two : log t <+: log u) (more : (log t).length < (log u).length) :
    lastFound log good? s u = lastFound log good? t u := by
  have some : added (log t) (log u) ≠ [] := by
    rw [added, ne_eq, List.zipIdx_eq_nil_iff, List.drop_eq_nil_iff]
    omega
  rw [lastFound, added_trans one two, List.getLast?_append, List.getLast?_eq_some_getLast some, Option.some_or, lastFound,
    List.getLast?_eq_some_getLast some]

/-- What the end of a try has brought. -/
def gained : Except Fault (Except ε β) → List β
  | .ok (.ok b) => [b]
  | _ => []

/-- From one state to another calls have brought just this, and the last of them has brought it. -/
structure FindsLast (log : RunState → List α) (good? : α × Nat → Option β) (s : RunState) (all : List β)
    (t : RunState) : Prop extends Finds log good? s all t where
  last : (lastFound log good? s t).toList = all

theorem FindsLast.of_same (same : log t = log s) : FindsLast log good? s [] t where
  toFinds := .of_same same
  last := by rw [lastFound_of_same same, Option.toList_none]

theorem FindsLast.congr {s' t' : RunState} {all : List β} (finds : FindsLast log good? s all t) (before : log s' = log s)
    (after : log t' = log t) : FindsLast log good? s' all t' where
  toFinds := finds.toFinds.congr before after
  last := by rw [lastFound_congr before after, finds.last]

theorem FindsLast.isSome_iff {all : List β} (finds : FindsLast log good? s all t) :
    (lastFound log good? s t).isSome = true ↔ all ≠ [] := by
  rw [← finds.last]
  cases lastFound log good? s t <;> simp

theorem FindsLast.one {entry : α} (same : log t = log s ++ [entry]) :
    FindsLast log good? s (good? (entry, (log s).length)).toList t where
  toFinds := .one same
  last := by rw [lastFound_one same]

/-- Each try adds one entry to the log, and the entry has brought what the try has. -/
def Logs (log : RunState → List α) (good? : α × Nat → Option β) (attempt : Running (Except ε β)) : Prop :=
  ∀ s, ∃ entry, log (ends attempt s).2 = log s ++ [entry] ∧
    (good? (entry, (log s).length)).toList = gained (ends attempt s).1

theorem Logs.findsLast {attempt : Running (Except ε β)} (logs : Logs log good? attempt) (s : RunState) :
    FindsLast log good? s (gained (ends attempt s).1) (ends attempt s).2 := by
  obtain ⟨entry, added, brings⟩ := logs s
  exact brings ▸ .one added

/-- **All tries together have brought what the last of them has.** -/
theorem Retry.run_finds {attempt : Running (Except ε β)} {r : Retry} (logs : Logs log good? attempt)
    (paused : ∀ wait number, Keeps log (r.pause setup wait number)) (s : RunState) :
    FindsLast log good? s (gained ((ends (r.run setup attempt) s).1.map Prod.fst))
      (ends (r.run setup attempt) s).2 := by
  rcases @Retry.run_ends _ _ attempt r setup s with ⟨f, -, same⟩ | ⟨wait, last, u, -, reached, same⟩
  · rw [same]
    exact .of_same rfl
  · have before : Finds log good? s [] u := by
      refine reached.carries (R := fun s t => Finds log good? s [] t) (fun _ => .of_same rfl) ?_ ?_ ?_
      · exact fun one two => one.trans two
      · intro s t e failed
        have none := (logs.findsLast s).toFinds
        rwa [show ends attempt s = (.ok (.error e), t) from failed] at none
      · exact fun waited => .of_same (paused wait _ waited)
    have now := logs.findsLast u
    obtain ⟨entry, added, -⟩ := logs u
    have more : (log u).length < (log (ends attempt u).2).length := by
      rw [added, List.length_append]
      exact Nat.lt_succ_self _
    have all : FindsLast log good? s (gained (ends attempt u).1) (ends attempt u).2 :=
      ⟨before.trans now.toFinds, by rw [lastFound_trans before.grown now.grown more, now.last]⟩
    rw [same, ends_map]
    rcases ended : (ends attempt u).1 with f | e | b <;> rw [ended] at all <;> exact all

end Log

/-! ## Responses -/

/-- The response in what a service has said, if it is acceptable. -/
def acceptable? (budgetMs : Int) : ServiceOutcome → Option Response
  | .response r => (withinBudget budgetMs r).toOption
  | _ => none

/-- The response to a request with its number, if it is acceptable. -/
def accepted? (setup : Setup) (budgetMs : Int) (sent : Request × Nat) : Option Response :=
  acceptable? budgetMs (setup.service sent.2 sent.1).outcome

/-- The responses that were accepted from one state to another. -/
abbrev Answers (setup : Setup) (budgetMs : Int) : RunState → List Response → RunState → Prop :=
  Finds RunState.sent (accepted? setup budgetMs)

theorem gained_received (budgetMs : Int) (outcome : ServiceOutcome) :
    gained (received budgetMs outcome) = (acceptable? budgetMs outcome).toList := by
  cases outcome with
  | response r =>
      rw [received, acceptable?]
      cases withinBudget budgetMs r <;> rfl
  | noResponse reason => rfl
  | broken message => rfl

theorem logs_sendOnce (request : Request) (budgetMs : Int) :
    Logs RunState.sent (accepted? setup budgetMs) (sendOnce setup request budgetMs) := by
  intro s
  rw [ends_sendOnce]
  exact ⟨request, rfl, (gained_received budgetMs _).symm⟩

/-- The response that a round goes on with. -/
def Sent.answers : Sent → List Response
  | .answer r _ => [r]
  | .failure _ => []
  | .fault _ => []

/-- **The sends of a round** are answered by the response that the round goes on with, or not at all. -/
theorem answers_sendRound {p : Plan} {sent : Sent} (returned : Returns (sendRound setup p) s sent t) :
    FindsLast RunState.sent (accepted? setup p.step.maxDurationMs) s sent.answers t := by
  have brought : FindsLast RunState.sent (accepted? setup p.step.maxDurationMs) s
      (gained ((ends (send setup p.request ⟨p.step.retry, p.step.retryWaitMs⟩ p.step.maxDurationMs) s).1.map Prod.fst))
      (ends (send setup p.request ⟨p.step.retry, p.step.retryWaitMs⟩ p.step.maxDurationMs) s).2 :=
    Retry.run_finds (logs_sendOnce p.request p.step.maxDurationMs)
      (fun wait number => (keeps_outer_pause _ setup wait number).comp Prod.fst) s
  rw [sendRound_eq, Returns, ends_tryCatch, bind_pure_comp, ends_map] at returned
  rcases ended : ends (send setup p.request ⟨p.step.retry, p.step.retryWaitMs⟩ p.step.maxDurationMs) s with
    ⟨f | ⟨e | r, attempts⟩, u⟩ <;> rw [ended] at returned brought <;> cases returned <;> exact brought

/-- The response to the last request of a run, if it is acceptable. -/
def lastAnswer? (setup : Setup) (budgetMs : Int) (t : RunState) : Option Response :=
  (lastReply? setup t).bind (acceptable? budgetMs)

/-! ## Outputs -/

/-- The output of a command with its number, if the command has succeeded. -/
def finished? (setup : Setup) (ran : (Text × Double) × Nat) : Option Output :=
  match (setup.shell ran.2 ran.1.1 ran.1.2).outcome with
  | .output o => (withoutFailure o).toOption
  | _ => none

/-- The outputs of the commands that have succeeded from one state to another. -/
abbrev Outputs (setup : Setup) : RunState → List Output → RunState → Prop :=
  Finds RunState.commands (finished? setup)

theorem logs_runOnce (command : Text) (limit : Double) :
    Logs RunState.commands (finished? setup) (runOnce setup command limit) := by
  intro s
  rw [ends_runOnce]
  refine ⟨(command, limit), rfl, ?_⟩
  cases outcome : (setup.shell s.commands.length command limit).outcome with
  | output o =>
      simp only [finished?, outcome, brought]
      cases withoutFailure o <;> rfl
  | refused reason => simp [finished?, outcome, brought, gained]
  | timedOut => simp [finished?, outcome, brought, gained]
  | broken message => simp [finished?, outcome, brought, gained]

/-- **The tries of a command** have brought the output of the one that has succeeded, or nothing. -/
theorem outputs_tries {step : Step} {c : CommandTemplate} {limit : Double} {outcome : Except CommandError Output}
    (returned : Returns (tries setup step c limit u) s outcome t) :
    FindsLast RunState.commands (finished? setup) s outcome.toOption.toList t := by
  rw [tries, runCommand, bind_pure_comp, Returns, ends_map] at returned
  have brought : FindsLast RunState.commands (finished? setup) s
      (gained
        ((ends (Retry.run ⟨step.retry, step.retryWaitMs⟩ setup (runOnce setup (commandText setup c u) limit)) s).1.map
        Prod.fst))
      (ends (Retry.run ⟨step.retry, step.retryWaitMs⟩ setup (runOnce setup (commandText setup c u) limit)) s).2 :=
    Retry.run_finds (logs_runOnce (commandText setup c u) limit)
      (fun wait number => (keeps_outer_pause _ setup wait number).comp fun o => o.2.1) s
  rcases ended :
    ends (Retry.run ⟨step.retry, step.retryWaitMs⟩ setup (runOnce setup (commandText setup c u) limit)) s with
    ⟨f | ⟨e | o, number⟩, v⟩ <;> rw [ended] at returned brought <;> cases returned <;> exact brought

/-! ## The captures of a step -/

/-- What the captures of a step are taken from, from one state to another. -/
def products (setup : Setup) (step : Step) (s t : RunState) : List Capture.Product :=
  match step.action with
  | .send _ => ((added s.sent t.sent).filterMap (accepted? setup step.maxDurationMs)).map fun r => .body r.body
  | .run _ => ((added s.commands t.commands).filterMap (finished? setup)).map fun o => .output (Text.trim o.stdout)

/-- What a step has captured from one state to another: in order of rounds, and then of entries. -/
def captured (setup : Setup) (step : Step) (s t : RunState) : List (Text × Text) :=
  (products setup step s t).flatMap fun product => Capture.writes product step.captures

/-- What the last call of a step has brought, from one state to another: nothing if that call has failed. -/
def lastProduct? (setup : Setup) (step : Step) (s t : RunState) : Option Capture.Product :=
  match step.action with
  | .send _ => (lastFound RunState.sent (accepted? setup step.maxDurationMs) s t).map fun r => .body r.body
  | .run _ => (lastFound RunState.commands (finished? setup) s t).map fun o => .output (Text.trim o.stdout)

/-- What a step captures from the response to the last request of a run. -/
def lastCaptured (setup : Setup) (step : Step) (t : RunState) : List (Text × Text) :=
  (lastAnswer? setup step.maxDurationMs t).elim [] fun r => Capture.writes (.body r.body) step.captures

end Running

end ApiFlow
