import Mathlib.Data.ENat.Lattice
import ApiFlow.Proofs.Run.Verdict

/-!
# How often a call is tried

A call is tried until an attempt settles it or no repetition is left, with one pause between two attempts and none behind
the last.  The outcomes of the attempts may be any sequence; they are what the service or the shell says to the calls of
one run, one after the other.

* `firstPlace` : where the first attempt stands that settles the call, counted from one; there may be none.
* `course` : attempts and pauses in the order in which they happen.
* `repeated_course` : the attempts of a run, their number, and what they come to.
* `attempts_iff` : requests and commands are tried as the rule says, exactly if its wait is a finite number of seconds.
-/

set_option autoImplicit false

namespace ApiFlow

namespace Duration

theorem seconds_eq_ok_iff {ms : Int} {x : Double} :
    seconds ms = .ok x ↔ Double.ofQuotient ms 1000 = x ∧ ∀ negative, x ≠ .infinite negative := by
  rw [seconds]
  split
  · rename_i negative infinite
    refine iff_of_false (by simp) ?_
    rintro ⟨rfl, finite⟩
    exact finite negative infinite
  · rename_i finite
    rw [Except.ok.injEq]
    constructor
    · rintro rfl
      exact ⟨rfl, finite⟩
    · exact fun same => same.1

end Duration

namespace Retry

open Running

/-! ## Which attempt is the last -/

/-- The place of the first attempt that settles the call, counted from one. -/
noncomputable def firstPlace (settled : Nat → Prop) : ℕ∞ := ⨅ (i : Nat) (_ : settled i), ((i + 1 : Nat) : ℕ∞)

/-- The most attempts that a rule allows. -/
def limit (r : Retry) : Nat := (max r.retries 0).toNat + 1

/-- If all attempts in front are unsettled, and the last one is the last allowed or settles the call, then their number
is the smaller of the limit and the place of the first that settles the call. -/
theorem eq_min_firstPlace {settled : Nat → Prop} {more left : Nat} (within : more ≤ left)
    (before : ∀ i < more, ¬ settled i) (last : more = left ∨ settled more) :
    ((more + 1 : Nat) : ℕ∞) = min ((left + 1 : Nat) : ℕ∞) (firstPlace settled) := by
  have first : ((more + 1 : Nat) : ℕ∞) ≤ firstPlace settled := by
    refine le_iInf₂ fun i settles => ?_
    have late : more ≤ i := Nat.le_of_not_lt fun early => before i early settles
    exact_mod_cast Nat.succ_le_succ late
  refine le_antisymm (le_min (by exact_mod_cast Nat.succ_le_succ within) first) ?_
  rcases last with rfl | settles
  · exact min_le_left _ _
  · exact (min_le_right _ _).trans (iInf₂_le more settles)

/-! ## The course of the attempts -/

/-- What happens in the course of the attempts. -/
inductive Happening where
  | attempt
  | pause (number : Nat)
  deriving DecidableEq, Repr

/-- An attempt of some number and so many more behind it: a pause between two attempts, and none behind the last. -/
def course : (number more : Nat) → List Happening
  | _, 0 => [.attempt]
  | number, more + 1 => .attempt :: .pause number :: course (number + 1) more

/-- The state behind a pause. -/
def afterPause (r : Retry) (setup : Setup) (wait : Double) (number : Nat) (s : RunState) : RunState :=
  { s with
    printed := if setup.quiet then s.printed else s.printed ++ Report.retry number r.retries r.waitMs
    sleeps := s.sleeps ++ [wait]
    clock := s.clock.add wait }

/-- The state behind what happens, if each attempt changes the state in one way. -/
def after (r : Retry) (setup : Setup) (wait : Double) (call : RunState → RunState) : Happening → RunState → RunState
  | .attempt => call
  | .pause number => afterPause r setup wait number

/-- The state behind a whole course. -/
def afterAll (r : Retry) (setup : Setup) (wait : Double) (call : RunState → RunState) (happenings : List Happening)
    (s : RunState) : RunState :=
  happenings.foldl (fun s h => after r setup wait call h s) s

theorem returns_pause (r : Retry) (setup : Setup) (wait : Double) (number : Nat) (s : RunState) :
    Returns (r.pause setup wait number) s () (afterPause r setup wait number s) := by
  rw [pause, sleep]
  refine returns_bind.mpr ⟨(), _, returns_modify.mpr rfl, ?_⟩
  refine returns_bind.mpr ⟨(), _, returns_modify.mpr rfl, returns_pass.mpr ?_⟩
  cases quiet : setup.quiet <;> simp [afterPause, quiet]

/-- A computation that makes one call: what the call comes to hangs on how many were made before. -/
structure Calls {ε α κ : Type} (attempt : Running (Except ε α)) (log : RunState → List κ) (made : κ)
    (outcome : Nat → Except Fault (Except ε α)) (call : RunState → RunState) : Prop where
  ends : ∀ s, ApiFlow.ends attempt s = (outcome (log s).length, call s)
  log_call : ∀ s, log (call s) = log s ++ [made]
  log_pause : ∀ (r : Retry) setup wait number s, log (afterPause r setup wait number s) = log s
  sleeps_call : ∀ s, (call s).sleeps = s.sleeps

variable {ε α κ : Type} {attempt : Running (Except ε α)} {log : RunState → List κ} {made : κ}
  {outcome : Nat → Except Fault (Except ε α)} {call : RunState → RunState}

/-- The call has failed, so that it is tried again if that is allowed. -/
def isFailure : Except Fault (Except ε α) → Bool
  | .ok (.error _) => true
  | _ => false

/-- **The attempts of a call**: every one in front of the last has failed, the last has not or is the last allowed, and
what the last comes to is what the whole comes to. -/
theorem repeated_course (calls : Calls attempt log made outcome call) (r : Retry) (setup : Setup) (wait : Double)
    (left number : Nat) (s : RunState) :
    ∃ more ≤ left, (∀ i < more, isFailure (outcome ((log s).length + i)) = true) ∧
      (more = left ∨ isFailure (outcome ((log s).length + more)) = false) ∧
      ends (repeated attempt (r.pause setup wait) left number) s =
        ((outcome ((log s).length + more)).map (·, number + more),
          afterAll r setup wait call (course number more) s) := by
  induction left generalizing number s with
  | zero =>
      refine ⟨0, Nat.le_refl 0, by simp, .inl rfl, ?_⟩
      rw [ends_repeated_zero, ends_map, calls.ends]
      rfl
  | succ left ih =>
      by_cases failed : isFailure (outcome (log s).length) = true
      · obtain ⟨e, met⟩ : ∃ e, outcome (log s).length = .ok (.error e) := by
          rcases found : outcome (log s).length with f | e | a
          · rw [found] at failed
            cases failed
          · exact ⟨e, rfl⟩
          · rw [found] at failed
            cases failed
        obtain ⟨more, within, before, last, same⟩ := ih (number + 1) (afterPause r setup wait number (call s))
        have one : (log (afterPause r setup wait number (call s))).length = (log s).length + 1 := by
          rw [calls.log_pause, calls.log_call, List.length_append, List.length_singleton]
        -- what the later attempts see is shifted by the one that was made here
        have shift : ∀ i, (log s).length + 1 + i = (log s).length + (i + 1) := by omega
        rw [one] at before last same
        simp only [shift] at before last same
        refine ⟨more + 1, Nat.succ_le_succ within, ?_, last.imp (congrArg (· + 1)) id, ?_⟩
        · intro i early
          cases i with
          | zero => exact failed
          | succ i => exact before i (Nat.lt_of_succ_lt_succ early)
        · have count : number + 1 + more = number + (more + 1) := by omega
          rw [repeated, ends_bind, calls.ends, met]
          change ends (r.pause setup wait number >>= fun _ =>
            repeated attempt (r.pause setup wait) left (number + 1)) (call s) = _
          rw [(returns_pause r setup wait number (call s)).ends_bind, same, count]
          rfl
      · refine ⟨0, Nat.zero_le _, by simp, .inr (by simpa using failed), ?_⟩
        rw [repeated, ends_bind, calls.ends, Nat.add_zero]
        rcases found : outcome (log s).length with f | e | a
        · rfl
        · rw [found] at failed
          exact absurd rfl failed
        · rfl

/-- A course makes one call for each attempt, and sleeps once for each attempt but the last. -/
theorem log_afterAll (calls : Calls attempt log made outcome call) (r : Retry) (setup : Setup) (wait : Double)
    (number more : Nat) (s : RunState) :
    log (afterAll r setup wait call (course number more) s) = log s ++ List.replicate (more + 1) made ∧
      (afterAll r setup wait call (course number more) s).sleeps = s.sleeps ++ List.replicate more wait := by
  induction more generalizing number s with
  | zero => simp [course, afterAll, after, calls.log_call, calls.sleeps_call]
  | succ more ih =>
      obtain ⟨made', slept⟩ := ih (number + 1) (afterPause r setup wait number (call s))
      have front : afterAll r setup wait call (course number (more + 1)) s =
          afterAll r setup wait call (course (number + 1) more) (afterPause r setup wait number (call s)) := rfl
      rw [front, made', slept, calls.log_pause, calls.log_call]
      simp [afterPause, calls.sleeps_call, List.replicate_succ]

/-- The seconds between two attempts: the double nearest to the milliseconds over a thousand, a negative number counting
as zero. -/
def wait (r : Retry) : Double := Double.ofQuotient (max r.waitMs 0) 1000

/-- The wait of a rule is a finite number of seconds. -/
def HasWait (r : Retry) : Prop := ∀ negative, r.wait ≠ .infinite negative

/-- The attempts that a rule promises from one state to another, given which outcomes are to be tried again: their number
is the smaller of the limit and the place of the first that is not, each makes the call once, and between two of them
there is one sleep of the rule's wait. -/
structure Attempts (r : Retry) (setup : Setup) (log : RunState → List κ) (made : κ) (call : RunState → RunState)
    (retried : Nat → Bool) (s t : RunState) (n : Nat) : Prop where
  number : (n : ℕ∞) = min (r.limit : ℕ∞) (firstPlace fun i => retried i = false)
  calls : log t = log s ++ List.replicate n made
  sleeps : t.sleeps = s.sleeps ++ List.replicate (n - 1) r.wait
  course : t = afterAll r setup r.wait call (course 1 (n - 1)) s

/-- **A rule with a finite wait keeps its promise**, and the whole comes to what the last attempt comes to. -/
theorem run_attempts (calls : Calls attempt log made outcome call) {r : Retry} (finite : r.HasWait) (setup : Setup)
    (s : RunState) :
    ∃ n t, Attempts r setup log made call (fun i => isFailure (outcome ((log s).length + i))) s t n ∧
      ends (r.run setup attempt) s = ((outcome ((log s).length + (n - 1))).map (·, n), t) := by
  have span := Duration.seconds_eq_ok_iff.mpr ⟨rfl, finite⟩
  obtain ⟨more, within, before, last, ended⟩ := repeated_course calls r setup r.wait (max r.retries 0).toNat 1 s
  obtain ⟨logged, slept⟩ := log_afterAll calls r setup r.wait 1 more s
  refine ⟨more + 1, _, ⟨?_, logged, slept, rfl⟩, ?_⟩
  · exact eq_min_firstPlace within (fun i early => by simp [before i early]) last
  · rw [run, span, (returns_guard.mpr ⟨rfl, rfl⟩).ends_bind, Nat.add_sub_cancel, Nat.add_comm more 1]
    exact ended

theorem hasWait_or (r : Retry) : r.HasWait ∨ ∃ negative, r.wait = .infinite negative := by
  rw [HasWait, ← not_exists]
  exact (em _).symm

/-- A rule whose wait is too long makes no attempt. -/
theorem run_unattempted {r : Retry} {negative : Bool} (infinite : r.wait = .infinite negative) (setup : Setup)
    (attempt : Running (Except ε α)) (s : RunState) :
    ends (r.run setup attempt) s = (.error .durationTooLarge, s) := by
  rw [wait] at infinite
  have span : Duration.seconds (max r.waitMs 0) = .error .durationTooLarge := by rw [Duration.seconds, infinite]
  rw [run, span, ends_bind]
  rfl

/-- What has made no call is not what a rule promises: it promises one attempt at least. -/
theorem Attempts.ne {r : Retry} {setup : Setup} {retried : Nat → Bool} {s t : RunState} {n : Nat}
    (made : Attempts r setup log made call retried s t n) : t ≠ s := by
  rintro rfl
  have none : n = 0 := by simpa using congrArg List.length made.calls
  have some : (1 : ℕ∞) ≤ n := by
    rw [made.number]
    refine le_min (by exact_mod_cast Nat.le_add_left 1 _) (le_iInf₂ fun i _ => ?_)
    exact_mod_cast Nat.le_add_left 1 i
  rw [none] at some
  exact absurd some (by simp)

end Retry

/-! ## Requests and commands -/

/-- A request with this outcome is to be sent again: it brought no response, or one that took longer than allowed. -/
def ServiceOutcome.isRetried (budgetMs : Int) : ServiceOutcome → Bool
  | .response r => 0 < budgetMs && decide (budgetMs < r.durationMs)
  | .noResponse _ => true
  | .broken _ => false

/-- A command with this outcome is to be run again: it was refused, ran out of time, or ended with another status than
zero. -/
def ShellOutcome.isRetried : ShellOutcome → Bool
  | .output o => o.code ≠ 0
  | .refused _ => true
  | .timedOut => true
  | .broken _ => false

namespace Running

open Retry

theorem isFailure_received (budgetMs : Int) (o : ServiceOutcome) :
    isFailure (received budgetMs o) = o.isRetried budgetMs := by
  cases o with
  | response r =>
      by_cases slow : (0 < budgetMs && decide (budgetMs < r.durationMs)) = true <;>
        simp [received, withinBudget, ServiceOutcome.isRetried, isFailure, slow]
  | noResponse reason => rfl
  | broken message => rfl

theorem isFailure_brought (limit : Double) (o : ShellOutcome) : isFailure (brought limit o) = o.isRetried := by
  cases o with
  | output o =>
      by_cases zero : o.code = 0 <;> simp [brought, withoutFailure, ShellOutcome.isRetried, isFailure, zero]
  | refused reason => rfl
  | timedOut => rfl
  | broken message => rfl

theorem calls_sendOnce (setup : Setup) (request : Request) (budgetMs : Int) :
    Calls (sendOnce setup request budgetMs) RunState.sent request
      (fun i => received budgetMs (setup.service i request).outcome) (afterSend setup request) where
  ends := ends_sendOnce request budgetMs
  log_call _ := rfl
  log_pause _ _ _ _ _ := rfl
  sleeps_call _ := rfl

theorem calls_runOnce (setup : Setup) (command : Text) (limit : Double) :
    Calls (runOnce setup command limit) RunState.commands (command, limit)
      (fun i => brought limit (setup.shell i command limit).outcome) (afterCommand setup command limit) where
  ends := ends_runOnce command limit
  log_call _ := rfl
  log_pause _ _ _ _ _ := rfl
  sleeps_call _ := rfl

/-- **Requests and commands are tried as the rule says, exactly if its wait is a finite number of seconds.**  A request
then comes to its last response or failure, with the number of sends, and a command to its last output or failure. -/
theorem attempts_iff (setup : Setup) (r : Retry) (s : RunState) (request : Request) (budgetMs : Int) (command : Text)
    (limit : Double) :
    ((∃ n t, Attempts r setup RunState.sent request (afterSend setup request)
          (fun i => (setup.service (s.sent.length + i) request).outcome.isRetried budgetMs) s t n ∧
        ends (send setup request r budgetMs) s =
          ((received budgetMs (setup.service (s.sent.length + (n - 1)) request).outcome).map (·, n), t)) ↔ r.HasWait) ∧
    ((∃ n t, Attempts r setup RunState.commands (command, limit) (afterCommand setup command limit)
          (fun i => (setup.shell (s.commands.length + i) command limit).outcome.isRetried) s t n ∧
        ends (runCommand setup command limit r) s =
          (brought limit (setup.shell (s.commands.length + (n - 1)) command limit).outcome, t)) ↔ r.HasWait) := by
  refine ⟨⟨?_, fun finite => ?_⟩, ⟨?_, fun finite => ?_⟩⟩
  · rintro ⟨n, t, made, ended⟩
    refine r.hasWait_or.resolve_right fun ⟨negative, infinite⟩ => made.ne ?_
    exact congrArg Prod.snd (ended.symm.trans (run_unattempted infinite setup _ s))
  · obtain ⟨n, t, made, ended⟩ := run_attempts (calls_sendOnce setup request budgetMs) finite setup s
    simp only [isFailure_received] at made
    exact ⟨n, t, made, ended⟩
  · rintro ⟨n, t, made, ended⟩
    refine r.hasWait_or.resolve_right fun ⟨negative, infinite⟩ => made.ne ?_
    rw [runCommand, bind_pure_comp, ends_map, run_unattempted infinite] at ended
    exact (congrArg Prod.snd ended).symm
  · obtain ⟨n, t, made, ended⟩ := run_attempts (calls_runOnce setup command limit) finite setup s
    simp only [isFailure_brought] at made
    refine ⟨n, t, made, ?_⟩
    rw [runCommand, bind_pure_comp, ends_map, ended]
    cases brought limit (setup.shell (s.commands.length + (n - 1)) command limit).outcome <;> rfl

/-- A rule that repeats nothing, and whose wait is more seconds than a double can hold. -/
def endless : Retry := { waitMs := 10 ^ 400 }

/-- A request that is answered whenever it is sent. -/
def ping : Request := { method := "GET", url := "http://api.test/ping" }

/-- Under that rule the request is not sent, though there would be nothing to wait for. -/
theorem endless_sends_nothing :
    ends (send (answering (.response {})) ping endless 0) fresh = (.error .durationTooLarge, fresh) ∧
      ¬ ∃ n t, Attempts endless (answering (.response {})) RunState.sent ping (afterSend (answering (.response {})) ping)
          (fun i => ((answering (.response {})).service (fresh.sent.length + i) ping).outcome.isRetried 0) fresh t n ∧
        ends (send (answering (.response {})) ping endless 0) fresh =
          ((received 0 ((answering (.response {})).service (fresh.sent.length + (n - 1)) ping).outcome).map (·, n), t) := by
  have infinite : endless.wait = .infinite false := by decide +kernel
  have nothing : ends (send (answering (.response {})) ping endless 0) fresh = (.error .durationTooLarge, fresh) :=
    run_unattempted infinite _ _ _
  refine ⟨nothing, ?_⟩
  rintro ⟨n, t, made, ended⟩
  exact made.ne (congrArg Prod.snd (ended.symm.trans nothing))

end Running

end ApiFlow
