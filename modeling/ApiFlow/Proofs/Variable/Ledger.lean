import ApiFlow.Proofs.Run.Captured

/-!
# Values and sources in two tables

The variables of a run can also be kept in two tables, one for the values and one for where they came from.  Each write
goes into both, a flag into the second only.  Whatever is done to them, the two tables stay in step: they are the values
and the sources of the variables that a run keeps in one table.

A flag goes by the name of a step.  A write that names no step, such as one by the command line, is out of its reach, since
no step is reported under an empty name.

* `Ledger.writeAll`, `Ledger.markFailed` : writes into both tables, and the loop that flags what a step has written.
* `Capture.landed` : what capture entries write until one of them stops, and `Capture.context_harvest` : just that.
* `Operation` : what can be done to variables; `Ledger.apply` and `Context.apply` do it.
* `Mirrors`, `Mirrors.apply` : the two tables against the one, and what an operation keeps of it.
* `get?_foldl_apply` : the latest write stays as it was made unless its step is flagged afterwards.
* `ledger_coherent` : all of it along every sequence of operations.
-/

set_option autoImplicit false

namespace ApiFlow

/-- **A step is never reported under an empty name.** -/
theorem Flow.Step.displayName_ne_nil (s : Flow.Step) : s.displayName ≠ [] := by
  unfold displayName
  split
  · rename_i named
    simpa using named
  · split
    · rename_i identified
      simpa using identified
    · decide

/-! ## Changes in place -/

namespace Table

variable {α : Type} {front : Table α} {name : Text}

theorem set_append (fresh : name ∉ names front) (old new : α) (rest : Table α) :
    set (front ++ (name, old) :: rest) name new = front ++ (name, new) :: rest := by
  induction front with
  | nil => exact if_pos rfl
  | cons entry front ih =>
      obtain ⟨other, fresh⟩ := not_or.mp (mt List.mem_cons.mpr fresh)
      rw [List.cons_append, set, if_neg (Ne.symm other), ih fresh, List.cons_append]

/-- **A loop over a table** that writes some of its values anew changes just these, since no name comes twice. -/
theorem foldl_set (chosen : α → Prop) [DecidablePred chosen] (change : α → α) {table : Table α}
    (distinct : (names table).Nodup) :
    table.foldl (fun t entry => if chosen entry.2 then set t entry.1 (change entry.2) else t) table =
      table.map fun entry => (entry.1, if chosen entry.2 then change entry.2 else entry.2) := by
  -- the entries before the current one are done, and the table still holds the others as they were
  have go : ∀ rest front : Table α, (names (front ++ rest)).Nodup →
      rest.foldl (fun t entry => if chosen entry.2 then set t entry.1 (change entry.2) else t) (front ++ rest) =
        front ++ rest.map fun entry => (entry.1, if chosen entry.2 then change entry.2 else entry.2) := by
    intro rest
    induction rest with
    | nil => exact fun _ _ => rfl
    | cons entry rest ih =>
        intro front distinct
        obtain ⟨name, value⟩ := entry
        have fresh : name ∉ names front := by
          rw [names, List.map_append] at distinct
          exact fun old => (List.nodup_append.mp distinct).2.2 _ old _ List.mem_cons_self rfl
        have one : (if chosen value then set (front ++ (name, value) :: rest) name (change value)
            else front ++ (name, value) :: rest) =
            (front ++ [(name, if chosen value then change value else value)]) ++ rest := by
          rw [List.append_assoc]
          split
          · exact set_append fresh value (change value) rest
          · rfl
        have same : names ((front ++ [(name, if chosen value then change value else value)]) ++ rest) =
            names (front ++ (name, value) :: rest) := by
          simp [names]
        rw [List.foldl_cons, one, ih _ (same ▸ distinct), List.append_assoc, List.singleton_append, List.map_cons]
  exact go table [] distinct

end Table

/-! ## Captures that may stop -/

namespace Capture

variable {product : Product} {step : Text} {h : Harvest}

/-- What capture entries write until the query of one of them stops. -/
def landed (product : Product) (entries : List Text) : List (Text × Text) :=
  writes product (entries.takeWhile fun entry => (entryFault? product entry).isNone)

/-- A query that stops writes nothing. -/
theorem context_take_of_fault (running : h.fault? = none) {entry : Text} {f : Fault}
    (stops : entryFault? product entry = some f) : (h.take product step entry).context = h.context := by
  unfold entryFault? at stops
  unfold Harvest.take
  rw [running]
  cases parsed : parse? entry with
  | none => simp [parsed] at stops
  | some p =>
      cases found : find p.2 product with
      | error f => simp [found]
      | ok value? => simp [parsed, found] at stops

/-- **A harvest writes what has landed before it stops**, and nothing else. -/
theorem context_harvest (product : Product) (step : Text) (c : Context) (entries : List Text) :
    (harvest product step c entries).context = c.writeAll step (landed product entries) := by
  have fits : faultIn? product (entries.takeWhile fun entry => (entryFault? product entry).isNone) = none :=
    List.findSome?_eq_none_iff.mpr fun entry listed =>
      Option.isNone_iff_eq_none.mp (List.all_eq_true.mp List.all_takeWhile entry listed)
  have reaped : Reaped step c (landed product entries) _ := reaped_harvest fits
  have running : (harvest product step c _).fault? = none := (fault?_harvest c _).trans fits
  have split : harvest product step c entries =
      (entries.dropWhile fun entry => (entryFault? product entry).isNone).foldl (Harvest.take product step)
        (harvest product step c (entries.takeWhile fun entry => (entryFault? product entry).isNone)) := by
    rw [harvest, harvest, ← List.foldl_append, List.takeWhile_append_dropWhile]
  rw [split, ← reaped.context]
  cases rest : entries.dropWhile fun entry => (entryFault? product entry).isNone with
  | nil => rfl
  | cons entry others =>
      have first := List.head?_dropWhile_not (fun entry => (entryFault? product entry).isNone) entries
      obtain ⟨f, stops⟩ : ∃ f, entryFault? product entry = some f :=
        Option.isSome_iff_exists.mp (by simpa [rest] using first)
      rw [List.foldl_cons, foldl_take_of_fault ((fault?_take running entry).trans stops),
        context_take_of_fault running stops]

end Capture

/-! ## Two tables -/

/-- The values of the variables, and next to them where each came from. -/
structure Ledger where
  values : Table Text := []
  sources : Table Source := []
  deriving DecidableEq, Repr

/-- What can be done to the variables of a run. -/
inductive Operation where
  | assign (name value : Text)
  | write (name : Text) (source : Source)
  | markFailed (step : Text)
  | capture (product : Capture.Product) (step : Text) (entries : List Text)

/-- The writes of an operation. -/
def Operation.writes : Operation → List (Text × Source)
  | assign name value => [(name, { value })]
  | write name source => [(name, source)]
  | markFailed _ => []
  | capture product step entries => (Capture.landed product entries).map (Context.sourced step)

namespace Ledger

/-- Writes a variable into both tables. -/
def write (l : Ledger) (name : Text) (source : Source) : Ledger where
  values := Table.set l.values name source.value
  sources := Table.set l.sources name source

/-- Makes some writes, one after the other. -/
def writeAll (l : Ledger) (writes : List (Text × Source)) : Ledger := writes.foldl (fun l w => l.write w.1 w.2) l

/-- Goes over the sources, and flags each that bears the name of the step. -/
def markFailed (l : Ledger) (step : Text) : Ledger :=
  { l with sources := l.sources.foldl (fun sources entry =>
      if entry.2.step = step then Table.set sources entry.1 { entry.2 with standing := .failed } else sources) l.sources }

/-- What the command line writes: values that come from no step. -/
def given (vars : Table Text) : List (Text × Source) := vars.map fun v => (v.1, { value := v.2, origin := .commandLine })

/-- Two empty tables with the variables of the command line written into them. -/
def ofCommandLine (vars : Table Text) : Ledger := writeAll {} (given vars)

/-- Does an operation to both tables. -/
def apply (l : Ledger) : Operation → Ledger
  | .assign name value => l.write name { value }
  | .write name source => l.write name source
  | .markFailed step => l.markFailed step
  | .capture product step entries => l.writeAll ((Capture.landed product entries).map (Context.sourced step))

end Ledger

/-- Does an operation to the variables of a run. -/
def Context.apply (c : Context) : Operation → Context
  | .assign name value => c.assign name value
  | .write name source => c.write name source
  | .markFailed step => c.markFailed step
  | .capture product step entries => (Capture.harvest product step c entries).context

/-- Two tables that hold the values and the sources of the variables of a run, each name once. -/
structure Mirrors (l : Ledger) (c : Context) : Prop where
  values : l.values = c.values
  sources : l.sources = c
  distinct : (Table.names c).Nodup

namespace Mirrors

variable {l : Ledger} {c : Context} {name : Text} {source : Source}

theorem write (mirrors : Mirrors l c) (name : Text) (source : Source) :
    Mirrors (l.write name source) (c.write name source) where
  values := by rw [Ledger.write, mirrors.values, Context.values_write]
  sources := by rw [Ledger.write, mirrors.sources, Context.write]
  distinct := Table.nodup_names_set mirrors.distinct name source

theorem writeAll (mirrors : Mirrors l c) (writes : List (Text × Source)) :
    Mirrors (l.writeAll writes) (Table.setAll c writes) := by
  induction writes generalizing l c with
  | nil => exact mirrors
  | cons w rest ih => exact ih (mirrors.write w.1 w.2)

theorem markFailed (mirrors : Mirrors l c) (step : Text) : Mirrors (l.markFailed step) (c.markFailed step) where
  values := by rw [Context.values_markFailed, ← mirrors.values, Ledger.markFailed]
  sources := by
    rw [Ledger.markFailed, mirrors.sources]
    exact Table.foldl_set (fun s : Source => s.step = step) (fun s => { s with standing := .failed }) mirrors.distinct
  distinct := by
    have names : Table.names (c.markFailed step) = Table.names c := List.map_map
    exact names ▸ mirrors.distinct

/-- **The command line** fills both tables alike. -/
theorem ofCommandLine {vars : Table Text} (distinct : (Table.names vars).Nodup) :
    Mirrors (.ofCommandLine vars) (.ofCommandLine vars) := by
  have empty : Mirrors {} ([] : Context) := ⟨rfl, rfl, List.nodup_nil⟩
  have names : Table.names (Ledger.given vars) = Table.names vars := List.map_map
  have whole : Table.setAll [] (Ledger.given vars) = Ledger.given vars := Table.ofWrites_of_nodup (names ▸ distinct)
  have filled := empty.writeAll (Ledger.given vars)
  rwa [whole] at filled

/-- **Each operation** does the same to the two tables and to the one. -/
theorem apply (mirrors : Mirrors l c) (op : Operation) : Mirrors (l.apply op) (c.apply op) := by
  cases op with
  | assign name value => exact mirrors.write name { value }
  | write name source => exact mirrors.write name source
  | markFailed step => exact mirrors.markFailed step
  | capture product step entries =>
      rw [Context.apply, Capture.context_harvest]
      exact mirrors.writeAll _

theorem foldl (mirrors : Mirrors l c) (ops : List Operation) :
    Mirrors (ops.foldl Ledger.apply l) (ops.foldl Context.apply c) := by
  induction ops generalizing l c with
  | nil => exact mirrors
  | cons op rest ih => exact ih (mirrors.apply op)

theorem names (mirrors : Mirrors l c) : Table.names l.values = Table.names l.sources := by
  rw [mirrors.values, mirrors.sources]
  exact List.map_map

theorem agree (mirrors : Mirrors l c) (found : Table.get? l.sources name = some source) :
    Table.get? l.values name = some source.value := by
  rw [mirrors.sources] at found
  rw [mirrors.values, Context.get?_values, Context.value?, found, Option.map_some]

/-- **A flag** changes the standing of the sources that bear the name of the step, and nothing else. -/
theorem get?_markFailed (mirrors : Mirrors l c) (step name : Text) :
    Table.get? (l.markFailed step).sources name =
      (Table.get? l.sources name).map fun source =>
        if source.step = step then { source with standing := .failed } else source := by
  rw [(mirrors.markFailed step).sources, mirrors.sources, Context.get?_markFailed]
  rfl

end Mirrors

/-! ## The latest write -/

namespace Context

variable {c : Context} {name : Text} {source : Source}

/-- An operation that is no flag leaves the table that its writes make up. -/
theorem apply_eq_setAll (c : Context) {op : Operation} (noFlag : ∀ step, op ≠ .markFailed step) :
    c.apply op = Table.setAll c op.writes := by
  cases op with
  | assign name value => rfl
  | write name source => rfl
  | markFailed step => exact absurd rfl (noFlag step)
  | capture product step entries => exact Capture.context_harvest product step c entries

/-- **One operation** leaves the latest write as it was made, unless it flags the step of the write. -/
theorem get?_apply {op : Operation} (unflagged : op ≠ .markFailed source.step)
    (latest : (Table.last? op.writes name).or (Table.get? c name) = some source) :
    Table.get? (c.apply op) name = some source := by
  by_cases flags : ∃ step, op = .markFailed step
  · obtain ⟨step, rfl⟩ := flags
    have found : Table.get? c name = some source := latest
    have other : source.step ≠ step := fun same => unflagged (same ▸ rfl)
    rw [apply, get?_markFailed, found, Option.map_some, flag, if_neg other]
  · rw [apply_eq_setAll c (not_exists.mp flags), Table.get?_setAll, latest]

/-- **Some operations** leave the latest write as it was made, unless one of them flags the step of the write. -/
theorem get?_foldl_apply {ops : List Operation} (unflagged : .markFailed source.step ∉ ops)
    (latest : (Table.last? (ops.flatMap Operation.writes) name).or (Table.get? c name) = some source) :
    Table.get? (ops.foldl apply c) name = some source := by
  induction ops generalizing c with
  | nil => exact latest
  | cons op rest ih =>
      obtain ⟨first, later⟩ := List.ne_and_not_mem_of_not_mem_cons unflagged
      rw [List.flatMap_cons, Table.last?_append, Option.or_assoc] at latest
      refine ih later ?_
      cases written : Table.last? (rest.flatMap Operation.writes) name with
      | some last => rwa [written] at latest
      | none =>
          rw [written, Option.none_or] at latest
          exact get?_apply (Ne.symm first) latest

end Context

/-! ## Along a run -/

variable {vars : List (Text × Text)} {ops : List Operation} {name value : Text} {source : Source}

/-- The two tables of a run that begins with what the command line gives. -/
def Ledger.after (vars : List (Text × Text)) (ops : List Operation) : Ledger :=
  ops.foldl Ledger.apply (.ofCommandLine (Table.ofWrites vars))

/-- The variables of a run that begins with what the command line gives. -/
def Context.after (vars : List (Text × Text)) (ops : List Operation) : Context :=
  ops.foldl Context.apply (.ofCommandLine (Table.ofWrites vars))

/-- All writes of such a run, those of the command line first. -/
def Ledger.history (vars : List (Text × Text)) (ops : List Operation) : List (Text × Source) :=
  given vars ++ ops.flatMap Operation.writes

theorem mirrors_after (vars : List (Text × Text)) (ops : List Operation) :
    Mirrors (.after vars ops) (.after vars ops) :=
  (Mirrors.ofCommandLine (Table.nodup_names_ofWrites vars)).foldl ops

theorem last?_given (vars : List (Text × Text)) (name : Text) :
    Table.last? (Ledger.given vars) name =
      (Table.last? vars name).map fun value => { value, origin := .commandLine } := by
  rw [Table.last?, Ledger.given, ← List.map_reverse]
  exact Table.get?_map (fun value => ({ value, origin := .commandLine } : Source)) vars.reverse name

/-- The command line leaves the last of its values for each name. -/
theorem get?_ofCommandLine (vars : List (Text × Text)) (name : Text) :
    Table.get? (Context.ofCommandLine (Table.ofWrites vars)) name = Table.last? (Ledger.given vars) name := by
  have found : Table.get? (Table.ofWrites vars) name = Table.last? vars name := by
    rw [Table.ofWrites, Table.get?_setAll]
    exact Option.or_none
  rw [last?_given, ← found]
  exact Table.get?_map (fun value => ({ value, origin := .commandLine } : Source)) (Table.ofWrites vars) name

/-- **A write that names no step** stays as it was made until the variable is written again. -/
theorem get?_after_of_stepless (named : ∀ step, .markFailed step ∈ ops → ∃ s : Flow.Step, step = s.displayName)
    (latest : Table.last? (Ledger.history vars ops) name = some source) (stepless : source.step = []) :
    Table.get? (Context.after vars ops) name = some source := by
  have unflagged : .markFailed source.step ∉ ops := by
    intro flags
    obtain ⟨s, same⟩ := named _ flags
    exact s.displayName_ne_nil (same ▸ stepless)
  rw [Ledger.history, Table.last?_append, ← get?_ofCommandLine] at latest
  exact Context.get?_foldl_apply unflagged latest

/-- What the command line has written counts as long as nothing else writes the variable. -/
theorem last?_history_of_unwritten (given : Table.last? vars name = some value)
    (unwritten : name ∉ (ops.flatMap Operation.writes).map Prod.fst) :
    Table.last? (Ledger.history vars ops) name = some { value, origin := .commandLine } := by
  rw [Ledger.history, Table.last?_append, Table.last?_eq_none_iff.mpr unwritten, Option.none_or, last?_given, given,
    Option.map_some]

/-- **The two tables stay in step, whatever is done to them.**  After any operations they are the values and the sources of
the variables that a run keeps: they have the same names, each once, and each source tells the value next to it.  A flag
leaves the values as they are and, of the sources, changes the standing of those that bear the name of the step.  Where
only steps are flagged, each under the name that it is reported under, a value that the command line has written last never
gets to be failed; and any other last write that names no step stays as it was made. -/
theorem ledger_coherent (vars : List (Text × Text)) (ops : List Operation) :
    ((Ledger.after vars ops).sources = Context.after vars ops ∧
      (Ledger.after vars ops).values = (Context.after vars ops).values) ∧
    (Table.names (Ledger.after vars ops).values = Table.names (Ledger.after vars ops).sources ∧
      (Table.names (Ledger.after vars ops).sources).Nodup) ∧
    (∀ name source, Table.get? (Ledger.after vars ops).sources name = some source →
      Table.get? (Ledger.after vars ops).values name = some source.value) ∧
    (∀ step, ((Ledger.after vars ops).markFailed step).values = (Ledger.after vars ops).values ∧
      ∀ name, Table.get? ((Ledger.after vars ops).markFailed step).sources name =
        (Table.get? (Ledger.after vars ops).sources name).map fun source =>
          if source.step = step then { source with standing := .failed } else source) ∧
    ((∀ step, .markFailed step ∈ ops → ∃ s : Flow.Step, step = s.displayName) →
      (∀ name value, Table.last? vars name = some value → name ∉ (ops.flatMap Operation.writes).map Prod.fst →
        Table.get? (Ledger.after vars ops).sources name = some { value, standing := .good, origin := .commandLine }) ∧
      ∀ name source, Table.last? (Ledger.history vars ops) name = some source → source.step = [] →
        Table.get? (Ledger.after vars ops).sources name = some source) := by
  have mirrors := mirrors_after vars ops
  refine ⟨⟨mirrors.sources, mirrors.values⟩, ⟨mirrors.names, ?_⟩, fun name source => mirrors.agree,
    fun step => ⟨rfl, mirrors.get?_markFailed step⟩, fun named => ?_⟩
  · rw [mirrors.sources]
    exact mirrors.distinct
  · rw [mirrors.sources]
    refine ⟨fun name value given unwritten => ?_, fun name source => get?_after_of_stepless named⟩
    exact get?_after_of_stepless named (last?_history_of_unwritten given unwritten) rfl

/-- A run in which the command line gives two variables, a step captures one of them anew, and that step fails. -/
theorem ledger_coherent_login :
    Table.get? (Ledger.after [("env".toList, "dev".toList), ("token".toList, "seed".toList)]
        [.capture (.output "abc".toList) "login".toList ["token = $stdout".toList], .markFailed "login".toList]).sources
      "env".toList = some { value := "dev".toList, standing := .good, origin := .commandLine } ∧
    Table.get? (Ledger.after [("env".toList, "dev".toList), ("token".toList, "seed".toList)]
        [.capture (.output "abc".toList) "login".toList ["token = $stdout".toList], .markFailed "login".toList]).sources
      "token".toList = some { value := "abc".toList, step := "login".toList, standing := .failed } := by
  refine ⟨?_, by decide⟩
  refine ((ledger_coherent _ _).2.2.2.2 ?_).1 "env".toList "dev".toList (by decide) (by decide)
  intro step flags
  refine ⟨{ name := "login".toList }, ?_⟩
  simpa [Flow.Step.displayName] using flags

end ApiFlow
