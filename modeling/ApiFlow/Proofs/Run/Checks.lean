import ApiFlow.Proofs.Run.Outcome
import ApiFlow.Run.CommandStep

/-!
# What captures and assertions come to

Captures stop exactly if an entry has a query that stops; assertions stop exactly if one of them does when all before it
have been decided.  For assertions with numbers this takes for granted that decimals do not overflow, as they have no
largest exponent here.

* `Capture.faultIn?` : the fault of the first query that has one, whatever was captured before it.
* `Checks` : assertions are decided one after the other, each with the draws that the one before it has left.
* `returns_capture`, `stops_capture`, `returns_checkAll`, `stops_checkAll` : the specifications.
-/

set_option autoImplicit false

namespace ApiFlow

/-! ## Captures -/

namespace Capture

/-- The fault of one entry: that of its query. -/
def entryFault? (product : Product) (entry : Text) : Option Fault :=
  match parse? entry with
  | none => none
  | some (_, query) =>
    match find query product with
    | .error f => some f
    | .ok _ => none

/-- The first fault among some entries. -/
def faultIn? (product : Product) (entries : List Text) : Option Fault := entries.findSome? (entryFault? product)

variable {product : Product} {step : Text} {h : Harvest}

theorem take_of_fault {f : Fault} (stopped : h.fault? = some f) (entry : Text) :
    h.take product step entry = h := by
  simp [Harvest.take, stopped]

theorem fault?_take (running : h.fault? = none) (entry : Text) :
    (h.take product step entry).fault? = entryFault? product entry := by
  unfold Harvest.take entryFault?
  rw [running]
  cases parse? entry with
  | none => exact running
  | some p =>
      obtain ⟨name, query⟩ := p
      cases found : find query product with
      | error f => simp [found]
      | ok value? =>
          cases value? <;> by_cases unnamed : name.isEmpty <;> simp [found, unnamed, Harvest.add, Harvest.note, running]

theorem foldl_take_of_fault {f : Fault} (stopped : h.fault? = some f) (entries : List Text) :
    entries.foldl (Harvest.take product step) h = h := by
  induction entries with
  | nil => rfl
  | cons entry rest ih => rw [List.foldl_cons, take_of_fault stopped, ih]

theorem fault?_foldl (running : h.fault? = none) (entries : List Text) :
    (entries.foldl (Harvest.take product step) h).fault? = faultIn? product entries := by
  induction entries generalizing h with
  | nil => exact running
  | cons entry rest ih =>
      rw [List.foldl_cons, faultIn?, List.findSome?_cons]
      have first : (h.take product step entry).fault? = entryFault? product entry := fault?_take running entry
      cases fault : entryFault? product entry with
      | none => exact ih (first.trans fault)
      | some f => rw [foldl_take_of_fault (first.trans fault), first, fault]

/-- **The fault of a harvest is that of the first query with one.** -/
theorem fault?_harvest (context : Context) (entries : List Text) :
    (harvest product step context entries).fault? = faultIn? product entries :=
  fault?_foldl rfl entries

end Capture

namespace Running

variable {s t : RunState} {product : Capture.Product} {step : Text} {entries : List Text}

/-- The state that captures leave, whether or not they stop. -/
def afterCapture (product : Capture.Product) (step : Text) (entries : List Text) (s : RunState) : RunState :=
  { s with
    context := (Capture.harvest product step s.context entries).context
    notes := s.notes ++ (Capture.harvest product step s.context entries).notes }

theorem ends_capture (product : Capture.Product) (step : Text) (entries : List Text) (s : RunState) :
    ends (capture product step entries) s =
      (match Capture.faultIn? product entries with
        | some f => .error f
        | none => .ok (Capture.harvest product step s.context entries).outcomes,
      afterCapture product step entries s) := by
  rw [capture, (returns_get.mpr ⟨rfl, rfl⟩).ends_bind, (returns_modify (u := ()) |>.mpr rfl).ends_bind,
    Capture.fault?_harvest]
  cases Capture.faultIn? product entries <;> rfl

theorem returns_capture {outcomes : List Capture.Outcome} :
    Returns (capture product step entries) s outcomes t ↔
      Capture.faultIn? product entries = none ∧
        outcomes = (Capture.harvest product step s.context entries).outcomes ∧ t = afterCapture product step entries s := by
  rw [Returns, ends_capture]
  cases Capture.faultIn? product entries <;> simp [eq_comm]

theorem stops_capture {f : Fault} :
    Stops (capture product step entries) s f ↔ Capture.faultIn? product entries = some f := by
  rw [Stops, ends_capture]
  cases Capture.faultIn? product entries <;> simp

end Running

/-! ## Assertions -/

/-- Assertions are decided in turn, and each verdict stands beside its assertion. -/
inductive Checks (builtins : Builtins) (vars : Table Text) (subject : Assertion.Subject) :
    List Text → Draws → List (Text × Assertion.Verdict) → Draws → Prop
  | none {d : Draws} : Checks builtins vars subject [] d [] d
  | next {a : Text} {asserts : List Text} {v : Assertion.Verdict} {checked : List (Text × Assertion.Verdict)}
      {d d' d'' : Draws} (first : Assertion.check builtins vars subject a d = (.ok v, d'))
      (rest : Checks builtins vars subject asserts d' checked d'') :
      Checks builtins vars subject (a :: asserts) d ((a, v) :: checked) d''

/-- The decision of some assertion stops; all before it have been decided. -/
inductive CheckStops (builtins : Builtins) (vars : Table Text) (subject : Assertion.Subject) :
    List Text → Draws → Fault → Prop
  | here {a : Text} {asserts : List Text} {f : Fault} {d d' : Draws}
      (stopped : Assertion.check builtins vars subject a d = (.error f, d')) :
      CheckStops builtins vars subject (a :: asserts) d f
  | later {a : Text} {asserts : List Text} {v : Assertion.Verdict} {f : Fault} {d d' : Draws}
      (first : Assertion.check builtins vars subject a d = (.ok v, d'))
      (rest : CheckStops builtins vars subject asserts d' f) : CheckStops builtins vars subject (a :: asserts) d f

/-- Every assertion has a verdict, in order. -/
theorem Checks.names {builtins : Builtins} {vars : Table Text} {subject : Assertion.Subject} {asserts : List Text}
    {checked : List (Text × Assertion.Verdict)} {d d' : Draws}
    (checks : Checks builtins vars subject asserts d checked d') : checked.map Prod.fst = asserts := by
  induction checks with
  | none => rfl
  | next _ _ ih => rw [List.map_cons, ih]

namespace Running

variable {setup : Setup} {subject : Assertion.Subject} {vars : Table Text} {s t : RunState}

theorem returns_check {a : Text} {v : Assertion.Verdict} :
    Returns (check setup subject vars a) s v t ↔
      ∃ d, Assertion.check setup.builtins vars subject a s.draws = (.ok v, d) ∧ t = { s with draws := d } := by
  simp only [check, returns_bind, returns_draw, returns_guard]
  constructor
  · rintro ⟨_, _, ⟨rfl, rfl⟩, verdict, rfl⟩
    exact ⟨_, Prod.ext verdict rfl, rfl⟩
  · rintro ⟨d, verdict, rfl⟩
    exact ⟨_, _, ⟨rfl, rfl⟩, by simp [verdict]⟩

theorem stops_check {a : Text} {f : Fault} :
    Stops (check setup subject vars a) s f ↔
      ∃ d, Assertion.check setup.builtins vars subject a s.draws = (.error f, d) := by
  simp only [check, stops_bind, returns_draw, stops_draw, stops_guard, false_or]
  constructor
  · rintro ⟨_, _, ⟨rfl, rfl⟩, verdict⟩
    exact ⟨_, Prod.ext verdict rfl⟩
  · rintro ⟨d, verdict⟩
    exact ⟨_, _, ⟨rfl, rfl⟩, by simp [verdict]⟩

theorem returns_checkAll {asserts : List Text} {checked : List (Text × Assertion.Verdict)} :
    Returns (checkAll setup subject vars asserts) s checked t ↔
      ∃ d, Checks setup.builtins vars subject asserts s.draws checked d ∧ t = { s with draws := d } := by
  simp only [checkAll, bind_pure_comp]
  induction asserts generalizing s checked with
  | nil =>
      rw [returns_mapM_nil]
      constructor
      · rintro ⟨rfl, rfl⟩
        exact ⟨t.draws, .none, rfl⟩
      · rintro ⟨d, ⟨⟩, rfl⟩
        exact ⟨rfl, rfl⟩
  | cons a rest ih =>
      rw [returns_mapM_cons]
      simp only [returns_map, returns_check, ih]
      constructor
      · rintro ⟨_, _, more, ⟨v, ⟨d, first, rfl⟩, rfl⟩, ⟨d', following, rfl⟩, rfl⟩
        exact ⟨d', .next first following, rfl⟩
      · rintro ⟨d, _ | ⟨first, following⟩, rfl⟩
        exact ⟨_, _, _, ⟨_, ⟨_, first, rfl⟩, rfl⟩, ⟨_, following, rfl⟩, rfl⟩

/-- Assertions stop as the decisions do, whatever else is done with each verdict. -/
theorem stops_mapM_iff {decide : Text → Running (Text × Assertion.Verdict)}
    (returned : ∀ {s a c t}, Returns (decide a) s c t →
      ∃ v, Assertion.check setup.builtins vars subject a s.draws = (.ok v, t.draws))
    (stopped : ∀ {s a f}, Stops (decide a) s f ↔
      ∃ d, Assertion.check setup.builtins vars subject a s.draws = (.error f, d))
    {asserts : List Text} {f : Fault} :
    Stops (asserts.mapM decide) s f ↔ CheckStops setup.builtins vars subject asserts s.draws f := by
  induction asserts generalizing s with
  | nil => exact iff_of_false not_stops_mapM_nil nofun
  | cons a rest ih =>
      rw [stops_mapM_cons]
      constructor
      · rintro (early | ⟨c, u, first, late⟩)
        · obtain ⟨d, failed⟩ := stopped.mp early
          exact .here failed
        · obtain ⟨v, passed⟩ := returned first
          exact .later passed (ih.mp late)
      · rintro (failed | ⟨passed, late⟩)
        · exact .inl (stopped.mpr ⟨_, failed⟩)
        · have never : ∀ e, ¬ Stops (decide a) s e := by
            intro e early
            obtain ⟨d, failed⟩ := stopped.mp early
            cases passed.symm.trans failed
          obtain ⟨c, u, first⟩ := exists_returns_iff.mpr never
          obtain ⟨v, again⟩ := returned first
          cases passed.symm.trans again
          exact .inr ⟨c, u, first, ih.mpr late⟩

theorem stops_checkAll {asserts : List Text} {f : Fault} :
    Stops (checkAll setup subject vars asserts) s f ↔ CheckStops setup.builtins vars subject asserts s.draws f := by
  refine stops_mapM_iff ?_ ?_
  · intro s a c t returned
    rw [bind_pure_comp, returns_map] at returned
    obtain ⟨v, checked, -⟩ := returned
    obtain ⟨d, verdict, rfl⟩ := returns_check.mp checked
    exact ⟨v, verdict⟩
  · intro s a f
    rw [bind_pure_comp, stops_map, stops_check]

theorem stops_checkAllAloud {asserts : List Text} {f : Fault} :
    Stops (asserts.mapM (checkAloud setup subject vars)) s f ↔
      CheckStops setup.builtins vars subject asserts s.draws f := by
  refine stops_mapM_iff ?_ ?_
  · intro s a c t returned
    obtain ⟨v, u, checked, rest⟩ := returns_bind.mp returned
    obtain ⟨d, verdict, rfl⟩ := returns_check.mp checked
    obtain ⟨⟨⟩, w, said, last⟩ := returns_bind.mp rest
    obtain ⟨-, rfl⟩ := returns_pure.mp last
    refine ⟨v, ?_⟩
    rw [verdict, keeps_say setup RunState.draws (fun _ _ => rfl) _ said]
  · intro s a f
    rw [checkAloud, stops_bind, stops_check, or_iff_left]
    rintro ⟨v, u, -, late⟩
    obtain never | ⟨_, _, -, never⟩ := stops_bind.mp late
    · exact safe_say _ _ _ _ never
    · exact stops_pure never

end Running

end ApiFlow
