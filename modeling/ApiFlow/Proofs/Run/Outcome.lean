import ApiFlow.Run.State

/-!
# How a computation ends

A computation either returns a value and a state or stops with an error, and it does only one of the two.  Proofs about
runs take computations apart with the equivalences below, one for each way in which computations are put together; they
do not look into the monad.

* `returns_bind`, `stops_bind` : a sequence returns if both its parts do, and an error comes from one of them.
* `exists_returns_iff` : a computation returns exactly if it does not stop.
* `Keeps` : a computation that returns leaves a given part of the state as it was.
* `Safe` : a computation never stops.  Both pass from the parts of a computation to the whole.
-/

set_option autoImplicit false

namespace ApiFlow

variable {ε σ α β γ : Type} {s t : σ}

/-- The outcome of a computation and the state that it leaves. -/
def ends (m : ExceptT ε (StateM σ) α) (s : σ) : Except ε α × σ := m.run.run s

/-- The computation returns a value and leaves a state. -/
def Returns (m : ExceptT ε (StateM σ) α) (s : σ) (a : α) (t : σ) : Prop := ends m s = (.ok a, t)

/-- The computation stops with an error. -/
def Stops (m : ExceptT ε (StateM σ) α) (s : σ) (e : ε) : Prop := (ends m s).1 = .error e

theorem ends_mk (run : σ → Except ε α × σ) (s : σ) : ends (ExceptT.mk run : ExceptT ε (StateM σ) α) s = run s := rfl

theorem returns_or_stops (m : ExceptT ε (StateM σ) α) (s : σ) : (∃ a t, Returns m s a t) ∨ ∃ e, Stops m s e := by
  unfold Returns Stops
  rcases ends m s with ⟨e | a, t⟩
  · exact Or.inr ⟨e, rfl⟩
  · exact Or.inl ⟨a, t, rfl⟩

theorem Returns.unique {m : ExceptT ε (StateM σ) α} {a b : α} {t' : σ} (first : Returns m s a t)
    (second : Returns m s b t') : a = b ∧ t = t' := by
  simpa using Eq.trans (Eq.symm first) second

theorem Returns.not_stops {m : ExceptT ε (StateM σ) α} {a : α} (returns : Returns m s a t) (e : ε) : ¬ Stops m s e := by
  intro stops
  have ok : (ends m s).1 = .ok a := congrArg Prod.fst returns
  cases ok.symm.trans stops

/-- **A computation returns exactly if it does not stop.** -/
theorem exists_returns_iff {m : ExceptT ε (StateM σ) α} : (∃ a t, Returns m s a t) ↔ ∀ e, ¬ Stops m s e := by
  constructor
  · rintro ⟨a, t, returns⟩
    exact returns.not_stops
  · exact fun never => (returns_or_stops m s).resolve_right fun ⟨e, stops⟩ => never e stops

theorem returns_of_isOk {m : ExceptT ε (StateM σ) α} (ok : (ends m s).1.isOk = true) :
    ∃ a, Returns m s a (ends m s).2 := by
  rcases ended : ends m s with ⟨e | a, t⟩
  · rw [ended] at ok
    cases ok
  · exact ⟨a, ended⟩

/-- A computation whose outcome is a good value returns it. -/
theorem returns_of_any {m : ExceptT ε (StateM σ) α} {good : α → Bool} (any : (ends m s).1.toOption.any good = true) :
    ∃ a, Returns m s a (ends m s).2 ∧ good a = true := by
  rcases ended : ends m s with ⟨e | a, t⟩
  · simp [ended, Except.toOption] at any
  · exact ⟨a, ended, by simpa [ended, Except.toOption] using any⟩

/-! ## Parts and wholes -/

theorem ends_bind (m : ExceptT ε (StateM σ) α) (k : α → ExceptT ε (StateM σ) β) (s : σ) :
    ends (m >>= k) s = match ends m s with
      | (.ok a, t) => ends (k a) t
      | (.error e, t) => (.error e, t) := by
  change ends (ExceptT.mk (m.run >>= ExceptT.bindCont k)) s = _
  change ExceptT.bindCont k (ends m s).1 (ends m s).2 = _
  rcases ends m s with ⟨e | a, t⟩ <;> rfl

/-- What has returned is left behind. -/
theorem Returns.ends_bind {m : ExceptT ε (StateM σ) α} {a : α} (returned : Returns m s a t)
    (k : α → ExceptT ε (StateM σ) β) : ends (m >>= k) s = ends (k a) t := by
  rw [ApiFlow.ends_bind, show ends m s = (.ok a, t) from returned]

/-- Two sequences that begin alike end alike if they do so from wherever their first part leads. -/
theorem ends_bind_congr {m : ExceptT ε (StateM σ) α} {k k' : α → ExceptT ε (StateM σ) β}
    (rest : ∀ a t, Returns m s a t → ends (k a) t = ends (k' a) t) : ends (m >>= k) s = ends (m >>= k') s := by
  rcases ended : ends m s with ⟨e | a, t⟩
  · rw [ends_bind, ends_bind, ended]
  · rw [Returns.ends_bind ended, Returns.ends_bind ended]
    exact rest a t ended

theorem Returns.stops_bind_iff {m : ExceptT ε (StateM σ) α} {a : α} (returned : Returns m s a t)
    {k : α → ExceptT ε (StateM σ) β} {e : ε} : Stops (m >>= k) s e ↔ Stops (k a) t e := by
  rw [Stops, returned.ends_bind, Stops]

theorem ends_tryCatch (m : ExceptT ε (StateM σ) α) (recover : ε → ExceptT ε (StateM σ) α) (s : σ) :
    ends (tryCatch m recover) s = match ends m s with
      | (.ok a, t) => (.ok a, t)
      | (.error e, t) => ends (recover e) t := by
  change StateT.run (ExceptT.tryCatch m recover).run s = _
  rw [ExceptT.tryCatch, ExceptT.run_mk, StateT.run_bind]
  have same : StateT.run m s = ends m s := rfl
  rw [same]
  rcases ends m s with ⟨e | a, t⟩ <;> rfl

@[simp] theorem returns_pure {a b : α} : Returns (pure a : ExceptT ε (StateM σ) α) s b t ↔ b = a ∧ t = s := by
  change ((Except.ok a : Except ε α), s) = (.ok b, t) ↔ _
  simp [eq_comm]

@[simp] theorem stops_pure {a : α} {e : ε} : ¬ Stops (pure a : ExceptT ε (StateM σ) α) s e := by
  intro ended
  cases ended

@[simp] theorem returns_bind {m : ExceptT ε (StateM σ) α} {k : α → ExceptT ε (StateM σ) β} {b : β} :
    Returns (m >>= k) s b t ↔ ∃ a u, Returns m s a u ∧ Returns (k a) u b t := by
  unfold Returns
  rw [ends_bind]
  rcases ends m s with ⟨e | a, u⟩
  · simp
  · exact ⟨fun rest => ⟨a, u, rfl, rest⟩, by rintro ⟨_, _, ⟨⟩, rest⟩; exact rest⟩

@[simp] theorem stops_bind {m : ExceptT ε (StateM σ) α} {k : α → ExceptT ε (StateM σ) β} {e : ε} :
    Stops (m >>= k) s e ↔ Stops m s e ∨ ∃ a u, Returns m s a u ∧ Stops (k a) u e := by
  unfold Stops Returns
  rw [ends_bind]
  rcases ends m s with ⟨f | a, u⟩
  · simp
  · exact ⟨fun rest => Or.inr ⟨a, u, rfl, rest⟩, by rintro (⟨⟨⟩⟩ | ⟨_, _, ⟨⟩, rest⟩); exact rest⟩

@[simp] theorem returns_map {m : ExceptT ε (StateM σ) α} {g : α → β} {b : β} :
    Returns (g <$> m) s b t ↔ ∃ a, Returns m s a t ∧ b = g a := by
  rw [← bind_pure_comp, returns_bind]
  constructor
  · rintro ⟨a, u, returns, last⟩
    obtain ⟨rfl, rfl⟩ := returns_pure.mp last
    exact ⟨a, returns, rfl⟩
  · rintro ⟨a, returns, rfl⟩
    exact ⟨a, t, returns, returns_pure.mpr ⟨rfl, rfl⟩⟩

theorem ends_map (g : α → β) (m : ExceptT ε (StateM σ) α) (s : σ) :
    ends (g <$> m) s = ((ends m s).1.map g, (ends m s).2) := by
  rw [← bind_pure_comp, ends_bind]
  rcases ends m s with ⟨e | a, t⟩ <;> rfl

@[simp] theorem stops_map {m : ExceptT ε (StateM σ) α} {g : α → β} {e : ε} : Stops (g <$> m) s e ↔ Stops m s e := by
  rw [← bind_pure_comp, stops_bind]
  simp

@[simp] theorem returns_throw {e : ε} {a : α} : ¬ Returns (throw e : ExceptT ε (StateM σ) α) s a t := by
  intro ended
  cases ended

@[simp] theorem stops_throw {e f : ε} : Stops (throw e : ExceptT ε (StateM σ) α) s f ↔ f = e := by
  change (Except.error e : Except ε α) = .error f ↔ _
  simp [eq_comm]

/-- A recovery that never stops lets no error through. -/
theorem not_stops_tryCatch {m : ExceptT ε (StateM σ) α} {recover : ε → ExceptT ε (StateM σ) α} {f : ε}
    (safe : ∀ e u, ¬ Stops (recover e) u f) : ¬ Stops (tryCatch m recover) s f := by
  unfold Stops at safe ⊢
  rw [ends_tryCatch]
  rcases ends m s with ⟨e | b, u⟩
  · exact safe e u
  · intro ended
    cases ended

theorem returns_mapM_nil {f : α → ExceptT ε (StateM σ) β} {bs : List β} :
    Returns ([].mapM f) s bs t ↔ bs = [] ∧ t = s := by
  rw [List.mapM_nil, returns_pure]

theorem not_stops_mapM_nil {f : α → ExceptT ε (StateM σ) β} {e : ε} : ¬ Stops ([].mapM f) s e := by
  rw [List.mapM_nil]
  exact stops_pure

theorem returns_mapM_cons {f : α → ExceptT ε (StateM σ) β} {a : α} {l : List α} {bs : List β} :
    Returns ((a :: l).mapM f) s bs t ↔
      ∃ b u more, Returns (f a) s b u ∧ Returns (l.mapM f) u more t ∧ bs = b :: more := by
  rw [List.mapM_cons, returns_bind]
  constructor
  · rintro ⟨b, u, first, rest⟩
    obtain ⟨more, v, following, last⟩ := returns_bind.mp rest
    obtain ⟨rfl, rfl⟩ := returns_pure.mp last
    exact ⟨b, u, more, first, following, rfl⟩
  · rintro ⟨b, u, more, first, following, rfl⟩
    exact ⟨b, u, first, returns_bind.mpr ⟨more, t, following, returns_pure.mpr ⟨rfl, rfl⟩⟩⟩

theorem stops_mapM_cons {f : α → ExceptT ε (StateM σ) β} {a : α} {l : List α} {e : ε} :
    Stops ((a :: l).mapM f) s e ↔ Stops (f a) s e ∨ ∃ b u, Returns (f a) s b u ∧ Stops (l.mapM f) u e := by
  rw [List.mapM_cons, stops_bind]
  refine or_congr_right (exists_congr fun b => exists_congr fun u => and_congr_right fun _ => ?_)
  rw [stops_bind]
  exact ⟨fun either => either.resolve_right fun ⟨_, _, _, never⟩ => stops_pure never, Or.inl⟩

/-- Of computations in a row, the first that stops is behind such as return. -/
theorem stops_mapM_split {k : α → ExceptT ε (StateM σ) β} {l : List α} {e : ε} :
    Stops (l.mapM k) s e ↔ ∃ front a rest results u, l = front ++ a :: rest ∧ Returns (front.mapM k) s results u ∧
      Stops (k a) u e := by
  induction l generalizing s with
  | nil =>
      refine iff_of_false not_stops_mapM_nil ?_
      rintro ⟨front, a, rest, _, _, parts, -⟩
      cases front <;> cases parts
  | cons a rest ih =>
      rw [stops_mapM_cons]
      constructor
      · rintro (early | ⟨b, u, first, late⟩)
        · exact ⟨[], a, rest, [], s, rfl, returns_mapM_nil.mpr ⟨rfl, rfl⟩, early⟩
        · obtain ⟨front, a', rest', results, v, rfl, before, stopped⟩ := ih.mp late
          exact ⟨a :: front, a', rest', b :: results, v, rfl,
            returns_mapM_cons.mpr ⟨b, u, results, first, before, rfl⟩, stopped⟩
      · rintro ⟨front, a', rest', results, v, parts, before, stopped⟩
        cases front with
        | nil =>
            obtain ⟨rfl, rfl⟩ := List.cons.inj parts
            obtain ⟨-, rfl⟩ := returns_mapM_nil.mp before
            exact .inl stopped
        | cons a'' front =>
            obtain ⟨rfl, rfl⟩ := List.cons.inj parts
            obtain ⟨b, u, more, first, others, rfl⟩ := returns_mapM_cons.mp before
            exact .inr ⟨b, u, first, ih.mpr ⟨front, a', rest', more, v, rfl, others, stopped⟩⟩

/-! ## What reads and writes the state -/

@[simp] theorem returns_get {r : σ} : Returns (get : ExceptT ε (StateM σ) σ) s r t ↔ r = s ∧ t = s := by
  change ((Except.ok s : Except ε σ), s) = (.ok r, t) ↔ _
  simp [eq_comm]

@[simp] theorem stops_get {e : ε} : ¬ Stops (get : ExceptT ε (StateM σ) σ) s e := by
  intro ended
  cases ended

@[simp] theorem returns_modify {g : σ → σ} {u : Unit} :
    Returns (modify g : ExceptT ε (StateM σ) Unit) s u t ↔ t = g s := by
  change ((Except.ok () : Except ε Unit), g s) = (.ok u, t) ↔ _
  simp [eq_comm]

@[simp] theorem stops_modify {g : σ → σ} {e : ε} : ¬ Stops (modify g : ExceptT ε (StateM σ) Unit) s e := by
  intro ended
  cases ended

/-! ## Computations that keep a part of the state, and computations that never stop -/

/-- A return leaves what `view` sees as it was. -/
def Keeps (view : σ → γ) (m : ExceptT ε (StateM σ) α) : Prop := ∀ ⦃s a t⦄, Returns m s a t → view t = view s

/-- The computation never stops. -/
def Safe (m : ExceptT ε (StateM σ) α) : Prop := ∀ s e, ¬ Stops m s e

theorem Keeps.pure {view : σ → γ} {a : α} : Keeps view (pure a : ExceptT ε (StateM σ) α) := by
  intro s b t returned
  rw [(returns_pure.mp returned).2]

theorem Keeps.modify {view : σ → γ} {g : σ → σ} (same : ∀ s, view (g s) = view s) :
    Keeps view (modify g : ExceptT ε (StateM σ) Unit) := by
  intro s u t returned
  rw [returns_modify.mp returned, same]

theorem Keeps.bind {view : σ → γ} {m : ExceptT ε (StateM σ) α} {k : α → ExceptT ε (StateM σ) β} (first : Keeps view m)
    (rest : ∀ a, Keeps view (k a)) : Keeps view (m >>= k) := by
  intro s b t returned
  obtain ⟨a, u, before, after⟩ := returns_bind.mp returned
  exact (rest a after).trans (first before)

theorem Keeps.forM {view : σ → γ} {f : α → ExceptT ε (StateM σ) PUnit} (each : ∀ a, Keeps view (f a)) (l : List α) :
    Keeps view (l.forM f) := by
  induction l with
  | nil => exact Keeps.pure
  | cons a rest ih => exact Keeps.bind (each a) fun _ => ih

theorem Safe.returns {m : ExceptT ε (StateM σ) α} (safe : Safe m) (s : σ) : ∃ a t, Returns m s a t :=
  exists_returns_iff.mpr (safe s)

theorem Safe.bind {m : ExceptT ε (StateM σ) α} {k : α → ExceptT ε (StateM σ) β} (first : Safe m)
    (rest : ∀ a, Safe (k a)) : Safe (m >>= k) := by
  intro s e stopped
  obtain early | ⟨a, u, -, late⟩ := stops_bind.mp stopped
  · exact first s e early
  · exact rest a u e late

theorem Safe.forM {f : α → ExceptT ε (StateM σ) PUnit} (each : ∀ a, Safe (f a)) (l : List α) : Safe (l.forM f) := by
  induction l with
  | nil => exact fun _ _ => stops_pure
  | cons a rest ih => exact Safe.bind (each a) fun _ => ih

/-- A safe computation in front decides only where the rest begins. -/
theorem Safe.stops_bind_iff {m : ExceptT ε (StateM σ) α} (safe : Safe m) {k : α → ExceptT ε (StateM σ) β} {e : ε} :
    Stops (m >>= k) s e ↔ ∃ a u, Returns m s a u ∧ Stops (k a) u e := by
  rw [stops_bind, or_iff_right (safe s e)]

/-- A safe computation behind adds no error. -/
theorem stops_bind_safe {m : ExceptT ε (StateM σ) α} {k : α → ExceptT ε (StateM σ) β} (rest : ∀ a, Safe (k a)) {e : ε} :
    Stops (m >>= k) s e ↔ Stops m s e := by
  rw [stops_bind, or_iff_left]
  rintro ⟨a, u, -, late⟩
  exact rest a u e late

/-- Every value that the computation returns has a property. -/
def Yields (P : α → Prop) (m : ExceptT ε (StateM σ) α) : Prop := ∀ ⦃s a t⦄, Returns m s a t → P a

theorem Yields.pure {P : α → Prop} {a : α} (holds : P a) : Yields P (pure a : ExceptT ε (StateM σ) α) := by
  intro s b t returned
  rwa [(returns_pure.mp returned).1]

theorem Yields.bind {P : β → Prop} {m : ExceptT ε (StateM σ) α} {k : α → ExceptT ε (StateM σ) β}
    (rest : ∀ a, Yields P (k a)) : Yields P (m >>= k) := by
  intro s b t returned
  obtain ⟨a, u, -, after⟩ := returns_bind.mp returned
  exact rest a after

/-! ## The steps that a run is made of -/

namespace Running

variable {s t : RunState}

@[simp] theorem returns_guard {r : Except Fault α} {a : α} : Returns (guard r) s a t ↔ r = .ok a ∧ t = s := by
  change (r, s) = (Except.ok a, t) ↔ _
  simp [eq_comm]

@[simp] theorem stops_guard {r : Except Fault α} {f : Fault} : Stops (guard r) s f ↔ r = .error f := by
  exact Iff.rfl

@[simp] theorem returns_draw {g : Draws → α × Draws} {a : α} :
    Returns (draw g) s a t ↔ a = (g s.draws).1 ∧ t = { s with draws := (g s.draws).2 } := by
  change ((Except.ok (g s.draws).1 : Except Fault α), { s with draws := (g s.draws).2 }) = (.ok a, t) ↔ _
  simp [eq_comm]

@[simp] theorem stops_draw {g : Draws → α × Draws} {f : Fault} : ¬ Stops (draw g) s f := by
  intro ended
  cases ended

@[simp] theorem returns_now {x : Double} : Returns now s x t ↔ x = s.clock ∧ t = s := by
  rw [now, bind_pure_comp, returns_map]
  constructor
  · rintro ⟨r, got, rfl⟩
    obtain ⟨rfl, rfl⟩ := returns_get.mp got
    exact ⟨rfl, rfl⟩
  · rintro ⟨rfl, rfl⟩
    exact ⟨t, returns_get.mpr ⟨rfl, rfl⟩, rfl⟩

@[simp] theorem stops_now {f : Fault} : ¬ Stops now s f := by
  simp [now]

@[simp] theorem returns_pass {x : Double} {u : Unit} :
    Returns (pass x) s u t ↔ t = { s with clock := s.clock.add x } :=
  returns_modify

theorem safe_say (setup : Setup) (text : Text) : Safe (say setup text) := fun _ _ => stops_modify

/-- Printing keeps whatever does not look at the printed text. -/
theorem keeps_say (setup : Setup) (view : RunState → γ) (blind : ∀ s text, view { s with printed := text } = view s)
    (text : Text) : Keeps view (say setup text) := by
  refine Keeps.modify fun s => ?_
  split
  · rfl
  · exact blind s _

theorem keeps_noteAll (view : RunState → γ) (blind : ∀ s notes, view { s with notes := notes } = view s)
    (notes : List Note) : Keeps view (noteAll notes) :=
  Keeps.modify fun s => blind s _

theorem safe_noteAll (notes : List Note) : Safe (noteAll notes) := fun _ _ => stops_modify

theorem safe_sleep (seconds : Double) : Safe (sleep seconds) :=
  Safe.bind (fun _ _ => stops_modify) fun _ _ _ => stops_modify

theorem safe_inStore (f : Store → Store) : Safe (inStore f) := fun _ _ => stops_modify

end Running

end ApiFlow
