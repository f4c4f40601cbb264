import ApiFlow.Proofs.Number.Rounding
import ApiFlow.Proofs.Settings.Loading
import ApiFlow.Proofs.Variable.Writes
import ApiFlow.Proofs.Yaml.Written

/-!
# What is asked of a configuration

The reading of a configuration asks one thing after the other of the values that it meets: to be a map, to have a text,
to be a positive number of seconds.  The first value that is not as asked ends the reading; if all are, the settings are
whole.  Two kinds of values slip through.  A timeout that is no number is not at most zero, so it passes for a positive
one.  And an integer that is too long to be written, or too large for a double, ends the reading without refusing it.

* `Demand`, `demands` : what is asked, in order.
* `Checks` : a computation that stops at the first demand that is not met.
* `checks_configured` : the reading of settings is such a computation.
* `Demand.fault_iff` : a demand ends in a fault exactly if it meets an overlong integer.
* `tight_iff` : settings are refused or good exactly if neither kind of value is met.
-/

set_option autoImplicit false

namespace ApiFlow.Settings

open Yaml (Value)

variable {α β : Type}

/-! ## Demands -/

/-- What is asked of a value: to have a text, to be a map unless it is missing, or to be a positive number of seconds. -/
inductive Demand where
  | text (value : Value)
  | map (place : Text) (value? : Option Value)
  | seconds (place : Text) (value : Value)

/-- What stops a reading. -/
def stopOf : Except ConfigStop α → Option ConfigStop
  | .ok _ => none
  | .error e => some e

/-- What a value that is not as asked stops the reading with. -/
def Demand.stop? : Demand → Option ConfigStop
  | text value => stopOf (written value.text?)
  | map place value? => stopOf (entriesAt place value?)
  | seconds place value => stopOf (timeoutOf place value)

/-- A computation makes some demands: it stops at the first one that is not met, and else gives a value of a kind. -/
def Checks (demands : List Demand) (m : Except ConfigStop α) (Post : α → Prop) : Prop :=
  match demands.findSome? Demand.stop? with
  | some e => m = .error e
  | none => ∃ a, m = .ok a ∧ Post a

namespace Checks

variable {ds ds' : List Demand} {m : Except ConfigStop α} {P Q : α → Prop} {R : β → Prop}

theorem ok {a : α} (holds : P a) : Checks [] (.ok a) P := ⟨a, rfl, holds⟩

theorem single {d : Demand} (same : d.stop? = stopOf m) : Checks [d] m fun a => m = .ok a := by
  unfold Checks
  rw [List.findSome?_singleton, same]
  cases m with
  | ok a => exact ⟨a, rfl, rfl⟩
  | error e => rfl

theorem mono (checks : Checks ds m P) (weaker : ∀ a, P a → Q a) : Checks ds m Q := by
  unfold Checks at checks ⊢
  split at checks
  · exact checks
  · obtain ⟨a, same, holds⟩ := checks
    exact ⟨a, same, weaker a holds⟩

/-- **One computation after the other** makes the demands of both. -/
theorem bind {k : α → Except ConfigStop β} (first : Checks ds m P) (rest : ∀ a, P a → Checks ds' (k a) R) :
    Checks (ds ++ ds') (m >>= k) R := by
  unfold Checks at first ⊢
  rw [List.findSome?_append]
  cases stop : ds.findSome? Demand.stop? with
  | some e =>
      rw [stop] at first
      rw [first]
      rfl
  | none =>
      rw [stop] at first
      obtain ⟨a, rfl, holds⟩ := first
      exact rest a holds

/-- What is made of the value at the end is asked nothing. -/
theorem last {g : α → β} (checks : Checks ds m P) (holds : ∀ a, P a → R (g a)) :
    Checks ds (m >>= fun a => .ok (g a)) R := by
  have both : Checks (ds ++ []) (m >>= fun a => .ok (g a)) R := bind checks fun a here => ok (holds a here)
  rwa [List.append_nil] at both

theorem mapM {k : α → Except ConfigStop β} {demands : α → List Demand} {S : α → β → Prop}
    (each : ∀ a, Checks (demands a) (k a) (S a)) (l : List α) :
    Checks (l.flatMap demands) (l.mapM k) (List.Forall₂ S l) := by
  induction l with
  | nil => exact ok .nil
  | cons a l ih =>
      rw [List.mapM_cons, List.flatMap_cons]
      exact bind (each a) fun b here => last ih fun bs others => .cons here others

/-- A computation that makes demands stops where one is not met first. -/
theorem of_unmet (checks : Checks ds m P) {before after : List Demand} {d : Demand} {e : ConfigStop}
    (whole : ds = before ++ d :: after) (met : ∀ b ∈ before, b.stop? = none) (stop : d.stop? = some e) : m = .error e := by
  unfold Checks at checks
  rwa [whole, List.findSome?_append, List.findSome?_eq_none_iff.mpr met, Option.none_or, List.findSome?_cons, stop] at checks

/-- A computation that makes demands stops at one, or all of them are met. -/
theorem outcome (checks : Checks ds m P) :
    (∃ e before d after, m = .error e ∧ ds = before ++ d :: after ∧ (∀ b ∈ before, b.stop? = none) ∧ d.stop? = some e) ∨
      ∃ a, m = .ok a ∧ P a ∧ ∀ d ∈ ds, d.stop? = none := by
  unfold Checks at checks
  split at checks
  · next e found =>
      obtain ⟨before, d, after, whole, stop, met⟩ := List.findSome?_eq_some_iff.mp found
      exact .inl ⟨e, before, d, after, checks, whole, met, stop⟩
  · next found =>
      obtain ⟨a, same, holds⟩ := checks
      exact .inr ⟨a, same, holds, List.findSome?_eq_none_iff.mp found⟩

end Checks

/-! ## What the reading asks -/

/-- The entries of a value; what is no map has none. -/
def entriesIn (value? : Option Value) : List (Value × Value) :=
  match value?.map Value.opened with
  | some (.map entries) => entries
  | _ => []

/-- A value unless it is nothing. -/
def unlessNull : Option Value → Option Value
  | some .null => none
  | value? => value?

/-- A value that may be nothing is asked for its text unless it is. -/
def textDemands (value : Value) : List Demand := (unlessNull (some value)).toList.map .text

/-- A value that has a usual one is asked for its text unless the usual one stands for it. -/
def usualDemands (value? : Option Value) : List Demand := (unlessFalse value?).toList.map .text

/-- A map of texts is asked for the texts of its keys and values. -/
def tableDemands (place : Text) (value? : Option Value) : List Demand :=
  .map place value? :: (entriesIn value?).flatMap fun e => .text e.1 :: textDemands e.2

/-- What is asked of an environment and its key. -/
def environmentDemands (key value : Value) : List Demand :=
  let place : Text := "environments." ++ key.text?.getD []
  let entries := entriesIn (unlessFalse (some value))
  .text key :: .map place (unlessFalse (some value)) :: (usualDemands (Value.member? "base_url" entries) ++
    tableDemands (place ++ ".variables") (Value.member? "variables" entries))

/-- The defaults of a configuration. -/
def defaultsIn (entries : List (Value × Value)) : List (Value × Value) :=
  entriesIn (unlessFalse (Value.member? "defaults" entries))

/-- The timeout in the defaults of a configuration, with its place. -/
def fileTimeouts (entries : List (Value × Value)) : List (Text × Value) :=
  (unlessNull (Value.member? "timeout" (defaultsIn entries))).toList.map fun value => ("defaults.timeout", value)

/-- The timeout in the environment, with its place. -/
def variableTimeouts (env : Table Text) : List (Text × Value) :=
  (given? env timeoutVariable).toList.map fun value => (timeoutVariable, .str value)

/-- A timeout is asked to be a positive number of seconds. -/
def timeoutDemands (timeouts : List (Text × Value)) : List Demand := timeouts.map fun t => .seconds t.1 t.2

/-- What is asked of the entries of a configuration. -/
def entryDemands (entries : List (Value × Value)) : List Demand :=
  let environments := unlessFalse (Value.member? "environments" entries)
  usualDemands (Value.member? "active_env" entries) ++
    .map "defaults" (unlessFalse (Value.member? "defaults" entries)) ::
    (timeoutDemands (fileTimeouts entries) ++
      (tableDemands "defaults.headers" (Value.member? "headers" (defaultsIn entries)) ++
        .map "environments" environments :: (entriesIn environments).flatMap fun e => environmentDemands e.1 e.2))

/-- **What is asked of a configuration and the environment**, in order. -/
def demands (entries : List (Value × Value)) (env : Table Text) : List Demand :=
  entryDemands entries ++ timeoutDemands (variableTimeouts env)

/-- Settings read from entries, with the variables of the environment applied. -/
def configured (entries : List (Value × Value)) (env : Table Text) : Except ConfigStop Settings := do
  override (← ofEntries entries) env

/-! ## The reading -/

/-- The timeout that the last of some timeouts gives; the usual one if there is none. -/
def LastTimeout (timeouts : List (Text × Value)) (x : Double) : Prop :=
  match timeouts.getLast? with
  | none => x = Double.ofInt 30
  | some t => timeoutOf t.1 t.2 = .ok x

/-- Every environment stands under its own name. -/
def OwnNames (s : Settings) : Prop := ∀ e ∈ s.environments, e.2.name = e.1

instance (s : Settings) : Decidable (OwnNames s) := inferInstanceAs (Decidable (∀ e ∈ s.environments, e.2.name = e.1))

section

variable (place : Text) (value? : Option Value)

theorem checks_written (value : Value) : Checks [.text value] (written value.text?) fun t => value.text? = some t := by
  refine (Checks.single rfl).mono fun t same => ?_
  cases text : value.text? with
  | none =>
      rw [text] at same
      cases same
  | some t' =>
      rw [text] at same
      cases same
      rfl

theorem checks_entriesAt : Checks [.map place value?] (entriesAt place value?) fun entries => entries = entriesIn value? := by
  refine (Checks.single rfl).mono fun entries same => ?_
  unfold entriesAt at same
  unfold entriesIn
  split at same
  · cases same
    simp [*]
  · cases same
    simp [*]
  · cases same
    simp [*]
  · cases same

theorem checks_timeoutOf (value : Value) :
    Checks [.seconds place value] (timeoutOf place value) fun x => timeoutOf place value = .ok x :=
  Checks.single rfl

theorem textOf_eq (value : Value) : textOf value = match unlessNull (some value) with
    | some value => written value.text?
    | none => .ok [] := by
  cases value <;> rfl

theorem defaultTimeout_eq : defaultTimeout value? = match unlessNull value? with
    | some value => timeoutOf "defaults.timeout" value
    | none => .ok (Double.ofInt 30) := by
  rcases value? with _ | value
  · rfl
  · cases value <;> rfl

theorem checks_textOf (value : Value) : Checks (textDemands value) (textOf value) fun _ => True := by
  rw [textOf_eq, textDemands]
  cases unlessNull (some value) with
  | none => exact .ok trivial
  | some value => exact (checks_written value).mono fun _ _ => trivial

theorem checks_textOr (usual : Text) : Checks (usualDemands value?) (textOr usual value?) fun _ => True := by
  unfold usualDemands textOr
  cases unlessFalse value? with
  | none => exact .ok trivial
  | some value => exact (checks_written value).mono fun _ _ => trivial

theorem checks_textsAt : Checks (tableDemands place value?) (textsAt place value?) fun _ => True := by
  have entry (e : Value × Value) : Checks (.text e.1 :: textDemands e.2)
      (do return (← written e.1.text?, ← textOf e.2)) fun _ : Text × Text => True :=
    (checks_written e.1).bind fun _ _ => (checks_textOf e.2).last fun _ _ => trivial
  refine (checks_entriesAt place value?).bind fun entries same => ?_
  rw [same]
  exact (Checks.mapM entry _).last fun _ _ => trivial

theorem checks_environmentOf (key value : Value) :
    Checks (environmentDemands key value) (environmentOf key value) fun e => e.2.name = e.1 := by
  refine (checks_written key).bind fun name text => ?_
  rw [text]
  refine (checks_entriesAt _ _).bind fun entries same => ?_
  rw [same]
  exact (checks_textOr _ _).bind fun _ _ => (checks_textsAt _ _).last fun _ _ => rfl

theorem checks_defaultTimeout (entries : List (Value × Value)) :
    Checks (timeoutDemands (fileTimeouts entries)) (defaultTimeout (Value.member? "timeout" (defaultsIn entries)))
      (LastTimeout (fileTimeouts entries)) := by
  rw [defaultTimeout_eq, fileTimeouts]
  cases unlessNull (Value.member? "timeout" (defaultsIn entries)) with
  | none => exact .ok rfl
  | some value => exact checks_timeoutOf _ value

/-- **The entries of a configuration** are asked what `entryDemands` says. -/
theorem checks_ofEntries (entries : List (Value × Value)) :
    Checks (entryDemands entries) (ofEntries entries) fun s =>
      LastTimeout (fileTimeouts entries) s.timeout ∧ OwnNames s := by
  refine (checks_textOr _ _).bind fun activeEnv _ => ?_
  refine (checks_entriesAt _ _).bind fun defaults same => ?_
  rw [same]
  refine (checks_defaultTimeout entries).bind fun timeout given => ?_
  refine (checks_textsAt _ _).bind fun headers _ => ?_
  refine (checks_entriesAt _ _).bind fun environments same => ?_
  rw [same]
  refine (Checks.mapM (S := fun _ e => e.2.name = e.1) (fun e => checks_environmentOf e.1 e.2) _).last ?_
  intro named own
  refine ⟨given, fun e listed => ?_⟩
  rcases Table.mem_setAll listed with none | written
  · cases none
  · obtain ⟨i, inside, rfl⟩ := List.mem_iff_getElem.mp written
    exact (List.forall₂_iff_get.mp own).2 i (by rw [own.length_eq]; exact inside) inside

/-- **The variables of the environment** are asked for a timeout, which takes the place of the one in the file. -/
theorem checks_override (s : Settings) (env : Table Text) (timeouts : List (Text × Value))
    (given : LastTimeout timeouts s.timeout) (own : OwnNames s) :
    Checks (timeoutDemands (variableTimeouts env)) (override s env) fun s' =>
      LastTimeout (timeouts ++ variableTimeouts env) s'.timeout ∧ OwnNames s' := by
  obtain ⟨active, kept⟩ := activated_kept s env
  rw [override_eq, kept, variableTimeouts]
  cases given? env timeoutVariable with
  | none => exact .ok ⟨by simpa using given, own⟩
  | some value =>
      refine (checks_timeoutOf timeoutVariable (.str value)).last fun x read => ⟨?_, own⟩
      unfold LastTimeout
      rw [Option.toList_some, List.map_singleton, List.getLast?_concat]
      exact read

/-- **The reading of settings** makes the demands one after the other, and gives settings with their last timeout. -/
theorem checks_configured (entries : List (Value × Value)) (env : Table Text) :
    Checks (demands entries env) (configured entries env) fun s =>
      LastTimeout (fileTimeouts entries ++ variableTimeouts env) s.timeout ∧ OwnNames s :=
  (checks_ofEntries entries).bind fun s both => checks_override s env _ both.1 both.2

end

/-! ## Faults -/

/-- A value shows an integer that is too long to be written. -/
def ShowsLong (value : Value) : Prop := ∃ i ∈ value.shown, Yaml.Value.IsLong i

/-- What is asked cannot be told from an integer that is too long, or too large for a double. -/
def Demand.Overlong : Demand → Prop
  | text value => ShowsLong value
  | map _ _ => False
  | seconds _ value => (∃ i negative, value = .int i ∧ Double.ofInt i = .infinite negative) ∨ ShowsLong value

/-- What stops a reading is a fault, and no refusal. -/
def IsFault (m : Except ConfigStop α) : Prop := ∃ f, m = .error (.fault f)

theorem isFault_written {text? : Option Text} : IsFault (written text?) ↔ text? = none := by
  cases text? with
  | none => exact iff_of_true ⟨_, rfl⟩ rfl
  | some text => exact iff_of_false nofun nofun

theorem isFault_refusal (e : Text → ConfigError) (text? : Option Text) :
    IsFault (do refuse (e (← written text?)) : Except ConfigStop α) ↔ text? = none := by
  cases text? with
  | none => exact iff_of_true ⟨_, rfl⟩ rfl
  | some text => exact iff_of_false nofun nofun

theorem isFault_secondsIn (place : Text) (value : Value) (text? : Option Text) :
    IsFault (secondsIn place value text?) ↔ text?.bind Double.read? = none ∧ value.nested? = none := by
  unfold secondsIn
  cases text?.bind Double.read? with
  | some x => exact iff_of_false nofun nofun
  | none => exact (isFault_refusal _ _).trans (and_iff_right rfl).symm

theorem nested?_eq_none_iff {value : Value} : value.nested? = none ↔ ShowsLong value :=
  Yaml.Value.nestedIn_eq_none_iff [] value

theorem ofInt_of_isLong {i : Int} (long : Yaml.Value.IsLong i) : Double.ofInt i = .infinite (decide (i < 0)) :=
  Double.ofInt_infinite (Nat.le_trans (by decide +kernel) long)

theorem isFault_secondsOf_int {place : Text} {i : Int} :
    IsFault (secondsOf place (.int i)) ↔ ∃ negative, Double.ofInt i = .infinite negative := by
  rw [secondsOf, doubleOfInt]
  cases Double.ofInt i with
  | infinite negative => exact iff_of_true ⟨_, rfl⟩ ⟨negative, rfl⟩
  | _ => exact iff_of_false nofun nofun

/-- **A value is no timeout, and cannot be refused**, if it is an integer that is too large, or shows one that is too
long. -/
theorem isFault_secondsOf {place : Text} {value : Value} : IsFault (secondsOf place value) ↔
    (∃ i negative, value = .int i ∧ Double.ofInt i = .infinite negative) ∨ ShowsLong value := by
  constructor
  · intro fault
    have unwritten (text? : Option Text) (same : secondsOf place value = secondsIn place value text?) : ShowsLong value := by
      rw [same] at fault
      exact nested?_eq_none_iff.mp ((isFault_secondsIn _ _ _).mp fault).2
    cases value with
    | int i =>
        obtain ⟨negative, infinite⟩ := isFault_secondsOf_int.mp fault
        exact .inl ⟨i, negative, rfl, infinite⟩
    | bool b => cases b <;> cases fault <;> contradiction
    | real x => cases fault; contradiction
    | str s => exact .inr (unwritten (some s) rfl)
    | bytes bs => exact .inr (unwritten (Yaml.Binary.ascii? bs) rfl)
    | _ => exact .inr (unwritten none rfl)
  · rintro (⟨i, negative, rfl, infinite⟩ | long)
    · exact isFault_secondsOf_int.mpr ⟨negative, infinite⟩
    have unwritten := nested?_eq_none_iff.mpr long
    cases value with
    | int i =>
        obtain ⟨j, shown, long⟩ := long
        cases List.mem_singleton.mp shown
        exact isFault_secondsOf_int.mpr ⟨_, ofInt_of_isLong long⟩
    | bool | real | str | bytes => cases unwritten
    | _ => exact (isFault_secondsIn place _ none).mpr ⟨rfl, unwritten⟩

/-- What comes after the seconds of a timeout adds no fault: an overlong value has no seconds in the first place. -/
theorem isFault_timeoutOf {place : Text} {value : Value} :
    IsFault (timeoutOf place value) ↔ IsFault (secondsOf place value) := by
  unfold timeoutOf
  cases read : secondsOf place value with
  | error e => exact Iff.rfl
  | ok x =>
      have written? : value.nested? ≠ none := by
        intro none
        have fault : IsFault (secondsOf place value) := isFault_secondsOf.mpr (.inr (nested?_eq_none_iff.mp none))
        rw [read] at fault
        cases fault
        contradiction
      refine iff_of_false ?_ nofun
      show ¬ IsFault (if x.le (Double.zero false) then _ else _)
      split
      · exact (isFault_refusal _ _).not.mpr written?
      · exact nofun

theorem isFault_entriesAt (place : Text) (value? : Option Value) : ¬ IsFault (entriesAt place value?) := by
  unfold entriesAt
  split <;> exact nofun

theorem exists_stopOf_iff {m : Except ConfigStop α} : (∃ f, stopOf m = some (.fault f)) ↔ IsFault m := by
  cases m <;> simp [stopOf, IsFault]

/-- **A demand ends in a fault** exactly if it meets an overlong integer. -/
theorem Demand.fault_iff (d : Demand) : (∃ f, d.stop? = some (.fault f)) ↔ d.Overlong := by
  cases d with
  | text value => exact exists_stopOf_iff.trans (isFault_written.trans Yaml.Value.text?_eq_none_iff)
  | map place value? => exact exists_stopOf_iff.trans (iff_of_false (isFault_entriesAt place value?) not_false)
  | seconds place value => exact exists_stopOf_iff.trans (isFault_timeoutOf.trans isFault_secondsOf)

/-! ## Timeouts -/

/-- A timeout is positive unless it is no number. -/
theorem positive_iff {place : Text} {value : Value} {x : Double} (read : timeoutOf place value = .ok x) :
    (Double.zero false).lt x = true ↔ secondsOf place value ≠ .ok .nan := by
  unfold timeoutOf at read
  cases seconds : secondsOf place value with
  | error e =>
      rw [seconds] at read
      cases read
  | ok y =>
      rw [seconds] at read
      change (if y.le (Double.zero false) then _ else _) = _ at read
      split at read
      · cases written? : value.nested? <;> rw [written?] at read <;> cases read
      · next above =>
          cases read
          exact (Double.zero_lt_iff (Bool.eq_false_iff.mpr above)).trans (not_congr (Except.ok.injEq x .nan).to_iff.symm)

/-- The last of some timeouts is no number. -/
def EndsInNan (timeouts : List (Text × Value)) : Prop := ∃ t, timeouts.getLast? = some t ∧ secondsOf t.1 t.2 = .ok .nan

theorem LastTimeout.positive_iff {timeouts : List (Text × Value)} {x : Double} (last : LastTimeout timeouts x) :
    (Double.zero false).lt x = true ↔ ¬ EndsInNan timeouts := by
  unfold LastTimeout at last
  unfold EndsInNan
  cases same : timeouts.getLast? with
  | none =>
      rw [same] at last
      rw [last]
      exact iff_of_true (by decide +kernel) nofun
  | some t =>
      rw [same] at last
      simpa using Settings.positive_iff last

/-! ## The two outcomes -/

/-- **What the reading of settings is to give**: a refusal, or settings with a positive timeout and each environment under
its own name. -/
def Tight : Except ConfigStop Settings → Prop
  | .ok s => (Double.zero false).lt s.timeout = true ∧ OwnNames s
  | .error (.refused _) => True
  | .error (.fault _) => False

instance : DecidablePred Tight
  | .ok s => inferInstanceAs (Decidable ((Double.zero false).lt s.timeout = true ∧ OwnNames s))
  | .error (.refused _) => inferInstanceAs (Decidable True)
  | .error (.fault _) => inferInstanceAs (Decidable False)

/-- **What goes astray**: an overlong integer that is met before anything is refused, or, where nothing is refused, a
timeout that is no number. -/
inductive Strays (entries : List (Value × Value)) (env : Table Text) : Prop
  | overlong {before after : List Demand} {d : Demand} (whole : demands entries env = before ++ d :: after)
      (met : ∀ b ∈ before, b.stop? = none) (long : d.Overlong)
  | noNumber (met : ∀ d ∈ demands entries env, d.stop? = none) (nan : EndsInNan (fileTimeouts entries ++ variableTimeouts env))

/-- **Settings are refused or good** exactly if the reading meets no overlong integer, and no timeout that is no
number. -/
theorem tight_iff (entries : List (Value × Value)) (env : Table Text) :
    Tight (configured entries env) ↔ ¬ Strays entries env := by
  rcases (checks_configured entries env).outcome with
    ⟨e, before, d, after, stopped, whole, met, stop⟩ | ⟨s, same, ⟨last, own⟩, met⟩
  · rw [stopped]
    cases e with
    | fault f => exact iff_of_false id (not_not.mpr (.overlong whole met (d.fault_iff.mp ⟨f, stop⟩)))
    | refused e =>
        refine iff_of_true trivial fun strays => ?_
        cases strays with
        | @overlong before after d' whole' met' long =>
            -- the first demand that is not met is but one
            obtain ⟨f, stop'⟩ := d'.fault_iff.mpr long
            cases stopped.symm.trans ((checks_configured entries env).of_unmet whole' met' stop')
        | noNumber met' =>
            have met'' := met' d (by simp [whole])
            cases stop.symm.trans met''
  · rw [same]
    refine (and_iff_left own).trans (last.positive_iff.trans (not_congr ⟨.noNumber met, fun strays => ?_⟩))
    cases strays with
    | @overlong before after d whole _ long =>
        obtain ⟨f, stop⟩ := d.fault_iff.mpr long
        cases stop.symm.trans (met d (by simp [whole]))
    | noNumber _ nan => exact nan

/-- A timeout that is no number is taken from the configuration file. -/
theorem nan_timeout_not_tight :
    ¬ Tight (configured [(.str "defaults", .map [(.str "timeout", .str "nan")])] []) := by
  decide

end ApiFlow.Settings
