import ApiFlow.Proofs.Text.Fields
import ApiFlow.Variable.Capture
import ApiFlow.Variable.Context

/-!
# Variables as histories of writes

A table of variables is what a list of writes leaves: the last write to a name counts, and a name that is not written
keeps its value.  The captures of a step and the values that a store takes in are such lists.

A step makes its writes under its own name, and a step that has failed may have its writes flagged.  The flag goes by the
name of the step: every variable that was last written under that name is flagged, and no other.

A step with one capture has captured what its query finds, and has stopped if the lookup stops.  A query that is a path is
looked up in an output as it is in a body, except that an empty text counts as none.

* `Table.last?` : the value of the last write to a name.
* `Table.get?_setAll` : what a list of writes leaves in a table.
* `Store.values_save` : a value saved at one place changes the table of that place and no other.
* `Context.writeAll`, `Context.afterStep` : some writes of a step, and the variables after it, be they flagged or not.
* `get?_afterStep_of_mem`, `get?_afterStep_of_not_mem` : the source of a written variable, and that of any other.
* `entryOf` : an entry with an equals sign, and `parse?_entryOf` : how it is read.
* `harvest_single`, `value?_harvest` : what one entry leaves.
* `find_output` : a path in an output.
-/

set_option autoImplicit false

namespace ApiFlow

/-! ## Tables -/

namespace Table

variable {α β : Type}

/-- The value of the last write to a name. -/
def last? (writes : List (Text × α)) (name : Text) : Option α := get? writes.reverse name

theorem get?_append (first second : Table α) (name : Text) :
    get? (first ++ second) name = (get? first name).or (get? second name) := by
  induction first with
  | nil => rfl
  | cons entry rest ih =>
      by_cases here : entry.1 = name
      · simp [get?, here]
      · simp [get?, here, ih]

theorem last?_append (first second : List (Text × α)) (name : Text) :
    last? (first ++ second) name = (last? second name).or (last? first name) := by
  rw [last?, List.reverse_append, get?_append, last?, last?]

theorem setAll_cons (table : Table α) (write : Text × α) (writes : List (Text × α)) :
    setAll table (write :: writes) = setAll (set table write.1 write.2) writes := rfl

theorem setAll_append (table : Table α) (first second : List (Text × α)) :
    setAll table (first ++ second) = setAll (setAll table first) second :=
  List.foldl_append

/-- **The last write counts.** -/
theorem get?_setAll (table : Table α) (writes : List (Text × α)) (name : Text) :
    get? (setAll table writes) name = (last? writes name).or (get? table name) := by
  induction writes generalizing table with
  | nil => rfl
  | cons write rest ih =>
      have single : last? [write] name = if write.1 = name then some write.2 else none := rfl
      rw [setAll_cons, ih, get?_set, ← List.singleton_append, last?_append, Option.or_assoc, single]
      split <;> rfl

theorem get?_eq_none_iff {table : Table α} {name : Text} : get? table name = none ↔ name ∉ names table := by
  induction table with
  | nil => exact iff_of_true rfl List.not_mem_nil
  | cons entry rest ih =>
      by_cases here : entry.1 = name
      · simp [get?, names, here]
      · have apart : name ≠ entry.1 := Ne.symm here
        rw [get?, if_neg here, ih]
        simp [names, apart]

theorem mem_of_get? {table : Table α} {name : Text} {value : α} (found : get? table name = some value) :
    (name, value) ∈ table := by
  induction table with
  | nil => cases found
  | cons entry rest ih =>
      rw [get?] at found
      split at found
      · rename_i here
        rw [← here, ← Option.some.inj found]
        exact List.mem_cons_self
      · exact List.mem_cons_of_mem entry (ih found)

/-- What a table lists under a name that it has once is the value of that name. -/
theorem get?_of_mem {table : Table α} (distinct : (names table).Nodup) {entry : Text × α} (listed : entry ∈ table) :
    get? table entry.1 = some entry.2 := by
  induction table with
  | nil => cases listed
  | cons other rest ih =>
      obtain ⟨fresh, distinct⟩ := List.nodup_cons.mp distinct
      rcases List.mem_cons.mp listed with rfl | later
      · simp [get?]
      · have apart : other.1 ≠ entry.1 := fun same => fresh (same ▸ List.mem_map_of_mem later)
        rw [get?, if_neg apart, ih distinct later]

theorem last?_eq_none_iff {writes : List (Text × α)} {name : Text} :
    last? writes name = none ↔ name ∉ writes.map Prod.fst := by
  rw [last?, get?_eq_none_iff, names, List.map_reverse, List.mem_reverse]

/-- Where each name is written once, the first write is the last. -/
theorem last?_of_nodup {table : Table α} (distinct : (names table).Nodup) (name : Text) :
    last? table name = get? table name := by
  induction table with
  | nil => rfl
  | cons entry rest ih =>
      obtain ⟨fresh, distinct⟩ := List.nodup_cons.mp distinct
      have single : last? [entry] name = if entry.1 = name then some entry.2 else none := rfl
      rw [← List.singleton_append, last?_append, ih distinct, single, get?_append]
      by_cases here : entry.1 = name
      · subst here
        rw [get?_eq_none_iff.mpr fresh, Option.none_or]
        simp [get?]
      · simp [get?, here]

theorem mem_names_set {table : Table α} {name other : Text} {value : α} :
    other ∈ names (set table name value) ↔ other = name ∨ other ∈ names table := by
  induction table with
  | nil => simp [set, names]
  | cons entry rest ih =>
      by_cases here : entry.1 = name
      · simp [set, names, here]
      · simp only [names] at ih
        simp only [set, here, if_false, names, List.map_cons, List.mem_cons, ih]
        exact or_left_comm

theorem nodup_names_set {table : Table α} (distinct : (names table).Nodup) (name : Text) (value : α) :
    (names (set table name value)).Nodup := by
  induction table with
  | nil => simp [set, names]
  | cons entry rest ih =>
      obtain ⟨fresh, distinct'⟩ := List.nodup_cons.mp distinct
      by_cases here : entry.1 = name
      · rw [set, if_pos here]
        exact distinct
      · rw [set, if_neg here]
        refine List.nodup_cons.mpr ⟨fun again => ?_, ih distinct'⟩
        obtain same | old := mem_names_set.mp again
        · exact here same
        · exact fresh old

/-- Writes keep each name once. -/
theorem nodup_names_setAll {table : Table α} (distinct : (names table).Nodup) (writes : List (Text × α)) :
    (names (setAll table writes)).Nodup := by
  induction writes generalizing table with
  | nil => exact distinct
  | cons write rest ih => exact ih (nodup_names_set distinct write.1 write.2)

theorem nodup_names_ofWrites (writes : List (Text × α)) : (names (ofWrites writes)).Nodup := by
  have empty : (names ([] : Table α)).Nodup := List.nodup_nil
  exact nodup_names_setAll empty writes

/-- What a write leaves in a table is the write or stood there before. -/
theorem mem_set {table : Table α} {name : Text} {value : α} {entry : Text × α} (listed : entry ∈ set table name value) :
    entry = (name, value) ∨ entry ∈ table := by
  induction table with
  | nil => exact .inl (List.mem_singleton.mp listed)
  | cons first rest ih =>
      rw [set] at listed
      split at listed
      · rename_i here
        subst here
        exact (List.mem_cons.mp listed).imp_right (List.mem_cons_of_mem first)
      · obtain rfl | later := List.mem_cons.mp listed
        · exact .inr List.mem_cons_self
        · exact (ih later).imp_right (List.mem_cons_of_mem first)

theorem mem_setAll {table : Table α} {writes : List (Text × α)} {entry : Text × α}
    (listed : entry ∈ setAll table writes) : entry ∈ table ∨ entry ∈ writes := by
  induction writes generalizing table with
  | nil => exact .inl listed
  | cons write writes ih =>
      rw [setAll_cons] at listed
      obtain written | later := ih listed
      · exact (mem_set written).symm.imp_right fun same : entry = write => same ▸ List.mem_cons_self
      · exact .inr (List.mem_cons_of_mem write later)

theorem set_of_not_mem {table : Table α} {name : Text} (fresh : name ∉ names table) (value : α) :
    set table name value = table ++ [(name, value)] := by
  induction table with
  | nil => rfl
  | cons entry rest ih =>
      obtain ⟨other, fresh⟩ := not_or.mp (mt List.mem_cons.mpr fresh)
      rw [set, if_neg (Ne.symm other), ih fresh, List.cons_append]

/-- Writes to different names make up a table as they are. -/
theorem ofWrites_of_nodup {table : Table α} (distinct : (names table).Nodup) : ofWrites table = table := by
  have grow : ∀ front rest : Table α, (names (front ++ rest)).Nodup → setAll front rest = front ++ rest := by
    intro front rest distinct
    induction rest generalizing front with
    | nil => exact (List.append_nil front).symm
    | cons write rest ih =>
        have fresh : write.1 ∉ names front := by
          rw [names, List.map_append] at distinct
          exact fun old => (List.nodup_append.mp distinct).2.2 _ old _ List.mem_cons_self rfl
        rw [setAll_cons, set_of_not_mem fresh, ih _ (by simpa using distinct)]
        simp
  exact grow [] table distinct

/-- A table from a list of writes has their names. -/
theorem mem_names_ofWrites {writes : List (Text × α)} {name : Text} :
    name ∈ names (ofWrites writes) ↔ name ∈ writes.map Prod.fst := by
  have absent : get? (ofWrites writes) name = none ↔ last? writes name = none := by
    rw [ofWrites, get?_setAll]
    simp [get?]
  rw [get?_eq_none_iff, last?_eq_none_iff] at absent
  exact Decidable.not_iff_not.mp absent

/-- Writes of one value only: what has a value has that one. -/
theorem getD_ofWrites {value : α} {writes : List (Text × α)} (same : ∀ write ∈ writes, write.2 = value) (name : Text) :
    (get? (ofWrites writes) name).getD value = value := by
  cases found : get? (ofWrites writes) name with
  | none => rfl
  | some other =>
      have nothing : get? ([] : Table α) name = none := rfl
      rw [ofWrites, get?_setAll, nothing, Option.or_none] at found
      exact same _ (List.mem_reverse.mp (mem_of_get? found))

theorem get?_ofWrites_of_mem {value : α} {writes : List (Text × α)} (same : ∀ write ∈ writes, write.2 = value)
    {name : Text} (written : name ∈ writes.map Prod.fst) : get? (ofWrites writes) name = some value := by
  have only := getD_ofWrites same name
  cases found : get? (ofWrites writes) name with
  | none => exact absurd (mem_names_ofWrites.mpr written) (get?_eq_none_iff.mp found)
  | some other => simpa [found] using only

theorem set_set (table : Table α) (name : Text) (value value' : α) :
    set (set table name value) name value' = set table name value' := by
  induction table with
  | nil => simp [set]
  | cons entry rest ih =>
      by_cases here : entry.1 = name
      · simp [set, here]
      · simp [set, here, ih]

/-- A write to a name that is there can be made before a write to another name. -/
theorem set_comm {table : Table α} {name other : Text} (apart : other ≠ name) (old : name ∈ names table)
    (value value' : α) : set (set table other value') name value = set (set table name value) other value' := by
  induction table with
  | nil => cases old
  | cons entry rest ih =>
      by_cases here : entry.1 = name
      · simp [set, here, Ne.symm apart]
      · have old : name ∈ names rest := (List.mem_cons.mp old).resolve_left (Ne.symm here)
        by_cases there : entry.1 = other
        · simp [set, there, apart]
        · simp [set, here, there, ih old]

theorem set_setAll {table : Table α} {name : Text} (old : name ∈ names table) {writes : List (Text × α)}
    (apart : name ∉ writes.map Prod.fst) (value : α) :
    set (setAll table writes) name value = setAll (set table name value) writes := by
  induction writes generalizing table with
  | nil => rfl
  | cons write writes ih =>
      obtain ⟨other, apart⟩ := List.ne_and_not_mem_of_not_mem_cons apart
      rw [setAll_cons, setAll_cons, ih (mem_names_set.mpr (.inr old)) apart, set_comm (Ne.symm other) old]

/-- Writing a table with one more write in it is writing the table first and then the one. -/
theorem setAll_set (table : Table α) {writes : Table α} (distinct : (names writes).Nodup) (name : Text) (value : α) :
    setAll table (set writes name value) = set (setAll table writes) name value := by
  induction writes generalizing table with
  | nil => rfl
  | cons write writes ih =>
      obtain ⟨fresh, distinct⟩ := List.nodup_cons.mp distinct
      by_cases here : write.1 = name
      · subst here
        rw [set, if_pos rfl, setAll_cons, setAll_cons, set_setAll (mem_names_set.mpr (.inl rfl)) fresh, set_set]
      · rw [set, if_neg here, setAll_cons, setAll_cons, ih _ distinct]

/-- **Writing tables one after the other** does not depend on which two are put together first. -/
theorem setAll_setAll (table : Table α) {first : Table α} (distinct : (names first).Nodup)
    (second : List (Text × α)) : setAll table (setAll first second) = setAll (setAll table first) second := by
  induction second generalizing first with
  | nil => rfl
  | cons write second ih =>
      rw [setAll_cons, setAll_cons, ih (nodup_names_set distinct write.1 write.2), setAll_set table distinct]

/-- Mapping the values of a table commutes with a write. -/
theorem map_set (f : α → β) (table : Table α) (name : Text) (value : α) :
    (set table name value).map (fun entry => (entry.1, f entry.2)) =
      set (table.map fun entry => (entry.1, f entry.2)) name (f value) := by
  induction table with
  | nil => rfl
  | cons entry rest ih =>
      by_cases here : entry.1 = name
      · simp [set, here]
      · simp [set, here, ih]

theorem get?_map (f : α → β) (table : Table α) (name : Text) :
    get? (table.map fun entry => (entry.1, f entry.2)) name = (get? table name).map f := by
  induction table with
  | nil => rfl
  | cons entry rest ih =>
      by_cases here : entry.1 = name
      · simp [get?, here]
      · simpa [get?, here] using ih

end Table

namespace Context

theorem values_write (c : Context) (name : Text) (source : Source) :
    (c.write name source).values = Table.set c.values name source.value :=
  Table.map_set Source.value c name source

/-- Flagging a step changes no value. -/
theorem values_markFailed (c : Context) (step : Text) : (c.markFailed step).values = c.values := by
  rw [markFailed, values, List.map_map, values]
  refine List.map_congr_left fun entry _ => ?_
  simp only [Function.comp_apply, flag]
  split <;> rfl

theorem get?_values (c : Context) (name : Text) : Table.get? c.values name = c.value? name :=
  Table.get?_map Source.value c name

theorem values_ofCommandLine (vars : Table Text) : (ofCommandLine vars).values = vars := by
  rw [ofCommandLine, values, List.map_map]
  exact List.map_id vars

end Context

/-! ## Stores -/

namespace Store

variable {project env : Text}

theorem find?_update (place : Text × Text) (change : Table Text → Table Text)
    (tables : List ((Text × Text) × Table Text)) (other : Text × Text) :
    (((update place change tables).find? fun t => t.1 = other).map Prod.snd).getD [] =
      if other = place then change (((tables.find? fun t => t.1 = place).map Prod.snd).getD [])
      else ((tables.find? fun t => t.1 = other).map Prod.snd).getD [] := by
  induction tables with
  | nil =>
      by_cases same : other = place
      · simp [update, same]
      · simp [update, same, Ne.symm same]
  | cons entry rest ih =>
      obtain ⟨p, table⟩ := entry
      by_cases here : p = place
      · subst here
        by_cases same : other = p
        · simp [update, same]
        · simp [update, same, Ne.symm same]
      · by_cases there : p = other
        · subst there
          simp [update, here]
        · simpa [update, here, there] using ih

/-- **A saved value changes the table of its place and no other.** -/
theorem values_save (s : Store) (name value project' env' : Text) :
    (s.save project env name value).values project' env' =
      if (project', env') = (project, env) then (s.values project env).set name value else s.values project' env' :=
  find?_update (project, env) _ s.tables (project', env')

end Store

end ApiFlow

namespace ApiFlow.Context

variable {c : Context} {step name : Text} {writes more : List (Text × Text)} {flagged : Bool}

/-- What became of the step that wrote a variable. -/
def standing? (c : Context) (name : Text) : Option Standing := (Table.get? c name).map (·.standing)

/-- A write under the name of a step. -/
def sourced (step : Text) (write : Text × Text) : Text × Source := (write.1, { value := write.2, step })

/-- The variables after some writes of a step. -/
def writeAll (c : Context) (step : Text) (writes : List (Text × Text)) : Context :=
  Table.setAll c (writes.map (sourced step))

/-- The variables after a step that has made some writes; `flagged` tells whether it was flagged in the end. -/
def afterStep (c : Context) (step : Text) (writes : List (Text × Text)) (flagged : Bool) : Context :=
  if flagged then (c.writeAll step writes).markFailed step else c.writeAll step writes

theorem writeAll_append (c : Context) (step : Text) (writes more : List (Text × Text)) :
    c.writeAll step (writes ++ more) = (c.writeAll step writes).writeAll step more := by
  rw [writeAll, List.map_append, Table.setAll_append, writeAll, writeAll]

/-- What was written before belongs to the writes of the step. -/
theorem afterStep_writeAll (c : Context) (step : Text) (writes more : List (Text × Text)) (flagged : Bool) :
    (c.writeAll step writes).afterStep step more flagged = c.afterStep step (writes ++ more) flagged := by
  rw [afterStep, afterStep, writeAll_append]

theorem values_writeAll (c : Context) (step : Text) (writes : List (Text × Text)) :
    (c.writeAll step writes).values = Table.setAll c.values writes := by
  induction writes generalizing c with
  | nil => rfl
  | cons write rest ih =>
      have one : (c.write write.1 { value := write.2, step }).values = Table.set c.values write.1 write.2 :=
        values_write c write.1 _
      rw [Table.setAll_cons, ← one, ← ih]
      rfl

@[simp] theorem step_flag (step : Text) (s : Source) : (flag step s).step = s.step := by
  unfold flag
  split <;> rfl

/-- A flag spares what was written under another name. -/
theorem standing_flag_iff {s : Source} : (flag step s).standing = .good ↔ s.standing = .good ∧ step ≠ s.step := by
  unfold flag
  split
  · simp [*]
  · rename_i other
    exact ⟨fun good => ⟨good, Ne.symm other⟩, And.left⟩

theorem get?_markFailed (c : Context) (step name : Text) :
    Table.get? (c.markFailed step) name = (Table.get? c name).map (flag step) :=
  Table.get?_map (flag step) c name

/-- Of the writes of a step, the last one to a name counts. -/
theorem get?_writeAll (c : Context) (step : Text) (writes : List (Text × Text)) (name : Text) :
    Table.get? (c.writeAll step writes) name =
      ((Table.last? writes name).map fun value => { value, step }).or (Table.get? c name) := by
  have last : Table.last? (writes.map (sourced step)) name = (Table.last? writes name).map fun value => { value, step } := by
    rw [Table.last?, ← List.map_reverse]
    exact Table.get?_map (fun value => ({ value, step } : Source)) writes.reverse name
  rw [writeAll, Table.get?_setAll, last]

/-- **A variable that the step has written** bears the name of the step, and is flagged if the step is. -/
theorem get?_afterStep_of_mem (written : name ∈ writes.map Prod.fst) :
    ∃ value, Table.get? (c.afterStep step writes flagged) name =
      some { value, step, standing := if flagged then .failed else .good } := by
  obtain ⟨value, last⟩ : ∃ value, Table.last? writes name = some value :=
    Option.ne_none_iff_exists'.mp fun none => Table.last?_eq_none_iff.mp none written
  refine ⟨value, ?_⟩
  have source : Table.get? (c.writeAll step writes) name = some { value, step } := by
    rw [get?_writeAll, last]
    rfl
  cases flagged with
  | false => exact source
  | true =>
      rw [afterStep, if_pos rfl, get?_markFailed, source]
      simp [flag]

/-- **Any other variable** keeps its source, and is flagged if the step is and its source bears the name of the step. -/
theorem get?_afterStep_of_not_mem (unwritten : name ∉ writes.map Prod.fst) :
    Table.get? (c.afterStep step writes flagged) name =
      (Table.get? c name).map fun source => if flagged then flag step source else source := by
  have source : Table.get? (c.writeAll step writes) name = Table.get? c name := by
    rw [get?_writeAll, Table.last?_eq_none_iff.mpr unwritten, Option.map_none, Option.none_or]
  cases flagged with
  | false => simpa [afterStep] using source
  | true => rw [afterStep, if_pos rfl, get?_markFailed, source]; rfl

end ApiFlow.Context

namespace ApiFlow.Capture

variable {product : Product} {entry name query value : Text}

/-! ## The entry -/

/-- A name and a query with an equals sign between them. -/
def entryOf (name query : Text) : Text := name ++ " = " ++ query

theorem entryOf_eq (name query : Text) : entryOf name query = (name ++ [' ']) ++ '=' :: (' ' :: query) := by
  rw [entryOf, List.append_assoc, List.append_assoc]
  rfl

/-- **An entry is read as it was put together**, whatever signs the query holds. -/
theorem parse?_entryOf (nameSolid : Text.BlankFree name) (nameFree : '=' ∉ name) (solid : Text.BlankFree query) :
    parse? (entryOf name query) = some (name, query) := by
  have free : '=' ∉ name ++ [' '] := by simp [nameFree]
  have holds : (entryOf name query).contains '=' = true := by simp [entryOf_eq]
  have first : Text.trim (name ++ [' ']) = name := by
    rw [Text.trim_concat_blank (by decide), nameSolid.trimmed]
  have second : Text.trim (' ' :: query) = query := by
    rw [Text.trim_blank_cons (by decide), solid.trimmed]
  rw [parse?, holds, Bool.true_or, if_pos rfl, entryOf_eq, Text.cutAt?_append free, Option.map_some, first, second]

/-! ## What it leaves -/

/-- **One entry** is all that is looked up. -/
theorem harvest_single (parsed : parse? entry = some (name, query)) (named : name ≠ []) (product : Product)
    (step : Text) (context : Context) :
    harvest product step context [entry] =
      match find query product with
      | .error fault => { context, fault? := some fault }
      | .ok value? => ({ context } : Harvest).add step name query value? := by
  rw [harvest, List.foldl_cons, List.foldl_nil, Harvest.take, if_neg (by simp), parsed]
  dsimp only
  cases find query product with
  | error fault => rfl
  | ok value? => exact if_neg (by simpa using named)

/-- A capture that finds a text leaves it in its variable. -/
theorem value?_harvest (parsed : parse? entry = some (name, query)) (named : name ≠ [])
    (found : find query product = .ok (some value)) (step : Text) (context : Context) :
    Table.get? (harvest product step context [entry]).context.values name = some value := by
  rw [harvest_single parsed named, found]
  dsimp only [Harvest.add]
  rw [Context.values_write, Table.get?_set, if_pos rfl]

/-! ## Bodies and outputs -/

/-- **A path in an output** finds what it finds in a body, except for an empty text. -/
theorem find_output (path : query.head? ≠ some '$') (text : Text) :
    find query (.output text) = (find query (.body text)).map (Option.filter fun value => !value.isEmpty) := by
  have whole : query ≠ "$stdout".toList := by
    rintro rfl
    exact path rfl
  have noLine : ¬ "$line.".toList.isPrefixOf query = true := by
    rw [List.isPrefixOf_iff_prefix]
    rintro ⟨rest, rfl⟩
    exact path rfl
  rw [find, find, inOutput, if_neg whole, if_neg noLine]
  cases inBody text query with
  | error fault => rfl
  | ok value? =>
      cases value? with
      | none => rfl
      | some value => cases value <;> rfl

end ApiFlow.Capture
