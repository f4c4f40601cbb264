import ApiFlow.Proofs.Flow.Render
import ApiFlow.Proofs.Variable.Writes

/-!
# Metadata and edges that are written and read back

A field is written as a directive and read as a key with a value.  What is written into the lines of metadata or of an
edge is read from them again.

* `directivesIn_fieldLines` : one field.
* `Meta.ofBlock_lines` : metadata.
* `Edge.ofBlock_lines` : an edge.
-/

set_option autoImplicit false

namespace ApiFlow

/-! ## Lists that are kept in order -/

namespace Text

theorem before_irrefl (a : Text) : before a a = false := by
  induction a with
  | nil => rfl
  | cons c a ih => rw [before, if_pos rfl, ih]

theorem before_asymm {a b : Text} (less : before a b = true) : before b a = false := by
  induction a generalizing b with
  | nil => cases b <;> simp [before] at less ⊢
  | cons c a ih =>
      cases b with
      | nil => simp [before] at less
      | cons d b =>
          by_cases same : c = d
          · subst same
            rw [before, if_pos rfl] at less ⊢
            exact ih less
          · rw [before, if_neg same, decide_eq_true_eq] at less
            rw [before, if_neg (Ne.symm same), decide_eq_false_iff_not, UInt32.not_lt]
            exact UInt32.le_of_lt less

theorem unique_of_nodup {texts : List Text} (distinct : texts.Nodup) : unique texts = texts := by
  have grow : ∀ seen rest : List Text, (seen ++ rest).Nodup →
      rest.foldl (fun seen t => if seen.contains t then seen else seen ++ [t]) seen = seen ++ rest := by
    intro seen rest distinct
    induction rest generalizing seen with
    | nil => exact (List.append_nil seen).symm
    | cons t rest ih =>
        have fresh : t ∉ seen := fun old => (List.nodup_append.mp distinct).2.2 t old t List.mem_cons_self rfl
        rw [List.foldl_cons, if_neg (by simpa using fresh), ih (seen ++ [t]) (by simpa using distinct)]
        simp
  exact grow [] texts distinct

/-- **Texts in order, each once, stay as they are.** -/
theorem sort_unique {texts : List Text} (sorted : texts.Pairwise fun a b => before a b = true) :
    sort (unique texts) = texts := by
  have distinct : texts.Nodup := sorted.imp fun {a b} less same => by
    rw [same, before_irrefl] at less
    cases less
  rw [unique_of_nodup distinct, sort]
  exact List.mergeSort_of_pairwise (sorted.imp fun less => by rw [before_asymm less]; rfl)

end Text

namespace Flow

/-! ## Directives -/

/-- A word that a directive may begin with. -/
def IsKey (key : Text) : Prop := key ≠ [] ∧ Text.BlankFree key ∧ Text.lower key = key

instance (key : Text) : Decidable (IsKey key) := inferInstanceAs (Decidable (_ ∧ _ ∧ _))

/-- The directives in some lines. -/
def directivesIn (lines : List Text) : List (Text × Text) := ((lines.map Text.trim).filter isDirective).map directive

theorem directivesIn_append (first second : List Text) :
    directivesIn (first ++ second) = directivesIn first ++ directivesIn second := by
  simp [directivesIn]

/-- A written block has the lines that were written, or one empty line if there are none. -/
theorem splitAt_join_cases {lines : List Text} (free : ∀ line ∈ lines, Text.LineFree line) :
    Text.splitAt '\n' (Text.join ['\n'] lines) = lines ∨
      lines = [] ∧ Text.splitAt '\n' (Text.join ['\n'] lines) = [[]] := by
  by_cases none : lines = []
  · subst none
    exact .inr ⟨rfl, rfl⟩
  · exact .inl (Text.splitAt_join none fun line listed => (free line listed).newline)

theorem directivesIn_block {lines : List Text} (free : ∀ line ∈ lines, Text.LineFree line) :
    directivesIn (Text.splitAt '\n' (Text.join ['\n'] lines)) = directivesIn lines := by
  rcases splitAt_join_cases free with same | ⟨rfl, empty⟩
  · rw [same]
  · rw [empty]
    rfl

variable {key value : Text}

/-- **A directive line** is read as its key and its value. -/
theorem directive_directiveLine (word : IsKey key) (line : IsLine value) (some : value ≠ []) :
    Text.trim (directiveLine key value) = directiveLine key value ∧
      directive (directiveLine key value) = (key, value) := by
  obtain ⟨someKey, solid, lower⟩ := word
  obtain ⟨start, ends⟩ := Text.trim_eq_self_iff.mp line.trimmed
  have whole : Text.trim (directiveLine key value) = directiveLine key value :=
    Text.trim_append (a := ['@']) (by decide) some (fun c first => by cases first; rfl) ends (key ++ [' '])
      |> fun same => by simpa [directiveLine] using same
  have inner : Text.trim (key ++ ' ' :: value) = key ++ ' ' :: value :=
    Text.trim_append someKey some solid.solidStart ends [' ']
  refine ⟨whole, ?_⟩
  have head : isDirective (directiveLine key value) = true := rfl
  have body : (directiveLine key value).drop 1 = key ++ ' ' :: value := rfl
  have blank : ∀ c ∈ (' ' :: value).head?, Text.isBlank c = true := fun c first => by cases first; rfl
  rw [directive, whole, head, if_pos rfl, body, inner, Text.firstWord?_append someKey solid blank]
  dsimp only
  have rest : Text.trimLeft (' ' :: value) = value := Text.trimLeft_eq_self start
  rw [lower, rest, line.trimmed]

theorem directivesIn_directiveLine (word : IsKey key) (line : IsLine value) (some : value ≠ []) :
    directivesIn [directiveLine key value] = [(key, value)] := by
  obtain ⟨whole, read⟩ := directive_directiveLine word line some
  have head : isDirective (directiveLine key value) = true := rfl
  simp [directivesIn, whole, head, read]

/-- **One field**: an empty one has no directive. -/
theorem directivesIn_fieldLines (word : IsKey key) (line : IsLine value) :
    directivesIn (fieldLines key value) = if value = [] then [] else [(key, value)] := by
  by_cases none : value = []
  · simp [fieldLines, none, directivesIn]
  · rw [fieldLines, if_neg (by simpa using none), if_neg none, directivesIn_directiveLine word line none]

/-- A line that holds a directive with a value. -/
def IsField (line : Text) : Prop := ∃ key value, IsKey key ∧ IsLine value ∧ value ≠ [] ∧ line = directiveLine key value

theorem isField_of_mem_fieldLines (word : IsKey key) (line : IsLine value) {field : Text}
    (listed : field ∈ fieldLines key value) : IsField field := by
  unfold fieldLines at listed
  split at listed
  · cases listed
  · rename_i some
    exact ⟨key, value, word, line, by simpa using some, List.mem_singleton.mp listed⟩

/-- A directive fits on a line, stands in front of the content of a step, and closes no block. -/
theorem IsField.fits {line : Text} (field : IsField line) :
    Text.LineFree line ∧ isDirective (Text.trim line) = true ∧
      ∀ fence ∈ fences, fence.isPrefixOf (Text.trim line) = false := by
  obtain ⟨key, value, word, inside, some, rfl⟩ := field
  rw [(directive_directiveLine word inside some).1]
  refine ⟨?_, rfl, ?_⟩
  · exact .append (.cons (by decide) word.2.1.lineFree) (.cons (by decide) inside.free)
  · intro fence listed
    rcases List.mem_cons.mp listed with rfl | listed
    · rfl
    · rw [List.mem_singleton.mp listed]
      rfl

/-! ## Metadata -/

theorem isLine_nil : IsLine [] := ⟨rfl, fun _ never => nomatch never⟩

theorem isLine_of_blankFree {s : Text} (solid : Text.BlankFree s) : IsLine s := ⟨solid.trimmed, solid.lineFree⟩

/-- The value of the directive for the id. -/
theorem isLine_idField {id : Text} (solid : Text.BlankFree id) :
    IsLine (if id.isEmpty then [] else "id=".toList ++ id) := by
  split
  · exact isLine_nil
  · have front : Text.BlankFree "id=".toList := by decide
    exact isLine_of_blankFree (front.append solid)

theorem IsLine.append {a b : Text} (first : IsLine a) (someFirst : a ≠ []) (second : IsLine b) (someSecond : b ≠ [])
    (between : Text) (free : Text.LineFree between) : IsLine (a ++ (between ++ b)) where
  trimmed := Text.trim_append someFirst someSecond (Text.trim_eq_self_iff.mp first.trimmed).1
    (Text.trim_eq_self_iff.mp second.trimmed).2 between
  free := first.free.append (free.append second.free)

theorem isLine_join {texts : List Text} (each : ∀ t ∈ texts, IsLine t ∧ t ≠ []) (some : texts ≠ []) :
    IsLine (Text.join [','] texts) ∧ Text.join [','] texts ≠ [] := by
  induction texts with
  | nil => exact absurd rfl some
  | cons t rest ih =>
      obtain ⟨here, others⟩ := List.forall_mem_cons.mp each
      by_cases last : rest = []
      · subst last
        exact here
      · obtain ⟨line, more⟩ := ih others last
        rw [Text.join_cons _ _ last]
        exact ⟨here.1.append here.2 line more [','] (by decide), by simp [here.2]⟩

/-- The value of the directive for the tags is read as the tags. -/
theorem commaFields_join {tags : List Text} (each : ∀ t ∈ tags, IsLine t ∧ t ≠ [] ∧ ',' ∉ t) (some : tags ≠ []) :
    commaFields (Text.join [','] tags) = tags := by
  rw [commaFields, Text.splitAt_join some fun t listed => (each t listed).2.2]
  have trimmed : tags.map Text.trim = tags := by
    refine (List.map_congr_left fun t listed => ?_).trans (List.map_id tags)
    exact (each t listed).1.trimmed
  rw [trimmed, List.filter_eq_self]
  exact fun t listed => by simpa using (each t listed).2.1

theorem isLine_headerField {h : Text × Text} (name : IsLine h.1) (some : h.1 ≠ []) (value : IsLine h.2) :
    IsLine (headerField h) ∧ headerField h ≠ [] := by
  refine ⟨?_, by simp [headerField]⟩
  unfold headerField
  by_cases none : h.2 = []
  · rw [none]
    exact name.append some ⟨rfl, by decide⟩ (List.cons_ne_nil ':' []) [] nofun
  · rw [if_neg (by simpa using none)]
    exact name.append some value none [':', ' '] (by decide)

/-- One header is written into the table of headers. -/
theorem apply_headerField {m : Meta} {h : Text × Text} (name : IsLine h.1) (some : h.1 ≠ []) (free : ':' ∉ h.1)
    (value : IsLine h.2) :
    m.apply ("header".toList, headerField h) = { m with headers := Table.set m.headers h.1 h.2 } := by
  have rest : Text.trim (if h.2.isEmpty then [] else ' ' :: h.2) = h.2 := by
    by_cases none : h.2 = []
    · simp [none, Text.trim, Text.trimLeft, Text.trimRight, Text.dropEndWhile]
    · rw [if_neg (by simpa using none)]
      exact value.trimmed
  rw [headerField, Meta.apply, if_neg (by decide), if_neg (by decide), if_neg (by decide), if_neg (by decide),
    if_neg (by decide), if_pos rfl, Text.cutAt?_append free]
  dsimp only
  rw [name.trimmed, rest, if_neg (by simpa using some)]

/-- Headers are read one after the other. -/
theorem foldl_headers {m : Meta} {headers : Table Text}
    (each : ∀ h ∈ headers, IsLine h.1 ∧ h.1 ≠ [] ∧ ':' ∉ h.1 ∧ IsLine h.2) :
    (directivesIn (headers.map fun h => directiveLine "header" (headerField h))).foldl Meta.apply m =
      { m with headers := Table.setAll m.headers headers } := by
  induction headers generalizing m with
  | nil => rfl
  | cons h rest ih =>
      obtain ⟨⟨name, some, free, value⟩, others⟩ := List.forall_mem_cons.mp each
      obtain ⟨line, someField⟩ := isLine_headerField name some value
      have one : directivesIn [directiveLine "header" (headerField h)] = [("header".toList, headerField h)] :=
        directivesIn_directiveLine (by decide) line someField
      rw [List.map_cons, ← List.singleton_append, directivesIn_append, List.foldl_append, one, List.foldl_cons,
        List.foldl_nil, apply_headerField name some free value, ih others]
      rfl

/-- A field that is empty leaves the metadata as it is, and one that is not is applied. -/
theorem foldl_field {m m' : Meta} (word : IsKey key) (line : IsLine value) (empty : value = [] → m = m')
    (given : value ≠ [] → m.apply (key, value) = m') :
    (directivesIn (fieldLines key value)).foldl Meta.apply m = m' := by
  rw [directivesIn_fieldLines word line]
  by_cases none : value = []
  · rw [if_pos none]
    exact empty none
  · rw [if_neg none]
    exact given none

/-- The tags of metadata are written on one line. -/
theorem Meta.WellFormed.tagLine {m : Meta} (good : m.WellFormed) : IsLine (Text.join [','] m.tags) := by
  by_cases none : m.tags = []
  · rw [none]
    exact isLine_nil
  · exact (isLine_join (fun t listed => ⟨(good.tags t listed).1, (good.tags t listed).2.1⟩) none).1

theorem isField_of_mem_metaLines {m : Meta} (good : m.WellFormed) {line : Text} (listed : line ∈ m.lines) :
    IsField line := by
  simp only [Meta.lines, List.mem_append] at listed
  rcases listed with ((((id | name) | version) | env) | tags) | header
  · exact isField_of_mem_fieldLines (by decide) (isLine_idField good.id) id
  · exact isField_of_mem_fieldLines (by decide) good.name name
  · exact isField_of_mem_fieldLines (by decide) good.version version
  · exact isField_of_mem_fieldLines (by decide) good.env env
  · exact isField_of_mem_fieldLines (by decide) good.tagLine tags
  · obtain ⟨h, member, rfl⟩ := List.mem_map.mp header
    obtain ⟨name, some, -, value⟩ := good.headers h member
    obtain ⟨inside, someField⟩ := isLine_headerField name some value
    exact ⟨"header".toList, _, by decide, inside, someField, rfl⟩

theorem pairValue?_append {name : Text} (free : '=' ∉ name) (same : Text.lower (Text.trim name) = key) (value : Text) :
    pairValue? key (name ++ '=' :: value) = some (Text.trim value) := by
  unfold pairValue?
  dsimp only
  rw [Text.cutAt?_append free, Option.bind_eq_bind, Option.bind_some, if_pos same]

/-- The value of a text that is one word `key=value`. -/
theorem inlineValue_word (free : '=' ∉ key) (solid : Text.BlankFree (key ++ '=' :: value))
    (lower : Text.lower key = key) : inlineValue (key ++ '=' :: value) key = value := by
  obtain ⟨solidKey, solidRest⟩ := List.forall_mem_append.mp solid
  have bare : Text.trim key = key := Text.BlankFree.trimmed solidKey
  have solidValue : Text.BlankFree value := (List.forall_mem_cons.mp solidRest).2
  rw [inlineValue, Text.words_word (by simp) solid, bare, lower, List.findSome?_cons,
    pairValue?_append free (by rw [bare, lower]), solidValue.trimmed]
  rfl

/-- The id is read from its directive. -/
theorem apply_id {m : Meta} {id : Text} (some : id ≠ []) (solid : ∀ c ∈ id, Text.isBlank c = false) :
    m.apply ("flow".toList, "id=".toList ++ id) = { m with id } := by
  have front : Text.BlankFree "id=".toList := by decide
  have inline : inlineValue ("id=".toList ++ id) "id".toList = id :=
    @inlineValue_word "id".toList id (by decide)
      (front.append solid) (by decide +kernel)
  have flow : m.apply ("flow".toList, "id=".toList ++ id) =
      let read := inlineValue ("id=".toList ++ id) "id".toList
      { m with id := if read.isEmpty then "id=".toList ++ id else read } := rfl
  rw [flow, inline]
  dsimp only
  rw [if_neg (by simpa using some)]

/-- **Metadata are read as they were written.** -/
theorem Meta.ofBlock_lines {m : Meta} (good : m.WellFormed) : Meta.ofBlock (Text.join ['\n'] m.lines) = m := by
  have free : ∀ line ∈ m.lines, Text.LineFree line := fun line listed => (isField_of_mem_metaLines good listed).fits.1
  have id : (directivesIn (fieldLines "flow" (if m.id.isEmpty then [] else "id=".toList ++ m.id))).foldl Meta.apply {} =
      { id := m.id } := by
    refine foldl_field (by decide) (isLine_idField good.id) (fun empty => ?_) fun given => ?_
    · by_cases none : m.id = []
      · rw [none]
      · simp [none] at empty
    · by_cases none : m.id = []
      · simp [none] at given
      · rw [if_neg (by simpa using none), apply_id none good.id]
  have name : (directivesIn (fieldLines "name" m.name)).foldl Meta.apply { id := m.id } =
      { id := m.id, name := m.name } :=
    foldl_field (by decide) good.name (fun none => by rw [none]) fun _ => rfl
  have version : (directivesIn (fieldLines "version" m.version)).foldl Meta.apply { id := m.id, name := m.name } =
      { id := m.id, name := m.name, version := m.version } :=
    foldl_field (by decide) good.version (fun none => by rw [none]) fun _ => rfl
  have env : (directivesIn (fieldLines "env" m.env)).foldl Meta.apply
      { id := m.id, name := m.name, version := m.version } =
      { id := m.id, name := m.name, version := m.version, env := m.env } :=
    foldl_field (by decide) good.env (fun none => by rw [none]) fun _ => rfl
  have tags : (directivesIn (fieldLines "tags" (Text.join [','] m.tags))).foldl Meta.apply
      { id := m.id, name := m.name, version := m.version, env := m.env } =
      { id := m.id, name := m.name, version := m.version, env := m.env, tags := m.tags } := by
    refine foldl_field (by decide) good.tagLine (fun empty => ?_) fun given => ?_
    · by_cases none : m.tags = []
      · rw [none]
      · exact absurd empty (isLine_join (fun t listed => ⟨(good.tags t listed).1, (good.tags t listed).2.1⟩) none).2
    · have some : m.tags ≠ [] := fun none => given (by rw [none]; rfl)
      have read : Text.sort (Text.unique (commaFields (Text.join [','] m.tags))) = m.tags := by
        rw [commaFields_join good.tags some, Text.sort_unique good.sorted]
      exact congrArg (fun tags =>
        ({ id := m.id, name := m.name, version := m.version, env := m.env, tags } : Meta)) read
  have headers : Table.setAll [] m.headers = m.headers := Table.ofWrites_of_nodup good.distinct
  have block : Meta.ofBlock (Text.join ['\n'] m.lines) =
      (directivesIn (Text.splitAt '\n' (Text.join ['\n'] m.lines))).foldl Meta.apply {} := rfl
  rw [block, directivesIn_block free, Meta.lines]
  simp only [directivesIn_append, List.foldl_append]
  rw [id, name, version, env, tags, foldl_headers good.headers]
  dsimp only
  rw [headers]

theorem isMetaBlock_lines {m : Meta} (good : m.WellFormed) : isMetaBlock (Text.join ['\n'] m.lines) = true := by
  have free : ∀ line ∈ m.lines, Text.LineFree line := fun line listed => (isField_of_mem_metaLines good listed).fits.1
  rw [isMetaBlock]
  rcases splitAt_join_cases free with same | ⟨-, empty⟩
  · rw [same, List.all_eq_true]
    intro line listed
    simp [(isField_of_mem_metaLines good listed).fits.2.1]
  · rw [empty]
    rfl

/-- Metadata that come first are taken as they are. -/
theorem merge_first {m : Meta} (distinct : (Table.names m.headers).Nodup) : ({} : Meta).merge m = m := by
  have either (text : Text) : orElse [] text = text := by
    cases text <;> rfl
  have tags : (if m.tags.isEmpty then [] else m.tags) = m.tags := by
    cases m.tags <;> rfl
  have headers : Table.setAll [] m.headers = m.headers := Table.ofWrites_of_nodup distinct
  simp only [Meta.merge, either, tags, headers]

/-! ## Edges -/

theorem isField_of_mem_edgeLines {e : Edge} (good : e.WellFormed) {line : Text} (listed : line ∈ e.lines) :
    IsField line := by
  rcases List.mem_cons.mp listed with rfl | listed
  · exact ⟨"from".toList, e.source, by decide, good.source.1, good.source.2, rfl⟩
  · rcases List.mem_cons.mp listed with rfl | listed
    · exact ⟨"to".toList, e.target, by decide, good.target.1, good.target.2, rfl⟩
    · exact isField_of_mem_fieldLines (by decide) good.condition listed

theorem directivesIn_edgeLines {e : Edge} (good : e.WellFormed) :
    directivesIn e.lines = [("from".toList, e.source), ("to".toList, e.target)] ++
      if e.condition = [] then [] else [("on".toList, e.condition)] := by
  have parts : e.lines =
      [directiveLine "from" e.source] ++ ([directiveLine "to" e.target] ++ fieldLines "on" e.condition) := rfl
  rw [parts, directivesIn_append, directivesIn_append,
    directivesIn_directiveLine (by decide) good.source.1 good.source.2,
    directivesIn_directiveLine (by decide) good.target.1 good.target.2,
    directivesIn_fieldLines (by decide) good.condition]
  rfl

/-- **An edge is read as it was written**, at the line where it stands. -/
theorem Edge.ofBlock_lines {e : Edge} (good : e.WellFormed) (line : Nat) :
    Edge.ofBlock (Text.join ['\n'] e.lines) line = { e with line } := by
  have free : ∀ line ∈ e.lines, Text.LineFree line := fun line listed => (isField_of_mem_edgeLines good listed).fits.1
  have last (key : Text) : lastValue (Text.join ['\n'] e.lines) key =
      ([("from".toList, e.source), ("to".toList, e.target)] ++
        if e.condition = [] then [] else [("on".toList, e.condition)]).foldl
          (fun value d => if d.1 = key then d.2 else value) [] := by
    rw [← directivesIn_edgeLines good, ← directivesIn_block free]
    rfl
  rw [Edge.ofBlock, last, last, last]
  by_cases none : e.condition = []
  · rw [if_pos none]
    have same : e = { source := e.source, target := e.target, condition := [], line := e.line } := by rw [← none]
    rw [same]
    rfl
  · rw [if_neg none]
    rfl

end Flow

end ApiFlow
