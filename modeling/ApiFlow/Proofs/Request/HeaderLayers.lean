import ApiFlow.Proofs.Request.PlainBody
import ApiFlow.Proofs.Text.Ascii
import ApiFlow.Proofs.Variable.Writes
import ApiFlow.Request.Basic

/-!
# Headers in layers

The headers of a request come from the settings, from the flow and from its own lines, and each name counts once however
it is written: in the highest layer that has it, and there where it is written last.

The canonical form of an ASCII name writes the first letter of each part between hyphens as a capital and every other one
small, with nothing around the name.  Two names have one canonical form exactly if they are the same up to case and the
blanks around them, and the canonical form is one more such name.

* `Header.SameName`, `Header.canonical_eq_iff` : names that are the same are those with one canonical form.
* `HeaderLayers`, `HeaderLayers.value?` : the entries of the three layers, and what they give a name.
* `headerLayers` : the layers of a request with their references filled in.
* `headers_eq` : the prepared headers are what the layers leave when they are written one after the other.
* `header_layers` : no two prepared names are the same, they are the names of the layers, and each has the value that the
  layers give it.
-/

set_option autoImplicit false

namespace ApiFlow

namespace Header

open Text (IsAscii)

variable {a b s : Text}

/-- The names differ in case and in blanks around them only. -/
def SameName (a b : Text) : Prop := (Text.trim a).map Char.toLower = (Text.trim b).map Char.toLower

instance (a b : Text) : Decidable (SameName a b) := inferInstanceAs (Decidable (_ = _))

theorem SameName.trans {c : Text} (first : SameName a b) (second : SameName b c) : SameName a c := Eq.trans first second

/-! ## The canonical form as a walk -/

/-- A text with a capital in front, if it begins a part, and behind each hyphen. -/
def titled (begins : Bool) : Text → Text
  | [] => []
  | c :: s => (if begins then c.toUpper else c.toLower) :: titled (c = '-') s

theorem capitalize_ascii {c : Char} (ascii : IsAscii (c :: s)) : capitalize (c :: s) = c.toUpper :: s.map Char.toLower := by
  obtain ⟨here, rest⟩ := List.forall_mem_cons.mp ascii
  rw [capitalize, Text.upperChar_ascii here, Text.lower_ascii rest]
  rfl

/-- The parts of an ASCII text, the first of them capitalised or in lower case, and the others capitalised. -/
theorem join_parts (ascii : IsAscii s) : ∀ part parts, Text.splitAt '-' s = part :: parts →
    Text.join ['-'] (capitalize part :: parts.map capitalize) = titled true s ∧
      Text.join ['-'] (part.map Char.toLower :: parts.map capitalize) = titled false s := by
  induction s with
  | nil =>
      rintro _ _ ⟨⟩
      exact ⟨rfl, rfl⟩
  | cons c s ih =>
      obtain ⟨here, rest⟩ := List.forall_mem_cons.mp ascii
      obtain ⟨next, more, split⟩ := List.exists_cons_of_ne_nil (Text.splitAt_ne_nil '-' s)
      obtain ⟨capital, small⟩ := ih rest next more split
      intro part parts cut
      by_cases hyphen : c = '-'
      · subst hyphen
        have fields : Text.splitAt '-' ('-' :: s) = [] :: next :: more := by
          rw [← split]
          exact Text.splitAt_append List.not_mem_nil s
        obtain ⟨rfl, rfl⟩ := List.cons.inj (fields.symm.trans cut)
        have behind (first : Text) :
            Text.join ['-'] (first :: (next :: more).map capitalize) = first ++ '-' :: titled true s := by
          rw [List.map_cons, Text.join_cons _ _ (List.cons_ne_nil _ _), capital]
          rfl
        exact ⟨behind [], behind []⟩
      · have fields : Text.splitAt '-' (c :: s) = (c :: next) :: more := by
          rw [Text.splitAt_cons hyphen, split]
          rfl
        obtain ⟨rfl, rfl⟩ := List.cons.inj (fields.symm.trans cut)
        have partAscii : IsAscii (c :: next) := fun d listed =>
          ascii d (Text.mem_of_mem_splitAt (by rw [fields]; exact List.mem_cons_self) listed).1
        have inside : titled (c = '-') s = titled false s := by rw [decide_eq_false hyphen]
        have behind (d : Char) :
            Text.join ['-'] ((d :: next.map Char.toLower) :: more.map capitalize) = d :: titled false s :=
          (Text.join_pushFirst ['-'] d (List.cons_ne_nil _ _)).trans (congrArg (d :: ·) small)
        rw [capitalize_ascii partAscii, List.map_cons, behind, behind, titled, titled, inside]
        exact ⟨rfl, rfl⟩

/-- **The canonical form of an ASCII name** is one walk over its characters. -/
theorem canonical_ascii (ascii : IsAscii a) : canonical a = titled true (Text.trim a) := by
  obtain ⟨part, parts, split⟩ := List.exists_cons_of_ne_nil (Text.splitAt_ne_nil '-' (Text.trim a))
  rw [canonical, split]
  exact (join_parts ascii.trim part parts split).1

/-! ## Names that are the same -/

theorem map_toLower_titled (begins : Bool) (s : Text) : (titled begins s).map Char.toLower = s.map Char.toLower := by
  induction s generalizing begins with
  | nil => rfl
  | cons c s ih =>
      rw [titled, List.map_cons, List.map_cons, ih]
      cases begins
      · exact congrArg (· :: _) (Text.toLower_toLower c)
      · exact congrArg (· :: _) (Text.toLower_toUpper c)

theorem titled_map_toLower (begins : Bool) (s : Text) : titled begins (s.map Char.toLower) = titled begins s := by
  induction s generalizing begins with
  | nil => rfl
  | cons c s ih =>
      have hyphen : decide (c.toLower = '-') = decide (c = '-') := decide_eq_decide.mpr (Text.toLower_eq_hyphen_iff c)
      rw [List.map_cons, titled, titled, hyphen, ih, Text.toUpper_toLower, Text.toLower_toLower]

/-- **A name and its canonical form are the same.** -/
theorem sameName_canonical (ascii : IsAscii a) : SameName (canonical a) a := by
  rw [SameName, canonical_ascii ascii, ← Text.trim_map_toLower, map_toLower_titled, Text.trim_map_toLower, Text.trim_trim]

/-- **Names have one canonical form** exactly if they are the same. -/
theorem canonical_eq_iff (asciiA : IsAscii a) (asciiB : IsAscii b) : canonical a = canonical b ↔ SameName a b := by
  constructor
  · intro same
    exact (sameName_canonical asciiA).symm.trans (same ▸ sameName_canonical asciiB)
  · intro same
    rw [canonical_ascii asciiA, canonical_ascii asciiB, ← titled_map_toLower, same, titled_map_toLower]

/-! ## Layers -/

/-- The name and the value in a line as they are written; a line without a colon or without a name has none. -/
def entryOf? (line : Text) : Option (Text × Text) :=
  (Text.cutAt? ':' line).bind fun p => if (Text.trim p.1).isEmpty then none else some (p.1, Text.trim p.2)

/-- An entry under the canonical form of its name. -/
def canonicalEntry (entry : Text × Text) : Text × Text := (canonical entry.1, entry.2)

/-- The value of the last entry with a name that is the same. -/
def lastNamed? (entries : List (Text × Text)) (name : Text) : Option Text :=
  (entries.reverse.find? fun entry => SameName entry.1 name).map Prod.snd

theorem ofLine?_eq (line : Text) : ofLine? line = (entryOf? line).map canonicalEntry := by
  unfold ofLine? entryOf?
  cases Text.cutAt? ':' line with
  | none => rfl
  | some p =>
      dsimp only
      rw [Option.bind_some]
      split <;> rfl

end Header

/-- The header entries of a request, layer by layer, the lowest first. -/
structure HeaderLayers where
  defaults : List (Text × Text)
  flow : List (Text × Text)
  lines : List (Text × Text)

namespace HeaderLayers

open Header

/-- The entries of all layers. -/
def all (layers : HeaderLayers) : List (Text × Text) := layers.defaults ++ layers.flow ++ layers.lines

/-- The value of a name: that of the highest layer that has it, and there the last one. -/
def value? (layers : HeaderLayers) (name : Text) : Option Text :=
  (lastNamed? layers.lines name).or ((lastNamed? layers.flow name).or (lastNamed? layers.defaults name))

variable {layers : HeaderLayers} {name : Text}

theorem get?_map_canonicalEntry {entries : List (Text × Text)} (ascii : ∀ entry ∈ entries, Text.IsAscii entry.1)
    (asciiName : Text.IsAscii name) :
    Table.get? (entries.map canonicalEntry) (canonical name) =
      (entries.find? fun entry => SameName entry.1 name).map Prod.snd := by
  induction entries with
  | nil => rfl
  | cons entry rest ih =>
      obtain ⟨here, others⟩ := List.forall_mem_cons.mp ascii
      rw [List.map_cons, List.find?_cons]
      by_cases same : SameName entry.1 name
      · rw [decide_eq_true same]
        exact if_pos ((canonical_eq_iff here asciiName).mpr same)
      · rw [decide_eq_false same]
        exact (if_neg (mt (canonical_eq_iff here asciiName).mp same)).trans (ih others)

theorem last?_map_canonicalEntry {entries : List (Text × Text)} (ascii : ∀ entry ∈ entries, Text.IsAscii entry.1)
    (asciiName : Text.IsAscii name) :
    Table.last? (entries.map canonicalEntry) (canonical name) = lastNamed? entries name := by
  rw [Table.last?, ← List.map_reverse, get?_map_canonicalEntry _ asciiName, lastNamed?]
  exact fun entry listed => ascii entry (List.mem_reverse.mp listed)

/-- The layers give names that are the same one value. -/
theorem value?_congr {other : Text} (same : SameName name other) : layers.value? name = layers.value? other := by
  have either (entry : Text × Text) : decide (SameName entry.1 name) = decide (SameName entry.1 other) :=
    decide_eq_decide.mpr ⟨fun here => here.trans same, fun here => here.trans same.symm⟩
  simp only [value?, lastNamed?, either]

/-- **What the layers leave under a name** when they are written one after the other. -/
theorem get?_ofWrites (ascii : ∀ entry ∈ layers.all, Text.IsAscii entry.1) (asciiName : Text.IsAscii name) :
    Table.get? (Table.ofWrites (layers.all.map canonicalEntry)) (canonical name) = layers.value? name := by
  simp only [all, List.mem_append] at ascii
  rw [Table.ofWrites, Table.get?_setAll, all, List.map_append, List.map_append, Table.last?_append, Table.last?_append,
    last?_map_canonicalEntry (fun e listed => ascii e (.inr listed)) asciiName,
    last?_map_canonicalEntry (fun e listed => ascii e (.inl (.inr listed))) asciiName,
    last?_map_canonicalEntry (fun e listed => ascii e (.inl (.inl listed))) asciiName, value?]
  exact Option.or_none

end HeaderLayers

namespace Preparing

open Header

variable {f : Filler} {d d' : Draws} {defaults flow : Table Text} {t : Flow.RequestTemplate}

/-- The texts with their references filled in, one after the other, and the draws that are left. -/
def fillAll (f : Filler) : List Text → Draws → List Text × Draws
  | [], d => ([], d)
  | text :: texts, d =>
    let (filled, d) := Template.fill f.builtins f.vars text d
    let (others, d) := fillAll f texts d
    (filled.text :: others, d)

/-- The entries of the settings, of the flow and of the lines of a request. -/
def headerLayers (f : Filler) (defaults flow : Table Text) (lines : List Text) (d : Draws) : HeaderLayers :=
  let (ofSettings, d) := fillAll f (defaults.map Prod.snd) d
  let (ofFlow, d) := fillAll f (flow.map Prod.snd) d
  let (ofLines, _) := fillAll f lines d
  ⟨defaults.names.zip ofSettings, flow.names.zip ofFlow, ofLines.filterMap entryOf?⟩

theorem returns_fillLoosely {text filled : Text} (returned : Returns (fillLoosely f text) d filled d') :
    filled = (Template.fill f.builtins f.vars text d).1.text ∧ d' = (Template.fill f.builtins f.vars text d).2 :=
  ⟨(Except.ok.inj (Prod.mk.inj returned).1).symm, (Prod.mk.inj returned).2.symm⟩

/-- Filling a text leaves the same draws whether or not it is refused. -/
theorem returns_fill_draws {text filled : Text} (returned : Returns (fill f text) d filled d') :
    d' = (Template.fill f.builtins f.vars text d).2 := by
  have left : (ends (fill f text) d).2 = d' := congrArg Prod.snd returned
  rw [← left]
  unfold fill
  by_cases strict : f.strict = true
  · rw [if_pos strict, ends_mk, Template.fillStrict_eq]
    by_cases closed : Template.openNames f.builtins f.vars text = []
    · rw [if_pos closed]
    · rw [if_neg closed]
  · rw [if_neg strict]
    rfl

theorem fillAll_of_returns {texts filled : List Text} (returned : Returns (texts.mapM (fill f)) d filled d') :
    fillAll f texts d = (filled, d') := by
  induction texts generalizing d filled with
  | nil =>
      obtain ⟨rfl, rfl⟩ := returns_mapM_nil.mp returned
      rfl
  | cons text texts ih =>
      obtain ⟨first, u, more, filledFirst, others, rfl⟩ := returns_mapM_cons.mp returned
      rw [fillAll]
      dsimp only
      rw [← returns_fill filledFirst, ← returns_fill_draws filledFirst, ih others]

/-- Default headers are prepared under their canonical names, whatever the filler asks for. -/
theorem fillAll_of_returns_defaults {entries filled : Table Text}
    (returned : Returns (entries.mapM (defaultHeader f)) d filled d') :
    ∃ values, fillAll f (entries.map Prod.snd) d = (values, d') ∧
      filled = (entries.names.zip values).map canonicalEntry := by
  induction entries generalizing d filled with
  | nil =>
      obtain ⟨rfl, rfl⟩ := returns_mapM_nil.mp returned
      exact ⟨[], rfl, rfl⟩
  | cons entry entries ih =>
      obtain ⟨first, u, more, filledFirst, others, rfl⟩ := returns_mapM_cons.mp returned
      obtain ⟨value, u', looked, named⟩ := returns_bind.mp filledFirst
      obtain ⟨rfl, rfl⟩ := returns_pure.mp named
      obtain ⟨rfl, rfl⟩ := returns_fillLoosely looked
      obtain ⟨values, same, rfl⟩ := ih others
      refine ⟨(Template.fill f.builtins f.vars entry.2 d).1.text :: values, ?_, rfl⟩
      rw [List.map_cons, fillAll]
      dsimp only
      rw [same]

/-- **The prepared headers** are what the layers leave when they are written one after the other. -/
theorem headers_eq {hs : Table Text} (returned : Returns (headers f defaults flow t) d hs d') :
    hs = Table.ofWrites ((headerLayers f defaults flow t.headers d).all.map canonicalEntry) := by
  obtain ⟨low, d₁, lowest, returned⟩ := returns_bind.mp returned
  obtain ⟨middle, d₂, between, returned⟩ := returns_bind.mp returned
  obtain ⟨lines, d₃, highest, returned⟩ := returns_bind.mp returned
  obtain ⟨rfl, -⟩ := returns_pure.mp returned
  obtain ⟨lowValues, lowFilled, rfl⟩ := fillAll_of_returns_defaults lowest
  obtain ⟨middleValues, middleFilled, rfl⟩ := fillAll_of_returns_defaults between
  have lineFilled := fillAll_of_returns highest
  have entries : lines.filterMap ofLine? = (lines.filterMap entryOf?).map canonicalEntry := by
    rw [List.map_filterMap]
    exact congrArg (lines.filterMap ·) (funext ofLine?_eq)
  rw [entries, headerLayers, lowFilled]
  dsimp only
  rw [middleFilled]
  dsimp only
  rw [lineFilled, HeaderLayers.all, List.map_append, List.map_append]

/-- **Headers count once for each name, however it is written.**  If all names of the layers are ASCII, no two names of a
prepared request are the same up to case and blanks around them; the names are those of the three layers in canonical
form, where a line counts only if it has a colon and a name once it is filled in; and each has the value that the highest
layer gives it, and there the last entry. -/
theorem header_layers {settings : Settings} {files : Files.Tree} {flowHeaders : Table Text} {maxDurationMs : Int}
    {r : Request} (returned : Returns (request settings files f flowHeaders maxDurationMs t) d r d') :
    ∃ url d₁, Returns (address f settings.environment.baseUrl t) d url d₁ ∧
      let layers := headerLayers f settings.headers flowHeaders t.headers d₁
      ((∀ entry ∈ layers.all, Text.IsAscii entry.1) →
        r.headers.names.Pairwise (fun a b => ¬ SameName a b) ∧
        (∀ name, name ∈ r.headers.names ↔ ∃ entry ∈ layers.all, canonical entry.1 = name) ∧
        ∀ name ∈ r.headers.names, r.headers.get? name = layers.value? name) := by
  obtain ⟨url, d₁, addressed, returned⟩ := returns_bind.mp returned
  obtain ⟨hs, d₂, layered, returned⟩ := returns_bind.mp returned
  obtain ⟨data, d₃, -, returned⟩ := returns_bind.mp returned
  obtain ⟨limit, d₄, -, returned⟩ := returns_bind.mp returned
  obtain ⟨rfl, -⟩ := returns_pure.mp returned
  refine ⟨url, d₁, addressed, fun ascii => ?_⟩
  have written := headers_eq layered
  have listed (name : Text) : name ∈ hs.names ↔
      ∃ entry ∈ (headerLayers f settings.headers flowHeaders t.headers d₁).all, canonical entry.1 = name := by
    rw [written, Table.mem_names_ofWrites, List.map_map, List.mem_map]
    rfl
  have distinct : hs.names.Nodup := by
    rw [written]
    exact Table.nodup_names_ofWrites _
  refine ⟨distinct.imp_of_mem ?_, listed, ?_⟩
  · intro a b inA inB apart same
    obtain ⟨first, inFirst, rfl⟩ := (listed a).mp inA
    obtain ⟨second, inSecond, rfl⟩ := (listed b).mp inB
    have names : SameName first.1 second.1 :=
      (sameName_canonical (ascii first inFirst)).symm.trans (same.trans (sameName_canonical (ascii second inSecond)))
    exact apart ((canonical_eq_iff (ascii first inFirst) (ascii second inSecond)).mpr names)
  · intro name inNames
    obtain ⟨entry, inLayers, rfl⟩ := (listed name).mp inNames
    rw [HeaderLayers.value?_congr (sameName_canonical (ascii entry inLayers)), written]
    exact HeaderLayers.get?_ofWrites ascii (ascii entry inLayers)

/-- A request whose lines write a name of the settings in capitals, give a name by a variable, give that name once more,
and hold two lines that do not count. -/
def order : Flow.RequestTemplate where
  method := "GET"
  url := "http://api.test/orders"
  headers := ["X-TENANT-ID: b", "{{extra}} : 1", "x-trace:2 ", "no colon", " : nothing"]

/-- The layers of the request, and what they give its names. -/
theorem header_layers_order :
    let settings : Settings := { headers := [("x-tenant-id", "a"), ("accept", "text/{{kind}}")] }
    let flow : Table Text := [("ACCEPT ", "*/*"), ("x-flow", "{{kind}}")]
    let f := filling [("kind".toList, "json".toList), ("extra".toList, "X-Trace".toList)]
    let layers : HeaderLayers :=
      { defaults := [("x-tenant-id", "a"), ("accept", "text/json")]
        flow := [("ACCEPT ", "*/*"), ("x-flow", "json")]
        lines := [("X-TENANT-ID", "b"), ("X-Trace ", "1"), ("x-trace", "2")] }
    (∀ entry ∈ layers.all, Text.IsAscii entry.1) ∧
      ["X-Tenant-Id", "Accept", "X-Flow", "X-Trace"].map (fun name => layers.value? name.toList) =
        [some "b".toList, some "*/*".toList, some "json".toList, some "2".toList] ∧
      ∃ r d, Returns (request settings {} f flow 0 order) { seed := 1 } r d ∧
        r.headers.names.Pairwise (fun a b => ¬ SameName a b) ∧
        (∀ name, name ∈ r.headers.names ↔ ∃ entry ∈ layers.all, canonical entry.1 = name) ∧
        ∀ name ∈ r.headers.names, r.headers.get? name = layers.value? name := by
  intro settings flow f layers
  have ascii : ∀ entry ∈ layers.all, Text.IsAscii entry.1 := by decide +kernel
  have same (d : Draws) : headerLayers f settings.headers flow order.headers d = layers := by rfl
  obtain ⟨r, returned⟩ := returns_of_isOk (m := request settings {} f flow 0 order) (s := ({ seed := 1 } : Draws))
    (by decide +kernel)
  refine ⟨ascii, by decide +kernel, r, _, returned, ?_⟩
  obtain ⟨url, d₁, -, layered⟩ := header_layers returned
  rw [same d₁] at layered
  exact layered ascii

end Preparing

end ApiFlow
