import ApiFlow.Scenario.Line
import ApiFlow.Proofs.CommandLine.LongOptions
import ApiFlow.Proofs.Number.Digits
import ApiFlow.Proofs.Text.Fields

/-!
# Scenario lines that are written and read back

A line of a scenario is its method, its address and its options, each in double quotes.  With long options it is read back
as it was written, in every order of the options that leaves those of one kind in theirs: no value is taken for an option
or for the end of an argument, whatever it looks like.

* `Fields` : what a line says, and `Fields.options` its options.
* `Arranges` : the orders of options.
* `gives_of_mem_options` : every option is read by itself.
* `Line.read_render` : reading what was written.
-/

set_option autoImplicit false

namespace ApiFlow.Scenario

open ApiFlow.Flow ApiFlow.Options

/-- What a line says. -/
structure Fields where
  method : Text
  url : Text
  data : Text := []
  headers : List Text := []
  queries : List Text := []
  captures : List Text := []
  asserts : List Text := []
  record : Bool := true
  maxDurationMs : Int := 0
  retry : Int := 0
  retryWaitMs : Int := defaultRetryWaitMs
  deriving DecidableEq, Repr

namespace Fields

/-- The texts of a line. -/
def texts (f : Fields) : List Text := f.method :: f.url :: f.data :: (f.headers ++ f.queries ++ f.captures ++ f.asserts)

/-- The texts by option. -/
def lists (f : Fields) : List (Text × List Text) :=
  [("data", [f.data]), ("header", f.headers), ("query", f.queries), ("capture", f.captures), ("assert", f.asserts)]

/-- The integers by option. -/
def integers (f : Fields) : List (Text × Int) :=
  [("max-time", f.maxDurationMs), ("retry", f.retry), ("retry-delay", f.retryWaitMs)]

/-- One option for each text. -/
def textOptions (f : Fields) : List (Text × Value) := f.lists.flatMap fun l => l.2.map fun s => (l.1, .text s)

/-- A flag if the request is not recorded. -/
def flagOptions (f : Fields) : List (Text × Value) := if f.record then [] else [("no-record", .flag)]

/-- One option for each integer. -/
def integerOptions (f : Fields) : List (Text × Value) := f.integers.map fun i => (i.1, .integer i.2)

/-- The options of a line with their values. -/
def options (f : Fields) : List (Text × Value) := f.textOptions ++ f.flagOptions ++ f.integerOptions

theorem eq_of_mem_flagOptions {f : Fields} {o : Text × Value} (listed : o ∈ f.flagOptions) :
    o = ("no-record".toList, .flag) := by
  unfold flagOptions at listed
  split at listed
  · cases listed
  · exact List.mem_singleton.mp listed

/-- A line that can be written: its method is in upper case, none of its texts is the separator of arguments, and its
integers are not too long. -/
structure Writable (f : Fields) : Prop where
  upper : Text.upper f.method = f.method
  apart : ∀ s ∈ f.texts, s ≠ "--".toList
  short : ∀ i ∈ f.integers, (Text.ofNat i.2.natAbs).length ≤ Integer.digitLimit

/-- The line with a number and a text. -/
def line (f : Fields) (number : Nat) (raw : Text) : Line where
  step := {
    name := "Line " ++ Text.ofNat number
    retry := f.retry
    retryWaitMs := f.retryWaitMs
    maxDurationMs := f.maxDurationMs
    line := number
    raw := raw
    action := .send {
      method := f.method
      url := f.url
      headers := f.headers
      queries := f.queries
      body := f.data
      captures := f.captures
      asserts := f.asserts } }
  record := f.record

/-- Writes a line with its options in some order. -/
def render (f : Fields) (order : List (Text × Value)) : Text :=
  Text.join [' '] ((f.method :: f.url :: order.map longForm).map Text.wrap)

end Fields

/-- The options are the given ones in another order, with those of one key in the same order. -/
def Arranges (order options : List (Text × Value)) : Prop :=
  ∀ key, order.filter (fun o => o.1 = key) = options.filter fun o => o.1 = key

/-- Only the keys that are there count. -/
theorem arranges_iff {order options : List (Text × Value)} :
    Arranges order options ↔ ∀ key ∈ (order ++ options).map Prod.fst,
      order.filter (fun o => o.1 = key) = options.filter fun o => o.1 = key := by
  refine ⟨fun arranged key _ => arranged key, fun arranged key => ?_⟩
  by_cases here : key ∈ (order ++ options).map Prod.fst
  · exact arranged key here
  · have none {l : List (Text × Value)} (within : l ⊆ order ++ options) : l.filter (fun o => o.1 = key) = [] := by
      refine List.filter_eq_nil_iff.mpr fun o listed same => here ?_
      rw [← show o.1 = key by simpa using same]
      exact List.mem_map_of_mem (within listed)
    rw [none (List.subset_append_left _ _), none (List.subset_append_right _ _)]

instance (order options : List (Text × Value)) : Decidable (Arranges order options) :=
  decidable_of_iff _ arranges_iff.symm

theorem Arranges.mem {order options : List (Text × Value)} (arranged : Arranges order options) {o : Text × Value}
    (listed : o ∈ order) : o ∈ options := by
  have here : o ∈ order.filter fun p => p.1 = o.1 := List.mem_filter.mpr ⟨listed, decide_eq_true rfl⟩
  rw [arranged o.1] at here
  exact (List.mem_filter.mp here).1

/-! ## One option -/

/-- Every option has its key as a name. -/
theorem find?_key {s : Switch} (listed : s ∈ grammar.switches) :
    find? grammar.switches ("--" ++ s.key) = some s ∧ s.key ≠ [] := by
  revert s
  simp only [grammar, List.forall_mem_cons]
  decide

theorem plain_names : ∀ s ∈ grammar.switches, ∀ name ∈ s.names, '=' ∉ name := by decide

/-- The keys of the options of each kind. -/
theorem exists_switch : (∀ key ∈ (["data", "header", "query", "capture", "assert"] : List Text),
      ∃ s ∈ grammar.switches, s.key = key ∧ s.kind = .text) ∧
    (∀ key ∈ (["max-time", "retry", "retry-delay"] : List Text), ∃ s ∈ grammar.switches, s.key = key ∧ s.kind = .integer) ∧
      ∃ s ∈ grammar.switches, s.key = "no-record".toList ∧ s.kind = .flag := by
  decide

section

variable {key : Text}

theorem gives_option {s : Switch} (listed : s ∈ grammar.switches) {v : Value} (carries : s.Carries v) :
    Gives grammar (longForm (s.key, v)) (s.key, v) :=
  gives_longForm (find?_key listed).1 (find?_key listed).2 plain_names carries

theorem gives_text (listed : key ∈ (["data", "header", "query", "capture", "assert"] : List Text)) (t : Text) :
    Gives grammar (longForm (key, .text t)) (key, .text t) := by
  obtain ⟨s, switch, rfl, kind⟩ := exists_switch.1 key listed
  exact gives_option switch (.value rfl (by simp [Switch.isFlag, kind]) (by simp [readValue, kind]))

theorem gives_integer (listed : key ∈ (["max-time", "retry", "retry-delay"] : List Text)) {i : Int}
    (short : (Text.ofNat i.natAbs).length ≤ Integer.digitLimit) :
    Gives grammar (longForm (key, .integer i)) (key, .integer i) := by
  obtain ⟨s, switch, rfl, kind⟩ := exists_switch.2.1 key listed
  exact gives_option switch
    (.value rfl (by simp [Switch.isFlag, kind]) (by simp [readValue, kind, Integer.read_ofInt short]))

/-- **Every option of a line is read by itself.** -/
theorem gives_of_mem_options {f : Fields} (good : f.Writable) {o : Text × Value} (listed : o ∈ f.options) :
    Gives grammar (longForm o) o := by
  rcases List.mem_append.mp listed with front | integer
  · rcases List.mem_append.mp front with text | flag
    · obtain ⟨l, inLists, text⟩ := List.mem_flatMap.mp text
      obtain ⟨t, -, rfl⟩ := List.mem_map.mp text
      exact gives_text (List.mem_map_of_mem (f := Prod.fst) inLists) t
    · obtain ⟨s, switch, key, kind⟩ := exists_switch.2.2
      rw [Fields.eq_of_mem_flagOptions flag, ← key]
      exact gives_option switch (.flag kind)
  · obtain ⟨i, inIntegers, rfl⟩ := List.mem_map.mp integer
    exact gives_integer (List.mem_map_of_mem (f := Prod.fst) inIntegers) (good.short i inIntegers)

end

/-! ## All options -/

/-- The text that is a value. -/
def asText? : Value → Option Text
  | .text s => some s
  | _ => none

/-- The integer that is a value. -/
def asInteger? : Value → Option Int
  | .integer i => some i
  | _ => none

theorem texts_eq (p : Parsed) (key : Text) :
    p.texts key = (p.values.filter fun v => v.1 = key).filterMap fun v => asText? v.2 := by
  rw [Parsed.texts, List.filterMap_filter]
  congr 1
  funext v
  cases v.2 <;> simp [asText?]

theorem integer?_eq (p : Parsed) (key : Text) :
    p.integer? key = ((p.values.filter fun v => v.1 = key).filterMap fun v => asInteger? v.2).getLast? := by
  rw [Parsed.integer?, List.filterMap_filter]
  congr 2
  funext v
  cases v.2 <;> simp [asInteger?]

theorem hasFlag_eq (p : Parsed) (key : Text) : p.hasFlag key = (p.values.filter fun v => v.1 = key).any fun _ => true := by
  rw [Parsed.hasFlag, List.any_filter]
  simp

/-- **The order of options of different kinds does not count.** -/
theorem ofOptions_congr {order options : List (Text × Value)} (arranged : Arranges order options)
    (raw method url : Text) (number : Nat) :
    Line.ofOptions raw method url number { values := order } = Line.ofOptions raw method url number { values := options } := by
  have texts (key : Text) : Parsed.texts { values := order } key = Parsed.texts { values := options } key := by
    rw [texts_eq, texts_eq, arranged key]
  have integers (key : Text) : Parsed.integer? { values := order } key = Parsed.integer? { values := options } key := by
    rw [integer?_eq, integer?_eq, arranged key]
  have flags (key : Text) : Parsed.hasFlag { values := order } key = Parsed.hasFlag { values := options } key := by
    rw [hasFlag_eq, hasFlag_eq, arranged key]
  simp only [Line.ofOptions, Parsed.text?, texts, integers, flags]

/-- The texts of the options of a line. -/
theorem texts_options (f : Fields) (key : Text) :
    Parsed.texts { values := f.options } key = f.lists.flatMap fun l => if l.1 = key then l.2 else [] := by
  have texts (lists : List (Text × List Text)) :
      ((lists.flatMap fun l => l.2.map fun s => (l.1, Value.text s)).filter fun v => v.1 = key).filterMap
        (fun v => asText? v.2) = lists.flatMap fun l => if l.1 = key then l.2 else [] := by
    induction lists with
    | nil => rfl
    | cons l lists ih =>
        rw [List.flatMap_cons, List.flatMap_cons, List.filter_append, List.filterMap_append, ih, List.filter_map]
        by_cases same : l.1 = key <;> simp [same, Function.comp_def, asText?]
  have back : ((f.flagOptions ++ f.integerOptions).filter fun v => v.1 = key).filterMap (fun v => asText? v.2) = [] := by
    refine List.filterMap_eq_nil_iff.mpr fun o listed => ?_
    rcases List.mem_append.mp (List.mem_filter.mp listed).1 with flag | integer
    · rw [Fields.eq_of_mem_flagOptions flag]
      rfl
    · obtain ⟨i, -, rfl⟩ := List.mem_map.mp integer
      rfl
  rw [texts_eq, Fields.options, List.append_assoc, List.filter_append, List.filterMap_append, back, List.append_nil,
    Fields.textOptions, texts]

/-- The integers of the options of a line. -/
theorem integer?_options (f : Fields) (key : Text) :
    Parsed.integer? { values := f.options } key = ((f.integers.filter fun i => i.1 = key).map Prod.snd).getLast? := by
  have front : ((f.textOptions ++ f.flagOptions).filter fun v => v.1 = key).filterMap (fun v => asInteger? v.2) = [] := by
    refine List.filterMap_eq_nil_iff.mpr fun o listed => ?_
    rcases List.mem_append.mp (List.mem_filter.mp listed).1 with text | flag
    · obtain ⟨l, -, text⟩ := List.mem_flatMap.mp text
      obtain ⟨t, -, rfl⟩ := List.mem_map.mp text
      rfl
    · rw [Fields.eq_of_mem_flagOptions flag]
      rfl
  rw [integer?_eq, Fields.options, List.filter_append, List.filterMap_append, front, List.nil_append,
    Fields.integerOptions, List.filter_map, List.filterMap_map]
  exact congrArg List.getLast? (congrFun List.filterMap_eq_map _)

/-- The flag is among the options exactly if the request is not recorded. -/
theorem hasFlag_options (f : Fields) : Parsed.hasFlag { values := f.options } "no-record" = !f.record := by
  have texts : Parsed.hasFlag { values := f.textOptions } "no-record" = false := by
    simp [Parsed.hasFlag, Fields.textOptions, Fields.lists]
  have integers : Parsed.hasFlag { values := f.integerOptions } "no-record" = false := rfl
  have flag : Parsed.hasFlag { values := f.flagOptions } "no-record" = !f.record := by
    cases record : f.record <;> simp [Parsed.hasFlag, Fields.flagOptions, record]
  unfold Parsed.hasFlag at texts integers flag ⊢
  rw [Fields.options, List.any_append, List.any_append, texts, flag, integers, Bool.false_or, Bool.or_false]

/-- The options of a line make up the line. -/
theorem ofOptions_options (f : Fields) (upper : Text.upper f.method = f.method) (raw : Text) (number : Nat) :
    Line.ofOptions raw f.method f.url number { values := f.options } = f.line number raw := by
  have texts : Parsed.texts { values := f.options } "header" = f.headers ∧
      Parsed.texts { values := f.options } "query" = f.queries ∧
      Parsed.texts { values := f.options } "capture" = f.captures ∧
      Parsed.texts { values := f.options } "assert" = f.asserts ∧
      Parsed.texts { values := f.options } "data" = [f.data] := by
    simp [texts_options, Fields.lists]
  have integers : Parsed.integer? { values := f.options } "max-time" = some f.maxDurationMs ∧
      Parsed.integer? { values := f.options } "retry" = some f.retry ∧
      Parsed.integer? { values := f.options } "retry-delay" = some f.retryWaitMs := by
    simp [integer?_options, Fields.integers]
  obtain ⟨header, query, capture, assert, data⟩ := texts
  obtain ⟨maxTime, retry, retryDelay⟩ := integers
  rw [Line.ofOptions, hasFlag_options, upper, header, query, capture, assert, Parsed.text?, data, maxTime, retry,
    retryDelay, Bool.not_not]
  rfl

/-- **A line is read as it was written**, in every order of its options that leaves those of one kind in place. -/
theorem Line.read_render {f : Fields} (good : f.Writable) {order : List (Text × Value)}
    (arranged : Arranges order f.options) (number : Nat) :
    Line.read (f.render order) number = .ok (f.line number (f.render order)) := by
  have gives : List.Forall₂ (Gives grammar) (order.map longForm) order := by
    rw [List.forall₂_map_left_iff, List.forall₂_same]
    exact fun o listed => gives_of_mem_options good (arranged.mem listed)
  have parsed : grammar.parse (order.map longForm) = .ok { values := order } := Grammar.parse_of_gives gives rfl
  have split : Text.arguments (f.render order) = f.method :: f.url :: order.map longForm := Text.arguments_wrap _
  rw [Line.read, split]
  dsimp only
  rw [parsed]
  dsimp only
  rw [List.isEmpty_nil, if_pos rfl, ofOptions_congr arranged, ofOptions_options f good.upper]

/-- A line with values that look like options, and with quotes and blanks in all of its texts. -/
def upload : Fields where
  method := "\"PUT\" IT"
  url := "/it's here?q=--"
  data := r#"{"a b": '-H=x'}"#
  headers := ["--retry=7", ""]
  queries := ["a=b=c", "-q"]
  captures := ["id = data.id"]
  asserts := ["status == 201", "--assert", "\t# \"no\"\ncomment"]
  record := false
  maxDurationMs := -5
  retryWaitMs := 12345678901234567890

/-- The integers stand backwards and in front, the two headers apart, and the flag between the assertions. -/
theorem Line.read_render_upload :
    ∃ order, upload.Writable ∧ Arranges order upload.options ∧
      Line.read (upload.render order) 3 = .ok (upload.line 3 (upload.render order)) := by
  have good : upload.Writable := ⟨by decide +kernel, by decide +kernel, by decide +kernel⟩
  let order : List (Text × Value) := [
    ("retry-delay", .integer 12345678901234567890), ("retry", .integer 0), ("max-time", .integer (-5)),
    ("header", .text "--retry=7"), ("assert", .text "status == 201"), ("no-record", .flag),
    ("query", .text "a=b=c"), ("assert", .text "--assert"), ("header", .text []), ("capture", .text "id = data.id"),
    ("data", .text r#"{"a b": '-H=x'}"#), ("query", .text "-q"), ("assert", .text "\t# \"no\"\ncomment")]
  have arranged : Arranges order upload.options := by decide +kernel
  exact ⟨order, good, arranged, Line.read_render good arranged 3⟩

end ApiFlow.Scenario
