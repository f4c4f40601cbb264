import ApiFlow.CommandLine.Options
import ApiFlow.Number.Shortest
import ApiFlow.Proofs.Text.Fields
import Mathlib.Data.List.Forall2

/-!
# Options in their long form

A long option with its value behind `=` is taken for what it is, whatever the value looks like, and so is a flag.  A line
of such arguments is read without anything else, and gives the values in the order in which they stand.

* `longForm` : an option with a value as one argument.
* `Gives` : an argument that gives one value and takes nothing from its neighbours.
* `Grammar.parse_of_gives` : a line of such arguments.
* `gives_longForm` : the long form of an option is such an argument.
-/

set_option autoImplicit false

namespace ApiFlow.Options

variable {g : Grammar} {s : Switch} {key : Text}

/-- The text of a value behind an option; a flag has none. -/
def Value.text? : Value → Option Text
  | .flag => none
  | .text s => some s
  | .integer i => some (Text.ofInt i)
  | .number x => some x.text

/-- The option with a key and a value as one argument. -/
def longForm (entry : Text × Value) : Text :=
  "--" ++ entry.1 ++ (entry.2.text?.elim [] ('=' :: ·))

/-- An argument gives one value, and takes nothing from the arguments around it. -/
structure Gives (g : Grammar) (arg : Text) (entry : Text × Value) : Prop where
  apart : arg ≠ "--".toList
  option : ∃ n, classify g.switches arg = .ok (.option n) ∧
    ∀ p : Parsed, g.applyOption n none p = .ok ({ p with values := p.values ++ [entry] }, false)

/-- **Arguments that give one value each** are read in their order. -/
theorem Grammar.parse_of_gives {args : List Text} {entries : List (Text × Value)} (each : List.Forall₂ (Gives g) args entries)
    (free : g.positional = none) : g.parse args = .ok { values := entries } := by
  have items : ∃ options : List Named, classifyAll g.switches args = .ok (options.map .option) ∧
      ∀ p : Parsed, g.run (options.map .option) p = .ok { p with values := p.values ++ entries } := by
    induction each with
    | nil => exact ⟨[], rfl, fun p => by simp [Grammar.run]⟩
    | @cons arg entry args entries gives _ ih =>
        obtain ⟨options, classified, run⟩ := ih
        obtain ⟨n, item, applied⟩ := gives.option
        refine ⟨n :: options, ?_, fun p => ?_⟩
        · rw [classifyAll, if_neg gives.apart, item, classified]
          rfl
        · have next : g.run (.option n :: options.map .option) p =
              g.run (options.map .option) { p with values := p.values ++ [entry] } := by
            -- The item behind the option is no argument that could be its value.
            cases options with
            | nil => simp only [List.map_nil, Grammar.run, applied, bind, Except.bind]
            | cons m more => simp only [List.map_cons, Grammar.run, applied, bind, Except.bind]
          rw [List.map_cons, next, run, List.append_assoc, List.singleton_append]
  obtain ⟨options, classified, run⟩ := items
  have checked (p : Parsed) : g.check p = .ok p := by rw [Grammar.check, free]
  rw [Grammar.parse, classified]
  dsimp only
  rw [run {}]
  simp only [bind, Except.bind, checked, List.nil_append]

/-- An option takes a value: a flag stands alone, and any other option has a text that it reads as the value. -/
inductive Switch.Carries (s : Switch) : Value → Prop
  | flag (kind : s.kind = .flag) : Carries s .flag
  | value {v : Value} {t : Text} (text : v.text? = some t) (takes : s.isFlag = false) (read : readValue s t = .ok v) :
      Carries s v

theorem giveAll_single (p : Parsed) (given : Switch × Option Text) : p.giveAll [given] = p.give given.1 given.2 := by
  rw [Parsed.giveAll, List.foldlM_cons]
  exact bind_pure _

/-- A value that an option reads is given to it. -/
theorem give_value {v : Value} {t : Text} (takes : s.isFlag = false) (read : readValue s t = .ok v) (p : Parsed) :
    p.give s (some t) = .ok { p with values := p.values ++ [(s.key, v)] } := by
  unfold Parsed.give
  split
  · rename_i help
    simp [Switch.isFlag, help] at takes
  · rename_i none _
    cases none
  · rename_i same _
    cases same
    rw [read]

theorem mem_names_of_find? {switches : List Switch} {name : Text} (found : find? switches name = some s) :
    s ∈ switches ∧ name ∈ s.names := by
  refine ⟨List.mem_of_find?_eq_some found, ?_⟩
  simpa using List.find?_some found

/-- **The long form of an option gives its value**, if no name of an option holds the mark in front of values. -/
theorem gives_longForm (found : find? g.switches ("--" ++ s.key) = some s) (named : s.key ≠ [])
    (plain : ∀ s ∈ g.switches, ∀ name ∈ s.names, '=' ∉ name) {v : Value} (carries : s.Carries v) :
    Gives g (longForm (s.key, v)) (s.key, v) := by
  cases carries with
  | flag kind =>
      have form : longForm (s.key, .flag) = "--" ++ s.key := List.append_nil _
      have single : s.isFlag = true := by simp [Switch.isFlag, kind]
      rw [form]
      refine ⟨by simpa using named, ⟨"--" ++ s.key, some s, none⟩, ?_, fun p => ?_⟩
      · rw [classify, if_neg (by simp), found]
      · have given : p.giveAll [(s, none)] = .ok { p with values := p.values ++ [(s.key, .flag)] } := by
          simp [giveAll_single, Parsed.give, kind]
        simp only [Grammar.applyOption, List.getLast?_singleton, single, if_true, given]
        rfl
  | @value v t text takes read =>
      have form : longForm (s.key, v) = ("--" ++ s.key) ++ '=' :: t := by rw [longForm, text]; rfl
      have free : '=' ∉ "--".toList ++ s.key :=
        plain s (mem_names_of_find? found).1 _ (mem_names_of_find? found).2
      -- The whole argument is no name, since it holds the mark.
      have unknown : find? g.switches (("--" ++ s.key) ++ '=' :: t) = none := by
        refine List.find?_eq_none.mpr fun other listed contained => ?_
        exact plain other listed _ (by simpa using contained) (by simp)
      rw [form]
      refine ⟨fun same => ?_, ⟨("--" ++ s.key) ++ '=' :: t, some s, some t⟩, ?_, fun p => ?_⟩
      · simpa using congrArg List.length same
      · rw [classify, if_neg (by simp), unknown]
        dsimp only
        rw [if_neg (by simp), Text.cutAt?_append free]
        simp only [Option.bind_eq_bind, Option.bind_some, found]
      · have given : p.giveAll [(s, some t)] = .ok { p with values := p.values ++ [(s.key, v)] } := by
          rw [giveAll_single, give_value takes read]
        have attached (n : Named) : attachedOptions g.switches n s t = .ok [(s, some t)] := by
          unfold attachedOptions
          rw [if_pos (by simp [takes])]
        simp only [Grammar.applyOption, attached, List.getLast?_singleton, given]
        rfl

end ApiFlow.Options
