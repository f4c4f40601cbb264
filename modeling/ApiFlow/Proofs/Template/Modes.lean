import ApiFlow.Proofs.Template.Open
import ApiFlow.Proofs.Variable.Writes

/-!
# The three readings of a template

A template is filled loosely, where references without a value stay; strictly, where they are an error; or only searched
for the names that variables have to give.  The three go over the same references, and each decides by itself which to
pass over: those without a name, with a default, of a built-in, of a variable.  Here they are shown to agree.

* `Text.unique_eq_eraseDups` : keeping first appearances, by the library's function for it.
* `Text.unique_filter` : it does not matter whether texts are taken out before or after.
* `unique_openNames` : the open names are the required names that no variable has, in the same order.
* `modes_agree` : one statement of the agreement.
-/

set_option autoImplicit false

namespace ApiFlow

/-! ## First appearances -/

namespace Text

/-- Behind some texts that were seen, what is added is each new text once. -/
theorem foldl_unseen (texts seen : List Text) :
    texts.foldl (fun seen t => if seen.contains t then seen else seen ++ [t]) seen =
      seen ++ (texts.filter fun t => !seen.contains t).eraseDups := by
  induction texts generalizing seen with
  | nil => simp
  | cons t rest ih =>
      rw [List.foldl_cons, ih]
      cases known : seen.contains t with
      | true => rw [if_pos rfl, List.filter_cons_of_neg (by rw [known]; decide)]
      | false =>
          have fresh : (rest.filter fun u => !(seen ++ [t]).contains u) =
              (rest.filter fun u => !seen.contains u).filter fun u => !u == t := by
            rw [List.filter_filter]
            refine List.filter_congr fun u _ => ?_
            rw [Bool.eq_iff_iff]
            simp [and_comm]
          rw [if_neg Bool.false_ne_true, List.filter_cons_of_pos (by rw [known]; rfl), List.eraseDups_cons, fresh,
            List.append_assoc]
          rfl

theorem unique_eq_eraseDups (texts : List Text) : unique texts = texts.eraseDups := by
  have all : (texts.filter fun t => !([] : List Text).contains t) = texts := List.filter_eq_self.mpr fun _ _ => rfl
  rw [unique, foldl_unseen, List.nil_append, all]

theorem nodup_unique (texts : List Text) : (unique texts).Nodup := by
  rw [unique_eq_eraseDups]
  match texts with
  | [] => exact List.nodup_nil
  | t :: rest =>
      have shorter := nodup_unique (rest.filter fun u => !u == t)
      rw [unique_eq_eraseDups] at shorter
      rw [List.eraseDups_cons, List.nodup_cons]
      exact ⟨by simp [List.mem_eraseDups], shorter⟩
termination_by texts.length
decreasing_by exact Nat.lt_succ_of_le (List.length_filter_le _ _)

/-- Texts may be taken out before or after the repeated ones. -/
theorem unique_filter (keep : Text → Bool) (texts : List Text) :
    unique (texts.filter keep) = (unique texts).filter keep := by
  simp only [unique_eq_eraseDups]
  match texts with
  | [] => rfl
  | t :: rest =>
      have shorter := unique_filter keep (rest.filter fun u => !u == t)
      simp only [unique_eq_eraseDups] at shorter
      have swapped : (rest.filter fun u => !u == t).filter keep = (rest.filter keep).filter fun u => !u == t := by
        simp only [List.filter_filter, Bool.and_comm]
      rw [List.eraseDups_cons]
      by_cases kept : keep t = true
      · rw [List.filter_cons_of_pos kept, List.filter_cons_of_pos kept, List.eraseDups_cons, ← shorter, swapped]
      · -- what equals `t` is not kept either, so that it does not matter that it is gone
        have gone : (rest.filter fun u => !u == t).filter keep = rest.filter keep := by
          rw [List.filter_filter]
          refine List.filter_congr fun u _ => ?_
          by_cases same : u = t
          · simp [same, kept]
          · simp [same]
        rw [List.filter_cons_of_neg kept, List.filter_cons_of_neg kept, ← shorter, gone]
termination_by texts.length
decreasing_by exact Nat.lt_succ_of_le (List.length_filter_le _ _)

end Text

/-! ## Open, required and mentioned names -/

namespace Template

variable {builtins : Builtins} {template : Text}

/-- The open references are those that only a variable can give a value, less those to a variable. -/
theorem openNames_eq_filter (builtins : Builtins) (vars : Table Text) (template : Text) :
    openNames builtins vars template =
      (((references template).filter fun r => r.fallback.isNone && !builtins.has r.name).map (·.name)).filter
        fun name => !vars.has name := by
  rw [openNames, List.filter_map, List.filter_filter]
  refine congrArg _ (List.filter_congr fun r _ => ?_)
  simp only [Reference.isOpen, Function.comp_apply]
  cases builtins.has r.name <;> cases vars.has r.name <;> cases r.fallback <;> rfl

/-- **The open names, each once, are the required names that no variable has**, in the same order. -/
theorem unique_openNames (builtins : Builtins) (vars : Table Text) (template : Text) :
    Text.unique (openNames builtins vars template) =
      (requiredNames builtins template).filter fun name => !vars.has name := by
  rw [openNames_eq_filter, Text.unique_filter, requiredNames]

theorem openNames_ne_nil_iff {vars : Table Text} :
    openNames builtins vars template ≠ [] ↔ ∃ name ∈ requiredNames builtins template, vars.has name = false := by
  rw [ne_eq, openNames_eq_nil_iff]
  simp

theorem fillStrict_eq_error_iff {vars : Table Text} {d : Draws} {missing : List Text} :
    (fillStrict builtins vars template d).1 = .error missing ↔
      openNames builtins vars template ≠ [] ∧ Text.unique (openNames builtins vars template) = missing := by
  rw [fillStrict_eq]
  by_cases closed : openNames builtins vars template = []
  · simp [closed]
  · simp [closed]

theorem mem_names_of_required {name : Text} (required : name ∈ requiredNames builtins template) :
    name ∈ names template := by
  rw [requiredNames, Text.mem_unique, List.mem_map] at required
  obtain ⟨r, listed, rfl⟩ := required
  exact Text.mem_unique.mpr (List.mem_map_of_mem (List.mem_filter.mp listed).1)

/-- **Strict filling, loose filling and the search for required names agree** on every template, whatever the variables,
the built-ins and the draws before.  Filling strictly fails if and only if filling loosely leaves a name unresolved, and
if and only if a required name is no variable.  It names what is missing without repetition: the unresolved names by first
appearance, which are the required names that are no variables.  With nothing missing it comes to the text and the draws
of filling loosely; and what is required is mentioned. -/
theorem modes_agree (builtins : Builtins) (vars : Table Text) (template : Text) (d : Draws) :
    ((∃ missing, (fillStrict builtins vars template d).1 = .error missing) ↔
      (fill builtins vars template d).1.unresolved ≠ []) ∧
    ((fill builtins vars template d).1.unresolved ≠ [] ↔
      ∃ name ∈ requiredNames builtins template, name ∉ vars.names) ∧
    (∀ missing, (fillStrict builtins vars template d).1 = .error missing →
      missing.Nodup ∧ missing = (fill builtins vars template d).1.unresolved.eraseDups ∧
        missing = (requiredNames builtins template).filter (· ∉ vars.names)) ∧
    ((∀ name ∈ requiredNames builtins template, name ∈ vars.names) →
      fillStrict builtins vars template d =
        (.ok (fill builtins vars template d).1.text, (fill builtins vars template d).2)) ∧
    ∀ name ∈ requiredNames builtins template, name ∈ names template := by
  have unset (name : Text) : vars.has name = false ↔ name ∉ vars.names := by
    rw [Table.has, Option.isSome_eq_false_iff, Option.isNone_iff_eq_none, Table.get?_eq_none_iff]
  refine ⟨?_, ?_, ?_, ?_, fun name required => mem_names_of_required required⟩
  · rw [unresolved_fill]
    simp only [fillStrict_eq_error_iff, exists_and_left, exists_eq', and_true]
  · simp only [unresolved_fill, openNames_ne_nil_iff, unset]
  · intro missing failed
    obtain ⟨-, rfl⟩ := fillStrict_eq_error_iff.mp failed
    refine ⟨Text.nodup_unique _, ?_, ?_⟩
    · rw [unresolved_fill, Text.unique_eq_eraseDups]
    · rw [unique_openNames]
      refine List.filter_congr fun name _ => ?_
      rw [Bool.eq_iff_iff, Bool.not_eq_true', decide_eq_true_iff, unset]
  · intro given
    have closed : openNames builtins vars template = [] :=
      openNames_eq_nil_iff.mpr fun name required => by
        rw [← Bool.not_eq_false, unset]
        exact not_not_intro (given name required)
    rw [fillStrict_eq, if_pos closed]

/-- A name with and without a default, a name twice, a built-in, and a variable. -/
def mixed : Text :=
  r#"{{a | default: "x"}} {{b}} {{ a }} "#.toList
    ++ "{{$uuid}} {{c}} {{b}} {{ }}".toList

/-- Two names have neither a value nor a default everywhere; each is reported once, in the order of its first place
without a default. -/
theorem modes_agree_mixed :
    let vars : Table Text := [("c", "1")]
    let builtins : Builtins := ⟨0, [], fun _ => "id", fun _ => [], []⟩
    (fillStrict builtins vars mixed ⟨0, 0⟩).1 = .error ["b", "a"] ∧
      [("b" : Text), "a"].Nodup ∧ [("b" : Text), "a"] = (requiredNames builtins mixed).filter (· ∉ vars.names) := by
  have failed : (fillStrict ⟨0, [], fun _ => "id", fun _ => [], []⟩ [("c", "1")] mixed ⟨0, 0⟩).1 =
      .error ["b", "a"] := fillStrict_eq_error_iff.mpr (by decide +kernel)
  obtain ⟨distinct, -, filtered⟩ := (modes_agree _ _ _ _).2.2.1 _ failed
  exact ⟨failed, distinct, filtered⟩

end Template

end ApiFlow
