import ApiFlow.Assertion.Basic
import ApiFlow.Proofs.Body.Normal
import ApiFlow.Proofs.Json.RoundTrip
import ApiFlow.Proofs.Template.Written
import ApiFlow.Variable.Capture

/-!
# Three lookups of one path

A path may be looked up in a body as it is, by a capture, or by an assertion that a place is there or not.  The capture
and the assertions bring the path into the dotted form before the lookup does so itself.  They agree with the plain
lookup where the second time changes nothing, and where it does there is a body on which they disagree.

* `ofText_present`, `ofText_absent` : the line of an assertion holds the path as it is.
* `Agree` : what it means that the lookups agree.
* `Agree.of_dotted` : they do if the dotted form leads where the path does.
* `lookups_agree_iff` : they do on every body exactly if the dotted form does not begin with the sign for the whole body.
-/

set_option autoImplicit false

namespace ApiFlow

variable {body path : Text}

namespace Assertion

/-! ## Lines about places -/

theorem not_suffix_not (solid : Text.BlankFree path) : ¬ " not exists".toList <:+ path ++ " exists".toList := by
  rintro ⟨front, whole⟩
  have both : (front ++ " not".toList) ++ " exists".toList = path ++ " exists".toList := by
    rw [← whole, List.append_assoc]
    rfl
  have same : front ++ " not".toList = path := List.append_cancel_right both
  exact absurd (solid ' ' (by rw [← same]; simp)) (by decide)

theorem trim_line (some : path ≠ []) (solid : Text.BlankFree path) {ending : Text} (more : ending ≠ [])
    (ends : Text.SolidEnd ending) : Text.trim (path ++ ending) = path ++ ending :=
  Text.trim_eq_self_iff.mpr ⟨Text.solidStart_append some solid.solidStart ending, Text.solidEnd_append path more ends⟩

/-- A line that ends with `exists` is about the place in front of it. -/
theorem ofText_present (some : path ≠ []) (solid : Text.BlankFree path) :
    Form.ofText (Text.trim (path ++ " exists")) = .present path := by
  have none : Text.stripEnd? " not exists" (path ++ " exists") = none := by
    rw [Text.stripEnd?, if_neg (by simpa using not_suffix_not solid)]
  rw [trim_line some solid (by decide) (by decide), Form.ofText, none, Text.stripEnd?_append]

/-- A line that ends with `not exists` is about the place in front of it. -/
theorem ofText_absent (some : path ≠ []) (solid : Text.BlankFree path) :
    Form.ofText (Text.trim (path ++ " not exists")) = .absent path := by
  rw [trim_line some solid (by decide) (by decide), Form.ofText, Text.stripEnd?_append]

theorem pathOf_eq (solid : Text.BlankFree path) (bare : ¬ "body.".toList <+: path) :
    pathOf (Text.trim path) = Body.normalize path := by
  rw [solid.trimmed, pathOf, Text.dropStart_of_not_prefix bare]

variable {subject : Subject}

theorem checkPresence_pass_iff (solid : Text.BlankFree path) (bare : ¬ "body.".toList <+: path) :
    checkPresence subject path true = .ok .pass ↔
      ∃ value, Body.inBody subject.body (Body.normalize path) = .ok (some value) := by
  rw [checkPresence, pathOf_eq solid bare]
  cases Body.inBody subject.body (Body.normalize path) with
  | error e => simp
  | ok value? => cases value? <;> simp [verdictOf]

theorem checkPresence_fail_iff (solid : Text.BlankFree path) (bare : ¬ "body.".toList <+: path) :
    (∃ why, checkPresence subject path false = .ok (.fail why)) ↔
      ∃ value, Body.inBody subject.body (Body.normalize path) = .ok (some value) := by
  rw [checkPresence, pathOf_eq solid bare]
  cases Body.inBody subject.body (Body.normalize path) with
  | error e => simp
  | ok value? => cases value? <;> simp [verdictOf]

end Assertion

namespace Body

/-- The path leads to a value in the body. -/
def Found (body path : Text) : Prop := ∃ value, inBody body path = .ok (some value)

/-- The lookups of a path in a body agree: the path leads to a value exactly if a capture finds a text, if the assertion
passes that the place is there, and if the assertion fails that it is not; the captured text is that of the value; and the
dotted form of the path leads where the path does. -/
structure Agree (body path : Text) : Prop where
  captured : Found body path ↔ ∃ text, Capture.inBody body path = .ok (some text)
  asserted : ∀ builtins vars status durationMs d, Found body path ↔
    (Assertion.check builtins vars ⟨status, body, durationMs⟩ (path ++ " exists") d).1 = .ok .pass
  denied : ∀ builtins vars status durationMs d, Found body path ↔
    ∃ why, (Assertion.check builtins vars ⟨status, body, durationMs⟩ (path ++ " not exists") d).1 = .ok (.fail why)
  text : ∀ value, inBody body path = .ok (some value) → Capture.inBody body path = .ok (some value.asText)
  dotted : inBody body (normalize path) = inBody body path

/-! ## Lookups of the dotted form -/

/-- **The lookups agree** if the dotted form of the path leads where the path does. -/
theorem Agree.of_dotted (some : path ≠ []) (solid : Text.BlankFree path) (bare : ¬ "body.".toList <+: path)
    (dotted : inBody body (normalize path) = inBody body path) : Agree body path where
  captured := by
    rw [Capture.inBody, Text.dropStart_of_not_prefix bare, dotted, Found]
    cases inBody body path with
    | error e => simp
    | ok value? => cases value? <;> simp
  asserted := by
    intro builtins vars status durationMs d
    rw [Assertion.check, Assertion.ofText_present some solid, Assertion.Form.check,
      Assertion.checkPresence_pass_iff solid bare, dotted, Found]
  denied := by
    intro builtins vars status durationMs d
    rw [Assertion.check, Assertion.ofText_absent some solid, Assertion.Form.check,
      Assertion.checkPresence_fail_iff solid bare, dotted, Found]
  text := by
    intro value found
    simp only [Capture.inBody, Text.dropStart_of_not_prefix bare, dotted, found, Option.map_some]
  dotted := dotted

/-! ## A body on which they disagree -/

/-- The keys of nested objects lead to what is nested in them. -/
theorem follow_nested (keys more : List Text) :
    follow keys (Json.nested (keys ++ more)) = .ok (some (Json.nested more)) := by
  induction keys with
  | nil => rfl
  | cons key keys ih => simpa [follow, step, Json.nested, Table.get?] using ih

/-- Parts that are not the first of the keys lead nowhere. -/
theorem follow_nested_apart {keys parts : List Text} (apart : ¬ parts <+: keys) :
    follow parts (Json.nested keys) = .ok none := by
  induction keys generalizing parts with
  | nil =>
      cases parts with
      | nil => exact absurd List.nil_prefix apart
      | cons part parts => rfl
  | cons key keys ih =>
      cases parts with
      | nil => exact absurd List.nil_prefix apart
      | cons part parts =>
          by_cases same : key = part
          · have further : ¬ parts <+: keys := fun begins => apart (List.cons_prefix_cons.mpr ⟨same.symm, begins⟩)
            simpa [follow, step, Json.nested, Table.get?, same] using ih further
          · simp [follow, step, Json.nested, Table.get?, same]

theorem inBody_nested (keys : List Text) (path : Text) :
    inBody (Json.compact (Json.nested keys)) path = find (Json.nested keys) path := by
  rw [inBody, Json.decode?_nested]

/-- **If the dotted form begins with the sign for the whole body, there is a body on which it leads elsewhere**: objects
under the keys behind the sign, which the dotted form of the dotted form follows to the end and the path, with the sign as
one key more, does not. -/
theorem exists_lookup_ne (solid : Text.BlankFree path) (rooted : Rooted (normalize path)) :
    ∃ body, ¬ Found body path ∧ Found body (normalize path) := by
  have normal := normal_normalize solid
  obtain ⟨keys, once, twice⟩ : ∃ keys : List Text, keys.length < (split (normalize path)).length ∧
      (find (Json.nested keys) (normalize path) = .ok (some .null)) := by
    rcases rooted with alone | ⟨rest, begins⟩
    · exact ⟨[], by rw [alone]; decide, by rw [alone]; rfl⟩
    · have whole : normalize path = '$' :: '.' :: rest := begins.symm
      rw [whole] at normal ⊢
      have parts : split ('$' :: '.' :: rest) = ['$'] :: split rest := by
        rw [split_cons (by decide) (by decide)]
        rfl
      by_cases none : rest = []
      · subst none
        exact ⟨[], by decide, rfl⟩
      · refine ⟨split rest, by rw [parts]; exact Nat.lt_succ_self _, ?_⟩
        have led := follow_nested (split rest) []
        rw [List.append_nil] at led
        rw [find, normal.normalize_root, if_neg (by simpa using none), led]
        rfl
  have some : normalize path ≠ [] := by
    intro none
    rw [none] at rooted
    exact absurd rooted (by decide)
  refine ⟨Json.compact (Json.nested keys), ?_, .null, by rw [inBody_nested, twice]⟩
  rintro ⟨value, found⟩
  have apart : ¬ split (normalize path) <+: keys := fun begins => Nat.not_le.mpr once begins.length_le
  rw [inBody_nested, find, if_neg (by simpa using some), follow_nested_apart apart] at found
  cases found

/-- **The lookups of a path agree on every body** exactly if its dotted form does not begin with the sign for the whole
body once more, for every path without blanks that is not empty and does not begin with `body.`. -/
theorem lookups_agree_iff (some : path ≠ []) (solid : Text.BlankFree path) (bare : ¬ "body.".toList <+: path) :
    (∀ body, Agree body path) ↔ ¬ Rooted (normalize path) := by
  constructor
  · intro agree rooted
    obtain ⟨body, absent, found⟩ := exists_lookup_ne solid rooted
    rw [Found, (agree body).dotted] at found
    exact absent found
  · intro rootless body
    refine Agree.of_dotted some solid bare ?_
    have same := (normalize_normalize_iff solid).mpr rootless
    simp only [inBody, find, same]

/-- A path with the sign in front, an index in brackets, a run of dots and an escaped dot, and a body for it. -/
theorem lookups_agree_iff_items :
    let path : Text := "$.items[1]..a\\.b"
    let body : Text := r#"{"items":{"1":{"a.b":null}}}"#
    (path ≠ [] ∧ Text.BlankFree path ∧ ¬ "body.".toList <+: path) ∧ Agree body path ∧ Found body path := by
  intro path body
  have plain : path ≠ [] ∧ Text.BlankFree path ∧ ¬ "body.".toList <+: path := by decide
  have written : body = Json.compact (Json.nested ["items", "1", "a.b"]) := by decide
  have found : find (Json.nested ["items", "1", "a.b"]) "$.items[1]..a\\.b" = .ok (some .null) := by rfl
  refine ⟨plain, (lookups_agree_iff plain.1 plain.2.1 plain.2.2).mpr (by decide) body, .null, ?_⟩
  rw [written, inBody_nested]
  exact found

/-- The sign under a key of its own: the path leads to a value, and the capture finds nothing. -/
theorem root_dropped_twice :
    let path : Text := "$.$.a"
    let body : Text := r#"{"$":{"a":null}}"#
    (path ≠ [] ∧ Text.BlankFree path ∧ ¬ "body.".toList <+: path) ∧
      Found body path ∧ ¬ ∃ text, Capture.inBody body path = .ok (some text) := by
  intro path body
  have written : body = Json.compact (Json.nested ["$", "a"]) := by decide
  have once : find (Json.nested ["$", "a"]) "$.$.a" = .ok (some .null) := by rfl
  have twice : find (Json.nested ["$", "a"]) (normalize "$.$.a") = .ok none := by rfl
  rw [Found, Capture.inBody, Text.dropStart_of_not_prefix (by decide), written, inBody_nested, inBody_nested]
  refine ⟨by decide, ⟨.null, once⟩, ?_⟩
  rintro ⟨text, found⟩
  rw [show find _ (normalize path) = _ from twice] at found
  cases found

end Body

end ApiFlow
