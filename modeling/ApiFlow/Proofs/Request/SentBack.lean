import ApiFlow.Proofs.Json.Decoded
import ApiFlow.Proofs.Request.PlainBody
import ApiFlow.Proofs.Template.Rendering
import ApiFlow.Proofs.Text.Utf8
import ApiFlow.Proofs.Variable.Writes

/-!
# Captured values that are sent back

A capture writes the text of a value into a variable, and a request whose body is one reference to that variable sends the
bytes of the text.  Whoever reads the bytes has the value again that the capture found, if it is an array or an object
without doubles.

* `isContainer` : arrays and objects.
* `fill_mention` : a template that is one reference to a variable stands for the value of the variable.
* `returns_body_of_mention` : a body that is one reference to a text goes out as the bytes of the text.
* `container_sent_back` : arrays and objects without doubles come back as they were found.
-/

set_option autoImplicit false

namespace ApiFlow

namespace Json

/-- The value is an array or an object. -/
def isContainer : Json → Bool
  | arr _ => true
  | obj _ => true
  | _ => false

variable {v : Json}

theorem asText_container (container : v.isContainer = true) : v.asText = v.compact := by
  cases v with
  | arr items => rfl
  | obj members => rfl
  | null | bool | int | real | str => cases container

/-- The text of an array or an object is no at sign and what follows it. -/
theorem head?_asText_container (container : v.isContainer = true) : v.asText.head? ≠ some '@' := by
  cases v with
  | arr items => nofun
  | obj members => nofun
  | null | bool | int | real | str => cases container

/-- **What a body has at a path can be written and read back**, if it is an array or an object without doubles. -/
theorem exact_of_inBody {body path : Text} (container : v.isContainer = true) (found : Body.inBody body path = .ok (some v))
    (free : RealFree v) : Exact v := by
  obtain sound | ⟨n, rfl⟩ := Body.inBody_sound found
  · exact sound.exact free
  · cases container

end Json

namespace Template

variable {builtins : Builtins} {vars : Table Text} {value : Text}

/-- **A template that is one reference to a variable** stands for the value of the variable. -/
theorem fill_mention (m : Mention) (plain : builtins.has m.name = false) (known : vars.get? m.name = some value)
    (d : Draws) : fill builtins vars m.text d = (⟨value, []⟩, d) := by
  have piece : pieces m.text = [.reference m.toReference] := by
    have whole := pieces_spelled m.spelled []
    rwa [List.append_nil] at whole
  have named : m.toReference.name.isEmpty = false := by simpa [Mention.toReference] using m.named
  have stands : m.toReference.value builtins vars d = (some value, d) := by
    simp [Reference.value, Mention.toReference, plain, known]
  rw [fill, piece, fillPieces, named, stands]
  simp [fillPieces, Filled.after]

end Template

namespace Preparing

open ApiFlow.Flow Template

variable {f : Filler} {t : RequestTemplate} {m : Mention} {value : Text}

/-- **A body that is one reference to a text goes out as the bytes of the text**, unless the text names a file. -/
theorem returns_body_of_mention (written : t.body = m.text) (plain : f.builtins.has m.name = false)
    (known : f.vars.get? m.name = some value) (text : value.head? ≠ some '@') (files : Files.Tree) (d : Draws) :
    Returns (body f files t) d (Utf8.encode value) d := by
  have filled : Template.fill f.builtins f.vars t.body d = (⟨value, []⟩, d) := by
    rw [written, fill_mention m plain known]
  have returned : Returns (fill f t.body) d value d := by
    unfold fill
    split
    · rw [Returns, ends_mk, fillStrict, filled]
      rfl
    · rw [Returns, fillLoosely, ends_mk, filled]
  have some : t.body.isEmpty = false := by rw [written]; rfl
  have same : bodyText f t d = value := by rw [bodyText, filled]
  rw [Returns, ends_body_of_text (by rwa [same]), some]
  exact returns_map.mpr ⟨value, returned, rfl⟩

end Preparing

open Json Template

/-- **Arrays and objects without doubles survive a round trip.**  Their text is read back as they are, with their members
in the same order.  Where a path leads to such a value in a body, the capture finds its text and leaves it in its variable,
and a request whose body is one reference to the text sends bytes that are read as the value again. -/
theorem container_sent_back {v : Json} (container : v.isContainer = true) :
    (Exact v → decode? v.asText = some v) ∧
    ∀ body query, Body.inBody body (Body.normalize (Text.dropStart "body." query)) = .ok (some v) → RealFree v →
      Capture.inBody body query = .ok (some v.asText) ∧
      (∀ entry name step context, Capture.parse? entry = some (name, query) → name ≠ [] →
        Table.get? (Capture.harvest (.body body) step context [entry]).context.values name = some v.asText) ∧
      ∀ (f : Preparing.Filler) (files : Files.Tree) (t : Flow.RequestTemplate) (m : Mention) (d : Draws),
        t.body = m.text → f.builtins.has m.name = false → f.vars.get? m.name = some v.asText →
        ∃ sent, Returns (Preparing.body f files t) d sent d ∧
          ∃ text, Utf8.decode sent = .ok text ∧ decode? text = some v := by
  have back (exact : Exact v) : decode? v.asText = some v := by
    rw [asText_container container]
    exact decode?_compact exact
  refine ⟨back, fun body query found free => ?_⟩
  have captured : Capture.inBody body query = .ok (some v.asText) := by
    rw [Capture.inBody, found]
    rfl
  refine ⟨captured, fun entry name step context parsed named => ?_, fun f files t m d written plain known => ?_⟩
  · have found : Capture.find query (.body body) = .ok (some v.asText) := captured
    exact Capture.value?_harvest parsed named found step context
  · exact ⟨_, Preparing.returns_body_of_mention written plain known (head?_asText_container container) files d, _,
      Utf8.decode_encode _, back (exact_of_inBody container found free)⟩

/-- The variable of a capture as the whole of a template. -/
def itemMention : Mention := bare noBlank "item".toList noBlank (by decide)

/-- An object with an escaped text under a name beyond ASCII, and with an array of all that is left. -/
theorem container_sent_back_item :
    let v : Json := .obj [("größe", .str "a\"\\\t\u0001b"), ("n", .arr [.int (-12), .bool true, .null, .obj []])]
    let body : Text := r#"[{"größe":"a\"\\\t\u0001b","n":[-12,true,null,{}]}]"#
    let query : Text := "body.[0]"
    let f := Preparing.filling [("item".toList, v.asText)]
    let t : Flow.RequestTemplate := { method := "POST", url := "/items", body := "{{item}}" }
    (v.isContainer = true ∧ Body.inBody body (Body.normalize (Text.dropStart "body." query)) = .ok (some v) ∧ RealFree v ∧
        Capture.parse? "item = body.[0]" = some ("item".toList, query) ∧ t.body = itemMention.text ∧
        f.builtins.has itemMention.name = false ∧ f.vars.get? itemMention.name = some v.asText) ∧
      Table.get? (Capture.harvest (.body body) "fetch" [] ["item = body.[0]".toList]).context.values "item" =
        some v.asText ∧
      ∃ sent, Returns (Preparing.body f {} t) { seed := 1 } sent { seed := 1 } ∧
        ∃ text, Utf8.decode sent = .ok text ∧ decode? text = some v := by
  intro v body query f t
  have inner : ∀ item ∈ [Json.int (-12), .bool true, .null, .obj []], Exact item ∧ RealFree item := by
    simp only [List.forall_mem_cons]
    exact ⟨⟨.int (by decide), .int _⟩, ⟨.bool _, .bool _⟩, ⟨.null, .null⟩,
      ⟨.obj List.nodup_nil nofun, .obj nofun⟩, nofun⟩
  have exact : Exact v := by
    refine .obj (by decide) ?_
    simp only [List.forall_mem_cons]
    exact ⟨.str _, .arr fun item listed => (inner item listed).1, nofun⟩
  have free : RealFree v := by
    refine .obj ?_
    simp only [List.forall_mem_cons]
    exact ⟨.str _, .arr fun item listed => (inner item listed).2, nofun⟩
  have found : Body.inBody body (Body.normalize (Text.dropStart "body." query)) = .ok (some v) := by
    have written : body = compact (.arr [v]) := by decide +kernel
    have read : decode? body = some (.arr [v]) := by
      rw [written]
      exact decode?_compact (.arr (List.forall_mem_singleton.mpr exact))
    have path : Body.normalize (Body.normalize (Text.dropStart "body." query)) = "0".toList := by decide +kernel
    have index : Integer.read "0".toList = .ok 0 := by decide +kernel
    have item : Body.itemAt [v] "0".toList = .ok (some v) := by
      rw [Body.itemAt, if_neg (by decide), if_pos (by decide +kernel), index]
      rfl
    have parts : Body.split "0".toList = ["0".toList] := by decide
    rw [Body.inBody, read]
    dsimp only
    rw [Body.find, path, if_neg (by decide), parts, Body.follow, Body.step, item]
    rfl
  have parsed : Capture.parse? "item = body.[0]" = some ("item".toList, query) := by decide
  have plain : f.builtins.has itemMention.name = false := by decide
  obtain ⟨-, captured, kept, sent⟩ :=
    (container_sent_back (v := v) rfl).imp_right fun whole => whole body query found free
  exact ⟨⟨rfl, found, free, parsed, rfl, plain, rfl⟩, kept _ _ _ _ parsed (by decide),
    sent f {} t itemMention _ rfl plain rfl⟩

end ApiFlow
