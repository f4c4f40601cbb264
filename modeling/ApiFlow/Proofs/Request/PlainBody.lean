import ApiFlow.Proofs.Run.Preparing
import ApiFlow.Proofs.Template.Open

/-!
# Bodies that name no file

The parts of a request are filled in first and read afterwards, and so is its body: a filled text `@path` names a file.
A template that begins with plain text therefore settles by itself whether a file is read, and one that begins with a
reference leaves it to what that reference stands for.

* `bodyText` : the body with its references filled in, and `BodyAt` : the draws that are left for it.
* `ends_body_of_text` : a body that names no file is the bytes of its text.
* `request_reads_no_file` : the request then does not depend on any file.
-/

set_option autoImplicit false

namespace ApiFlow

namespace Template

variable {builtins : Builtins} {vars : Table Text} {template : Text}

/-- A template begins with a reference, or with the character that it is written with. -/
theorem pieces_cons (c : Char) (rest : Text) :
    (∃ r more, pieces (c :: rest) = .reference r :: more) ∨ ∃ more, pieces (c :: rest) = .char c :: more := by
  unfold pieces piecesFrom
  cases reference? (c :: rest) with
  | some r => exact .inl ⟨r, _, rfl⟩
  | none => exact .inr ⟨_, rfl⟩

/-- What a template begins with, if it is plain, is what the filled text begins with. -/
theorem head?_fill {c : Char} {more : List Piece} (plain : pieces template = .char c :: more) (d : Draws) :
    (fill builtins vars template d).1.text.head? = some c := by
  rw [fill, plain]
  rfl

end Template

namespace Preparing

open ApiFlow.Flow ApiFlow.Template

variable {α β : Type} {f : Filler} {d d' : Draws} {t : RequestTemplate}

/-- The body of a request with its references filled in. -/
def bodyText (f : Filler) (t : RequestTemplate) (d : Draws) : Text := (Template.fill f.builtins f.vars t.body d).1.text

/-- Address and headers of a request have been prepared, and these draws are left for its body. -/
def BodyAt (settings : Settings) (f : Filler) (flowHeaders : Table Text) (t : RequestTemplate) (d d' : Draws) : Prop :=
  ∃ url d₁ hs, Returns (address f settings.environment.baseUrl t) d url d₁ ∧
    Returns (headers f settings.headers flowHeaders t) d₁ hs d'

/-! ## What a preparation is refused for -/

/-- The computation is refused for missing names only. -/
def OnlyMisses (m : Preparing α) : Prop := ∀ d e, Stops m d (.refused e) → ∃ names, e = .missing names

namespace OnlyMisses

theorem pure (a : α) : OnlyMisses (pure a) := fun _ _ stopped => absurd stopped stops_pure

theorem bind {m : Preparing α} {k : α → Preparing β} (first : OnlyMisses m) (rest : ∀ a, OnlyMisses (k a)) :
    OnlyMisses (m >>= k) := by
  intro d e stopped
  obtain early | ⟨a, d', -, late⟩ := stops_bind.mp stopped
  · exact first d e early
  · exact rest a d' e late

theorem mapM {k : α → Preparing β} (each : ∀ a, OnlyMisses (k a)) (l : List α) : OnlyMisses (l.mapM k) := by
  induction l with
  | nil => exact fun _ _ stopped => absurd stopped not_stops_mapM_nil
  | cons a rest ih =>
      rw [List.mapM_cons]
      exact bind (each a) fun _ => bind ih fun _ => pure _

end OnlyMisses

/-- A text is filled in, or it is refused for the names that are missing. -/
theorem ends_fill (f : Filler) (text : Text) (d : Draws) :
    (ends (fill f text) d).1 = .ok (Template.fill f.builtins f.vars text d).1.text ∨
      ∃ names, (ends (fill f text) d).1 = .error (.refused (.missing names)) := by
  unfold fill
  by_cases strict : f.strict = true
  · rw [if_pos strict, ends_mk, fillStrict_eq]
    by_cases closed : openNames f.builtins f.vars text = []
    · exact .inl (by rw [if_pos closed])
    · exact .inr ⟨Text.unique (openNames f.builtins f.vars text), by rw [if_neg closed]⟩
  · rw [if_neg strict]
    exact .inl rfl

theorem returns_fill {text filled : Text} (returned : Returns (fill f text) d filled d') :
    filled = (Template.fill f.builtins f.vars text d).1.text := by
  have ok : (ends (fill f text) d).1 = .ok filled := congrArg Prod.fst returned
  rcases ends_fill f text d with same | ⟨names, refused⟩
  · exact Except.ok.inj (ok.symm.trans same)
  · cases ok.symm.trans refused

theorem onlyMisses_fill (f : Filler) (text : Text) : OnlyMisses (fill f text) := by
  intro d e stopped
  rcases ends_fill f text d with filled | ⟨names, refused⟩
  · cases filled.symm.trans stopped
  · cases refused.symm.trans stopped
    exact ⟨names, rfl⟩

theorem onlyMisses_guard (result : Except Fault α) : OnlyMisses (guard result) := by
  cases result with
  | ok a => exact .pure a
  | error x => exact fun _ _ stopped => nomatch stops_throw.mp stopped

theorem onlyMisses_address (f : Filler) (base : Text) (t : RequestTemplate) : OnlyMisses (address f base t) := by
  refine .bind (onlyMisses_fill f t.url) fun url => ?_
  dsimp only
  split
  · exact .pure _
  · exact .bind (.mapM (onlyMisses_fill f) t.queries) fun queries => onlyMisses_guard _

theorem onlyMisses_headers (f : Filler) (defaults flow : Table Text) (t : RequestTemplate) :
    OnlyMisses (headers f defaults flow t) := by
  have default (h : Text × Text) : OnlyMisses (defaultHeader f h) :=
    .bind (fun _ _ stopped => nomatch stopped) fun _ => .pure _
  exact .bind (.mapM default defaults) fun _ => .bind (.mapM default flow) fun _ =>
    .bind (.mapM (onlyMisses_fill f) t.headers) fun _ => .pure _

/-! ## Bodies -/

/-- **A body that names no file is the bytes of its text.** -/
theorem ends_body_of_text (text : (bodyText f t d).head? ≠ some '@') (files : Files.Tree) :
    ends (body f files t) d = ends (if t.body.isEmpty then pure [] else Utf8.encode <$> fill f t.body) d := by
  unfold body
  split
  · rfl
  · rw [← bind_pure_comp]
    refine ends_bind_congr fun filled d' returned => ?_
    obtain rfl := returns_fill returned
    split
    · rename_i place same
      rw [bodyText, same] at text
      exact absurd rfl text
    · rfl

/-- A template that does not begin with an at sign names no file if no reference at its beginning makes it do so. -/
theorem bodyText_names_no_file (written : t.body.head? ≠ some '@')
    (opening : ∀ r more, pieces t.body = .reference r :: more → (bodyText f t d).head? ≠ some '@') :
    (bodyText f t d).head? ≠ some '@' := by
  cases body : t.body with
  | nil =>
      rw [bodyText, body]
      nofun
  | cons c rest =>
      rcases pieces_cons c rest with ⟨r, more, reference⟩ | ⟨more, plain⟩
      · exact opening r more (body ▸ reference)
      · rw [bodyText, head?_fill (body ▸ plain)]
        rwa [body] at written

/-- A body that names no file is returned as the bytes of its text. -/
theorem returns_body_of_text (text : (bodyText f t d).head? ≠ some '@') {files : Files.Tree} {data : List UInt8}
    (returned : Returns (body f files t) d data d') : data = Utf8.encode (bodyText f t d) := by
  rw [Returns, ends_body_of_text text] at returned
  split at returned
  · rename_i none
    obtain ⟨rfl, -⟩ := returns_pure.mp returned
    rw [bodyText, List.isEmpty_iff.mp none]
    rfl
  · obtain ⟨filled, first, rfl⟩ := returns_map.mp returned
    rw [returns_fill first, bodyText]

/-- Only missing names are a reason to refuse a body that names no file. -/
theorem refused_body_of_text (text : (bodyText f t d).head? ≠ some '@') {files : Files.Tree} {e : PrepareError}
    (stopped : Stops (body f files t) d (.refused e)) : ∃ names, e = .missing names := by
  rw [Stops, ends_body_of_text text] at stopped
  split at stopped
  · exact absurd stopped stops_pure
  · exact onlyMisses_fill f t.body d e (stops_map.mp stopped)

/-! ## Requests -/

/-- **A request whose body template does not begin with an at sign reads no file**, provided that a reference at the
beginning of the template, if there is one, does not put an at sign there.  Its preparation is the same whatever files
there are, its body is the bytes of the filled text, and it is refused for missing names only. -/
theorem request_reads_no_file (settings : Settings) (f : Filler) (flowHeaders : Table Text) (maxDurationMs : Int)
    (t : RequestTemplate) (d : Draws) (written : t.body.head? ≠ some '@')
    (opening : ∀ r more, pieces t.body = .reference r :: more → ∀ d', BodyAt settings f flowHeaders t d d' →
      (bodyText f t d').head? ≠ some '@') (files : Files.Tree) :
    (∀ files', ends (request settings files' f flowHeaders maxDurationMs t) d =
      ends (request settings files f flowHeaders maxDurationMs t) d) ∧
    (∀ r d', Returns (request settings files f flowHeaders maxDurationMs t) d r d' →
      ∃ d₂, BodyAt settings f flowHeaders t d d₂ ∧ r.body = Utf8.encode (bodyText f t d₂)) ∧
    ∀ e, Stops (request settings files f flowHeaders maxDurationMs t) d (.refused e) → ∃ names, e = .missing names := by
  have plain {d₂ : Draws} (reached : BodyAt settings f flowHeaders t d d₂) : (bodyText f t d₂).head? ≠ some '@' :=
    bodyText_names_no_file written fun r more reference => opening r more reference d₂ reached
  refine ⟨fun files' => ?_, fun r d' returned => ?_, fun e stopped => ?_⟩
  · refine ends_bind_congr fun url d₁ addressed => ends_bind_congr fun hs d₂ layered => ?_
    have text := plain ⟨url, d₁, hs, addressed, layered⟩
    rw [ends_bind, ends_bind, ends_body_of_text text, ends_body_of_text text]
  · obtain ⟨url, d₁, addressed, returned⟩ := returns_bind.mp returned
    obtain ⟨hs, d₂, layered, returned⟩ := returns_bind.mp returned
    obtain ⟨data, d₃, bodied, returned⟩ := returns_bind.mp returned
    obtain ⟨limit, d₄, -, returned⟩ := returns_bind.mp returned
    obtain ⟨rfl, -⟩ := returns_pure.mp returned
    have reached : BodyAt settings f flowHeaders t d d₂ := ⟨url, d₁, hs, addressed, layered⟩
    exact ⟨d₂, reached, returns_body_of_text (plain reached) bodied⟩
  · obtain early | ⟨url, d₁, addressed, stopped⟩ := stops_bind.mp stopped
    · exact onlyMisses_address f _ t d e early
    obtain early | ⟨hs, d₂, layered, stopped⟩ := stops_bind.mp stopped
    · exact onlyMisses_headers f _ _ t d₁ e early
    obtain early | ⟨data, d₃, bodied, stopped⟩ := stops_bind.mp stopped
    · exact refused_body_of_text (plain ⟨url, d₁, hs, addressed, layered⟩) early
    obtain early | ⟨limit, d₄, -, stopped⟩ := stops_bind.mp stopped
    · exact onlyMisses_guard _ d₃ e early
    · exact absurd stopped stops_pure

/-- A message that begins with the name of whoever sends it and has an at sign in the middle. -/
def mention : RequestTemplate :=
  { method := "POST", url := "http://api.test/notes", body := "{{user}}@{{host}}" }

/-- Values for a filler that asks for every value. -/
def filling (vars : Table Text) : Filler :=
  { builtins := { nowNs := 0, env := [], uuid := fun _ => [], token := fun _ => [] }, vars, strict := true }

/-- An at sign behind the first reference names no file, whatever files there are. -/
theorem request_reads_no_file_mention :
    let f := filling [("user".toList, "ann".toList), ("host".toList, "secret.txt".toList)]
    mention.body.head? ≠ some '@' ∧ (∀ d, (bodyText f mention d).head? ≠ some '@') ∧
      ∀ files, ∃ r d, Returns (request {} files f [] 0 mention) { seed := 1 } r d ∧
        r.body = Utf8.encode "ann@secret.txt" := by
  intro f
  have text (d : Draws) : bodyText f mention d = "ann@secret.txt" := rfl
  have plain (d : Draws) : (bodyText f mention d).head? ≠ some '@' := by
    rw [text]
    decide
  refine ⟨by decide, plain, fun files => ?_⟩
  obtain ⟨same, bytes, -⟩ := request_reads_no_file {} f [] 0 mention { seed := 1 } (by decide)
    (fun _ _ _ d _ => plain d) {}
  obtain ⟨r, returned⟩ := returns_of_isOk (m := request {} {} f [] 0 mention) (s := ({ seed := 1 } : Draws))
    (by decide +kernel)
  obtain ⟨d₂, -, body⟩ := bytes r _ returned
  exact ⟨r, _, (same files).trans returned, body.trans (by rw [text])⟩

/-- A note that is one reference. -/
def note : RequestTemplate :=
  { method := "POST", url := "http://api.test/notes", body := "{{note}}" }

/-- **A value can make a request read a file**: the note names one, and its content goes out in place of the text. -/
theorem note_reads_file :
    let f := filling [("note".toList, "@secret.txt".toList)]
    let files : Files.Tree := { entries := [(["secret.txt".toList], .file [104, 105])] }
    note.body.head? ≠ some '@' ∧ bodyText f note { seed := 1 } = "@secret.txt" ∧
      (ends (request {} files f [] 0 note) { seed := 1 }).1.toOption.map (·.body) = some [104, 105] := by
  decide +kernel

end Preparing

end ApiFlow
