import ApiFlow.Proofs.Text.Fields
import ApiFlow.Template.Basic
import Mathlib.Data.List.TakeWhile

/-!
# How a reference is spelled

A reference is read from its own text alone: between two opening and two closing braces, and whatever stands behind them.
So a template is a row of characters at which no reference begins, and of references as they are spelled.

* `DefaultPart`, `defaultPart_quoted` : a default, as it is spelled.
* `Spelled` : the spelling of a reference.
* `reference?_eq_some_iff` : a text begins with a reference if and only if it begins with its spelling.
* `pieces_char`, `pieces_spelled` : the first piece of a template.
* `textInduction` : induction on a template, piece by piece.
* `references_char`, `references_spelled` : the references of a template, piece by piece.
-/

set_option autoImplicit false

namespace ApiFlow.Template

variable {r : Reference} {s front kept rest template : Text} {c : Char}

/-! ## Blanks -/

/-- Blanks and nothing else. -/
structure Blanks where
  text : Text
  blank : ∀ c ∈ text, Text.isBlank c = true

theorem Blanks.trimLeft_append (blanks : Blanks) {s : Text} (start : Text.SolidStart s) :
    Text.trimLeft (blanks.text ++ s) = s := by
  rw [Text.trimLeft, List.dropWhile_append_of_pos blanks.blank]
  exact Text.trimLeft_eq_self start

theorem Blanks.trimRight_append (blanks : Blanks) {s : Text} (ends : Text.SolidEnd s) :
    Text.trimRight (s ++ blanks.text) = s := by
  rw [Text.trimRight, Text.dropEndWhile, List.reverse_append,
    List.dropWhile_append_of_pos (by simpa using blanks.blank)]
  exact Text.trimRight_eq_self ends

theorem Blanks.not_mem (blanks : Blanks) (solid : Text.isBlank c = false) : c ∉ blanks.text := fun member =>
  absurd (blanks.blank c member) (by rw [solid]; exact Bool.false_ne_true)

theorem exists_blanks (s : Text) : ∃ blanks : Blanks, s = blanks.text ++ Text.trimLeft s :=
  ⟨⟨s.takeWhile Text.isBlank, fun _ member => List.mem_takeWhile_imp member⟩, List.takeWhile_append_dropWhile.symm⟩

/-! ## Defaults -/

/-- What stands between the bar and the closing braces, where it is read as a default. -/
structure DefaultPart (front kept : Text) : Prop where
  free : '}' ∉ front
  read : ∀ rest, fallbackTail? (front ++ '}' :: '}' :: rest) = some (kept, rest)

/-- **A default is read** behind its mark and an opening quote, with blanks and a backslash where they may stand. -/
theorem defaultPart_quoted (afterBar beforeQuote : Blanks) {slash inside : Text} (optional : slash = [] ∨ slash = ['\\'])
    (free : '}' ∉ inside) (quoted : quotedPart? inside = some kept) :
    DefaultPart (afterBar.text ++ ("default:".toList ++ (beforeQuote.text ++ (slash ++ '"' :: inside)))) kept where
  free := by
    simp only [List.mem_append, List.mem_cons, not_or]
    refine ⟨afterBar.not_mem rfl, by decide, beforeQuote.not_mem rfl, ?_, by decide, free⟩
    rcases optional with rfl | rfl <;> decide
  read := by
    intro rest
    have marked : Text.trimLeft (afterBar.text ++ ("default:".toList ++ (beforeQuote.text ++
        (slash ++ '"' :: (inside ++ '}' :: '}' :: rest))))) = "default:".toList ++ (beforeQuote.text ++
        (slash ++ '"' :: (inside ++ '}' :: '}' :: rest))) :=
      afterBar.trimLeft_append (Text.solidStart_append (by simp) (by decide) _)
    have opened : Text.dropStart ['\\'] (Text.trimLeft (beforeQuote.text ++
        (slash ++ '"' :: (inside ++ '}' :: '}' :: rest)))) = '"' :: (inside ++ '}' :: '}' :: rest) := by
      rcases optional with rfl | rfl <;>
        rw [beforeQuote.trimLeft_append (by intro c first; cases first; decide)] <;> rfl
    have inside' : ∀ c ∈ inside, (c != '}') = true := fun c member => bne_iff_ne.mpr (ne_of_mem_of_not_mem member free)
    have stop : ∀ c ∈ ('}' :: '}' :: rest).head?, (c != '}') = false := by simp
    -- the closing braces are the first ones behind the quote
    obtain ⟨taken, dropped⟩ := Text.takeWhile_dropWhile_append inside' stop
    simp only [List.append_assoc, List.cons_append, fallbackTail?, marked, List.drop_left, opened, taken, dropped, quoted]
    simp

theorem exists_slash (s : Text) : ∃ slash, (slash = [] ∨ slash = ['\\']) ∧ s = slash ++ Text.dropStart ['\\'] s := by
  by_cases here : ['\\'].isPrefixOf s = true
  · obtain ⟨tail, rfl⟩ := List.isPrefixOf_iff_prefix.mp here
    exact ⟨['\\'], .inr rfl, by rw [Text.dropStart, if_pos here, List.drop_left]⟩
  · exact ⟨[], .inl rfl, by rw [Text.dropStart, if_neg here, List.nil_append]⟩

/-- **A default is read from its own text**, whatever stands behind the closing braces. -/
theorem fallbackTail?_eq_some (read : fallbackTail? s = some (kept, rest)) :
    ∃ front, DefaultPart front kept ∧ s = front ++ '}' :: '}' :: rest := by
  unfold fallbackTail? at read
  dsimp only at read
  split at read
  · cases read
  split at read
  case _ notMissing _ quoted opened =>
    split at read
    case _ rest' closed =>
      obtain ⟨kept', inside, same⟩ := Option.map_eq_some_iff.mp read
      obtain ⟨rfl, rfl⟩ := Prod.mk.inj same
      obtain ⟨afterBar, whole⟩ := exists_blanks s
      obtain ⟨mark, marked⟩ : "default:".toList <+: Text.trimLeft s := by simpa using notMissing
      obtain ⟨beforeQuote, behind⟩ := exists_blanks mark
      obtain ⟨slash, optional, escaped⟩ := exists_slash (Text.trimLeft mark)
      have free : '}' ∉ quoted.takeWhile (· != '}') := fun member => by simpa using List.mem_takeWhile_imp member
      have split : quoted = quoted.takeWhile (· != '}') ++ '}' :: '}' :: rest' := by
        rw [← closed, List.takeWhile_append_dropWhile]
      rw [← marked, List.drop_left] at opened
      rw [opened, split] at escaped
      rw [escaped] at behind
      have text : s = (afterBar.text ++ ("default:".toList ++ (beforeQuote.text ++
          (slash ++ '"' :: quoted.takeWhile (· != '}'))))) ++ '}' :: '}' :: rest' := by
        rw [whole, ← marked, behind]
        simp
      exact ⟨_, defaultPart_quoted afterBar beforeQuote optional free inside, text⟩
    case _ => cases read
  case _ => cases read

/-! ## References -/

/-- The characters of a name with its blanks, one at least. -/
structure NameText (name : Text) : Prop where
  some : name ≠ []
  chars : ∀ c ∈ name, isNameChar c = true

/-- A reference as it is spelled: without a default, or with one. -/
inductive Spelled : Reference → Prop where
  | bare {name : Text} (named : NameText name) :
      Spelled ⟨'{' :: '{' :: (name ++ ['}', '}']), Text.trim name, none⟩
  | fallback {name front kept : Text} (named : NameText name) (part : DefaultPart front kept) :
      Spelled ⟨'{' :: '{' :: (name ++ '|' :: (front ++ ['}', '}'])), Text.trim name, some kept⟩

/-- **A reference is read from its spelling**, whatever stands behind it. -/
theorem Spelled.read (spelled : Spelled r) (rest : Text) : reference? (r.source ++ rest) = some r := by
  have source : (r.source ++ rest).take ((r.source ++ rest).length - rest.length) = r.source := by simp
  cases spelled with
  | @bare name named =>
      have whole : '{' :: '{' :: (name ++ ['}', '}']) ++ rest = '{' :: '{' :: (name ++ '}' :: '}' :: rest) := by simp
      have stop : ∀ c ∈ ('}' :: '}' :: rest).head?, isNameChar c = false := by simp [isNameChar]
      obtain ⟨front, back⟩ := Text.takeWhile_dropWhile_append named.chars stop
      dsimp only at source ⊢
      rw [whole] at source ⊢
      rw [reference?, front, back, if_neg (by simpa using named.some)]
      exact congrArg (fun t => some (Reference.mk t (Text.trim name) none)) source
  | @fallback name front' kept named part =>
      have whole : '{' :: '{' :: (name ++ '|' :: (front' ++ ['}', '}'])) ++ rest =
          '{' :: '{' :: (name ++ '|' :: (front' ++ '}' :: '}' :: rest)) := by simp
      have stop : ∀ c ∈ ('|' :: (front' ++ '}' :: '}' :: rest)).head?, isNameChar c = false := by simp [isNameChar]
      obtain ⟨front, back⟩ := Text.takeWhile_dropWhile_append named.chars stop
      dsimp only at source ⊢
      rw [whole] at source ⊢
      rw [reference?, front, back, if_neg (by simpa using named.some)]
      simp only [part.read rest]
      exact congrArg (fun t => some (Reference.mk t (Text.trim name) (some kept))) source

/-- Every reference that is read has a spelling, with which the text begins. -/
theorem spelled_of_reference? (read : reference? s = some r) : Spelled r ∧ r.source <+: s := by
  unfold reference? at read
  split at read
  case _ body =>
    dsimp only at read
    split at read
    · cases read
    case _ notEmpty =>
      have named : NameText (body.takeWhile isNameChar) :=
        ⟨by simpa using notEmpty, fun c member => List.mem_takeWhile_imp member⟩
      have split : body = body.takeWhile isNameChar ++ body.dropWhile isNameChar :=
        List.takeWhile_append_dropWhile.symm
      generalize body.takeWhile isNameChar = name at named split read
      split at read
      case _ rest behind =>
        have whole : '{' :: '{' :: body = '{' :: '{' :: (name ++ ['}', '}']) ++ rest := by rw [split, behind]; simp
        obtain rfl := Option.some.inj read
        simp only [whole, List.length_append, Nat.add_sub_cancel, List.take_left]
        exact ⟨.bare named, List.prefix_append _ _⟩
      case _ tail behind =>
        obtain ⟨⟨kept, rest⟩, tailRead, same⟩ := Option.map_eq_some_iff.mp read
        obtain ⟨front, part, rfl⟩ := fallbackTail?_eq_some tailRead
        have whole : '{' :: '{' :: body = '{' :: '{' :: (name ++ '|' :: (front ++ ['}', '}'])) ++ rest := by
          rw [split, behind]
          simp
        obtain rfl := same
        simp only [whole, List.length_append, Nat.add_sub_cancel, List.take_left]
        exact ⟨.fallback named part, List.prefix_append _ _⟩
      case _ => cases read
  case _ => cases read

/-- **A text begins with a reference** if and only if it begins with its spelling. -/
theorem reference?_eq_some_iff : reference? s = some r ↔ Spelled r ∧ r.source <+: s := by
  constructor
  · exact spelled_of_reference?
  · rintro ⟨spelled, rest, rfl⟩
    exact spelled.read rest

/-- Between its braces a reference holds no closing brace, and it does not begin with a third opening one. -/
theorem Spelled.exists_body (spelled : Spelled r) :
    ∃ body, r.source = '{' :: '{' :: (body ++ ['}', '}']) ∧ '}' ∉ body ∧ body.head? ≠ some '{' := by
  have free {name : Text} (named : NameText name) : '}' ∉ name := fun member => absurd (named.chars _ member) (by decide)
  have first {name : Text} (named : NameText name) (more : Text) : (name ++ more).head? ≠ some '{' := by
    obtain ⟨c, name, rfl⟩ := List.exists_cons_of_ne_nil named.some
    rintro same
    cases same
    exact absurd (named.chars _ List.mem_cons_self) (by decide)
  cases spelled with
  | bare named => exact ⟨_, rfl, free named, by simpa using first named []⟩
  | @fallback name front kept named part =>
      refine ⟨name ++ '|' :: front, by simp, ?_, first named _⟩
      simp only [List.mem_append, List.mem_cons, not_or]
      exact ⟨free named, by decide, part.free⟩

/-! ## Templates -/

theorem reference?_other {c : Char} (other : c ≠ '{') (s : Text) : reference? (c :: s) = none := by
  rw [Option.eq_none_iff_forall_ne_some]
  intro q read
  obtain ⟨spelled, begins⟩ := reference?_eq_some_iff.mp read
  obtain ⟨body, source, -, -⟩ := spelled.exists_body
  rw [source, List.cons_prefix_cons] at begins
  exact other begins.1.symm

theorem piecesFrom_skip (skip : Nat) (s : Text) : piecesFrom skip s = piecesFrom 0 (s.drop skip) := by
  induction s generalizing skip with
  | nil => cases skip <;> rfl
  | cons c s ih =>
      cases skip with
      | zero => rfl
      | succ skip => exact ih skip

theorem pieces_char (alone : reference? (c :: s) = none) : pieces (c :: s) = .char c :: pieces s := by
  rw [pieces, piecesFrom, alone]
  rfl

theorem pieces_spelled (spelled : Spelled r) (s : Text) : pieces (r.source ++ s) = .reference r :: pieces s := by
  obtain ⟨body, source, -, -⟩ := spelled.exists_body
  have read := spelled.read s
  have length : r.source.length - 1 = ('{' :: (body ++ ['}', '}'])).length := by rw [source]; rfl
  have whole : r.source ++ s = '{' :: ('{' :: (body ++ ['}', '}']) ++ s) := by rw [source]; rfl
  rw [whole] at read ⊢
  rw [pieces, piecesFrom, read]
  dsimp only
  rw [piecesFrom_skip, length, List.drop_left, pieces]

/-- Induction on a template: a character at which no reference begins, or the spelling of a reference, stands in front. -/
@[elab_as_elim]
theorem textInduction {motive : Text → Prop} (s : Text) (nil : motive [])
    (char : ∀ c s, reference? (c :: s) = none → motive s → motive (c :: s))
    (reference : ∀ r s, Spelled r → motive s → motive (r.source ++ s)) : motive s :=
  match s with
  | [] => nil
  | c :: s => by
      cases read : reference? (c :: s) with
      | none => exact char c s read (textInduction s nil char reference)
      | some r =>
          obtain ⟨spelled, rest, whole⟩ := reference?_eq_some_iff.mp read
          obtain ⟨body, source, -, -⟩ := spelled.exists_body
          have shorter : rest.length < (c :: s).length := by
            rw [← whole, source]
            simp
            omega
          rw [← whole]
          exact reference r rest spelled (textInduction rest nil char reference)
termination_by s.length
decreasing_by
  · exact Nat.lt_succ_self s.length
  · exact shorter

/-! ## References of a template -/

theorem references_char {c : Char} {s : Text} (alone : reference? (c :: s) = none) :
    references (c :: s) = references s := by
  rw [references, pieces_char alone]
  rfl

theorem references_spelled (spelled : Spelled r) (s : Text) :
    references (r.source ++ s) = if r.name = [] then references s else r :: references s := by
  rw [references, pieces_spelled spelled]
  by_cases nameless : r.name = []
  · simp [nameless, references]
  · simp [nameless, references]

theorem mem_references_spelled {q : Reference} (spelled : Spelled r) (s : Text) :
    q ∈ references (r.source ++ s) ↔ q = r ∧ r.name ≠ [] ∨ q ∈ references s := by
  rw [references_spelled spelled]
  by_cases nameless : r.name = []
  · simp [nameless]
  · simp [nameless]

theorem spelled_of_mem (listed : r ∈ references template) : Spelled r := by
  induction template using textInduction with
  | nil => cases listed
  | char c s alone ih => exact ih (references_char alone ▸ listed)
  | reference q s spelled ih =>
      rcases (mem_references_spelled spelled s).mp listed with ⟨rfl, -⟩ | later
      · exact spelled
      · exact ih later

end ApiFlow.Template
