import ApiFlow.Proofs.Template.Spelling

/-!
# References as they are written

A reference is written as its name between two braces on either side, with blanks around the name, and it may have a
default between quotes behind a bar.  In the default each backslash and each quote stands behind a backslash.

* `Mention` : a reference that is to be written, with its blanks.
* `unescape_keptDefault` : the default is read back, though the reader takes a last backslash for part of the quote.
* `Mention.spelled` : a written reference is spelled as the reader wants it.
-/

set_option autoImplicit false

namespace ApiFlow

namespace Text

/-! ## Replacing a pair of characters -/

variable {a b c : Char} {new s : Text}

/-- The pair is replaced where it stands. -/
theorem replaceAll_pair : replaceAll [a, b] new (a :: b :: s) = new ++ replaceAll [a, b] new s := by
  rw [replaceAll, replaceFrom, if_pos (by simp [List.isPrefixOf])]
  rfl

/-- A character that does not begin the pair is kept. -/
theorem replaceAll_other (other : c = a → s.head? ≠ some b) :
    replaceAll [a, b] new (c :: s) = c :: replaceAll [a, b] new s := by
  have absent : [a, b].isPrefixOf (c :: s) = false := by
    cases s with
    | nil => simp [List.isPrefixOf]
    | cons d s =>
        by_cases same : c = a
        · have next : d ≠ b := fun second => other same (congrArg some second)
          simp [List.isPrefixOf, same, next.symm]
        · simp [List.isPrefixOf, Ne.symm same]
  rw [replaceAll, replaceFrom, if_neg (by rw [absent]; exact Bool.false_ne_true)]
  rfl

theorem stripEnd?_append (front ending : Text) : stripEnd? ending (front ++ ending) = some front := by
  rw [stripEnd?, if_pos (List.isSuffixOf_iff_suffix.mpr (List.suffix_append front ending))]
  simp

theorem stripEnd?_singleton_of_ne (front : Text) (other : a ≠ c) : stripEnd? [a] (front ++ [c]) = none := by
  rw [stripEnd?, if_neg]
  rw [List.isSuffixOf_iff_suffix]
  rintro ⟨rest, same⟩
  exact other (List.singleton_inj.mp (List.append_inj' same rfl).2)

end Text

namespace Template

/-! ## Defaults -/

/-- One character of a default as it is written. -/
def escapeChar (c : Char) : Text := if c = '\\' ∨ c = '"' then ['\\', c] else [c]

/-- A default as it is written between its quotes. -/
def escape (value : Text) : Text := value.flatMap escapeChar

/-- A text with each backslash written twice. -/
def doubled (value : Text) : Text := value.flatMap fun c => if c = '\\' then ['\\', c] else [c]

/-- What the reader keeps of a written default: a last backslash goes with the quote. -/
def keptDefault (value : Text) : Text := (Text.stripEnd? ['\\'] (escape value)).getD (escape value)

theorem escape_cons (c : Char) (value : Text) : escape (c :: value) = escapeChar c ++ escape value := rfl

theorem escape_append (a b : Text) : escape (a ++ b) = escape a ++ escape b := List.flatMap_append

/-- What stands behind a written default begins with no quote if its tail does not. -/
theorem head?_escape_append {value tail : Text} (free : tail.head? ≠ some '"') :
    (escape value ++ tail).head? ≠ some '"' := by
  cases value with
  | nil => exact free
  | cons c value =>
      rw [escape_cons, escapeChar]
      split
      · simp
      · rename_i plain
        simpa using fun same : c = '"' => plain (.inr same)

/-- The first pass takes the backslashes in front of quotes away, and no other. -/
theorem replaceQuotes_escape (value : Text) {tail : Text} (free : tail.head? ≠ some '"') :
    Text.replaceAll "\\\"" ['"'] (escape value ++ tail) = doubled value ++ Text.replaceAll "\\\"" ['"'] tail := by
  have mark : "\\\"".toList = ['\\', '"'] := rfl
  rw [mark]
  induction value with
  | nil => rfl
  | cons c value ih =>
      by_cases backslash : c = '\\'
      · subst backslash
        have next : (escape value ++ tail).head? ≠ some '"' := head?_escape_append free
        change Text.replaceAll ['\\', '"'] ['"'] ('\\' :: '\\' :: (escape value ++ tail)) = _
        rw [Text.replaceAll_other (by simp), Text.replaceAll_other (fun _ => next), ih]
        rfl
      · by_cases quote : c = '"'
        · subst quote
          change Text.replaceAll ['\\', '"'] ['"'] ('\\' :: '"' :: (escape value ++ tail)) = _
          rw [Text.replaceAll_pair, ih]
          rfl
        · have plain : escape (c :: value) ++ tail = c :: (escape value ++ tail) := by
            simp [escape_cons, escapeChar, backslash, quote]
          have single : doubled (c :: value) = c :: doubled value := by simp [doubled, backslash]
          rw [plain, Text.replaceAll_other (fun same => absurd same backslash), ih, single]
          rfl

/-- The second pass makes one backslash of two. -/
theorem replaceBackslashes_doubled (value tail : Text) :
    Text.replaceAll "\\\\" ['\\'] (doubled value ++ tail) = value ++ Text.replaceAll "\\\\" ['\\'] tail := by
  have mark : "\\\\".toList = ['\\', '\\'] := rfl
  rw [mark]
  induction value with
  | nil => rfl
  | cons c value ih =>
      by_cases backslash : c = '\\'
      · subst backslash
        change Text.replaceAll ['\\', '\\'] ['\\'] ('\\' :: '\\' :: (doubled value ++ tail)) = _
        rw [Text.replaceAll_pair, ih]
        rfl
      · have single : doubled (c :: value) ++ tail = c :: (doubled value ++ tail) := by simp [doubled, backslash]
        rw [single, Text.replaceAll_other (fun same => absurd same backslash), ih]
        rfl

/-- What the reader keeps is the whole default as it is written, or all of it but a last backslash. -/
theorem keptDefault_cases (value : Text) :
    keptDefault value = escape value ∨ ∃ front, value = front ++ ['\\'] ∧ keptDefault value = escape front ++ ['\\'] := by
  rcases List.eq_nil_or_concat value with rfl | ⟨front, c, rfl⟩
  · exact .inl rfl
  · rw [List.concat_eq_append]
    by_cases backslash : c = '\\'
    · subst backslash
      have written : escape (front ++ ['\\']) = (escape front ++ ['\\']) ++ ['\\'] := by
        rw [escape_append, List.append_assoc]
        rfl
      refine .inr ⟨front, rfl, ?_⟩
      rw [keptDefault, written, Text.stripEnd?_append, Option.getD_some]
    · obtain ⟨rest, written⟩ : ∃ rest, escape (front ++ [c]) = rest ++ [c] := by
        rw [escape_append]
        by_cases quote : c = '"'
        · subst quote
          exact ⟨escape front ++ ['\\'], by simp [escape, escapeChar]⟩
        · exact ⟨escape front, by simp [escape, escapeChar, backslash, quote]⟩
      rw [keptDefault, written, Text.stripEnd?_singleton_of_ne rest (Ne.symm backslash)]
      exact .inl rfl

/-- **A default is read back**, whatever its backslashes and quotes. -/
theorem unescape_keptDefault (value : Text) : unescape (keptDefault value) = value := by
  rw [unescape]
  rcases keptDefault_cases value with whole | ⟨front, rfl, cut⟩
  · have first : Text.replaceAll "\\\"" ['"'] (escape value ++ []) = doubled value ++ [] :=
      replaceQuotes_escape value (by simp)
    have second : Text.replaceAll "\\\\" ['\\'] (doubled value ++ []) = value ++ [] := replaceBackslashes_doubled value []
    simp only [List.append_nil] at first second
    rw [whole, first, second]
  · rw [cut, replaceQuotes_escape front (by simp)]
    exact replaceBackslashes_doubled front ['\\']

theorem mem_of_mem_escape {value : Text} {c : Char} (member : c ∈ escape value) : c ∈ value ∨ c = '\\' := by
  obtain ⟨d, listed, written⟩ := List.mem_flatMap.mp member
  rw [escapeChar] at written
  split at written
  · rcases List.mem_cons.mp written with rfl | same
    · exact .inr rfl
    · exact .inl (List.mem_singleton.mp same ▸ listed)
  · exact .inl (List.mem_singleton.mp written ▸ listed)

/-! ## References -/

/-- A default that is to be written, with the blanks between its parts. -/
structure WrittenDefault where
  value : Text
  afterBar : Blanks
  beforeQuote : Blanks
  afterQuote : Blanks
  braceless : '}' ∉ value

/-- A reference that is to be written, with the blanks around its name. -/
structure Mention where
  before : Blanks
  name : Text
  after : Blanks
  default? : Option WrittenDefault
  named : name ≠ []
  trimmed : Text.trim name = name
  nameChars : ∀ c ∈ name, isNameChar c = true

/-- A default behind its bar. -/
def WrittenDefault.tail (f : WrittenDefault) : Text :=
  f.afterBar.text ++ "default:" ++ f.beforeQuote.text ++ '"' :: escape f.value ++ '"' :: f.afterQuote.text

/-- What stands between a name with its blanks and the closing braces. -/
def Mention.tail (m : Mention) : Text := m.default?.elim [] fun f => '|' :: f.tail

/-- A reference as it is written. -/
def Mention.text (m : Mention) : Text :=
  '{' :: '{' :: (m.before.text ++ m.name ++ m.after.text ++ m.tail ++ ['}', '}'])

/-- What the reader makes of a written reference. -/
def Mention.toReference (m : Mention) : Reference :=
  { source := m.text, name := m.name, fallback := m.default?.map fun f => keptDefault f.value }

theorem isNameChar_of_blank {c : Char} (blank : Text.isBlank c = true) : isNameChar c = true := by
  have other : ∀ d, Text.isBlank d = false → c ≠ d := by
    rintro d solid rfl
    exact absurd (blank.symm.trans solid) (by decide)
  simp [isNameChar, other '|' (by decide), other '{' (by decide), other '}' (by decide)]

/-- **A written default is read back**, up to the closing braces. -/
theorem WrittenDefault.part (f : WrittenDefault) : DefaultPart f.tail (keptDefault f.value) := by
  have written : f.tail = f.afterBar.text ++ ("default:".toList ++ (f.beforeQuote.text ++
      ([] ++ '"' :: (escape f.value ++ '"' :: f.afterQuote.text)))) := by simp [WrittenDefault.tail]
  have free : '}' ∉ escape f.value ++ '"' :: f.afterQuote.text := by
    simp only [List.mem_append, List.mem_cons, not_or]
    refine ⟨fun member => ?_, by decide, f.afterQuote.not_mem rfl⟩
    exact (mem_of_mem_escape member).elim f.braceless (by decide)
  have kept : quotedPart? (escape f.value ++ '"' :: f.afterQuote.text) = some (keptDefault f.value) := by
    have right : Text.trimRight (escape f.value ++ '"' :: f.afterQuote.text) = escape f.value ++ ['"'] := by
      have split : escape f.value ++ '"' :: f.afterQuote.text = (escape f.value ++ ['"']) ++ f.afterQuote.text := by simp
      rw [split]
      exact f.afterQuote.trimRight_append (Text.solidEnd_append _ (by simp) (by decide))
    rw [quotedPart?, right, Text.stripEnd?_append]
    rfl
  rw [written]
  exact defaultPart_quoted _ _ (.inl rfl) free kept

/-- **A written reference is spelled** as the reader wants it, and so it is read back whole. -/
theorem Mention.spelled (m : Mention) : Spelled m.toReference := by
  have named : NameText (m.before.text ++ m.name ++ m.after.text) := by
    refine ⟨by simp [m.named], fun c member => ?_⟩
    rcases List.mem_append.mp member with front | blank
    · rcases List.mem_append.mp front with blank | listed
      · exact isNameChar_of_blank (m.before.blank c blank)
      · exact m.nameChars c listed
    · exact isNameChar_of_blank (m.after.blank c blank)
  have trimmed : Text.trim (m.before.text ++ m.name ++ m.after.text) = m.name := by
    obtain ⟨start, ends⟩ := Text.trim_eq_self_iff.mp m.trimmed
    rw [Text.trim, List.append_assoc, m.before.trimLeft_append (Text.solidStart_append m.named start _)]
    exact m.after.trimRight_append ends
  rw [Mention.toReference, Mention.text, Mention.tail]
  cases m.default? with
  | none =>
      have bare := Spelled.bare named
      rw [trimmed] at bare
      simpa using bare
  | some f =>
      have whole := Spelled.fallback named f.part
      rw [trimmed] at whole
      simpa using whole

end Template

end ApiFlow
