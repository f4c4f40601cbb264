import ApiFlow.Assertion.Comparison
import ApiFlow.Proofs.Number.Literals

/-!
# Which texts are arithmetic

Between blanks, literals and signs take turns.  A text of that form has a value unless it divides by a literal that is
zero, and a text of any other form has none.  Integers are added, subtracted and multiplied from left to right, exactly as
long as the results stay below 10^28; no sign binds more tightly than another.

* `WellFormed` : the tokens of arithmetic that has a value.
* `operate?_isSome_iff`, `operate?_whole` : one step, whether it can be taken, and what it gives.
* `calculate?_isSome_iff`, `calculate?_whole` : a whole calculation.
* `evaluate?_spec` : a text without quotes.
-/

set_option autoImplicit false

namespace ApiFlow.Arithmetic

/-- The signs between literals. -/
def signs : List Text := [['+'], ['-'], ['*'], ['/']]

/-- Literals at the even places, signs at the odd ones, a literal at the end, and no division by a literal that is zero. -/
structure WellFormed (tokens : List Text) : Prop where
  odd : tokens.length % 2 = 1
  literals : ∀ i t, tokens[2 * i]? = some t → ∃ l : Literal, l.text = t
  signs : ∀ i t, tokens[2 * i + 1]? = some t → t ∈ signs
  divisors : ∀ i, ∀ l : Literal, tokens[2 * i + 1]? = some ['/'] → tokens[2 * i + 2]? = some l.text → l.value ≠ 0

variable {t sign operand : Text} {rest : List Text} {x : Decimal} {n : Int}

theorem not_wellFormed_nil : ¬ WellFormed [] := fun formed => absurd formed.odd (by decide)

theorem not_wellFormed_pair : ¬ WellFormed [t, sign] := fun formed => absurd formed.odd (by simp)

theorem wellFormed_singleton_iff : WellFormed [t] ↔ ∃ l : Literal, l.text = t := by
  refine ⟨fun formed => formed.literals 0 t rfl, fun literal => ⟨rfl, fun i u here => ?_, nofun, nofun⟩⟩
  cases i with
  | zero =>
      cases here
      exact literal
  | succ i => cases here

/-- A literal and a sign stand in front of well-formed tokens. -/
theorem wellFormed_cons_iff :
    WellFormed (t :: sign :: operand :: rest) ↔
      (∃ l : Literal, l.text = t) ∧ sign ∈ signs ∧
        (sign = ['/'] → ∀ l : Literal, l.text = operand → l.value ≠ 0) ∧ WellFormed (operand :: rest) := by
  have even (i : Nat) : (t :: sign :: operand :: rest)[2 * (i + 1)]? = (operand :: rest)[2 * i]? := rfl
  have odd (i : Nat) : (t :: sign :: operand :: rest)[2 * (i + 1) + 1]? = (operand :: rest)[2 * i + 1]? := rfl
  have next (i : Nat) : (t :: sign :: operand :: rest)[2 * (i + 1) + 2]? = (operand :: rest)[2 * i + 2]? := rfl
  have length : (t :: sign :: operand :: rest).length = (operand :: rest).length + 2 := rfl
  constructor
  · intro formed
    refine ⟨formed.literals 0 t rfl, formed.signs 0 sign rfl, ?_, ?_⟩
    · rintro rfl l rfl
      exact formed.divisors 0 l rfl rfl
    · refine ⟨?_, fun i u here => formed.literals (i + 1) u here, fun i u here => formed.signs (i + 1) u here,
        fun i l here there => formed.divisors (i + 1) l here there⟩
      have total := formed.odd
      rw [length] at total
      omega
  · rintro ⟨literal, known, divisor, formed⟩
    refine ⟨?_, fun i u here => ?_, fun i u here => ?_, fun i l here there => ?_⟩
    · have := formed.odd
      rw [length]
      omega
    · cases i with
      | zero =>
          cases here
          exact literal
      | succ i => exact formed.literals i u (even i ▸ here)
    · cases i with
      | zero =>
          cases here
          exact known
      | succ i => exact formed.signs i u (odd i ▸ here)
    · cases i with
      | zero =>
          cases here
          cases there
          exact divisor rfl l rfl
      | succ i => exact formed.divisors i l (odd i ▸ here) (next i ▸ there)

/-! ## Whether there is a value -/

/-- Literals that are written alike stand for the same number. -/
theorem value_eq_of_text {l m : Literal} (same : l.text = m.text) : l.value = m.value := by
  have read := l.ofLiteral?_text
  rw [same, m.ofLiteral?_text] at read
  rw [← l.value_decimal, ← m.value_decimal, Option.some.inj read]

theorem operate?_text (x : Decimal) (sign : Text) (l : Literal) :
    operate? x sign l.text =
      if sign = ['+'] then some (x.add l.decimal)
      else if sign = ['-'] then some (x.sub l.decimal)
      else if sign = ['*'] then some (x.mul l.decimal)
      else if sign = ['/'] then if l.decimal.isZero then none else some (x.div l.decimal)
      else none := by
  rw [operate?, l.ofLiteral?_text]
  rfl

/-- **A step with a literal can be taken** if its sign is known, and does not divide by zero. -/
theorem operate?_isSome_iff (x : Decimal) (sign : Text) (l : Literal) :
    (operate? x sign l.text).isSome = true ↔ sign ∈ signs ∧ (sign = ['/'] → l.value ≠ 0) := by
  rw [operate?_text]
  simp only [signs, List.mem_cons, List.not_mem_nil, or_false, ne_eq, ← l.isZero_decimal]
  by_cases plus : sign = ['+']
  · simp [plus]
  by_cases minus : sign = ['-']
  · simp [minus]
  by_cases times : sign = ['*']
  · simp [times]
  by_cases slash : sign = ['/']
  · cases l.decimal.isZero <;> simp [slash]
  · simp [plus, minus, times, slash]

/-- **A calculation has a value** exactly if its tokens are well-formed. -/
theorem calculate?_isSome_iff (x : Decimal) {l : Literal} :
    (calculate? x rest).isSome = true ↔ WellFormed (l.text :: rest) := by
  induction x, rest using calculate?.induct generalizing l with
  | case1 x => exact iff_of_true rfl (wellFormed_singleton_iff.mpr ⟨l, rfl⟩)
  | case2 x sign => exact iff_of_false nofun not_wellFormed_pair
  | case3 x sign operand rest ih =>
      have opened : calculate? x (sign :: operand :: rest) =
          (operate? x sign operand).bind fun y => calculate? y rest := rfl
      rw [wellFormed_cons_iff, opened]
      by_cases literal : ∃ m : Literal, m.text = operand
      · obtain ⟨m, rfl⟩ := literal
        have divisor : (∀ k : Literal, k.text = m.text → k.value ≠ 0) ↔ m.value ≠ 0 :=
          ⟨fun each => each m rfl, fun some k same => value_eq_of_text same ▸ some⟩
        have taken := operate?_isSome_iff x sign m
        rw [divisor, ← and_assoc (a := sign ∈ signs), ← taken]
        cases operate? x sign m.text with
        | none => simp
        | some y => simp [ih y (l := m)]
      · have refused : operate? x sign operand = none := by
          cases read : Decimal.ofLiteral? operand with
          | none => rw [operate?, read]; rfl
          | some y => exact absurd ((Literal.exists_of_ofLiteral? read).imp fun _ same => same.1) literal
        rw [refused]
        exact iff_of_false nofun fun formed => literal (formed.2.2.2.literals 0 operand rfl)

/-! ## What the value is -/

/-- The signs that keep integers. -/
inductive Operation where
  | plus
  | minus
  | times
  deriving DecidableEq, Repr

namespace Operation

/-- How an operation is written. -/
def symbol : Operation → Text
  | plus => ['+']
  | minus => ['-']
  | times => ['*']

/-- What an operation does to integers. -/
def apply : Operation → Int → Int → Int
  | plus, n, m => n + m
  | minus, n, m => n - m
  | times, n, m => n * m

end Operation

/-- An operation, and a literal that stands for an integer. -/
structure IntegerStep where
  operation : Operation
  operand : Literal
  value : Int
  exact : operand.value = value

namespace IntegerStep

/-- The tokens of a step. -/
def tokens (s : IntegerStep) : List Text := [s.operation.symbol, s.operand.text]

/-- The integer after the step. -/
def take (n : Int) (s : IntegerStep) : Int := s.operation.apply n s.value

/-- The integers after each of the steps, from left to right. -/
def results : Int → List IntegerStep → List Int
  | _, [] => []
  | n, s :: steps => s.take n :: results (s.take n) steps

end IntegerStep

/-- **A step from an integer to one below 10^28 is exact.** -/
theorem operate?_whole (whole : x.IsWhole n) (s : IntegerStep) (short : (s.take n).natAbs < 10 ^ 28) :
    ∃ y, operate? x s.operation.symbol s.operand.text = some y ∧ y.IsWhole (s.take n) := by
  have operand := Literal.isWhole_decimal s.exact
  rw [operate?_text]
  unfold IntegerStep.take at short ⊢
  cases operation : s.operation with
  | plus =>
      rw [operation] at short
      exact ⟨_, rfl, whole.add operand short⟩
  | minus =>
      rw [operation] at short
      exact ⟨_, rfl, whole.sub operand short⟩
  | times =>
      rw [operation] at short
      exact ⟨_, rfl, whole.mul operand short⟩

/-- **A calculation with integers is exact** if all its results are below 10^28. -/
theorem calculate?_whole (whole : x.IsWhole n) {steps : List IntegerStep}
    (short : ∀ m ∈ IntegerStep.results n steps, m.natAbs < 10 ^ 28) :
    ∃ y, calculate? x (steps.flatMap IntegerStep.tokens) = some y ∧ y.IsWhole (steps.foldl IntegerStep.take n) := by
  induction steps generalizing x n with
  | nil => exact ⟨x, rfl, whole⟩
  | cons s steps ih =>
      obtain ⟨here, later⟩ := List.forall_mem_cons.mp short
      obtain ⟨y, step, next⟩ := operate?_whole whole s here
      obtain ⟨z, value, last⟩ := ih next later
      refine ⟨z, ?_, last⟩
      have opened : calculate? x ((s :: steps).flatMap IntegerStep.tokens) =
          (operate? x s.operation.symbol s.operand.text).bind fun y => calculate? y (steps.flatMap IntegerStep.tokens) := rfl
      rw [opened, step, Option.bind_some, value]

/-! ## Texts -/

theorem tokens_of_quoteFree {e : Text} (quoteFree : ∀ c ∈ e, isQuote c = false) : tokens e = Text.words e := by
  rw [tokens, List.filter_eq_self.mpr fun c member => by rw [quoteFree c member]; rfl]

/-- **A text without quotes has a value exactly if its words are well-formed arithmetic**, whatever the size of its
numbers.  Where it adds, subtracts and multiplies integers and no result reaches 10^28, the value is what these give from
left to right. -/
theorem evaluate?_spec {e : Text} (quoteFree : ∀ c ∈ e, isQuote c = false) :
    ((evaluate? e).isSome = true ↔ WellFormed (Text.words e)) ∧
      ∀ (first : Literal) (n : Int) (steps : List IntegerStep), first.value = n →
        Text.words e = first.text :: steps.flatMap IntegerStep.tokens →
        (∀ m ∈ IntegerStep.results n steps, m.natAbs < 10 ^ 28) →
        ∃ x, evaluate? e = some x ∧ x.value = (steps.foldl IntegerStep.take n : Int) := by
  have opened (t : Text) (rest : List Text) (words : Text.words e = t :: rest) :
      evaluate? e = (Decimal.ofLiteral? t).bind fun x => calculate? x rest := by
    rw [evaluate?, tokens_of_quoteFree quoteFree, words]
    rfl
  constructor
  · cases words : Text.words e with
    | nil =>
        have none : evaluate? e = none := by rw [evaluate?, tokens_of_quoteFree quoteFree, words]
        rw [none]
        exact iff_of_false nofun not_wellFormed_nil
    | cons t rest =>
        rw [opened t rest words]
        cases literal : Decimal.ofLiteral? t with
        | none =>
            refine iff_of_false nofun fun formed => ?_
            obtain ⟨l, rfl⟩ := formed.literals 0 t rfl
            rw [l.ofLiteral?_text] at literal
            cases literal
        | some x =>
            obtain ⟨l, rfl, -⟩ := Literal.exists_of_ofLiteral? literal
            exact calculate?_isSome_iff x
  · intro first n steps same words short
    obtain ⟨y, value, whole⟩ := calculate?_whole (Literal.isWhole_decimal same) short
    refine ⟨y, ?_, whole.value_eq⟩
    rw [opened _ _ words, first.ofLiteral?_text, Option.bind_some, value]

/-- A digit of another script, a fraction of zeros and a sign in front of a digit. -/
def chain : Text := "٢ + 3.0 * -4"

/-- The literal that the chain begins with; it stands for two. -/
def chainFirst : Literal :=
  { sign := [], whole := "٢", fraction? := none, signs := by decide, filled := by decide
    wholeDigits := List.all_eq_true.mp (by decide), fractionDigits := nofun }

/-- The steps of the chain; their literals stand for three and minus four. -/
def chainSteps : List IntegerStep :=
  [{ operation := .plus, value := 3, exact := by decide +kernel
     operand :=
      { sign := [], whole := "3", fraction? := some "0", signs := by decide, filled := nofun
        wholeDigits := List.all_eq_true.mp (by decide)
        fractionDigits := by rintro _ ⟨⟩; exact ⟨by decide, List.all_eq_true.mp (by decide)⟩ } },
   { operation := .times, value := -4, exact := by decide +kernel
     operand :=
      { sign := ['-'], whole := "4", fraction? := none, signs := by decide, filled := by decide
        wholeDigits := List.all_eq_true.mp (by decide), fractionDigits := nofun } }]

/-- The product is taken last, of the sum. -/
theorem evaluate?_spec_chain :
    (∀ c ∈ chain, isQuote c = false) ∧ WellFormed (Text.words chain) ∧ ∃ x, evaluate? chain = some x ∧ x.value = -20 := by
  have quoteFree : ∀ c ∈ chain, isQuote c = false := by
    have all : chain.all (!isQuote ·) = true := by decide
    simpa using all
  obtain ⟨readable, value⟩ := evaluate?_spec quoteFree
  obtain ⟨x, read, same⟩ := value chainFirst 2 chainSteps (by decide +kernel) (by decide +kernel) (by decide +kernel)
  exact ⟨quoteFree, readable.mp (by rw [read]; rfl), x, read, same.trans (by decide +kernel)⟩

end ApiFlow.Arithmetic
