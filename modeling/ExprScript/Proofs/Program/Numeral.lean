import ExprScript.Proofs.Number.Rounding
import ExprScript.Proofs.Program.Reading
import ExprScript.Proofs.Tree.Canonical

/-!
# Reading and showing whole numbers

A run of digits is a program.  It gives the number nearest to what the digits denote, whatever their
scripts and however many zeros they begin with (`run_digits`).  If a number has exactly the value
that they denote, then the result has it too, and it is shown as that value in base ten; and what is
shown of a whole number without a minus sign is read back as the number (`whole_numbers_read_back`).
-/

open ExprScript.Parser

namespace ExprScript

/-- A number that has a natural number as its value is shown as that in base ten. -/
theorem Number.HasValue.text {x : Number} {n : Nat} (h : x.HasValue n) :
  x.text = Text.decimal n
  := by
  have hwhole : x.whole? = some (n : Int) := whole?_eq_some_iff.mpr h
  rw [Number.text, hwhole]
  rfl

namespace Program

/-- A run of digits is read as the number nearest to what it denotes. -/
theorem readsAs_digits
    {source : String} (h : Token.isRun Text.isDigit source.toList = true) (limit : Nat) :
  ReadsAs (limit + 1) source (.node (.ofKind .block)
    [.atom ⟨.number, some (.number (.ofNat (Text.ofDigits source.toList)))⟩])
  := by
  have hword : Lexeme.IsWord source := Lexeme.isWord_of_digits h
  have htokens : Token.ofLexemes [source] =
      [⟨.number, some (.number (.ofNat (Text.ofDigits source.toList)))⟩] := by
    rw [Token.ofLexemes_of_isWord (by simpa using hword), List.map_singleton,
      Token.classify_digits h]
  apply (readsAs_iff _ _ _).mpr
  refine ⟨[source], _, (Lexeme.split_eq_ok_iff _ _).mpr hword, ?_, rfl⟩
  rw [htokens]
  apply BlockReading.more rfl _ (.close rfl)
  exact .intro (.leaf (.inl rfl) rfl) (.stop (by decide))

/-- A run of digits gives the number nearest to what it denotes, and binds nothing. -/
theorem run_digits
    {source : String} (h : Token.isRun Text.isDigit source.toList = true) {limit : Nat}
    (hlimit : 2 ≤ limit) (m : Machine) :
  ∃ log, (run limit source).run m =
    .ok (.number (.ofNat (Text.ofDigits source.toList))) { m with log := log }
  := by
  obtain ⟨depth, rfl⟩ := Nat.exists_eq_add_of_le' hlimit
  obtain ⟨log, hread⟩ := readsAs_digits h (depth + 1) m.log
  use log
  rw [run_of_read hread]
  rfl

/-- Reading a whole number rounds it to the nearest number, and on a tie to the one with the even
significand; the integer of a number is its value.  Hence reading and showing whole numbers are
inverse to each other.

* The text of a number that has a natural number as its value and no minus sign is the token of that
  number.
* If digits of any scripts, with any zeros before them, denote the value of a number, then the
  program of these digits gives a number that has the value, which is shown in base ten, and nothing
  is bound. -/
theorem whole_numbers_read_back :
  (∀ n, Number.IsRounded n (.ofNat n)) ∧
  (∀ (x : Number) (i : Int), x.whole? = some i ↔ x.HasValue i) ∧
  (∀ (x : Number) (n : Nat), x.isNegative = false → x.HasValue n →
    Token.classify x.text = ⟨.number, some (.number x)⟩) ∧
  ∀ source, Token.isRun Text.isDigit source.toList = true →
    let n := Text.ofDigits source.toList
    (∃ x : Number, x.HasValue n) → ∀ limit, 2 ≤ limit → ∀ m, ∃ x log,
      (run limit source).run m = .ok (.number x) { m with log := log } ∧ x.HasValue n ∧
        (Value.number x).shown = Text.decimal n ∧ Text.IsNumeral n (Text.decimal n)
  := by
  refine ⟨Number.isRounded_ofNat, fun _ _ => Number.whole?_eq_some_iff, ?_, ?_⟩
  · intro x n hsign hvalue
    have hwhole : x.whole? = some (n : Int) := Number.whole?_eq_some_iff.mpr hvalue
    apply Tree.classify_text hsign
    rw [hwhole, Option.isSome_some]
  · rintro source hdigits n ⟨x, hvalue⟩ limit hlimit m
    have hrounded := hvalue.ofNat
    obtain ⟨log, hrun⟩ := run_digits hdigits hlimit m
    exact ⟨_, log, hrun, hrounded, hrounded.text, Text.isNumeral_decimal n⟩

/-- The largest number is read back from its 309 digits.  Digits of four scripts that denote
`2 ^ 53 + 2` give that number, and it is shown without the zeros before it. -/
theorem whole_numbers_read_back_large :
  let largest : Number := .finite false ⟨Number.magnitudes - 1, by decide⟩
  let source := "٠0۹00719925474०99４"
  largest.HasValue ((2 ^ 1024 - 2 ^ 971 : Nat) : ℚ) ∧
    Token.classify largest.text = ⟨.number, some (.number largest)⟩ ∧
    Token.isRun Text.isDigit source.toList = true ∧
    ∀ m, ∃ x log, (run nestingLimit source).run m = .ok (.number x) { m with log := log } ∧
      (Value.number x).shown = "9007199254740994"
  := by
  intro largest source
  obtain ⟨-, hwhole, hread, hrun⟩ := whole_numbers_read_back
  have hlargest : largest.HasValue ((2 ^ 1024 - 2 ^ 971 : Nat) : ℚ) :=
    (hwhole largest (2 ^ 1024 - 2 ^ 971 : Nat)).mp (by decide +kernel)
  have hdigits : Token.isRun Text.isDigit source.toList = true := by decide +kernel
  have hdenotes : Text.ofDigits source.toList = 9007199254740994 := by decide +kernel
  have hvalue : (Number.ofNat 9007199254740994).HasValue (9007199254740994 : Nat) :=
    (hwhole (.ofNat 9007199254740994) (9007199254740994 : Nat)).mp (by decide +kernel)
  refine ⟨hlargest, hread largest _ rfl hlargest, hdigits, ?_⟩
  intro m
  rw [← hdenotes] at hvalue
  obtain ⟨x, log, hresult, -, hshown, -⟩ :=
    hrun source hdigits ⟨_, hvalue⟩ nestingLimit (by decide) m
  refine ⟨x, log, hresult, ?_⟩
  rw [hshown, hdenotes]
  decide +kernel

end Program

end ExprScript
