import ExprScript.Proofs.Eval.Safety
import ExprScript.Proofs.Grammar.Shape
import ExprScript.Proofs.Program.Reading

/-!
# Errors of programs

Running a program gives a value or stops with an expected error: an invalid character, an error of
syntax, or an expected error of evaluation (`run_value_or_expected_error`).  The tree of a program
is well shaped, so the checks of the constructors and the rules of evaluation never fail on it.
-/

open ExprScript.Parser

namespace ExprScript

/-- Whether the error is one that a program may cause. -/
def Error.IsExpected : Error → Prop
  | .character _ => True
  | .parse cause => cause.IsSyntax
  | .eval cause => cause.IsExpected

/-- The classes of expected errors. -/
def Error.expectedTitles : List String :=
  ["InvalidCharacterError", "ParseError", "UnboundSymbolError", "TypeMismatchError", "EvalError"]

theorem Error.IsExpected.title {e : Error} (h : e.IsExpected) :
  e.title ∈ Error.expectedTitles
  := by
  cases e with
  | character cause => simp [Error.title, Error.expectedTitles]
  | parse cause => simp [Error.title, Error.expectedTitles]
  | eval cause =>
      cases cause with
      | operationAsLeaf | unknownOperation | missingOperand | badDatum => cases h
      | _ => simp [Error.title, EvalError.title, Error.expectedTitles]

namespace Program

/-- A program is read as a well-shaped tree. -/
theorem read_wellShaped
    {limit : Nat} {source : String} {tree : Tree} {log log' : Array Event}
    (h : (read limit source).run log = .ok tree log') :
  tree.WellShaped
  := by
  obtain ⟨texts, trees, -, hblock, rfl⟩ := (readsAs_iff limit source tree).mp (readsAs_of_read h)
  apply wellShaped_block (hblock.wellShaped reads_wellShaped)

/-- Reading a program stops with an invalid character or an error of syntax. -/
theorem read_error_isExpected
    {limit : Nat} {source : String} {e : Error} {log log' : Array Event}
    (h : (read limit source).run log = .error e log') :
  e.IsExpected
  := by
  cases hsource : Lexeme.split source with
  | error cause =>
      rw [run_read_of_error limit hsource] at h
      cases h
      trivial
  | ok texts =>
      obtain ⟨cause, rfl, hcause⟩ := read_error_isSyntax hsource h
      apply hcause

/-- Evaluating a well-shaped tree stops with expected errors only. -/
theorem evaluate_error_isExpected
    {limit : Nat} {tree : Tree} (htree : tree.WellShaped) {m m' : Machine} {e : Error}
    (h : (evaluate limit tree).run m = .error e m') :
  e.IsExpected
  := by
  rw [EStateM.run, evaluate] at h
  split at h
  · cases h
  · next cause after hrun =>
      cases h
      apply ((Eval.evalAt_safe limit htree).of_error trivial hrun).2

/-- For every limit, source and machine, whatever its environment:

* running the source gives a value, or stops with an expected error, which belongs to one of the
  classes of such errors;
* a tree that is read passes the checks of the constructors, and its leaves and heads have rules of
  evaluation which find all their operands;
* an error of the parser is about the tokens read or their nesting: no token fails to be an
  atom, no expression goes on with a token that is no operator, and no node fails to be built. -/
theorem run_value_or_expected_error (limit : Nat) (source : String) (m : Machine) :
  ((∃ value m', (run limit source).run m = .ok value m') ∨
      ∃ e m', (run limit source).run m = .error e m' ∧ e.IsExpected ∧
        e.title ∈ Error.expectedTitles) ∧
    (∀ tree log log', (read limit source).run log = .ok tree log' →
      tree.WellFormed ∧ tree.WellShaped) ∧
    (∀ cause log log', (read limit source).run log = .error (.parse cause) log' →
      cause.IsSyntax)
  := by
  refine ⟨?_, ?_, ?_⟩
  · cases hrun : (run limit source).run m with
    | ok value m' => exact .inl ⟨value, m', rfl⟩
    | error e m' =>
        have hexpected : e.IsExpected := by
          cases hread : (read limit source).run m.log with
          | ok tree log =>
              rw [run_of_read hread] at hrun
              apply evaluate_error_isExpected (read_wellShaped hread) hrun
          | error e' log =>
              rw [run_of_read_error hread] at hrun
              cases hrun
              apply read_error_isExpected hread
        exact .inr ⟨e, m', rfl, hexpected, hexpected.title⟩
  · intro tree log log' hread
    have hshaped := read_wellShaped hread
    exact ⟨hshaped.wellFormed, hshaped⟩
  · intro cause log log' hread
    apply read_error_isExpected hread

end Program

end ExprScript
