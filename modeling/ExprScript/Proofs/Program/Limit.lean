import ExprScript.Proofs.Eval.Depth
import ExprScript.Proofs.Grammar.Progress
import ExprScript.Proofs.Program.Acceptance

/-!
# The nesting limit

The limit on nesting has no effect but one: a program that nests too deeply for it is not read, or
not evaluated.  With a larger limit it is read, put in words and evaluated in the same way
(`limit_transparent`).

A program of fewer lexemes than the limit does not nest too deeply to be read
(`read_ne_tooDeep`), and a tree no higher than the limit does not nest too deeply to be evaluated
(`evaluate_ne_tooDeep`).
-/

open ExprScript.Parser

namespace ExprScript.Program

/-! ### Larger limits -/

/-- What can be written with a limit can be written with a larger one. -/
theorem all_isWritable_mono
    {limit larger : Nat} (h : limit ≤ larger) {log : Array Event}
    (hlog : log.all (·.isWritable limit) = true) :
  log.all (·.isWritable larger) = true
  := by
  rw [Array.all_eq_true'] at hlog ⊢
  intro event hevent
  have hwritable := hlog event hevent
  cases event with
  | conditionalParsed head condition =>
      rw [Event.isWritable, decide_eq_true_eq] at hwritable ⊢
      apply Nat.le_trans hwritable h
  | _ => rfl

/-- Putting the events of a reading in words with a smaller limit does the same, or fails because a
condition nests too deeply. -/
theorem verbose_approximates
    {limit larger : Nat} (h : limit ≤ larger) {α : Type} {reading reading' : ReadM α}
    (hreading : Approximates (.parse .tooDeep) reading reading') :
  Approximates (.parse .tooDeep) (verbose limit reading) (verbose larger reading')
  := by
  intro log
  rw [EStateM.run, EStateM.run, verbose, verbose]
  rcases hreading log with heq | ⟨after, hdeep⟩
  · rw [← heq]
    generalize reading.run log = outcome
    cases outcome with
    | ok _ after | error _ after =>
        by_cases hall : after.all (·.isWritable limit) = true
        · left
          simp only [if_pos hall, if_pos (all_isWritable_mono h hall)]
        · right
          simp only [if_neg hall]
          exact ⟨_, rfl⟩
  · right
    rw [hdeep]
    by_cases hall : after.all (·.isWritable limit) = true
    · simp only [if_pos hall]
      exact ⟨_, rfl⟩
    · simp only [if_neg hall]
      exact ⟨_, rfl⟩

/-- With a smaller limit a tree is evaluated in the same way, or nests too deeply. -/
theorem evaluate_approximates {limit larger : Nat} (h : limit ≤ larger) (tree : Tree) :
  Approximates (.eval .tooDeep) (evaluate limit tree) (evaluate larger tree)
  := by
  intro m
  rw [EStateM.run, EStateM.run, evaluate, evaluate]
  rcases Eval.evalAt_approximates h tree m with heq | ⟨after, hdeep⟩
  · left
    rw [heq]
  · right
    rw [hdeep]
    exact ⟨after, rfl⟩

/-! ### Limits that are large enough -/

/-- A source of fewer lexemes than the limit does not nest too deeply. -/
theorem read_ne_tooDeep
    {source : String} {texts : List String} (hsource : Lexeme.split source = .ok texts)
    {limit : Nat} (hlimit : texts.length < limit) (log log' : Array Event) :
  (read limit source).run log ≠ .error (.parse .tooDeep) log'
  := by
  have hlength : (Token.ofLexemes texts).length < limit := by
    rw [Token.ofLexemes, List.length_map]
    apply Nat.lt_of_le_of_lt (List.length_filter_le _ _) hlimit
  have hproceeds := parseProgram_proceeds limit
    ⟨Token.ofLexemes texts, 0, log.push (.tokenized texts.length)⟩ hlength
  rw [run_read limit hsource]
  intro h
  split at h
  · cases h
  · next cause s hrun =>
      cases h
      exact (hproceeds.of_error hrun).2.2 rfl

/-- A tree no higher than the limit does not nest too deeply. -/
theorem evaluate_ne_tooDeep
    {limit : Nat} {tree : Tree} (h : tree.height ≤ limit) (m m' : Machine) :
  (evaluate limit tree).run m ≠ .error (.eval .tooDeep) m'
  := by
  rw [EStateM.run, evaluate]
  intro hrun
  split at hrun
  · cases hrun
  · next cause after hcause =>
      cases hrun
      exact ((Eval.evalAt_ne_tooDeep h).of_error trivial hcause).2 rfl

/-- Let one limit be no larger than another.

* Every source is read in the same way with both, or it nests too deeply to be parsed with the
  smaller; and so it is if the events are put in words as they occur.
* Every tree has the same outcome in every machine with both, and leaves the same machine, or it
  nests too deeply to be evaluated with the smaller.
* A source of fewer lexemes than the limit does not nest too deeply to be parsed, and a tree no
  higher than the limit does not nest too deeply to be evaluated. -/
theorem limit_transparent {limit larger : Nat} (h : limit ≤ larger) :
  (∀ source, Approximates (.parse .tooDeep) (read limit source) (read larger source)) ∧
  (∀ source, Approximates (.parse .tooDeep) (verbose limit (read limit source))
    (verbose larger (read larger source))) ∧
  (∀ tree, Approximates (.eval .tooDeep) (evaluate limit tree) (evaluate larger tree)) ∧
  (∀ source texts, Lexeme.split source = .ok texts → texts.length < limit →
    ∀ log log', (read limit source).run log ≠ .error (.parse .tooDeep) log') ∧
  (∀ tree : Tree, tree.height ≤ limit →
    ∀ m m', (evaluate limit tree).run m ≠ .error (.eval .tooDeep) m') ∧
  (Error.parse .tooDeep).message = "Program nests too deeply to parse" ∧
  (Error.eval .tooDeep).message = "Expression nests too deeply to evaluate"
  := by
  refine ⟨read_approximates h, ?_, evaluate_approximates h, ?_, ?_, rfl, rfl⟩
  · intro source
    apply verbose_approximates h (read_approximates h source)
  · intro source texts hsource hlength
    apply read_ne_tooDeep hsource hlength
  · intro tree hheight
    apply evaluate_ne_tooDeep hheight

/-- A difference of a parenthesis is read with the limit 8 as with the limit 400, and a rejected
target of height 2 is reported with the limit 8 as with the limit 400. -/
theorem limit_transparent_small :
  let source := "x - ( y ^ 2 )"
  let tree : Tree := .node (.ofKind .assign) [.node (.ofKind .negate) [.atom (.ofKind .truth)],
    .atom (.ofKind .falsity)]
  8 ≤ 400 ∧ (∀ log, (read 8 source).run log = (read 400 source).run log) ∧
    ∀ m, (evaluate 8 tree).run m = (evaluate 400 tree).run m
  := by
  intro source tree
  have hlimit : 8 ≤ 400 := by decide
  have hsource : Lexeme.split "x - ( y ^ 2 )" = .ok ["x", "-", "(", "y", "^", "2", ")"] := by cbv
  obtain ⟨hread, -, hevaluate, hparsed, hevaluated, -⟩ := limit_transparent hlimit
  refine ⟨hlimit, ?_, ?_⟩
  · intro log
    rcases hread source log with heq | ⟨log', hdeep⟩
    · exact heq
    · apply absurd hdeep (hparsed _ _ hsource (by decide) log log')
  · intro m
    rcases hevaluate tree m with heq | ⟨m', hdeep⟩
    · exact heq
    · apply absurd hdeep (hevaluated tree (by decide) m m')

end ExprScript.Program
