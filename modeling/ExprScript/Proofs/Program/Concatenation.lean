import ExprScript.Proofs.Eval.Simulation
import ExprScript.Proofs.Grammar.Continuation
import ExprScript.Proofs.Program.Reading
import ExprScript.Proofs.Token.Cutting

/-!
# One program after another

Two programs with a newline between them are one program: it has the expressions of the first and
then those of the second, and running it is running the first and then the second, with the
environment that the first leaves (`run_append_newline`).  The newline is no token, so the second
must not start with a sign, which would join its first expression to the last one of the first.
-/

open ExprScript.Parser

namespace ExprScript.Program

open Eval (SameBindings)

/-! ### Reading -/

/-- A newline keeps the lexemes of two sources apart. -/
theorem split_append_newline
    {a b : String} {texts texts' : List String} (ha : Lexeme.split a = .ok texts)
    (hb : Lexeme.split b = .ok texts') :
  Lexeme.split (a ++ "\n" ++ b) = .ok (texts ++ texts')
  := by
  rw [Lexeme.split_eq_ok_iff] at ha hb ⊢
  have hchars : (a ++ "\n" ++ b).toList = a.toList ++ '\n' :: b.toList := by simp
  rw [hchars]
  apply ha.append hb
  decide

/-- An expression that starts with no sign does not start with an operator. -/
theorem upcoming_precedence
    {depth : Nat} {ts : List Token} {trees : List Tree}
    (h : BlockReading (Reads depth) ts trees []) (hne : trees ≠ [])
    (hsign : ¬ IsSign (upcoming ts)) :
  (upcoming ts).precedence = 0
  := by
  cases h with
  | close _ => contradiction
  | more _ hfirst _ =>
      obtain ⟨e, rfl, he⟩ := reads_derives hfirst
      rw [upcoming_append (he.ne_nil nofun)] at hsign ⊢
      have hall : ∀ kind ∈ primaryStarts, kind.precedence = 0 := by decide
      have hstarts := he.expression_starts
      simp only [List.mem_cons] at hstarts
      rcases hstarts with hplus | hminus | hprimary
      · apply absurd (.inl hplus) hsign
      · apply absurd (.inr hminus) hsign
      · apply hall _ hprimary

/-- A source after another is read as the block of the expressions of both. -/
theorem readsAs_append_newline
    {limit : Nat} {a b : String} {s t : Tree} (ha : ReadsAs limit a s) (hb : ReadsAs limit b t)
    (ht : t.operands ≠ [])
    (hsign : ∀ texts, Lexeme.split b = .ok texts → ¬ IsSign (upcoming (Token.ofLexemes texts))) :
  ReadsAs limit (a ++ "\n" ++ b) (.node (.ofKind .block) (s.operands ++ t.operands))
  := by
  obtain ⟨texts, trees, hsplit, hblock, rfl⟩ := (readsAs_iff limit a s).mp ha
  obtain ⟨texts', trees', hsplit', hblock', rfl⟩ := (readsAs_iff limit b t).mp hb
  apply (readsAs_iff limit _ _).mpr
  refine ⟨texts ++ texts', trees ++ trees', split_append_newline hsplit hsplit', ?_, rfl⟩
  rw [Token.ofLexemes_append]
  apply hblock.append (reads_exchanges limit) hblock'
  apply upcoming_precedence hblock' ht (hsign texts' hsplit')

/-! ### Evaluating -/

/-- A block of expressions before others is evaluated before the block of the others. -/
theorem block_append
    (expression : Tree → EvalM Value) {ts us : List Tree} (hts : ts ≠ []) (hus : us ≠ []) :
  Eval.block expression (ts ++ us) =
    (Eval.block expression ts >>= fun _ => Eval.block expression us)
  := by
  induction ts with
  | nil => contradiction
  | cons first rest ih =>
      cases rest with
      | nil =>
          obtain ⟨second, us, rfl⟩ := List.exists_cons_of_ne_nil hus
          rfl
      | cons second rest =>
          calc Eval.block expression (first :: second :: rest ++ us)
            _ = expression first >>= fun _ => Eval.block expression (second :: rest ++ us) := rfl
            _ = expression first >>= fun _ => Eval.block expression (second :: rest) >>= fun _ =>
                Eval.block expression us := by rw [ih (by simp)]
            _ = Eval.block expression (first :: second :: rest) >>= fun _ =>
                Eval.block expression us := (bind_assoc _ _ _).symm

theorem evalAt_append
    (limit : Nat) {ts us : List Tree} (hts : ts ≠ []) (hus : us ≠ []) :
  Eval.evalAt limit (.node (.ofKind .block) (ts ++ us)) =
    (Eval.evalAt limit (.node (.ofKind .block) ts) >>= fun _ =>
      Eval.evalAt limit (.node (.ofKind .block) us))
  := by
  cases limit with
  | zero => rfl
  | succ depth => apply block_append (Eval.evalAt depth) hts hus

/-- Evaluating a tree that evaluates as one after another is evaluating one after another. -/
theorem evaluate_eq_bind
    {limit : Nat} {tree first second : Tree}
    (h : Eval.evalAt limit tree =
      (Eval.evalAt limit first >>= fun _ => Eval.evalAt limit second)) :
  evaluate limit tree = (evaluate limit first >>= fun _ => evaluate limit second)
  := by
  funext m
  rw [evaluate, h]
  cases hfirst : (Eval.evalAt limit first).run m with
  | ok value mid =>
      rw [run_bind_of_ok hfirst]
      have hvalue : (evaluate limit first).run m = .ok value mid := by
        rw [EStateM.run, evaluate, hfirst]
      apply Eq.symm
      apply run_bind_of_ok hvalue
  | error cause mid =>
      rw [run_bind_of_error hfirst]
      have herror : (evaluate limit first).run m = .error (.eval cause) mid := by
        rw [EStateM.run, evaluate, hfirst]
      apply Eq.symm
      apply run_bind_of_error herror

/-- The events reported so far have no part in evaluating a tree. -/
theorem evaluate_matches (limit : Nat) (tree : Tree) :
  Matches SameBindings (evaluate limit tree) (evaluate limit tree)
  := by
  intro m n hmn
  have hmatches : Matches SameBindings (Eval.evalAt limit tree) (Eval.evalAt limit tree) :=
    Eval.simulates_sameBindings.evalAt limit trivial
  have houtcome := hmatches m n hmn
  rw [EStateM.run, EStateM.run, evaluate, evaluate]
  generalize (Eval.evalAt limit tree).run m = outcome at houtcome
  generalize (Eval.evalAt limit tree).run n = outcome' at houtcome
  cases houtcome with
  | ok hmn' => apply SameOutcome.ok hmn'
  | error hmn' => apply SameOutcome.error hmn'

/-- Running a source that is read is evaluating its tree, but for the events of reading it. -/
theorem run_matches
    {limit : Nat} {source : String} {tree : Tree} (h : ReadsAs limit source tree) :
  Matches SameBindings (run limit source) (evaluate limit tree)
  := by
  intro m n hmn
  obtain ⟨log, hread⟩ := h m.log
  rw [run_of_read hread]
  apply evaluate_matches limit tree { m with log := log } n hmn

/-- A source is read as a block. -/
theorem ReadsAs.eq_block {limit : Nat} {source : String} {tree : Tree}
    (h : ReadsAs limit source tree) :
  tree = .node (.ofKind .block) tree.operands
  := by
  obtain ⟨texts, trees, -, -, rfl⟩ := (readsAs_iff limit source tree).mp h
  rfl

/-- Running two sources one after the other is running the second after the first, but for the
events of reading them. -/
theorem run_append_matches
    {limit : Nat} {a b : String} {s t : Tree} (ha : ReadsAs limit a s) (hb : ReadsAs limit b t)
    (hs : s.operands ≠ []) (ht : t.operands ≠ [])
    (hwhole : ReadsAs limit (a ++ "\n" ++ b)
      (.node (.ofKind .block) (s.operands ++ t.operands))) :
  Matches SameBindings (run limit a >>= fun _ => run limit b) (run limit (a ++ "\n" ++ b))
  := by
  intro m n hmn
  obtain ⟨log, hread⟩ := hwhole n.log
  rw [run_of_read hread, evaluate_eq_bind (evalAt_append limit hs ht), ← ha.eq_block,
    ← hb.eq_block]
  apply ((run_matches ha).bind fun _ => run_matches hb) m { n with log := log } hmn

/-- Let `a` and `b` be sources that are read as the blocks `s` and `t` of at least one expression
each, and let the first token of `b` be no sign.

* `a`, a newline and `b` are read as the block of the expressions of `s` and then those of `t`.
* If running `a` stops with an error, then running the whole stops with the same error and leaves
  the same bindings.
* If running `a` gives a value and leaves the machine `m₁`, then running the whole gives the value
  or the error of running `b` on `m₁`, and leaves the same bindings. -/
theorem run_append_newline
    {limit : Nat} {a b : String} {s t : Tree} (ha : ReadsAs limit a s) (hb : ReadsAs limit b t)
    (hs : s.operands ≠ []) (ht : t.operands ≠ [])
    (hsign : ∀ texts, Lexeme.split b = .ok texts → ¬ IsSign (upcoming (Token.ofLexemes texts))) :
  ReadsAs limit (a ++ "\n" ++ b) (.node (.ofKind .block) (s.operands ++ t.operands)) ∧
    ∀ m,
      (∀ e m₁, (run limit a).run m = .error e m₁ →
        ∃ m', (run limit (a ++ "\n" ++ b)).run m = .error e m' ∧ SameBindings m₁ m') ∧
      (∀ v m₁, (run limit a).run m = .ok v m₁ →
        SameOutcome SameBindings ((run limit b).run m₁) ((run limit (a ++ "\n" ++ b)).run m))
  := by
  have hwhole := readsAs_append_newline ha hb ht hsign
  refine ⟨hwhole, ?_⟩
  intro m
  have houtcome := run_append_matches ha hb hs ht hwhole m m ⟨rfl, rfl⟩
  constructor
  · intro e m₁ hrun
    rw [run_bind_of_error hrun] at houtcome
    generalize (run limit (a ++ "\n" ++ b)).run m = outcome at houtcome ⊢
    cases houtcome with
    | error hsame => exact ⟨_, rfl, hsame⟩
  · intro v m₁ hrun
    rwa [run_bind_of_ok hrun] at houtcome

/-- The programs `x = 1` and `( x )`, one after the other, are a block of two expressions. -/
theorem run_append_newline_parentheses :
  ReadsAs 4 ("x = 1" ++ "\n" ++ "( x )")
      (.node (.ofKind .block)
        [.node (.ofKind .assign)
          [.atom ⟨.symbol, some (.text "x")⟩, .atom ⟨.number, some (.number (Number.ofNat 1))⟩],
        .atom ⟨.symbol, some (.text "x")⟩]) ∧
    ∀ m v m₁, (run 4 "x = 1").run m = .ok v m₁ →
      SameOutcome SameBindings ((run 4 "( x )").run m₁)
        ((run 4 ("x = 1" ++ "\n" ++ "( x )")).run m)
  := by
  obtain ⟨hsplit, hsplit'⟩ : Lexeme.split "x = 1" = .ok ["x", "=", "1"] ∧
      Lexeme.split "( x )" = .ok ["(", "x", ")"] := ⟨by cbv, by cbv⟩
  have ha : ReadsAs 4 "x = 1"
      (.node (.ofKind .block)
        [.node (.ofKind .assign)
          [.atom ⟨.symbol, some (.text "x")⟩,
          .atom ⟨.number, some (.number (Number.ofNat 1))⟩]]) := by
    intro log
    rw [run_read 4 hsplit]
    exact ⟨_, rfl⟩
  have hb : ReadsAs 4 "( x )"
      (.node (.ofKind .block) [.atom ⟨.symbol, some (.text "x")⟩]) := by
    intro log
    rw [run_read 4 hsplit']
    exact ⟨_, rfl⟩
  have hsign : ∀ texts, Lexeme.split "( x )" = .ok texts →
      ¬ IsSign (upcoming (Token.ofLexemes texts)) := by
    intro texts htexts
    rw [hsplit'] at htexts
    cases htexts
    rintro (h | h) <;> cases h
  obtain ⟨hreads, hrun⟩ :=
    run_append_newline ha hb (List.cons_ne_nil _ _) (List.cons_ne_nil _ _) hsign
  exact ⟨hreads, fun m => (hrun m).2⟩

end ExprScript.Program
