import ExprScript.Proofs.Grammar.Completeness
import ExprScript.Proofs.Grammar.Continuation
import ExprScript.Proofs.Grammar.Invariant

/-!
# Progress of the parser

Every rule of the parser takes a token before it reads a nested expression.  Hence a reader that
finds fewer tokens than expressions may nest never runs out of depth; it leaves the last of the
tokens it found, and it reads the end of the input only to stop with an error, and then once
(`parseAt_proceeds`, `parseBlock_proceeds`).  Reading an expression takes a token, or else reads the
end of the input (`parseAt_advances`), and it never ends with a bound that is negative, since no
token binds as loosely (`parseAt_ok`).

Each step of the two loops takes a token too, so fuel beyond the number of tokens is never used up
(`continuation_run_eq`, `expressions_run_eq`).

On typed tokens the errors are reports of what is wrong with the tokens, whatever the bound
(`parseAt_reports`).
-/

namespace ExprScript

/-- Whether the error reports what is wrong with the tokens or their nesting.  The other errors are
those of a payload or a node that a check refuses. -/
def ParseError.IsReport : ParseError → Prop
  | .badPayload | .invalidNode _ => False
  | _ => True

/-- An error of syntax is a report. -/
theorem ParseError.IsSyntax.isReport {e : ParseError} (h : e.IsSyntax) :
  e.IsReport
  := by
  cases e with
  | badPayload | invalidNode => cases h
  | _ => trivial

namespace Parser

/-! ### Proceeding -/

/-- From the given stream the reader gives a result without reading the end of the input, or it
stops with an error other than lack of depth after reading the end of the input at most once.  The
tokens it leaves are the last of those it found. -/
def ProceedsFrom {α : Type} (s : Stream) (x : ParseM α) : Prop :=
  match x.run s with
  | .ok _ s' => s'.rest <:+ s.rest ∧ s'.overrun = s.overrun
  | .error e s' => s'.rest <:+ s.rest ∧ s'.overrun ≤ s.overrun + 1 ∧ e ≠ .tooDeep

/-- The reader proceeds from every stream of fewer than `n` tokens. -/
def Proceeds {α : Type} (n : Nat) (x : ParseM α) : Prop :=
  ∀ s : Stream, s.rest.length < n → ProceedsFrom s x

section Proceeds

variable {α β : Type} {n : Nat}

theorem ProceedsFrom.of_ok
    {s s' : Stream} {x : ParseM α} (hx : ProceedsFrom s x) {a : α} (h : x.run s = .ok a s') :
  s'.rest <:+ s.rest ∧ s'.overrun = s.overrun
  := by
  rwa [ProceedsFrom, h] at hx

theorem ProceedsFrom.of_error
    {s s' : Stream} {x : ParseM α} (hx : ProceedsFrom s x) {e : ParseError}
    (h : x.run s = .error e s') :
  s'.rest <:+ s.rest ∧ s'.overrun ≤ s.overrun + 1 ∧ e ≠ .tooDeep
  := by
  rwa [ProceedsFrom, h] at hx

/-- A reader that does on `s` what another does on the last tokens of `s` proceeds if the other
does. -/
theorem ProceedsFrom.of_suffix
    {s mid : Stream} {x y : ParseM α} (hx : ProceedsFrom mid x) (hrun : y.run s = x.run mid)
    (hrest : mid.rest <:+ s.rest) (hoverrun : mid.overrun = s.overrun) :
  ProceedsFrom s y
  := by
  unfold ProceedsFrom at hx ⊢
  rw [hrun]
  rw [hoverrun] at hx
  split at hx
  · exact ⟨hx.1.trans hrest, hx.2⟩
  · exact ⟨hx.1.trans hrest, hx.2⟩

theorem Proceeds.pure (a : α) :
  Proceeds n (pure a)
  := fun _ _ => ⟨List.suffix_rfl, rfl⟩

theorem Proceeds.throw {e : ParseError} (he : e ≠ .tooDeep) :
  Proceeds n (throw e : ParseM α)
  := fun _ _ => ⟨List.suffix_rfl, Nat.le_succ _, he⟩

/-- If `x` proceeds, and every `f a` does, then so does `x` followed by `f`. -/
theorem Proceeds.bind {x : ParseM α} {f : α → ParseM β} (hx : Proceeds n x)
    (hf : ∀ a, Proceeds n (f a)) :
  Proceeds n (x >>= f)
  := by
  intro s hs
  cases hrun : x.run s with
  | ok a mid =>
      obtain ⟨hrest, hoverrun⟩ := (hx s hs).of_ok hrun
      have hmid := hf a mid (Nat.lt_of_le_of_lt hrest.length_le hs)
      apply hmid.of_suffix (run_bind_of_ok hrun) hrest hoverrun
  | error e mid =>
      rw [ProceedsFrom, run_bind_of_error hrun]
      apply (hx s hs).of_error hrun

theorem Proceeds.mono {m : Nat} (hmn : m ≤ n) {x : ParseM α} (hx : Proceeds n x) :
  Proceeds m x
  := fun s hs => hx s (Nat.lt_of_lt_of_le hs hmn)

theorem peek_proceeds :
  Proceeds n peek
  := fun _ _ => ⟨List.suffix_rfl, rfl⟩

theorem remaining_proceeds :
  Proceeds n remaining
  := fun _ _ => ⟨List.suffix_rfl, rfl⟩

theorem report_proceeds (event : Event) :
  Proceeds n (report event)
  := fun _ _ => ⟨List.suffix_rfl, rfl⟩

/-- Reading a token leaves one token less, unless it is the end of the input, which has to be an
error. -/
theorem next_proceeds
    {f : Token → ParseM α} (hf : ∀ token, Proceeds n (f token)) {e : ParseError}
    (hfinish : f Token.finish = throw e) (he : e ≠ .tooDeep) :
  Proceeds (n + 1) (next >>= f)
  := by
  rintro ⟨ts, overrun, log⟩ hs
  cases ts with
  | nil =>
      have hrun : (next >>= f).run ⟨[], overrun, log⟩ = .error e ⟨[], overrun + 1, log⟩ := by
        change (f Token.finish).run ⟨[], overrun + 1, log⟩ = _
        rw [hfinish]
        rfl
      rw [ProceedsFrom, hrun]
      exact ⟨List.suffix_rfl, Nat.le_refl _, he⟩
  | cons token ts =>
      have hafter := hf token ⟨ts, overrun, log⟩ (Nat.lt_of_succ_lt_succ hs)
      exact hafter.of_suffix rfl (List.suffix_cons token ts) rfl

theorem expect_proceeds {kind : TokenKind} (hkind : kind ≠ .finish) :
  Proceeds n (expect kind)
  := by
  have hfinish : Token.finish.kind ≠ kind := Ne.symm hkind
  apply Proceeds.mono (Nat.le_succ n)
  refine next_proceeds ?_ (if_neg hfinish) nofun
  intro token
  split
  · apply Proceeds.pure
  · exact Proceeds.throw nofun

theorem atomOf_proceeds (token : Token) :
  Proceeds n (atomOf token)
  := by
  unfold atomOf
  split
  · apply Proceeds.pure
  · next e _ =>
      apply Proceeds.throw
      cases e <;> nofun

theorem nodeOf_proceeds (head : Atom) (tail : List Tree) :
  Proceeds n (nodeOf head tail)
  := by
  unfold nodeOf
  split
  · apply Proceeds.pure
  · exact Proceeds.throw nofun

/-! ### The rules -/

section Rules

variable {expression : Int → ParseM Tree} (h : ∀ bound, Proceeds n (expression bound))
include h

theorem expressions_proceeds (fuel : Nat) (done : List Tree) :
  Proceeds n (expressions expression fuel done)
  := by
  induction fuel generalizing done with
  | zero => apply Proceeds.pure
  | succ fuel ih =>
      apply peek_proceeds.bind
      intro token
      split
      · apply Proceeds.pure
      · apply (h 0).bind
        intro tree
        apply ih

theorem block_proceeds :
  Proceeds n (block expression)
  := by
  apply remaining_proceeds.bind
  intro count
  apply (expressions_proceeds h _ _).bind
  intro trees
  apply nodeOf_proceeds

/-- A word that is looked at before it is read is no end of the input. -/
theorem alternative_proceeds (head : AtomKind) :
  Proceeds n (alternative expression head)
  := by
  intro s hs
  rw [alternative, ProceedsFrom, run_bind_of_ok (run_peek s), ← ProceedsFrom]
  split
  · next hend =>
      obtain ⟨ts, overrun, log⟩ := s
      cases ts with
      | nil => cases hend
      | cons word ts => exact ⟨List.suffix_cons word ts, rfl⟩
  · apply h 0 s hs
  · apply h 0 s hs
  · exact ⟨List.suffix_rfl, Nat.le_succ _, by rintro ⟨⟩⟩

theorem conditional_proceeds (head : AtomKind) :
  Proceeds n (conditional expression head)
  := by
  apply (h 0).bind
  intro condition
  apply (expect_proceeds (by decide)).bind
  intro word
  apply (block_proceeds h).bind
  intro branch
  apply (alternative_proceeds h head).bind
  intro otherwise
  apply (report_proceeds _).bind
  intro _
  apply nodeOf_proceeds

theorem startRule_proceeds (token : Token) :
  Proceeds n (startRule expression token)
  := by
  have hleaf : Proceeds n (do return .atom (← atomOf token) : ParseM Tree) := by
    apply (atomOf_proceeds token).bind
    intro atom
    apply Proceeds.pure
  unfold startRule
  -- the four literals, then parentheses, the signs, the words, and no rule
  split
  iterate 4 apply hleaf
  · apply (h 0).bind
    intro inner
    apply (expect_proceeds (by decide)).bind
    intro close
    apply Proceeds.pure
  · apply h
  · apply (h _).bind
    intro operand
    apply nodeOf_proceeds
  · apply conditional_proceeds h
  · apply conditional_proceeds h
  · apply (block_proceeds h).bind
    intro branch
    apply (expect_proceeds (by decide)).bind
    intro close
    apply Proceeds.pure
  · exact Proceeds.throw nofun
  · exact Proceeds.throw nofun

theorem continueRule_proceeds (left : Tree) (token : Token) :
  Proceeds n (continueRule expression left token)
  := by
  have hoperation : ∀ bound, Proceeds n (do
      let right ← expression bound
      nodeOf (← atomOf token) [left, right]) := by
    intro bound
    apply (h bound).bind
    intro right
    apply (atomOf_proceeds token).bind
    intro op
    apply nodeOf_proceeds
  unfold continueRule
  split
  · apply hoperation
  · split
    · apply hoperation
    · exact Proceeds.throw nofun

/-- The end of the input does not continue an expression. -/
theorem continuation_proceeds (bound : Int) (fuel : Nat) (left : Tree) :
  Proceeds n (continuation expression bound fuel left)
  := by
  induction fuel generalizing left with
  | zero => apply Proceeds.pure
  | succ fuel ih =>
      apply peek_proceeds.bind
      intro token
      split
      · apply Proceeds.mono (Nat.le_succ n)
        apply next_proceeds (e := .cannotContinue Token.finish) _ rfl nofun
        intro token
        apply (continueRule_proceeds h left token).bind
        intro longer
        apply ih
      · apply Proceeds.pure

/-- The end of the input does not start an expression. -/
theorem expressionRule_proceeds (bound : Int) :
  Proceeds (n + 1) (expressionRule expression bound)
  := by
  apply next_proceeds (e := .unexpectedEnd) _ rfl nofun
  intro token
  apply (startRule_proceeds h token).bind
  intro left
  apply remaining_proceeds.bind
  intro count
  apply continuation_proceeds h

end Rules

end Proceeds

/-- Reading an expression does not run out of a depth that is greater than the number of tokens. -/
theorem parseAt_proceeds (depth : Nat) (bound : Int) :
  Proceeds depth (parseAt depth bound)
  := by
  induction depth generalizing bound with
  | zero => exact fun s hs => absurd hs (Nat.not_lt_zero _)
  | succ depth ih => apply expressionRule_proceeds ih

theorem parseBlock_proceeds (depth : Nat) :
  Proceeds depth (parseBlock depth)
  := block_proceeds (parseAt_proceeds depth)

theorem parseProgram_proceeds (depth : Nat) :
  Proceeds depth (parseProgram depth)
  := by
  apply (parseBlock_proceeds depth).bind
  intro tree
  apply peek_proceeds.bind
  intro token
  split
  · apply (report_proceeds _).bind
    intro _
    apply Proceeds.pure
  · exact Proceeds.throw nofun

/-! ### Fuel -/

/-- Reading does not bring tokens back. -/
theorem steady_length_le (n : Nat) :
  Steady (fun s : Stream => s.rest.length ≤ n)
  where
  next := by
    rintro ⟨ts, overrun, log⟩ hs
    cases ts with
    | nil => exact ⟨hs, trivial⟩
    | cons token ts => exact ⟨Nat.le_of_succ_le hs, trivial⟩
  conditionalParsed _ _ := fun _ hs => ⟨hs, trivial⟩
  programParsed _ := fun _ hs => ⟨hs, trivial⟩

/-- An expression that is read takes a token. -/
theorem length_lt_of_parseAt
    {depth : Nat} {bound : Int} {s s' : Stream} {tree : Tree}
    (h : (parseAt depth bound).run s = .ok tree s') :
  s'.rest.length < s.rest.length
  := reads_shortens depth ((parseAt_realizes depth bound).sound h).1

/-- Continuing an expression gives the same with any fuel beyond the number of tokens, since each
step takes the operator. -/
theorem continuation_run_eq
    (depth : Nat) (bound : Int) {fuel fuel' : Nat} {s : Stream} (hfuel : s.rest.length < fuel)
    (hfuel' : s.rest.length < fuel') (left : Tree) :
  (continuation (parseAt depth) bound fuel left).run s =
    (continuation (parseAt depth) bound fuel' left).run s
  := by
  induction fuel generalizing fuel' left s with
  | zero => exact absurd hfuel (Nat.not_lt_zero _)
  | succ fuel ih =>
      obtain ⟨fuel', rfl⟩ := Nat.exists_eq_succ_of_ne_zero (Nat.ne_zero_of_lt hfuel')
      rw [continuation, continuation, run_bind_of_ok (run_peek s), run_bind_of_ok (run_peek s)]
      split
      · obtain ⟨ts, overrun, log⟩ := s
        cases ts with
        | nil => rfl
        | cons token ts =>
            have hnext : next.run ⟨token :: ts, overrun, log⟩ = .ok token ⟨ts, overrun, log⟩ := rfl
            rw [run_bind_of_ok hnext, run_bind_of_ok hnext]
            have hkeeps := continueRule_keeps ((steady_length_le ts.length).parseAt depth) left token
            cases hrule : (continueRule (parseAt depth) left token).run ⟨ts, overrun, log⟩ with
            | error e mid => rw [run_bind_of_error hrule, run_bind_of_error hrule]
            | ok longer mid =>
                have hmid := (hkeeps.of_ok (Nat.le_refl _) hrule).1
                rw [List.length_cons] at hfuel hfuel'
                rw [run_bind_of_ok hrule, run_bind_of_ok hrule]
                apply ih (by omega) (by omega)
      · rfl

/-- Reading the expressions of a block gives the same with any fuel beyond the number of tokens,
since each step takes an expression. -/
theorem expressions_run_eq
    (depth : Nat) {fuel fuel' : Nat} {s : Stream} (hfuel : s.rest.length < fuel)
    (hfuel' : s.rest.length < fuel') (done : List Tree) :
  (expressions (parseAt depth) fuel done).run s = (expressions (parseAt depth) fuel' done).run s
  := by
  induction fuel generalizing fuel' done s with
  | zero => exact absurd hfuel (Nat.not_lt_zero _)
  | succ fuel ih =>
      obtain ⟨fuel', rfl⟩ := Nat.exists_eq_succ_of_ne_zero (Nat.ne_zero_of_lt hfuel')
      rw [expressions, expressions, run_bind_of_ok (run_peek s), run_bind_of_ok (run_peek s)]
      split
      · rfl
      · cases hfirst : (parseAt depth 0).run s with
        | error e mid => rw [run_bind_of_error hfirst, run_bind_of_error hfirst]
        | ok tree mid =>
            have hmid := length_lt_of_parseAt hfirst
            rw [run_bind_of_ok hfirst, run_bind_of_ok hfirst]
            apply ih (by omega) (by omega)

/-! ### Advancing -/

/-- An expression that is read ends before a token that binds no tighter than the bound, and so the
bound is not negative. -/
theorem parseAt_ok
    {depth : Nat} {bound : Int} {s s' : Stream} {tree : Tree}
    (h : (parseAt depth bound).run s = .ok tree s') :
  0 ≤ bound ∧ (upcoming s'.rest).precedence ≤ bound
  := by
  have hupcoming := reads_upcoming_le ((parseAt_realizes depth bound).sound h).1
  exact ⟨Int.le_trans (precedence_nonneg _) hupcoming, hupcoming⟩

/-- Reading on does not give back what has been read: neither the tokens nor the end of the input. -/
theorem steady_advance (n overrun : Nat) :
  Steady (fun s : Stream => s.rest.length + overrun ≤ n + s.overrun)
  where
  next := by
    rintro ⟨ts, overrun', log⟩ (hs : ts.length + overrun ≤ n + overrun')
    cases ts with
    | nil => exact ⟨Nat.le_succ_of_le hs, trivial⟩
    | cons token ts =>
        have hts : ts.length + overrun ≤ n + overrun' := by
          rw [List.length_cons] at hs
          omega
        exact ⟨hts, trivial⟩
  conditionalParsed _ _ := fun _ hs => ⟨hs, trivial⟩
  programParsed _ := fun _ hs => ⟨hs, trivial⟩

/-- Reading an expression takes a token, or else reads the end of the input, also where it stops
with an error. -/
theorem parseAt_advances
    {depth : Nat} {bound : Int} {s s' : Stream} {e : ParseError}
    (h : (parseAt (depth + 1) bound).run s = .error e s') :
  s'.rest.length + s.overrun < s.rest.length + s'.overrun
  := by
  obtain ⟨ts, overrun, log⟩ := s
  cases ts with
  | nil =>
      cases h
      apply Nat.add_lt_add_left (Nat.lt_succ_self overrun)
  | cons token ts =>
      -- after the first token nothing is given back
      have hsteady := steady_advance ts.length overrun
      have hkeeps : Keeps (fun s : Stream => s.rest.length + overrun ≤ ts.length + s.overrun) (do
          let left ← startRule (parseAt depth) token
          continuation (parseAt depth) bound ((← remaining) + 1) left) := by
        apply (hsteady.startRule (hsteady.parseAt depth) token).bind
        intro left
        apply remaining_keeps.bind
        intro count
        apply hsteady.continuation (hsteady.parseAt depth)
      have hafter := (hkeeps.of_error (s := ⟨ts, overrun, log⟩) (Nat.le_refl _) h).1
      rw [List.length_cons, Nat.succ_add]
      apply Nat.lt_succ_of_le hafter

/-! ### Reports -/

/-- Whether a reader stops with reports only, and keeps the tokens typed. -/
abbrev StopsByReport {α : Type} (x : ParseM α) (Q : α → Prop) : Prop :=
  Respects Stream.IsTyped ParseError.IsReport x Q

theorem StopsBySyntax.report {α : Type} {x : ParseM α} {Q : α → Prop} (h : StopsBySyntax x Q) :
  StopsByReport x Q
  := by
  intro s hs
  have houtcome := h s hs
  split at houtcome
  · exact houtcome
  · exact ⟨houtcome.1, houtcome.2.isReport⟩

/-- With any bound, a token that is no operator is reported. -/
theorem continuation_reports (depth : Nat) (bound : Int) (fuel : Nat) {left : Tree}
    (hleft : IsOperand left) :
  StopsByReport (continuation (parseAt depth) bound fuel left) IsOperand
  := by
  induction fuel generalizing left with
  | zero => apply Respects.pure hleft
  | succ fuel ih =>
      have hpeek : StopsByReport peek (fun _ => True) := fun s hs => ⟨hs, trivial⟩
      apply hpeek.bind
      intro token _
      split
      · apply next_respects.report.bind
        intro token _
        by_cases hoperator : isOperator token.kind = true
        · have hlonger := continueRule_respects (fun _ => parseAt_respects depth) hleft hoperator
          apply hlonger.report.bind
          intro longer hlonger
          apply ih hlonger
        · rw [continueRule_of_not_isOperator hoperator]
          apply Respects.throw trivial
      · apply Respects.pure hleft

/-- On typed tokens, reading an expression stops with reports only, whatever the bound. -/
theorem parseAt_reports (depth : Nat) (bound : Int) :
  StopsByReport (parseAt depth bound) IsOperand
  := by
  cases depth with
  | zero => apply Respects.throw trivial
  | succ depth =>
      have hremaining : StopsByReport remaining (fun _ => True) := fun s hs => ⟨hs, trivial⟩
      apply next_respects.report.bind
      intro token htoken
      apply (startRule_respects (fun _ => parseAt_respects depth) htoken).report.bind
      intro left hleft
      apply hremaining.bind
      intro count _
      apply continuation_reports depth bound _ hleft

end Parser

end ExprScript
