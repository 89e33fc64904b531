import ExprScript.Proofs.Grammar.Reading
import ExprScript.Proofs.Outcome
import ExprScript.Proofs.Tree.Shape

/-!
# The parser realizes its readings

A reader realizes a reading when it gives a result exactly where the reading relates, and
then leaves the overrun as it is, whatever has been reported before.  Every rule of the parser
realizes its reading, provided the reader of expressions does, and so `parseAt depth bound`
realizes `Reads depth bound` (`parseAt_realizes`).  What the parser accepts, and as which
tree, is thus settled by the readings.
-/

namespace ExprScript.Parser

/-- The reader gives a result exactly where the reading relates, and leaves the overrun as it
is. -/
structure Realizes {α : Type} (reader : ParseM α) (R : Reading α) : Prop where
  sound : ∀ {s s' : Stream} {a : α}, reader.run s = .ok a s' →
    R s.rest a s'.rest ∧ s'.overrun = s.overrun
  complete : ∀ {ts rest : List Token} {a : α}, R ts a rest → ∀ overrun log,
    ∃ log', reader.run ⟨ts, overrun, log⟩ = .ok a ⟨rest, overrun, log'⟩

/-- A reader that gives its result without reading realizes the reading that relates every
list with itself. -/
theorem pure_realizes {α : Type} (a : α) :
  Realizes (pure a) (fun ts b rest => b = a ∧ rest = ts)
  := by
  constructor
  · rintro s _ _ ⟨⟩
    exact ⟨⟨rfl, rfl⟩, rfl⟩
  · rintro ts _ _ ⟨rfl, rfl⟩ overrun log
    exact ⟨log, rfl⟩

/-- If `x` realizes `R` and every `f a` realizes `S a`, then `x` followed by `f` realizes `R`
followed by `S`. -/
theorem Realizes.bind
    {α β : Type} {x : ParseM α} {f : α → ParseM β} {R : Reading α} {S : α → Reading β}
    (hx : Realizes x R) (hf : ∀ a, Realizes (f a) (S a)) :
  Realizes (x >>= f) (fun ts b rest => ∃ a mid, R ts a mid ∧ S a mid b rest)
  := by
  constructor
  · intro s s' b h
    obtain ⟨a, mid, hxs, hfs⟩ := bind_eq_ok_iff.mp h
    obtain ⟨hR, hmid⟩ := hx.sound hxs
    obtain ⟨hS, hs'⟩ := (hf a).sound hfs
    exact ⟨⟨a, mid.rest, hR, hS⟩, hs'.trans hmid⟩
  · rintro ts rest b ⟨a, mid, hR, hS⟩ overrun log
    obtain ⟨log₁, hxs⟩ := hx.complete hR overrun log
    obtain ⟨log₂, hfs⟩ := (hf a).complete hS overrun log₁
    exact ⟨log₂, bind_eq_ok_iff.mpr ⟨a, _, hxs, hfs⟩⟩

/-- A reader realizes every reading equivalent to one that it realizes. -/
theorem Realizes.congr
    {α : Type} {x : ParseM α} {R S : Reading α} (hx : Realizes x R)
    (h : ∀ ts a rest, R ts a rest ↔ S ts a rest) :
  Realizes x S
  := by
  constructor
  · intro s s' a hs
    obtain ⟨hR, ho⟩ := hx.sound hs
    exact ⟨(h _ _ _).mp hR, ho⟩
  · intro ts rest a hS
    apply hx.complete ((h _ _ _).mpr hS)

theorem throw_realizes {α : Type} (e : ParseError) :
  Realizes (throw e : ParseM α) (fun _ _ _ => False)
  := by
  constructor
  · rintro s s' a ⟨⟩
  · rintro ts rest a ⟨⟩

theorem run_peek (s : Stream) :
  peek.run s = .ok (upcoming s.rest) s
  := rfl

theorem report_realizes (event : Event) :
  Realizes (report event) (fun ts _ rest => rest = ts)
  := by
  constructor
  · rintro s _ _ ⟨⟩
    exact ⟨rfl, rfl⟩
  · rintro ts _ ⟨⟩ rfl overrun log
    exact ⟨_, rfl⟩

/-- Expecting a kind reads one token of that kind.  The end of the input is of another kind,
so the overrun does not change. -/
theorem expect_realizes {kind : TokenKind} (hkind : kind ≠ .finish) :
  Realizes (expect kind) (fun ts token rest => ts = token :: rest ∧ token.kind = kind)
  := by
  constructor
  · intro s s' token h
    obtain ⟨found, mid, hnext, hrest⟩ := bind_eq_ok_iff.mp h
    obtain ⟨ts, overrun, log⟩ := s
    cases ts with
    | nil =>
        cases hnext
        have hfinish : Token.finish.kind ≠ kind := Ne.symm hkind
        rw [if_neg hfinish] at hrest
        cases hrest
    | cons first ts =>
        cases hnext
        by_cases hfound : found.kind = kind
        · rw [if_pos hfound] at hrest
          cases hrest
          exact ⟨⟨rfl, hfound⟩, rfl⟩
        · rw [if_neg hfound] at hrest
          cases hrest
  · rintro _ rest token ⟨rfl, htoken⟩ overrun log
    use log
    apply bind_eq_ok_iff.mpr
    use token, ⟨rest, overrun, log⟩, rfl
    rw [if_pos htoken]
    rfl

/-! ### The rules -/

/-- The tail of a node has no fault exactly when it has operands only. -/
theorem tailFault?_eq_none_iff (tail : List Tree) :
  Tree.tailFault? tail = none ↔ ∀ tree ∈ tail, IsOperand tree
  := by
  induction tail with
  | nil => simp [Tree.tailFault?]
  | cons tree tail ih =>
      rw [List.forall_mem_cons, ← ih]
      cases tree with
      | node head ts => simp [IsOperand, Tree.tailFault?]
      | atom a => by_cases ha : a.kind.isLeaf = true <;> simp [IsOperand, Tree.tailFault?, ha]

/-- Building a node gives it exactly when its head is an operation and its tail has operands
only. -/
theorem nodeOf_realizes (head : Atom) (hhead : head.kind.isLeaf = false) (tail : List Tree) :
  Realizes (nodeOf head tail)
    (fun ts tree rest => (∀ t ∈ tail, IsOperand t) ∧ tree = .node head tail ∧ rest = ts)
  := by
  have hfault : Tree.headFault? (.atom head) = none := by simp [Tree.headFault?, hhead]
  by_cases htail : ∀ t ∈ tail, IsOperand t
  · have hbuild : nodeOf head tail = pure (.node head tail) := by
      simp [nodeOf, Tree.build, hfault, (tailFault?_eq_none_iff tail).mpr htail]
    rw [hbuild]
    apply (pure_realizes _).congr
    intro ts tree rest
    exact ⟨fun h => ⟨htail, h⟩, fun h => h.2⟩
  · obtain ⟨fault, hfault'⟩ := Option.ne_none_iff_exists'.mp
      (mt (tailFault?_eq_none_iff tail).mp htail)
    have hbuild : nodeOf head tail = throw (.invalidNode [fault]) := by
      simp [nodeOf, Tree.build, hfault, hfault']
    rw [hbuild]
    apply (throw_realizes _).congr
    intro ts tree rest
    exact ⟨False.elim, fun h => htail h.1⟩

theorem atomOf_realizes (token : Token) :
  Realizes (atomOf token) (fun ts atom rest => token.toAtom = .ok atom ∧ rest = ts)
  := by
  unfold atomOf
  cases htoken : token.toAtom with
  | ok atom =>
      apply (pure_realizes atom).congr
      intro ts a rest
      rw [Except.ok.injEq, eq_comm]
  | error e =>
      apply (throw_realizes _).congr
      intro ts a rest
      simp

/-- The atom of an operator is an operation on two operands, and it carries nothing. -/
theorem toAtom_of_isOperator {token : Token} (h : isOperator token.kind = true) :
  ∃ kind, token.toAtom = .ok (.ofKind kind) ∧ kind.takes 2 = true
  := by
  obtain ⟨kind, payload⟩ := token
  cases kind with
  | plus | minus | times | divide | power | equal | notEqual | greater | less | assign =>
      exact ⟨_, rfl, rfl⟩
  | _ => cases h

section Rules

variable {expression : Int → ParseM Tree} {E : Int → Reading Tree}
  (hrealizes : ∀ bound, Realizes (expression bound) (E bound))
include hrealizes

/-- Reading the expressions of a block with enough fuel, after those in `done`, gives the
expressions of a block reading after those in `done`. -/
theorem expressions_sound
    (hshort : Shortens E) {fuel : Nat} {done trees : List Tree} {s s' : Stream}
    (hfuel : s.rest.length < fuel)
    (h : (expressions expression fuel done).run s = .ok trees s') :
  (∃ more, trees = done.reverse ++ more ∧ BlockReading E s.rest more s'.rest) ∧
    s'.overrun = s.overrun
  := by
  induction fuel generalizing done s with
  | zero => omega
  | succ fuel ih =>
      rw [expressions, run_bind_of_ok (run_peek s)] at h
      by_cases hclose : closesBlock (upcoming s.rest).kind = true
      · rw [if_pos hclose] at h
        cases h
        exact ⟨⟨[], by simp, .close hclose⟩, rfl⟩
      · rw [if_neg hclose] at h
        obtain ⟨tree, mid, hfirst, hmore⟩ := bind_eq_ok_iff.mp h
        obtain ⟨hE, hmid⟩ := (hrealizes 0).sound hfirst
        have hlength := hshort hE
        obtain ⟨⟨more, rfl, hblock⟩, hs'⟩ := ih (by omega) hmore
        constructor
        · use tree :: more
          constructor
          · simp
          · apply BlockReading.more (by simpa using hclose) hE hblock
        · rw [hs', hmid]

/-- A block reading is carried out by reading expressions with enough fuel. -/
theorem expressions_complete
    (hshort : Shortens E) {ts rest : List Token} {more : List Tree}
    (h : BlockReading E ts more rest) {fuel : Nat} (hfuel : ts.length < fuel)
    (done : List Tree) (overrun : Nat) (log : Array Event) :
  ∃ log', (expressions expression fuel done).run ⟨ts, overrun, log⟩
    = .ok (done.reverse ++ more) ⟨rest, overrun, log'⟩
  := by
  induction h generalizing fuel done log with
  | @close ts hclose =>
      obtain ⟨fuel, rfl⟩ := Nat.exists_eq_succ_of_ne_zero (Nat.ne_zero_of_lt hfuel)
      use log
      apply bind_eq_ok_iff.mpr
      use upcoming ts, ⟨ts, overrun, log⟩, rfl
      rw [if_pos hclose, List.append_nil]
      rfl
  | @more ts mid rest tree trees hopen hfirst _ ih =>
      obtain ⟨fuel, rfl⟩ := Nat.exists_eq_succ_of_ne_zero (Nat.ne_zero_of_lt hfuel)
      have hlength := hshort hfirst
      obtain ⟨log₁, htree⟩ := (hrealizes 0).complete hfirst overrun log
      have hfuel' : mid.length < fuel := by omega
      obtain ⟨log₂, htrees⟩ := ih hfuel' (tree :: done) log₁
      use log₂
      apply bind_eq_ok_iff.mpr
      use upcoming ts, ⟨ts, overrun, log⟩, rfl
      rw [if_neg (by simp [hopen])]
      apply bind_eq_ok_iff.mpr
      use tree, ⟨mid, overrun, log₁⟩, htree
      simpa using htrees

/-- Reading a block realizes the block reading. -/
theorem block_realizes (hshort : Shortens E) (hoperands : GivesOperands E) :
  Realizes (block expression)
    (fun ts tree rest => ∃ trees, BlockReading E ts trees rest ∧
      tree = .node (.ofKind .block) trees)
  := by
  have hexpressions : Realizes (do expressions expression ((← remaining) + 1) [])
      (BlockReading E) := by
    constructor
    · intro s s' trees h
      obtain ⟨_, _, ⟨⟩, hrest⟩ := bind_eq_ok_iff.mp h
      obtain ⟨⟨more, rfl, hblock⟩, ho⟩ :=
        expressions_sound hrealizes hshort (Nat.lt_succ_self _) hrest
      exact ⟨hblock, ho⟩
    · intro ts rest trees h overrun log
      obtain ⟨log', hrun⟩ := expressions_complete hrealizes hshort h
        (Nat.lt_succ_self _) [] overrun log
      use log'
      apply bind_eq_ok_iff.mpr
      exact ⟨_, _, rfl, hrun⟩
  apply (hexpressions.bind (nodeOf_realizes (.ofKind .block) rfl)).congr
  intro ts tree rest
  constructor
  · rintro ⟨trees, mid, hblock, -, rfl, rfl⟩
    exact ⟨trees, hblock, rfl⟩
  · rintro ⟨trees, hblock, rfl⟩
    exact ⟨trees, rest, hblock, hblock.isOperand hoperands, rfl, rfl⟩

theorem alternative_realizes (head : AtomKind) :
  Realizes (alternative expression head) (AlternativeReading E)
  := by
  constructor
  · intro s s' tree h
    rw [alternative, run_bind_of_ok (run_peek s)] at h
    split at h
    · next hend =>
        obtain ⟨ts, overrun, log⟩ := s
        cases ts with
        | nil => cases hend
        | cons word ts =>
            cases h
            exact ⟨.close hend, rfl⟩
    · next helse =>
        obtain ⟨hE, ho⟩ := (hrealizes 0).sound h
        exact ⟨.other (.inl helse) hE, ho⟩
    · next helseif =>
        obtain ⟨hE, ho⟩ := (hrealizes 0).sound h
        exact ⟨.other (.inr helseif) hE, ho⟩
    · cases h
  · intro ts rest tree h overrun log
    cases h with
    | @close word _ hend =>
        use log
        apply bind_eq_ok_iff.mpr
        use word, ⟨word :: rest, overrun, log⟩, rfl
        rw [hend]
        rfl
    | other hword hother =>
        obtain ⟨log', hrun⟩ := (hrealizes 0).complete hother overrun log
        use log'
        apply bind_eq_ok_iff.mpr
        use upcoming ts, ⟨ts, overrun, log⟩, rfl
        rcases hword with hword | hword
        · rw [hword]
          apply hrun
        · rw [hword]
          apply hrun

/-- Reading a conditional after its first word realizes the conditional reading. -/
theorem conditional_realizes
    (hshort : Shortens E) (hoperands : GivesOperands E) {head : AtomKind}
    (hhead : head.isLeaf = false) :
  Realizes (conditional expression head) (ConditionalReading E head)
  := by
  have hthen : Realizes (expect .thenWord) _ := expect_realizes (by decide)
  have hblock := block_realizes hrealizes hshort hoperands
  have halternative := alternative_realizes hrealizes head
  have hnode := nodeOf_realizes (.ofKind head) hhead
  apply ((hrealizes 0).bind fun condition => hthen.bind fun _ => hblock.bind fun branch =>
    halternative.bind fun otherwise => (report_realizes _).bind fun _ => hnode _).congr
  intro ts tree rest
  constructor
  · rintro ⟨condition, _, hcondition, word, mid, ⟨rfl, hword⟩, _, after, ⟨trees, htrees, rfl⟩,
      otherwise, _, hotherwise, _, _, rfl, -, rfl, rfl⟩
    apply ConditionalReading.intro hcondition hword htrees hotherwise
  · rintro ⟨hcondition, hword, htrees, hotherwise⟩
    refine ⟨_, _, hcondition, _, _, ⟨rfl, hword⟩, _, _, ⟨_, htrees, rfl⟩, _, _, hotherwise,
      ⟨⟩, _, rfl, ?_, rfl, rfl⟩
    simp only [List.forall_mem_cons, List.not_mem_nil, false_implies, implies_true, and_true]
    exact ⟨hoperands hcondition, isOperand_node _ _, hotherwise.isOperand hoperands⟩

omit hrealizes in
/-- Starting an expression with a literal realizes the start reading. -/
theorem startRule_realizes_leaf
    {token : Token}
    (hkind : token.kind = .number ∨ token.kind = .symbol ∨ token.kind = .truth ∨
      token.kind = .falsity) :
  Realizes (startRule expression token) (StartReading E token)
  := by
  have hrule : startRule expression token = (do return .atom (← atomOf token)) := by
    unfold startRule
    rcases hkind with h | h | h | h <;> rw [h]
  rw [hrule]
  apply ((atomOf_realizes token).bind fun atom => pure_realizes (Tree.atom atom)).congr
  intro ts tree rest
  constructor
  · rintro ⟨atom, _, ⟨hatom, rfl⟩, rfl, rfl⟩
    apply StartReading.leaf hkind hatom
  · intro h
    cases h <;> simp_all

theorem startRule_realizes_parentheses {token : Token} (hkind : token.kind = .openParen) :
  Realizes (startRule expression token) (StartReading E token)
  := by
  have hparen : Realizes (expect .closeParen) _ := expect_realizes (by decide)
  unfold startRule
  rw [hkind]
  apply ((hrealizes 0).bind fun inner => hparen.bind fun _ => pure_realizes inner).congr
  intro ts tree rest
  constructor
  · rintro ⟨inner, _, hinner, close, mid, ⟨rfl, hclose⟩, rfl, rfl⟩
    apply StartReading.parentheses hkind hinner hclose
  · intro h
    cases h with
    | parentheses _ hinner hclose => exact ⟨_, _, hinner, _, _, ⟨rfl, hclose⟩, rfl, rfl⟩
    | _ => simp_all

theorem startRule_realizes_plus {token : Token} (hkind : token.kind = .plus) :
  Realizes (startRule expression token) (StartReading E token)
  := by
  unfold startRule
  rw [hkind]
  apply (hrealizes _).congr
  intro ts tree rest
  rw [Token.precedence, hkind]
  constructor
  · intro h
    apply StartReading.plus hkind h
  · intro h
    cases h with
    | plus _ hoperand => apply hoperand
    | _ => simp_all

theorem startRule_realizes_minus (hoperands : GivesOperands E) {token : Token}
    (hkind : token.kind = .minus) :
  Realizes (startRule expression token) (StartReading E token)
  := by
  unfold startRule
  rw [hkind]
  apply ((hrealizes _).bind fun operand =>
    nodeOf_realizes (.ofKind .negate) rfl [operand]).congr
  intro ts tree rest
  rw [Token.precedence, hkind]
  constructor
  · rintro ⟨operand, mid, hoperand, -, rfl, rfl⟩
    apply StartReading.minus hkind hoperand
  · intro h
    cases h with
    | minus _ hoperand => exact ⟨_, _, hoperand, by simpa using hoperands hoperand, rfl, rfl⟩
    | _ => simp_all

theorem startRule_realizes_conditional
    (hshort : Shortens E) (hoperands : GivesOperands E) {token : Token}
    (hkind : token.kind = .ifWord ∨ token.kind = .elseifWord) :
  Realizes (startRule expression token) (StartReading E token)
  := by
  unfold startRule
  rcases hkind with hkind | hkind
  · rw [hkind]
    apply (conditional_realizes hrealizes hshort hoperands rfl).congr
    intro ts tree rest
    constructor
    · intro h
      apply StartReading.conditional hkind h
    · intro h
      cases h with
      | conditional _ hconditional => apply hconditional
      | _ => simp_all
  · rw [hkind]
    apply (conditional_realizes hrealizes hshort hoperands rfl).congr
    intro ts tree rest
    constructor
    · intro h
      apply StartReading.orConditional hkind h
    · intro h
      cases h with
      | orConditional _ hconditional => apply hconditional
      | _ => simp_all

theorem startRule_realizes_otherwise
    (hshort : Shortens E) (hoperands : GivesOperands E) {token : Token}
    (hkind : token.kind = .elseWord) :
  Realizes (startRule expression token) (StartReading E token)
  := by
  have hword : Realizes (expect .endWord) _ := expect_realizes (by decide)
  have hblock := block_realizes hrealizes hshort hoperands
  unfold startRule
  rw [hkind]
  apply (hblock.bind fun branch => hword.bind fun _ => pure_realizes branch).congr
  intro ts tree rest
  constructor
  · rintro ⟨_, _, ⟨trees, htrees, rfl⟩, close, mid, ⟨rfl, hclose⟩, rfl, rfl⟩
    apply StartReading.otherwise hkind htrees hclose
  · intro h
    cases h with
    | otherwise _ htrees hclose =>
        exact ⟨_, _, ⟨_, htrees, rfl⟩, _, _, ⟨rfl, hclose⟩, rfl, rfl⟩
    | _ => simp_all

/-- Starting an expression realizes the start reading.  The kinds without a rule, among them
the end of the input, start none. -/
theorem startRule_realizes
    (hshort : Shortens E) (hoperands : GivesOperands E) (token : Token) :
  Realizes (startRule expression token) (StartReading E token)
  := by
  cases hkind : token.kind with
  | number => apply startRule_realizes_leaf (.inl hkind)
  | symbol => apply startRule_realizes_leaf (.inr (.inl hkind))
  | truth => apply startRule_realizes_leaf (.inr (.inr (.inl hkind)))
  | falsity => apply startRule_realizes_leaf (.inr (.inr (.inr hkind)))
  | openParen => apply startRule_realizes_parentheses hrealizes hkind
  | plus => apply startRule_realizes_plus hrealizes hkind
  | minus => apply startRule_realizes_minus hrealizes hoperands hkind
  | ifWord => apply startRule_realizes_conditional hrealizes hshort hoperands (.inl hkind)
  | elseifWord => apply startRule_realizes_conditional hrealizes hshort hoperands (.inr hkind)
  | elseWord => apply startRule_realizes_otherwise hrealizes hshort hoperands hkind
  | _ =>
      unfold startRule
      rw [hkind]
      apply (throw_realizes _).congr
      intro ts tree rest
      rw [false_iff]
      intro h
      cases h <;> simp_all

omit hrealizes in
theorem continueRule_eq {token : Token} (h : isOperator token.kind = true) (left : Tree) :
  continueRule expression left token = (do
    let right ← expression (rightBound token.kind)
    nodeOf (← atomOf token) [left, right])
  := by
  unfold continueRule rightBound Token.precedence
  by_cases hpower : token.kind = .power
  · rw [hpower]
    rfl
  · have hleft : groupsLeft token.kind = true := by simpa [isOperator, hpower] using h
    rw [if_pos hleft, if_neg hpower]

omit hrealizes in
theorem continueRule_of_not_isOperator {token : Token} (h : ¬ isOperator token.kind = true)
    (left : Tree) :
  continueRule expression left token = throw (.cannotContinue token)
  := by
  have hkind : groupsLeft token.kind = false ∧ token.kind ≠ .power := by simpa [isOperator] using h
  unfold continueRule
  rw [hkind.1, if_neg Bool.false_ne_true, if_neg hkind.2]

/-- Continuing a left operand by an operator reads the right operand. -/
theorem continueRule_realizes
    (hoperands : GivesOperands E) {left : Tree} (hleft : IsOperand left) (token : Token) :
  Realizes (continueRule expression left token)
    (fun ts tree rest => isOperator token.kind = true ∧ ∃ op right,
      token.toAtom = .ok op ∧ E (rightBound token.kind) ts right rest ∧
        tree = .node op [left, right])
  := by
  by_cases hoperator : isOperator token.kind = true
  · obtain ⟨kind, hatom, hkind⟩ := toAtom_of_isOperator hoperator
    have hop : atomOf token = pure (.ofKind kind) := by rw [atomOf, hatom]
    rw [continueRule_eq hoperator, hop]
    simp only [pure_bind]
    apply ((hrealizes _).bind fun right =>
      nodeOf_realizes (.ofKind kind) (AtomKind.isLeaf_of_takes hkind) [left, right]).congr
    intro ts tree rest
    constructor
    · rintro ⟨right, _, hright, -, rfl, rfl⟩
      exact ⟨hoperator, _, _, hatom, hright, rfl⟩
    · rintro ⟨-, op, right, hop, hright, rfl⟩
      rw [hatom] at hop
      cases hop
      refine ⟨_, _, hright, ?_, rfl, rfl⟩
      simp only [List.forall_mem_cons, List.not_mem_nil, false_implies, implies_true, and_true]
      exact ⟨hleft, hoperands hright⟩
  · rw [continueRule_of_not_isOperator hoperator]
    apply (throw_realizes _).congr
    intro ts tree rest
    simp [hoperator]

/-- Continuing an expression with enough fuel realizes the continuation reading. -/
theorem continuation_sound
    (hshort : Shortens E) (hoperands : GivesOperands E) {bound : Int} {fuel : Nat}
    {left tree : Tree} {s s' : Stream} (hleft : IsOperand left) (hfuel : s.rest.length < fuel)
    (h : (continuation expression bound fuel left).run s = .ok tree s') :
  ContinuationReading E bound left s.rest tree s'.rest ∧ s'.overrun = s.overrun
  := by
  induction fuel generalizing left s with
  | zero => omega
  | succ fuel ih =>
      rw [continuation, run_bind_of_ok (run_peek s)] at h
      by_cases hstop : (upcoming s.rest).precedence ≤ bound
      · rw [if_neg (Int.not_lt.mpr hstop)] at h
        cases h
        exact ⟨.stop hstop, rfl⟩
      · rw [if_pos (Int.not_le.mp hstop)] at h
        obtain ⟨token, after, hnext, hrest⟩ := bind_eq_ok_iff.mp h
        obtain ⟨longer, mid, hlonger, hmore⟩ := bind_eq_ok_iff.mp hrest
        obtain ⟨⟨hoperator, op, right, hop, hright, rfl⟩, hmid⟩ :=
          (continueRule_realizes hrealizes hoperands hleft token).sound hlonger
        obtain ⟨ts, overrun, log⟩ := s
        cases ts with
        | nil =>
            -- the end of the input is no operator
            cases hnext
            cases hoperator
        | cons first ts =>
            cases hnext
            have hlength : mid.rest.length < ts.length := hshort hright
            have hfuel' : ts.length + 1 < fuel + 1 := hfuel
            obtain ⟨hcontinuation, hs'⟩ := ih (isOperand_node _ _) (by omega) hmore
            exact ⟨.step (Int.not_le.mp hstop) hoperator hop hright hcontinuation,
              hs'.trans hmid⟩

/-- A continuation reading is carried out by continuing with enough fuel. -/
theorem continuation_complete
    (hshort : Shortens E) (hoperands : GivesOperands E) {bound : Int} {left tree : Tree}
    {ts rest : List Token} (h : ContinuationReading E bound left ts tree rest)
    (hleft : IsOperand left) {fuel : Nat} (hfuel : ts.length < fuel) (overrun : Nat)
    (log : Array Event) :
  ∃ log', (continuation expression bound fuel left).run ⟨ts, overrun, log⟩
    = .ok tree ⟨rest, overrun, log'⟩
  := by
  induction h generalizing fuel log with
  | @stop left ts hstop =>
      obtain ⟨fuel, rfl⟩ := Nat.exists_eq_succ_of_ne_zero (Nat.ne_zero_of_lt hfuel)
      use log
      apply bind_eq_ok_iff.mpr
      use upcoming ts, ⟨ts, overrun, log⟩, rfl
      rw [if_neg (Int.not_lt.mpr hstop)]
      rfl
  | @step left right tree token ts mid rest op hbound hoperator hop hright _ ih =>
      obtain ⟨fuel, rfl⟩ := Nat.exists_eq_succ_of_ne_zero (Nat.ne_zero_of_lt hfuel)
      have hlength := hshort hright
      rw [List.length_cons] at hfuel
      have hfuel' : mid.length < fuel := by omega
      obtain ⟨log₁, hrun₁⟩ := (continueRule_realizes hrealizes hoperands hleft token).complete
        ⟨hoperator, op, right, hop, hright, rfl⟩ overrun log
      obtain ⟨log₂, hrun₂⟩ := ih (isOperand_node _ _) hfuel' log₁
      use log₂
      apply bind_eq_ok_iff.mpr
      use token, ⟨token :: ts, overrun, log⟩, rfl
      rw [if_pos hbound]
      apply bind_eq_ok_iff.mpr
      use token, ⟨ts, overrun, log⟩, rfl
      apply bind_eq_ok_iff.mpr
      exact ⟨_, _, hrun₁, hrun₂⟩

/-- Reading an expression realizes the expression reading. -/
theorem expressionRule_realizes
    (hshort : Shortens E) (hoperands : GivesOperands E) (bound : Int) :
  Realizes (expressionRule expression bound) (ExpressionReading E bound)
  := by
  constructor
  · intro s s' tree h
    obtain ⟨token, after, hnext, hrest⟩ := bind_eq_ok_iff.mp h
    obtain ⟨left, mid, hstart, hrest⟩ := bind_eq_ok_iff.mp hrest
    obtain ⟨_, _, ⟨⟩, hcontinue⟩ := bind_eq_ok_iff.mp hrest
    obtain ⟨hstart, hmid⟩ := (startRule_realizes hrealizes hshort hoperands token).sound hstart
    obtain ⟨hcontinuation, hs'⟩ := continuation_sound hrealizes hshort hoperands
      (hstart.isOperand hoperands) (Nat.lt_succ_self _) hcontinue
    obtain ⟨ts, overrun, log⟩ := s
    cases ts with
    | nil =>
        -- the end of the input starts no expression
        cases hnext
        apply absurd rfl hstart.kind_ne_finish
    | cons first ts =>
        cases hnext
        exact ⟨.intro hstart hcontinuation, hs'.trans hmid⟩
  · rintro _ rest tree ⟨hstart, hcontinuation⟩ overrun log
    obtain ⟨log₁, hrun₁⟩ := (startRule_realizes hrealizes hshort hoperands _).complete
      hstart overrun log
    obtain ⟨log₂, hrun₂⟩ := continuation_complete hrealizes hshort hoperands hcontinuation
      (hstart.isOperand hoperands) (Nat.lt_succ_self _) overrun log₁
    use log₂
    apply bind_eq_ok_iff.mpr
    refine ⟨_, _, rfl, bind_eq_ok_iff.mpr ⟨_, _, hrun₁, bind_eq_ok_iff.mpr ⟨_, _, rfl, hrun₂⟩⟩⟩

end Rules

/-- The reader of expressions nested up to `depth` realizes the reading of such
expressions. -/
theorem parseAt_realizes (depth : Nat) (bound : Int) :
  Realizes (parseAt depth bound) (Reads depth bound)
  := by
  induction depth generalizing bound with
  | zero => apply throw_realizes
  | succ depth ih =>
      apply expressionRule_realizes ih (reads_shortens depth) (reads_givesOperands depth)

/-- The reader of blocks realizes the reading of blocks. -/
theorem parseBlock_realizes (depth : Nat) :
  Realizes (parseBlock depth)
    (fun ts tree rest => ∃ trees, BlockReading (Reads depth) ts trees rest ∧
      tree = .node (.ofKind .block) trees)
  := by
  apply block_realizes (parseAt_realizes depth) (reads_shortens depth)
    (reads_givesOperands depth)

/-- The reader of programs reads a block up to the end of the input. -/
theorem parseProgram_realizes (depth : Nat) :
  Realizes (parseProgram depth)
    (fun ts tree rest => ∃ trees, BlockReading (Reads depth) ts trees rest ∧
      (upcoming rest).kind = .finish ∧ tree = .node (.ofKind .block) trees)
  := by
  have hfinish : ∀ tree : Tree, Realizes (do
      let token ← peek
      if token.kind = .finish then
        report (.programParsed tree.operands.length)
        return tree
      throw (.outsideConditional token))
      (fun ts t rest => (upcoming ts).kind = .finish ∧ t = tree ∧ rest = ts) := by
    intro tree
    constructor
    · intro s s' t h
      rw [run_bind_of_ok (run_peek s)] at h
      by_cases hkind : (upcoming s.rest).kind = .finish
      · rw [if_pos hkind] at h
        cases h
        exact ⟨⟨hkind, rfl, rfl⟩, rfl⟩
      · rw [if_neg hkind] at h
        cases h
    · rintro ts rest t ⟨hkind, rfl, rfl⟩ overrun log
      use log.push (.programParsed t.operands.length)
      apply bind_eq_ok_iff.mpr
      use upcoming rest, ⟨rest, overrun, log⟩, rfl
      rw [if_pos hkind]
      rfl
  apply ((parseBlock_realizes depth).bind hfinish).congr
  intro ts tree rest
  constructor
  · rintro ⟨_, _, ⟨trees, hblock, rfl⟩, hkind, rfl, rfl⟩
    exact ⟨trees, hblock, hkind, rfl⟩
  · rintro ⟨trees, hblock, hkind, rfl⟩
    exact ⟨_, _, ⟨trees, hblock, rfl⟩, hkind, rfl, rfl⟩

end ExprScript.Parser
