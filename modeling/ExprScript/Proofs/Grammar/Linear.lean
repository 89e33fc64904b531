import ExprScript.Proofs.Grammar.Completeness
import ExprScript.Proofs.Grammar.Respelling

/-!
# Trees in a line

A tree is written in a line as the tokens of its leaves and heads, in the order of the grammar:

    leaf                       its token
    operation on l and r       l op r
    negation of x              - x
    conditional on c           if c then s ... s end,  or  if c then s ... s  and the alternative
    alternative conditional    the same with elseif
    block                      else s ... s end

Parentheses, and plus signs before an operand, leave no trace in a tree.  Without these, the tokens
read as a tree are the tokens of the tree, each once and in the same order (`reads_linear`,
`BlockReading.linear`).
-/

namespace ExprScript

/-- The kind of the tokens that stand for atoms of the kind; unknown if there are none. -/
def AtomKind.tokenKind : AtomKind → TokenKind
  | .symbol => .symbol
  | .number => .number
  | .truth => .truth
  | .falsity => .falsity
  | .plus => .plus
  | .minus | .negate => .minus
  | .times => .times
  | .divide => .divide
  | .power => .power
  | .assign => .assign
  | .equal => .equal
  | .notEqual => .notEqual
  | .invert => .invert
  | .greater => .greater
  | .less => .less
  | .conditional => .ifWord
  | .orConditional => .elseifWord
  | .otherwise => .elseWord
  | .close => .endWord
  | .string | .nothing | .block => .unknown

/-- What an atom carries, as the payload of a token. -/
def Datum.payload : Datum → Payload
  | .text s => .text s
  | .number x => .number x

/-- The token that stands for an atom. -/
def Atom.token (a : Atom) : Token :=
  ⟨a.kind.tokenKind, a.datum.map Datum.payload⟩

namespace Tree

/-- Whether the tree is the leaf that stands for nothing. -/
def isNothing : Tree → Bool
  | .atom a => a.kind == .nothing
  | .node _ _ => false

mutual

/-- The tokens of a tree in a line. -/
def linear : Tree → List Token
  | .atom a => [a.token]
  | .node ⟨.block, _⟩ body => .ofKind .elseWord :: linearAll body ++ [.ofKind .endWord]
  | .node head [x] => head.token :: linear x
  | .node head [l, r] => linear l ++ head.token :: linear r
  | .node head [c, .node _ body, r] =>
    head.token :: linear c ++ .ofKind .thenWord :: linearAll body ++
      if r.isNothing then [.ofKind .endWord] else linear r
  | .node _ _ => []

/-- The tokens of trees in a line, one tree after the other. -/
def linearAll : List Tree → List Token
  | [] => []
  | t :: ts => linear t ++ linearAll ts

end

example :
  linear (.node (.ofKind .conditional)
    [.atom (.ofKind .truth), .node (.ofKind .block) [.atom ⟨.symbol, some (.text "x")⟩],
      .node (.ofKind .block) [.node (.ofKind .negate) [.atom ⟨.symbol, some (.text "y")⟩]]]) =
    ["if", "true", "then", "x", "else", "-", "y", "end"].map Token.classify
  := by decide +kernel

/-- The leaf that stands for nothing has no kind of token of its own. -/
theorem linear_of_isNothing {t : Tree} (h : t.isNothing = true) :
  ∃ token, t.linear = [token] ∧ token.kind = .unknown
  := by
  cases t with
  | atom a =>
      have hkind : a.kind = .nothing := eq_of_beq h
      refine ⟨a.token, rfl, ?_⟩
      rw [Atom.token, hkind]
      rfl
  | node head tail => cases h

theorem linear_operation {op : Atom} (hop : op.kind ≠ .block) (l r : Tree) :
  linear (.node op [l, r]) = linear l ++ op.token :: linear r
  := by
  obtain ⟨kind, datum⟩ := op
  cases kind <;> first | rfl | contradiction

theorem linear_conditional {head : AtomKind} (hhead : head ≠ .block) (c r : Tree)
    (body : List Tree) :
  linear (.node (.ofKind head) [c, .node (.ofKind .block) body, r]) =
    (Atom.ofKind head).token :: linear c ++ .ofKind .thenWord :: linearAll body ++
      if r.isNothing then [.ofKind .endWord] else linear r
  := by
  cases head <;> first | rfl | contradiction

end Tree

/-- The token without a payload that its kind does not call for. -/
def Token.bare (token : Token) : Token :=
  match token.kind with
  | .number | .symbol | .unknown => token
  | kind => .ofKind kind

/-- The token of the atom for which a token stands is the token itself, and no token stands for a
block. -/
theorem Token.token_of_toAtom {token : Token} {atom : Atom} (h : token.toAtom = .ok atom) :
  atom.token = token.bare ∧ atom.kind ≠ .block
  := by
  obtain ⟨kind, payload⟩ := token
  cases kind with
  | number | symbol =>
      rcases payload with _ | ⟨_ | _ | _ | _⟩ <;> cases h
      exact ⟨rfl, nofun⟩
  | _ => cases h <;> exact ⟨rfl, nofun⟩

/-- The token of a lexeme carries nothing that its kind does not call for. -/
theorem Token.bare_of_mem_ofLexemes {lexemes : List String} {token : Token}
    (h : token ∈ ofLexemes lexemes) :
  token.bare = token
  := by
  obtain ⟨lexeme, -, rfl⟩ := List.mem_map.mp h
  obtain ⟨kind, -, hkind⟩ | ⟨-, hkind⟩ | ⟨-, x, hkind⟩ | ⟨-, hkind⟩ | hkind := classify_cases lexeme
  · rw [hkind]
    cases kind <;> rfl
  all_goals
    rw [hkind]
    rfl

namespace Parser

/-! ### Tokens that leave a trace -/

/-- Whether a token of the kind leaves no trace in a tree: a parenthesis, or a plus sign with no
operand before it. -/
def isSilent (after : Bool) (kind : TokenKind) : Bool :=
  kind = .openParen || kind = .closeParen || (kind = .plus && !after)

/-- The tokens without those that leave no trace in a tree.  The first argument says whether an
operand stands before the tokens. -/
def essential : (after : Bool) → List Token → List Token
  | _, [] => []
  | after, token :: ts =>
    if isSilent after token.kind then essential (endsOperand token.kind) ts
    else token :: essential (endsOperand token.kind) ts

theorem essential_append (after : Bool) (ts us : List Token) :
  essential after (ts ++ us) = essential after ts ++ essential (operandAfter after ts) us
  := by
  induction ts generalizing after with
  | nil => rfl
  | cons token ts ih =>
      rw [List.cons_append, essential, essential, ih]
      split <;> rfl

/-- Where the first token is no plus sign, it does not matter whether an operand stands before
it. -/
theorem essential_of_ne_plus {ts : List Token} (h : (upcoming ts).kind ≠ .plus) (after : Bool) :
  essential after ts = essential false ts
  := by
  cases ts with
  | nil => rfl
  | cons token ts =>
      have hsilent : isSilent after token.kind = isSilent false token.kind := by
        rw [upcoming_cons] at h
        simp [isSilent, h]
      rw [essential, essential, hsilent]

/-- The essential tokens are among the tokens. -/
theorem mem_of_mem_essential {after : Bool} {ts : List Token} {token : Token}
    (h : token ∈ essential after ts) :
  token ∈ ts
  := by
  induction ts generalizing after with
  | nil => cases h
  | cons first ts ih =>
      rw [essential] at h
      split at h
      · apply List.mem_cons_of_mem _ (ih h)
      · rcases List.mem_cons.mp h with rfl | h
        · apply List.mem_cons_self
        · apply List.mem_cons_of_mem _ (ih h)

/-- The tokens that leave a trace, without payloads that their kinds do not call for. -/
def traces (after : Bool) (ts : List Token) : List Token :=
  (essential after ts).map Token.bare

theorem traces_append (after : Bool) (ts us : List Token) :
  traces after (ts ++ us) = traces after ts ++ traces (operandAfter after ts) us
  := by
  rw [traces, essential_append, List.map_append, traces, traces]

theorem traces_silent {after : Bool} {token : Token} (h : isSilent after token.kind = true)
    (ts : List Token) :
  traces after (token :: ts) = traces (endsOperand token.kind) ts
  := by
  rw [traces, essential, if_pos h, traces]

theorem traces_cons {after : Bool} {token : Token} (h : isSilent after token.kind = false)
    (ts : List Token) :
  traces after (token :: ts) = token.bare :: traces (endsOperand token.kind) ts
  := by
  rw [traces, essential, h, if_neg Bool.false_ne_true, List.map_cons, traces]

/-- The kinds of the words of conditionals and of the minus sign. -/
def wordKinds : List TokenKind :=
  [.minus, .ifWord, .thenWord, .elseWord, .elseifWord, .endWord]

/-- A word leaves itself. -/
theorem traces_word {kind : TokenKind} (hword : kind ∈ wordKinds) {token : Token}
    (hkind : token.kind = kind) (after : Bool) (ts : List Token) :
  traces after (token :: ts) = .ofKind kind :: traces (endsOperand kind) ts
  := by
  obtain ⟨kind, payload⟩ := token
  cases hkind
  simp only [wordKinds, List.mem_cons, List.not_mem_nil, or_false] at hword
  rcases hword with rfl | rfl | rfl | rfl | rfl | rfl <;> rfl

theorem traces_of_ne_plus {ts : List Token} (h : (upcoming ts).kind ≠ .plus) (after : Bool) :
  traces after ts = traces false ts
  := by
  rw [traces, traces, essential_of_ne_plus h]

/-! ### Readings -/

/-- A token before which a reader with the bound zero stops is no plus sign. -/
theorem kind_ne_plus_of_precedence {token : Token} (h : token.precedence ≤ 0) :
  token.kind ≠ .plus
  := by
  intro hkind
  rw [Token.precedence, hkind] at h
  exact absurd h (by decide)

/-- An operator after an operand leaves a trace. -/
theorem isSilent_of_isOperator {kind : TokenKind} (h : isOperator kind = true) :
  isSilent true kind = false
  := by
  revert h
  cases kind <;> decide

/-- Whether every expression is read from tokens that end an operand and leave the trace of the
tree, up to a token that binds no tighter than the bound. -/
def LeavesTrace (E : Int → Reading Tree) : Prop :=
  ∀ ⦃bound ts tree rest⦄, E bound ts tree rest → (upcoming rest).precedence ≤ bound ∧
    ∃ used, ts = used ++ rest ∧ operandAfter false used = true ∧ traces false used = tree.linear

section Trace

variable {E : Int → Reading Tree} (hE : LeavesTrace E)
include hE

theorem BlockReading.linear {ts rest : List Token} {trees : List Tree}
    (h : BlockReading E ts trees rest) :
  ∃ used, ts = used ++ rest ∧ traces false used = Tree.linearAll trees
  := by
  induction h with
  | close _ => exact ⟨[], rfl, rfl⟩
  | more _ hfirst _ ih =>
      obtain ⟨hstop, e, rfl, hafter, he⟩ := hE hfirst
      obtain ⟨ss, rfl, hss⟩ := ih
      refine ⟨e ++ ss, by simp, ?_⟩
      -- no expression of a block starts with a plus sign that stands after an operand
      have hplus : (upcoming ss).kind ≠ .plus := by
        by_cases hnil : ss = []
        · rw [hnil]
          nofun
        · rw [upcoming_append hnil] at hstop
          apply kind_ne_plus_of_precedence hstop
      rw [traces_append, hafter, traces_of_ne_plus hplus, he, hss, Tree.linearAll]

theorem AlternativeReading.linear {ts rest : List Token} {tree : Tree}
    (h : AlternativeReading E ts tree rest) (after : Bool) :
  ∃ used, ts = used ++ rest ∧
    traces after used = if tree.isNothing then [.ofKind .endWord] else tree.linear
  := by
  cases h with
  | @close word _ hword => exact ⟨[word], rfl, traces_word (by decide) hword after []⟩
  | other hword hother =>
      obtain ⟨-, e, rfl, hafter, he⟩ := hE hother
      obtain ⟨word, others, rfl⟩ : ∃ word others, e = word :: others := by
        apply List.exists_cons_of_ne_nil
        rintro rfl
        cases hafter
      rw [List.cons_append, upcoming_cons] at hword
      obtain ⟨kind, hkind, hwords⟩ : ∃ kind, word.kind = kind ∧ kind ∈ wordKinds := by
        rcases hword with h | h
        · exact ⟨_, h, by decide⟩
        · exact ⟨_, h, by decide⟩
      refine ⟨word :: others, rfl, ?_⟩
      rw [traces_word hwords hkind] at he ⊢
      -- the tree is not nothing, since a word of its own starts its line
      rw [if_neg, he]
      intro hnothing
      obtain ⟨token, hline, hunknown⟩ := Tree.linear_of_isNothing hnothing
      rw [hline] at he
      obtain ⟨rfl, -⟩ := List.cons.inj he
      obtain rfl : kind = .unknown := hunknown
      exact absurd hwords (by decide)

theorem ConditionalReading.linear {head : AtomKind} {ts rest : List Token} {tree : Tree}
    (hhead : head ≠ .block) (h : ConditionalReading E head ts tree rest) :
  ∃ used, ts = used ++ rest ∧ (Atom.ofKind head).token :: traces false used = tree.linear
  := by
  cases h with
  | @intro _ _ _ _ word _ _ _ hcondition hword hblock halternative =>
      obtain ⟨-, e, rfl, -, he⟩ := hE hcondition
      obtain ⟨ss, rfl, hss⟩ := hblock.linear hE
      obtain ⟨t, rfl, ht⟩ := halternative.linear hE (operandAfter false ss)
      refine ⟨e ++ word :: (ss ++ t), by simp, ?_⟩
      have hthen : ∀ after, traces after (word :: (ss ++ t)) =
          .ofKind .thenWord :: traces false (ss ++ t) :=
        fun after => traces_word (by decide) hword after _
      rw [traces_append, hthen, traces_append, he, hss, ht, Tree.linear_conditional hhead]
      simp

theorem StartReading.linear {token : Token} {ts rest : List Token} {tree : Tree}
    (h : StartReading E token ts tree rest) :
  ∃ used, ts = used ++ rest ∧ traces false (token :: used) = tree.linear
  := by
  cases h with
  | leaf hkind hatom =>
      refine ⟨[], rfl, ?_⟩
      have hsilent : isSilent false token.kind = false := by
        rcases hkind with h | h | h | h <;> rw [h] <;> rfl
      rw [traces_cons hsilent, Tree.linear, (Token.token_of_toAtom hatom).1]
      rfl
  | @parentheses close _ _ _ hkind hinner hclose =>
      obtain ⟨-, e, rfl, hafter, he⟩ := hE hinner
      refine ⟨e ++ [close], by simp, ?_⟩
      have hopen : isSilent false token.kind = true := by rw [hkind]; rfl
      have hsilent : ∀ after, isSilent after close.kind = true := by
        intro after
        rw [hclose]
        rfl
      rw [traces_silent hopen, hkind, traces_append, traces_silent (hsilent _)]
      exact (List.append_nil _).trans he
  | plus hkind hoperand =>
      obtain ⟨-, u, rfl, -, hu⟩ := hE hoperand
      have hsilent : isSilent false token.kind = true := by rw [hkind]; rfl
      refine ⟨u, rfl, ?_⟩
      rw [traces_silent hsilent, hkind]
      exact hu
  | minus hkind hoperand =>
      obtain ⟨-, u, rfl, -, hu⟩ := hE hoperand
      refine ⟨u, rfl, ?_⟩
      rw [traces_word (by decide) hkind]
      exact congrArg _ hu
  | conditional hkind hconditional =>
      obtain ⟨c, rfl, hc⟩ := hconditional.linear hE (by decide)
      refine ⟨c, rfl, ?_⟩
      rw [traces_word (by decide) hkind]
      exact hc
  | orConditional hkind hconditional =>
      obtain ⟨c, rfl, hc⟩ := hconditional.linear hE (by decide)
      refine ⟨c, rfl, ?_⟩
      rw [traces_word (by decide) hkind]
      exact hc
  | @otherwise close _ _ _ hkind hblock hclose =>
      obtain ⟨ss, rfl, hss⟩ := hblock.linear hE
      refine ⟨ss ++ [close], by simp, ?_⟩
      rw [traces_word (by decide) hkind, traces_append, traces_word (by decide) hclose]
      exact congrArg (fun line => _ :: line ++ _) hss

/-- What continues an expression makes a longer line of its line. -/
theorem ContinuationReading.linear
    {bound : Int} {left tree : Tree} {ts rest : List Token}
    (h : ContinuationReading E bound left ts tree rest) {e : List Token}
    (hafter : operandAfter false e = true) (he : traces false e = left.linear) :
  ∃ used, ts = used ++ rest ∧ operandAfter false (e ++ used) = true ∧
    traces false (e ++ used) = tree.linear
  := by
  induction h generalizing e with
  | stop _ =>
      use [], rfl
      rw [List.append_nil]
      exact ⟨hafter, he⟩
  | @step left right _ token _ _ _ op _ hoperator hop hright _ ih =>
      obtain ⟨-, e', rfl, hafter', he'⟩ := hE hright
      obtain ⟨htoken, hblock⟩ := Token.token_of_toAtom hop
      have hends := endsOperand_of_isOperator hoperator
      have hlonger : traces false (e ++ token :: e') = (Tree.node op [left, right]).linear := by
        rw [traces_append, hafter, traces_cons (isSilent_of_isOperator hoperator), hends, he, he',
          Tree.linear_operation hblock, htoken]
      have hlonger' : operandAfter false (e ++ token :: e') = true := by
        rw [operandAfter_append, operandAfter, List.foldl_cons, hends]
        exact hafter'
      obtain ⟨used, rfl, hused⟩ := ih hlonger' hlonger
      refine ⟨token :: e' ++ used, by simp, ?_⟩
      simpa using hused

end Trace

/-- The tokens read as an expression leave the trace of its tree. -/
theorem reads_linear (depth : Nat) :
  LeavesTrace (Reads depth)
  := by
  induction depth with
  | zero => rintro _ _ _ _ ⟨⟩
  | succ depth ih =>
      intro bound _ tree rest h
      refine ⟨reads_upcoming_le h, ?_⟩
      obtain ⟨hstart, hcontinuation⟩ := h
      obtain ⟨used, rfl, hline⟩ := hstart.linear ih
      obtain ⟨_, hused, hderives⟩ := hstart.derives reads_derives
      obtain rfl := List.append_cancel_right hused
      obtain ⟨more, rfl, hwhole⟩ :=
        hcontinuation.linear ih (hderives.operandAfter nofun false) hline
      exact ⟨_ :: used ++ more, by simp, hwhole⟩

end Parser

end ExprScript
