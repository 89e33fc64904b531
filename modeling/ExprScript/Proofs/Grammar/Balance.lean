import ExprScript.Proofs.Grammar.Derivation

/-!
# The words of conditionals

The words `if`, `else`, `elseif` and `end` of a program, from left to right, open and close
conditionals.  An `if` opens one and an `end` closes one, while an `else` or `elseif` belongs to the
one opened last.  An `else` or `elseif` may also start an operand, though, and opens one of its own
there.  Counted in this way, the words of statements belong to conditionals of these statements, all
of which are closed (`Derives.openAfter_eq`).

Hence the `if` and `end` alone are balanced exactly when no `else` or `elseif` starts an operand
(`balanced_iff_noStray`).
-/

namespace ExprScript.Parser

/-- Whether an operand must follow a token of the kind. -/
def expectsOperand (kind : TokenKind) : Bool :=
  isOperator kind || kind = .openParen || kind = .ifWord || kind = .elseifWord

/-- Whether a token of the kind starts an alternative of a conditional. -/
def isAlternative (kind : TokenKind) : Bool :=
  kind = .elseWord || kind = .elseifWord

/-! ### Counting -/

/-- The number of conditionals open after a token of the kind, if so many are open before it; none
if the token belongs to no conditional.  The first argument says whether the token starts an
operand. -/
def openStep (expects : Bool) (opened : Nat) : TokenKind → Option Nat
  | .ifWord => some (opened + 1)
  | .elseWord | .elseifWord =>
    if expects then some (opened + 1) else if opened = 0 then none else some opened
  | .endWord => if opened = 0 then none else some (opened - 1)
  | _ => some opened

/-- The number of conditionals open after tokens, if so many are open before them; none if one of
them belongs to no conditional.  The first argument says whether the first token starts an
operand. -/
def openAfter : (expects : Bool) → (opened : Nat) → List Token → Option Nat
  | _, opened, [] => some opened
  | expects, opened, token :: ts =>
    match openStep expects opened token.kind with
    | none => none
    | some opened => openAfter (expectsOperand token.kind) opened ts

/-- The number of `if` less the number of `end` among tokens. -/
def ifsLessEnds (ts : List Token) : Int :=
  ts.countP (·.kind = .ifWord) - ts.countP (·.kind = .endWord)

/-- Whether more `if` than `end` stand before every `else`, `elseif` and `end`, and as many in
all. -/
def Balanced (ts : List Token) : Prop :=
  (∀ before token after, ts = before ++ token :: after →
      token.kind = .elseWord ∨ token.kind = .elseifWord ∨ token.kind = .endWord →
      0 < ifsLessEnds before) ∧
    ifsLessEnds ts = 0

/-- Whether no `else` or `elseif` stands directly after a token that an operand must follow. -/
def NoStray (ts : List Token) : Prop :=
  ts.IsChain fun first second =>
    expectsOperand first.kind = true → isAlternative second.kind = false

instance (ts : List Token) : Decidable (NoStray ts) :=
  inferInstanceAs (Decidable (ts.IsChain _))

/-- The number of `else` and `elseif` that start an operand.  The first argument says whether the
first token does. -/
def strays : (expects : Bool) → List Token → Nat
  | _, [] => 0
  | expects, token :: ts =>
    (if expects && isAlternative token.kind then 1 else 0) + strays (expectsOperand token.kind) ts

/-! ### What is derived -/

/-- Where the first token is no `else` or `elseif`, it does not matter whether it starts an
operand. -/
theorem openAfter_of_not_startsAlternative {ts : List Token} (h : ¬ StartsAlternative ts)
    (expects : Bool) (opened : Nat) :
  openAfter expects opened ts = openAfter true opened ts
  := by
  cases ts with
  | nil => rfl
  | cons token ts =>
      have hstep : openStep expects opened token.kind = openStep true opened token.kind := by
        have hkind : token.kind ≠ .elseWord ∧ token.kind ≠ .elseifWord := not_or.mp h
        cases hword : token.kind <;> simp_all [openStep]
      rw [openAfter, openAfter, hstep]

theorem openAfter_cons
    {token : Token} {kind : TokenKind} (hkind : token.kind = kind) {expects : Bool}
    {opened opened' : Nat} (hstep : openStep expects opened kind = some opened')
    (ts : List Token) :
  openAfter expects opened (token :: ts) = openAfter (expectsOperand kind) opened' ts
  := by
  rw [openAfter, hkind, hstep]

/-- An operator opens and closes no conditional, and an operand must follow it. -/
theorem openAfter_operator {op : Token} (h : isOperator op.kind = true) (expects : Bool)
    (opened : Nat) (ts : List Token) :
  openAfter expects opened (op :: ts) = openAfter true opened ts
  := by
  have hstep : openStep expects opened op.kind = some opened := by
    revert h
    cases op.kind <;> first | exact fun _ => rfl | exact nofun
  rw [openAfter_cons rfl hstep, expectsOperand, h]
  rfl

/-- What the tokens of a phrase do to the number of open conditionals.  The branches of a
conditional close the one that its first word opens, and so does an alternative, which is also an
expression when it starts with `else` or `elseif`. -/
def Closes : Phrase → List Token → Prop
  | .statements, ts | .statement, ts =>
    ∀ opened rest, openAfter false opened (ts ++ rest) = openAfter false opened rest
  | .expression, ts | .operand, ts | .primary, ts =>
    (∀ opened rest, openAfter true opened (ts ++ rest) = openAfter false opened rest) ∧
      (StartsAlternative ts → ∀ opened rest,
        openAfter false (opened + 1) (ts ++ rest) = openAfter false opened rest)
  | .conditional, ts =>
    ∀ opened rest, openAfter true (opened + 1) (ts ++ rest) = openAfter false opened rest
  | .alternative, ts =>
    ∀ opened rest, openAfter false (opened + 1) (ts ++ rest) = openAfter false opened rest

theorem Derives.closes {phrase : Phrase} {ts : List Token} (h : Derives phrase ts) :
  Closes phrase ts
  := by
  induction h with
  | none => exact fun _ _ => rfl
  | more _ _ ihs ihss =>
      intro opened rest
      rw [List.append_assoc, ihs, ihss]
  | @statement e he halternative ih =>
      intro opened rest
      rw [openAfter_of_not_startsAlternative, ih.1]
      rwa [StartsAlternative, upcoming_append (he.ne_nil (by rintro ⟨⟩))]
  | single _ ih => exact ih
  | @joined op u e hu hop _ ihu ihe =>
      have hrest : ∀ opened rest, openAfter false opened (op :: e ++ rest) =
          openAfter false opened rest := by
        intro opened rest
        rw [List.cons_append, openAfter_operator hop, ihe.1]
      constructor
      · intro opened rest
        rw [List.append_assoc, ihu.1, hrest]
      · intro halternative opened rest
        rw [StartsAlternative, upcoming_append (hu.ne_nil (by rintro ⟨⟩))] at halternative
        rw [List.append_assoc, ihu.2 halternative, hrest]
  | @signed sign u hsign _ ih =>
      constructor
      · intro opened rest
        rw [List.cons_append, openAfter_operator hsign.isOperator, ih.1]
      · intro halternative
        rcases hsign with h | h <;> rcases halternative with h' | h' <;>
          rw [upcoming_cons, h] at h' <;> cases h'
  | unsigned _ ih => exact ih
  | @literal token hliteral =>
      constructor
      · intro opened rest
        rcases hliteral with h | h | h | h <;> exact openAfter_cons h rfl rest
      · intro halternative
        rcases hliteral with h | h | h | h <;> rcases halternative with h' | h' <;>
          rw [upcoming_cons, h] at h' <;> cases h'
  | @parentheses before after e hbefore he hafter ih =>
      constructor
      · intro opened rest
        rw [List.cons_append, List.append_assoc, openAfter_cons hbefore rfl]
        apply (ih.1 opened _).trans
        apply openAfter_cons hafter rfl
      · rintro (h | h) <;> rw [upcoming_cons, hbefore] at h <;> cases h
  | @conditional word c hword _ ih =>
      constructor
      · intro opened rest
        rcases hword with h | h
        · exact (openAfter_cons h rfl _).trans (ih opened rest)
        · exact (openAfter_cons h rfl _).trans (ih opened rest)
      · intro halternative opened rest
        rcases hword with h | h
        · rcases halternative with h' | h' <;> rw [upcoming_cons, h] at h' <;> cases h'
        · exact (openAfter_cons h rfl _).trans (ih opened rest)
  | @otherwise word close ss hword _ hclose ih =>
      have hrest : ∀ opened rest, openAfter false (opened + 1) (ss ++ [close] ++ rest) =
          openAfter false opened rest := by
        intro opened rest
        rw [List.append_assoc, ih]
        apply openAfter_cons hclose rfl
      constructor
      · intro opened rest
        exact (openAfter_cons hword rfl _).trans (hrest opened rest)
      · intro _ opened rest
        exact (openAfter_cons hword rfl _).trans (hrest opened rest)
  | @branches word e ss t he hword hss ht ihe ihss iht =>
      intro opened rest
      have hwhole : e ++ word :: ss ++ t ++ rest = e ++ word :: (ss ++ (t ++ rest)) := by simp
      rw [hwhole, ihe.1, openAfter_cons hword rfl]
      apply (ihss (opened + 1) _).trans (iht opened rest)
  | close hword => exact fun opened rest => openAfter_cons hword rfl rest
  | other he hword ih => exact ih.2 hword

/-- All conditionals of statements are closed. -/
theorem Derives.openAfter_eq {ts : List Token} (h : Derives .statements ts) :
  openAfter false 0 ts = some 0
  := by
  have hcloses := h.closes 0 []
  rwa [List.append_nil] at hcloses

/-! ### Strays -/

theorem ifsLessEnds_cons (token : Token) (ts : List Token) :
  ifsLessEnds (token :: ts) = ifsLessEnds [token] + ifsLessEnds ts
  := by
  simp only [ifsLessEnds, List.countP_cons, List.countP_nil]
  omega

theorem strays_cons (expects : Bool) (token : Token) (ts : List Token) :
  strays expects (token :: ts) = strays expects [token] + strays (expectsOperand token.kind) ts
  := by
  simp only [strays, Nat.add_zero]

theorem eq_of_openStep
    {expects : Bool} {opened opened' : Nat} {token : Token}
    (h : openStep expects opened token.kind = some opened') :
  (opened' : Int) = opened + ifsLessEnds [token] + strays expects [token]
  := by
  cases hkind : token.kind <;> cases expects <;>
    simp [openStep, hkind, strays, isAlternative, ifsLessEnds] at h ⊢ <;> omega

/-- The number of open conditionals is the number of `if` and of strays less the number of
`end`. -/
theorem eq_of_openAfter
    {expects : Bool} {opened opened' : Nat} {ts : List Token}
    (h : openAfter expects opened ts = some opened') :
  (opened' : Int) = opened + ifsLessEnds ts + strays expects ts
  := by
  induction ts generalizing expects opened with
  | nil =>
      cases h
      simp [ifsLessEnds, strays]
  | cons token ts ih =>
      rw [openAfter] at h
      split at h
      · cases h
      · next mid hstep =>
          have hfirst := eq_of_openStep hstep
          have hrest := ih h
          rw [ifsLessEnds_cons, strays_cons]
          omega

/-- Without strays, a conditional is open before every `else`, `elseif` and `end`. -/
theorem ifsLessEnds_pos
    {expects : Bool} {opened opened' : Nat} {before after : List Token} {token : Token}
    (h : openAfter expects opened (before ++ token :: after) = some opened')
    (hstrays : strays expects (before ++ token :: after) = 0)
    (hword : token.kind = .elseWord ∨ token.kind = .elseifWord ∨ token.kind = .endWord) :
  0 < opened + ifsLessEnds before
  := by
  induction before generalizing expects opened with
  | nil =>
      have hopened : opened ≠ 0 := by
        rintro rfl
        rcases hword with hkind | hkind | hkind <;> cases expects <;>
          simp [openAfter, openStep, strays, isAlternative, hkind] at h hstrays
      simp only [ifsLessEnds, List.countP_nil]
      omega
  | cons first before ih =>
      rw [List.cons_append, strays_cons] at hstrays
      rw [List.cons_append, openAfter] at h
      split at h
      · cases h
      · next mid hstep =>
          have hfirst := eq_of_openStep hstep
          have hrest := ih h (by omega)
          rw [ifsLessEnds_cons]
          omega

/-- The tokens after a token have no strays exactly when no neighbours among all of them are
one. -/
theorem strays_eq_zero_iff (first : Token) (ts : List Token) :
  strays (expectsOperand first.kind) ts = 0 ↔ NoStray (first :: ts)
  := by
  induction ts generalizing first with
  | nil => simp [strays, NoStray]
  | cons second ts ih =>
      have hchain : NoStray (first :: second :: ts) ↔
          (expectsOperand first.kind = true → isAlternative second.kind = false) ∧
            NoStray (second :: ts) := List.isChain_cons_cons
      rw [hchain, ← ih second, strays_cons, Nat.add_eq_zero_iff]
      simp [strays]

theorem strays_false_eq_zero_iff (ts : List Token) :
  strays false ts = 0 ↔ NoStray ts
  := by
  cases ts with
  | nil => simp [strays, NoStray]
  | cons first ts =>
      rw [← strays_eq_zero_iff, strays_cons]
      simp [strays]

/-- If all conditionals of tokens are closed, then their `if` and `end` alone are balanced exactly
when none of them is a stray. -/
theorem balanced_iff_noStray {ts : List Token} (h : openAfter false 0 ts = some 0) :
  Balanced ts ↔ NoStray ts
  := by
  have htotal := eq_of_openAfter h
  rw [← strays_false_eq_zero_iff]
  constructor
  · rintro ⟨-, hzero⟩
    omega
  · intro hstrays
    refine ⟨?_, by omega⟩
    rintro before token after rfl hword
    have hpos := ifsLessEnds_pos h hstrays hword
    omega

end ExprScript.Parser
