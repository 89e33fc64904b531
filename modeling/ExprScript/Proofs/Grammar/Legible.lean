import ExprScript.Proofs.Grammar.Branching
import ExprScript.Proofs.Grammar.Shape
import ExprScript.Proofs.Token.Typing
import ExprScript.Proofs.Tree.Legible

/-!
# Legibility of the trees read

The parser puts the leaf that stands for nothing only in the place of an alternative, and in that
place it puts no literal, since an alternative starts with a word of its own.  So a tree is legible
if it is read from tokens whose literals read back (`reads_legible`, `BlockReading.legible`).  Of
the literals among the tokens of lexemes these are all but the numbers too large to be finite
(`readsBack_of_mem_ofLexemes`).
-/

namespace ExprScript

open ExprScript.Parser (IsLiteral)

/-! ### Literals -/

/-- Whether the token, if it is a literal, is one whose atom reads back. -/
def Token.ReadsBack (token : Token) : Prop :=
  IsLiteral token → ∀ atom, token.toAtom = .ok atom → atom.ReadsBack

/-- A whole number without a minus sign reads back. -/
theorem Atom.readsBack_number
    {x : Number} (hsign : x.isNegative = false) (hwhole : x.whole?.isSome = true) :
  Atom.ReadsBack ⟨.number, some (.number x)⟩
  where
  isWord := Text.isDelimiter_of_isRun (by decide +kernel) (Tree.isRun_text hsign hwhole)
  toAtom := by
    change (Token.classify x.text).toAtom = _
    rw [Tree.classify_text hsign hwhole]
    rfl

/-- A symbol whose name is the lexeme of a symbol reads back. -/
theorem Atom.readsBack_symbol
    {name : String} (hletters : Token.isRun Text.isLetter name.toList = true)
    (hname : Token.classify name = ⟨.symbol, some (.text name)⟩) :
  Atom.ReadsBack ⟨.symbol, some (.text name)⟩
  where
  isWord := Text.isDelimiter_of_isRun (by decide +kernel) hletters
  toAtom := by
    change (Token.classify name).toAtom = _
    rw [hname]
    rfl

/-- A truth value reads back. -/
theorem Atom.readsBack_truthValue {kind : AtomKind} (h : kind = .truth ∨ kind = .falsity) :
  Atom.ReadsBack (.ofKind kind)
  := by
  rcases h with rfl | rfl
  · exact ⟨AtomKind.isDelimiter_name .truth, by decide +kernel⟩
  · exact ⟨AtomKind.isDelimiter_name .falsity, by decide +kernel⟩

/-- Whether the lexeme, if it is a run of digits, denotes a finite number.  An infinite number is
written like the symbol `inf`. -/
def Token.DenotesFinite (lexeme : String) : Prop :=
  isRun Text.isDigit lexeme.toList = true →
    (Number.ofNat (Text.ofDigits lexeme.toList)).isFinite = true

instance (lexeme : String) : Decidable (Token.DenotesFinite lexeme) :=
  inferInstanceAs (Decidable (_ → _))

/-- The literal of a lexeme reads back, unless it is a number too large to be finite. -/
theorem Token.readsBack_classify {lexeme : String} (hfinite : DenotesFinite lexeme) :
  (classify lexeme).ReadsBack
  := by
  intro hliteral atom hatom
  obtain ⟨kind, hmem, h⟩ | ⟨-, h⟩ | ⟨hdigits, -⟩ | ⟨hletters, h⟩ | h := classify_cases lexeme
  · obtain ⟨-, hnumber, hsymbol, -⟩ := fixedKinds_kind hmem
    rw [h] at hliteral hatom
    rcases hliteral with hkind | hkind | hkind | hkind
    · exact absurd hkind hnumber
    · exact absurd hkind hsymbol
    · obtain rfl : kind = .truth := hkind
      cases hatom
      exact Atom.readsBack_truthValue (.inl rfl)
    · obtain rfl : kind = .falsity := hkind
      cases hatom
      exact Atom.readsBack_truthValue (.inr rfl)
  · rw [h] at hatom
    cases hatom
  · rw [classify_digits hdigits] at hatom
    cases hatom
    apply Atom.readsBack_number (Number.isNegative_ofNat _) (Number.whole?_ofNat (hfinite hdigits))
  · rw [h] at hatom
    cases hatom
    exact Atom.readsBack_symbol hletters h
  · rw [h] at hatom
    cases hatom

theorem Token.readsBack_of_mem_ofLexemes
    {lexemes : List String} (hfinite : ∀ lexeme ∈ lexemes, DenotesFinite lexeme) :
  ∀ token ∈ ofLexemes lexemes, token.ReadsBack
  := by
  intro token htoken
  obtain ⟨lexeme, hlexeme, rfl⟩ := List.mem_map.mp htoken
  apply readsBack_classify (hfinite lexeme (List.mem_filter.mp hlexeme).1)

namespace Parser

open ExprScript.Tree (Legible)

/-! ### Readings -/

/-- All operands of an operation on two operands are expressions. -/
theorem placeOf_of_takes_two {kind : AtomKind} (h : kind.takes 2 = true) (i : Nat) :
  kind.placeOf i = .expression
  := by
  cases kind <;> first | rfl | cases h

/-- What begins with an alternative of a conditional is nothing or a node. -/
theorem BeginsOtherwise.legible {tree : Tree} (h : BeginsOtherwise tree)
    (htree : Legible .expression tree) :
  Legible .alternative tree
  := by
  obtain rfl | ⟨first, halternative, hbegins⟩ := h
  · exact .nothing
  have hnode : ∃ head tail, tree = .node head tail := by
    cases hbegins with
    | operation _ _ _ => exact ⟨_, _, rfl⟩
    | self =>
        cases tree with
        | atom a => exact halternative.elim False.elim False.elim
        | node head tail => exact ⟨_, _, rfl⟩
  obtain ⟨head, tail, rfl⟩ := hnode
  cases htree with
  | node hdatum hleaf htail => exact .node hdatum hleaf htail

section Legible

variable {depth : Nat}
  (hE : ∀ {bound ts tree rest}, Reads depth bound ts tree rest →
    (∀ token ∈ ts, token.ReadsBack) →
      Legible .expression tree ∧ ∀ token ∈ rest, token.ReadsBack)
include hE

theorem BlockReading.legible_all {ts rest : List Token} {trees : List Tree}
    (h : BlockReading (Reads depth) ts trees rest) (hts : ∀ token ∈ ts, token.ReadsBack) :
  (∀ t ∈ trees, Legible .expression t) ∧ ∀ token ∈ rest, token.ReadsBack
  := by
  induction h with
  | close _ => exact ⟨by simp, hts⟩
  | more _ hfirst _ ih =>
      obtain ⟨htree, hmid⟩ := hE hfirst hts
      obtain ⟨htrees, hrest⟩ := ih hmid
      exact ⟨List.forall_mem_cons.mpr ⟨htree, htrees⟩, hrest⟩

/-- A block is legible. -/
theorem BlockReading.legible {ts rest : List Token} {trees : List Tree}
    (h : BlockReading (Reads depth) ts trees rest) (hts : ∀ token ∈ ts, token.ReadsBack) :
  Legible .expression (.node (.ofKind .block) trees) ∧ ∀ token ∈ rest, token.ReadsBack
  := by
  obtain ⟨htrees, hrest⟩ := h.legible_all hE hts
  exact ⟨.operation rfl (fun _ => rfl) htrees .expression, hrest⟩

theorem AlternativeReading.legible {ts rest : List Token} {tree : Tree}
    (h : AlternativeReading (Reads depth) ts tree rest) (hts : ∀ token ∈ ts, token.ReadsBack) :
  Legible .alternative tree ∧ ∀ token ∈ rest, token.ReadsBack
  := by
  have hbegins := h.beginsOtherwise
  cases h with
  | close _ => exact ⟨.nothing, (List.forall_mem_cons.mp hts).2⟩
  | other _ hother =>
      obtain ⟨htree, hrest⟩ := hE hother hts
      exact ⟨hbegins.legible htree, hrest⟩

theorem ConditionalReading.legible {head : AtomKind} {ts rest : List Token} {tree : Tree}
    (hhead : head = .conditional ∨ head = .orConditional)
    (h : ConditionalReading (Reads depth) head ts tree rest)
    (hts : ∀ token ∈ ts, token.ReadsBack) :
  Legible .expression tree ∧ ∀ token ∈ rest, token.ReadsBack
  := by
  obtain ⟨hcondition, -, hblock, halternative⟩ := h
  obtain ⟨hc, hmid⟩ := hE hcondition hts
  obtain ⟨hb, hafter⟩ := hblock.legible hE (List.forall_mem_cons.mp hmid).2
  obtain ⟨hr, hrest⟩ := halternative.legible hE hafter
  exact ⟨.conditional hhead hc hb hr .expression, hrest⟩

theorem StartReading.legible {token : Token} {ts rest : List Token} {tree : Tree}
    (h : StartReading (Reads depth) token ts tree rest) (htoken : token.ReadsBack)
    (hts : ∀ token ∈ ts, token.ReadsBack) :
  Legible .expression tree ∧ ∀ token ∈ rest, token.ReadsBack
  := by
  cases h with
  | leaf hkind hatom => exact ⟨.leaf (htoken hkind _ hatom), hts⟩
  | parentheses _ hinner _ =>
      obtain ⟨htree, hrest⟩ := hE hinner hts
      exact ⟨htree, (List.forall_mem_cons.mp hrest).2⟩
  | plus _ hoperand => exact hE hoperand hts
  | minus _ hoperand =>
      obtain ⟨htree, hrest⟩ := hE hoperand hts
      have hoperands := List.forall_mem_singleton.mpr htree
      exact ⟨.operation rfl (fun _ => rfl) hoperands .expression, hrest⟩
  | conditional _ hconditional => exact hconditional.legible hE (.inl rfl) hts
  | orConditional _ hconditional => exact hconditional.legible hE (.inr rfl) hts
  | otherwise _ hblock _ =>
      obtain ⟨htree, hrest⟩ := hblock.legible hE hts
      exact ⟨htree, (List.forall_mem_cons.mp hrest).2⟩

theorem ContinuationReading.legible
    {bound : Int} {left tree : Tree} {ts rest : List Token}
    (h : ContinuationReading (Reads depth) bound left ts tree rest)
    (hleft : Legible .expression left) (hts : ∀ token ∈ ts, token.ReadsBack) :
  Legible .expression tree ∧ ∀ token ∈ rest, token.ReadsBack
  := by
  induction h with
  | stop _ => exact ⟨hleft, hts⟩
  | step _ hoperator hop hright _ ih =>
      obtain ⟨kind, hatom, htakes⟩ := toAtom_of_isOperator hoperator
      rw [hatom] at hop
      cases hop
      obtain ⟨hoperand, hmid⟩ := hE hright (List.forall_mem_cons.mp hts).2
      have hoperands := List.forall_mem_cons.mpr ⟨hleft, List.forall_mem_singleton.mpr hoperand⟩
      have hleaf := AtomKind.isLeaf_of_takes htakes
      apply ih (.operation hleaf (placeOf_of_takes_two htakes) hoperands .expression) hmid

end Legible

/-- A tree that is read from tokens whose literals read back is legible. -/
theorem reads_legible
    {depth : Nat} {bound : Int} {ts rest : List Token} {tree : Tree}
    (h : Reads depth bound ts tree rest) (hts : ∀ token ∈ ts, token.ReadsBack) :
  Legible .expression tree ∧ ∀ token ∈ rest, token.ReadsBack
  := by
  induction depth generalizing bound ts tree rest with
  | zero => cases h
  | succ depth ih =>
      obtain ⟨hstart, hcontinuation⟩ := h
      rw [List.forall_mem_cons] at hts
      obtain ⟨hleft, hmid⟩ := hstart.legible ih hts.1 hts.2
      apply hcontinuation.legible ih hleft hmid

end Parser

end ExprScript
