import ExprScript.Number.Text
import ExprScript.Proofs.Number.Whole
import ExprScript.Proofs.Token.Word
import ExprScript.Tree.Basic

/-!
# Canonical trees

A canonical expression is a whole number without a minus sign, a symbol whose name is a run of
letters and no keyword, a truth value, an operation on two canonical expressions, a negation of
one, or a conditional with a canonical condition, a block of canonical expressions, and an
alternative that is nothing, such a block, or another such conditional.

A canonical expression is written in words, with parentheses around every operation:

    ( l op r )
    ( - x )
    ( if c then s ... s end )
    ( if c then s ... s else s ... s end )
    ( if c then s ... s elseif c then s ... s ... )

and its text has a space between the words, by which the text is split into the words again
(`split_rendering`).
-/

namespace ExprScript

/-- Whether the kind is an operation that is written between its two operands. -/
def AtomKind.standsBetween : AtomKind → Bool
  | .plus | .minus | .times | .divide | .power | .assign | .greater | .less | .equal
  | .notEqual => true
  | _ => false

/-- The word of a leaf: the name of a symbol, the digits of a number, or the name of the kind. -/
def Atom.word (a : Atom) : String :=
  match a.datum with
  | some (.text name) => name
  | some (.number x) => x.text
  | none => a.kind.name

namespace Tree

open Lexeme (IsWord isWord_of_mem_fixedKinds)

/-- The places in a canonical tree: that of an expression, and that of the alternative of a
conditional. -/
inductive Place where
  | expression
  | alternative

/-- The canonical trees at each place. -/
inductive Canonical : Place → Tree → Prop
  | number {x : Number} :
      x.isNegative = false → x.whole?.isSome = true →
      Canonical .expression (.atom ⟨.number, some (.number x)⟩)
  | symbol {name : String} :
      Token.isRun Text.isLetter name.toList = true → name ∉ Token.keywords →
      Canonical .expression (.atom ⟨.symbol, some (.text name)⟩)
  | truth :
      Canonical .expression (.atom (.ofKind .truth))
  | falsity :
      Canonical .expression (.atom (.ofKind .falsity))
  | operation {op : AtomKind} {l r : Tree} :
      op.standsBetween = true → Canonical .expression l → Canonical .expression r →
      Canonical .expression (.node (.ofKind op) [l, r])
  | negation {x : Tree} :
      Canonical .expression x → Canonical .expression (.node (.ofKind .negate) [x])
  | conditional {c r : Tree} {body : List Tree} :
      Canonical .expression c → (∀ t ∈ body, Canonical .expression t) →
      Canonical .alternative r →
      Canonical .expression (.node (.ofKind .conditional) [c, .node (.ofKind .block) body, r])
  | nothing :
      Canonical .alternative (.atom (.ofKind .nothing))
  | otherwise {body : List Tree} :
      (∀ t ∈ body, Canonical .expression t) →
      Canonical .alternative (.node (.ofKind .block) body)
  | orConditional {c r : Tree} {body : List Tree} :
      Canonical .expression c → (∀ t ∈ body, Canonical .expression t) →
      Canonical .alternative r →
      Canonical .alternative (.node (.ofKind .orConditional) [c, .node (.ofKind .block) body, r])

mutual

/-- The words of an expression. -/
def words : Tree → List String
  | .atom a => [a.word]
  | .node _ [x] => "(" :: "-" :: words x ++ [")"]
  | .node head [l, r] => "(" :: words l ++ head.kind.name :: words r ++ [")"]
  | .node _ [c, .node _ body, r] =>
    "(" :: "if" :: words c ++ "then" :: bodyWords body ++ alternativeWords r ++ [")"]
  | .node _ _ => []

/-- The words of the alternative of a conditional. -/
def alternativeWords : Tree → List String
  | .node ⟨.orConditional, _⟩ [c, .node _ body, r] =>
    "elseif" :: words c ++ "then" :: bodyWords body ++ alternativeWords r
  | .node _ body => "else" :: bodyWords body ++ ["end"]
  | .atom _ => ["end"]

/-- The words of expressions one after the other. -/
def bodyWords : List Tree → List String
  | [] => []
  | t :: ts => words t ++ bodyWords ts

end

/-- The text of expressions one after the other, with a space between the words. -/
def rendering (ts : List Tree) : String :=
  " ".intercalate (bodyWords ts)

example :
  rendering [.node (.ofKind .conditional)
    [.atom (.ofKind .truth), .node (.ofKind .block) [.atom ⟨.symbol, some (.text "x")⟩],
      .node (.ofKind .block) [.node (.ofKind .negate) [.atom ⟨.symbol, some (.text "y")⟩]]]] =
    "( if true then x else ( - y ) end )"
  := rfl

/-! ### Words -/

section Number

variable {x : Number} (hsign : x.isNegative = false) (hwhole : x.whole?.isSome = true)
include hsign hwhole

/-- A whole number without a minus sign is written as the digits of a natural number to which it
is nearest. -/
theorem exists_text_eq :
  ∃ n, x.text.toList = Text.decimalDigits n ∧ Number.ofNat n = x
  := by
  obtain ⟨i, hi⟩ := Option.isSome_iff_exists.mp hwhole
  obtain ⟨n, rfl, hx⟩ := Number.ofNat_of_whole? hsign hi
  refine ⟨n, ?_, hx⟩
  rw [Number.text, hi]
  apply String.toList_ofList

theorem isRun_text :
  Token.isRun Text.isDigit x.text.toList = true
  := by
  obtain ⟨n, htext, -⟩ := exists_text_eq hsign hwhole
  have hne : Text.decimalDigits n ≠ [] := Nat.toDigits_ne_nil
  rw [htext, Token.isRun, Bool.and_eq_true, List.all_eq_true]
  refine ⟨by simpa using hne, ?_⟩
  intro c hc
  apply Text.isDigit_of_mem_decimalDigits hc

/-- The word of a whole number without a minus sign is the token of the number. -/
theorem classify_text :
  Token.classify x.text = ⟨.number, some (.number x)⟩
  := by
  obtain ⟨n, htext, hx⟩ := exists_text_eq hsign hwhole
  rw [Token.classify_digits (isRun_text hsign hwhole), htext, Text.ofDigits_decimalDigits, hx]

end Number

/-- The words of a tree at a place. -/
def wordsAt : Place → Tree → List String
  | .expression => words
  | .alternative => alternativeWords

theorem isWord_bodyWords {body : List Tree} (h : ∀ t ∈ body, ∀ text ∈ words t, IsWord text) :
  ∀ text ∈ bodyWords body, IsWord text
  := by
  induction body with
  | nil => simp [bodyWords]
  | cons t body ih =>
      rw [List.forall_mem_cons] at h
      rw [bodyWords, List.forall_mem_append]
      exact ⟨h.1, ih h.2⟩

theorem isWord_leaf {a : Atom} (h : IsWord a.word) :
  ∀ text ∈ words (.atom a), IsWord text
  := by
  rw [words, List.forall_mem_singleton]
  exact h

/-- The words between the first word of a conditional and its end are words. -/
theorem isWord_conditional
    {c r : Tree} {body : List Tree} (hc : ∀ text ∈ words c, IsWord text)
    (hbody : ∀ t ∈ body, ∀ text ∈ words t, IsWord text)
    (hr : ∀ text ∈ alternativeWords r, IsWord text) :
  ∀ text ∈ words c ++ "then" :: bodyWords body ++ alternativeWords r, IsWord text
  := by
  rw [List.forall_mem_append, List.forall_mem_append, List.forall_mem_cons]
  exact ⟨⟨hc, isWord_of_mem_fixedKinds (by decide), isWord_bodyWords hbody⟩, hr⟩

/-- Words between parentheses are words. -/
theorem isWord_parentheses {texts : List String} (h : ∀ text ∈ texts, IsWord text) :
  ∀ text ∈ "(" :: texts ++ [")"], IsWord text
  := by
  rw [List.forall_mem_append, List.forall_mem_cons, List.forall_mem_singleton]
  exact ⟨⟨isWord_of_mem_fixedKinds (by decide), h⟩, isWord_of_mem_fixedKinds (by decide)⟩

/-- The words of a canonical tree are words. -/
theorem Canonical.isWord {place : Place} {t : Tree} (h : Canonical place t) :
  ∀ text ∈ wordsAt place t, IsWord text
  := by
  induction h with
  | number hsign hwhole =>
      apply isWord_leaf
      apply Lexeme.isWord_of_digits (isRun_text hsign hwhole)
  | symbol hletters _ =>
      apply isWord_leaf
      apply Lexeme.isWord_of_letters hletters
  | truth | falsity =>
      apply isWord_leaf
      apply isWord_of_mem_fixedKinds
      decide
  | @operation op l r hop _ _ ihl ihr =>
      have hname : op.name ∈ Token.fixedKinds.map Prod.fst := by
        revert hop
        cases op <;> decide
      have hwords : ∀ text ∈ words l ++ op.name :: words r, IsWord text := by
        rw [List.forall_mem_append, List.forall_mem_cons]
        exact ⟨ihl, isWord_of_mem_fixedKinds hname, ihr⟩
      apply isWord_parentheses hwords
  | @negation x _ ih =>
      have hwords : ∀ text ∈ "-" :: words x, IsWord text := by
        rw [List.forall_mem_cons]
        exact ⟨isWord_of_mem_fixedKinds (by decide), ih⟩
      apply isWord_parentheses hwords
  | @conditional c r body _ _ _ ihc ihbody ihr =>
      have hwords : ∀ text ∈ "if" :: (words c ++ "then" :: bodyWords body ++ alternativeWords r),
          IsWord text := by
        rw [List.forall_mem_cons]
        exact ⟨isWord_of_mem_fixedKinds (by decide), isWord_conditional ihc ihbody ihr⟩
      apply isWord_parentheses hwords
  | nothing =>
      rw [wordsAt, alternativeWords, List.forall_mem_singleton]
      apply isWord_of_mem_fixedKinds
      decide
  | @otherwise body _ ihbody =>
      have hwords : ∀ text ∈ "else" :: bodyWords body ++ ["end"], IsWord text := by
        rw [List.forall_mem_append, List.forall_mem_cons, List.forall_mem_singleton]
        exact ⟨⟨isWord_of_mem_fixedKinds (by decide), isWord_bodyWords ihbody⟩,
          isWord_of_mem_fixedKinds (by decide)⟩
      exact hwords
  | @orConditional c r body _ _ _ ihc ihbody ihr =>
      have hwords : ∀ text ∈
          "elseif" :: (words c ++ "then" :: bodyWords body ++ alternativeWords r),
          IsWord text := by
        rw [List.forall_mem_cons]
        exact ⟨isWord_of_mem_fixedKinds (by decide), isWord_conditional ihc ihbody ihr⟩
      exact hwords

/-- The text of canonical expressions is split into their words. -/
theorem split_rendering {ts : List Tree} (h : ∀ t ∈ ts, Canonical .expression t) :
  Lexeme.split (rendering ts) = .ok (bodyWords ts)
  := Lexeme.split_intercalate (isWord_bodyWords fun t ht => (h t ht).isWord)

end Tree

end ExprScript
