import ExprScript.Program
import ExprScript.Proofs.Eval.Safety
import ExprScript.Proofs.Grammar.Realization
import ExprScript.Proofs.Tree.Construction
import ExprScript.Proofs.Tree.Occurrence

/-!
# Errors on built trees

The constructors check what an atom carries and which atoms may be heads and leaves, but not how
many operands a node has, nor whether its head has a rule of evaluation.  Evaluating a built tree
therefore never lacks a datum, and it lacks an operand or a rule only if the tree shows the node
that is to blame (`evaluate_built_error`).
-/

namespace ExprScript

/-- Whether the error is expected or the tree shows its cause.  A missing datum has no cause in a
built tree, and a target that is reported is built. -/
def EvalError.ShowsIn (tree : Tree) : EvalError → Prop
  | .badDatum => False
  | .missingOperand => ∃ head tail, Tree.OccursIn (.node head tail) tree ∧
      tail.length < head.kind.asksFor
  | .operationAsLeaf kind => ∃ a, tree = .atom a ∧ a.kind = kind ∧ kind.isLeaf = false
  | .unknownOperation kind => ∃ head tail, Tree.OccursIn (.node head tail) tree ∧
      head.kind = kind ∧ kind ∈ [.invert, .otherwise, .close]
  | .invalidTarget target => target.Built
  | _ => True

/-- Whether `t` occurs in the whole tree, is well formed, and is the whole tree if it is an
operation as a leaf. -/
structure Tree.IsPartOf (whole t : Tree) : Prop where
  occurs : t.OccursIn whole
  wellFormed : t.WellFormed
  whole_of_operation : ∀ {a : Atom}, t = .atom a → a.kind.isLeaf = false → whole = .atom a

/-- An atom in the tail of a well-formed node is a leaf. -/
theorem Tree.WellFormed.isLeaf_of_mem
    {head a : Atom} {tail : List Tree} (h : WellFormed (.node head tail)) (ha : .atom a ∈ tail) :
  a.kind.isLeaf = true
  := by
  rw [WellFormed] at h
  have hoperand := (Parser.tailFault?_eq_none_iff tail).mp h.2.2.1 _ ha
  by_contra hleaf
  simp [Parser.IsOperand, tailFault?, hleaf] at hoperand

/-- The head of a well-formed node without a rule of evaluation is one of three operations. -/
theorem Tree.WellFormed.mem_of_hasRule
    {head : Atom} {tail : List Tree} (h : WellFormed (.node head tail))
    (hrule : head.kind.hasRule = false) :
  head.kind ∈ [.invert, .otherwise, .close]
  := by
  rw [WellFormed] at h
  obtain ⟨-, hhead, -⟩ := h
  obtain ⟨kind, datum⟩ := head
  cases kind with
  | invert | otherwise | close => simp
  | symbol | string | number | truth | falsity | nothing => cases hhead
  | _ => cases hrule

/-- The parts of a well-formed tree cause the errors that show in it. -/
theorem Eval.confines_isPartOf (whole : Tree) :
  Confines whole.IsPartOf (EvalError.ShowsIn whole)
  where
  operands {head tail} hpart t ht := by
    have hwell := hpart.wellFormed
    refine ⟨hpart.occurs.of_mem ht, ?_, ?_⟩
    · rw [Tree.WellFormed, Tree.wellFormedAll_iff] at hwell
      apply hwell.2.2.2 t ht
    · rintro a rfl hleaf
      rw [hwell.isLeaf_of_mem ht] at hleaf
      cases hleaf
  fault hpart := by
    have hwell := hpart.wellFormed
    rwa [Tree.WellFormed] at hwell
  operationAsLeaf {a} hpart hleaf := ⟨a, hpart.whole_of_operation rfl hleaf, rfl, hleaf⟩
  unknownOperation {head tail} hpart hrule :=
    ⟨head, tail, hpart.occurs, rfl, hpart.wellFormed.mem_of_hasRule hrule⟩
  missingOperand {head tail} hpart hlength := ⟨head, tail, hpart.occurs, hlength⟩
  expected {e} he htarget := by
    cases e with
    | invalidTarget target => exact (htarget target rfl).wellFormed.built
    | operationAsLeaf | unknownOperation | missingOperand | badDatum => cases he
    | _ => trivial

namespace Program

/-- Let evaluating a built tree stop with an error, in whatever environment.

* The error is one of evaluation, and it is no missing datum.
* If an operand is missing, then a node in the tree has fewer operands than its rule looks for: two
  for an operation on two operands, one for a negation, three for a conditional.
* If an operation is unknown, then the tree is an operation as a leaf, or it has a node headed by
  an inversion, an otherwise or a close.
* A target that is reported is built, so each of its atoms has what writing it takes. -/
theorem evaluate_built_error
    (limit : Nat) {tree : Tree} (htree : tree.Built) {m m' : Machine} {e : Error}
    (h : (evaluate limit tree).run m = .error e m') :
  ∃ cause, e = .eval cause ∧ cause ≠ .badDatum ∧
    (cause = .missingOperand →
      ∃ head tail, Tree.OccursIn (.node head tail) tree ∧ tail.length < head.kind.asksFor) ∧
    (cause.title = "UnknownOperationError" →
      (∃ a, tree = .atom a ∧ a.kind.isLeaf = false) ∨
        ∃ head tail, Tree.OccursIn (.node head tail) tree ∧
          head.kind ∈ [.invert, .otherwise, .close]) ∧
    ∀ target, cause = .invalidTarget target → target.Built
  := by
  have hpart : tree.IsPartOf tree := ⟨.self, htree.wellFormed, fun htree _ => htree⟩
  rw [EStateM.run, evaluate] at h
  split at h
  · cases h
  · next cause after hrun =>
      cases h
      have hshows := (((Eval.confines_isPartOf tree).evalAt limit hpart).of_error trivial hrun).2
      refine ⟨cause, rfl, ?_, ?_, ?_, ?_⟩
      · rintro rfl
        exact hshows
      · rintro rfl
        exact hshows
      · intro htitle
        cases cause with
        | operationAsLeaf kind =>
            obtain ⟨a, hwhole, rfl, hleaf⟩ := hshows
            exact .inl ⟨a, hwhole, hleaf⟩
        | unknownOperation kind =>
            obtain ⟨head, tail, hoccurs, rfl, hkind⟩ := hshows
            exact .inr ⟨head, tail, hoccurs, hkind⟩
        | _ => simp [EvalError.title] at htitle
      · rintro target rfl
        exact hshows

/-- A chain binds `x` in its innermost operand and then finds that the product on it has no second
operand; the branch with an unknown operation is not reached. -/
theorem evaluate_built_error_missing :
  let tree : Tree := .node (.ofKind .plus)
    [.node (.ofKind .times)
      [.node (.ofKind .assign) [.atom ⟨.symbol, some (.text "x")⟩, .atom (.ofKind .truth)]],
    .node (.ofKind .invert) [.atom ⟨.string, some (.text "y")⟩]]
  tree.Built ∧
    ∃ m', (evaluate 3 tree).run (.ofEnvironment .empty) = .error (.eval .missingOperand) m' ∧
      m'.env.get? "x" = some (.truth true) ∧
      ∃ head tail, Tree.OccursIn (.node head tail) tree ∧ tail.length < head.kind.asksFor
  := by
  intro tree
  have hbuilt : tree.Built := by
    apply Tree.WellFormed.built
    simp only [tree, Tree.WellFormed, Tree.WellFormedAll]
    decide
  refine ⟨hbuilt, _, rfl, rfl, ?_⟩
  obtain ⟨cause, hcause, -, hmissing, -⟩ :=
    evaluate_built_error 3 hbuilt (m := .ofEnvironment .empty) rfl
  cases hcause
  exact hmissing rfl

end Program

end ExprScript
