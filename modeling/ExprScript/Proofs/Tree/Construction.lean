import ExprScript.Proofs.Tree.Shape

/-!
# Trees that the constructors give

A built tree is put together from its leaves up by constructors that check each atom and each node
they are given.  The built trees are the well-formed ones (`built_iff_wellFormed`).
-/

namespace ExprScript

theorem AtomKind.ofName?_name (kind : AtomKind) :
  ofName? kind.name = some kind
  := by
  cases kind <;> decide +kernel

namespace Tree

/-- The trees that the constructors give. -/
inductive Built : Tree → Prop
  | atom {name : String} {datum : Option Datum} {tree : Tree} :
      buildAtom name datum = .ok tree → Built tree
  | node {head tree : Tree} {tail : List Tree} :
      Built head → (∀ t ∈ tail, Built t) → build head tail = .ok tree → Built tree

/-- An atom is built exactly when its kind is known and it has no fault. -/
theorem buildAtom_eq_ok_iff {name : String} {datum : Option Datum} {tree : Tree} :
  buildAtom name datum = .ok tree ↔
    ∃ kind, AtomKind.ofName? name = some kind ∧ Atom.fault? ⟨kind, datum⟩ = none ∧
      tree = .atom ⟨kind, datum⟩
  := by
  rw [buildAtom, Atom.build]
  cases AtomKind.ofName? name with
  | none => simp [Except.map]
  | some kind =>
      cases hfault : Atom.fault? ⟨kind, datum⟩ with
      | none => simp [Except.map, hfault, eq_comm]
      | some fault => simp [Except.map, hfault]

/-- A node is built exactly when its head is an atom and neither its head nor its tail has a
fault. -/
theorem build_eq_ok_iff {head tree : Tree} {tail : List Tree} :
  build head tail = .ok tree ↔
    ∃ a, head = .atom a ∧ headFault? (.atom a) = none ∧ tailFault? tail = none ∧
      tree = .node a tail
  := by
  cases head with
  | node a ts => simp [build]
  | atom a =>
      cases hhead : headFault? (.atom a) with
      | some fault => simp [build, hhead]
      | none =>
          cases htail : tailFault? tail with
          | some fault => simp [build, hhead, htail]
          | none => simp [build, hhead, htail, eq_comm]

theorem Built.wellFormed {tree : Tree} (h : Built tree) :
  WellFormed tree
  := by
  induction h with
  | atom hbuild =>
      obtain ⟨kind, -, hfault, rfl⟩ := buildAtom_eq_ok_iff.mp hbuild
      rwa [WellFormed]
  | @node head tree tail _ _ hbuild ihhead ihtail =>
      obtain ⟨a, rfl, hhead, htail, rfl⟩ := build_eq_ok_iff.mp hbuild
      rw [WellFormed] at ihhead
      rw [WellFormed, wellFormedAll_iff]
      exact ⟨ihhead, hhead, htail, ihtail⟩

theorem built_atom {a : Atom} (h : a.fault? = none) :
  Built (.atom a)
  := Built.atom (buildAtom_eq_ok_iff.mpr ⟨a.kind, a.kind.ofName?_name, h, rfl⟩)

mutual

theorem WellFormed.built : ∀ {tree : Tree}, WellFormed tree → Built tree
  | .atom a, h => by
      rw [WellFormed] at h
      apply built_atom h
  | .node head tail, h => by
      rw [WellFormed] at h
      obtain ⟨hfault, hhead, htail, hall⟩ := h
      apply Built.node (built_atom hfault) (WellFormedAll.built hall)
      apply build_eq_ok_iff.mpr ⟨head, rfl, hhead, htail, rfl⟩

theorem WellFormedAll.built : ∀ {trees : List Tree}, WellFormedAll trees → ∀ t ∈ trees, Built t
  | [], _ => by simp
  | tree :: trees, h => by
      rw [WellFormedAll] at h
      rw [List.forall_mem_cons]
      exact ⟨WellFormed.built h.1, WellFormedAll.built h.2⟩

end

/-- The constructors give the trees that pass the checks everywhere. -/
theorem built_iff_wellFormed {tree : Tree} :
  Built tree ↔ WellFormed tree
  := ⟨Built.wellFormed, WellFormed.built⟩

end Tree

end ExprScript
