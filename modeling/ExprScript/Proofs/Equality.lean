import ExprScript.Proofs.Number.Equality
import ExprScript.Tree.Text
import ExprScript.Value
import Mathlib.Data.List.Forall2

/-!
# Equality of values and trees

Values are the same when they are equal or are numbers that are the same, and so is what atoms
carry.  Trees are the same when their leaves are, one by one, and their heads are.  A relation that
holds of leaves that are the same, and passes from operands to nodes with heads that are the same,
holds of trees that are the same (`Tree.Congruence.of_same`).

Sameness of values and sameness of trees are equivalences.  The same values have one type and are
shown alike, and the same trees are equally high and written alike (`same_rendered_alike`).
-/

namespace ExprScript

/-- An equivalence `R`, carried along an injective `f`, with equality for what `f` does not give. -/
theorem equivalence_along
    {α β : Type} {f : α → β} (hf : f.Injective) {R : α → α → Prop} (hR : Equivalence R) :
  Equivalence (fun a b => a = b ∨ ∃ x y, a = f x ∧ b = f y ∧ R x y)
  := by
  constructor
  · intro a
    exact .inl rfl
  · rintro a b (rfl | ⟨x, y, rfl, rfl, hxy⟩)
    · exact .inl rfl
    · exact .inr ⟨y, x, rfl, rfl, hR.symm hxy⟩
  · rintro a b c (rfl | ⟨x, y, rfl, rfl, hxy⟩) hbc
    · exact hbc
    · right
      rcases hbc with rfl | ⟨y', z, hy, rfl, hyz⟩
      · exact ⟨x, y, rfl, rfl, hxy⟩
      · obtain rfl := hf hy
        exact ⟨x, z, rfl, rfl, hR.trans hxy hyz⟩

/-! ### Values -/

namespace Value

/-- Values are the same exactly when they are equal or are numbers that are the same. -/
theorem same_iff {v w : Value} :
  v.same w = true ↔ v = w ∨ ∃ x y, v = .number x ∧ w = .number y ∧ x.same y = true
  := by
  constructor
  · intro h
    cases v <;> cases w <;> simp_all [same]
  · rintro (rfl | ⟨x, y, rfl, rfl, h⟩)
    · cases v <;> simp [same, Number.same_self]
    · exact h

/-- Sameness of values is reflexive, symmetric and transitive. -/
theorem same_equivalence :
  Equivalence (fun v w : Value => v.same w = true)
  := by
  simp only [same_iff]
  apply equivalence_along (fun _ _ => Value.number.inj) Number.same_equivalence

theorem typeName_of_same {v w : Value} (h : v.same w = true) :
  v.typeName = w.typeName
  := by
  rcases same_iff.mp h with rfl | ⟨x, y, rfl, rfl, -⟩ <;> rfl

theorem shown_of_same {v w : Value} (h : v.same w = true) :
  v.shown = w.shown
  := by
  rcases same_iff.mp h with rfl | ⟨x, y, rfl, rfl, hxy⟩
  · rfl
  · exact Number.text_of_same hxy

end Value

/-! ### Atoms -/

namespace Datum

theorem same_iff {d e : Datum} :
  d.same e = true ↔ d = e ∨ ∃ x y, d = .number x ∧ e = .number y ∧ x.same y = true
  := by
  constructor
  · intro h
    cases d <;> cases e <;> simp_all [same]
  · rintro (rfl | ⟨x, y, rfl, rfl, h⟩)
    · cases d <;> simp [same, Number.same_self]
    · exact h

theorem same_equivalence :
  Equivalence (fun d e : Datum => d.same e = true)
  := by
  simp only [same_iff]
  apply equivalence_along (fun _ _ => Datum.number.inj) Number.same_equivalence

theorem shown_of_same {d e : Datum} (h : d.same e = true) :
  d.shown = e.shown
  := by
  rcases same_iff.mp h with rfl | ⟨x, y, rfl, rfl, hxy⟩
  · rfl
  · exact Number.text_of_same hxy

end Datum

namespace Atom

/-- Atoms are the same exactly when they are of one kind and carry the same, if anything. -/
theorem same_iff {a b : Atom} :
  a.same b = true ↔
    a.kind = b.kind ∧ Option.Rel (fun d e => d.same e = true) a.datum b.datum
  := by
  obtain ⟨kind, datum⟩ := a
  obtain ⟨kind', datum'⟩ := b
  rw [same, Bool.and_eq_true, beq_iff_eq]
  apply and_congr_right'
  cases datum <;> cases datum'
  · simp
  · simp only [Bool.false_eq_true, false_iff]
    rintro ⟨⟩
  · simp only [Bool.false_eq_true, false_iff]
    rintro ⟨⟩
  · constructor
    · exact fun h => .some h
    · rintro ⟨h⟩
      exact h

/-- Sameness of atoms is reflexive, symmetric and transitive. -/
theorem same_equivalence :
  Equivalence (fun a b : Atom => a.same b = true)
  := by
  simp only [same_iff]
  constructor
  · rintro ⟨kind, _ | d⟩
    · exact ⟨rfl, .none⟩
    · exact ⟨rfl, .some (Datum.same_equivalence.refl d)⟩
  · rintro ⟨kind, datum⟩ ⟨kind', datum'⟩ ⟨hkind, hdatum⟩
    refine ⟨hkind.symm, ?_⟩
    cases hdatum with
    | none => exact .none
    | some h => exact .some (Datum.same_equivalence.symm h)
  · rintro ⟨kind, datum⟩ ⟨kind', datum'⟩ ⟨kind'', datum''⟩ ⟨hkind, hdatum⟩ ⟨hkind', hdatum'⟩
    refine ⟨hkind.trans hkind', ?_⟩
    cases hdatum with
    | none => exact hdatum'
    | some h =>
        cases hdatum' with
        | some h' => exact .some (Datum.same_equivalence.trans h h')

theorem text_of_same {a b : Atom} (h : a.same b = true) :
  a.text = b.text
  := by
  obtain ⟨kind, datum⟩ := a
  obtain ⟨kind', datum'⟩ := b
  obtain ⟨rfl, hdatum⟩ := same_iff.mp h
  cases hdatum with
  | none => rfl
  | some hd =>
      have hshown := Datum.shown_of_same hd
      cases kind <;> simp [Atom.text, hshown]

end Atom

/-! ### Trees -/

namespace Tree

theorem sameAll_iff {ts us : List Tree} :
  sameAll ts us = true ↔ List.Forall₂ (fun t u => t.same u = true) ts us
  := by
  induction ts generalizing us with
  | nil => cases us <;> simp [sameAll]
  | cons t ts ih => cases us <;> simp [sameAll, ih]

/-- Nodes are the same exactly when their heads are and their operands are, one by one. -/
theorem same_node_iff {h k : Atom} {ts us : List Tree} :
  (Tree.node h ts).same (.node k us) = true ↔
    h.same k = true ∧ List.Forall₂ (fun t u => t.same u = true) ts us
  := by
  rw [same, Bool.and_eq_true, sameAll_iff]

mutual

theorem same_self : ∀ t : Tree, t.same t = true
  | .atom a => by
    rw [same]
    apply Atom.same_equivalence.refl
  | .node h ts => by
    rw [same, Bool.and_eq_true]
    exact ⟨Atom.same_equivalence.refl h, sameAll_self ts⟩

theorem sameAll_self : ∀ ts : List Tree, sameAll ts ts = true
  | [] => rfl
  | t :: ts => by
    rw [sameAll, Bool.and_eq_true]
    exact ⟨same_self t, sameAll_self ts⟩

end

/-- A relation that holds of leaves that are the same, and passes from operands to nodes with heads
that are the same. -/
structure Congruence (R : Tree → Tree → Prop) : Prop where
  atom : ∀ {a b}, a.same b = true → R (.atom a) (.atom b)
  node : ∀ {h k ts us}, h.same k = true → List.Forall₂ R ts us → R (.node h ts) (.node k us)

mutual

/-- Every congruence holds of trees that are the same. -/
theorem Congruence.of_same {R : Tree → Tree → Prop} (hR : Congruence R) :
    ∀ {t u : Tree}, t.same u = true → R t u
  | .atom a, .atom b, h => hR.atom h
  | .node h ts, .node k us, hsame => by
    rw [same, Bool.and_eq_true] at hsame
    exact hR.node hsame.1 (hR.of_sameAll hsame.2)

theorem Congruence.of_sameAll {R : Tree → Tree → Prop} (hR : Congruence R) :
    ∀ {ts us : List Tree}, sameAll ts us = true → List.Forall₂ R ts us
  | [], [], _ => .nil
  | t :: ts, u :: us, hsame => by
    rw [sameAll, Bool.and_eq_true] at hsame
    exact .cons (hR.of_same hsame.1) (hR.of_sameAll hsame.2)

end

theorem congruence_symm :
  Congruence (fun t u => u.same t = true)
  where
  atom h := Atom.same_equivalence.symm h
  node hhead htail := same_node_iff.mpr ⟨Atom.same_equivalence.symm hhead, htail.flip⟩

theorem congruence_trans :
  Congruence (fun t u => ∀ v : Tree, u.same v = true → t.same v = true)
  where
  atom hab := by
    rintro (c | ⟨l, vs⟩) hbc
    · exact Atom.same_equivalence.trans hab hbc
    · cases hbc
  node hhead htail := by
    rintro (c | ⟨l, vs⟩) h
    · cases h
    · obtain ⟨hhead', htail'⟩ := same_node_iff.mp h
      refine same_node_iff.mpr ⟨Atom.same_equivalence.trans hhead hhead', ?_⟩
      clear h
      induction htail generalizing vs with
      | nil => exact htail'
      | cons hfirst _ ih =>
          cases htail' with
          | cons hfirst' hrest' => exact .cons (hfirst _ hfirst') (ih _ hrest')

/-- Sameness of trees is reflexive, symmetric and transitive. -/
theorem same_equivalence :
  Equivalence (fun t u : Tree => t.same u = true)
  where
  refl := same_self
  symm h := congruence_symm.of_same h
  trans h h' := congruence_trans.of_same h _ h'

/-! ### Text -/

theorem textAll_congr {ts us : List Tree} (h : List.Forall₂ (fun t u => t.text = u.text) ts us) :
  textAll ts = textAll us
  := by
  induction h with
  | nil => rfl
  | cons hfirst _ ih => rw [textAll, textAll, hfirst, ih]

theorem heightAll_congr
    {ts us : List Tree} (h : List.Forall₂ (fun t u => t.height = u.height) ts us) :
  heightAll ts = heightAll us
  := by
  induction h with
  | nil => rfl
  | cons hfirst _ ih => rw [heightAll, heightAll, hfirst, ih]

theorem congruence_text :
  Congruence (fun t u => t.text = u.text)
  where
  atom h := Atom.text_of_same h
  node hhead htail := by
    rw [text, text, Atom.text_of_same hhead, textAll_congr htail]

theorem congruence_height :
  Congruence (fun t u => t.height = u.height)
  where
  atom _ := rfl
  node _ htail := by
    rw [height, height, heightAll_congr htail]

/-- The same trees are equally high and written alike. -/
theorem text?_of_same {t u : Tree} (h : t.same u = true) (limit : Nat) :
  t.text? limit = u.text? limit
  := by
  rw [text?, text?, congruence_height.of_same h, congruence_text.of_same h]

end Tree

/-- Two numbers are the same exactly when they are one number, with its origin if it is undefined,
or have one value, as the two zeros do.  With numbers compared in this way,

* sameness of values is reflexive, symmetric and transitive, and so is sameness of trees of any
  size,
* the same values have one type and are shown alike, and
* the same trees are written alike, if they are low enough to be written. -/
theorem same_rendered_alike :
  (∀ x y : Number, x.same y = true ↔ x = y ∨ Number.HaveOneValue x y) ∧
    Equivalence (fun v w : Value => v.same w = true) ∧
    Equivalence (fun t u : Tree => t.same u = true) ∧
    (∀ v w : Value, v.same w = true → v.typeName = w.typeName ∧ v.shown = w.shown) ∧
    ∀ t u : Tree, t.same u = true → ∀ limit, t.text? limit = u.text? limit
  := by
  refine ⟨fun _ _ => Number.same_iff, Value.same_equivalence, Tree.same_equivalence, ?_, ?_⟩
  · intro v w h
    exact ⟨Value.typeName_of_same h, Value.shown_of_same h⟩
  · intro t u h limit
    apply Tree.text?_of_same h

end ExprScript
