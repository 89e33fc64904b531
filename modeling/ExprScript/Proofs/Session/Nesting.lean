import ExprScript.Session
import Mathlib.Order.Nat

/-!
# The nesting of the scopes of a session

In a nested session every scope has a greater number than the scope around it.  The environment of a
scope then consists of the scope and the environment of the scope around it (`outer_environment`).
A scope inside another one has a path out to it, and the scopes on the path come first in its
environment (`Path.chain_environment`).
-/

namespace ExprScript.Session

/-- Whether every scope has a greater number than the scope around it. -/
def Nested (s : Session) : Prop := ∀ ⦃id parent⦄, s.parentOf? id = some parent → parent < id

theorem around_of_root {s : Session} {id : Nat} (h : s.parentOf? id = none) (fuel : Nat) :
  s.around fuel id = []
  := by
  cases fuel with
  | zero => rfl
  | succ fuel => rw [around, h]

theorem around_of_parent
    {s : Session} {id parent : Nat} (h : s.parentOf? id = some parent) (fuel : Nat) :
  s.around (fuel + 1) id = parent :: s.around fuel parent
  := by
  rw [around, h]

/-- The scopes around a scope do not depend on the fuel from the number of the scope on. -/
theorem Nested.around_eq
    {s : Session} (hs : s.Nested) {fuel fuel' id : Nat} (h : id ≤ fuel) (h' : id ≤ fuel') :
  s.around fuel id = s.around fuel' id
  := by
  induction fuel generalizing fuel' id with
  | zero =>
      have hroot : s.parentOf? id = none := by
        apply Option.eq_none_iff_forall_ne_some.mpr
        intro parent hparent
        have hlt := hs hparent
        omega
      rw [around_of_root hroot, around_of_root hroot]
  | succ fuel ih =>
      cases hparent : s.parentOf? id with
      | none => rw [around_of_root hparent, around_of_root hparent]
      | some parent =>
          have hlt := hs hparent
          obtain ⟨fuel', rfl⟩ : ∃ n, fuel' = n + 1 := ⟨fuel' - 1, by omega⟩
          rw [around_of_parent hparent, around_of_parent hparent]
          congr 1
          apply ih <;> omega

/-- The environment of a scope depends on the scopes only. -/
theorem environment_of_scopes_eq {s after : Session} (h : after.scopes = s.scopes) (id : Nat) :
  after.environment id = s.environment id
  := by
  have hown (t : Nat) : after.ownOf t = s.ownOf t := by
    rw [Session.ownOf, Session.ownOf, h]
  have hparent (t : Nat) : after.parentOf? t = s.parentOf? t := by
    rw [Session.parentOf?, Session.parentOf?, h]
  have haround (fuel t : Nat) : after.around fuel t = s.around fuel t := by
    induction fuel generalizing t with
    | zero => rfl
    | succ fuel ih =>
        rw [around, around, hparent]
        cases s.parentOf? t with
        | none => rfl
        | some parent => simp only [ih]
  rw [environment, environment, hown, haround, funext hown]

/-- Around a scope is the environment of the scope around it. -/
theorem Nested.outer_environment {s : Session} (hs : s.Nested) (id : Nat) :
  (s.environment id).outer = (s.parentOf? id).elim [] (fun parent => (s.environment parent).chain)
  := by
  change (s.around id id).map s.ownOf = _
  cases hparent : s.parentOf? id with
  | none =>
      rw [around_of_root hparent]
      rfl
  | some parent =>
      rw [hs.around_eq (le_refl id) (Nat.le_succ id), around_of_parent hparent,
        hs.around_eq (hs hparent).le (le_refl parent)]
      rfl

/-! ### Paths -/

/-- The numbers of the scopes from the scope `t` up to but excluding the scope `id`, which is `t` or
around it. -/
inductive Path (s : Session) (id : Nat) : (t : Nat) → List Nat → Prop
  | here : Path s id id []
  | out {t parent : Nat} {path : List Nat} :
      s.parentOf? t = some parent → Path s id parent path → Path s id t (t :: path)

theorem Path.le
    {s : Session} (hs : s.Nested) {id t : Nat} {path : List Nat} (h : s.Path id t path) :
  id ≤ t
  := by
  induction h with
  | here => rfl
  | out hparent _ ih => apply ih.trans (hs hparent).le

/-- The scopes on a path lie between its ends. -/
theorem Path.of_mem
    {s : Session} (hs : s.Nested) {id t : Nat} {path : List Nat} (h : s.Path id t path) {i : Nat}
    (hi : i ∈ path) :
  id < i ∧ i ≤ t
  := by
  induction h with
  | here => cases hi
  | out hparent hpath ih =>
      have hlt := hs hparent
      cases hi with
      | head => exact ⟨(hpath.le hs).trans_lt hlt, le_refl _⟩
      | tail _ hi => exact ⟨(ih hi).1, (ih hi).2.trans hlt.le⟩

/-- The environment of a scope consists of the scopes on a path and the environment where
it ends. -/
theorem Path.chain_environment
    {s : Session} (hs : s.Nested) {id t : Nat} {path : List Nat} (h : s.Path id t path) :
  (s.environment t).chain = path.map s.ownOf ++ (s.environment id).chain
  := by
  induction h with
  | here => rfl
  | @out t parent path hparent _ ih =>
      rw [Environment.chain, hs.outer_environment, hparent, Option.elim, ih, List.map_cons,
        List.cons_append]
      rfl

end ExprScript.Session
