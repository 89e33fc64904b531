import ExprScript.Proofs.Program.Frame
import ExprScript.Proofs.Session.Nesting

/-!
# What a request changes of a session

A request makes new scopes at most, or changes the bindings of the scope of which it is asked, and
only for names that it assigns (`answer_alters`).  This is also so where a program stops with an
error. Every session that requests lead to is therefore nested (`Reachable.nested`).
-/

namespace ExprScript.Session

open Environment (Framed)

/-! ### Changes to a session -/

/-- What a session may become when new scopes are made, and no other names than `names` are bound in
the scope `id`. -/
structure Alters (names : String → Prop) (id : Nat) (s after : Session) : Prop where
  size : s.scopes.size ≤ after.scopes.size
  parentOf? : ∀ {t}, t < s.scopes.size → after.parentOf? t = s.parentOf? t
  ownOf : ∀ {t}, t < s.scopes.size → t ≠ id → after.ownOf t = s.ownOf t
  order : (s.ownOf id).names <+: (after.ownOf id).names
  written : ∀ {name}, (after.ownOf id).get? name ≠ (s.ownOf id).get? name → names name
  added : ∀ {t parent}, s.scopes.size ≤ t → after.parentOf? t = some parent → parent < t

variable {names : String → Prop} {id : Nat} {s after : Session}

theorem parentOf?_eq_none {t : Nat} (ht : s.scopes.size ≤ t) :
  s.parentOf? t = none
  := by
  rw [Session.parentOf?, Array.getElem?_eq_none ht]
  rfl

theorem ownOf_of_size_le {t : Nat} (ht : s.scopes.size ≤ t) :
  s.ownOf t = .empty
  := by
  rw [Session.ownOf, Array.getElem?_eq_none ht]

theorem Alters.refl (names : String → Prop) (id : Nat) (s : Session) :
  Alters names id s s
  where
  size := le_refl _
  parentOf? _ := rfl
  ownOf _ _ := rfl
  order := List.prefix_rfl
  written hne := absurd rfl hne
  added ht hparent := by
    rw [parentOf?_eq_none ht] at hparent
    cases hparent

/-- Only the scopes matter. -/
theorem Alters.of_scopes_eq
    {mid : Session} (h : Alters names id s mid) (hscopes : after.scopes = mid.scopes) :
  Alters names id s after
  := by
  obtain ⟨scopes, listed, fresh⟩ := after
  subst hscopes
  exact ⟨h.size, h.parentOf?, h.ownOf, h.order, h.written, h.added⟩

/-- Scopes stay nested. -/
theorem Alters.nested (h : Alters names id s after) (hs : s.Nested) :
  after.Nested
  := by
  intro t parent hparent
  rcases Nat.lt_or_ge t s.scopes.size with ht | ht
  · rw [h.parentOf? ht] at hparent
    apply hs hparent
  · apply h.added ht hparent

/-- A name whose binding in the scope changes is bound there afterwards. -/
theorem Alters.exists_own
    (h : Alters names id s after) {key : String}
    (hne : (after.ownOf id).get? key ≠ (s.ownOf id).get? key) :
  ∃ value, (after.ownOf id).get? key = some value
  := by
  apply Option.ne_none_iff_exists'.mp
  intro hafter
  have hbefore : (s.ownOf id).get? key ≠ none := by
    rw [← hafter]
    apply hne.symm
  apply Scope.get?_eq_none_iff.mp hafter
  apply h.order.subset
  rwa [ne_eq, Scope.get?_eq_none_iff, not_not] at hbefore

/-! ### New bindings -/

theorem parentOf?_setOwn (s : Session) (id : Nat) (own : Scope) (t : Nat) :
  (s.setOwn id own).parentOf? t = s.parentOf? t
  := by
  rw [Session.parentOf?, Session.parentOf?, setOwn, Array.getElem?_modify]
  split
  · rw [Option.bind_map]
    rfl
  · rfl

theorem ownOf_setOwn (hid : id < s.scopes.size) (own : Scope) (t : Nat) :
  (s.setOwn id own).ownOf t = if t = id then own else s.ownOf t
  := by
  rw [Session.ownOf, Session.ownOf, setOwn, Array.getElem?_modify]
  by_cases ht : t = id
  · rw [ht, if_pos rfl, if_pos rfl, Array.getElem?_eq_getElem hid]
    rfl
  · rw [if_neg (Ne.symm ht), if_neg ht]

/-- Replacing the bindings of a scope within the frame of the names. -/
theorem Alters.setOwn
    (hid : id < s.scopes.size) {env : Environment} (h : Framed names (s.environment id) env) :
  Alters names id s (s.setOwn id env.own)
  where
  size := by
    rw [Session.setOwn, Array.size_modify]
  parentOf? _ := parentOf?_setOwn s id env.own _
  ownOf _ hne := by
    rw [ownOf_setOwn hid, if_neg hne]
  order := by
    rw [ownOf_setOwn hid, if_pos rfl]
    apply h.order
  written {name} hne := by
    rw [ownOf_setOwn hid, if_pos rfl] at hne
    apply h.written name hne
  added ht hparent := by
    rw [parentOf?_setOwn, parentOf?_eq_none ht] at hparent
    cases hparent

/-! ### New scopes -/

theorem parentOf?_push (s : Session) (inside t : Nat) :
  Session.parentOf? { s with scopes := s.scopes.push ⟨some inside, .empty⟩ } t =
    if t = s.scopes.size then some inside else s.parentOf? t
  := by
  rw [Session.parentOf?, Session.parentOf?, Array.getElem?_push]
  split <;> rfl

/-- A new scope binds nothing, as does a scope that there is not. -/
theorem ownOf_push (s : Session) (inside t : Nat) :
  Session.ownOf { s with scopes := s.scopes.push ⟨some inside, .empty⟩ } t = s.ownOf t
  := by
  rw [Session.ownOf, Array.getElem?_push]
  by_cases hlast : t = s.scopes.size
  · rw [if_pos hlast, hlast, ownOf_of_size_le (le_refl _)]
  · rw [if_neg hlast, Session.ownOf]

theorem ownOf_addChildren (s : Session) (count inside t : Nat) :
  (s.addChildren count inside).1.ownOf t = s.ownOf t
  := by
  induction count generalizing s inside with
  | zero => rfl
  | succ count ih => rw [addChildren, ih, ownOf_push]

theorem Alters.trans
    {mid : Session} (h : Alters names id s mid) (h' : Alters names id mid after) :
  Alters names id s after
  where
  size := h.size.trans h'.size
  parentOf? ht := (h'.parentOf? (ht.trans_le h.size)).trans (h.parentOf? ht)
  ownOf ht hne := (h'.ownOf (ht.trans_le h.size) hne).trans (h.ownOf ht hne)
  order := h.order.trans h'.order
  written {name} hne := by
    by_cases hmid : (mid.ownOf id).get? name = (s.ownOf id).get? name
    · apply h'.written
      rwa [hmid]
    · apply h.written hmid
  added {t parent} ht hparent := by
    rcases Nat.lt_or_ge t mid.scopes.size with htmid | htmid
    · rw [h'.parentOf? htmid] at hparent
      apply h.added ht hparent
    · apply h'.added htmid hparent

/-- Making a scope inside one there is. -/
theorem Alters.push {inside : Nat} (hinside : inside < s.scopes.size) :
  Alters names id s { s with scopes := s.scopes.push ⟨some inside, .empty⟩ }
  := by
  constructor
  · rw [Array.size_push]
    apply Nat.le_succ
  · intro t ht
    rw [parentOf?_push, if_neg ht.ne]
  · intro t _ _
    apply ownOf_push
  · simp only [ownOf_push, List.prefix_rfl]
  · intro name hne
    rw [ownOf_push] at hne
    contradiction
  · intro t parent ht hparent
    rw [parentOf?_push] at hparent
    split at hparent
    · next hlast =>
        cases hparent
        rwa [hlast]
    · rw [parentOf?_eq_none ht] at hparent
      cases hparent

theorem Nested.push (hs : s.Nested) {inside : Nat} (hinside : inside < s.scopes.size) :
  Session.Nested { s with scopes := s.scopes.push ⟨some inside, .empty⟩ }
  := by
  have h : Alters (fun _ => False) inside s _ := .push hinside
  apply h.nested hs

/-- Making scopes one inside the other. -/
theorem Alters.addChildren (count : Nat) {inside : Nat} (hinside : inside < s.scopes.size) :
  Alters names id s (s.addChildren count inside).1
  := by
  induction count generalizing s inside with
  | zero => apply Alters.refl
  | succ count ih =>
      apply (Alters.push hinside).trans
      apply ih
      rw [Array.size_push]
      apply Nat.lt_succ_self

/-! ### Requests -/

/-- Whether a request binds the name: it is given, or the tree to be evaluated assigns to it. -/
def Request.Assigns (limit : Nat) (request : Request) (name : String) : Prop :=
  match request with
  | .insert key _ => key = name
  | .run source => ∃ tree, Program.ReadsAs limit source tree ∧ tree.Assigns name
  | .evaluate tree => tree.Assigns name
  | _ => False

/-- The program that a request runs, if it runs one. -/
def Request.program? (limit : Nat) : Request → Option (EStateM Error Machine Value)
  | .run source => some (Program.run limit source)
  | .evaluate tree => some (Program.evaluate limit tree)
  | _ => none

/-- The machine on which a program is run in a scope. -/
def machine (s : Session) (id : Nat) : Machine :=
  ⟨s.environment id, s.fresh, #[]⟩

theorem scopes_runIn (s : Session) (id : Nat) (program : EStateM Error Machine Value) :
  (s.runIn id program).2.scopes = (s.setOwn id (finalState program (s.machine id)).env.own).scopes
  := by
  rw [runIn, finalState, machine]
  cases program.run ⟨s.environment id, s.fresh, #[]⟩ with
  | ok value m => rfl
  | error e m => rfl

/-- The program of a request binds no other names than the request assigns. -/
theorem Request.framed
    {limit : Nat} {request : Request} {program : EStateM Error Machine Value}
    (h : request.program? limit = some program) (m : Machine) :
  Framed (request.Assigns limit) m.env (finalState program m).env
  := by
  cases request with
  | run source =>
      cases h
      apply Program.run_framed
  | evaluate tree =>
      cases h
      apply Program.evaluate_framed
  | _ => cases h

/-- A request that runs a program leaves the bindings that the program leaves in the innermost
scope. -/
theorem scopes_answer
    {limit : Nat} {request : Request} {program : EStateM Error Machine Value}
    (h : request.program? limit = some program) (s : Session) (id : Nat) :
  (s.answer limit id request).2.scopes =
    (s.setOwn id (finalState program (s.machine id)).env.own).scopes
  := by
  cases request with
  | run source =>
      cases h
      apply scopes_runIn
  | evaluate tree =>
      cases h
      apply scopes_runIn
  | _ => cases h

theorem ownOf_answer
    {limit : Nat} {request : Request} {program : EStateM Error Machine Value}
    (h : request.program? limit = some program) (hid : id < s.scopes.size) :
  (s.answer limit id request).2.ownOf id = (finalState program (s.machine id)).env.own
  := by
  rw [Session.ownOf, scopes_answer h]
  change (s.setOwn id _).ownOf id = _
  rw [ownOf_setOwn hid, if_pos rfl]

/-- A request changes no other bindings than those that it assigns in its scope. -/
theorem answer_alters (limit : Nat) (hid : id < s.scopes.size) (request : Request) :
  Alters (request.Assigns limit) id s (s.answer limit id request).2
  := by
  cases hprogram : request.program? limit with
  | some program =>
      apply (Alters.setOwn hid (Request.framed hprogram (s.machine id))).of_scopes_eq
      apply scopes_answer hprogram
  | none =>
      cases request with
      | child count =>
          apply (Alters.addChildren count hid).of_scopes_eq
          rfl
      | insert name value =>
          have hrefl := Framed.refl (Request.Assigns limit (.insert name value)) (s.environment id)
          apply Alters.setOwn hid (hrefl.insert rfl value)
      | run | evaluate => cases hprogram
      | get | contains | bindings | names | parent | describe => apply Alters.refl

/-! ### Sequences of requests -/

/-- The sessions that requests lead to from the start, each asked of one of the scopes there are. -/
inductive Reachable (limit : Nat) : Session → Prop
  | start (fresh : Nat) : Reachable limit (start fresh)
  | answer {s : Session} {id : Nat} (request : Request) :
      Reachable limit s → id < s.scopes.size → Reachable limit (s.answer limit id request).2

theorem nested_start (fresh : Nat) :
  (start fresh).Nested
  := by
  intro id parent hparent
  cases id with
  | zero => cases hparent
  | succ id => cases hparent

/-- In every session that requests lead to, a scope has a greater number than the scope around
it. -/
theorem Reachable.nested {limit : Nat} (h : Reachable limit s) :
  s.Nested
  := by
  induction h with
  | start fresh => apply nested_start
  | answer request _ hid ih => apply (answer_alters limit hid request).nested ih

end ExprScript.Session
