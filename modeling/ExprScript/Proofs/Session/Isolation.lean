import ExprScript.Proofs.Session.Step
import Mathlib.Logic.Function.Iterate

/-!
# Scopes of a session are isolated

What a scope gives for a name can change by a request to another scope only if it is inside that
scope, and only where no scope on the way out to it binds the name (`answer_isolates`).  This holds
in every session that requests lead to, for every request, and also where a program stops with an
error.  A scope that a request makes has the environment of the scope around it, with an empty scope
inside (`environment_answer_child`).
-/

namespace ExprScript.Session

variable {names : String → Prop} {id : Nat} {s after : Session}

/-! ### Environments after a change -/

theorem Alters.outer_environment
    (h : Alters names id s after) (hs : s.Nested) {t : Nat} (ht : t < s.scopes.size)
    (hparent : ∀ parent, s.parentOf? t = some parent →
      after.environment parent = s.environment parent) :
  (after.environment t).outer = (s.environment t).outer
  := by
  rw [(h.nested hs).outer_environment, hs.outer_environment, h.parentOf? ht]
  cases htp : s.parentOf? t with
  | none => rfl
  | some parent => rw [Option.elim, Option.elim, hparent parent htp]

/-- A scope that is neither the changed one nor inside it has the same environment. -/
theorem Alters.environment_of_outside
    (h : Alters names id s after) (hs : s.Nested) {t : Nat} (ht : t < s.scopes.size)
    (hout : ∀ path, ¬ s.Path id t path) :
  after.environment t = s.environment t
  := by
  induction t using Nat.strongRecOn with
  | ind t ih =>
      have hne : t ≠ id := by
        rintro rfl
        apply hout [] .here
      have houter := h.outer_environment hs ht (by
        intro parent hparent
        have hlt := hs hparent
        apply ih parent hlt (hlt.trans ht)
        intro path hpath
        apply hout (t :: path) (.out hparent hpath))
      change Environment.mk (after.ownOf t) (after.environment t).outer = _
      rw [h.ownOf ht hne, houter]
      rfl

/-- The changed scope has the same scopes around it. -/
theorem Alters.outer_self (h : Alters names id s after) (hs : s.Nested) (hid : id < s.scopes.size) :
  (after.environment id).outer = (s.environment id).outer
  := by
  apply h.outer_environment hs hid
  intro parent hparent
  have hlt := hs hparent
  apply h.environment_of_outside hs (hlt.trans hid)
  intro path hpath
  apply hlt.not_ge (hpath.le hs)

theorem Alters.path
    (h : Alters names id s after) (hs : s.Nested) {t : Nat} (ht : t < s.scopes.size)
    {path : List Nat} (hpath : s.Path id t path) :
  after.Path id t path
  := by
  induction hpath with
  | here => apply Path.here
  | out hparent _ ih =>
      apply Path.out ((h.parentOf? ht).trans hparent)
      apply ih ((hs hparent).trans ht)

/-- The scopes on a path to the changed scope are the same. -/
theorem Alters.map_ownOf
    (h : Alters names id s after) (hs : s.Nested) {t : Nat} (ht : t < s.scopes.size)
    {path : List Nat} (hpath : s.Path id t path) :
  path.map after.ownOf = path.map s.ownOf
  := by
  apply List.map_congr_left
  intro i hi
  have hbetween := hpath.of_mem hs hi
  apply h.ownOf (hbetween.2.trans_lt ht) hbetween.1.ne'

/-! ### The environment of a new scope -/

theorem environment_push (hs : s.Nested) (hid : id < s.scopes.size) :
  Session.environment { s with scopes := s.scopes.push ⟨some id, .empty⟩ } s.scopes.size =
    (s.environment id).child
  := by
  have h : Alters (fun _ => False) id s { s with scopes := s.scopes.push ⟨some id, .empty⟩ } :=
    .push hid
  have hparent := parentOf?_push s id s.scopes.size
  rw [if_pos rfl] at hparent
  change Environment.mk (Session.ownOf _ s.scopes.size)
    (Session.environment _ s.scopes.size).outer = _
  rw [ownOf_push, ownOf_of_size_le (le_refl _), (hs.push hid).outer_environment, hparent,
    Option.elim]
  change Environment.mk .empty (Session.ownOf _ id :: (Session.environment _ id).outer) = _
  rw [ownOf_push, h.outer_self hs hid]
  rfl

/-- The innermost of a chain of new scopes has the environment of the scope in which they are made,
with as many empty scopes inside it. -/
theorem environment_addChildren
    (hs : s.Nested) (hid : id < s.scopes.size) (count : Nat) :
  (s.addChildren count id).1.environment (s.addChildren count id).2 =
    Environment.child^[count] (s.environment id)
  := by
  induction count generalizing s id with
  | zero => rfl
  | succ count ih =>
      have hlast : s.scopes.size < (s.scopes.push ⟨some id, .empty⟩).size := by simp
      rw [addChildren, ih (hs.push hid) hlast, environment_push hs hid, Function.iterate_succ_apply]

/-- In every session that requests lead to, asking a scope for a chain of `count` scopes inside it
lists one more scope, whose environment is that of the scope with `count` empty scopes inside. -/
theorem environment_answer_child
    {limit : Nat} (hs : Reachable limit s) (hid : id < s.scopes.size) (count : Nat) :
  let after := (s.answer limit id (.child count)).2
  (s.answer limit id (.child count)).1 = .place (some s.listed.length) ∧
    ∃ child, after.listed? s.listed.length = some child ∧
      after.environment child = Environment.child^[count] (s.environment id)
  := by
  intro after
  refine ⟨rfl, (s.addChildren count id).2, List.getElem?_concat_length, ?_⟩
  rw [← environment_addChildren hs.nested hid count]
  apply environment_of_scopes_eq
  rfl

/-! ### What scopes give for a name -/

theorem get?_of_ownOf {key : String} {value : Value} (h : (s.ownOf id).get? key = some value) :
  (s.environment id).get? key = some value
  := by
  change (s.ownOf id :: (s.environment id).outer).findSome? (·.get? key) = some value
  rw [List.findSome?_cons, h]

/-- A scope gives for a name what the scopes on a path give, and else what the scope at its end
does. -/
theorem Path.get?_environment
    (hs : s.Nested) {t : Nat} {path : List Nat} (h : s.Path id t path) (key : String) :
  (s.environment t).get? key =
    ((path.map s.ownOf).findSome? (·.get? key)).or ((s.environment id).get? key)
  := by
  rw [Environment.get?, h.chain_environment hs, List.findSome?_append]
  rfl

theorem Alters.get?_environment
    (h : Alters names id s after) (hs : s.Nested) {t : Nat} (ht : t < s.scopes.size)
    {path : List Nat} (hpath : s.Path id t path) (key : String) :
  (after.environment t).get? key =
    ((path.map s.ownOf).findSome? (·.get? key)).or ((after.environment id).get? key)
  := by
  rw [(h.path hs ht hpath).get?_environment (h.nested hs), h.map_ownOf hs ht hpath]

/-- Where no scope on a path binds a name, the scope gives for it what is bound at the end. -/
theorem Alters.get?_of_unbound
    (h : Alters names id s after) (hs : s.Nested) {t : Nat} (ht : t < s.scopes.size)
    {path : List Nat} (hpath : s.Path id t path) {key : String}
    (hunbound : ∀ i ∈ path, (s.ownOf i).get? key = none) {value : Value}
    (hvalue : (after.ownOf id).get? key = some value) :
  (after.environment t).get? key = some value
  := by
  have hnone : (path.map s.ownOf).findSome? (·.get? key) = none := by
    rw [List.findSome?_eq_none_iff, List.forall_mem_map]
    exact hunbound
  rw [h.get?_environment hs ht hpath, hnone, Option.none_or, get?_of_ownOf hvalue]

/-- If what a scope gives for a name changes, then no scope on the path binds it, and what the scope
at its end gives changes. -/
theorem Alters.unbound_of_ne
    (h : Alters names id s after) (hs : s.Nested) {t : Nat} (ht : t < s.scopes.size)
    {path : List Nat} (hpath : s.Path id t path) {key : String}
    (hne : (after.environment t).get? key ≠ (s.environment t).get? key) :
  (∀ i ∈ path, (s.ownOf i).get? key = none) ∧
    (after.environment id).get? key ≠ (s.environment id).get? key
  := by
  rw [h.get?_environment hs ht hpath, hpath.get?_environment hs] at hne
  cases hbound : (path.map s.ownOf).findSome? (·.get? key) with
  | none =>
      rw [hbound, Option.none_or, Option.none_or] at hne
      rw [List.findSome?_eq_none_iff, List.forall_mem_map] at hbound
      exact ⟨hbound, hne⟩
  | some value =>
      rw [hbound] at hne
      contradiction

/-- If what the scope gives for a name changes, then its own binding does. -/
theorem Alters.ownOf_ne
    (h : Alters names id s after) (hs : s.Nested) (hid : id < s.scopes.size) {key : String}
    (hne : (after.environment id).get? key ≠ (s.environment id).get? key) :
  (after.ownOf id).get? key ≠ (s.ownOf id).get? key
  := by
  intro heq
  apply hne
  change (after.ownOf id :: (after.environment id).outer).findSome? (·.get? key) =
    (s.ownOf id :: (s.environment id).outer).findSome? (·.get? key)
  rw [h.outer_self hs hid, List.findSome?_cons, List.findSome?_cons, heq]

/-- The scope in which a program is run has the environment that the program leaves. -/
theorem environment_answer
    (hs : s.Nested) (hid : id < s.scopes.size) {limit : Nat} {request : Request}
    {program : EStateM Error Machine Value} (h : request.program? limit = some program) :
  (s.answer limit id request).2.environment id = (finalState program (s.machine id)).env
  := by
  have hframed := Request.framed h (s.machine id)
  change Environment.mk ((s.answer limit id request).2.ownOf id)
    ((s.answer limit id request).2.environment id).outer = _
  rw [ownOf_answer h hid, (answer_alters limit hid request).outer_self hs hid]
  change Environment.mk _ (s.machine id).env.outer = _
  rw [← hframed.outer]

/-- In every session that requests lead to, let a request be asked of the scope `id`, and let
`after` be the session after it, whether the request runs a program that stops with an error or not.

* A scope that is neither `id` nor inside it gives the same as before for every name.
* If `id` or a scope inside it gives for a name something else than before, then the request assigns
  the name, its binding in `id` has changed, and no scope from that scope up to but excluding `id`
  binds the name.  The scope then gives the value to which the name is bound in `id`.
* Where no scope up to but excluding `id` binds a name, a scope gives the value to which the name is
  bound in `id`.
* If the request runs a program, then the environment of `id` is what the program leaves. -/
theorem answer_isolates
    {limit : Nat} {s : Session} (hs : Reachable limit s) {id : Nat} (hid : id < s.scopes.size)
    (request : Request) :
  let after := (s.answer limit id request).2
  (∀ t < s.scopes.size, (∀ path, ¬ s.Path id t path) →
      ∀ key, (after.environment t).get? key = (s.environment t).get? key) ∧
    (∀ t < s.scopes.size, ∀ path, s.Path id t path → ∀ key,
      (after.environment t).get? key ≠ (s.environment t).get? key →
        request.Assigns limit key ∧ (after.ownOf id).get? key ≠ (s.ownOf id).get? key ∧
          (∀ i ∈ path, (s.ownOf i).get? key = none) ∧
          ∃ value, (after.ownOf id).get? key = some value ∧
            (after.environment t).get? key = some value) ∧
    (∀ t < s.scopes.size, ∀ path, s.Path id t path → ∀ key,
      (∀ i ∈ path, (s.ownOf i).get? key = none) →
        ∀ value, (after.ownOf id).get? key = some value →
          (after.environment t).get? key = some value) ∧
    ∀ program, request.program? limit = some program →
      after.environment id = (finalState program (s.machine id)).env
  := by
  have hnested := hs.nested
  have h := answer_alters limit hid request
  refine ⟨?_, ?_, ?_, ?_⟩
  · intro t ht hout key
    rw [h.environment_of_outside hnested ht hout]
  · intro t ht path hpath key hne
    obtain ⟨hunbound, hne⟩ := h.unbound_of_ne hnested ht hpath hne
    have hown := h.ownOf_ne hnested hid hne
    obtain ⟨value, hvalue⟩ := h.exists_own hown
    exact ⟨h.written hown, hown, hunbound, value, hvalue,
      h.get?_of_unbound hnested ht hpath hunbound hvalue⟩
  · intro t ht path hpath key hunbound value hvalue
    apply h.get?_of_unbound hnested ht hpath hunbound hvalue
  · intro program hprogram
    apply environment_answer hnested hid hprogram

/-- The scopes 2 and 3 are inside 1, which is inside 0, and 2 binds `x`.  Evaluating `x = true` and
then the unbound `y` in 1 stops with an error.  Afterwards 0 still gives nothing for `x`, and 2 what
it gave before, but 3 gives true. -/
theorem answer_isolates_failure :
  let s : Session :=
    ⟨#[⟨none, .empty⟩, ⟨some 0, .empty⟩, ⟨some 1, ⟨[("x", .nothing)], by decide⟩⟩,
      ⟨some 1, .empty⟩], [0, 1, 2, 3], 1⟩
  let request : Request := .evaluate (.node (.ofKind .block)
    [.node (.ofKind .assign) [.atom ⟨.symbol, some (.text "x")⟩, .atom (.ofKind .truth)],
    .atom ⟨.symbol, some (.text "y")⟩])
  let after := (s.answer 3 1 request).2
  Reachable 3 s ∧ (s.answer 3 1 request).1 = .outcome (.error (.eval (.unbound "y"))) ∧
    (after.environment 0).get? "x" = none ∧
    (after.environment 2).get? "x" = some .nothing ∧
    (after.environment 3).get? "x" = some (.truth true)
  := by
  intro s request after
  have hreachable : Reachable 3 s := by
    have h1 : Reachable 3 _ := .answer (.child 1) (.start 1) (show 0 < _ by decide)
    have h2 : Reachable 3 _ := .answer (.child 1) h1 (show 1 < _ by decide)
    have h3 : Reachable 3 _ := .answer (.child 1) h2 (show 1 < _ by decide)
    exact .answer (.insert "x" .nothing) h3 (show 2 < _ by decide)
  have hid : 1 < s.scopes.size := by decide
  obtain ⟨houtside, hinside, hthrough, -⟩ := answer_isolates hreachable hid request
  refine ⟨hreachable, rfl, ?_, ?_, ?_⟩
  · apply houtside 0 (by decide)
    rintro path (_ | ⟨⟨⟩, _⟩)
  · have hpath : s.Path 1 2 [2] := .out rfl .here
    by_contra hne
    obtain ⟨-, -, hunbound, -⟩ := hinside 2 (by decide) [2] hpath "x" hne
    cases hunbound 2 (.head _)
  · have hpath : s.Path 1 3 [3] := .out rfl .here
    apply hthrough 3 (by decide) [3] hpath "x"
    · intro i hi
      rw [List.mem_singleton.mp hi]
      rfl
    · rfl

end ExprScript.Session
