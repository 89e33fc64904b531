import ExprScript.Proofs.Scope.Order
import ExprScript.Proofs.Session.Step

/-!
# What the scopes of a session show

A session that results from making scopes and binding names holds in each scope the bindings made in
it, one after the other (`BuiltBy.ownOf_eq`), and every scope has a path out to a scope with none
around it (`Nested.exists_root`).

In such a session three ways of asking a scope agree: its visible bindings bind a name to a value
exactly when it gives the value for the name, and it contains exactly these names.  The names of the
visible bindings come from the scopes from the outermost to the innermost (`answer_visible`).
-/

namespace ExprScript.Session

/-- A name bound to a value in the scope with a number. -/
structure Write where
  scope : Nat
  name : String
  value : Value

/-- The names that some writes bind in a scope, with their values and in the same order. -/
def writesIn (writes : List Write) (id : Nat) : List (String × Value) :=
  (writes.filter (fun write => write.scope = id)).map (fun write => (write.name, write.value))

/-- The sessions that making scopes and binding names lead to from the start, asked of the scopes
there are, with the bindings made on the way. -/
inductive BuiltBy (limit : Nat) : List Write → Session → Prop
  | start (fresh : Nat) : BuiltBy limit [] (start fresh)
  | child {writes : List Write} {s : Session} {id : Nat} (count : Nat) :
      BuiltBy limit writes s → id < s.scopes.size →
      BuiltBy limit writes (s.answer limit id (.child count)).2
  | insert {writes : List Write} {s : Session} {id : Nat} (name : String) (value : Value) :
      BuiltBy limit writes s → id < s.scopes.size →
      BuiltBy limit (writes ++ [⟨id, name, value⟩]) (s.answer limit id (.insert name value)).2

variable {limit : Nat} {writes : List Write} {s : Session}

theorem BuiltBy.reachable (h : BuiltBy limit writes s) :
  Reachable limit s
  := by
  induction h with
  | start fresh => apply Reachable.start
  | child count _ hid ih => apply ih.answer (.child count) hid
  | insert name value _ hid ih => apply ih.answer (.insert name value) hid

/-! ### The bindings of a scope -/

theorem ownOf_start (fresh id : Nat) :
  (start fresh).ownOf id = .empty
  := by
  cases id <;> rfl

theorem writesIn_append_singleton (writes : List Write) (write : Write) (id : Nat) :
  writesIn (writes ++ [write]) id =
    writesIn writes id ++ if write.scope = id then [(write.name, write.value)] else []
  := by
  rw [writesIn, List.filter_append, List.map_append]
  congr 1
  by_cases hid : write.scope = id <;> simp [hid]

/-- A scope holds the bindings made in it, one after the other. -/
theorem BuiltBy.ownOf_eq (h : BuiltBy limit writes s) (id : Nat) :
  s.ownOf id = Scope.empty.insertAll (writesIn writes id)
  := by
  induction h with
  | start fresh => apply ownOf_start
  | child count _ _ ih => exact (ownOf_addChildren _ count _ id).trans ih
  | @insert writes s id' name value _ hid ih =>
      change (s.setOwn id' _).ownOf id = _
      rw [ownOf_setOwn hid, writesIn_append_singleton]
      by_cases hsame : id' = id
      · subst hsame
        rw [if_pos rfl, if_pos rfl, Scope.insertAll_append_singleton, ← ih]
      · rw [if_neg (Ne.symm hsame), if_neg hsame, List.append_nil, ih]

/-- A scope has its names in the order in which they were first bound in it. -/
theorem BuiltBy.names_ownOf (h : BuiltBy limit writes s) (id : Nat) :
  (s.ownOf id).names = ((writesIn writes id).map Prod.fst).eraseDups
  := by
  have hempty : Scope.empty.names = ([] : List String).eraseDups := rfl
  rw [h.ownOf_eq]
  exact Scope.names_insertAll hempty _

/-! ### The outermost scope -/

/-- A scope of a nested session has a path out to a scope with none around it. -/
theorem Nested.exists_root (hs : s.Nested) (id : Nat) :
  ∃ root path, s.parentOf? root = none ∧ s.Path root id path
  := by
  induction id using Nat.strongRecOn with
  | ind id ih =>
      cases hparent : s.parentOf? id with
      | none => exact ⟨id, [], hparent, .here⟩
      | some parent =>
          obtain ⟨root, path, hroot, hpath⟩ := ih parent (hs hparent)
          exact ⟨root, id :: path, hroot, .out hparent hpath⟩

/-- The environment of a scope with a path out to the outermost one has the scopes on the path and
then the outermost one. -/
theorem Path.chain_of_root
    (hs : s.Nested) {root id : Nat} {path : List Nat} (h : s.Path root id path)
    (hroot : s.parentOf? root = none) :
  (s.environment id).chain = (path ++ [root]).map s.ownOf
  := by
  have houter : (s.environment root).outer = [] := by
    rw [hs.outer_environment, hroot, Option.elim]
  rw [h.chain_environment hs, Environment.chain, houter, List.map_append]
  rfl

/-! ### Visible bindings -/

/-- In every session that making scopes and binding names lead to, let a scope `id` have no more
than `limit` scopes around it.  Then its visible bindings can be asked for, and

* they bind a name to a value exactly when the scope gives the value for the name,
* the scope contains a name exactly when they bind it,
* their names are the names of the scopes on the path out to the outermost one, from the outermost
  to the innermost, with later repetitions of a name dropped, and
* each scope has its names in the order in which they were first bound in it. -/
theorem answer_visible
    (h : BuiltBy limit writes s) {id : Nat} (hdepth : (s.environment id).depth ≤ limit) :
  ∃ visible, (s.answer limit id .bindings).1 = .bindings (some visible) ∧
    (s.answer limit id .names).1 = .names (some visible.names) ∧
    (∀ name value, (name, value) ∈ visible.entries ↔
      (s.answer limit id (.get name)).1 = .value (some value)) ∧
    (∀ name, (s.answer limit id (.contains (some name))).1 = .truth true ↔
      name ∈ visible.names) ∧
    (∃ root path, s.parentOf? root = none ∧ s.Path root id path ∧
      visible.names = ((path ++ [root]).reverse.flatMap fun t => (s.ownOf t).names).eraseDups) ∧
    ∀ t, (s.ownOf t).names = ((writesIn writes t).map Prod.fst).eraseDups
  := by
  have hs := h.reachable.nested
  have hget := Environment.get?_bindings (s.environment id)
  have hbindings : (s.environment id).bindings? limit = some (s.environment id).bindings :=
    if_pos hdepth
  refine ⟨(s.environment id).bindings, ?_, ?_, ?_, ?_, ?_, h.names_ownOf⟩
  · rw [answer, hbindings]
  · rw [answer, hbindings, Option.map_some]
  · intro name value
    rw [Scope.mem_entries_iff, hget, answer, Reply.value.injEq]
  · intro name
    rw [answer, Reply.truth.injEq, Option.any_some, Environment.contains, ← hget,
      Scope.isSome_get?_iff]
  · obtain ⟨root, path, hroot, hpath⟩ := hs.exists_root id
    refine ⟨root, path, hroot, hpath, ?_⟩
    rw [Environment.names_bindings, hpath.chain_of_root hs hroot, ← List.map_reverse,
      List.flatMap_map]

/-- The scope 1 is inside 0.  Both bind `x`, and 0 binds it again and then `z` after 1 was made.
The visible bindings of 1 have the names in the order `x`, `z`, `y`, with the value of `x` in 1. -/
theorem answer_visible_shadowed :
  let s : Session :=
    ⟨#[⟨none, ⟨[("x", .truth true), ("z", .nothing)], by decide⟩⟩,
      ⟨some 0, ⟨[("y", .nothing), ("x", .truth false)], by decide⟩⟩], [0, 1], 1⟩
  (∃ writes, BuiltBy 1 writes s) ∧ (s.answer 1 1 .names).1 = .names (some ["x", "z", "y"]) ∧
    ∃ visible, (s.answer 1 1 .bindings).1 = .bindings (some visible) ∧
      ("x", .truth false) ∈ visible.entries
  := by
  intro s
  obtain ⟨writes, hbuilt⟩ : ∃ writes, BuiltBy 1 writes s := by
    have h1 : BuiltBy 1 _ _ := .insert "x" .nothing (.start 1) (show 0 < _ by decide)
    have h2 : BuiltBy 1 _ _ := .child 1 h1 (show 0 < _ by decide)
    have h3 : BuiltBy 1 _ _ := .insert "y" .nothing h2 (show 1 < _ by decide)
    have h4 : BuiltBy 1 _ _ := .insert "x" (.truth false) h3 (show 1 < _ by decide)
    have h5 : BuiltBy 1 _ _ := .insert "x" (.truth true) h4 (show 0 < _ by decide)
    exact ⟨_, .insert "z" .nothing h5 (show 0 < _ by decide)⟩
  have hdepth : (s.environment 1).depth ≤ 1 := by decide
  obtain ⟨visible, hvisible, hnames, hget, -, ⟨root, path, hroot, hpath, horder⟩, -⟩ :=
    answer_visible hbuilt hdepth
  refine ⟨⟨writes, hbuilt⟩, ?_, visible, hvisible, (hget _ _).mpr rfl⟩
  -- the only path from 1 to an outermost scope leads to 0
  rcases hpath with _ | ⟨⟨⟩, _ | ⟨⟨⟩, _⟩⟩
  · cases hroot
  · rw [hnames, horder]
    rfl

end ExprScript.Session
