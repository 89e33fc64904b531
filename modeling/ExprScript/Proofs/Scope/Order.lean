import ExprScript.Proofs.Scope.Environment
import Mathlib.Data.List.Induction

/-!
# The order of names

A scope that results from binding names one after the other has the names in the order in which they
were first bound (`names_insertAll`), and gives for a name the value to which it was bound last
(`get?_insertAll_last`).

The visible bindings of an environment therefore have the names of its scopes from the outermost to
the innermost, each at its first place (`names_bindings`).
-/

namespace ExprScript

namespace Scope

/-- If a scope has the names of a list in the order of their first occurrences, then binding one
more name gives the names of the list with that name at its end. -/
theorem names_insert_of_eraseDups
    {s : Scope} {names : List String} (h : s.names = names.eraseDups) (name : String)
    (value : Value) :
  (s.insert name value).names = (names ++ [name]).eraseDups
  := by
  rw [names_insert, h, List.eraseDups_append]
  by_cases hname : name ∈ names
  · simp [hname, List.removeAll]
  · simp [hname, List.removeAll, List.eraseDups_cons]

/-- If a scope has the names of a list in the order of their first occurrences, then binding the
names of entries gives the names of the list followed by those of the entries, in the order of their
first occurrences. -/
theorem names_insertAll
    {s : Scope} {names : List String} (h : s.names = names.eraseDups)
    (entries : List (String × Value)) :
  (s.insertAll entries).names = (names ++ entries.map Prod.fst).eraseDups
  := by
  induction entries generalizing s names with
  | nil =>
      rw [List.map_nil, List.append_nil]
      exact h
  | cons entry rest ih =>
      obtain ⟨name, value⟩ := entry
      rw [insertAll_cons, ih (names_insert_of_eraseDups h name value), List.append_assoc]
      rfl

theorem names_update
    {s : Scope} {names : List String} (h : s.names = names.eraseDups) (other : Scope) :
  (s.update other).names = (names ++ other.names).eraseDups
  := names_insertAll h other.entries

theorem insertAll_append_singleton
    (s : Scope) (entries : List (String × Value)) (name : String) (value : Value) :
  s.insertAll (entries ++ [(name, value)]) = (s.insertAll entries).insert name value
  := List.foldl_append

/-- Binding the names of entries gives for a name the value of its last entry, and else what was
given before. -/
theorem get?_insertAll_last (s : Scope) (entries : List (String × Value)) (key : String) :
  (s.insertAll entries).get? key = (entries.reverse.lookup key).or (s.get? key)
  := by
  induction entries using List.reverseRecOn with
  | nil => rfl
  | append_singleton entries entry ih =>
      obtain ⟨name, value⟩ := entry
      rw [insertAll_append_singleton, get?_insert, ih, List.reverse_append, List.reverse_singleton,
        List.singleton_append, lookup_entry]
      split <;> rfl

/-! ### What a scope binds -/

/-- A name is bound exactly when it is among the names. -/
theorem isSome_get?_iff {s : Scope} {name : String} :
  (s.get? name).isSome = true ↔ name ∈ s.names
  := by
  rw [Option.isSome_iff_ne_none, ne_eq, get?_eq_none_iff, not_not]

theorem mem_iff_lookup_eq_some
    {entries : List (String × Value)} (h : (entries.map Prod.fst).Nodup) {name : String}
    {value : Value} :
  (name, value) ∈ entries ↔ entries.lookup name = some value
  := by
  induction entries with
  | nil => simp
  | cons entry rest ih =>
      obtain ⟨first, old⟩ := entry
      obtain ⟨hfirst, hrest⟩ := List.nodup_cons.mp h
      rw [lookup_entry, List.mem_cons, Prod.mk.injEq, ih hrest]
      by_cases hname : name = first
      · subst hname
        have hnone : rest.lookup name = none := lookup_eq_none_iff.mpr hfirst
        simp [hnone, eq_comm]
      · simp [hname]

/-- A scope has the entries of the values that it gives. -/
theorem mem_entries_iff {s : Scope} {name : String} {value : Value} :
  (name, value) ∈ s.entries ↔ s.get? name = some value
  := mem_iff_lookup_eq_some s.distinct

end Scope

/-- The visible bindings have the names of the scopes from the outermost to the innermost, each at
its first place. -/
theorem Environment.names_bindings (env : Environment) :
  env.bindings.names = (env.chain.reverse.flatMap Scope.names).eraseDups
  := by
  rw [bindings]
  induction env.chain with
  | nil => rfl
  | cons scope scopes ih =>
      rw [List.foldr_cons, Scope.names_update ih, List.reverse_cons, List.flatMap_append,
        List.flatMap_singleton]

end ExprScript
