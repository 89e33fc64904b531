import ExprScript.Scope.Basic
import Mathlib.Data.List.Nodup

/-!
# Binding names in a scope

Binding a name changes what the scope gives for it and for no other name (`get?_insert`), and it
leaves the names bound before in their places (`names_insert`).

Updating with a scope binds its names over those before (`get?_update`), and updating with one more
binding is updating and then binding it (`update_insert`), with the same order of names.  Both hold
because no name is bound twice: the last of several entries for a name would win, and the first is
the one that is looked up.
-/

namespace ExprScript.Scope

/-! ### Binding one name -/

theorem lookup_entry (key first : String) (value : Value) (rest : List (String × Value)) :
  ((first, value) :: rest).lookup key = if key = first then some value else rest.lookup key
  := by
  rw [List.lookup_cons]
  by_cases hkey : key = first
  · simp [hkey]
  · rw [beq_eq_false_iff_ne.mpr hkey, if_neg hkey]

theorem lookup_insertEntry
    (name : String) (value : Value) (entries : List (String × Value)) (key : String) :
  (insertEntry name value entries).lookup key =
    if key = name then some value else entries.lookup key
  := by
  induction entries with
  | nil => apply lookup_entry
  | cons entry rest ih =>
      obtain ⟨first, old⟩ := entry
      rw [insertEntry]
      split
      · next hfirst =>
          subst hfirst
          rw [lookup_entry, lookup_entry]
          split <;> rfl
      · next hfirst =>
          rw [lookup_entry, lookup_entry, ih]
          by_cases hkey : key = first
          · simp [hkey, hfirst]
          · simp [hkey]

/-- A scope with a name bound gives the value for it, and what it gave before for any other name. -/
theorem get?_insert (s : Scope) (name : String) (value : Value) (key : String) :
  (s.insert name value).get? key = if key = name then some value else s.get? key
  := lookup_insertEntry name value s.entries key

/-- Binding a name leaves the names in their places, with a new name at the end. -/
theorem names_insert (s : Scope) (name : String) (value : Value) :
  (s.insert name value).names = if name ∈ s.names then s.names else s.names ++ [name]
  := map_insertEntry name value s.entries

theorem lookup_eq_none_iff {entries : List (String × Value)} {name : String} :
  entries.lookup name = none ↔ name ∉ entries.map Prod.fst
  := by
  induction entries with
  | nil => simp
  | cons entry rest ih =>
      obtain ⟨first, value⟩ := entry
      rw [lookup_entry, List.map_cons, List.mem_cons]
      by_cases hname : name = first
      · simp [hname]
      · rw [if_neg hname, ih, or_iff_right hname]

theorem get?_eq_none_iff {s : Scope} {name : String} :
  s.get? name = none ↔ name ∉ s.names
  := lookup_eq_none_iff

/-- An entry after a name is bound has the value bound, or was there before. -/
theorem snd_of_mem_insertEntry
    {name : String} {value : Value} {entries : List (String × Value)} {entry : String × Value}
    (h : entry ∈ insertEntry name value entries) :
  entry.2 = value ∨ entry ∈ entries
  := by
  fun_induction insertEntry name value entries with
  | case1 =>
      left
      rw [List.mem_singleton.mp h]
  | case2 old rest =>
      rcases List.mem_cons.mp h with rfl | hrest
      · exact .inl rfl
      · exact .inr (List.mem_cons_of_mem _ hrest)
  | case3 key old rest hkey ih =>
      rcases List.mem_cons.mp h with rfl | hrest
      · exact .inr List.mem_cons_self
      · apply (ih hrest).imp_right (List.mem_cons_of_mem _)

/-! ### Binding names in turn -/

theorem insertEntry_insertEntry_self
    (name : String) (old value : Value) (entries : List (String × Value)) :
  insertEntry name value (insertEntry name old entries) = insertEntry name value entries
  := by
  induction entries with
  | nil => simp [insertEntry]
  | cons entry rest ih =>
      obtain ⟨first, before⟩ := entry
      by_cases hfirst : first = name
      · simp [insertEntry, hfirst]
      · simp [insertEntry, hfirst, ih]

theorem insertEntry_comm
    {name other : String} (hne : other ≠ name) (value value' : Value)
    {entries : List (String × Value)} (hname : name ∈ entries.map Prod.fst) :
  insertEntry name value (insertEntry other value' entries) =
    insertEntry other value' (insertEntry name value entries)
  := by
  induction entries with
  | nil => cases hname
  | cons entry rest ih =>
      obtain ⟨first, before⟩ := entry
      by_cases hfirst : first = name
      · subst hfirst
        simp [insertEntry, Ne.symm hne]
      · have hrest : name ∈ rest.map Prod.fst := by simpa [Ne.symm hfirst] using hname
        by_cases hother : first = other
        · simp [insertEntry, hother, hne]
        · simp [insertEntry, hfirst, hother, ih hrest]

theorem insertEntry_of_not_mem
    {name : String} (value : Value) {entries : List (String × Value)}
    (h : name ∉ entries.map Prod.fst) :
  insertEntry name value entries = entries ++ [(name, value)]
  := by
  induction entries with
  | nil => rfl
  | cons entry rest ih =>
      obtain ⟨first, old⟩ := entry
      rw [List.map_cons, List.mem_cons, not_or] at h
      rw [insertEntry, if_neg (Ne.symm h.1), ih h.2, List.cons_append]

theorem mem_names_insert (s : Scope) (name : String) (value : Value) :
  name ∈ (s.insert name value).names
  := by
  rw [names_insert]
  split
  · assumption
  · simp

theorem mem_names_insert_of_mem
    {s : Scope} {key : String} (h : key ∈ s.names) (name : String) (value : Value) :
  key ∈ (s.insert name value).names
  := by
  rw [names_insert]
  split
  · exact h
  · exact List.mem_append_left _ h

theorem insert_insert_self (s : Scope) (name : String) (old value : Value) :
  (s.insert name old).insert name value = s.insert name value
  := Scope.ext (insertEntry_insertEntry_self name old value s.entries)

theorem insert_comm
    {s : Scope} {name other : String} (hne : other ≠ name) (value value' : Value)
    (hname : name ∈ s.names) :
  (s.insert other value').insert name value = (s.insert name value).insert other value'
  := Scope.ext (insertEntry_comm hne value value' hname)

/-! ### Binding the names of entries -/

theorem insertAll_cons (s : Scope) (name : String) (value : Value) (rest : List (String × Value)) :
  s.insertAll ((name, value) :: rest) = (s.insert name value).insertAll rest
  := rfl

/-- If no name occurs twice among the entries, then they give what is looked up among them, and
else what was given before. -/
theorem get?_insertAll
    (s : Scope) {entries : List (String × Value)} (h : (entries.map Prod.fst).Nodup)
    (key : String) :
  (s.insertAll entries).get? key = (entries.lookup key).or (s.get? key)
  := by
  induction entries generalizing s with
  | nil => rfl
  | cons entry rest ih =>
      obtain ⟨first, value⟩ := entry
      obtain ⟨hfirst, hrest⟩ := List.nodup_cons.mp h
      rw [insertAll_cons, ih _ hrest, get?_insert, lookup_entry]
      by_cases hkey : key = first
      · subst hkey
        have hnone : rest.lookup key = none := lookup_eq_none_iff.mpr hfirst
        rw [hnone, if_pos rfl, if_pos rfl, Option.none_or, Option.some_or]
      · rw [if_neg hkey, if_neg hkey]

/-- Binding a name that is bound, and is not among the entries, may be done before them. -/
theorem insert_insertAll
    {s : Scope} {name : String} (hname : name ∈ s.names) (value : Value)
    {entries : List (String × Value)} (hentries : name ∉ entries.map Prod.fst) :
  (s.insertAll entries).insert name value = (s.insert name value).insertAll entries
  := by
  induction entries generalizing s with
  | nil => rfl
  | cons entry rest ih =>
      obtain ⟨first, old⟩ := entry
      rw [List.map_cons, List.mem_cons, not_or] at hentries
      rw [insertAll_cons, ih (mem_names_insert_of_mem hname first old) hentries.2,
        insert_comm (Ne.symm hentries.1) value old hname, insertAll_cons]

/-- Entries with one more binding are the entries and then the binding. -/
theorem insertAll_insertEntry
    (s : Scope) {entries : List (String × Value)} (h : (entries.map Prod.fst).Nodup)
    (name : String) (value : Value) :
  s.insertAll (insertEntry name value entries) = (s.insertAll entries).insert name value
  := by
  induction entries generalizing s with
  | nil => rfl
  | cons entry rest ih =>
      obtain ⟨first, old⟩ := entry
      obtain ⟨hfirst, hrest⟩ := List.nodup_cons.mp h
      by_cases hname : first = name
      · subst hname
        rw [insertEntry, if_pos rfl, insertAll_cons, insertAll_cons,
          insert_insertAll (mem_names_insert s first old) value hfirst, insert_insert_self]
      · rw [insertEntry, if_neg hname, insertAll_cons, insertAll_cons]
        apply ih _ hrest

/-- Entries with new names are appended. -/
theorem entries_insertAll
    {s : Scope} {entries : List (String × Value)} (h : (entries.map Prod.fst).Nodup)
    (hdisjoint : s.names.Disjoint (entries.map Prod.fst)) :
  (s.insertAll entries).entries = s.entries ++ entries
  := by
  induction entries generalizing s with
  | nil => exact (List.append_nil s.entries).symm
  | cons entry rest ih =>
      obtain ⟨first, value⟩ := entry
      obtain ⟨hfirst, hrest⟩ := List.nodup_cons.mp h
      obtain ⟨hnew, hdisjoint⟩ := List.disjoint_cons_right.mp hdisjoint
      have hinsert : (s.insert first value).entries = s.entries ++ [(first, value)] :=
        insertEntry_of_not_mem value hnew
      rw [insertAll_cons, ih hrest, hinsert, List.append_assoc, List.singleton_append]
      rw [names_insert, if_neg hnew, List.disjoint_append_left, List.singleton_disjoint]
      exact ⟨hdisjoint, hfirst⟩

/-! ### Updating -/

/-- Updating with a scope gives what it gives, and else what was given before. -/
theorem get?_update (s other : Scope) (key : String) :
  (s.update other).get? key = (other.get? key).or (s.get? key)
  := get?_insertAll s other.distinct key

/-- Updating with one more binding is updating and then binding it. -/
theorem update_insert (s other : Scope) (name : String) (value : Value) :
  s.update (other.insert name value) = (s.update other).insert name value
  := insertAll_insertEntry s other.distinct name value

/-- Updating the empty scope with another one gives it. -/
theorem empty_update (other : Scope) :
  Scope.empty.update other = other
  := Scope.ext (entries_insertAll other.distinct (List.disjoint_nil_left _))

end ExprScript.Scope
