import ExprScript.Value

/-!
# Scopes

A scope binds names to values. It keeps its names in the order in which they were first
bound: binding a name again changes its value and not its place.
-/

namespace ExprScript

namespace Scope

/-- The entries with `name` bound to `value`: in its place, or else at the end. -/
def insertEntry (name : String) (value : Value) :
    List (String × Value) → List (String × Value)
  | [] => [(name, value)]
  | (key, old) :: rest =>
    if key = name then (key, value) :: rest else (key, old) :: insertEntry name value rest

/-- Binding a name leaves the names in their places, with a new name at the end. -/
theorem map_insertEntry (name : String) (value : Value) (entries : List (String × Value)) :
  (insertEntry name value entries).map Prod.fst =
    if name ∈ entries.map Prod.fst then entries.map Prod.fst else entries.map Prod.fst ++ [name]
  := by
  induction entries with
  | nil => rfl
  | cons entry rest ih =>
      obtain ⟨first, old⟩ := entry
      rw [insertEntry]
      split
      · next hfirst => simp [hfirst]
      · next hfirst =>
          rw [List.map_cons, List.map_cons, ih]
          by_cases hmem : name ∈ rest.map Prod.fst
          · simp [hmem]
          · simp [hmem, Ne.symm hfirst]

/-- Binding a name binds no name twice. -/
theorem nodup_insertEntry
    {entries : List (String × Value)} (h : (entries.map Prod.fst).Nodup) (name : String)
    (value : Value) :
  ((insertEntry name value entries).map Prod.fst).Nodup
  := by
  rw [map_insertEntry]
  split
  · exact h
  · next hname =>
      rw [List.nodup_append]
      refine ⟨h, by simp, ?_⟩
      rintro key hkey _ hlast rfl
      apply hname
      rwa [← List.mem_singleton.mp hlast]

end Scope

/-- Names bound to values, in the order in which they were first bound. No name is bound
twice. -/
@[ext]
structure Scope where
  entries : List (String × Value)
  distinct : (entries.map Prod.fst).Nodup

namespace Scope

/-- The scope that binds nothing. -/
def empty : Scope :=
  ⟨[], List.nodup_nil⟩

/-- The value bound to a name, if it is bound. -/
def get? (s : Scope) (name : String) : Option Value :=
  s.entries.lookup name

/-- The scope with `name` bound to `value`. -/
def insert (s : Scope) (name : String) (value : Value) : Scope :=
  ⟨insertEntry name value s.entries, nodup_insertEntry s.distinct name value⟩

/-- The names bound, in the order in which they were first bound. -/
def names (s : Scope) : List String :=
  s.entries.map Prod.fst

/-- The scope with the names of the entries bound one after the other. -/
def insertAll (s : Scope) (entries : List (String × Value)) : Scope :=
  entries.foldl (fun t entry => t.insert entry.1 entry.2) s

/-- The scope with the bindings of `other` over its own. -/
def update (s other : Scope) : Scope :=
  s.insertAll other.entries

/-- The bindings as written, each name in quotes. -/
def entriesText : List (String × Value) → String
  | [] => ""
  | [(name, value)] => Text.quoted name ++ ": " ++ value.description
  | (name, value) :: rest =>
    Text.quoted name ++ ": " ++ value.description ++ ", " ++ entriesText rest

end Scope

end ExprScript
