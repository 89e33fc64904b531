import ExprScript.Proofs.Scope.Environment

/-!
# Grounded environments

A value is grounded in an environment when it is no text and, if it is a symbol, the environment
binds its name.  An environment is grounded when every value that it stores is, also those that
inner scopes hide.  A grounded environment gives grounded values (`Grounded.get?`), and it stays
grounded when a name is bound to a grounded value (`Grounded.insert`).
-/

namespace ExprScript

/-- Whether the value is no text, and is no symbol with a name that the environment does not
bind. -/
def Value.GroundedIn (env : Environment) : Value → Prop
  | .number _ | .truth _ | .nothing => True
  | .symbol name => env.contains name = true
  | .text _ => False

/-- A grounded value stays grounded where more names are bound. -/
theorem Value.GroundedIn.mono
    {env env' : Environment} (hbound : ∀ {name}, env.contains name = true →
      env'.contains name = true) {v : Value} (h : v.GroundedIn env) :
  v.GroundedIn env'
  := by
  cases v with
  | symbol name => apply hbound h
  | text s => cases h
  | number | truth | nothing => trivial

namespace Environment

/-- A name is bound exactly when some scope has it among its names. -/
theorem contains_iff {env : Environment} {name : String} :
  env.contains name = true ↔ ∃ scope ∈ env.chain, name ∈ scope.names
  := by
  rw [contains, Environment.get?, List.findSome?_isSome_iff]
  simp only [Option.isSome_iff_ne_none, ne_eq, Scope.get?_eq_none_iff, not_not]

theorem contains_insert_self (env : Environment) (name : String) (value : Value) :
  (env.insert name value).contains name = true
  := by
  rw [contains, get?_insert, if_pos rfl, Option.isSome_some]

/-- Binding a name leaves the names bound that were bound before. -/
theorem contains_insert
    {env : Environment} {key : String} (h : env.contains key = true) (name : String)
    (value : Value) :
  (env.insert name value).contains key = true
  := by
  rw [contains, get?_insert]
  split
  · rfl
  · exact h

/-- Whether every value that a scope of the environment stores is grounded in it. -/
def Grounded (env : Environment) : Prop :=
  ∀ scope ∈ env.chain, ∀ entry ∈ scope.entries, entry.2.GroundedIn env

theorem grounded_empty :
  Grounded .empty
  := by
  simp [Grounded, Environment.empty, chain, Scope.empty]

/-- What is given for a name is stored under it. -/
theorem mem_entries_of_get?
    {env : Environment} {name : String} {value : Value} (h : env.get? name = some value) :
  ∃ scope ∈ env.chain, (name, value) ∈ scope.entries
  := by
  obtain ⟨scope, hscope, hname⟩ := List.exists_of_findSome?_eq_some h
  obtain ⟨before, after, hentries, -⟩ := List.lookup_eq_some_iff.mp hname
  use scope, hscope
  simp [hentries]

theorem Grounded.get?
    {env : Environment} (h : env.Grounded) {name : String} {value : Value}
    (hget : env.get? name = some value) :
  value.GroundedIn env
  := by
  obtain ⟨scope, hscope, hentry⟩ := mem_entries_of_get? hget
  apply h scope hscope _ hentry

/-- A grounded environment stays grounded when a name is bound to a grounded value. -/
theorem Grounded.insert
    {env : Environment} (h : env.Grounded) {value : Value} (hvalue : value.GroundedIn env)
    (name : String) :
  (env.insert name value).Grounded
  := by
  have hmono : ∀ {v : Value}, v.GroundedIn env → v.GroundedIn (env.insert name value) :=
    fun hv => hv.mono (fun hkey => contains_insert hkey name value)
  rw [Grounded, chain, List.forall_mem_cons] at h ⊢
  constructor
  · intro entry hentry
    rcases Scope.snd_of_mem_insertEntry hentry with hnew | hold
    · rw [hnew]
      apply hmono hvalue
    · apply hmono (h.1 entry hold)
  · intro scope hscope entry hentry
    apply hmono (h.2 scope hscope entry hentry)

end Environment

end ExprScript
