import Mathlib.Data.List.Basic
import Mathlib.Data.List.Infix

/-!
# Deterministic reactive machines

A component of a single-threaded program is driven from outside: an
environment calls it, is called back by it, and decides what happens next.
Such a component is a partial step function.  A step is undefined when the
environment has no way to make that move, and a defined step emits the calls
that the component makes to the environment.

This module collects what every such component needs: how runs split and
compose, how a property of the whole past is carried along a run, and how a
run of one machine is replayed by another.
-/

namespace DkPull.Reactive

universe u v w

/-- A statement about every moment of a finite history can be checked index by
index. -/
theorem forall_moment_iff
    {Event : Type v} (holds : List Event → Event → Prop)
    (events : List Event) :
    (∀ before event after,
        events = before ++ event :: after → holds before event) ↔
      ∀ index (inRange : index < events.length),
        holds (events.take index) events[index] := by
  constructor
  · intro every index inRange
    apply every _ _ (events.drop (index + 1))
    rw [List.getElem_cons_drop, List.take_append_drop]
  · rintro checked before event after rfl
    have found := checked before.length (by simp)
    rw [List.take_left, List.getElem_append_right (Nat.le_refl _)] at found
    simpa using found

/-- A statement holds at every moment of a history with one more event when it
holds at every earlier moment and at the last one. -/
theorem forall_moment_concat_iff
    {Event : Type v} {holds : List Event → Event → Prop}
    {history : List Event} {last : Event} :
    (∀ before event after,
        history ++ [last] = before ++ event :: after →
          holds before event) ↔
      (∀ before event after,
          history = before ++ event :: after → holds before event) ∧
        holds history last := by
  constructor
  · intro every
    refine ⟨?_, every history last [] rfl⟩
    intro before event after shape
    exact every before event (after ++ [last]) (by simp [shape])
  · rintro ⟨earlier, now⟩ before event after shape
    rcases List.eq_nil_or_concat after with rfl | ⟨front, final, rfl⟩
    · obtain ⟨rfl, same⟩ := List.append_inj' shape rfl
      cases same
      exact now
    · have regroup :
          history ++ [last] = (before ++ event :: front) ++ [final] := by
        simpa using shape
      exact earlier before event front (List.append_inj' regroup rfl).1

/-- A deterministic component driven by `Event`s and answering with
`Output`s. -/
structure Machine
    (State : Type u) (Event : Type v) (Output : Type w) where
  step : State → Event → Option (State × List Output)

namespace Machine

variable {State : Type u} {Event : Type v} {Output : Type w}

/-- Feed a finite sequence of events, keeping the emitted outputs in order. -/
def run (machine : Machine State Event Output) :
    State → List Event → Option (State × List Output)
  | state, [] => some (state, [])
  | state, event :: rest =>
      match machine.step state event with
      | none => none
      | some (next, emitted) =>
          match machine.run next rest with
          | none => none
          | some (target, later) => some (target, emitted ++ later)

variable {machine : Machine State Event Output}

@[simp]
theorem run_nil (state : State) :
    machine.run state [] = some (state, []) :=
  rfl

theorem run_cons_eq_some
    {source target : State} {event : Event} {rest : List Event}
    {outputs : List Output} :
    machine.run source (event :: rest) = some (target, outputs) ↔
      ∃ next emitted later,
        machine.step source event = some (next, emitted) ∧
          machine.run next rest = some (target, later) ∧
          outputs = emitted ++ later := by
  constructor
  · intro ran
    rw [run] at ran
    split at ran
    · cases ran
    · rename_i next emitted stepped
      split at ran
      · cases ran
      · rename_i final later continued
        cases ran
        exact ⟨next, emitted, later, stepped, continued, rfl⟩
  · rintro ⟨next, emitted, later, stepped, continued, rfl⟩
    simp [run, stepped, continued]

/-- A run of concatenated event lists is a run of the first followed by a run
of the second. -/
theorem run_append_eq_some
    {source target : State} {first second : List Event}
    {outputs : List Output} :
    machine.run source (first ++ second) = some (target, outputs) ↔
      ∃ middle early late,
        machine.run source first = some (middle, early) ∧
          machine.run middle second = some (target, late) ∧
          outputs = early ++ late := by
  induction first generalizing source outputs with
  | nil =>
      constructor
      · intro ran
        exact ⟨source, [], outputs, rfl, ran, rfl⟩
      · rintro ⟨middle, early, late, started, continued, rfl⟩
        cases started
        exact continued
  | cons event rest inductionHypothesis =>
      constructor
      · intro ran
        obtain ⟨next, emitted, later, stepped, continued, rfl⟩ :=
          run_cons_eq_some.mp ran
        obtain ⟨middle, early, late, front, back, rfl⟩ :=
          inductionHypothesis.mp continued
        refine ⟨middle, emitted ++ early, late, ?_, back, ?_⟩
        · exact run_cons_eq_some.mpr
            ⟨next, emitted, early, stepped, front, rfl⟩
        · rw [List.append_assoc]
      · rintro ⟨middle, early, late, front, back, rfl⟩
        obtain ⟨next, emitted, later, stepped, continued, rfl⟩ :=
          run_cons_eq_some.mp front
        have joined :=
          inductionHypothesis.mpr
            ⟨middle, later, late, continued, back, rfl⟩
        exact run_cons_eq_some.mpr
          ⟨next, emitted, later ++ late, stepped, joined,
            List.append_assoc emitted later late⟩

theorem run_singleton
    {source : State} {event : Event} :
    machine.run source [event] = machine.step source event := by
  rw [run]
  cases machine.step source event with
  | none => rfl
  | some result => simp

theorem run_concat_eq_some
    {source target : State} {history : List Event} {event : Event}
    {outputs : List Output} :
    machine.run source (history ++ [event]) = some (target, outputs) ↔
      ∃ middle early emitted,
        machine.run source history = some (middle, early) ∧
          machine.step middle event = some (target, emitted) ∧
          outputs = early ++ emitted := by
  simp only [run_append_eq_some, run_singleton]

/-- A run passes through the moment before any chosen event. -/
theorem run_split
    {source target : State} {before after : List Event} {event : Event}
    {outputs : List Output}
    (ran :
      machine.run source (before ++ event :: after) =
        some (target, outputs)) :
    ∃ middle early next emitted late,
      machine.run source before = some (middle, early) ∧
        machine.step middle event = some (next, emitted) ∧
        machine.run next after = some (target, late) ∧
        outputs = early ++ (emitted ++ late) := by
  obtain ⟨middle, early, rest, front, back, rfl⟩ :=
    run_append_eq_some.mp ran
  obtain ⟨next, emitted, late, stepped, continued, rfl⟩ :=
    run_cons_eq_some.mp back
  exact ⟨middle, early, next, emitted, late, front, stepped, continued, rfl⟩

/-- A relation between the past of a run, its outputs and its current state
holds after every run when it holds at the start and every step keeps it. -/
theorem history_invariant
    {initial : State}
    (holds : List Event → List Output → State → Prop)
    (start : holds [] [] initial)
    (preserved :
      ∀ history outputs state event next emitted,
        machine.run initial history = some (state, outputs) →
        holds history outputs state →
        machine.step state event = some (next, emitted) →
          holds (history ++ [event]) (outputs ++ emitted) next) :
    ∀ {events : List Event} {target : State} {outputs : List Output},
      machine.run initial events = some (target, outputs) →
        holds events outputs target := by
  intro events
  induction events using List.reverseRecOn with
  | nil =>
      intro target outputs ran
      cases ran
      exact start
  | append_singleton history event inductionHypothesis =>
      intro target outputs ran
      obtain ⟨state, early, emitted, front, stepped, rfl⟩ :=
        run_concat_eq_some.mp ran
      exact preserved history early state event target emitted front
        (inductionHypothesis front) stepped

universe u' v' w'

/-- A run is replayed by another machine when each of its steps is replayed by
a run of that machine between the projected states.  Only steps whose outputs
are acceptable need to be replayed if all outputs of the run are.  A relation
between outputs that can be joined is kept. -/
theorem replay
    {Plain : Type u'} {Call : Type v'} {Answer : Type w'}
    {simulator : Machine Plain Call Answer}
    (project : State → Plain) (translate : Event → List Call)
    (acceptable : Output → Prop)
    (related : List Output → List Answer → Prop)
    (empty : related [] [])
    (joined :
      ∀ early answered late answers,
        related early answered → related late answers →
          related (early ++ late) (answered ++ answers))
    (replayed :
      ∀ state event next emitted,
        machine.step state event = some (next, emitted) →
        (∀ output ∈ emitted, acceptable output) →
          ∃ answers,
            simulator.run (project state) (translate event) =
                some (project next, answers) ∧
              related emitted answers)
    {source target : State} {events : List Event} {outputs : List Output}
    (ran : machine.run source events = some (target, outputs))
    (accepted : ∀ output ∈ outputs, acceptable output) :
    ∃ answers,
      simulator.run (project source) (events.flatMap translate) =
          some (project target, answers) ∧
        related outputs answers := by
  refine
    history_invariant
      (fun history outputs state =>
        (∀ output ∈ outputs, acceptable output) →
          ∃ answers,
            simulator.run (project source) (history.flatMap translate) =
                some (project state, answers) ∧
              related outputs answers)
      (fun _ => ⟨[], rfl, empty⟩) ?_ ran accepted
  intro history outputs state event next emitted _ earlier stepped accepted
  obtain ⟨early, front, before⟩ :=
    earlier fun output member =>
      accepted output (List.mem_append_left _ member)
  obtain ⟨late, back, now⟩ :=
    replayed state event next emitted stepped fun output member =>
      accepted output (List.mem_append_right _ member)
  refine ⟨early ++ late, ?_, joined _ _ _ _ before now⟩
  rw [List.flatMap_append, List.flatMap_singleton]
  exact run_append_eq_some.mpr ⟨_, early, late, front, back, rfl⟩

end Machine

end DkPull.Reactive
