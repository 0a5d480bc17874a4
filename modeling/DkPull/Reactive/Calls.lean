import DkPull.Reactive.Machine

/-!
# Calls of another component

A component may be built on another one, which it calls several times in a
step.  If these calls take the other component from what it was to what it is
behind the step, then the calls of a whole run make up a run of it.
-/

namespace DkPull.Reactive.Machine

universe u v w u' v' w'

variable {State : Type u} {Event : Type v} {Output : Type w}
  {Plain : Type u'} {Call : Type v'} {Answer : Type w'}

/-- The calls that a component makes along its run, given those that it makes
in a step. -/
def callsOf (machine : Machine State Event Output)
    (made : State → Event → List Call) : State → List Event → List Call
  | _, [] => []
  | state, event :: rest =>
      match machine.step state event with
      | none => []
      | some (next, _) => made state event ++ machine.callsOf made next rest

variable {machine : Machine State Event Output}
  {made : State → Event → List Call}

private theorem callsOf_append
    {source middle : State} {first second : List Event}
    {outputs : List Output}
    (ran : machine.run source first = some (middle, outputs)) :
    machine.callsOf made source (first ++ second) =
      machine.callsOf made source first ++
        machine.callsOf made middle second := by
  induction first generalizing source outputs with
  | nil =>
      cases ran
      rfl
  | cons event rest inductionHypothesis =>
      obtain ⟨next, emitted, later, stepped, continued, rfl⟩ :=
        run_cons_eq_some.mp ran
      rw [List.cons_append, callsOf, callsOf, stepped]
      simp only
      rw [inductionHypothesis continued, List.append_assoc]

theorem callsOf_concat
    {source state next : State} {history : List Event} {event : Event}
    {outputs emitted : List Output}
    (ran : machine.run source history = some (state, outputs))
    (stepped : machine.step state event = some (next, emitted)) :
    machine.callsOf made source (history ++ [event]) =
      machine.callsOf made source history ++ made state event := by
  rw [callsOf_append ran, callsOf, stepped]
  simp [callsOf]

/-- The calls of a run are a run of the component that is called, if those of
each of its steps are.  A relation between outputs and answers that can be
joined is kept. -/
theorem run_callsOf
    {service : Machine Plain Call Answer} (project : State → Plain)
    (related : List Output → List Answer → Prop) (empty : related [] [])
    (joined :
      ∀ early answered late answers,
        related early answered → related late answers →
          related (early ++ late) (answered ++ answers))
    {initial target : State}
    (served :
      ∀ history outputs state event next emitted,
        machine.run initial history = some (state, outputs) →
        machine.step state event = some (next, emitted) →
          ∃ answers,
            service.run (project state) (made state event) =
                some (project next, answers) ∧
              related emitted answers)
    {events : List Event} {outputs : List Output}
    (ran : machine.run initial events = some (target, outputs)) :
    ∃ answers,
      service.run (project initial) (machine.callsOf made initial events) =
          some (project target, answers) ∧
        related outputs answers := by
  refine
    history_invariant
      (fun history outputs state =>
        ∃ answers,
          service.run (project initial)
                (machine.callsOf made initial history) =
              some (project state, answers) ∧
            related outputs answers)
      ⟨[], rfl, empty⟩ ?_ ran
  intro history outputs state event next emitted front earlier stepped
  obtain ⟨answered, called, before⟩ := earlier
  obtain ⟨answers, calledNow, now⟩ :=
    served history outputs state event next emitted front stepped
  refine ⟨answered ++ answers, ?_, joined _ _ _ _ before now⟩
  rw [callsOf_concat front stepped]
  exact run_append_eq_some.mpr ⟨_, answered, answers, called, calledNow, rfl⟩

/-- Every call of a run has a property of the state behind it, if the calls of
each step do and the property stays. -/
theorem forall_mem_callsOf
    (holds : State → Call → Prop) {initial target : State}
    (each :
      ∀ history outputs state event next emitted,
        machine.run initial history = some (state, outputs) →
        machine.step state event = some (next, emitted) →
          (∀ call, holds state call → holds next call) ∧
            ∀ call ∈ made state event, holds next call)
    {events : List Event} {outputs : List Output}
    (ran : machine.run initial events = some (target, outputs)) :
    ∀ call ∈ machine.callsOf made initial events, holds target call := by
  refine
    history_invariant
      (fun history _ state =>
        ∀ call ∈ machine.callsOf made initial history, holds state call)
      (by simp [callsOf]) ?_ ran
  intro history outputs state event next emitted front earlier stepped call
    member
  obtain ⟨stays, now⟩ :=
    each history outputs state event next emitted front stepped
  rw [callsOf_concat front stepped] at member
  rcases List.mem_append.mp member with before | isNew
  · exact stays call (earlier call before)
  · exact now call isNew

theorem countP_callsOf_le
    (machine : Machine State Event Output) {counts : Call → Bool}
    (few : ∀ state event, (made state event).countP counts ≤ 1)
    (source : State) (events : List Event) :
    (machine.callsOf made source events).countP counts ≤ events.length := by
  induction events generalizing source with
  | nil => exact Nat.zero_le _
  | cons event rest inductionHypothesis =>
      rw [callsOf]
      split
      · exact Nat.zero_le _
      · rename_i next emitted _
        have now := few source event
        have later := inductionHypothesis next
        rw [List.countP_append, List.length_cons]
        omega

end DkPull.Reactive.Machine
