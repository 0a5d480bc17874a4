import DkPull.PullStream.ProtocolViolations

/-!
# How far the protocol checker is transparent

What the two sides pass to each other is collected by the machine below: every
call reaches the other side with its own arguments.  The checker instead passes
on the first termination it has stored, to the consumer with every later answer
and to the source with every request that has no callback.  So the calls begin
with the arguments they were made with exactly as long as later terminations
repeat the first one.
-/

namespace DkPull.PullStream

open DkPull.Types
open DkPull.Reactive
open ProtocolChecker

variable {T : Type}

/-- Every call as the calling side makes it.  The state lists, for each
request, whether it came without a callback; what the source answers there
reaches nobody. -/
def verbatimMachine :
    Machine (List Bool) (SessionEvent T) (SessionOutput T) where
  step issued
    | .request abort isNull => some (issued ++ [isNull], [.toSource abort])
    | .answer position done value =>
        match issued[position]? with
        | none => none
        | some true => some (issued, [])
        | some false => some (issued, [.toConsumer position done value])

def forwarded
    (options : Options) (events : List (SessionEvent T)) :
    Option (List (SessionOutput T)) :=
  (sessionMachine.run (Probe.create options) events).map Prod.snd

def verbatim (events : List (SessionEvent T)) :
    Option (List (SessionOutput T)) :=
  (verbatimMachine.run [] events).map Prod.snd

def sourceReceives (outputs : List (SessionOutput T)) : List Abort :=
  outputs.filterMap fun
    | .toSource abort => some abort
    | _ => none

def callbackReceives
    (position : Nat) (outputs : List (SessionOutput T)) : List (Done × T) :=
  outputs.filterMap fun
    | .toConsumer called done value =>
        if called = position then some (done, value) else none
    | _ => none

def answersTo
    (position : Nat) (events : List (SessionEvent T)) : List (Done × T) :=
  events.filterMap fun
    | .answer answered done value =>
        if answered = position then some (done, value) else none
    | _ => none

/-- Each side receives exactly what the other side passes to it. -/
structure Transparent
    (events : List (SessionEvent T)) (outputs : List (SessionOutput T)) :
    Prop where
  toSource : sourceReceives outputs = (requests events).map Prod.fst
  toConsumer :
    ∀ position, (nulls events)[position]? ≠ some true →
      callbackReceives position outputs = answersTo position events

def SessionOutput.receiver : SessionOutput T → Option (Option Nat)
  | .toSource _ => some none
  | .toConsumer position _ _ => some (some position)
  | .thrown _ => none

def verbatimOutputs (history : List (SessionEvent T)) :
    SessionEvent T → List (SessionOutput T)
  | .request abort _ => [.toSource abort]
  | .answer position done value =>
      if (nulls history)[position]? = some false then
        [.toConsumer position done value]
      else []

private theorem verbatim_step
    {history : List (SessionEvent T)} {event : SessionEvent T}
    (possible : Possible (history ++ [event])) :
    verbatimMachine.step (nulls history) event =
      some (nulls (history ++ [event]), verbatimOutputs history event) := by
  cases event with
  | request abort isNull =>
      simp [verbatimMachine, verbatimOutputs]
  | answer position done value =>
      have smaller : position < (nulls history).length := by
        rw [length_nulls]
        exact possible.answer_lt
      have found := List.getElem?_eq_getElem smaller
      cases isNull : (nulls history)[position] <;>
        simp [verbatimMachine, verbatimOutputs, found, isNull]

private theorem verbatim_run_exists
    {events : List (SessionEvent T)} (possible : Possible events) :
    ∃ outputs,
      verbatimMachine.run [] events = some (nulls events, outputs) := by
  induction events using List.reverseRecOn with
  | nil =>
      exact ⟨[], rfl⟩
  | append_singleton history event inductionHypothesis =>
      obtain ⟨early, front⟩ := inductionHypothesis possible.of_append
      exact
        ⟨early ++ verbatimOutputs history event,
          Machine.run_concat_eq_some.mpr
            ⟨nulls history, early, verbatimOutputs history event, front,
              verbatim_step possible, rfl⟩⟩

private theorem verbatim_concat
    {history : List (SessionEvent T)} {event : SessionEvent T}
    {outputs : List (SessionOutput T)}
    (possible : Possible (history ++ [event]))
    (delivered : verbatim (history ++ [event]) = some outputs) :
    ∃ early,
      verbatim history = some early ∧
        outputs = early ++ verbatimOutputs history event := by
  obtain ⟨early, front⟩ := verbatim_run_exists possible.of_append
  have ran :
      verbatimMachine.run [] (history ++ [event]) =
        some (nulls (history ++ [event]),
          early ++ verbatimOutputs history event) :=
    Machine.run_concat_eq_some.mpr
      ⟨nulls history, early, verbatimOutputs history event, front,
        verbatim_step possible, rfl⟩
  rw [verbatim, ran, Option.map_some, Option.some.injEq] at delivered
  exact ⟨early, by simp [verbatim, front], delivered.symm⟩

/-- Calls that are made verbatim deliver every abort to the source and every
answer to the callback it is meant for. -/
theorem verbatim_delivers
    {events : List (SessionEvent T)} {outputs : List (SessionOutput T)}
    (possible : Possible events)
    (delivered : verbatim events = some outputs) :
    Transparent events outputs := by
  induction events using List.reverseRecOn generalizing outputs with
  | nil =>
      cases delivered
      exact ⟨rfl, fun _ _ => rfl⟩
  | append_singleton history event inductionHypothesis =>
      obtain ⟨early, front, rfl⟩ := verbatim_concat possible delivered
      obtain ⟨received, answered⟩ :=
        inductionHypothesis possible.of_append front
      have stillCallable :
          ∀ position : Nat,
            (nulls (history ++ [event]))[position]? ≠ some true →
              (nulls history)[position]? ≠ some true := by
        intro position callable impossible
        apply callable
        rw [nulls_append, List.getElem?_append_left]
        · exact impossible
        · exact (List.getElem?_eq_some_iff.mp impossible).1
      have earlier := fun (position : Nat) callable =>
        answered position (stillCallable position callable)
      cases event with
      | request abort isNull =>
          constructor
          · simp [verbatimOutputs, sourceReceives, ← received]
          · intro position callable
            simpa [verbatimOutputs, callbackReceives, answersTo] using
              earlier position callable
      | answer called done value =>
          cases wrapped :
              decide ((nulls history)[called]? = some false) with
          | true =>
              rw [decide_eq_true_eq] at wrapped
              constructor
              · simp [verbatimOutputs, wrapped, sourceReceives, ← received]
              · intro position callable
                have before := earlier position callable
                unfold callbackReceives answersTo at before ⊢
                by_cases same : called = position
                · subst same
                  simp [verbatimOutputs, wrapped, before]
                · simp [verbatimOutputs, wrapped, before, same]
          | false =>
              rw [decide_eq_false_iff_not] at wrapped
              constructor
              · simp [verbatimOutputs, wrapped, ← received]
              · intro position callable
                have other : called ≠ position := by
                  rintro rfl
                  have smaller : called < (nulls history).length := by
                    rw [length_nulls]
                    exact possible.answer_lt
                  have notNull := stillCallable called callable
                  rw [List.getElem?_eq_getElem smaller] at notNull wrapped
                  simp_all
                have before := earlier position callable
                unfold callbackReceives answersTo at before ⊢
                simp [verbatimOutputs, wrapped, before, other]

private theorem wrapped_of_verbatim
    {events : List (SessionEvent T)} {outputs : List (SessionOutput T)}
    (possible : Possible events) (delivered : verbatim events = some outputs)
    {position : Nat} {done : Done} {value : T}
    (called : .toConsumer position done value ∈ outputs) :
    (nulls events)[position]? = some false := by
  induction events using List.reverseRecOn generalizing outputs with
  | nil =>
      cases delivered
      simp at called
  | append_singleton history event inductionHypothesis =>
      obtain ⟨early, front, rfl⟩ := verbatim_concat possible delivered
      have wrapped : (nulls history)[position]? = some false := by
        rcases List.mem_append.mp called with before | now
        · exact inductionHypothesis possible.of_append front before
        · cases event with
          | request abort isNull => simp [verbatimOutputs] at now
          | answer answered done value =>
              simp only [verbatimOutputs] at now
              split at now
              · rename_i wrapped
                simp only [List.mem_singleton, SessionOutput.toConsumer.injEq]
                  at now
                rw [now.1]
                exact wrapped
              · simp at now
      rw [nulls_append, List.getElem?_append_left]
      · exact wrapped
      · exact (List.getElem?_eq_some_iff.mp wrapped).1

private theorem sourceReceives_cons
    (output : SessionOutput T) (rest : List (SessionOutput T)) :
    sourceReceives (output :: rest) =
      sourceReceives [output] ++ sourceReceives rest :=
  List.filterMap_append (l := [output])

private theorem callbackReceives_cons
    (position : Nat) (output : SessionOutput T)
    (rest : List (SessionOutput T)) :
    callbackReceives position (output :: rest) =
      callbackReceives position [output] ++ callbackReceives position rest :=
  List.filterMap_append (l := [output])

/-- Two lists of calls are the same if they call the same sides in the same
order and every side receives the same. -/
theorem eq_of_received
    {first second : List (SessionOutput T)}
    (unthrown : Unthrown second)
    (receivers :
      first.map SessionOutput.receiver = second.map SessionOutput.receiver)
    (aborts : sourceReceives first = sourceReceives second)
    (answers :
      ∀ position done value, .toConsumer position done value ∈ first →
        callbackReceives position first =
          callbackReceives position second) :
    first = second := by
  induction first generalizing second with
  | nil => exact (List.map_eq_nil_iff.mp receivers.symm).symm
  | cons output rest inductionHypothesis =>
      cases second with
      | nil => cases receivers
      | cons other others =>
          rw [List.map_cons, List.map_cons, List.cons.injEq] at receivers
          have same : output = other := by
            cases output with
            | toSource abort =>
                cases other with
                | toSource passed =>
                    have heads := (List.cons.inj aborts).1
                    rw [heads]
                | toConsumer => cases receivers.1
                | thrown => cases receivers.1
            | toConsumer position done value =>
                cases other with
                | toSource => cases receivers.1
                | toConsumer called passed delivered =>
                    cases receivers.1
                    have received :=
                      answers position done value List.mem_cons_self
                    simp only [callbackReceives, List.filterMap_cons,
                      if_true, List.cons.injEq, Prod.mk.injEq] at received
                    rw [received.1.1, received.1.2]
                | thrown => cases receivers.1
            | thrown err =>
                cases other with
                | toSource => cases receivers.1
                | toConsumer => cases receivers.1
                | thrown err =>
                    exact absurd List.mem_cons_self (unthrown err)
          subst same
          rw [sourceReceives_cons, sourceReceives_cons output others,
            List.append_cancel_left_eq] at aborts
          have tails : rest = others := by
            apply inductionHypothesis _ receivers.2 aborts
            · intro position done value called
              have received :=
                answers position done value
                  (List.mem_cons_of_mem output called)
              rwa [callbackReceives_cons, callbackReceives_cons _ _ others,
                List.append_cancel_left_eq] at received
            · intro err member
              exact unthrown err (List.mem_cons_of_mem output member)
          rw [tails]

/-- A termination that the checker would replace is the one it replaces it
with. -/
def SessionEvent.RepeatsFirst (history : List (SessionEvent T)) :
    SessionEvent T → Prop
  | .request abort isNull =>
      isNull = true → (firstAbort history).toBool = true →
        abort = firstAbort history
  | .answer position done _ =>
      (nulls history)[position]? = some false →
        (firstDone history).toBool = true → done = firstDone history

/-- Once the source has answered done to some callback, it repeats this answer
to every callback; once the consumer has aborted, its requests without a
callback repeat this abort. -/
def RepeatsFirstTermination (events : List (SessionEvent T)) : Prop :=
  ∀ before event after,
    events = before ++ event :: after → event.RepeatsFirst before

/-- One call passes through unchanged exactly if it repeats what it might be
replaced with. -/
theorem verbatimOutputs_eq_iff
    {options : Options} {history : List (SessionEvent T)}
    {probe next : Probe} {event : SessionEvent T}
    {emitted : List (SessionOutput T)}
    (tracks : Tracks options history probe)
    (stepped : sessionMachine.step probe event = some (next, emitted))
    (unthrown : Unthrown emitted) :
    (verbatimOutputs history event).map SessionOutput.receiver =
        emitted.map SessionOutput.receiver ∧
      (verbatimOutputs history event = emitted ↔
        event.RepeatsFirst history) := by
  cases event with
  | request abort isNull =>
      obtain ⟨_, _, rfl⟩ := step_request_cases stepped unthrown
      refine ⟨rfl, ?_⟩
      simp only [verbatimOutputs, passedAbort, List.cons.injEq, and_true,
        SessionOutput.toSource.injEq, right_eq_ite_iff,
        Bool.and_eq_true, and_imp, SessionEvent.RepeatsFirst, tracks.aborted]
  | answer position done value =>
      rcases step_answer_cases stepped unthrown with
        ⟨issued, _, rfl⟩ | ⟨callback, issued, _, _, rfl⟩
      · have unwrapped := tracks.noop_unwrapped issued
        simp [verbatimOutputs, SessionEvent.RepeatsFirst, unwrapped]
      · obtain ⟨wrapped, _⟩ := tracks.callback_eq issued
        simp only [verbatimOutputs, wrapped, if_true, true_and, passedDone,
          List.cons.injEq, and_true, SessionOutput.toConsumer.injEq,
          right_eq_ite_iff, SessionEvent.RepeatsFirst, forall_const,
          List.map_cons, List.map_nil, SessionOutput.receiver, tracks.done]

/-- The checker calls the sides that are called verbatim, and the same calls
are made exactly if later terminations repeat the first one. -/
theorem verbatim_of_run
    {options : Options} {events : List (SessionEvent T)} {probe : Probe}
    {outputs : List (SessionOutput T)}
    (ran :
      sessionMachine.run (Probe.create options) events =
        some (probe, outputs))
    (unthrown : Unthrown outputs) :
    ∃ plain,
      verbatim events = some plain ∧
        plain.map SessionOutput.receiver =
          outputs.map SessionOutput.receiver ∧
        (plain = outputs ↔ RepeatsFirstTermination events) := by
  suffices compared :
      ∃ plain,
        verbatimMachine.run [] events = some (nulls events, plain) ∧
          plain.map SessionOutput.receiver =
            outputs.map SessionOutput.receiver ∧
          (plain = outputs ↔ RepeatsFirstTermination events) by
    obtain ⟨plain, front, receivers, same⟩ := compared
    exact ⟨plain, by simp [verbatim, front], receivers, same⟩
  refine
    Machine.history_invariant
      (fun history outputs _ =>
        Unthrown outputs →
          ∃ plain,
            verbatimMachine.run [] history = some (nulls history, plain) ∧
              plain.map SessionOutput.receiver =
                outputs.map SessionOutput.receiver ∧
              (plain = outputs ↔ RepeatsFirstTermination history))
      ?_ ?_ ran unthrown
  · intro _
    refine ⟨[], rfl, rfl, ?_⟩
    simp [RepeatsFirstTermination]
  intro history outputs probe event next emitted front compared stepped
    unthrown
  obtain ⟨before, now⟩ := unthrown.of_append
  obtain ⟨plain, plainRan, sameReceivers, same⟩ := compared before
  have tracks := tracks_of_run front before
  obtain ⟨nowReceivers, nowSame⟩ := verbatimOutputs_eq_iff tracks stepped now
  have possible :=
    tracks.possible_concat (possible_of_run front before) stepped
  refine ⟨plain ++ verbatimOutputs history event, ?_, ?_, ?_⟩
  · exact
      Machine.run_concat_eq_some.mpr
        ⟨nulls history, plain, verbatimOutputs history event, plainRan,
          verbatim_step possible, rfl⟩
  · rw [List.map_append, List.map_append, sameReceivers, nowReceivers]
  · rw [RepeatsFirstTermination, forall_moment_concat_iff,
      ← RepeatsFirstTermination, ← same, ← nowSame]
    constructor
    · intro joined
      have sameLength := congrArg List.length sameReceivers
      rw [List.length_map, List.length_map] at sameLength
      exact List.append_inj joined sameLength
    · rintro ⟨rfl, rfl⟩
      rfl

/-- In a session in which the checker throws nothing each side is called with
exactly what the other one passes to it if and only if every later termination
that the checker would replace repeats the first one. -/
theorem transparent_iff_repeats
    {options : Options} {events : List (SessionEvent T)} {probe : Probe}
    {outputs : List (SessionOutput T)}
    (ran :
      sessionMachine.run (Probe.create options) events =
        some (probe, outputs))
    (unthrown : Unthrown outputs) :
    (Transparent events outputs ↔ RepeatsFirstTermination events) ∧
      (verbatim events = some outputs ↔ RepeatsFirstTermination events) := by
  obtain ⟨plain, replayed, receivers, same⟩ := verbatim_of_run ran unthrown
  have possible := possible_of_run ran unthrown
  have plainTransparent := verbatim_delivers possible replayed
  rw [← same]
  refine ⟨⟨?_, ?_⟩, ?_⟩
  · intro transparent
    apply eq_of_received unthrown receivers
    · rw [plainTransparent.toSource, transparent.toSource]
    · intro position done value called
      have wrapped := wrapped_of_verbatim possible replayed called
      have notNull : (nulls events)[position]? ≠ some true := by
        simp [wrapped]
      rw [plainTransparent.toConsumer position notNull,
        transparent.toConsumer position notNull]
  · rintro rfl
    exact plainTransparent
  · rw [replayed, Option.some.injEq]

end DkPull.PullStream
