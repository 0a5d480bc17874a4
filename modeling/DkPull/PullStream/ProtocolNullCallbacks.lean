import DkPull.PullStream.ProtocolMessages
import DkPull.PullStream.ProtocolSessions

/-!
# Null callbacks and the judgement of the protocol checker

A request without a callback hands `noop` to the source, and what the source
answers there escapes the checker: the callback counts as never invoked, the
order check does not move on, and a termination goes unnoticed.  Replacing
callbacks by null therefore leaves the judgement alone exactly as long as the
source does not answer any callback that is replaced.
-/

namespace DkPull.PullStream

open DkPull.Types
open DkPull.Reactive
open ProtocolChecker

variable {T : Type}

/-- Replace the callbacks of the chosen requests by null, given the number of
earlier requests. -/
def nullifyFrom (replaced : Nat → Bool) :
    Nat → List (SessionEvent T) → List (SessionEvent T)
  | _, [] => []
  | issued, .request abort isNull :: rest =>
      .request abort (isNull || replaced issued) ::
        nullifyFrom replaced (issued + 1) rest
  | issued, .answer position done value :: rest =>
      .answer position done value :: nullifyFrom replaced issued rest

/-- The session in which the consumer passes null on the chosen requests and
the source behaves the same. -/
def nullify
    (replaced : Nat → Bool) (events : List (SessionEvent T)) :
    List (SessionEvent T) :=
  nullifyFrom replaced 0 events

def LeavesUnanswered
    (replaced : Nat → Bool) (events : List (SessionEvent T)) : Prop :=
  ∀ answer ∈ wrappedAnswers events, replaced answer.1 = false

private theorem nullifyFrom_append
    (replaced : Nat → Bool) (issued : Nat)
    (first second : List (SessionEvent T)) :
    nullifyFrom replaced issued (first ++ second) =
      nullifyFrom replaced issued first ++
        nullifyFrom replaced (issued + requestCount first) second := by
  induction first generalizing issued with
  | nil =>
      rfl
  | cons event rest inductionHypothesis =>
      cases event with
      | request abort isNull =>
          have counted :
              requestCount (.request abort isNull :: rest) =
                1 + requestCount rest := by
            rw [← requestCount_request (T := T) abort isNull,
              ← requestCount_append]
            rfl
          rw [List.cons_append, nullifyFrom, inductionHypothesis, counted,
            Nat.add_assoc]
          rfl
      | answer position done value =>
          rw [List.cons_append, nullifyFrom, inductionHypothesis]
          rfl

@[simp]
theorem nullify_request
    (replaced : Nat → Bool) (history : List (SessionEvent T))
    (abort : Abort) (isNull : Bool) :
    nullify replaced (history ++ [.request abort isNull]) =
      nullify replaced history ++
        [.request abort (isNull || replaced (requestCount history))] := by
  simp [nullify, nullifyFrom_append, nullifyFrom]

@[simp]
theorem nullify_answer
    (replaced : Nat → Bool) (history : List (SessionEvent T))
    (position : Nat) (done : Done) (value : T) :
    nullify replaced (history ++ [.answer position done value]) =
      nullify replaced history ++ [.answer position done value] := by
  simp [nullify, nullifyFrom_append, nullifyFrom]

private theorem aborts_nullify
    (replaced : Nat → Bool) (history : List (SessionEvent T)) :
    (requests (nullify replaced history)).map Prod.fst =
      (requests history).map Prod.fst := by
  induction history using List.reverseRecOn with
  | nil =>
      rfl
  | append_singleton history event inductionHypothesis =>
      cases event <;> simp [inductionHypothesis]

@[simp]
theorem requestCount_nullify
    (replaced : Nat → Bool) (history : List (SessionEvent T)) :
    requestCount (nullify replaced history) = requestCount history := by
  have lengths := congrArg List.length (aborts_nullify replaced history)
  simpa [requestCount] using lengths

private theorem firstAbort_nullify
    (replaced : Nat → Bool) (history : List (SessionEvent T)) :
    firstAbort (nullify replaced history) = firstAbort history := by
  rw [firstAbort, firstAbort, aborts_nullify]

private theorem nulls_nullify
    (replaced : Nat → Bool) (history : List (SessionEvent T)) :
    nulls (nullify replaced history) =
      (nulls history).mapIdx fun position isNull =>
        isNull || replaced position := by
  induction history using List.reverseRecOn with
  | nil =>
      rfl
  | append_singleton history event inductionHypothesis =>
      cases event with
      | request abort isNull =>
          simp [inductionHypothesis, List.mapIdx_concat]
      | answer position done value =>
          simp [inductionHypothesis]

private theorem wrapped_nullify_iff
    {replaced : Nat → Bool} {history : List (SessionEvent T)}
    {position : Nat} :
    (nulls (nullify replaced history))[position]? = some false ↔
      (nulls history)[position]? = some false ∧
        replaced position = false := by
  rw [nulls_nullify, List.getElem?_mapIdx]
  cases (nulls history)[position]? <;> simp

private theorem wrappedAnswers_nullify
    (replaced : Nat → Bool) (history : List (SessionEvent T)) :
    wrappedAnswers (nullify replaced history) =
      (wrappedAnswers history).filter fun answer => !replaced answer.1 := by
  induction history using List.reverseRecOn with
  | nil =>
      rfl
  | append_singleton history event inductionHypothesis =>
      cases event with
      | request abort isNull =>
          simp [inductionHypothesis]
      | answer position done value =>
          rw [nullify_answer]
          by_cases wrapped : (nulls history)[position]? = some false
          · rw [wrappedAnswers_answer_wrapped wrapped]
            cases kept : replaced position with
            | false =>
                rw [wrappedAnswers_answer_wrapped
                  (wrapped_nullify_iff.mpr ⟨wrapped, kept⟩)]
                simp [inductionHypothesis, kept]
            | true =>
                rw [wrappedAnswers_answer_noop
                  (by simp [wrapped_nullify_iff, kept])]
                simp [inductionHypothesis, kept]
          · rw [wrappedAnswers_answer_noop wrapped,
              wrappedAnswers_answer_noop
                (by simp [wrapped_nullify_iff, wrapped]),
              inductionHypothesis]

private theorem invocations_nullify
    {replaced : Nat → Bool} (history : List (SessionEvent T))
    {position : Nat} (kept : replaced position = false) :
    invocations (nullify replaced history) position =
      invocations history position := by
  rw [invocations, invocations, wrappedAnswers_nullify,
    List.count_eq_countP, List.count_eq_countP, List.countP_map,
    List.countP_map, List.countP_filter]
  apply List.countP_congr
  intro answer _
  by_cases same : answer.1 = position
  · simp [same, kept]
  · simp [same]

private theorem wrappedAt_nullify
    {replaced : Nat → Bool} (history : List (SessionEvent T))
    {position : Nat} (kept : replaced position = false) :
    wrappedAt (nullify replaced history) position =
      wrappedAt history position := by
  rw [wrappedAt, wrappedAt, invocations_nullify history kept]

private theorem possible_nullify
    (replaced : Nat → Bool) {events : List (SessionEvent T)}
    (possible : Possible events) :
    Possible (nullify replaced events) := by
  induction events using List.reverseRecOn with
  | nil =>
      exact possible
  | append_singleton history event inductionHypothesis =>
      have earlier := inductionHypothesis possible.of_append
      rw [possible_iff] at earlier
      cases event with
      | request abort isNull =>
          rw [nullify_request, possible_iff, forall_moment_concat_iff]
          exact ⟨earlier, rfl⟩
      | answer position done value =>
          rw [nullify_answer, possible_iff, forall_moment_concat_iff]
          refine ⟨earlier, ?_⟩
          simpa [SessionEvent.possibleAfter] using possible.answer_lt

/-! ## The two sessions side by side -/

/-- What holds of the two checkers at the start and is kept by every kind of
step holds after the whole sessions.  An answer is ignored by both checkers,
or counted by both, or lost to the second one. -/
theorem nullify_induction
    {options : Options} {replaced : Nat → Bool}
    (holds : List (SessionEvent T) → Probe → Probe → Prop)
    (start : holds [] (Probe.create options) (Probe.create options))
    (request :
      ∀ history probe twin abort isNull,
        Tracks options history probe →
        Tracks options (nullify replaced history) twin →
        holds history probe twin →
          holds (history ++ [.request abort isNull])
            (afterRequest probe abort isNull)
            (afterRequest twin abort
              (isNull || replaced (requestCount history))))
    (ignored :
      ∀ history probe twin position done value,
        (nulls history)[position]? ≠ some false →
        holds history probe twin →
          holds (history ++ [.answer position done value]) probe twin)
    (kept :
      ∀ history probe twin position done value,
        Tracks options history probe →
        Tracks options (nullify replaced history) twin →
        (nulls history)[position]? = some false →
        replaced position = false →
        holds history probe twin →
          holds (history ++ [.answer position done value])
            (afterAnswer probe position (wrappedAt history position) done)
            (afterAnswer twin position (wrappedAt history position) done))
    (lost :
      ∀ history probe twin position done value,
        Tracks options history probe →
        (nulls history)[position]? = some false →
        replaced position = true →
        holds history probe twin →
          holds (history ++ [.answer position done value])
            (afterAnswer probe position (wrappedAt history position) done)
            twin)
    {events : List (SessionEvent T)} {probe twin : Probe}
    {outputs twinOutputs : List (SessionOutput T)}
    (ran :
      sessionMachine.run (Probe.create options) events =
        some (probe, outputs))
    (unthrown : Unthrown outputs)
    (twinRan :
      sessionMachine.run (Probe.create options) (nullify replaced events) =
        some (twin, twinOutputs))
    (twinUnthrown : Unthrown twinOutputs) :
    holds events probe twin := by
  induction events using List.reverseRecOn generalizing
      probe twin outputs twinOutputs with
  | nil =>
      cases ran
      cases twinRan
      exact start
  | append_singleton history event inductionHypothesis =>
      obtain ⟨middle, early, emitted, front, stepped, rfl⟩ :=
        Machine.run_concat_eq_some.mp ran
      obtain ⟨before, now⟩ := unthrown.of_append
      have tracks := tracks_of_run front before
      cases event with
      | request abort isNull =>
          rw [nullify_request] at twinRan
          obtain
            ⟨twinMiddle, _, _, twinFront, twinStepped, rfl⟩ :=
            Machine.run_concat_eq_some.mp twinRan
          obtain ⟨twinBefore, twinNow⟩ := twinUnthrown.of_append
          obtain ⟨_, rfl, _⟩ := step_request_cases stepped now
          obtain ⟨_, rfl, _⟩ := step_request_cases twinStepped twinNow
          exact
            request history middle twinMiddle abort isNull tracks
              (tracks_of_run twinFront twinBefore)
              (inductionHypothesis front before twinFront twinBefore)
      | answer position done value =>
          rw [nullify_answer] at twinRan
          obtain
            ⟨twinMiddle, _, _, twinFront, twinStepped, rfl⟩ :=
            Machine.run_concat_eq_some.mp twinRan
          obtain ⟨twinBefore, twinNow⟩ := twinUnthrown.of_append
          have twinTracks := tracks_of_run twinFront twinBefore
          have earlier :=
            inductionHypothesis front before twinFront twinBefore
          have twinCases := twinTracks.answer_cases twinStepped twinNow
          rw [Ne, wrapped_nullify_iff] at twinCases
          rcases tracks.answer_cases stepped now with
            ⟨unwrapped, rfl⟩ | ⟨wrapped, rfl⟩
          · rcases twinCases with ⟨_, rfl⟩ | ⟨impossible, _⟩
            · exact ignored history _ _ _ _ _ unwrapped earlier
            · exact absurd impossible.1 unwrapped
          · cases choice : replaced position with
            | true =>
                rcases twinCases with ⟨_, rfl⟩ | ⟨impossible, _⟩
                · exact
                    lost history _ _ _ _ _ tracks wrapped choice earlier
                · simp [choice] at impossible
            | false =>
                rcases twinCases with ⟨impossible, _⟩ | ⟨_, rfl⟩
                · exact absurd ⟨wrapped, choice⟩ impossible
                · rw [wrappedAt_nullify history choice]
                  exact
                    kept history _ _ _ _ _ tracks twinTracks wrapped choice
                      earlier

private theorem LeavesUnanswered.of_append
    {replaced : Nat → Bool} {history : List (SessionEvent T)}
    {event : SessionEvent T}
    (unanswered : LeavesUnanswered replaced (history ++ [event])) :
    LeavesUnanswered replaced history := by
  intro answer member
  apply unanswered answer
  rw [wrappedAnswers, wrappedAnswersFrom_append]
  exact List.mem_append_left _ member

/-- As long as no replaced callback is answered, both checkers have seen the
same answers. -/
theorem LeavesUnanswered.firstDone_nullify
    {replaced : Nat → Bool} {history : List (SessionEvent T)}
    (unanswered : LeavesUnanswered replaced history) :
    firstDone (nullify replaced history) = firstDone history := by
  have all :
      (wrappedAnswers history).filter (fun answer => !replaced answer.1) =
        wrappedAnswers history := by
    rw [List.filter_eq_self]
    intro answer member
    simp [unanswered answer member]
  rw [firstDone, firstDone, wrappedAnswers_nullify, all]

/-- As long as no replaced callback is answered, both checkers report the
same. -/
theorem unanswered_same
    {options : Options} {replaced : Nat → Bool}
    {events : List (SessionEvent T)} {probe twin : Probe}
    {outputs twinOutputs : List (SessionOutput T)}
    (ran :
      sessionMachine.run (Probe.create options) events =
        some (probe, outputs))
    (unthrown : Unthrown outputs)
    (twinRan :
      sessionMachine.run (Probe.create options) (nullify replaced events) =
        some (twin, twinOutputs))
    (twinUnthrown : Unthrown twinOutputs)
    (unanswered : LeavesUnanswered replaced events) :
    twin.self.latest = probe.self.latest ∧
      twin.self.errors = probe.self.errors := by
  refine
    nullify_induction
      (fun history probe twin =>
        LeavesUnanswered replaced history →
          twin.self.latest = probe.self.latest ∧
            twin.self.errors = probe.self.errors)
      ?_ ?_ ?_ ?_ ?_ ran unthrown twinRan twinUnthrown unanswered
  · exact fun _ => ⟨rfl, rfl⟩
  · intro history probe twin abort isNull tracks twinTracks same unanswered
    obtain ⟨latest, errors⟩ := same unanswered.of_append
    have done := unanswered.of_append.firstDone_nullify
    have messages :
        requestMessages twin.self abort =
          requestMessages probe.self abort := by
      simp [requestMessages, tracks.aborted, twinTracks.aborted,
        tracks.done, twinTracks.done, tracks.forbids, twinTracks.forbids,
        firstAbort_nullify, done]
    exact ⟨latest, by simp [afterRequest, errors, messages]⟩
  · intro history probe twin position done value _ same unanswered
    exact same unanswered.of_append
  · intro history probe twin position done value tracks twinTracks _ _ same
      unanswered
    obtain ⟨latest, errors⟩ := same unanswered.of_append
    have sameDone := unanswered.of_append.firstDone_nullify
    have messages :
        answerMessages twin.self (wrappedAt history position) done =
          answerMessages probe.self (wrappedAt history position) done := by
      simp [answerMessages, valueMessages, tracks.aborted,
        twinTracks.aborted, tracks.done, twinTracks.done,
        firstAbort_nullify, sameDone, latest]
    simp [afterAnswer, latest, errors, messages]
  · intro history probe twin position done value _ wrapped choice _
      unanswered
    have kept : replaced position = false := by
      apply unanswered (position, done)
      simp [wrappedAnswers_answer_wrapped wrapped]
    rw [choice] at kept
    cases kept

/-- Nothing is ever entered into `skipped` as `false`, so the loop of
`Terminate` reports every index it visits. -/
theorem Tracks.neverInvokedMessages_eq
    {options : Options} {history : List (SessionEvent T)} {probe : Probe}
    (tracks : Tracks options history probe) :
    neverInvokedMessages probe.self =
      if probe.self.i > probe.self.latest + 1 then
        (loopIndices probe.self.latest probe.self.i).map
          Message.neverInvoked
      else [] := by
  have all :
      (loopIndices probe.self.latest probe.self.i).filter
          (reportedByLoop probe.self.skipped) =
        loopIndices probe.self.latest probe.self.i := by
    rw [List.filter_eq_self]
    intro k _
    have notFalse := tracks.skipped k
    unfold reportedByLoop
    cases entry : probe.self.skipped k with
    | none => rfl
    | some skipped =>
        cases skipped with
        | true => rfl
        | false => exact absurd entry notFalse
  rw [neverInvokedMessages, all]

private theorem mem_loopIndices
    {latest i k : UInt64} (passes : latest + 1 < i) :
    k ∈ loopIndices latest i ↔ latest + 1 ≤ k ∧ k < i := by
  generalize shape : latest + 1 = start at passes ⊢
  rw [loopIndices, shape, List.mem_map]
  rw [UInt64.lt_iff_toNat_lt] at passes
  have width : (i - start).toNat = i.toNat - start.toNat :=
    UInt64.toNat_sub_of_le _ _ (Nat.le_of_lt passes)
  have below := i.toNat_lt
  simp only [List.mem_range, width, UInt64.lt_iff_toNat_lt,
    UInt64.le_iff_toNat_le]
  constructor
  · rintro ⟨offset, inRange, rfl⟩
    rw [UInt64.toNat_add, UInt64.toNat_ofNat']
    omega
  · rintro ⟨atLeast, smaller⟩
    refine ⟨k.toNat - start.toNat, by omega, ?_⟩
    apply UInt64.toNat_inj.mp
    rw [UInt64.toNat_add, UInt64.toNat_ofNat']
    omega

/-! ## Messages by rule -/

def orderReports (errs : List Message) : Nat :=
  (errs.map Message.rule).count '4'

@[simp]
theorem orderReports_append (first second : List Message) :
    orderReports (first ++ second) =
      orderReports first + orderReports second := by
  simp [orderReports]

private theorem orderReports_eq_zero
    {errs : List Message} (others : ∀ err ∈ errs, err.rule ≠ '4') :
    orderReports errs = 0 := by
  rw [orderReports, List.count_eq_zero, List.mem_map]
  rintro ⟨err, member, same⟩
  exact others err member same

theorem rule_of_mem_requestMessages
    {self : ProtocolChecker} {abort : Abort} {err : Message}
    (member : err ∈ requestMessages self abort) :
    err.rule = '1' ∨ err.rule = '6' := by
  unfold requestMessages at member
  split at member
  · rcases List.mem_append.mp member with value | extra
    · split at value
      · rw [List.mem_singleton.mp value]
        exact Or.inl rfl
      · cases value
    · split at extra
      · rcases List.mem_append.mp extra with aborted | ended
        · split at aborted
          · rw [List.mem_singleton.mp aborted]
            exact Or.inr rfl
          · cases aborted
        · split at ended
          · rw [List.mem_singleton.mp ended]
            exact Or.inr rfl
          · cases ended
      · cases extra
  · cases member

theorem rule_of_mem_valueMessages
    {self : ProtocolChecker} {i : UInt64} {done : Done} {err : Message}
    (member : err ∈ valueMessages self i done) :
    err.rule = '5' := by
  unfold valueMessages at member
  split at member
  · rw [List.mem_singleton.mp member]
    rfl
  · cases member

theorem rule_of_mem_countMessages
    {callback : WrappedCallback} {err : Message}
    (member : err ∈ countMessages callback) :
    err.rule = '3' := by
  unfold countMessages at member
  split at member
  · rw [List.mem_singleton.mp member]
    rfl
  · cases member

private theorem rule_of_mem_orderMessages
    {latest i : UInt64} {err : Message}
    (member : err ∈ orderMessages latest i) :
    err.rule = '4' := by
  unfold orderMessages at member
  split at member
  · rw [List.mem_singleton.mp member]
    rfl
  · split at member
    · rw [List.mem_singleton.mp member]
      rfl
    · cases member

private theorem orderReports_orderMessages (latest i : UInt64) :
    orderReports (orderMessages latest i) =
      if orderMessages latest i = [] then 0 else 1 := by
  unfold orderMessages
  split
  · rfl
  · split <;> rfl

private theorem orderReports_requestMessages
    (self : ProtocolChecker) (abort : Abort) :
    orderReports (requestMessages self abort) = 0 := by
  apply orderReports_eq_zero
  intro err member
  rcases rule_of_mem_requestMessages member with rule | rule <;>
    simp [rule]

/-- Only the order check of an answer reports rule 4. -/
theorem orderReports_answerMessages
    (self : ProtocolChecker) (callback : WrappedCallback) (done : Done) :
    orderReports (answerMessages self callback done) =
      if orderMessages self.latest callback.i = [] then 0 else 1 := by
  have values : orderReports (valueMessages self callback.i done) = 0 :=
    orderReports_eq_zero fun err member => by
      simp [rule_of_mem_valueMessages member]
  have counts : orderReports (countMessages callback) = 0 :=
    orderReports_eq_zero fun err member => by
      simp [rule_of_mem_countMessages member]
  simp [answerMessages, values, counts, orderReports_orderMessages]

private theorem orderReports_terminateMessages (self : ProtocolChecker) :
    orderReports (terminateMessages self) = 0 := by
  apply orderReports_eq_zero
  intro err member
  unfold terminateMessages neverInvokedMessages terminationMessages at member
  rcases List.mem_append.mp member with loop | last
  · split at loop
    · obtain ⟨k, _, rfl⟩ := List.mem_map.mp loop
      exact show '2' ≠ '4' by decide
    · cases loop
  · split at last
    · rw [List.mem_singleton.mp last]
      decide
    · cases last

private theorem rule_of_mem_eventMessages
    {probe : Probe} {event : SessionEvent T} {err : Message}
    (member : err ∈ eventMessages probe event) :
    err.rule ≠ '2' := by
  cases event with
  | request abort isNull =>
      rcases rule_of_mem_requestMessages member with rule | rule <;>
        simp [rule]
  | answer position done value =>
      rcases issued : probe.callbacks[position]? with _ | _ | callback
      · simp [eventMessages, issued] at member
      · simp [eventMessages, issued] at member
      · simp only [eventMessages, issued, answerMessages,
          List.mem_append] at member
        rcases member with value | count | order
        · simp [rule_of_mem_valueMessages value]
        · simp [rule_of_mem_countMessages count]
        · simp [rule_of_mem_orderMessages order]

private theorem rule_of_mem_errors
    {options : Options} {events : List (SessionEvent T)} {probe : Probe}
    {outputs : List (SessionOutput T)}
    (ran :
      sessionMachine.run (Probe.create options) events =
        some (probe, outputs))
    (unthrown : Unthrown outputs) :
    ∀ err ∈ probe.self.errors, err.rule ≠ '2' := by
  refine
    Machine.history_invariant
      (fun _ outputs probe =>
        Unthrown outputs → ∀ err ∈ probe.self.errors, err.rule ≠ '2')
      ?_ ?_ ran unthrown
  · intro _ err member
    cases member
  intro _ outputs probe event next emitted _ earlier stepped unthrown err
    member
  obtain ⟨before, now⟩ := unthrown.of_append
  rw [(step_errors stepped now).2] at member
  rcases List.mem_append.mp member with old | new
  · exact earlier before err old
  · exact rule_of_mem_eventMessages new

/-! ## Callbacks that are answered -/

private theorem nextLatest_le
    (latest i : UInt64) : latest.toNat ≤ (nextLatest latest i).toNat := by
  unfold nextLatest
  by_cases early : i < latest
  · simp [orderMessages, early]
  · rw [UInt64.lt_iff_toNat_lt] at early
    split
    · omega
    · exact Nat.le_refl _

/-- No answer that is lost would have moved `latest` on. -/
def StaysBehind
    (replaced : Nat → Bool) (history : List (SessionEvent T))
    (latest : UInt64) : Prop :=
  ∀ answer ∈ wrappedAnswers history,
    replaced answer.1 = true → latest.toNat ≤ answer.1

/-- How many answers are lost to the checker of the nullified session. -/
def lostAnswers
    (replaced : Nat → Bool) (history : List (SessionEvent T)) : Nat :=
  (wrappedAnswers history).countP fun answer => replaced answer.1

private theorem StaysBehind.of_append
    {replaced : Nat → Bool} {history : List (SessionEvent T)}
    {event : SessionEvent T} {latest later : UInt64}
    (behind : StaysBehind replaced (history ++ [event]) later)
    (grown : latest.toNat ≤ later.toNat) :
    StaysBehind replaced history latest := by
  intro answer member chosen
  refine Nat.le_trans grown (behind answer ?_ chosen)
  rw [wrappedAnswers, wrappedAnswersFrom_append]
  exact List.mem_append_left _ member

/-- While `latest` stays behind every lost answer, each of these answers
violates the order, so it adds a report of rule 4 to the original session. -/
theorem lost_answers_reported
    {options : Options} {replaced : Nat → Bool}
    {events : List (SessionEvent T)} {probe twin : Probe}
    {outputs twinOutputs : List (SessionOutput T)}
    (ran :
      sessionMachine.run (Probe.create options) events =
        some (probe, outputs))
    (unthrown : Unthrown outputs)
    (twinRan :
      sessionMachine.run (Probe.create options) (nullify replaced events) =
        some (twin, twinOutputs))
    (twinUnthrown : Unthrown twinOutputs)
    (bounded : requestCount events < indexLimit)
    (behind : StaysBehind replaced events probe.self.latest) :
    twin.self.latest = probe.self.latest ∧
      orderReports probe.self.errors =
        orderReports twin.self.errors + lostAnswers replaced events := by
  refine
    nullify_induction
      (fun history probe twin =>
        requestCount history < indexLimit →
        StaysBehind replaced history probe.self.latest →
          twin.self.latest = probe.self.latest ∧
            orderReports probe.self.errors =
              orderReports twin.self.errors + lostAnswers replaced history)
      ?_ ?_ ?_ ?_ ?_ ran unthrown twinRan twinUnthrown bounded behind
  · exact fun _ _ => ⟨rfl, rfl⟩
  · intro history probe twin abort isNull _ _ same bounded behind
    rw [requestCount_append, requestCount_request] at bounded
    obtain ⟨latest, reports⟩ :=
      same (by omega) (behind.of_append (Nat.le_refl _))
    refine ⟨latest, ?_⟩
    simp [afterRequest, orderReports_requestMessages, reports, lostAnswers]
  · intro history probe twin position done value unwrapped same bounded
      behind
    rw [requestCount_append, requestCount_answer] at bounded
    obtain ⟨latest, reports⟩ :=
      same bounded (behind.of_append (Nat.le_refl _))
    refine ⟨latest, ?_⟩
    rw [lostAnswers, wrappedAnswers_answer_noop unwrapped]
    exact reports
  · intro history probe twin position done value _ _ wrapped choice same
      bounded behind
    rw [requestCount_append, requestCount_answer] at bounded
    obtain ⟨latest, reports⟩ :=
      same bounded (behind.of_append (nextLatest_le _ _))
    refine ⟨by simp [afterAnswer, latest], ?_⟩
    simp only [afterAnswer, orderReports_append, orderReports_answerMessages,
      latest, reports, lostAnswers, wrappedAnswers_answer_wrapped wrapped,
      List.countP_append, List.countP_singleton, choice]
    simp
    omega
  · intro history probe twin position done value _ wrapped choice same
      bounded behind
    rw [requestCount_append, requestCount_answer] at bounded
    obtain ⟨latest, reports⟩ :=
      same bounded (behind.of_append (nextLatest_le _ _))
    have smaller : position < indexLimit := by
      have inRange := (List.getElem?_eq_some_iff.mp wrapped).1
      rw [length_nulls] at inRange
      omega
    -- If the order were respected, `latest` would move past this answer.
    have violated :
        orderMessages probe.self.latest (callbackIndex position) ≠ [] := by
      intro silent
      have passed := behind (position, done)
        (by simp [wrappedAnswers_answer_wrapped wrapped]) choice
      have moved :
          (afterAnswer probe position
            (wrappedAt history position) done).self.latest =
              callbackIndex position := by
        simp [afterAnswer, wrappedAt, nextLatest, silent]
      rw [moved, toNat_callbackIndex smaller] at passed
      omega
    constructor
    · simp [afterAnswer, wrappedAt, nextLatest, violated, latest]
    · simp [afterAnswer, wrappedAt, orderReports_answerMessages, violated,
        reports, lostAnswers, wrappedAnswers_answer_wrapped wrapped, choice,
        Nat.add_assoc]

/-- The returned list says of a callback that it was never invoked exactly if
`latest` has not reached it. -/
theorem neverInvoked_reported_iff
    {options : Options} {events : List (SessionEvent T)} {probe : Probe}
    {outputs : List (SessionOutput T)}
    (ran :
      sessionMachine.run (Probe.create options) events =
        some (probe, outputs))
    (unthrown : Unthrown outputs)
    (bounded : requestCount events < indexLimit) {k : UInt64} :
    Message.neverInvoked k ∈
        probe.self.errors ++ terminateMessages probe.self ↔
      probe.self.latest.toNat < k.toNat ∧
        k.toNat ≤ requestCount events := by
  have tracks := tracks_of_run ran unthrown
  have reached := (latestReached_of_run ran unthrown bounded).bounded
  have next := toNat_latest_succ (Nat.lt_of_le_of_lt reached bounded)
  have total : probe.self.i.toNat = requestCount events + 1 := by
    rw [tracks.index, toNat_callbackIndex bounded]
  have notRecorded : Message.neverInvoked k ∉ probe.self.errors :=
    fun recorded => rule_of_mem_errors ran unthrown _ recorded rfl
  have notLast :
      Message.neverInvoked k ∉ terminationMessages probe.self := by
    unfold terminationMessages
    split <;> simp
  rw [terminateMessages, List.mem_append, List.mem_append,
    or_iff_right notRecorded, or_iff_left notLast,
    tracks.neverInvokedMessages_eq]
  split
  · rename_i passes
    simp only [List.mem_map, Message.neverInvoked.injEq, exists_eq_right,
      mem_loopIndices passes, UInt64.le_iff_toNat_le,
      UInt64.lt_iff_toNat_lt, next, total]
    omega
  · rename_i stops
    rw [gt_iff_lt, UInt64.lt_iff_toNat_lt, next, total] at stops
    simp only [List.not_mem_nil, false_iff]
    omega

/-- A replaced callback counts as never invoked, so equal texts mean that it
also counts as never invoked in the original session. -/
theorem staysBehind_of_texts_eq
    {options : Options} {replaced : Nat → Bool}
    {events : List (SessionEvent T)} {probe twin : Probe}
    {outputs twinOutputs : List (SessionOutput T)}
    (ran :
      sessionMachine.run (Probe.create options) events =
        some (probe, outputs))
    (unthrown : Unthrown outputs)
    (twinRan :
      sessionMachine.run (Probe.create options) (nullify replaced events) =
        some (twin, twinOutputs))
    (twinUnthrown : Unthrown twinOutputs)
    (bounded : requestCount events < indexLimit)
    (sameTexts :
      (twin.self.errors ++ terminateMessages twin.self).map Message.text =
        (probe.self.errors ++ terminateMessages probe.self).map
          Message.text) :
    StaysBehind replaced events probe.self.latest := by
  rintro ⟨position, done⟩ counted chosen
  have twinBounded : requestCount (nullify replaced events) < indexLimit := by
    rwa [requestCount_nullify]
  have smaller : position < requestCount events := by
    have wrapped := wrapped_of_mem_wrappedAnswers counted
    simpa using (List.getElem?_eq_some_iff.mp wrapped).1
  have index := toNat_callbackIndex (Nat.lt_trans smaller bounded)
  have twinBehind : twin.self.latest.toNat ≤ position := by
    by_contra passed
    have invoked :=
      (latestReached_of_run twinRan twinUnthrown twinBounded).invoked
        position (by omega)
    rw [wrappedAnswers_nullify] at invoked
    obtain ⟨answer, member, same⟩ := List.mem_map.mp invoked
    have kept := (List.mem_filter.mp member).2
    simp [same, chosen] at kept
  have twinReports :
      Message.neverInvoked (callbackIndex position) ∈
        twin.self.errors ++ terminateMessages twin.self := by
    rw [neverInvoked_reported_iff twinRan twinUnthrown twinBounded,
      requestCount_nullify, index]
    omega
  have text := List.mem_map_of_mem (f := Message.text) twinReports
  rw [sameTexts] at text
  obtain ⟨err, member, sameText⟩ := List.mem_map.mp text
  obtain ⟨k, rfl, same⟩ := eq_neverInvoked_of_text_eq sameText
  rw [neverInvoked_reported_iff ran unthrown bounded, same, index] at member
  exact Nat.lt_succ_iff.mp member.1

/-- When both sessions return the same texts, no answer was lost. -/
theorem leavesUnanswered_of_texts_eq
    {options : Options} {replaced : Nat → Bool}
    {events : List (SessionEvent T)} {probe twin : Probe}
    {outputs twinOutputs : List (SessionOutput T)}
    (ran :
      sessionMachine.run (Probe.create options) events =
        some (probe, outputs))
    (unthrown : Unthrown outputs)
    (twinRan :
      sessionMachine.run (Probe.create options) (nullify replaced events) =
        some (twin, twinOutputs))
    (twinUnthrown : Unthrown twinOutputs)
    (bounded : requestCount events < indexLimit)
    (sameTexts :
      (twin.self.errors ++ terminateMessages twin.self).map Message.text =
        (probe.self.errors ++ terminateMessages probe.self).map
          Message.text) :
    LeavesUnanswered replaced events := by
  have behind :=
    staysBehind_of_texts_eq ran unthrown twinRan twinUnthrown bounded
      sameTexts
  have reports :=
    (lost_answers_reported ran unthrown twinRan twinUnthrown bounded
      behind).2
  have sameReports :
      orderReports (twin.self.errors ++ terminateMessages twin.self) =
        orderReports (probe.self.errors ++ terminateMessages probe.self) :=
    congrArg (List.count '4') (rules_eq_of_texts_eq sameTexts)
  rw [orderReports_append, orderReports_append,
    orderReports_terminateMessages, orderReports_terminateMessages,
    reports] at sameReports
  have none_lost : lostAnswers replaced events = 0 := by
    omega
  intro answer member
  rw [lostAnswers, List.countP_eq_zero] at none_lost
  simpa using none_lost answer member

/-! ## The judgements -/

/-- When both checkers are in the same state, their final checks agree. -/
theorem terminateMessages_nullify
    {options : Options} {replaced : Nat → Bool}
    {events : List (SessionEvent T)} {probe twin : Probe}
    (tracks : Tracks options events probe)
    (twinTracks : Tracks options (nullify replaced events) twin)
    (unanswered : LeavesUnanswered replaced events)
    (latest : twin.self.latest = probe.self.latest) :
    terminateMessages twin.self = terminateMessages probe.self := by
  have sameIndex : twin.self.i = probe.self.i := by
    rw [twinTracks.index, tracks.index, requestCount_nullify]
  have sameTermination :
      terminationMessages twin.self = terminationMessages probe.self := by
    simp [terminationMessages, tracks.enforces, twinTracks.enforces,
      tracks.done, twinTracks.done, tracks.aborted, twinTracks.aborted,
      firstAbort_nullify, unanswered.firstDone_nullify]
  rw [terminateMessages, terminateMessages,
    tracks.neverInvokedMessages_eq, twinTracks.neverInvokedMessages_eq,
    sameTermination, latest, sameIndex]

/-- Null callbacks leave the judgement of a collecting checker alone if the
source answers none of the callbacks they replace, and only then as long as
no index wraps. -/
theorem nullified_judgement_iff
    {options : Options} {replaced : Nat → Bool}
    {events : List (SessionEvent T)}
    (collecting : options.notifyEagerly = false)
    (possible : Possible events) :
    (LeavesUnanswered replaced events →
      judgement options (nullify replaced events) =
        judgement options events) ∧
    (requestCount events < 2 ^ 64 - 1 →
      (judgement options (nullify replaced events) =
          judgement options events ↔
        LeavesUnanswered replaced events)) := by
  obtain ⟨probe, outputs, ran, unthrown⟩ :=
    run_exists_of_collecting collecting possible
  obtain ⟨twin, twinOutputs, twinRan, twinUnthrown⟩ :=
    run_exists_of_collecting collecting (possible_nullify replaced possible)
  have tracks := tracks_of_run ran unthrown
  have twinTracks := tracks_of_run twinRan twinUnthrown
  have judged :=
    judgement_of_run ran (Or.inl (tracks.mode.trans collecting))
  have twinJudged :=
    judgement_of_run twinRan (Or.inl (twinTracks.mode.trans collecting))
  have enough :
      LeavesUnanswered replaced events →
        judgement options (nullify replaced events) =
          judgement options events := by
    intro unanswered
    obtain ⟨latest, errors⟩ :=
      unanswered_same ran unthrown twinRan twinUnthrown unanswered
    rw [judged, twinJudged, errors,
      terminateMessages_nullify tracks twinTracks unanswered latest]
  refine ⟨enough, fun bounded => ⟨?_, enough⟩⟩
  intro same
  rw [judged, twinJudged, Option.some.injEq, Except.ok.injEq] at same
  exact
    leavesUnanswered_of_texts_eq ran unthrown twinRan twinUnthrown bounded
      same

/-- A callback that the source never gets to may as well be null. -/
theorem nullified_judgement_iff_unanswered :
    judgement { notifyEagerly := false }
          (nullify (· == 1)
            [.request .FALSE false, .request .FALSE false,
              .answer 0 .FALSE 7]) =
        judgement { notifyEagerly := false }
          [.request .FALSE false, .request .FALSE false,
            .answer 0 .FALSE 7] ↔
      LeavesUnanswered (· == 1)
        [SessionEvent.request .FALSE false, .request .FALSE false,
          .answer 0 .FALSE 7] :=
  (nullified_judgement_iff rfl (by decide)).2 (by decide)

/-- A null callback that the source answers once and in turn is reported as
never invoked, and the termination answered there is forgotten: the later
request for a value passes for a first one. -/
theorem answered_null_callback_is_misjudged :
    judgement { notifyEagerly := false }
          [.request .FALSE false, .answer 0 .TRUE ()] = some (.ok []) ∧
      judgement { notifyEagerly := false }
          (nullify (fun _ => true)
            [.request .FALSE false, .answer 0 .TRUE ()]) =
        some (.ok
          ["Invariant 2 violated: callback 1 was never invoked"]) ∧
      judgement { notifyEagerly := false }
          [.request .FALSE false, .answer 0 .TRUE (),
            .request .FALSE true] =
        some (.ok
          ["Invariant 1 violated: value requested after termination",
            "Invariant 2 violated: callback 2 was never invoked"]) ∧
      judgement { notifyEagerly := false }
          (nullify (fun _ => true)
            [.request .FALSE false, .answer 0 .TRUE (),
              .request .FALSE true]) =
        some (.ok
          ["Invariant 2 violated: callback 1 was never invoked",
            "Invariant 2 violated: callback 2 was never invoked"]) :=
  ⟨by decide, by decide, by decide, by decide⟩

end DkPull.PullStream
