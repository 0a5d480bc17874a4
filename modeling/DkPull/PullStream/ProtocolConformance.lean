import DkPull.PullStream.ProtocolViolations

/-!
# The protocol checker raises no false alarm

A session that obeys the protocol passes through a checker of either reporting
mode without an exception and without a message.  In such a session the
positions answered are an initial segment of the requests, and `latest` is the
length of this segment.
-/

namespace DkPull.PullStream

open DkPull.Types
open DkPull.Reactive
open ProtocolChecker

variable {T : Type}

/-- The session obeys the protocol, with the two optional rules as chosen. -/
structure Obeys
    (options : Options) (events : List (SessionEvent T)) : Prop where
  possible : Possible events
  nonNull : NonNull events
  onlyAbortsAfterTermination :
    ∀ before abort isNull after,
      events = before ++ .request abort isNull :: after →
      Terminated before → abort.toBool = true
  answeredOnceInOrder :
    answered events = List.range (requestCount events)
  onlyDoneAfterTermination :
    ∀ before position done value after,
      events = before ++ .answer position done value :: after →
      Terminated before → done.toBool = true
  noExtraRequests :
    options.forbidExtraRequests = true →
    ∀ before abort isNull after,
      events = before ++ .request abort isNull :: after →
      ¬ Terminated before
  terminated :
    options.enforceStreamTermination = true → Terminated events

def SessionEvent.allowedAfter
    (options : Options) (history : List (SessionEvent T)) :
    SessionEvent T → Bool
  | .request abort _ =>
      !decide (Terminated history) ||
        (abort.toBool && !options.forbidExtraRequests)
  | .answer _ done _ =>
      !decide (Terminated history) || done.toBool

/-- Obedience is checked event by event. -/
theorem obeys_iff (options : Options) (events : List (SessionEvent T)) :
    Obeys options events ↔
      Possible events ∧ NonNull events ∧
        (∀ index (inRange : index < events.length),
          events[index].allowedAfter options (events.take index) = true) ∧
        answered events = List.range (requestCount events) ∧
        (options.enforceStreamTermination = true → Terminated events) := by
  have momentwise :=
    forall_moment_iff
      (fun history event => event.allowedAfter options history = true) events
  rw [← momentwise]
  constructor
  · intro obeys
    refine
      ⟨obeys.possible, obeys.nonNull, ?_, obeys.answeredOnceInOrder,
        obeys.terminated⟩
    intro before event after shape
    by_cases past : Terminated before
    · cases event with
      | request abort isNull =>
          have aborts :=
            obeys.onlyAbortsAfterTermination _ _ _ _ shape past
          have allows : options.forbidExtraRequests ≠ true := fun forbids =>
            obeys.noExtraRequests forbids _ _ _ _ shape past
          simp [SessionEvent.allowedAfter, aborts, allows]
      | answer position done value =>
          have ended :=
            obeys.onlyDoneAfterTermination _ _ _ _ _ shape past
          simp [SessionEvent.allowedAfter, ended]
    · cases event <;> simp [SessionEvent.allowedAfter, past]
  · rintro ⟨possible, nonNull, allowed, inOrder, terminated⟩
    refine ⟨possible, nonNull, ?_, inOrder, ?_, ?_, terminated⟩
    · intro before abort isNull after shape past
      have checked := allowed before _ after shape
      simp only [SessionEvent.allowedAfter, past, decide_true,
        Bool.not_true, Bool.false_or, Bool.and_eq_true] at checked
      exact checked.1
    · intro before position done value after shape past
      simpa [SessionEvent.allowedAfter, past] using
        allowed before _ after shape
    · intro forbids before abort isNull after shape past
      simpa [SessionEvent.allowedAfter, past, forbids] using
        allowed before _ after shape

instance (options : Options) (events : List (SessionEvent T)) :
    Decidable (Obeys options events) :=
  decidable_of_iff _ (obeys_iff options events).symm

@[simp]
theorem answered_append (first second : List (SessionEvent T)) :
    answered (first ++ second) = answered first ++ answered second := by
  simp [answered]

@[simp]
theorem answered_request (abort : Abort) (isNull : Bool) :
    answered [(.request abort isNull : SessionEvent T)] = [] :=
  rfl

@[simp]
theorem answered_answer (position : Nat) (done : Done) (value : T) :
    answered [SessionEvent.answer position done value] = [position] :=
  rfl

/-- An initial segment that ends in `position` had `position` members
before. -/
theorem range_eq_concat
    {limit position : Nat} {front : List Nat}
    (shape : front ++ [position] = List.range limit) :
    limit = position + 1 ∧ front = List.range position := by
  cases limit with
  | zero =>
      simp at shape
  | succ limit =>
      rw [List.range_succ] at shape
      obtain ⟨fronts, lasts⟩ := List.append_inj' shape rfl
      cases lasts
      exact ⟨rfl, fronts⟩

private theorem eq_range_of_append
    {limit : Nat} {front rest : List Nat}
    (shape : front ++ rest = List.range limit) :
    front = List.range front.length := by
  have prefixed : front <+: List.range limit := ⟨rest, shape⟩
  have taken := List.prefix_iff_eq_take.mp prefixed
  have shorter : front.length ≤ limit := by
    simpa using prefixed.length_le
  rw [List.take_range, Nat.min_eq_left shorter] at taken
  exact taken

/-- While the source answers in order, `latest` counts the answers. -/
theorem latest_of_inOrder
    {options : Options} {events : List (SessionEvent T)} {probe : Probe}
    {outputs : List (SessionOutput T)}
    (ran :
      sessionMachine.run (Probe.create options) events =
        some (probe, outputs))
    (unthrown : Unthrown outputs)
    (possible : Possible events) (nonNull : NonNull events)
    (bounded : requestCount events < indexLimit) {limit : Nat}
    (inOrder : answered events = List.range limit) :
    probe.self.latest.toNat = limit := by
  refine
    Machine.history_invariant
      (fun history outputs probe =>
        Unthrown outputs → Possible history → NonNull history →
          requestCount history < indexLimit →
          ∀ limit, answered history = List.range limit →
            probe.self.latest.toNat = limit)
      ?_ ?_ ran unthrown possible nonNull bounded limit inOrder
  · intro _ _ _ _ limit inOrder
    cases limit with
    | zero => rfl
    | succ limit => simp [answered, answers] at inOrder
  intro history outputs probe event next emitted front counts stepped
    unthrown possible nonNull bounded limit inOrder
  obtain ⟨before, now⟩ := unthrown.of_append
  have tracks := tracks_of_run front before
  have smallerCount : requestCount history < indexLimit := by
    rw [requestCount_append] at bounded
    omega
  have current :=
    counts before possible.of_append nonNull.of_append smallerCount
  cases event with
  | request abort isNull =>
      obtain ⟨_, rfl, _⟩ := step_request_cases stepped now
      exact current limit (by simpa using inOrder)
  | answer position done value =>
      rw [answered_append, answered_answer] at inOrder
      obtain ⟨rfl, fronts⟩ := range_eq_concat inOrder
      have latest := current position fronts
      rcases step_answer_cases stepped now with
        ⟨issued, _, _⟩ | ⟨callback, issued, _, rfl, _⟩
      · have wrapped :=
          wrapped_of_nonNull nonNull.of_append possible.answer_lt
        rw [tracks.issued, List.getElem?_mapIdx, wrapped] at issued
        cases issued
      · obtain ⟨_, rfl⟩ := tracks.callback_eq issued
        have smaller := possible.answer_lt
        have silent :
            orderMessages probe.self.latest (callbackIndex position) =
              [] := by
          rw [orderMessages_eq_nil_iff
            (Nat.le_of_lt (latest ▸ smaller)) smaller smallerCount]
          exact Or.inl latest
        simp [afterAnswer, nextLatest, silent,
          toNat_callbackIndex (Nat.lt_trans smaller smallerCount)]

/-- Nothing in a session that obeys the protocol makes the checker report. -/
theorem Obeys.eventMessages_eq_nil
    {options : Options} {before after : List (SessionEvent T)}
    {event : SessionEvent T} {probe : Probe}
    {outputs : List (SessionOutput T)}
    (obeys : Obeys options (before ++ event :: after))
    (bounded : requestCount (before ++ event :: after) < indexLimit)
    (front :
      sessionMachine.run (Probe.create options) before =
        some (probe, outputs))
    (unthrown : Unthrown outputs) :
    eventMessages probe event = [] := by
  have regroup : before ++ event :: after = before ++ [event] ++ after := by
    simp
  have possible : Possible (before ++ [event]) := by
    have whole := obeys.possible
    rw [regroup] at whole
    exact whole.of_append
  have nonNull : NonNull before := obeys.nonNull.of_append
  have smallerCount : requestCount before < indexLimit := by
    rw [requestCount_append] at bounded
    omega
  have tracks := tracks_of_run front unthrown
  have terminated := tracks.terminated_iff nonNull possible.of_append
  cases event with
  | request abort isNull =>
      by_cases past : Terminated before
      · have aborts :=
          obeys.onlyAbortsAfterTermination before abort isNull after rfl past
        have allows : options.forbidExtraRequests = false := by
          rw [← Bool.not_eq_true]
          intro forbids
          exact obeys.noExtraRequests forbids before abort isNull after rfl
            past
        simp [eventMessages, requestMessages, aborts, tracks.forbids, allows]
      · have quiet :
            (probe.self.aborted.toBool || probe.self.done.toBool) =
              false := by
          rw [← Bool.not_eq_true, terminated]
          exact past
        simp [eventMessages, requestMessages, quiet]
  | answer position done value =>
      have inOrder := obeys.answeredOnceInOrder
      rw [regroup, answered_append, answered_append, answered_answer]
        at inOrder
      obtain ⟨_, fronts⟩ := range_eq_concat (eq_range_of_append inOrder)
      have latest :=
        latest_of_inOrder front unthrown possible.of_append nonNull
          smallerCount fronts
      have smaller := possible.answer_lt
      have ordered :
          orderMessages probe.self.latest (callbackIndex position) = [] := by
        rw [orderMessages_eq_nil_iff
          (Nat.le_of_lt (latest ▸ smaller)) smaller smallerCount]
        exact Or.inl latest
      have firstTime : (answered before).count position = 0 := by
        rw [fronts, List.count_eq_zero, List.mem_range]
        exact Nat.lt_irrefl position
      have noValue :
          valueMessages probe.self (callbackIndex position) done = [] := by
        by_cases past : Terminated before
        · have ended :=
            obeys.onlyDoneAfterTermination before position done value after
              rfl past
          simp [valueMessages, ended]
        · have quiet :
              (probe.self.aborted.toBool || probe.self.done.toBool) =
                false := by
            rw [← Bool.not_eq_true, terminated]
            exact past
          simp [valueMessages, quiet]
      rw [tracks.eventMessages_answer nonNull possible, firstTime]
      simp [answerMessages, noValue, countMessages, ordered]

theorem Obeys.errors_eq_nil
    {options : Options} {events : List (SessionEvent T)} {probe : Probe}
    {outputs : List (SessionOutput T)}
    (obeys : Obeys options events)
    (bounded : requestCount events < indexLimit)
    (ran :
      sessionMachine.run (Probe.create options) events =
        some (probe, outputs))
    (unthrown : Unthrown outputs) :
    probe.self.errors = [] := by
  refine
    Machine.history_invariant
      (fun history outputs probe =>
        Unthrown outputs → history <+: events → probe.self.errors = [])
      (fun _ _ => rfl) ?_ ran unthrown List.prefix_rfl
  intro history outputs probe event next emitted front empty stepped
    unthrown ahead
  obtain ⟨before, now⟩ := unthrown.of_append
  obtain ⟨after, whole⟩ := ahead
  have shape : history ++ event :: after = events := by
    simpa using whole
  subst shape
  rw [(step_errors stepped now).2,
    empty before (List.prefix_append history _),
    obeys.eventMessages_eq_nil bounded front before, List.append_nil]

theorem Obeys.terminateMessages_eq_nil
    {options : Options} {events : List (SessionEvent T)} {probe : Probe}
    {outputs : List (SessionOutput T)}
    (obeys : Obeys options events)
    (bounded : requestCount events < indexLimit)
    (ran :
      sessionMachine.run (Probe.create options) events =
        some (probe, outputs))
    (unthrown : Unthrown outputs) :
    terminateMessages probe.self = [] := by
  have tracks := tracks_of_run ran unthrown
  have latest :=
    latest_of_inOrder ran unthrown obeys.possible obeys.nonNull bounded
      obeys.answeredOnceInOrder
  have allInvoked : ¬ probe.self.i > probe.self.latest + 1 := by
    rw [gt_iff_lt, UInt64.lt_iff_toNat_lt, tracks.index,
      toNat_latest_succ (latest ▸ bounded), latest,
      toNat_callbackIndex bounded]
    exact Nat.lt_irrefl _
  have ended :
      (probe.self.enforceStreamTermination && !probe.self.done.toBool &&
        !probe.self.aborted.toBool) = false := by
    cases enforces : probe.self.enforceStreamTermination with
    | false =>
        rfl
    | true =>
        have past :=
          obeys.terminated (tracks.enforces.symm.trans enforces)
        have flags :=
          (tracks.terminated_iff obeys.nonNull obeys.possible).mpr past
        rw [Bool.true_and, ← Bool.not_or, Bool.or_comm, flags]
        rfl
  simp [terminateMessages, neverInvokedMessages, terminationMessages,
    allInvoked, ended]

/-- A session that obeys the protocol raises no alarm, in either reporting
mode. -/
theorem obedient_session_is_clean
    {options : Options} {events : List (SessionEvent T)}
    (obeys : Obeys options events)
    (bounded : requestCount events < 2 ^ 64 - 1) :
    ∃ probe outputs,
      sessionMachine.run (Probe.create options) events =
          some (probe, outputs) ∧
        (∀ err, SessionOutput.thrown err ∉ outputs) ∧
        recordedAfter options events = some [] ∧
        judgement options events = some (.ok []) := by
  obtain ⟨probe, outputs, ran, unthrown⟩ :=
    run_exists obeys.possible (by
      rintro before event after probe outputs rfl front unthrown
      exact Or.inr (obeys.eventMessages_eq_nil bounded front unthrown))
  have noErrors := obeys.errors_eq_nil bounded ran unthrown
  have noFinalErrors := obeys.terminateMessages_eq_nil bounded ran unthrown
  have tolerated : Tolerates probe (terminateMessages probe.self) :=
    Or.inr noFinalErrors
  have judged := judgement_of_run ran tolerated
  rw [noErrors, noFinalErrors] at judged
  refine ⟨probe, outputs, ran, unthrown, ?_, ?_⟩
  · simp [recordedAfter, ran, noErrors]
  · exact judged

/-- Two pipelined reads, an abort while both are pending, and the answers in
order. -/
theorem obedient_session_is_clean_pipelined :
    ∃ probe outputs,
      sessionMachine.run
          (Probe.create
            { forbidExtraRequests := true
              enforceStreamTermination := true })
          [.request .FALSE false, .request .FALSE false,
            .answer 0 .FALSE 7, .request .TRUE false,
            .answer 1 .TRUE 0, .answer 2 .TRUE 0] =
          some (probe, outputs) ∧
        (∀ err, SessionOutput.thrown (T := Nat) err ∉ outputs) ∧
        recordedAfter
          { forbidExtraRequests := true, enforceStreamTermination := true }
          [SessionEvent.request .FALSE false, .request .FALSE false,
            .answer 0 .FALSE 7, .request .TRUE false,
            .answer 1 .TRUE 0, .answer 2 .TRUE 0] = some [] ∧
        judgement
          { forbidExtraRequests := true, enforceStreamTermination := true }
          [SessionEvent.request .FALSE false, .request .FALSE false,
            .answer 0 .FALSE 7, .request .TRUE false,
            .answer 1 .TRUE 0, .answer 2 .TRUE 0] = some (.ok []) :=
  obedient_session_is_clean (by decide) (by decide)

end DkPull.PullStream
