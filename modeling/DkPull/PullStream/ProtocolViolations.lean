import DkPull.PullStream.ProtocolSessions

/-!
# The protocol checker misses no violation

The rules of the protocol are stated here over the past of a session alone,
without any reference to the checker.  A collecting checker leaves a message
of its own for every event that breaks one of the rules 1, 3, 4, 5 and 6,
however many events have broken a rule before.  The only exception is the
invocation counter of rule 3: it has 64 bits, so an invocation whose ordinal
is zero or one modulo `2 ^ 64` looks like a first one.
-/

namespace DkPull.PullStream

open DkPull.Types
open DkPull.Reactive
open ProtocolChecker

variable {T : Type}

def SessionEvent.terminates : SessionEvent T → Bool
  | .request abort _ => abort.toBool
  | .answer _ done _ => done.toBool

def Terminated (history : List (SessionEvent T)) : Prop :=
  ∃ event ∈ history, event.terminates = true

instance (history : List (SessionEvent T)) :
    Decidable (Terminated history) :=
  inferInstanceAs
    (Decidable (∃ event ∈ history, event.terminates = true))

def SessionEvent.answer? : SessionEvent T → Option (Nat × Done)
  | .request _ _ => none
  | .answer position done _ => some (position, done)

def answers (history : List (SessionEvent T)) : List (Nat × Done) :=
  history.filterMap SessionEvent.answer?

def answered (history : List (SessionEvent T)) : List Nat :=
  (answers history).map Prod.fst

def NonNull (events : List (SessionEvent T)) : Prop :=
  ∀ isNull ∈ nulls events, isNull = false

instance (events : List (SessionEvent T)) : Decidable (NonNull events) :=
  inferInstanceAs (Decidable (∀ isNull ∈ nulls events, isNull = false))

/-- The protocol rules that a single event can break. -/
inductive Rule where
  | invariant1
  | invariant3
  | invariant4
  | invariant5
  | invariant6
  deriving DecidableEq, Repr

def Violates (options : Options) (history : List (SessionEvent T)) :
    SessionEvent T → Rule → Prop
  | .request abort _, .invariant1 =>
      abort.toBool = false ∧ Terminated history
  | .request _ _, .invariant6 =>
      options.forbidExtraRequests = true ∧ Terminated history
  | .answer position _ _, .invariant3 =>
      position ∈ answered history
  | .answer position _ _, .invariant4 =>
      ∃ earlier, earlier < position ∧ earlier ∉ answered history
  | .answer _ done _, .invariant5 =>
      done.toBool = false ∧ Terminated history
  | _, _ => False

def Reports : SessionEvent T → Rule → String → Prop
  | .request _ _, .invariant1, text =>
      text = "Invariant 1 violated: value requested after termination"
  | .request _ _, .invariant6, text =>
      text =
          "Invariant 6 violated: request made after the stream was " ++
            "aborted" ∨
        text =
          "Invariant 6 violated: request made after the stream has " ++
            "terminated"
  | .answer position _ _, .invariant3, text =>
      ∃ times : Nat,
        text =
          "Invariant 3 violated: callback " ++ toString (position + 1) ++
            " invoked " ++ toString times ++ " times"
  | .answer position _ _, .invariant4, text =>
      ∃ expected : Nat,
        text =
          "Invariant 4 violated: callback " ++ toString (position + 1) ++
            " invoked before callback " ++ toString expected
  | .answer position _ _, .invariant5, text =>
      text =
        "Invariant 5 violated: callback " ++ toString (position + 1) ++
          " returned a value after termination"
  | _, _, _ => False

/-- Among the returned texts, the stretch recorded during the event contains a
report of it. -/
def LeavesOwnMessage
    (options : Options) (history : List (SessionEvent T))
    (event : SessionEvent T) (rule : Rule) (returned : List String) : Prop :=
  ∃ early own late text,
    returned = early ++ own ++ late ∧
      recordedAfter options history = some early ∧
      recordedAfter options (history ++ [event]) = some (early ++ own) ∧
      text ∈ own ∧ Reports event rule text

/-- The 64-bit counter of a callback has come round to zero or one. -/
def CounterWrapped (history : List (SessionEvent T)) :
    SessionEvent T → Rule → Prop
  | .answer position _ _, .invariant3 =>
      ((answered history).count position + 1) % 2 ^ 64 ≤ 1
  | _, _ => False

@[simp]
theorem answers_append (first second : List (SessionEvent T)) :
    answers (first ++ second) = answers first ++ answers second :=
  List.filterMap_append

private theorem terminated_iff (history : List (SessionEvent T)) :
    Terminated history ↔
      (∃ flag ∈ (requests history).map Prod.fst, flag.toBool = true) ∨
        ∃ flag ∈ (answers history).map Prod.snd, flag.toBool = true := by
  constructor
  · rintro ⟨event, member, set⟩
    cases event with
    | request abort isNull =>
        have requested : (abort, isNull) ∈ requests history :=
          List.mem_filterMap.mpr ⟨_, member, rfl⟩
        exact Or.inl ⟨abort, List.mem_map.mpr ⟨_, requested, rfl⟩, set⟩
    | answer position done value =>
        have passed : (position, done) ∈ answers history :=
          List.mem_filterMap.mpr ⟨_, member, rfl⟩
        exact Or.inr ⟨done, List.mem_map.mpr ⟨_, passed, rfl⟩, set⟩
  · rintro (⟨flag, member, set⟩ | ⟨flag, member, set⟩)
    · obtain ⟨request, requested, rfl⟩ := List.mem_map.mp member
      obtain ⟨event, occurred, shape⟩ := List.mem_filterMap.mp requested
      cases event with
      | request abort isNull =>
          cases shape
          exact ⟨_, occurred, set⟩
      | answer position done value =>
          cases shape
    · obtain ⟨answer, passed, rfl⟩ := List.mem_map.mp member
      obtain ⟨event, occurred, shape⟩ := List.mem_filterMap.mp passed
      cases event with
      | request abort isNull =>
          cases shape
      | answer position done value =>
          cases shape
          exact ⟨_, occurred, set⟩

theorem NonNull.of_append
    {first second : List (SessionEvent T)}
    (nonNull : NonNull (first ++ second)) : NonNull first := by
  intro isNull member
  apply nonNull isNull
  rw [nulls_append]
  exact List.mem_append_left _ member

theorem wrapped_of_nonNull
    {history : List (SessionEvent T)} {position : Nat}
    (nonNull : NonNull history)
    (smaller : position < requestCount history) :
    (nulls history)[position]? = some false := by
  rw [← length_nulls] at smaller
  rw [List.getElem?_eq_getElem smaller]
  exact congrArg some (nonNull _ (List.getElem_mem smaller))

private theorem wrappedAnswers_eq_answers
    {history : List (SessionEvent T)}
    (nonNull : NonNull history) (possible : Possible history) :
    wrappedAnswers history = answers history := by
  induction history using List.reverseRecOn with
  | nil =>
      rfl
  | append_singleton history event inductionHypothesis =>
      have earlier :=
        inductionHypothesis nonNull.of_append possible.of_append
      cases event with
      | request abort isNull =>
          rw [wrappedAnswers_request, earlier, answers_append]
          exact (List.append_nil _).symm
      | answer position done value =>
          have wrapped :=
            wrapped_of_nonNull nonNull.of_append possible.answer_lt
          rw [wrappedAnswers_answer_wrapped wrapped, earlier,
            answers_append]
          rfl

/-- The two sticky flags together remember exactly whether the stream was
terminated. -/
theorem Tracks.terminated_iff
    {options : Options} {history : List (SessionEvent T)} {probe : Probe}
    (tracks : Tracks options history probe)
    (nonNull : NonNull history) (possible : Possible history) :
    (probe.self.aborted.toBool || probe.self.done.toBool) = true ↔
      Terminated history := by
  rw [Bool.or_eq_true, tracks.aborted, tracks.done, firstAbort, firstDone,
    toBool_firstSet, toBool_firstSet,
    wrappedAnswers_eq_answers nonNull possible,
    PullStream.terminated_iff]

/-- The checks made on an answer, with the counter of its callback expressed
by the past. -/
theorem Tracks.eventMessages_answer
    {options : Options} {history : List (SessionEvent T)} {probe : Probe}
    {position : Nat} {done : Done} {value : T}
    (tracks : Tracks options history probe) (nonNull : NonNull history)
    (possible : Possible (history ++ [.answer position done value])) :
    eventMessages probe (.answer position done value) =
      answerMessages probe.self
        ⟨callbackIndex position,
          UInt64.ofNat ((answered history).count position)⟩
        done := by
  have wrapped := wrapped_of_nonNull nonNull possible.answer_lt
  have issued :
      probe.callbacks[position]? =
        some (some ⟨callbackIndex position,
          UInt64.ofNat ((answered history).count position)⟩) := by
    rw [tracks.issued, List.getElem?_mapIdx, wrapped, answered,
      ← wrappedAnswers_eq_answers nonNull possible.of_append]
    rfl
  simp only [eventMessages, issued]

/-! ## Every rule is reported -/

private theorem request_reports_invariant1
    {self : ProtocolChecker} {abort : Abort}
    (terminated : (self.aborted.toBool || self.done.toBool) = true)
    (value : abort.toBool = false) :
    Message.valueRequestedAfterTermination ∈ requestMessages self abort := by
  simp [requestMessages, terminated, value]

private theorem request_reports_invariant6
    {self : ProtocolChecker} (abort : Abort)
    (terminated : (self.aborted.toBool || self.done.toBool) = true)
    (forbids : self.forbidExtraRequests = true) :
    Message.requestAfterAborted ∈ requestMessages self abort ∨
      Message.requestAfterTerminated ∈ requestMessages self abort := by
  cases aborted : self.aborted.toBool with
  | true =>
      simp [requestMessages, forbids, aborted]
  | false =>
      rw [aborted, Bool.false_or] at terminated
      simp [requestMessages, forbids, aborted, terminated]

private theorem answer_reports_invariant5
    {self : ProtocolChecker} (callback : WrappedCallback) {done : Done}
    (terminated : (self.aborted.toBool || self.done.toBool) = true)
    (value : done.toBool = false) :
    Message.returnedValueAfterTermination callback.i ∈
      answerMessages self callback done := by
  simp [answerMessages, valueMessages, terminated, value]

/-- A counter that has not come round after `count` earlier invocations. -/
theorem answer_reports_invariant3
    (self : ProtocolChecker) (i : UInt64) {count : Nat} (done : Done)
    (repeated : 1 < (count + 1) % 2 ^ 64) :
    Message.invokedTimes i (UInt64.ofNat count + 1) ∈
      answerMessages self ⟨i, UInt64.ofNat count⟩ done := by
  have counter : UInt64.ofNat count + 1 > 1 := by
    rw [gt_iff_lt, UInt64.lt_iff_toNat_lt, UInt64.toNat_add,
      UInt64.toNat_ofNat']
    have one : (1 : UInt64).toNat = 1 := rfl
    rw [one]
    omega
  simp [answerMessages, countMessages, counter]

/-- While a callback before `position` has not been reached, `position` is out
of order. -/
theorem answer_reports_invariant4
    {self : ProtocolChecker} {position limit : Nat} (counter : UInt64)
    (done : Done)
    (unreached : self.latest.toNat < position) (smaller : position < limit)
    (bounded : limit < indexLimit) :
    Message.invokedBefore (callbackIndex position) (self.latest + 1) ∈
      answerMessages self ⟨callbackIndex position, counter⟩ done := by
  have index := toNat_callbackIndex (Nat.lt_trans smaller bounded)
  have next := toNat_latest_succ
    (Nat.lt_trans unreached (Nat.lt_trans smaller bounded))
  have notEarly : ¬ callbackIndex position < self.latest := by
    rw [UInt64.lt_iff_toNat_lt, index]
    omega
  have late : callbackIndex position > self.latest + 1 := by
    rw [gt_iff_lt, UInt64.lt_iff_toNat_lt, index, next]
    omega
  simp [answerMessages, orderMessages, notEarly, late]

private theorem reports_invokedTimes
    {position : Nat} (done : Done) (value : T) {i counter : UInt64}
    (index : i.toNat = position + 1) :
    Reports (.answer position done value) .invariant3
      (Message.invokedTimes i counter).text := by
  refine ⟨counter.toNat, ?_⟩
  rw [← index]
  rfl

private theorem reports_invokedBefore
    {position : Nat} (done : Done) (value : T) {i expected : UInt64}
    (index : i.toNat = position + 1) :
    Reports (.answer position done value) .invariant4
      (Message.invokedBefore i expected).text := by
  refine ⟨expected.toNat, ?_⟩
  rw [← index]
  rfl

private theorem reports_returnedValue
    {position : Nat} (done : Done) (value : T) {i : UInt64}
    (index : i.toNat = position + 1) :
    Reports (.answer position done value) .invariant5
      (Message.returnedValueAfterTermination i).text := by
  change _ = _
  rw [← index]
  rfl

/-- A checker whose variables agree with the past reports the violation. -/
theorem reports_of_violates
    {options : Options} {history : List (SessionEvent T)} {probe : Probe}
    {event : SessionEvent T} {rule : Rule}
    (tracks : Tracks options history probe)
    (reached : LatestReached history probe)
    (possible : Possible (history ++ [event]))
    (nonNull : NonNull history)
    (bounded : requestCount history < indexLimit)
    (violates : Violates options history event rule)
    (counted : ¬ CounterWrapped history event rule) :
    ∃ err ∈ eventMessages probe event, Reports event rule err.text := by
  have terminated := tracks.terminated_iff nonNull possible.of_append
  cases event with
  | request abort isNull =>
      cases rule with
      | invariant1 =>
          exact
            ⟨_, request_reports_invariant1
              (terminated.mpr violates.2) violates.1, rfl⟩
      | invariant6 =>
          have forbids := tracks.forbids.trans violates.1
          rcases request_reports_invariant6 abort
              (terminated.mpr violates.2) forbids with
            member | member
          · exact ⟨_, member, Or.inl rfl⟩
          · exact ⟨_, member, Or.inr rfl⟩
      | invariant3 => exact violates.elim
      | invariant4 => exact violates.elim
      | invariant5 => exact violates.elim
  | answer position done value =>
      have smaller := possible.answer_lt
      have index := toNat_callbackIndex (Nat.lt_trans smaller bounded)
      rw [tracks.eventMessages_answer nonNull possible]
      cases rule with
      | invariant3 =>
          have repeated := answer_reports_invariant3
            probe.self (callbackIndex position) done
            (Nat.lt_of_not_le counted)
          exact ⟨_, repeated, reports_invokedTimes done value index⟩
      | invariant4 =>
          obtain ⟨earlier, below, missing⟩ := violates
          have unreached : probe.self.latest.toNat < position := by
            by_contra atLeast
            apply missing
            rw [answered, ← wrappedAnswers_eq_answers nonNull
              possible.of_append]
            exact reached.invoked earlier (by omega)
          have late := answer_reports_invariant4
            (UInt64.ofNat ((answered history).count position))
            done unreached smaller bounded
          exact ⟨_, late, reports_invokedBefore done value index⟩
      | invariant5 =>
          have reported := answer_reports_invariant5
            ⟨callbackIndex position,
              UInt64.ofNat ((answered history).count position)⟩
            (terminated.mpr violates.2) violates.1
          exact
            ⟨_, reported, reports_returnedValue done value index⟩
      | invariant1 => exact violates.elim
      | invariant6 => exact violates.elim

/-- A collecting checker leaves a message of its own for every violation of
the rules 1, 3, 4, 5 and 6, also after earlier violations, unless the 64-bit
counter of the callback has come round. -/
theorem violations_are_reported
    {options : Options} {events : List (SessionEvent T)}
    (collecting : options.notifyEagerly = false)
    (possible : Possible events) (nonNull : NonNull events)
    (bounded : requestCount events < 2 ^ 64 - 1) :
    ∃ returned,
      judgement options events = some (.ok returned) ∧
        ∀ before event after rule,
          events = before ++ event :: after →
          Violates options before event rule →
          ¬ CounterWrapped before event rule →
            LeavesOwnMessage options before event rule returned := by
  obtain ⟨probe, outputs, ran, unthrown⟩ :=
    run_exists_of_collecting collecting possible
  have mode := (tracks_of_run ran unthrown).mode.trans collecting
  have tolerated : Tolerates probe (terminateMessages probe.self) :=
    Or.inl mode
  refine
    ⟨(probe.self.errors ++ terminateMessages probe.self).map Message.text,
      judgement_of_run ran tolerated, ?_⟩
  rintro before event after rule rfl violates counted
  obtain
    ⟨middle, early, next, emitted, late, front, stepped, back, shape⟩ :=
    Machine.run_split ran
  rw [shape] at unthrown
  obtain ⟨earlyUnthrown, rest⟩ := unthrown.of_append
  obtain ⟨nowUnthrown, lateUnthrown⟩ := rest.of_append
  have regroup : before ++ event :: after = before ++ [event] ++ after := by
    simp
  rw [regroup] at possible nonNull
  have smallerCount : requestCount before < indexLimit := by
    rw [requestCount_append] at bounded
    exact Nat.lt_of_le_of_lt (Nat.le_add_right _ _) bounded
  obtain ⟨err, reported, describes⟩ :=
    reports_of_violates (tracks_of_run front earlyUnthrown)
      (latestReached_of_run front earlyUnthrown smallerCount)
      possible.of_append nonNull.of_append.of_append smallerCount
      violates counted
  have recorded := (step_errors stepped nowUnthrown).2
  obtain ⟨more, grown⟩ := errors_prefix_of_run back lateUnthrown
  have passedEvent :
      sessionMachine.run (Probe.create options) (before ++ [event]) =
        some (next, early ++ emitted) :=
    Machine.run_concat_eq_some.mpr
      ⟨middle, early, emitted, front, stepped, rfl⟩
  refine
    ⟨middle.self.errors.map Message.text,
      (eventMessages middle event).map Message.text,
      (more ++ terminateMessages probe.self).map Message.text,
      err.text, ?_, ?_, ?_, List.mem_map_of_mem reported, describes⟩
  · rw [← grown, recorded]
    simp
  · simp [recordedAfter, front]
  · simp [recordedAfter, passedEvent, recorded]

/-- A callback answered twice in a row leaves the report of rule 3. -/
theorem violations_are_reported_answered_twice :
    ∃ returned,
      judgement { notifyEagerly := false }
          [.request .FALSE false, .answer 0 .TRUE (), .answer 0 .TRUE ()] =
        some (.ok returned) ∧
        ∀ before event after rule,
          [SessionEvent.request .FALSE false, .answer 0 .TRUE (),
              .answer 0 .TRUE ()] =
            before ++ event :: after →
          Violates { notifyEagerly := false } before event rule →
          ¬ CounterWrapped before event rule →
            LeavesOwnMessage { notifyEagerly := false } before event rule
              returned :=
  violations_are_reported rfl (by decide) (by decide) (by decide)

/-! ## The counter comes round -/

def repeatedlyAnswered (count : Nat) : List (SessionEvent Unit) :=
  .request .FALSE false :: List.replicate count (.answer 0 .TRUE ())

private theorem repeatedlyAnswered_concat (count : Nat) :
    repeatedlyAnswered count ++ [.answer 0 .TRUE ()] =
      repeatedlyAnswered (count + 1) := by
  rw [repeatedlyAnswered, repeatedlyAnswered, List.cons_append,
    List.replicate_succ']

private theorem requestCount_repeatedlyAnswered (count : Nat) :
    requestCount (repeatedlyAnswered count) = 1 := by
  induction count with
  | zero =>
      rfl
  | succ count inductionHypothesis =>
      rw [← repeatedlyAnswered_concat, requestCount_append,
        inductionHypothesis]
      rfl

private theorem nulls_repeatedlyAnswered (count : Nat) :
    nulls (repeatedlyAnswered count) = [false] := by
  induction count with
  | zero =>
      rfl
  | succ count inductionHypothesis =>
      rw [← repeatedlyAnswered_concat, nulls_append, inductionHypothesis]
      rfl

private theorem answered_repeatedlyAnswered (count : Nat) :
    answered (repeatedlyAnswered count) = List.replicate count 0 := by
  induction count with
  | zero =>
      rfl
  | succ count inductionHypothesis =>
      rw [← repeatedlyAnswered_concat, answered, answers_append,
        List.map_append, ← answered, inductionHypothesis,
        List.replicate_succ']
      rfl

private theorem possible_repeatedlyAnswered (count : Nat) :
    Possible (repeatedlyAnswered count) := by
  intro before position done value after shape
  have member :
      SessionEvent.answer position done value ∈ repeatedlyAnswered count := by
    rw [shape]
    simp
  rw [repeatedlyAnswered, List.mem_cons] at member
  rcases member with impossible | repeated
  · cases impossible
  · obtain ⟨_, same⟩ := List.mem_replicate.mp repeated
    cases same
    cases before with
    | nil =>
        cases shape
    | cons first rest =>
        rw [repeatedlyAnswered, List.cons_append] at shape
        injection shape with firstEq _
        subst firstEq
        exact Nat.succ_pos _

private theorem nonNull_repeatedlyAnswered (count : Nat) :
    NonNull (repeatedlyAnswered count) := by
  intro isNull member
  rw [nulls_repeatedlyAnswered] at member
  exact List.mem_singleton.mp member

/-- An invocation that brings the counter round to zero is not reported at
all. -/
theorem wrapped_invocation_leaves_nothing
    {options : Options} {count : Nat} {returned : List String}
    (collecting : options.notifyEagerly = false)
    (wraps : UInt64.ofNat count + 1 = 0) :
    ¬ LeavesOwnMessage options (repeatedlyAnswered count)
      (.answer 0 .TRUE ()) .invariant3 returned := by
  rintro ⟨early, own, late, text, _, before, now, member, _⟩
  have possible :
      Possible (repeatedlyAnswered count ++ [.answer 0 .TRUE ()]) := by
    rw [repeatedlyAnswered_concat]
    exact possible_repeatedlyAnswered (count + 1)
  have nonNull := nonNull_repeatedlyAnswered count
  obtain ⟨probe, outputs, ran, unthrown⟩ :=
    run_exists_of_collecting collecting possible.of_append
  have tracks := tracks_of_run ran unthrown
  have single := requestCount_repeatedlyAnswered count
  have bounded : requestCount (repeatedlyAnswered count) < indexLimit := by
    rw [single]
    decide
  have reached := (latestReached_of_run ran unthrown bounded).bounded
  have ordered :
      orderMessages probe.self.latest (callbackIndex 0) = [] := by
    rw [orderMessages_eq_nil_iff reached
      (Nat.lt_of_lt_of_eq Nat.zero_lt_one single.symm) bounded]
    omega
  have silent : eventMessages probe (.answer 0 .TRUE ()) = [] := by
    rw [tracks.eventMessages_answer nonNull possible,
      answered_repeatedlyAnswered, List.count_replicate_self]
    simp [answerMessages, valueMessages, countMessages, wraps, ordered]
  obtain ⟨next, emitted, stepped, nowUnthrown⟩ :=
    step_exists tracks possible (Or.inr silent)
  have recorded := (step_errors stepped nowUnthrown).2
  have passedEvent :
      sessionMachine.run (Probe.create options)
          (repeatedlyAnswered count ++ [.answer 0 .TRUE ()]) =
        some (next, outputs ++ emitted) :=
    Machine.run_concat_eq_some.mpr
      ⟨probe, outputs, emitted, ran, stepped, rfl⟩
  rw [silent, List.append_nil] at recorded
  simp only [recordedAfter, ran, passedEvent, recorded, Option.map_some,
    Option.some.injEq] at before now
  rw [before, List.self_eq_append_right] at now
  rw [now] at member
  cases member

/-- The violation of rule 3 by invocation number `2 ^ 64` of one callback
leaves no message. -/
theorem counter_wraps_unreported :
    ¬ ∀ (options : Options) (events : List (SessionEvent Unit)),
        options.notifyEagerly = false → Possible events → NonNull events →
        requestCount events < 2 ^ 64 - 1 →
          ∃ returned,
            judgement options events = some (.ok returned) ∧
              ∀ before event after rule,
                events = before ++ event :: after →
                Violates options before event rule →
                  LeavesOwnMessage options before event rule returned := by
  intro every
  obtain ⟨count, wraps, positive⟩ :
      ∃ count, UInt64.ofNat count + 1 = 0 ∧ 0 < count :=
    ⟨2 ^ 64 - 1, by decide, by decide⟩
  obtain ⟨returned, _, reported⟩ :=
    every { notifyEagerly := false } (repeatedlyAnswered (count + 1)) rfl
      (possible_repeatedlyAnswered (count + 1))
      (nonNull_repeatedlyAnswered (count + 1))
      (by rw [requestCount_repeatedlyAnswered]; decide)
  refine
    wrapped_invocation_leaves_nothing rfl wraps
      (reported (repeatedlyAnswered count) (.answer 0 .TRUE ()) []
        .invariant3 (repeatedlyAnswered_concat count).symm ?_)
  change 0 ∈ answered (repeatedlyAnswered count)
  rw [answered_repeatedlyAnswered]
  exact List.mem_replicate.mpr ⟨Nat.ne_of_gt positive, rfl⟩

end DkPull.PullStream
