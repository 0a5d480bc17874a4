import DkPull.PullStream.ProtocolConformance
import DkPull.PullStream.ProtocolNullCallbacks
import Mathlib.Data.List.Basic

/-!
# Whether the messages of the protocol checker are true

The checker remembers one number of all the invocations: how many callbacks
have been invoked in turn.  An invocation that comes early is reported and
forgotten.  The messages that are read off this number are therefore true as
long as every callback that has been invoked has also been invoked in its turn,
and false otherwise.
-/

namespace DkPull.PullStream

open DkPull.Types
open DkPull.Reactive
open ProtocolChecker

variable {T : Type}

/-- The list contains the first `count` numbers in order, and no more of
them. -/
def Reaches (positions : List Nat) (count : Nat) : Prop :=
  (List.range count).Sublist positions ∧
    ¬ (List.range (count + 1)).Sublist positions

/-- A longer segment is found either earlier or by the last element. -/
theorem range_succ_sublist_concat_iff
    {positions : List Nat} {position count : Nat} :
    (List.range (count + 1)).Sublist (positions ++ [position]) ↔
      (List.range (count + 1)).Sublist positions ∨
        position = count ∧ (List.range count).Sublist positions := by
  constructor
  · intro found
    obtain ⟨front, last, shape, fronts, lasts⟩ :=
      List.sublist_append_iff.mp found
    rcases List.sublist_singleton.mp lasts with rfl | rfl
    · rw [List.append_nil] at shape
      exact .inl (shape ▸ fronts)
    · obtain ⟨limit, rfl⟩ := range_eq_concat shape.symm
      exact .inr ⟨by omega, by simpa [← Nat.succ.inj limit] using fronts⟩
  · rintro (earlier | ⟨rfl, earlier⟩)
    · exact earlier.trans (List.sublist_append_left _ _)
    · rw [List.range_succ]
      exact earlier.append (List.Sublist.refl _)

theorem Reaches.range_sublist_iff
    {positions : List Nat} {count tested : Nat}
    (reaches : Reaches positions count) :
    (List.range tested).Sublist positions ↔ tested ≤ count := by
  constructor
  · intro found
    by_contra larger
    have shorter : count + 1 ≤ tested := by omega
    exact reaches.2 ((List.range_sublist.mpr shorter).trans found)
  · intro smaller
    exact (List.range_sublist.mpr smaller).trans reaches.1

/-- Only the number that is next in turn makes the segment longer. -/
theorem Reaches.concat
    {positions : List Nat} {count : Nat}
    (reaches : Reaches positions count) (position : Nat) :
    Reaches (positions ++ [position])
      (if position = count then count + 1 else count) := by
  by_cases next : position = count
  · rw [if_pos next]
    constructor
    · exact range_succ_sublist_concat_iff.mpr (.inr ⟨next, reaches.1⟩)
    · rw [range_succ_sublist_concat_iff, reaches.range_sublist_iff]
      omega
  · rw [if_neg next]
    constructor
    · exact reaches.1.trans (List.sublist_append_left _ _)
    · rw [range_succ_sublist_concat_iff, reaches.range_sublist_iff]
      omega

/-! ## What `latest` counts -/

/-- The order check moves `latest` on for the next callback in turn, and for no
other. -/
theorem toNat_nextLatest
    {latest : UInt64} {position limit : Nat}
    (reached : latest.toNat ≤ limit) (smaller : position < limit)
    (bounded : limit < indexLimit) :
    (nextLatest latest (callbackIndex position)).toNat =
      if position = latest.toNat then latest.toNat + 1
      else latest.toNat := by
  have index := toNat_callbackIndex (Nat.lt_trans smaller bounded)
  have silentIff := orderMessages_eq_nil_iff reached smaller bounded
  unfold nextLatest
  by_cases silent : orderMessages latest (callbackIndex position) = []
  · have place := silentIff.mp silent
    rw [if_pos silent, index]
    split <;> omega
  · have outside := mt silentIff.mpr silent
    rw [if_neg silent, if_neg (by omega)]

/-- `latest` counts the callbacks that have been invoked in turn. -/
theorem reaches_of_run
    {options : Options} {events : List (SessionEvent T)} {probe : Probe}
    {outputs : List (SessionOutput T)}
    (ran :
      sessionMachine.run (Probe.create options) events =
        some (probe, outputs))
    (unthrown : Unthrown outputs) (nonNull : NonNull events)
    (bounded : requestCount events < indexLimit) :
    Reaches (answered events) probe.self.latest.toNat := by
  refine
    Machine.history_invariant
      (fun history outputs probe =>
        Unthrown outputs → NonNull history →
          requestCount history < indexLimit →
          Reaches (answered history) probe.self.latest.toNat)
      ?_ ?_ ran unthrown nonNull bounded
  · intro _ _ _
    exact ⟨List.Sublist.refl _, by simp [answered, answers]⟩
  intro history outputs probe event next emitted front reaches stepped
    unthrown nonNull bounded
  obtain ⟨before, now⟩ := unthrown.of_append
  have tracks := tracks_of_run front before
  have smallerCount : requestCount history < indexLimit := by
    rw [requestCount_append] at bounded
    omega
  have current := reaches before nonNull.of_append smallerCount
  have reached := (latestReached_of_run front before smallerCount).bounded
  cases event with
  | request abort isNull =>
      obtain ⟨_, rfl, _⟩ := step_request_cases stepped now
      rw [answered_append, answered_request, List.append_nil]
      exact current
  | answer position done value =>
      have possible := tracks.possible_concat
        (possible_of_run front before) stepped
      have smaller := possible.answer_lt
      have wrapped := wrapped_of_nonNull nonNull.of_append smaller
      rcases tracks.answer_cases stepped now with
        ⟨unwrapped, _⟩ | ⟨_, rfl⟩
      · exact absurd wrapped unwrapped
      · have latest := toNat_nextLatest reached smaller smallerCount
        rw [answered_append, answered_answer]
        have longer := current.concat position
        rw [← latest] at longer
        exact longer

/-- Callback `k` has been handed to the source, which has not invoked it. -/
def Uninvoked (history : List (SessionEvent T)) (k : Nat) : Prop :=
  ∃ position,
    position < requestCount history ∧ position ∉ answered history ∧
      k = position + 1

/-- The returned texts name exactly the callbacks that were never invoked. -/
def NeverInvokedTrue
    (events : List (SessionEvent T)) (returned : List String) : Prop :=
  ∀ k : Nat,
    "Invariant 2 violated: callback " ++ toString k ++
          " was never invoked" ∈
        returned ↔
      Uninvoked events k

def RecordedDuring
    (options : Options) (history : List (SessionEvent T))
    (event : SessionEvent T) (text : String) : Prop :=
  ∃ early own,
    recordedAfter options history = some early ∧
      recordedAfter options (history ++ [event]) = some (early ++ own) ∧
      text ∈ own

/-- Whenever a callback is reported to be invoked before another one, the other
one is still to be invoked. -/
def InvokedBeforeTrue
    (options : Options) (events : List (SessionEvent T)) : Prop :=
  ∀ before event after,
    events = before ++ event :: after →
      ∀ a b : Nat,
        RecordedDuring options before event
            ("Invariant 4 violated: callback " ++ toString a ++
              " invoked before callback " ++ toString b) →
          Uninvoked before b

/-- The first `count` callbacks have been invoked one after the other, possibly
with other invocations between them. -/
def InvokedInTurn (history : List (SessionEvent T)) (count : Nat) : Prop :=
  (List.range count).Sublist (answered history)

instance (history : List (SessionEvent T)) (count : Nat) :
    Decidable (InvokedInTurn history count) :=
  inferInstanceAs (Decidable ((List.range count).Sublist _))

/-- Every callback that has been invoked was also invoked in its turn. -/
def AllInTurn (events : List (SessionEvent T)) : Prop :=
  ∀ position ∈ answered events, InvokedInTurn events (position + 1)

/-- When a callback is invoked, an earlier one that was next in turn has not
been invoked out of turn. -/
def NoneOutOfTurn (events : List (SessionEvent T)) : Prop :=
  ∀ before position done value after,
    events = before ++ .answer position done value :: after →
      ∀ earlier, earlier < position → earlier ∈ answered before →
        InvokedInTurn before earlier → InvokedInTurn before (earlier + 1)

instance (events : List (SessionEvent T)) : Decidable (AllInTurn events) :=
  inferInstanceAs
    (Decidable
      (∀ position ∈ answered events, InvokedInTurn events (position + 1)))

/-- The event does not pass over a callback that was invoked out of turn. -/
def SessionEvent.keepsTurn
    (history : List (SessionEvent T)) : SessionEvent T → Bool
  | .request _ _ => true
  | .answer position _ _ =>
      decide
        (∀ earlier, earlier < position → earlier ∈ answered history →
          InvokedInTurn history earlier → InvokedInTurn history (earlier + 1))

private theorem noneOutOfTurn_iff (events : List (SessionEvent T)) :
    NoneOutOfTurn events ↔
      ∀ before event after,
        events = before ++ event :: after →
          event.keepsTurn before = true := by
  constructor
  · intro noneOutOfTurn before event after shape
    cases event with
    | request abort isNull =>
        rfl
    | answer position done value =>
        exact decide_eq_true (noneOutOfTurn _ _ _ _ _ shape)
  · intro checked before position done value after shape
    exact of_decide_eq_true (checked before _ after shape)

instance (events : List (SessionEvent T)) :
    Decidable (NoneOutOfTurn events) :=
  decidable_of_iff _
    ((noneOutOfTurn_iff events).trans (forall_moment_iff _ _)).symm

private theorem Possible.answered_lt
    {history : List (SessionEvent T)} (possible : Possible history)
    {position : Nat} (invoked : position ∈ answered history) :
    position < requestCount history := by
  obtain ⟨⟨_, done⟩, member, rfl⟩ := List.mem_map.mp invoked
  obtain ⟨event, occurred, shape⟩ := List.mem_filterMap.mp member
  cases event with
  | request abort isNull =>
      cases shape
  | answer position done value =>
      cases shape
      obtain ⟨before, after, split⟩ := List.append_of_mem occurred
      have handed := possible _ _ _ _ _ split
      rw [split, requestCount_append]
      exact Nat.lt_add_right _ handed

private theorem recordedDuring_iff
    {options : Options} {history : List (SessionEvent T)}
    {event : SessionEvent T} {probe next : Probe}
    {outputs emitted : List (SessionOutput T)} {text : String}
    (ran :
      sessionMachine.run (Probe.create options) history =
        some (probe, outputs))
    (stepped : sessionMachine.step probe event = some (next, emitted))
    (unthrown : Unthrown emitted) :
    RecordedDuring options history event text ↔
      ∃ err ∈ eventMessages probe event, err.text = text := by
  have recorded := (step_errors stepped unthrown).2
  have passed :
      sessionMachine.run (Probe.create options) (history ++ [event]) =
        some (next, outputs ++ emitted) :=
    Machine.run_concat_eq_some.mpr
      ⟨probe, outputs, emitted, ran, stepped, rfl⟩
  have early :
      recordedAfter options history =
        some (probe.self.errors.map Message.text) := by
    simp [recordedAfter, ran]
  have late :
      recordedAfter options (history ++ [event]) =
        some
          (probe.self.errors.map Message.text ++
            (eventMessages probe event).map Message.text) := by
    simp [recordedAfter, passed, recorded]
  rw [← List.mem_map]
  constructor
  · rintro ⟨found, own, first, second, member⟩
    rw [early] at first
    rw [late, ← Option.some.inj first] at second
    rwa [List.append_cancel_left (Option.some.inj second)]
  · intro member
    exact ⟨_, _, early, late, member⟩

/-- An answer is reported as early exactly if `latest` has not reached the
callback before it. -/
theorem invokedBefore_reported_iff
    {options : Options} {history : List (SessionEvent T)} {probe : Probe}
    {position : Nat} {done : Done} {value : T} {i expected : UInt64}
    (tracks : Tracks options history probe) (nonNull : NonNull history)
    (possible : Possible (history ++ [.answer position done value]))
    (reached : probe.self.latest.toNat ≤ requestCount history)
    (bounded : requestCount history < indexLimit) :
    Message.invokedBefore i expected ∈
        eventMessages probe (.answer position done value) ↔
      probe.self.latest.toNat < position ∧ i = callbackIndex position ∧
        expected = probe.self.latest + 1 := by
  have smaller := possible.answer_lt
  have index := toNat_callbackIndex (Nat.lt_trans smaller bounded)
  have next := toNat_latest_succ (Nat.lt_of_le_of_lt reached bounded)
  have noValue :
      Message.invokedBefore i expected ∉
        valueMessages probe.self (callbackIndex position) done :=
    fun member =>
      absurd (rule_of_mem_valueMessages member) (show '4' ≠ '5' by decide)
  have noCount (callback : WrappedCallback) :
      Message.invokedBefore i expected ∉ countMessages callback :=
    fun member =>
      absurd (rule_of_mem_countMessages member) (show '4' ≠ '3' by decide)
  rw [tracks.eventMessages_answer nonNull possible, answerMessages,
    List.mem_append, List.mem_append, or_iff_right noValue,
    or_iff_right (noCount _)]
  unfold orderMessages
  simp only [gt_iff_lt, UInt64.lt_iff_toNat_lt, index, next]
  split
  · simp only [List.mem_singleton, reduceCtorEq, false_iff]
    omega
  · split
    · simp only [List.mem_singleton, Message.invokedBefore.injEq]
      have late : probe.self.latest.toNat < position := by omega
      exact (and_iff_right late).symm
    · simp only [List.not_mem_nil, false_iff]
      omega

/-- What `Terminate()` says of rule 2 is true exactly if every callback that
was invoked was also invoked in its turn. -/
theorem neverInvokedTrue_iff
    {options : Options} {events : List (SessionEvent T)} {probe : Probe}
    {outputs : List (SessionOutput T)}
    (ran :
      sessionMachine.run (Probe.create options) events =
        some (probe, outputs))
    (unthrown : Unthrown outputs) (nonNull : NonNull events)
    (bounded : requestCount events < indexLimit) :
    NeverInvokedTrue events
        ((probe.self.errors ++ terminateMessages probe.self).map
          Message.text) ↔
      AllInTurn events := by
  have reaches := reaches_of_run ran unthrown nonNull bounded
  have reported :
      ∀ position, position < requestCount events →
        ("Invariant 2 violated: callback " ++ toString (position + 1) ++
              " was never invoked" ∈
            (probe.self.errors ++ terminateMessages probe.self).map
              Message.text ↔
          probe.self.latest.toNat ≤ position) := by
    intro position smaller
    have index := toNat_callbackIndex (Nat.lt_trans smaller bounded)
    rw [List.mem_map]
    constructor
    · rintro ⟨err, member, text⟩
      obtain ⟨i, rfl, same⟩ := eq_neverInvoked_of_text_eq text
      rw [neverInvoked_reported_iff ran unthrown bounded, same] at member
      exact Nat.lt_succ_iff.mp member.1
    · intro behind
      refine ⟨.neverInvoked (callbackIndex position), ?_, ?_⟩
      · rw [neverInvoked_reported_iff ran unthrown bounded, index]
        omega
      · rw [← index]
        rfl
  constructor
  · intro exactly position invoked
    by_contra outOfTurn
    rw [InvokedInTurn, reaches.range_sublist_iff] at outOfTurn
    have smaller : position < requestCount events :=
      (possible_of_run ran unthrown).answered_lt invoked
    have named := (reported position smaller).mpr (by omega)
    obtain ⟨found, _, missing, same⟩ := (exactly (position + 1)).mp named
    rw [← Nat.succ.inj same] at missing
    exact missing invoked
  · intro inTurn k
    constructor
    · intro named
      obtain ⟨err, member, text⟩ := List.mem_map.mp named
      obtain ⟨i, rfl, rfl⟩ := eq_neverInvoked_of_text_eq text
      rw [neverInvoked_reported_iff ran unthrown bounded] at member
      refine ⟨i.toNat - 1, by omega, ?_, by omega⟩
      intro invoked
      have turn := inTurn _ invoked
      rw [InvokedInTurn, reaches.range_sublist_iff] at turn
      omega
    · rintro ⟨position, smaller, missing, rfl⟩
      rw [reported position smaller]
      by_contra passed
      have below : position ∈ List.range probe.self.latest.toNat :=
        List.mem_range.mpr (by omega)
      exact missing (reaches.1.subset below)

/-- What is known of a collecting checker when an event is about to take
place. -/
structure Moment
    (options : Options) (before : List (SessionEvent T))
    (event : SessionEvent T) (probe : Probe) : Prop where
  tracks : Tracks options before probe
  reaches : Reaches (answered before) probe.self.latest.toNat
  reached : probe.self.latest.toNat ≤ requestCount before
  possible : Possible (before ++ [event])
  nonNull : NonNull before
  bounded : requestCount before < indexLimit
  recorded :
    ∀ text,
      RecordedDuring options before event text ↔
        ∃ err ∈ eventMessages probe event, err.text = text

private theorem moment_exists
    {options : Options} {events before after : List (SessionEvent T)}
    {event : SessionEvent T}
    (collecting : options.notifyEagerly = false)
    (possible : Possible events) (nonNull : NonNull events)
    (bounded : requestCount events < indexLimit)
    (shape : events = before ++ event :: after) :
    ∃ probe, Moment options before event probe := by
  subst shape
  have regroup :
      before ++ event :: after = before ++ [event] ++ after := by
    simp
  have possibleNow : Possible (before ++ [event]) :=
    (regroup ▸ possible).of_append
  obtain ⟨probe, outputs, ran, unthrown⟩ :=
    run_exists_of_collecting collecting possibleNow.of_append
  have tracks := tracks_of_run ran unthrown
  obtain ⟨next, emitted, stepped, now⟩ :=
    step_exists tracks possibleNow (.inl (tracks.mode.trans collecting))
  rw [requestCount_append] at bounded
  have boundedBefore : requestCount before < indexLimit := by omega
  exact
    ⟨probe,
      { tracks := tracks
        reaches :=
          reaches_of_run ran unthrown nonNull.of_append boundedBefore
        reached := (latestReached_of_run ran unthrown boundedBefore).bounded
        possible := possibleNow
        nonNull := nonNull.of_append
        bounded := boundedBefore
        recorded := fun _ => recordedDuring_iff ran stepped now }⟩

/-- What is recorded about early callbacks is true exactly if none of the
callbacks next in turn had been invoked out of turn. -/
theorem invokedBeforeTrue_iff
    {options : Options} {events : List (SessionEvent T)}
    (collecting : options.notifyEagerly = false)
    (possible : Possible events) (nonNull : NonNull events)
    (bounded : requestCount events < indexLimit) :
    InvokedBeforeTrue options events ↔ NoneOutOfTurn events := by
  constructor
  · intro true before position done value after shape earlier smaller
      invoked inTurn
    obtain ⟨probe, moment⟩ :=
      moment_exists collecting possible nonNull bounded shape
    have expected :=
      toNat_latest_succ (Nat.lt_of_le_of_lt moment.reached moment.bounded)
    rw [InvokedInTurn, moment.reaches.range_sublist_iff] at inTurn ⊢
    by_contra outOfTurn
    have latest : probe.self.latest.toNat = earlier := by omega
    have reported :=
      (invokedBefore_reported_iff moment.tracks moment.nonNull
        moment.possible moment.reached moment.bounded).mpr
        ⟨by omega, rfl, rfl⟩
    obtain ⟨found, _, missing, same⟩ :=
      true _ _ _ shape (callbackIndex position).toNat
        (probe.self.latest + 1).toNat
        ((moment.recorded _).mpr ⟨_, reported, rfl⟩)
    rw [expected, latest] at same
    rw [← Nat.succ.inj same] at missing
    exact missing invoked
  · intro noneOutOfTurn before event after shape a b recorded
    obtain ⟨probe, moment⟩ :=
      moment_exists collecting possible nonNull bounded shape
    have expected :=
      toNat_latest_succ (Nat.lt_of_le_of_lt moment.reached moment.bounded)
    obtain ⟨err, member, text⟩ := (moment.recorded _).mp recorded
    obtain ⟨i, next, rfl, rfl, rfl⟩ := eq_invokedBefore_of_text_eq text
    cases event with
    | request abort isNull =>
        rcases rule_of_mem_requestMessages member with rule | rule
        · exact absurd rule (show '4' ≠ '1' by decide)
        · exact absurd rule (show '4' ≠ '6' by decide)
    | answer position done value =>
        obtain ⟨early, rfl, rfl⟩ :=
          (invokedBefore_reported_iff moment.tracks moment.nonNull
            moment.possible moment.reached moment.bounded).mp member
        have smaller := moment.possible.answer_lt
        refine
          ⟨probe.self.latest.toNat, Nat.lt_trans early smaller, ?_,
            expected⟩
        intro invoked
        have turn :=
          noneOutOfTurn _ _ _ _ _ shape _ early invoked
            (moment.reaches.range_sublist_iff.mpr (Nat.le_refl _))
        rw [InvokedInTurn, moment.reaches.range_sublist_iff] at turn
        omega

/-- The messages of a collecting checker are true exactly of the sessions in
which every callback that was invoked was also invoked in its turn, and in
which nothing was invoked while a callback next in turn had been invoked out of
turn. -/
theorem messages_true_iff
    {options : Options} {events : List (SessionEvent T)}
    (collecting : options.notifyEagerly = false)
    (possible : Possible events) (nonNull : NonNull events)
    (bounded : requestCount events < 2 ^ 64 - 1) :
    ∃ returned,
      judgement options events = some (.ok returned) ∧
        (NeverInvokedTrue events returned ∧
            InvokedBeforeTrue options events ↔
          AllInTurn events ∧ NoneOutOfTurn events) := by
  obtain ⟨probe, outputs, ran, unthrown⟩ :=
    run_exists_of_collecting collecting possible
  have mode := (tracks_of_run ran unthrown).mode.trans collecting
  exact
    ⟨_, judgement_of_run ran (.inl mode),
      and_congr (neverInvokedTrue_iff ran unthrown nonNull bounded)
        (invokedBeforeTrue_iff collecting possible nonNull bounded)⟩

def secondInvokedAgain : List (SessionEvent Unit) :=
  [.request .FALSE false, .request .FALSE false, .answer 1 .FALSE (),
    .answer 0 .FALSE (), .answer 1 .FALSE ()]

theorem messages_true_iff_secondInvokedAgain :
    ∃ returned,
      judgement { notifyEagerly := false } secondInvokedAgain =
          some (.ok returned) ∧
        NeverInvokedTrue secondInvokedAgain returned ∧
        InvokedBeforeTrue { notifyEagerly := false } secondInvokedAgain := by
  obtain ⟨returned, judged, true_iff⟩ :=
    @messages_true_iff Unit { notifyEagerly := false } secondInvokedAgain
      rfl (by decide) (by decide) (by decide)
  exact ⟨returned, judged, true_iff.mpr ⟨by decide, by decide⟩⟩

def secondBeforeFirst : List (SessionEvent Unit) :=
  [.request .FALSE false, .request .FALSE false, .request .FALSE false,
    .answer 1 .FALSE (), .answer 0 .FALSE (), .answer 2 .FALSE ()]

/-- The third callback is said to be invoked before the second, which has been
invoked already, and both are said never to have been invoked. -/
theorem secondBeforeFirst_is_misreported :
    ∃ returned,
      judgement { notifyEagerly := false } secondBeforeFirst =
          some (.ok returned) ∧
        ¬ NeverInvokedTrue secondBeforeFirst returned ∧
        ¬ InvokedBeforeTrue { notifyEagerly := false }
          secondBeforeFirst := by
  refine
    ⟨["Invariant 4 violated: callback 2 invoked before callback 1",
        "Invariant 4 violated: callback 3 invoked before callback 2",
        "Invariant 2 violated: callback 2 was never invoked",
        "Invariant 2 violated: callback 3 was never invoked"],
      by decide, ?_, ?_⟩
  · intro exactly
    obtain ⟨position, _, missing, same⟩ := (exactly 2).mp (by decide)
    rw [← Nat.succ.inj same] at missing
    exact absurd missing (by decide)
  · intro stillToCome
    obtain ⟨position, _, missing, same⟩ :=
      stillToCome (secondBeforeFirst.take 5) (.answer 2 .FALSE ()) [] rfl
        3 2
        ⟨["Invariant 4 violated: callback 2 invoked before callback 1"],
          ["Invariant 4 violated: callback 3 invoked before callback 2"],
          by decide, by decide, by decide⟩
    rw [← Nat.succ.inj same] at missing
    exact absurd missing (by decide)

end DkPull.PullStream
