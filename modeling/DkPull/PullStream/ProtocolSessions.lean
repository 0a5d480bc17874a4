import DkPull.PullStream.ProtocolCheckerSteps
import Mathlib.Algebra.Group.Nat.Defs

/-!
# What the protocol checker remembers of a session

The checker compresses the whole past of a session into a few variables.  This
module states what these variables mean in terms of the events themselves and
proves that they keep this meaning for as long as no call has thrown, whatever
the two sides do and however often they have misbehaved already.
-/

namespace DkPull.PullStream

open DkPull.Types
open DkPull.Reactive
open ProtocolChecker

variable {T : Type}

def SessionEvent.request? : SessionEvent T → Option (Abort × Bool)
  | .request abort isNull => some (abort, isNull)
  | .answer _ _ _ => none

def requests (history : List (SessionEvent T)) : List (Abort × Bool) :=
  history.filterMap SessionEvent.request?

def requestCount (history : List (SessionEvent T)) : Nat :=
  (requests history).length

def nulls (history : List (SessionEvent T)) : List Bool :=
  (requests history).map Prod.snd

/-- The answers that reach a wrapped callback, given for each earlier request
whether its callback is null.  Answers to `noop` are left out. -/
def wrappedAnswersFrom :
    List Bool → List (SessionEvent T) → List (Nat × Done)
  | _, [] => []
  | issued, .request _ isNull :: rest =>
      wrappedAnswersFrom (issued ++ [isNull]) rest
  | issued, .answer position done _ :: rest =>
      if issued[position]? = some false then
        (position, done) :: wrappedAnswersFrom issued rest
      else wrappedAnswersFrom issued rest

def wrappedAnswers (history : List (SessionEvent T)) : List (Nat × Done) :=
  wrappedAnswersFrom [] history

def invocations
    (history : List (SessionEvent T)) (position : Nat) : Nat :=
  ((wrappedAnswers history).map Prod.fst).count position

/-- The first flag of a list that is set, or `FALSE`. -/
def firstSet (flags : List EndOrError) : EndOrError :=
  (flags.find? EndOrError.toBool).getD EndOrError.FALSE

def firstAbort (history : List (SessionEvent T)) : Abort :=
  firstSet ((requests history).map Prod.fst)

def firstDone (history : List (SessionEvent T)) : Done :=
  firstSet ((wrappedAnswers history).map Prod.snd)

/-- A source can only invoke what it has been handed. -/
def Possible (events : List (SessionEvent T)) : Prop :=
  ∀ before position done value after,
    events = before ++ .answer position done value :: after →
      position < requestCount before

@[simp]
theorem requests_append (first second : List (SessionEvent T)) :
    requests (first ++ second) = requests first ++ requests second :=
  List.filterMap_append

@[simp]
theorem requests_request (abort : Abort) (isNull : Bool) :
    requests [(.request abort isNull : SessionEvent T)] =
      [(abort, isNull)] :=
  rfl

@[simp]
theorem requests_answer (position : Nat) (done : Done) (value : T) :
    requests [SessionEvent.answer position done value] = [] :=
  rfl

@[simp]
theorem requestCount_append (first second : List (SessionEvent T)) :
    requestCount (first ++ second) =
      requestCount first + requestCount second := by
  simp [requestCount]

@[simp]
theorem requestCount_request (abort : Abort) (isNull : Bool) :
    requestCount [(.request abort isNull : SessionEvent T)] = 1 :=
  rfl

@[simp]
theorem requestCount_answer (position : Nat) (done : Done) (value : T) :
    requestCount [SessionEvent.answer position done value] = 0 :=
  rfl

@[simp]
theorem nulls_append (first second : List (SessionEvent T)) :
    nulls (first ++ second) = nulls first ++ nulls second := by
  simp [nulls]

@[simp]
theorem length_nulls (history : List (SessionEvent T)) :
    (nulls history).length = requestCount history := by
  simp [nulls, requestCount]

@[simp]
theorem nulls_request (abort : Abort) (isNull : Bool) :
    nulls [(.request abort isNull : SessionEvent T)] = [isNull] :=
  rfl

@[simp]
theorem nulls_answer (position : Nat) (done : Done) (value : T) :
    nulls [SessionEvent.answer position done value] = [] :=
  rfl

theorem wrappedAnswersFrom_append
    (issued : List Bool) (first second : List (SessionEvent T)) :
    wrappedAnswersFrom issued (first ++ second) =
      wrappedAnswersFrom issued first ++
        wrappedAnswersFrom (issued ++ nulls first) second := by
  induction first generalizing issued with
  | nil =>
      simp [wrappedAnswersFrom, nulls, requests]
  | cons event rest inductionHypothesis =>
      cases event with
      | request abort isNull =>
          simpa [wrappedAnswersFrom, nulls, requests,
            SessionEvent.request?] using
            inductionHypothesis (issued ++ [isNull])
      | answer position done value =>
          have tail := inductionHypothesis issued
          have sameNulls :
              nulls (.answer position done value :: rest) = nulls rest :=
            rfl
          rw [List.cons_append, wrappedAnswersFrom, wrappedAnswersFrom,
            tail, sameNulls]
          split <;> simp

@[simp]
theorem wrappedAnswers_request
    (history : List (SessionEvent T)) (abort : Abort) (isNull : Bool) :
    wrappedAnswers (history ++ [.request abort isNull]) =
      wrappedAnswers history := by
  simp [wrappedAnswers, wrappedAnswersFrom_append, wrappedAnswersFrom]

theorem wrappedAnswers_answer_wrapped
    {history : List (SessionEvent T)} {position : Nat}
    (wrapped : (nulls history)[position]? = some false)
    (done : Done) (value : T) :
    wrappedAnswers (history ++ [.answer position done value]) =
      wrappedAnswers history ++ [(position, done)] := by
  simp [wrappedAnswers, wrappedAnswersFrom_append, wrappedAnswersFrom,
    wrapped]

theorem wrappedAnswers_answer_noop
    {history : List (SessionEvent T)} {position : Nat}
    (unwrapped : (nulls history)[position]? ≠ some false)
    (done : Done) (value : T) :
    wrappedAnswers (history ++ [.answer position done value]) =
      wrappedAnswers history := by
  simp [wrappedAnswers, wrappedAnswersFrom_append, wrappedAnswersFrom,
    unwrapped]

/-- The first set flag sticks; an unset one is `FALSE`, so the latest flag
takes its place. -/
theorem firstSet_concat (flags : List EndOrError) (flag : EndOrError) :
    firstSet (flags ++ [flag]) =
      if (firstSet flags).toBool then firstSet flags else flag := by
  unfold firstSet
  rw [List.find?_append]
  cases found : flags.find? EndOrError.toBool with
  | some first =>
      have set : first.toBool = true := List.find?_some found
      simp [set]
  | none =>
      cases set : flag.toBool with
      | true =>
          simp [set]
      | false =>
          simp [EndOrError.eq_FALSE_of_toBool_false set]

theorem toBool_firstSet (flags : List EndOrError) :
    (firstSet flags).toBool = true ↔
      ∃ flag ∈ flags, flag.toBool = true := by
  unfold firstSet
  cases found : flags.find? EndOrError.toBool with
  | some first =>
      have set : first.toBool = true := List.find?_some found
      exact iff_of_true set ⟨first, List.mem_of_find?_eq_some found, set⟩
  | none =>
      rw [List.find?_eq_none] at found
      refine iff_of_false (by simp) ?_
      rintro ⟨flag, member, set⟩
      exact found flag member set

theorem Possible.of_append
    {first second : List (SessionEvent T)}
    (possible : Possible (first ++ second)) :
    Possible first := by
  intro before position done value after shape
  refine possible before position done value (after ++ second) ?_
  rw [shape, List.append_assoc, List.cons_append]

theorem Possible.answer_lt
    {history : List (SessionEvent T)} {position : Nat} {done : Done}
    {value : T}
    (possible : Possible (history ++ [.answer position done value])) :
    position < requestCount history :=
  possible history position done value [] rfl

def SessionEvent.possibleAfter
    (history : List (SessionEvent T)) : SessionEvent T → Bool
  | .request _ _ => true
  | .answer position _ _ => decide (position < requestCount history)

theorem possible_iff (events : List (SessionEvent T)) :
    Possible events ↔
      ∀ before event after,
        events = before ++ event :: after →
          event.possibleAfter before = true := by
  constructor
  · intro possible before event after shape
    cases event with
    | request abort isNull =>
        rfl
    | answer position done value =>
        exact decide_eq_true (possible _ _ _ _ _ shape)
  · intro checked before position done value after shape
    exact of_decide_eq_true (checked before _ after shape)

instance (events : List (SessionEvent T)) : Decidable (Possible events) :=
  decidable_of_iff _ ((possible_iff events).trans (forall_moment_iff _ _)).symm

/-! ## The meaning of the variables -/

/-- The index that the checker gives to the request at `position`. -/
def callbackIndex (position : Nat) : UInt64 :=
  UInt64.ofNat (position + 1)

theorem callbackIndex_succ (position : Nat) :
    callbackIndex (position + 1) = callbackIndex position + 1 := by
  rw [callbackIndex, callbackIndex, UInt64.ofNat_add (position + 1) 1]
  rfl

/-- The wrapped callback of the request at `position`, as it stands after the
given past. -/
def wrappedAt
    (history : List (SessionEvent T)) (position : Nat) : WrappedCallback :=
  ⟨callbackIndex position, UInt64.ofNat (invocations history position)⟩

@[simp]
theorem wrappedAt_i (history : List (SessionEvent T)) (position : Nat) :
    (wrappedAt history position).i = callbackIndex position :=
  rfl

def issuedCallback
    (history : List (SessionEvent T)) (position : Nat) (isNull : Bool) :
    Option WrappedCallback :=
  if isNull then none else some (wrappedAt history position)

/-- The variables of the checker agree with the past. -/
structure Tracks
    (options : Options) (history : List (SessionEvent T)) (probe : Probe) :
    Prop where
  forbids :
    probe.self.forbidExtraRequests = options.forbidExtraRequests
  enforces :
    probe.self.enforceStreamTermination = options.enforceStreamTermination
  mode : probe.self.notifyEagerly = options.notifyEagerly
  index : probe.self.i = callbackIndex (requestCount history)
  aborted : probe.self.aborted = firstAbort history
  done : probe.self.done = firstDone history
  skipped : ∀ k, probe.self.skipped k ≠ some false
  issued :
    probe.callbacks = (nulls history).mapIdx (issuedCallback history)

theorem Tracks.create (options : Options) :
    Tracks options ([] : List (SessionEvent T)) (Probe.create options) where
  forbids := rfl
  enforces := rfl
  mode := rfl
  index := rfl
  aborted := rfl
  done := rfl
  skipped := by
    intro k impossible
    cases impossible
  issued := rfl

theorem wrapped_of_mem_wrappedAnswers
    {history : List (SessionEvent T)} {position : Nat} {done : Done}
    (member : (position, done) ∈ wrappedAnswers history) :
    (nulls history)[position]? = some false := by
  induction history using List.reverseRecOn with
  | nil =>
      cases member
  | append_singleton history event inductionHypothesis =>
      have earlier :
          (position, done) ∈ wrappedAnswers history →
            (nulls (history ++ [event]))[position]? = some false := by
        intro earlierMember
        have found := inductionHypothesis earlierMember
        rw [nulls_append, List.getElem?_append_left]
        · exact found
        · exact (List.getElem?_eq_some_iff.mp found).1
      cases event with
      | request abort isNull =>
          rw [wrappedAnswers_request] at member
          exact earlier member
      | answer answered answeredDone value =>
          by_cases wrapped : (nulls history)[answered]? = some false
          · rw [wrappedAnswers_answer_wrapped wrapped] at member
            rcases List.mem_append.mp member with before | now
            · exact earlier before
            · simp only [List.mem_singleton, Prod.mk.injEq] at now
              rw [now.1, nulls_append, nulls_answer, List.append_nil]
              exact wrapped
          · rw [wrappedAnswers_answer_noop wrapped] at member
            exact earlier member

private theorem invocations_eq_zero
    {history : List (SessionEvent T)} {position : Nat}
    (unissued : requestCount history ≤ position) :
    invocations history position = 0 := by
  apply List.count_eq_zero.mpr
  intro member
  obtain ⟨⟨answered, done⟩, counted, same⟩ := List.mem_map.mp member
  simp only at same
  subst same
  have wrapped := wrapped_of_mem_wrappedAnswers counted
  obtain ⟨smaller, _⟩ := List.getElem?_eq_some_iff.mp wrapped
  rw [length_nulls] at smaller
  omega

theorem Tracks.request
    {options : Options} {history : List (SessionEvent T)} {probe : Probe}
    (tracks : Tracks options history probe)
    (abort : Abort) (isNull : Bool) :
    Tracks options (history ++ [.request abort isNull])
      (afterRequest probe abort isNull) where
  forbids := tracks.forbids
  enforces := tracks.enforces
  mode := tracks.mode
  index := by
    simp [afterRequest, tracks.index, callbackIndex_succ]
  aborted := by
    simp [afterRequest, tracks.aborted, firstAbort, firstSet_concat]
  done := by
    simp [afterRequest, tracks.done, firstDone]
  skipped := by
    intro k
    cases isNull with
    | false =>
        exact tracks.skipped k
    | true =>
        change
          Function.update probe.self.skipped probe.self.i (some true) k ≠
            some false
        by_cases same : k = probe.self.i
        · simp [same]
        · rw [Function.update_of_ne same]
          exact tracks.skipped k
  issued := by
    have sameCallbacks :
        issuedCallback (history ++ [.request abort isNull]) =
          issuedCallback history := by
      funext position isNull
      simp [issuedCallback, wrappedAt, invocations]
    have fresh := invocations_eq_zero (Nat.le_refl (requestCount history))
    rw [nulls_append, nulls_request, List.mapIdx_concat, sameCallbacks,
      ← tracks.issued, length_nulls]
    simp [afterRequest, issuedCallback, wrappedAt, tracks.index, fresh]

private theorem invocations_answer
    {history : List (SessionEvent T)} {position : Nat}
    (wrapped : (nulls history)[position]? = some false)
    (done : Done) (value : T) (tested : Nat) :
    invocations (history ++ [.answer position done value]) tested =
      invocations history tested + if position = tested then 1 else 0 := by
  simp [invocations, wrappedAnswers_answer_wrapped wrapped,
    List.count_singleton]

/-- A callback found in the checker is the one that was issued. -/
theorem Tracks.callback_eq
    {options : Options} {history : List (SessionEvent T)} {probe : Probe}
    (tracks : Tracks options history probe)
    {position : Nat} {callback : WrappedCallback}
    (issued : probe.callbacks[position]? = some (some callback)) :
    (nulls history)[position]? = some false ∧
      callback = wrappedAt history position := by
  rw [tracks.issued, List.getElem?_mapIdx] at issued
  obtain ⟨isNull, found, same⟩ := Option.map_eq_some_iff.mp issued
  cases isNull with
  | false =>
      exact ⟨found, (Option.some.inj same).symm⟩
  | true =>
      cases same

theorem Tracks.noop_unwrapped
    {options : Options} {history : List (SessionEvent T)} {probe : Probe}
    (tracks : Tracks options history probe) {position : Nat}
    (issued : probe.callbacks[position]? = some none) :
    (nulls history)[position]? ≠ some false := by
  intro wrapped
  rw [tracks.issued, List.getElem?_mapIdx, wrapped] at issued
  cases issued

theorem Tracks.answer
    {options : Options} {history : List (SessionEvent T)} {probe : Probe}
    (tracks : Tracks options history probe)
    {position : Nat} {callback : WrappedCallback}
    (issued : probe.callbacks[position]? = some (some callback))
    (done : Done) (value : T) :
    Tracks options (history ++ [.answer position done value])
      (afterAnswer probe position callback done) where
  forbids := tracks.forbids
  enforces := tracks.enforces
  mode := tracks.mode
  index := by
    simp [afterAnswer, tracks.index]
  aborted := by
    simp [afterAnswer, tracks.aborted, firstAbort]
  done := by
    have wrapped := (tracks.callback_eq issued).1
    simp [afterAnswer, passedDone, tracks.done, firstDone,
      wrappedAnswers_answer_wrapped wrapped, firstSet_concat]
  skipped := tracks.skipped
  issued := by
    obtain ⟨wrapped, rfl⟩ := tracks.callback_eq issued
    apply List.ext_getElem?
    intro tested
    rw [nulls_append, nulls_answer, List.append_nil]
    simp only [afterAnswer, List.getElem?_set, tracks.issued,
      List.getElem?_mapIdx, List.length_mapIdx]
    by_cases same : position = tested
    · subst same
      obtain ⟨inRange, notNull⟩ := List.getElem?_eq_some_iff.mp wrapped
      have smaller : position < requestCount history := by
        rwa [length_nulls] at inRange
      simp [notNull, smaller, issuedCallback, wrappedAt,
        invocations_answer wrapped,
        UInt64.ofNat_add]
    · have sameCallback :
          issuedCallback (history ++ [.answer position done value]) tested =
            issuedCallback history tested := by
        funext isNull
        simp [issuedCallback, wrappedAt, invocations_answer wrapped, same]
      simp [same, sameCallback]

theorem Tracks.noop
    {options : Options} {history : List (SessionEvent T)} {probe : Probe}
    (tracks : Tracks options history probe)
    {position : Nat}
    (issued : probe.callbacks[position]? = some none)
    (done : Done) (value : T) :
    Tracks options (history ++ [.answer position done value]) probe := by
  have sameAnswers :=
    wrappedAnswers_answer_noop (tracks.noop_unwrapped issued) done value
  have sameCallbacks :
      issuedCallback (history ++ [.answer position done value]) =
        issuedCallback history := by
    funext tested isNull
    simp [issuedCallback, wrappedAt, invocations, sameAnswers]
  exact
    { forbids := tracks.forbids
      enforces := tracks.enforces
      mode := tracks.mode
      index := by simpa using tracks.index
      aborted := by simpa [firstAbort] using tracks.aborted
      done := by simpa [firstDone, sameAnswers] using tracks.done
      skipped := tracks.skipped
      issued := by
        rw [nulls_append, nulls_answer, List.append_nil, sameCallbacks]
        exact tracks.issued }

/-- Everything an answer can do, told apart by the past. -/
theorem Tracks.answer_cases
    {options : Options} {history : List (SessionEvent T)}
    {probe next : Probe} {position : Nat} {done : Done} {value : T}
    {emitted : List (SessionOutput T)}
    (tracks : Tracks options history probe)
    (stepped :
      sessionMachine.step probe (.answer position done value) =
        some (next, emitted))
    (unthrown : Unthrown emitted) :
    ((nulls history)[position]? ≠ some false ∧ next = probe) ∨
      ((nulls history)[position]? = some false ∧
        next =
          afterAnswer probe position (wrappedAt history position)
            done) := by
  rcases step_answer_cases stepped unthrown with
    ⟨issued, same, _⟩ | ⟨callback, issued, _, same, _⟩
  · exact Or.inl ⟨tracks.noop_unwrapped issued, same⟩
  · obtain ⟨wrapped, rfl⟩ := tracks.callback_eq issued
    exact Or.inr ⟨wrapped, same⟩

/-- The variables of the checker agree with the past after every session in
which no call has thrown. -/
theorem tracks_of_run
    {options : Options} {events : List (SessionEvent T)} {probe : Probe}
    {outputs : List (SessionOutput T)}
    (ran :
      sessionMachine.run (Probe.create options) events =
        some (probe, outputs))
    (unthrown : Unthrown outputs) :
    Tracks options events probe := by
  refine
    Machine.history_invariant
      (fun history outputs probe =>
        Unthrown outputs → Tracks options history probe)
      (fun _ => Tracks.create options) ?_ ran unthrown
  intro history outputs probe event next emitted _ tracks stepped unthrown
  obtain ⟨before, now⟩ := unthrown.of_append
  have current := tracks before
  cases event with
  | request abort isNull =>
      obtain ⟨_, rfl, _⟩ := step_request_cases stepped now
      exact current.request abort isNull
  | answer position done value =>
      rcases step_answer_cases stepped now with
        ⟨issued, rfl, _⟩ | ⟨callback, issued, _, rfl, _⟩
      · exact current.noop issued done value
      · exact current.answer issued done value

/-- An answer takes place only if it has been asked for. -/
theorem Tracks.possible_concat
    {options : Options} {history : List (SessionEvent T)}
    {probe next : Probe} {event : SessionEvent T}
    {emitted : List (SessionOutput T)}
    (tracks : Tracks options history probe) (possible : Possible history)
    (stepped : sessionMachine.step probe event = some (next, emitted)) :
    Possible (history ++ [event]) := by
  rw [possible_iff, forall_moment_concat_iff, ← possible_iff]
  refine ⟨possible, ?_⟩
  cases event with
  | request abort isNull =>
      rfl
  | answer position done value =>
      have asked : probe.callbacks[position]? ≠ none := by
        intro missing
        simp [sessionMachine, missing] at stepped
      rw [Ne, List.getElem?_eq_none_iff, Nat.not_le, tracks.issued,
        List.length_mapIdx, length_nulls] at asked
      exact decide_eq_true asked

/-- Every session in which no call throws is possible. -/
theorem possible_of_run
    {options : Options} {events : List (SessionEvent T)} {probe : Probe}
    {outputs : List (SessionOutput T)}
    (ran :
      sessionMachine.run (Probe.create options) events =
        some (probe, outputs))
    (unthrown : Unthrown outputs) :
    Possible events := by
  refine
    Machine.history_invariant
      (fun history outputs _ => Unthrown outputs → Possible history)
      ?_ ?_ ran unthrown
  · intro _ before position done value after shape
    simp at shape
  intro history outputs probe event next emitted front possible stepped
    unthrown
  obtain ⟨before, _⟩ := unthrown.of_append
  exact
    (tracks_of_run front before).possible_concat (possible before) stepped

/-! ## The reach of `latest` -/

/-- As long as the indices do not wrap, `latest` counts callbacks that have all
been invoked. -/
structure LatestReached
    (history : List (SessionEvent T)) (probe : Probe) : Prop where
  bounded : probe.self.latest.toNat ≤ requestCount history
  invoked :
    ∀ position, position < probe.self.latest.toNat →
      position ∈ (wrappedAnswers history).map Prod.fst

/-- The number of requests for which no index of the checker wraps. -/
def indexLimit : Nat :=
  2 ^ 64 - 1

theorem toNat_callbackIndex
    {position : Nat} (bounded : position < indexLimit) :
    (callbackIndex position).toNat = position + 1 := by
  rw [callbackIndex, UInt64.toNat_ofNat']
  apply Nat.mod_eq_of_lt
  unfold indexLimit at bounded
  omega

theorem toNat_latest_succ
    {latest : UInt64} (bounded : latest.toNat < indexLimit) :
    (latest + 1).toNat = latest.toNat + 1 := by
  rw [UInt64.toNat_add]
  apply Nat.mod_eq_of_lt
  unfold indexLimit at bounded
  have one : (1 : UInt64).toNat = 1 := rfl
  omega

/-- The order check is silent exactly for the current and the next callback. -/
theorem orderMessages_eq_nil_iff
    {latest : UInt64} {position limit : Nat}
    (reached : latest.toNat ≤ limit) (smaller : position < limit)
    (bounded : limit < indexLimit) :
    orderMessages latest (callbackIndex position) = [] ↔
      latest.toNat = position ∨ latest.toNat = position + 1 := by
  have index := toNat_callbackIndex (Nat.lt_trans smaller bounded)
  have next := toNat_latest_succ (Nat.lt_of_le_of_lt reached bounded)
  unfold orderMessages
  simp only [gt_iff_lt, UInt64.lt_iff_toNat_lt, index, next]
  split
  · simp only [List.cons_ne_nil, false_iff]
    omega
  · split
    · simp only [List.cons_ne_nil, false_iff]
      omega
    · simp only [true_iff]
      omega

theorem Tracks.position_lt
    {options : Options} {history : List (SessionEvent T)} {probe : Probe}
    (tracks : Tracks options history probe)
    {position : Nat} {handed : Option WrappedCallback}
    (issued : probe.callbacks[position]? = some handed) :
    position < requestCount history := by
  rw [tracks.issued] at issued
  simpa using (List.getElem?_eq_some_iff.mp issued).1

theorem LatestReached.answer
    {options : Options} {history : List (SessionEvent T)} {probe : Probe}
    (tracks : Tracks options history probe)
    (reached : LatestReached history probe)
    (bounded : requestCount history < indexLimit)
    {position : Nat} {callback : WrappedCallback}
    (issued : probe.callbacks[position]? = some (some callback))
    (done : Done) (value : T) :
    LatestReached (history ++ [.answer position done value])
      (afterAnswer probe position callback done) := by
  have smaller := tracks.position_lt issued
  obtain ⟨wrapped, rfl⟩ := tracks.callback_eq issued
  have index := toNat_callbackIndex (Nat.lt_trans smaller bounded)
  have answers :
      (wrappedAnswers (history ++ [.answer position done value])).map
          Prod.fst =
        (wrappedAnswers history).map Prod.fst ++ [position] := by
    simp [wrappedAnswers_answer_wrapped wrapped]
  have silentIff :=
    orderMessages_eq_nil_iff reached.bounded smaller bounded
  by_cases silent :
      orderMessages probe.self.latest (callbackIndex position) = []
  · have latest :
        (afterAnswer probe position (wrappedAt history position)
          done).self.latest.toNat = position + 1 := by
      simp [afterAnswer, nextLatest, silent, index]
    have place := silentIff.mp silent
    constructor
    · rw [latest, requestCount_append, requestCount_answer]
      exact smaller
    · intro tested below
      rw [latest] at below
      rw [answers]
      rcases Nat.lt_succ_iff_lt_or_eq.mp below with earlier | same
      · exact
          List.mem_append_left _ (reached.invoked tested (by omega))
      · exact List.mem_append_right _ (by simp [same])
  · have latest :
        (afterAnswer probe position (wrappedAt history position)
          done).self.latest = probe.self.latest := by
      simp [afterAnswer, nextLatest, silent]
    constructor
    · rw [latest, requestCount_append, requestCount_answer]
      exact reached.bounded
    · intro tested below
      rw [latest] at below
      rw [answers]
      exact List.mem_append_left _ (reached.invoked tested below)

/-- `latest` never runs ahead of the invocations, also after the source has
answered out of order. -/
theorem latestReached_of_run
    {options : Options} {events : List (SessionEvent T)} {probe : Probe}
    {outputs : List (SessionOutput T)}
    (ran :
      sessionMachine.run (Probe.create options) events =
        some (probe, outputs))
    (unthrown : Unthrown outputs)
    (bounded : requestCount events < indexLimit) :
    LatestReached events probe := by
  refine
    Machine.history_invariant
      (fun history outputs probe =>
        Unthrown outputs → requestCount history < indexLimit →
          LatestReached history probe)
      ?_ ?_ ran unthrown bounded
  · intro _ _
    refine ⟨Nat.le_refl 0, ?_⟩
    intro position below
    exact absurd below (Nat.not_lt_zero position)
  intro history outputs probe event next emitted front reached stepped
    unthrown bounded
  obtain ⟨before, now⟩ := unthrown.of_append
  have tracks := tracks_of_run front before
  have earlierBounded : requestCount history < indexLimit := by
    rw [requestCount_append] at bounded
    omega
  have current := reached before earlierBounded
  cases event with
  | request abort isNull =>
      obtain ⟨_, rfl, _⟩ := step_request_cases stepped now
      constructor
      · rw [requestCount_append]
        exact Nat.le_add_right_of_le current.bounded
      · intro position below
        rw [wrappedAnswers_request]
        exact current.invoked position below
  | answer position done value =>
      rcases step_answer_cases stepped now with
        ⟨issued, rfl, _⟩ | ⟨callback, issued, _, rfl, _⟩
      · have unwrapped := tracks.noop_unwrapped issued
        constructor
        · rw [requestCount_append, requestCount_answer]
          exact current.bounded
        · rw [wrappedAnswers_answer_noop unwrapped]
          exact current.invoked
      · exact current.answer tracks earlierBounded issued done value

def eventMessages (probe : Probe) : SessionEvent T → List Message
  | .request abort _ => requestMessages probe.self abort
  | .answer position done _ =>
      match probe.callbacks[position]? with
      | some (some callback) => answerMessages probe.self callback done
      | _ => []

theorem step_errors
    {probe next : Probe} {event : SessionEvent T}
    {emitted : List (SessionOutput T)}
    (stepped : sessionMachine.step probe event = some (next, emitted))
    (unthrown : Unthrown emitted) :
    Tolerates probe (eventMessages probe event) ∧
      next.self.errors =
        probe.self.errors ++ eventMessages probe event := by
  cases event with
  | request abort isNull =>
      obtain ⟨tolerated, rfl, _⟩ := step_request_cases stepped unthrown
      exact ⟨tolerated, rfl⟩
  | answer position done value =>
      rcases step_answer_cases stepped unthrown with
        ⟨issued, rfl, _⟩ | ⟨callback, issued, tolerated, rfl, _⟩
      · simp [eventMessages, issued, Tolerates]
      · simp only [eventMessages, issued]
        exact ⟨tolerated, rfl⟩

/-- A possible event whose messages are tolerated is carried out. -/
theorem step_exists
    {options : Options} {history : List (SessionEvent T)} {probe : Probe}
    (tracks : Tracks options history probe) {event : SessionEvent T}
    (possible : Possible (history ++ [event]))
    (tolerated : Tolerates probe (eventMessages probe event)) :
    ∃ next emitted,
      sessionMachine.step probe event = some (next, emitted) ∧
        Unthrown emitted := by
  cases event with
  | request abort isNull =>
      exact
        ⟨_, _, step_request_tolerated isNull tolerated, by
          simp [Unthrown]⟩
  | answer position done value =>
      have smaller : position < (nulls history).length := by
        rw [length_nulls]
        exact possible.answer_lt
      have issued :
          probe.callbacks[position]? =
            some (issuedCallback history position
              (nulls history)[position]) := by
        rw [tracks.issued, List.getElem?_mapIdx,
          List.getElem?_eq_getElem smaller]
        rfl
      cases handed :
          issuedCallback history position (nulls history)[position] with
      | none =>
          rw [handed] at issued
          exact
            ⟨_, _, step_answer_noop done value issued, by simp [Unthrown]⟩
      | some callback =>
          rw [handed] at issued
          simp only [eventMessages, issued] at tolerated
          exact
            ⟨_, _, step_answer_tolerated value issued tolerated, by
              simp [Unthrown]⟩

theorem Unthrown.append
    {early late : List (SessionOutput T)}
    (before : Unthrown early) (after : Unthrown late) :
    Unthrown (early ++ late) := by
  intro err member
  rcases List.mem_append.mp member with earlier | later
  · exact before err earlier
  · exact after err later

/-- A session runs to its end without an exception when everything that it
makes the checker report is tolerated. -/
theorem run_exists
    {options : Options} {events : List (SessionEvent T)}
    (possible : Possible events)
    (tolerated :
      ∀ before event after probe outputs,
        events = before ++ event :: after →
        sessionMachine.run (Probe.create options) before =
          some (probe, outputs) →
        Unthrown outputs →
          Tolerates probe (eventMessages probe event)) :
    ∃ probe outputs,
      sessionMachine.run (Probe.create options) events =
          some (probe, outputs) ∧
        Unthrown outputs := by
  induction events using List.reverseRecOn with
  | nil =>
      exact ⟨Probe.create options, [], rfl, by simp [Unthrown]⟩
  | append_singleton history event inductionHypothesis =>
      have earlier :=
        inductionHypothesis possible.of_append
          (fun before current after probe outputs shape front unthrown =>
            tolerated before current (after ++ [event]) probe outputs
              (by simp [shape]) front unthrown)
      obtain ⟨probe, outputs, front, unthrown⟩ := earlier
      obtain ⟨next, emitted, stepped, now⟩ :=
        step_exists (tracks_of_run front unthrown) possible
          (tolerated history event [] probe outputs rfl front unthrown)
      exact
        ⟨next, outputs ++ emitted,
          Machine.run_concat_eq_some.mpr
            ⟨probe, outputs, emitted, front, stepped, rfl⟩,
          unthrown.append now⟩

/-- A checker that collects follows every possible session. -/
theorem run_exists_of_collecting
    {options : Options} {events : List (SessionEvent T)}
    (collecting : options.notifyEagerly = false)
    (possible : Possible events) :
    ∃ probe outputs,
      sessionMachine.run (Probe.create options) events =
          some (probe, outputs) ∧
        Unthrown outputs := by
  refine run_exists possible ?_
  intro before event after probe outputs _ front unthrown
  exact Or.inl ((tracks_of_run front unthrown).mode.trans collecting)

theorem errors_prefix_of_run
    {source target : Probe} {events : List (SessionEvent T)}
    {outputs : List (SessionOutput T)}
    (ran : sessionMachine.run source events = some (target, outputs))
    (unthrown : Unthrown outputs) :
    source.self.errors <+: target.self.errors := by
  refine
    Machine.history_invariant
      (fun _ outputs probe =>
        Unthrown outputs → source.self.errors <+: probe.self.errors)
      (fun _ => List.prefix_rfl) ?_ ran unthrown
  intro _ outputs probe event next emitted _ grown stepped unthrown
  obtain ⟨before, now⟩ := unthrown.of_append
  rw [(step_errors stepped now).2]
  exact (grown before).trans (List.prefix_append _ _)

/-! ## Judgements -/

def recordedAfter
    (options : Options) (events : List (SessionEvent T)) :
    Option (List String) :=
  (sessionMachine.run (Probe.create options) events).map fun result =>
    result.1.self.errors.map Message.text

/-- What `Terminate()` returns or throws at the end of a session. -/
def judgement
    (options : Options) (events : List (SessionEvent T)) :
    Option (Except String (List String)) :=
  (sessionMachine.run (Probe.create options) events).map fun result =>
    match (terminate result.1).1 with
    | .ok errors => .ok (errors.map Message.text)
    | .error err => .error err.text

/-- A tolerated `Terminate()` returns everything that was recorded, followed by
the messages of its final checks. -/
theorem judgement_of_run
    {options : Options} {events : List (SessionEvent T)} {probe : Probe}
    {outputs : List (SessionOutput T)}
    (ran :
      sessionMachine.run (Probe.create options) events =
        some (probe, outputs))
    (tolerated : Tolerates probe (terminateMessages probe.self)) :
    judgement options events =
      some (.ok
        ((probe.self.errors ++ terminateMessages probe.self).map
          Message.text)) := by
  simp [judgement, ran, terminate_tolerated tolerated]

end DkPull.PullStream
