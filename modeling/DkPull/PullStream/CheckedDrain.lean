import DkPull.PullStream.ProtocolMessages
import DkPull.PullStream.ProtocolSessions
import DkPull.PullStream.Sinks.DrainExceptions
import DkPull.PullStream.Sinks.DrainRuns

/-!
# A drain behind a protocol checker

The sink of a drain is applied to the source that `Through()` returns.  The
looper function calls the lambda of the checker, the checker calls the source,
and the source invokes the wrapped callbacks.  The source may be any code, and
the handlers of the drain may throw.

The checker watches both of its sides, but between a drain and a source only
one of them can be at fault.
-/

namespace DkPull.PullStream

open DkPull.Types
open DkPull.Reactive
open DkPull.PullStream.Sinks
open ProtocolChecker

universe u

variable {T : Type} {Error State : Type u}

/-- A checker and a drain.  For each callback that the checker has wrapped,
`captured` is the request of the drain it came with. -/
structure CheckedDrain (State : Type u) where
  probe : Probe
  draining : Draining State
  captured : List Nat

def CheckedDrain.create (options : Options) (handlers : State) :
    CheckedDrain State where
  probe := Probe.create options
  draining := Draining.create handlers
  captured := []

inductive CheckedOutput (T : Type) (Error : Type u) where
  | checker (output : SessionOutput T)
  | drain (output : DrainOutput T Error)
  deriving DecidableEq, Repr

def CheckedOutput.thrown? : CheckedOutput T Error → Option Message
  | .checker (.thrown err) => some err
  | _ => none

namespace CheckedDrain

/-- The looper function calls the lambda returned by `Through()(source)`.  An
exception of the checker leaves the looper function. -/
def ask (drain : Drain T Error State) (abort : Abort)
    (state : CheckedDrain State) :
    Option (CheckedDrain State × List (CheckedOutput T Error)) :=
  match sessionMachine.step state.probe (.request abort false) with
  | some (probe, [.thrown err]) => do
      let (draining, emitted) ← (drainMachine drain).step state.draining .threw
      some
        ({ state with probe, draining },
          .checker (.thrown err) :: emitted.map .drain)
  | some (probe, left) =>
      some
        ({ state with
            probe
            captured := state.captured ++ [state.draining.made - 1] },
          left.map .checker)
  | none => none

/-- What the drain does, with its requests passing through the checker. -/
def follow (drain : Drain T Error State) :
    List (DrainOutput T Error) → CheckedDrain State →
      Option (CheckedDrain State × List (CheckedOutput T Error))
  | [], state => some (state, [])
  | .request abort :: rest, state => do
      let (next, left) ← ask drain abort state
      let (target, later) ← follow drain rest next
      some (target, .drain (.request abort) :: (left ++ later))
  | output :: rest, state => do
      let (target, later) ← follow drain rest state
      some (target, .drain output :: later)

/-- The wrapped callback at the given position invokes the callback that it
captured, unless it throws. -/
def deliver (drain : Drain T Error State) :
    List (SessionOutput T) → CheckedDrain State →
      Option (CheckedDrain State × List (CheckedOutput T Error))
  | [.toConsumer position done value], state =>
      state.captured[position]?.bind fun request => do
        let (draining, emitted) ←
          (drainMachine drain).step state.draining
            (.answer request done value)
        let (next, left) ← follow drain emitted { state with draining }
        some (next, .checker (.toConsumer position done value) :: left)
  | left, state => some (state, left.map .checker)

end CheckedDrain

/-- One application of the sink of a drain to a source behind a checker.  The
answers of the source are numbered in the order of the requests that have
reached it. -/
def checkedDrainMachine (drain : Drain T Error State) :
    Machine (CheckedDrain State) (DrainEvent T) (CheckedOutput T Error) where
  step state
    | .answer position done value =>
        (sessionMachine.step state.probe
          (.answer position done value)).bind fun (probe, left) =>
            CheckedDrain.deliver drain left { state with probe }
    | event => do
        let (draining, emitted) ←
          (drainMachine drain).step state.draining event
        CheckedDrain.follow drain emitted { state with draining }

/-- The messages that the checker has thrown or recorded.  It does only one of
the two. -/
def reported (outputs : List (CheckedOutput T Error))
    (state : CheckedDrain State) : List Message :=
  outputs.filterMap CheckedOutput.thrown? ++ state.probe.self.errors

/-- The source answers each request once, in the order in which the requests
were made, and returns no value behind a termination. -/
def SourceObeys (events : List (DrainEvent T)) : Prop :=
  answeredRequests events = List.range (answeredRequests events).length ∧
    (replies events).Pairwise fun earlier later =>
      earlier.2.1.toBool = true → later.2.1.toBool = true

instance (events : List (DrainEvent T)) : Decidable (SourceObeys events) :=
  inferInstanceAs (Decidable (_ ∧ _))

/-! ## A checker that has nothing to report -/

/-- The checker has seen `count` requests for values and the given answers, in
the order of the requests. -/
structure Quiet (answers : List Done) (count : Nat) (probe : Probe) :
    Prop where
  errors : probe.self.errors = []
  aborted : probe.self.aborted = EndOrError.FALSE
  done : probe.self.done.toBool = answers.any EndOrError.toBool
  index : probe.self.i = callbackIndex count
  latest : probe.self.latest.toNat = answers.length
  answered : answers.length ≤ count
  callbacks :
    probe.callbacks =
      (List.range count).map fun position =>
        some ⟨callbackIndex position,
          if position < answers.length then 1 else 0⟩

theorem Quiet.create (options : Options) :
    Quiet [] 0 (Probe.create options) where
  errors := rfl
  aborted := rfl
  done := rfl
  index := rfl
  latest := rfl
  answered := Nat.le_refl 0
  callbacks := rfl

variable {answers : List Done} {count : Nat} {probe : Probe}

theorem Quiet.issued
    (quiet : Quiet answers count probe) {position : Nat}
    (made : position < count) :
    probe.callbacks[position]? =
      some (some ⟨callbackIndex position,
        if position < answers.length then 1 else 0⟩) := by
  simp [quiet.callbacks, made]

theorem Quiet.unissued
    (quiet : Quiet answers count probe) {position : Nat}
    (unmade : ¬ position < count) :
    probe.callbacks[position]? = none := by
  rw [List.getElem?_eq_none_iff, quiet.callbacks]
  simpa using Nat.le_of_not_lt unmade

theorem Quiet.request
    (quiet : Quiet answers count probe)
    (continues : answers.any EndOrError.toBool = false) :
    ∃ next,
      sessionMachine.step probe
          (.request EndOrError.FALSE false : SessionEvent T) =
        some (next, [.toSource EndOrError.FALSE]) ∧
      Quiet answers (count + 1) next := by
  have done : probe.self.done.toBool = false := quiet.done.trans continues
  have silent : requestMessages probe.self EndOrError.FALSE = [] := by
    simp [requestMessages, quiet.aborted, done]
  refine ⟨afterRequest probe EndOrError.FALSE false, ?_, ?_⟩
  · rw [step_request_tolerated false (.inr silent)]
    simp [passedAbort]
  · constructor
    · simp [afterRequest, quiet.errors, silent]
    · simp [afterRequest, quiet.aborted]
    · exact quiet.done
    · rw [callbackIndex_succ, ← quiet.index]
      rfl
    · exact quiet.latest
    · exact Nat.le_succ_of_le quiet.answered
    · have unanswered : ¬ count < answers.length :=
        Nat.not_lt_of_le quiet.answered
      simp [afterRequest, quiet.callbacks, quiet.index, List.range_succ,
        unanswered]

/-- An answer is tolerated exactly if it comes next and is no value behind a
termination. -/
theorem Quiet.answerMessages_eq_nil_iff
    (quiet : Quiet answers count probe) (bounded : count < indexLimit)
    {position : Nat} (made : position < count) (done : Done) :
    answerMessages probe.self
          ⟨callbackIndex position,
            if position < answers.length then 1 else 0⟩ done = [] ↔
      position = answers.length ∧
        (answers.any EndOrError.toBool = true → done.toBool = true) := by
  have value :
      valueMessages probe.self (callbackIndex position) done = [] ↔
        (answers.any EndOrError.toBool = true → done.toBool = true) := by
    rw [valueMessages, quiet.done, quiet.aborted]
    cases ended : answers.any EndOrError.toBool <;>
      cases passed : done.toBool <;> simp
  have order :=
    orderMessages_eq_nil_iff
      (show probe.self.latest.toNat ≤ count by
        rw [quiet.latest]
        exact quiet.answered)
      made bounded
  rw [quiet.latest] at order
  have count :
      countMessages
            ⟨callbackIndex position,
              if position < answers.length then 1 else 0⟩ = [] ↔
        ¬ position < answers.length := by
    by_cases earlier : position < answers.length <;>
      simp [countMessages, earlier]
  rw [answerMessages, List.append_eq_nil_iff, List.append_eq_nil_iff, value,
    count, order]
  constructor
  · rintro ⟨allowed, unanswered, inOrder⟩
    exact ⟨by omega, allowed⟩
  · rintro ⟨rfl, allowed⟩
    exact ⟨allowed, Nat.lt_irrefl _, .inl rfl⟩

/-- The answer that comes next passes through. -/
theorem Quiet.answer
    (quiet : Quiet answers count probe) (bounded : count < indexLimit)
    (made : answers.length < count) (done : Done) (value : T)
    (allowed : answers.any EndOrError.toBool = true → done.toBool = true) :
    ∃ next passed,
      sessionMachine.step probe (.answer answers.length done value) =
          some (next, [.toConsumer answers.length passed value]) ∧
        passed.toBool = done.toBool ∧
        Quiet (answers ++ [done]) count next := by
  have issued := quiet.issued made
  have silent :=
    (quiet.answerMessages_eq_nil_iff bounded made done).mpr ⟨rfl, allowed⟩
  have passedOn :
      (passedDone probe.self done).toBool = done.toBool := by
    unfold passedDone
    split
    · rename_i ended
      rw [ended, allowed (quiet.done.symm.trans ended)]
    · rfl
  have ordered :
      orderMessages probe.self.latest (callbackIndex answers.length) =
        [] := by
    simp only [answerMessages, List.append_eq_nil_iff] at silent
    exact silent.2.2
  refine
    ⟨_, passedDone probe.self done,
      step_answer_tolerated value issued (.inr silent), passedOn, ?_⟩
  constructor
  · simp only [afterAnswer, quiet.errors, silent, List.append_nil]
  · exact quiet.aborted
  · rw [List.any_append, List.any_cons, List.any_nil, Bool.or_false,
      ← quiet.done]
    simp only [afterAnswer, passedDone]
    split
    · rename_i ended
      simp [ended]
    · rename_i continues
      simp [continues]
  · exact quiet.index
  · have reached := toNat_callbackIndex (Nat.lt_trans made bounded)
    simp [afterAnswer, nextLatest, ordered, reached]
  · simpa using Nat.succ_le_of_lt made
  · apply List.ext_getElem?
    intro position
    by_cases same : position = answers.length
    · subst same
      simp [afterAnswer, quiet.callbacks, made]
    · have apart : answers.length ≠ position := fun equal => same equal.symm
      by_cases asked : position < count
      · simp [afterAnswer, quiet.callbacks, apart, asked]
        split_ifs <;> first | rfl | omega
      · simp [afterAnswer, quiet.callbacks, apart,
          List.getElem?_eq_none (l := List.range count)
            (by simpa using asked)]

def answerFlags (events : List (DrainEvent T)) : List Done :=
  (replies events).map fun reply => reply.2.1

private theorem replies_append_answer
    (history : List (DrainEvent T)) (position : Nat) (done : Done)
    (value : T) :
    replies (history ++ [.answer position done value]) =
      replies history ++ [(position, done, value)] := by
  simp [replies]

private theorem replies_append_other
    (history : List (DrainEvent T)) {event : DrainEvent T}
    (other : ∀ position done value, event ≠ .answer position done value) :
    replies (history ++ [event]) = replies history := by
  cases event with
  | answer position done value => exact absurd rfl (other _ _ _)
  | _ => simp [replies]

private theorem length_answeredRequests (events : List (DrainEvent T)) :
    (answeredRequests events).length = (answerFlags events).length := by
  simp [answeredRequests, answerFlags]

private theorem sourceObeys_nil : SourceObeys ([] : List (DrainEvent T)) :=
  ⟨rfl, List.Pairwise.nil⟩

/-- A source goes on to obey the protocol exactly if its next answer comes next
and is no value behind a termination. -/
theorem sourceObeys_answer_iff
    (history : List (DrainEvent T)) (position : Nat) (done : Done)
    (value : T) :
    SourceObeys (history ++ [.answer position done value]) ↔
      SourceObeys history ∧ position = (answerFlags history).length ∧
        ((answerFlags history).any EndOrError.toBool = true →
          done.toBool = true) := by
  have flags :
      (answerFlags history).any EndOrError.toBool = true →
          done.toBool = true ↔
        ∀ reply ∈ replies history,
          reply.2.1.toBool = true → done.toBool = true := by
    simp only [answerFlags, List.any_map, List.any_eq_true,
      Function.comp_apply]
    constructor
    · exact fun all reply member ended => all ⟨reply, member, ended⟩
    · rintro all ⟨reply, member, ended⟩
      exact all reply member ended
  have order :
      answeredRequests (history ++ [.answer position done value]) =
          List.range
            (answeredRequests
              (history ++ [.answer position done value])).length ↔
        answeredRequests history =
            List.range (answeredRequests history).length ∧
          position = (answerFlags history).length := by
    rw [answeredRequests_append, answeredRequests_answer, List.length_append,
      List.length_singleton, List.range_succ, length_answeredRequests]
    constructor
    · intro same
      obtain ⟨front, last⟩ := List.append_inj' same rfl
      exact ⟨front, by simpa using last⟩
    · rintro ⟨front, rfl⟩
      rw [← front]
  rw [SourceObeys, order, replies_append_answer, List.pairwise_append, flags]
  constructor
  · rintro ⟨⟨front, last⟩, pairwise, -, all⟩
    exact ⟨⟨front, pairwise⟩, last, fun reply member => by
      simpa using all reply member⟩
  · rintro ⟨⟨front, pairwise⟩, last, all⟩
    exact ⟨⟨front, last⟩, pairwise, by simp, by simpa using all⟩

private theorem sourceObeys_other_iff
    (history : List (DrainEvent T)) {event : DrainEvent T}
    (other : ∀ position done value, event ≠ .answer position done value) :
    SourceObeys (history ++ [event]) ↔ SourceObeys history := by
  have same := replies_append_other history other
  rw [SourceObeys, SourceObeys, answeredRequests, answeredRequests, same]

def NoneThrown (outputs : List (CheckedOutput T Error)) : Prop :=
  outputs.filterMap CheckedOutput.thrown? = []

@[simp]
theorem noneThrown_append (early late : List (CheckedOutput T Error)) :
    NoneThrown (early ++ late) ↔ NoneThrown early ∧ NoneThrown late := by
  simp [NoneThrown]

private theorem unthrown_of_noneThrown
    {left : List (SessionOutput T)}
    (none : NoneThrown (left.map (.checker : _ → CheckedOutput T Error))) :
    Unthrown left := by
  intro err member
  rw [NoneThrown, List.filterMap_eq_nil_iff] at none
  have impossible := none _ (List.mem_map_of_mem member)
  cases impossible

private theorem grown_of_step
    {probe next : Probe} {event : SessionEvent T}
    {left : List (SessionOutput T)}
    (stepped : sessionMachine.step probe event = some (next, left))
    (unthrown : Unthrown left) :
    probe.self.errors <+: next.self.errors := by
  rw [(step_errors stepped unthrown).2]
  exact List.prefix_append _ _

namespace CheckedDrain

private theorem grown_of_ask
    {drain : Drain T Error State} {abort : Abort}
    {state next : CheckedDrain State} {left : List (CheckedOutput T Error)}
    (asked : ask drain abort state = some (next, left))
    (none : NoneThrown left) :
    state.probe.self.errors <+: next.probe.self.errors := by
  unfold ask at asked
  split at asked
  · rename_i probe err thrown
    simp only [Option.bind_eq_bind, Option.bind_eq_some_iff,
      Option.some.injEq, Prod.mk.injEq, Prod.exists] at asked
    obtain ⟨_, _, _, _, rfl⟩ := asked
    simp [NoneThrown, CheckedOutput.thrown?] at none
  · rename_i probe emitted _ stepped
    cases asked
    exact grown_of_step stepped (unthrown_of_noneThrown none)
  · cases asked

private theorem grown_of_follow
    {drain : Drain T Error State}
    {emitted : List (DrainOutput T Error)} {state next : CheckedDrain State}
    {left : List (CheckedOutput T Error)}
    (followed : follow drain emitted state = some (next, left))
    (none : NoneThrown left) :
    state.probe.self.errors <+: next.probe.self.errors := by
  induction emitted generalizing state left with
  | nil =>
      cases followed
      exact List.prefix_rfl
  | cons output rest inductionHypothesis =>
      cases output with
      | request abort =>
          simp only [follow, Option.bind_eq_bind, Option.bind_eq_some_iff,
            Option.some.injEq, Prod.mk.injEq, Prod.exists] at followed
          obtain ⟨middle, early, asked, _, late, continued, rfl, rfl⟩ :=
            followed
          have both := (noneThrown_append early late).mp none
          exact
            (grown_of_ask asked both.1).trans
              (inductionHypothesis continued both.2)
      | _ =>
          simp only [follow, Option.bind_eq_bind, Option.bind_eq_some_iff,
            Option.some.injEq, Prod.mk.injEq, Prod.exists] at followed
          obtain ⟨_, late, continued, rfl, rfl⟩ := followed
          exact inductionHypothesis continued none

private theorem grown_of_deliver
    {drain : Drain T Error State}
    {handed : List (SessionOutput T)} {state next : CheckedDrain State}
    {left : List (CheckedOutput T Error)}
    (delivered : deliver drain handed state = some (next, left))
    (none : NoneThrown left) :
    state.probe.self.errors <+: next.probe.self.errors := by
  unfold deliver at delivered
  split at delivered
  · simp only [Option.bind_eq_bind, Option.bind_eq_some_iff,
      Option.some.injEq, Prod.mk.injEq, Prod.exists] at delivered
    obtain ⟨_, _, _, _, _, _, later, followed, rfl, rfl⟩ := delivered
    have noneLater : NoneThrown later := none
    have grown := grown_of_follow followed noneLater
    exact grown
  · cases delivered
    exact List.prefix_rfl

end CheckedDrain

/-! ## Runs -/

def allowance (answers : List Done) : Nat :=
  answers.length + (!answers.any EndOrError.toBool).toNat

/-- The source has obeyed, the checker has nothing to report, and the drain
does not ask for more than the answers allow. -/
structure Settled (history : List (DrainEvent T))
    (outputs : List (CheckedOutput T Error)) (state : CheckedDrain State) :
    Prop where
  quiet : Quiet (answerFlags history) state.draining.made state.probe
  none : NoneThrown outputs
  captured : state.captured = List.range state.draining.made
  bounded : state.draining.made ≤ history.length
  due : state.draining.due ≤ allowance (answerFlags history)

theorem Settled.create (options : Options) (initial : State) :
    Settled ([] : List (DrainEvent T)) ([] : List (CheckedOutput T Error))
      (CheckedDrain.create options initial) where
  quiet := Quiet.create options
  none := rfl
  captured := rfl
  bounded := Nat.le_refl 0
  due := Nat.zero_le 1

private theorem invoked_cases
    {looper follower : Looper.Configuration} {call : Looper.LooperEvent}
    {invoked : List Looper.LooperOutput}
    (called :
      Looper.looperMachine.step looper call = some (follower, invoked)) :
    invoked = [] ∨ ∃ handle, invoked = [.invoked handle] := by
  cases Looper.looperStep_iff.mp called with
  | started => exact .inr ⟨_, rfl⟩
  | entered _ _ _ => exact .inr ⟨_, rfl⟩
  | repeated _ _ _ => exact .inr ⟨_, rfl⟩
  | _ => exact .inl rfl

/-- A request that the answers allow passes through the checker. -/
theorem Quiet.follow
    (drain : Drain T Error State) (quiet : Quiet answers count probe)
    {draining : Draining State} {invoked : List Looper.LooperOutput}
    (atMostOne : invoked = [] ∨ ∃ handle, invoked = [.invoked handle])
    (made : draining.made = count + invoked.length)
    (due : draining.due ≤ allowance answers) :
    ∃ next left,
      CheckedDrain.follow drain (invoked.map requested)
          ⟨probe, draining, List.range count⟩ =
        some (next, left) ∧
      next.draining = draining ∧
      next.captured = List.range draining.made ∧
      NoneThrown left ∧ Quiet answers draining.made next.probe := by
  rcases atMostOne with rfl | ⟨handle, rfl⟩
  · have same : draining.made = count := made
    exact ⟨_, [], rfl, rfl, by rw [same], rfl, by rwa [same]⟩
  · have same : draining.made = count + 1 := made
    have continues : answers.any EndOrError.toBool = false := by
      cases ended : answers.any EndOrError.toBool with
      | false => rfl
      | true =>
          have notAhead := draining.made_le_due
          have answered := quiet.answered
          simp [allowance, ended] at due
          omega
    obtain ⟨next, stepped, quietAfter⟩ := quiet.request (T := T) continues
    refine
      ⟨⟨next, draining, List.range count ++ [draining.made - 1]⟩,
        [.drain (.request EndOrError.FALSE),
          .checker (.toSource EndOrError.FALSE)], ?_, rfl, ?_, rfl, ?_⟩
    · simp [CheckedDrain.follow, CheckedDrain.ask, stepped]
    · rw [same, List.range_succ, Nat.add_sub_cancel]
    · rwa [same]

/-- A step of the drain that makes only allowed requests leaves everything
settled. -/
theorem Settled.follow
    {drain : Drain T Error State} {history : List (DrainEvent T)}
    {event : DrainEvent T} {outputs emitted : List (CheckedOutput T Error)}
    {state next : CheckedDrain State} {draining : Draining State}
    {invoked : List Looper.LooperOutput}
    (settled : Settled history outputs state)
    (other : ∀ position done value, event ≠ .answer position done value)
    (atMostOne : invoked = [] ∨ ∃ handle, invoked = [.invoked handle])
    (made : draining.made = state.draining.made + invoked.length)
    (due : draining.due ≤ allowance (answerFlags history))
    (followed :
      CheckedDrain.follow drain (invoked.map requested)
          { state with draining } =
        some (next, emitted)) :
    Settled (history ++ [event]) (outputs ++ emitted) next := by
  obtain ⟨target, left, computed, sameDraining, captured, none, quiet⟩ :=
    settled.quiet.follow drain atMostOne made due
  rw [settled.captured, computed] at followed
  cases followed
  have sameFlags : answerFlags (history ++ [event]) = answerFlags history := by
    rw [answerFlags, answerFlags, replies_append_other history other]
  have atMostOneMore : invoked.length ≤ 1 := by
    rcases atMostOne with rfl | ⟨handle, rfl⟩ <;> simp
  have bounded := settled.bounded
  constructor
  · rwa [sameFlags, sameDraining]
  · exact (noneThrown_append _ _).mpr ⟨settled.none, none⟩
  · rwa [sameDraining]
  · rw [sameDraining, List.length_append, List.length_singleton]
    omega
  · rwa [sameFlags, sameDraining]

private theorem CheckedDrain.follow_other
    (drain : Drain T Error State) {output : DrainOutput T Error}
    (other : output.isRequest = false) (rest : List (DrainOutput T Error))
    (state : CheckedDrain State) :
    follow drain (output :: rest) state =
      (follow drain rest state).map fun (next, later) =>
        (next, .drain output :: later) := by
  cases output with
  | request abort => cases other
  | _ =>
      simp only [follow]
      cases follow drain rest state <;> rfl

theorem Quiet.follow_answer
    {drain : Drain T Error State} (quiet : Quiet answers count probe)
    {draining target : Draining State} {done : Done} {value : T}
    {request : Nat} {emitted : List (DrainOutput T Error)}
    (moved :
      DrainMove drain draining (.answer request done value) target emitted)
    (made : draining.made = count)
    (due :
      done.toBool = false → draining.due + 1 ≤ allowance answers)
    (dueBefore : draining.due ≤ allowance answers) :
    ∃ next left,
      CheckedDrain.follow drain emitted ⟨probe, target, List.range count⟩ =
        some (next, left) ∧
      next.draining = target ∧
      next.captured = List.range target.made ∧
      NoneThrown left ∧ target.made ≤ count + 1 ∧
      target.due ≤ allowance answers ∧
      Quiet answers target.made next.probe := by
  cases moved with
  | ended looper active _ _ _ _ _ result handlers _ =>
      have same : (⟨some looper, handlers⟩ : Draining State).made = count := by
        simpa [Draining.made, active] using made
      have sameDue :
          (⟨some looper, handlers⟩ : Draining State).due =
            draining.due := by
        simp [Draining.due, active]
      rw [same, sameDue]
      cases result with
      | ok _ =>
          exact
            ⟨_, _, rfl, rfl, rfl, rfl, Nat.le_succ count, dueBefore, quiet⟩
      | error err =>
          exact
            ⟨_, _, rfl, rfl, rfl, rfl, Nat.le_succ count, dueBefore, quiet⟩
  | refused looper active _ _ _ _ _ err handlers _ =>
      have same : (⟨some looper, handlers⟩ : Draining State).made = count := by
        simpa [Draining.made, active] using made
      have sameDue :
          (⟨some looper, handlers⟩ : Draining State).due =
            draining.due := by
        simp [Draining.due, active]
      rw [same, sameDue]
      exact ⟨_, _, rfl, rfl, rfl, rfl, Nat.le_succ count, dueBefore, quiet⟩
  | continued looper follower active _ _ _ _ continues handlers _ invoked
      called =>
      obtain ⟨dueAfter, madeAfter⟩ := looper_due_of_next called
      have atMostOne := invoked_cases called
      have atMostOneMore : invoked.length ≤ 1 := by
        rcases atMostOne with rfl | ⟨handle, rfl⟩ <;> simp
      have allowed := due continues
      simp only [Draining.made, Draining.due, active, Option.elim_some]
        at made allowed
      have targetMade :
          (⟨some follower, handlers⟩ : Draining State).made =
            count + invoked.length := by
        simpa [Draining.made, made] using madeAfter
      have targetDue :
          (⟨some follower, handlers⟩ : Draining State).due ≤
            allowance answers := by
        simp only [Draining.due, Option.elim_some]
        omega
      obtain ⟨next, left, followed, sameDraining, captured, none, after⟩ :=
        quiet.follow drain atMostOne targetMade targetDue
      refine
        ⟨next, .drain (.onValue value) :: left, ?_, sameDraining, captured,
          none, ?_, targetDue, after⟩
      · rw [CheckedDrain.follow_other drain rfl, followed]
        rfl
      · rw [targetMade]
        omega

/-- An answer that comes next, and is no value behind a termination, leaves
everything settled. -/
theorem Settled.answer
    {drain : Drain T Error State} {history : List (DrainEvent T)}
    {position : Nat} {done : Done} {value : T}
    {outputs emitted : List (CheckedOutput T Error)}
    {state next : CheckedDrain State}
    (settled : Settled history outputs state)
    (bounded : history.length < indexLimit)
    (isNext : position = (answerFlags history).length)
    (allowed :
      (answerFlags history).any EndOrError.toBool = true →
        done.toBool = true)
    (stepped :
      (checkedDrainMachine drain).step state (.answer position done value) =
        some (next, emitted)) :
    Settled (history ++ [.answer position done value])
      (outputs ++ emitted) next := by
  have inRange : state.draining.made < indexLimit :=
    Nat.lt_of_le_of_lt settled.bounded bounded
  simp only [checkedDrainMachine, Option.bind_eq_some_iff, Prod.exists]
    at stepped
  obtain ⟨probe, handed, answered, delivered⟩ := stepped
  have made : position < state.draining.made := by
    by_contra unmade
    have unissued := settled.quiet.unissued unmade
    simp [sessionMachine, unissued] at answered
  subst isNext
  obtain ⟨after, passed, passes, samePassed, quiet⟩ :=
    settled.quiet.answer inRange made done value allowed
  rw [passes] at answered
  cases answered
  have sameFlags :
      answerFlags
          (history ++
            [.answer (answerFlags history).length done value]) =
        answerFlags history ++ [done] := by
    rw [answerFlags, replies_append_answer, List.map_append]
    rfl
  have due := settled.due
  have allowedBefore :
      state.draining.due ≤ allowance (answerFlags history ++ [done]) := by
    simp only [allowance, List.length_append, List.length_singleton]
      at due ⊢
    have atMostOne := Bool.toNat_le
      (!(answerFlags history).any EndOrError.toBool)
    omega
  have allowedAfter :
      passed.toBool = false →
        state.draining.due + 1 ≤
          allowance (answerFlags history ++ [done]) := by
    intro continues
    have isValue : done.toBool = false := samePassed.symm.trans continues
    have unended : (answerFlags history).any EndOrError.toBool = false := by
      cases ended : (answerFlags history).any EndOrError.toBool with
      | false => rfl
      | true => simp [allowed ended] at isValue
    simp [allowance, unended, isValue] at due ⊢
    omega
  simp only [CheckedDrain.deliver, settled.captured,
    List.getElem?_range made, Option.bind_some, Option.bind_eq_bind,
    Option.bind_eq_some_iff, Option.some.injEq, Prod.mk.injEq, Prod.exists]
    at delivered
  obtain ⟨target, drained, handled, final, left, followed, rfl, rfl⟩ :=
    delivered
  obtain
    ⟨final, left, computed, sameDraining, captured, none, atMostOneMore,
      dueAfter, quietAfter⟩ :=
    quiet.follow_answer (drainMove_of_step handled) rfl allowedAfter
      allowedBefore
  rw [computed] at followed
  cases followed
  have few := settled.bounded
  constructor
  · rwa [sameFlags, sameDraining]
  · exact (noneThrown_append _ _).mpr ⟨settled.none, none⟩
  · rwa [sameDraining]
  · rw [sameDraining, List.length_append, List.length_singleton]
    omega
  · rwa [sameFlags, sameDraining]

theorem Settled.other
    {drain : Drain T Error State} {history : List (DrainEvent T)}
    {event : DrainEvent T} {outputs emitted : List (CheckedOutput T Error)}
    {state next : CheckedDrain State}
    (settled : Settled history outputs state)
    (other : ∀ position done value, event ≠ .answer position done value)
    (stepped :
      (checkedDrainMachine drain).step state event = some (next, emitted)) :
    Settled (history ++ [event]) (outputs ++ emitted) next := by
  have parts :
      ∃ draining drained,
        (drainMachine drain).step state.draining event =
            some (draining, drained) ∧
          CheckedDrain.follow drain drained { state with draining } =
            some (next, emitted) := by
    cases event with
    | answer position done value => exact absurd rfl (other _ _ _)
    | _ =>
        simpa only [checkedDrainMachine, Option.bind_eq_bind,
          Option.bind_eq_some_iff, Prod.exists] using stepped
  obtain ⟨draining, drained, moved, followed⟩ := parts
  have due := settled.due
  cases drainMove_of_step moved with
  | applied fresh =>
      have unmade : state.draining.made = 0 := by
        simp [Draining.made, fresh]
      have unanswered : answerFlags history = [] := by
        rw [← List.length_eq_zero_iff]
        have answered := settled.quiet.answered
        omega
      apply settled.follow other (.inr ⟨0, rfl⟩) _ _ followed
      · rw [unmade]
        rfl
      · rw [unanswered]
        exact Nat.le_refl 1
  | ended _ _ _ _ _ _ _ _ _ _ => exact absurd rfl (other _ _ _)
  | refused _ _ _ _ _ _ _ _ _ _ => exact absurd rfl (other _ _ _)
  | continued _ _ _ _ _ _ _ _ _ _ _ _ => exact absurd rfl (other _ _ _)
  | returned looper follower active invoked ended =>
      obtain ⟨dueAfter, madeAfter⟩ := looper_due_of_ended (.inl rfl) ended
      apply settled.follow other (invoked_cases ended) _ _ followed
      · simpa [Draining.made, active] using madeAfter
      · simpa [Draining.due, active, dueAfter] using due
  | threw looper follower active ended =>
      obtain ⟨dueAfter, madeAfter⟩ := looper_due_of_ended (.inr rfl) ended
      have silent : ([] : List Looper.LooperOutput) = [] := rfl
      apply settled.follow other (.inl silent) _ _ followed
      · simpa [Draining.made, active] using madeAfter
      · simpa [Draining.due, active, dueAfter] using due

/-! ## Who is to blame -/

private theorem unthrown_of_deliver
    {drain : Drain T Error State} {handed : List (SessionOutput T)}
    {state next : CheckedDrain State} {left : List (CheckedOutput T Error)}
    (delivered : CheckedDrain.deliver drain handed state = some (next, left))
    (none : NoneThrown left) :
    Unthrown handed := by
  unfold CheckedDrain.deliver at delivered
  split at delivered
  · intro err member
    cases List.mem_singleton.mp member
  · cases delivered
    exact unthrown_of_noneThrown none

/-- Nothing that has been recorded is lost. -/
theorem grown_of_checkedStep
    {drain : Drain T Error State} {event : DrainEvent T}
    {state next : CheckedDrain State}
    {emitted : List (CheckedOutput T Error)}
    (stepped :
      (checkedDrainMachine drain).step state event = some (next, emitted))
    (none : NoneThrown emitted) :
    state.probe.self.errors <+: next.probe.self.errors := by
  cases event with
  | answer position done value =>
      simp only [checkedDrainMachine, Option.bind_eq_some_iff, Prod.exists]
        at stepped
      obtain ⟨probe, handed, answered, delivered⟩ := stepped
      have unthrown := unthrown_of_deliver delivered none
      have kept := CheckedDrain.grown_of_deliver delivered none
      exact (grown_of_step answered unthrown).trans kept
  | _ =>
      simp only [checkedDrainMachine, Option.bind_eq_bind,
        Option.bind_eq_some_iff, Prod.exists] at stepped
      obtain ⟨draining, drained, moved, followed⟩ := stepped
      have grown := CheckedDrain.grown_of_follow followed none
      exact grown

private theorem reported_eq_nil_iff
    (outputs : List (CheckedOutput T Error)) (state : CheckedDrain State) :
    reported outputs state = [] ↔
      NoneThrown outputs ∧ state.probe.self.errors = [] := by
  rw [reported, List.append_eq_nil_iff, NoneThrown]

/-- An answer that breaks the protocol is reported. -/
theorem Settled.reported_ne_nil
    {drain : Drain T Error State} {history : List (DrainEvent T)}
    {position : Nat} {done : Done} {value : T}
    {outputs emitted : List (CheckedOutput T Error)}
    {state next : CheckedDrain State}
    (settled : Settled history outputs state)
    (bounded : history.length < indexLimit)
    (broken :
      ¬ (position = (answerFlags history).length ∧
        ((answerFlags history).any EndOrError.toBool = true →
          done.toBool = true)))
    (stepped :
      (checkedDrainMachine drain).step state (.answer position done value) =
        some (next, emitted)) :
    reported (outputs ++ emitted) next ≠ [] := by
  intro silent
  rw [reported_eq_nil_iff, noneThrown_append] at silent
  obtain ⟨⟨-, none⟩, noErrors⟩ := silent
  have inRange : state.draining.made < indexLimit :=
    Nat.lt_of_le_of_lt settled.bounded bounded
  simp only [checkedDrainMachine, Option.bind_eq_some_iff, Prod.exists]
    at stepped
  obtain ⟨probe, handed, answered, delivered⟩ := stepped
  have made : position < state.draining.made := by
    by_contra unmade
    have unissued := settled.quiet.unissued unmade
    simp [sessionMachine, unissued] at answered
  have issued := settled.quiet.issued made
  have grown := CheckedDrain.grown_of_deliver delivered none
  rw [noErrors, List.prefix_nil] at grown
  have recorded :=
    (step_errors answered (unthrown_of_deliver delivered none)).2
  rw [grown] at recorded
  have messages := (List.append_eq_nil_iff.mp recorded.symm).2
  simp only [eventMessages, issued] at messages
  exact
    broken
      ((settled.quiet.answerMessages_eq_nil_iff inRange made done).mp
        messages)

/-- A checker between a drain and a source has nothing to report exactly while
the source obeys the protocol. -/
theorem settled_or_reported
    {drain : Drain T Error State} {options : Options} {initial : State}
    {events : List (DrainEvent T)} {state : CheckedDrain State}
    {outputs : List (CheckedOutput T Error)}
    (ran :
      (checkedDrainMachine drain).run (.create options initial) events =
        some (state, outputs))
    (few : events.length < indexLimit) :
    SourceObeys events ∧ Settled events outputs state ∨
      ¬ SourceObeys events ∧ reported outputs state ≠ [] := by
  refine
    Machine.history_invariant
      (fun history outputs state =>
        history.length < indexLimit →
          SourceObeys history ∧ Settled history outputs state ∨
            ¬ SourceObeys history ∧ reported outputs state ≠ [])
      (fun _ => .inl ⟨sourceObeys_nil, Settled.create options initial⟩) ?_
      ran few
  intro history outputs state event next emitted _ earlier stepped few
  rw [List.length_append, List.length_singleton] at few
  have bounded : history.length < indexLimit := by
    omega
  rcases earlier bounded with ⟨obeys, settled⟩ | ⟨broken, loud⟩
  · cases event with
    | answer position done value =>
        rw [sourceObeys_answer_iff]
        by_cases allowed :
          position = (answerFlags history).length ∧
            ((answerFlags history).any EndOrError.toBool = true →
              done.toBool = true)
        · exact
            .inl
              ⟨⟨obeys, allowed⟩,
                settled.answer bounded allowed.1 allowed.2 stepped⟩
        · exact
            .inr
              ⟨fun both => allowed both.2,
                settled.reported_ne_nil bounded allowed stepped⟩
    | _ =>
        rw [sourceObeys_other_iff history (by simp)]
        exact .inl ⟨obeys, settled.other (by simp) stepped⟩
  · refine .inr ⟨?_, ?_⟩
    · cases event with
      | answer position done value =>
          rw [sourceObeys_answer_iff]
          exact fun both => broken both.1
      | _ => rwa [sourceObeys_other_iff history (by simp)]
    · intro silent
      apply loud
      rw [reported_eq_nil_iff, noneThrown_append] at silent
      obtain ⟨⟨noneBefore, none⟩, noErrors⟩ := silent
      have grown := grown_of_checkedStep stepped none
      rw [noErrors, List.prefix_nil] at grown
      exact (reported_eq_nil_iff _ _).mpr ⟨noneBefore, grown⟩

private theorem noneThrown_of_follow
    {drain : Drain T Error State} {emitted : List (DrainOutput T Error)}
    {state next : CheckedDrain State} {left : List (CheckedOutput T Error)}
    (collecting : state.probe.self.notifyEagerly = false)
    (followed :
      CheckedDrain.follow drain emitted state = some (next, left)) :
    NoneThrown left := by
  induction emitted generalizing state left with
  | nil =>
      cases followed
      rfl
  | cons output rest inductionHypothesis =>
      cases output with
      | request abort =>
          simp only [CheckedDrain.follow, CheckedDrain.ask,
            step_request_tolerated false (.inl collecting),
            Option.bind_eq_bind, Option.bind_some, Option.bind_eq_some_iff,
            Option.some.injEq, Prod.mk.injEq, Prod.exists] at followed
          obtain ⟨_, late, continued, rfl, rfl⟩ := followed
          have stillCollecting :
              (afterRequest state.probe abort false).self.notifyEagerly =
                false :=
            collecting
          have stillNone : NoneThrown late := by
            apply inductionHypothesis _ continued
            exact stillCollecting
          exact stillNone
      | _ =>
          rw [CheckedDrain.follow_other drain rfl] at followed
          simp only [Option.map_eq_some_iff, Prod.mk.injEq, Prod.exists]
            at followed
          obtain ⟨_, late, continued, rfl, rfl⟩ := followed
          have stillNone : NoneThrown late :=
            inductionHypothesis collecting continued
          exact stillNone

private theorem rule_of_mem_answerMessages
    {self : ProtocolChecker} {callback : WrappedCallback} {done : Done}
    {err : Message} (member : err ∈ answerMessages self callback done) :
    err.rule ∈ ['3', '4', '5'] := by
  rw [answerMessages, List.mem_append, List.mem_append] at member
  rcases member with value | count | order
  · unfold valueMessages at value
    split at value
    · rw [List.mem_singleton.mp value]
      simp [Message.rule]
    · cases value
  · unfold countMessages at count
    split at count
    · rw [List.mem_singleton.mp count]
      simp [Message.rule]
    · cases count
  · unfold orderMessages at order
    split at order
    · rw [List.mem_singleton.mp order]
      simp [Message.rule]
    · split at order
      · rw [List.mem_singleton.mp order]
        simp [Message.rule]
      · cases order

/-- What an answer makes the checker report begins with a message about the
source. -/
theorem Settled.blames_source
    {drain : Drain T Error State} {history : List (DrainEvent T)}
    {position : Nat} {done : Done} {value : T}
    {outputs emitted : List (CheckedOutput T Error)}
    {state next : CheckedDrain State}
    (settled : Settled history outputs state)
    (bounded : history.length < indexLimit)
    (stepped :
      (checkedDrainMachine drain).step state (.answer position done value) =
        some (next, emitted))
    {err : Message} {rest : List Message}
    (loud : reported (outputs ++ emitted) next = err :: rest) :
    err.rule ∈ ['3', '4', '5'] := by
  have inRange : state.draining.made < indexLimit :=
    Nat.lt_of_le_of_lt settled.bounded bounded
  have broken :
      ¬ (position = (answerFlags history).length ∧
        ((answerFlags history).any EndOrError.toBool = true →
          done.toBool = true)) := by
    rintro ⟨isNext, allowed⟩
    have after := settled.answer bounded isNext allowed stepped
    rw [(reported_eq_nil_iff _ _).mpr ⟨after.none, after.quiet.errors⟩]
      at loud
    cases loud
  simp only [checkedDrainMachine, Option.bind_eq_some_iff, Prod.exists]
    at stepped
  obtain ⟨probe, handed, answered, delivered⟩ := stepped
  have made : position < state.draining.made := by
    by_contra unmade
    simp [sessionMachine, settled.quiet.unissued unmade] at answered
  have issued := settled.quiet.issued made
  rw [← settled.quiet.answerMessages_eq_nil_iff inRange made] at broken
  obtain ⟨first, more, messages⟩ := List.exists_cons_of_ne_nil broken
  have isAbout : first.rule ∈ ['3', '4', '5'] := by
    apply rule_of_mem_answerMessages
    rw [messages]
    exact List.mem_cons_self
  have none := settled.none
  rw [NoneThrown] at none
  rw [reported, List.filterMap_append, none, List.nil_append] at loud
  cases mode : state.probe.self.notifyEagerly with
  | true =>
      obtain ⟨target, thrown⟩ :=
        wrappedCallback_eager position mode messages
      simp only [sessionMachine, issued, CheckerM.emit, thrown] at answered
      cases answered
      cases delivered
      cases loud
      exact isAbout
  | false =>
      rw [step_answer_tolerated value issued (.inl mode)] at answered
      cases answered
      simp only [CheckedDrain.deliver, settled.captured,
        List.getElem?_range made, Option.bind_some, Option.bind_eq_bind,
        Option.bind_eq_some_iff, Option.some.injEq, Prod.mk.injEq,
        Prod.exists] at delivered
      obtain ⟨_, _, _, _, later, followed, rfl, rfl⟩ := delivered
      have noneLater : NoneThrown later := by
        apply noneThrown_of_follow _ followed
        exact mode
      have grown := CheckedDrain.grown_of_follow followed noneLater
      have noneHere :
          List.filterMap CheckedOutput.thrown?
              (.checker
                  (.toConsumer position
                    (passedDone state.probe.self done) value) :: later) =
            [] :=
        noneLater
      rw [noneHere, List.nil_append] at loud
      simp only [afterAnswer, settled.quiet.errors, messages,
        List.nil_append, loud, List.cons_prefix_cons] at grown
      rw [← grown.1]
      exact isAbout

/-- A checker between a drain and a source reports something exactly if the
source breaks the protocol, whatever the handlers of the drain do, and the
first of its messages is about the source. -/
theorem source_is_to_blame
    {drain : Drain T Error State} {options : Options} {initial : State}
    {events : List (DrainEvent T)} {state : CheckedDrain State}
    {outputs : List (CheckedOutput T Error)}
    (ran :
      (checkedDrainMachine drain).run (.create options initial) events =
        some (state, outputs))
    (few : events.length < indexLimit) :
    (reported outputs state = [] ↔ SourceObeys events) ∧
      (reported outputs state = [] →
        ∀ event next emitted err rest,
          (checkedDrainMachine drain).step state event =
              some (next, emitted) →
            reported (outputs ++ emitted) next = err :: rest →
              (∃ position done value,
                event = .answer position done value) ∧
                err.rule ∈ ['3', '4', '5']) := by
  rcases settled_or_reported ran few with ⟨obeys, settled⟩ | ⟨broken, loud⟩
  · refine ⟨iff_of_true ?_ obeys, ?_⟩
    · exact
        (reported_eq_nil_iff _ _).mpr ⟨settled.none, settled.quiet.errors⟩
    intro _ event next emitted err rest stepped loud
    cases event with
    | answer position done value =>
        exact ⟨⟨_, _, _, rfl⟩, settled.blames_source few stepped loud⟩
    | _ =>
        have after := settled.other (by simp) stepped
        rw [(reported_eq_nil_iff _ _).mpr ⟨after.none, after.quiet.errors⟩]
          at loud
        cases loud
  · exact ⟨iff_of_false loud broken, fun silent => absurd silent loud⟩

/-- A source that obeys the protocol while a handler throws. -/
theorem refuseOne_checked_run :
    ∃ state outputs,
      (checkedDrainMachine refuseOne).run (.create {} 0)
          [.sink, .answer 0 EndOrError.FALSE 5,
            .answer 1 EndOrError.FALSE 1, .threw, .returned] =
        some (state, outputs) :=
  ⟨_, _, rfl⟩

theorem source_is_to_blame_refuseOne :
    ∃ state outputs,
      (checkedDrainMachine refuseOne).run (.create {} 0)
          [.sink, .answer 0 EndOrError.FALSE 5,
            .answer 1 EndOrError.FALSE 1, .threw, .returned] =
        some (state, outputs) ∧
      reported outputs state = [] := by
  obtain ⟨state, outputs, ran⟩ := refuseOne_checked_run
  exact
    ⟨state, outputs, ran,
      (source_is_to_blame ran (by decide)).1.mpr (by decide)⟩

end DkPull.PullStream
