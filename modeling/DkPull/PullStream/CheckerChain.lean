import DkPull.PullStream.ProtocolMessages
import DkPull.PullStream.ProtocolSessions

/-!
# A chain of protocol checkers

A pipeline may contain any number of checkers, each of which watches the same
stream.  The request lambda of a checker calls that of the next one, down to
the source; an answer invokes the wrapped callbacks in the opposite order.

Towards both of its ends such a chain is as good as one checker.  What the
checkers report differs only in the values that the source returns behind a
termination, since the checker next to the source does not let them through.
-/

namespace DkPull.PullStream

open DkPull.Types
open DkPull.Reactive
open ProtocolChecker

variable {T : Type}

/-- A request passes through the checkers, the first of which is next to the
consumer.  A checker never passes on a null callback. -/
def askThrough :
    List Probe → Abort → Bool → Option (List Probe × List (SessionOutput T))
  | [], abort, _ => some ([], [.toSource abort])
  | probe :: rest, abort, isNull =>
      match sessionMachine.step probe (.request abort isNull) with
      | some (probe, [.toSource passed]) => do
          let (rest, left) ← askThrough rest passed false
          some (probe :: rest, left)
      | some (probe, left) => some (probe :: rest, left)
      | none => none

/-- An answer passes through the checkers, the last of which is next to the
source. -/
def answerThrough :
    List Probe → Nat → Done → T →
      Option (List Probe × List (SessionOutput T))
  | [], position, done, value =>
      some ([], [.toConsumer position done value])
  | probe :: rest, position, done, value =>
      match answerThrough rest position done value with
      | some (rest, [.toConsumer position done value]) => do
          let (probe, left) ←
            sessionMachine.step probe (.answer position done value)
          some (probe :: rest, left)
      | some (rest, left) => some (probe :: rest, left)
      | none => none

/-- One event of a session with a chain of checkers in the middle. -/
def chainMachine :
    Machine (List Probe) (SessionEvent T) (SessionOutput T) where
  step chain
    | .request abort isNull => askThrough chain abort isNull
    | .answer position done value => answerThrough chain position done value

/-! ## Checkers that watch the same stream -/

/-- The message is not about a value returned behind a termination. -/
def Message.isOther (err : Message) : Bool :=
  err.rule ≠ '5'

/-- The variables of two checkers that watch the same stream. -/
structure SameStream (first second : Probe) : Prop where
  index : second.self.i = first.self.i
  latest : second.self.latest = first.self.latest
  skipped : second.self.skipped = first.self.skipped
  aborted : second.self.aborted = first.self.aborted
  done : second.self.done = first.self.done
  callbacks : second.callbacks = first.callbacks

/-- A checker that watches a stream from behind another one, against a checker
of its kind that watches it alone. -/
structure Behind (alone outer : Probe) : Prop extends
    SameStream alone outer where
  forbids : outer.self.forbidExtraRequests = alone.self.forbidExtraRequests
  enforces :
    outer.self.enforceStreamTermination =
      alone.self.enforceStreamTermination
  mode : outer.self.notifyEagerly = alone.self.notifyEagerly
  fewer : outer.self.errors.Sublist alone.self.errors
  others :
    outer.self.errors.filter Message.isOther =
      alone.self.errors.filter Message.isOther

theorem SameStream.create (first second : Options) :
    SameStream (Probe.create first) (Probe.create second) :=
  ⟨rfl, rfl, rfl, rfl, rfl, rfl⟩

theorem Behind.create (options : Options) :
    Behind (Probe.create options) (Probe.create options) where
  toSameStream := SameStream.create options options
  forbids := rfl
  enforces := rfl
  mode := rfl
  fewer := List.Sublist.refl _
  others := rfl

variable {first second alone outer : Probe}

theorem SameStream.trans
    {third : Probe} (same : SameStream first second)
    (alsoSame : SameStream second third) : SameStream first third where
  index := alsoSame.index.trans same.index
  latest := alsoSame.latest.trans same.latest
  skipped := alsoSame.skipped.trans same.skipped
  aborted := alsoSame.aborted.trans same.aborted
  done := alsoSame.done.trans same.done
  callbacks := alsoSame.callbacks.trans same.callbacks

theorem SameStream.afterRequest
    (same : SameStream first second) (abort : Abort) :
    SameStream (afterRequest first abort false)
      (afterRequest second abort false) := by
  constructor <;>
    simp [ProtocolChecker.afterRequest, same.index, same.latest,
      same.skipped, same.aborted, same.done, same.callbacks]

/-- The flag that a checker hands to its consumer is not changed by another
checker that watches the same stream. -/
theorem SameStream.passedDone
    (same : SameStream first second) (done : Done) :
    passedDone second.self (passedDone first.self done) =
        ProtocolChecker.passedDone first.self done ∧
      ProtocolChecker.passedDone second.self done =
        ProtocolChecker.passedDone first.self done := by
  unfold ProtocolChecker.passedDone
  rw [same.done]
  constructor
  · split <;> rfl
  · rfl

theorem SameStream.afterAnswer
    (same : SameStream first second) (position : Nat)
    (callback : WrappedCallback) {firstDone secondDone : Done}
    (agree :
      ProtocolChecker.passedDone second.self secondDone =
        ProtocolChecker.passedDone first.self firstDone) :
    SameStream (afterAnswer first position callback firstDone)
      (afterAnswer second position callback secondDone) := by
  constructor <;>
    simp [ProtocolChecker.afterAnswer, same.index, same.latest,
      same.skipped, same.aborted, same.callbacks, agree]

theorem Behind.requestMessages_eq
    (behind : Behind alone outer) (abort : Abort) :
    requestMessages outer.self abort = requestMessages alone.self abort := by
  unfold requestMessages
  rw [behind.aborted, behind.done, behind.forbids]

theorem Behind.afterRequest
    (behind : Behind alone outer) (abort : Abort) :
    Behind (afterRequest alone abort false)
      (afterRequest outer abort false) where
  toSameStream := behind.toSameStream.afterRequest abort
  forbids := behind.forbids
  enforces := behind.enforces
  mode := behind.mode
  fewer := by
    have same := behind.requestMessages_eq abort
    simp only [ProtocolChecker.afterRequest, same]
    exact behind.fewer.append_right _
  others := by
    have same := behind.requestMessages_eq abort
    simp only [ProtocolChecker.afterRequest, same, List.filter_append,
      behind.others]

/-- Behind another checker, a value returned behind a termination looks like
the termination. -/
theorem Behind.answerMessages
    (behind : Behind alone outer) (callback : WrappedCallback)
    (done : Done) :
    (answerMessages outer.self callback
          (passedDone alone.self done)).Sublist
        (answerMessages alone.self callback done) ∧
      (ProtocolChecker.answerMessages outer.self callback
            (passedDone alone.self done)).filter Message.isOther =
        (ProtocolChecker.answerMessages alone.self callback done).filter
          Message.isOther := by
  have value :
      valueMessages outer.self callback.i (passedDone alone.self done) =
          valueMessages alone.self callback.i done ∨
        valueMessages outer.self callback.i (passedDone alone.self done) =
          [] := by
    unfold valueMessages passedDone
    rw [behind.aborted, behind.done]
    cases ended : alone.self.done.toBool with
    | true => simp [ended]
    | false => simp
  have dropped :
      (valueMessages alone.self callback.i done).filter Message.isOther =
        [] := by
    unfold valueMessages
    split <;> simp [Message.isOther, Message.rule]
  unfold ProtocolChecker.answerMessages
  rw [behind.latest]
  rcases value with same | none
  · rw [same]
    exact ⟨List.Sublist.refl _, rfl⟩
  · rw [none, List.nil_append]
    refine ⟨List.sublist_append_right _ _, ?_⟩
    rw [List.filter_append (valueMessages alone.self callback.i done),
      dropped, List.nil_append]

theorem Behind.afterAnswer
    (behind : Behind alone outer) (position : Nat)
    (callback : WrappedCallback) (done : Done) :
    Behind (afterAnswer alone position callback done)
      (afterAnswer outer position callback
        (passedDone alone.self done)) where
  toSameStream :=
    behind.toSameStream.afterAnswer position callback
      (behind.toSameStream.passedDone done).1
  forbids := behind.forbids
  enforces := behind.enforces
  mode := behind.mode
  fewer := behind.fewer.append (behind.answerMessages callback done).1
  others := by
    have messages := (behind.answerMessages callback done).2
    simp only [ProtocolChecker.afterAnswer, List.filter_append,
      behind.others, messages]

private theorem step_request_collecting
    {probe : Probe} (collects : probe.self.notifyEagerly = false)
    (abort : Abort) :
    (sessionMachine (T := T)).step probe (.request abort false) =
      some (afterRequest probe abort false, [.toSource abort]) := by
  have passed : passedAbort probe.self abort false = abort := by
    simp [passedAbort]
  rw [step_request_tolerated false (.inl collects), passed]

/-- Only recorded messages keep a request from passing, so it passes through
checkers that collect. -/
theorem askThrough_collecting
    {chain : List Probe}
    (collecting : ∀ probe ∈ chain, probe.self.notifyEagerly = false)
    (abort : Abort) :
    askThrough (T := T) chain abort false =
      some
        (chain.map fun probe => afterRequest probe abort false,
          [.toSource abort]) := by
  induction chain with
  | nil => rfl
  | cons probe rest inductionHypothesis =>
      have stepped :=
        step_request_collecting (T := T)
          (collecting probe List.mem_cons_self) abort
      have behind :=
        inductionHypothesis fun other member =>
          collecting other (List.mem_cons_of_mem probe member)
      simp [askThrough, stepped, behind]

/-- An answer reaches the checker next to the source as it is, and the others
with the flag that this checker passes on. -/
theorem answerThrough_collecting
    {outer : List Probe} {inner : Probe}
    (collecting :
      ∀ probe ∈ outer ++ [inner], probe.self.notifyEagerly = false)
    (same : ∀ probe ∈ outer, SameStream inner probe) {position : Nat}
    {callback : WrappedCallback}
    (issued : inner.callbacks[position]? = some (some callback))
    (done : Done) (value : T) :
    answerThrough (outer ++ [inner]) position done value =
      some
        ((outer.map fun probe =>
            afterAnswer probe position callback
              (passedDone inner.self done)) ++
          [afterAnswer inner position callback done],
          [.toConsumer position (passedDone inner.self done) value]) := by
  induction outer with
  | nil =>
      have stepped :
          sessionMachine.step inner (.answer position done value) =
            some (afterAnswer inner position callback done,
              [.toConsumer position (passedDone inner.self done) value]) :=
        step_answer_tolerated value issued
          (.inl (collecting inner (by simp)))
      simp [answerThrough, stepped]
  | cons probe rest inductionHypothesis =>
      have behind :=
        inductionHypothesis
          (fun other member =>
            collecting other (List.mem_cons_of_mem probe member))
          (fun other member => same other (List.mem_cons_of_mem probe member))
      have isSame := same probe List.mem_cons_self
      have issuedHere :
          probe.callbacks[position]? = some (some callback) := by
        rw [isSame.callbacks]
        exact issued
      have stepped :
          sessionMachine.step probe
              (.answer position (passedDone inner.self done) value) =
            some
              (afterAnswer probe position callback
                (passedDone inner.self done),
                [.toConsumer position
                  (passedDone probe.self (passedDone inner.self done))
                  value]) :=
        step_answer_tolerated value issuedHere
          (.inl (collecting probe List.mem_cons_self))
      rw [(isSame.passedDone done).1] at stepped
      simp [answerThrough, behind, stepped]

/-! ## Whole sessions -/

/-- What the checkers of a chain have come to, by their options: `layer` for
those behind another one, and `alone` for checkers of the same kind that watch
the stream alone. -/
structure Layered (history : List (SessionEvent T))
    (outputs : List (SessionOutput T)) (layer alone : Options → Probe) :
    Prop where
  ran :
    ∀ options, options.notifyEagerly = false →
      sessionMachine.run (Probe.create options) history =
        some (alone options, outputs)
  collecting :
    ∀ options, options.notifyEagerly = false →
      (alone options).self.notifyEagerly = false
  same : ∀ first second, SameStream (alone first) (alone second)
  behind : ∀ options, Behind (alone options) (layer options)
  wrapped :
    ∀ options (position : Nat),
      (alone options).callbacks[position]? ≠ some none

theorem Layered.create :
    Layered ([] : List (SessionEvent T)) ([] : List (SessionOutput T))
      Probe.create Probe.create where
  ran _ _ := rfl
  collecting _ isCollecting := isCollecting
  same := SameStream.create
  behind := Behind.create
  wrapped := by simp [Probe.create]

section

variable {history : List (SessionEvent T)}
  {outputs : List (SessionOutput T)} {layer alone : Options → Probe}

theorem Layered.request
    (layered : Layered history outputs layer alone) (abort : Abort) :
    Layered (history ++ [.request abort false])
      (outputs ++ [.toSource abort])
      (fun options => afterRequest (layer options) abort false)
      (fun options => afterRequest (alone options) abort false) where
  ran := by
    intro options isCollecting
    have stepped :=
      step_request_collecting (T := T)
        (layered.collecting options isCollecting) abort
    exact
      Machine.run_concat_eq_some.mpr
        ⟨_, _, _, layered.ran options isCollecting, stepped, rfl⟩
  collecting := layered.collecting
  same first second := (layered.same first second).afterRequest abort
  behind options := (layered.behind options).afterRequest abort
  wrapped := by
    intro options position issued
    simp only [afterRequest, List.getElem?_append] at issued
    split at issued
    · exact layered.wrapped options position issued
    · rw [List.getElem?_singleton] at issued
      split at issued <;> simp at issued

theorem Layered.answer
    (layered : Layered history outputs layer alone) (inner : Options)
    {position : Nat} {callback : WrappedCallback}
    (issued :
      (alone inner).callbacks[position]? = some (some callback))
    (done : Done) (value : T) :
    Layered (history ++ [.answer position done value])
      (outputs ++
        [.toConsumer position (passedDone (alone inner).self done) value])
      (fun options =>
        afterAnswer (layer options) position callback
          (passedDone (alone inner).self done))
      (fun options => afterAnswer (alone options) position callback done)
      where
  ran := by
    intro options isCollecting
    have same := layered.same inner options
    have issuedHere :
        (alone options).callbacks[position]? = some (some callback) := by
      rw [same.callbacks]
      exact issued
    have stepped :
        sessionMachine.step (alone options) (.answer position done value) =
          some (afterAnswer (alone options) position callback done,
            [.toConsumer position (passedDone (alone options).self done)
              value]) :=
      step_answer_tolerated value issuedHere
        (.inl (layered.collecting options isCollecting))
    rw [(same.passedDone done).2] at stepped
    exact
      Machine.run_concat_eq_some.mpr
        ⟨_, _, _, layered.ran options isCollecting, stepped, rfl⟩
  collecting := layered.collecting
  same first second :=
    (layered.same first second).afterAnswer position callback
      ((layered.same first second).passedDone done).2
  behind options := by
    have same := layered.same inner options
    rw [← (same.passedDone done).2]
    exact (layered.behind options).afterAnswer position callback done
  wrapped := by
    intro options other found
    simp only [afterAnswer, List.getElem?_set] at found
    split at found
    · split at found <;> simp at found
    · exact layered.wrapped options other found

theorem Layered.chain_collects
    (layered : Layered history outputs layer alone)
    {outer : List Options} {inner : Options}
    (outerCollect : ∀ options ∈ outer, options.notifyEagerly = false)
    (innerCollects : inner.notifyEagerly = false) :
    ∀ probe ∈ outer.map layer ++ [alone inner],
      probe.self.notifyEagerly = false := by
  intro probe member
  rcases List.mem_append.mp member with isOuter | isInner
  · obtain ⟨options, isOption, rfl⟩ := List.mem_map.mp isOuter
    rw [(layered.behind options).mode]
    exact layered.collecting options (outerCollect options isOption)
  · rw [List.mem_singleton.mp isInner]
    exact layered.collecting inner innerCollects

theorem Layered.sameStream
    (layered : Layered history outputs layer alone)
    (outer : List Options) (inner : Options) :
    ∀ probe ∈ outer.map layer, SameStream (alone inner) probe := by
  intro probe member
  obtain ⟨options, -, rfl⟩ := List.mem_map.mp member
  exact
    (layered.same inner options).trans (layered.behind options).toSameStream

/-- The chain takes the step of the checker next to the source. -/
theorem Layered.chain_step
    (layered : Layered history outputs layer alone)
    {outer : List Options} {inner : Options}
    (outerCollect : ∀ options ∈ outer, options.notifyEagerly = false)
    (innerCollects : inner.notifyEagerly = false)
    {event : SessionEvent T} {next : Probe}
    {emitted : List (SessionOutput T)}
    (nonNull : ∀ abort, event ≠ .request abort true)
    (stepped :
      sessionMachine.step (alone inner) event = some (next, emitted)) :
    ∃ nextLayer nextAlone : Options → Probe,
      nextAlone inner = next ∧
        Layered (history ++ [event]) (outputs ++ emitted) nextLayer
          nextAlone ∧
        chainMachine.step (outer.map layer ++ [alone inner]) event =
          some (outer.map nextLayer ++ [next], emitted) := by
  have collect := layered.chain_collects outerCollect innerCollects
  have collects := layered.collecting inner innerCollects
  cases event with
  | request abort isNull =>
      cases isNull with
      | true => exact absurd rfl (nonNull abort)
      | false =>
          rw [step_request_collecting collects] at stepped
          cases stepped
          refine ⟨_, _, rfl, layered.request abort, ?_⟩
          exact (askThrough_collecting collect abort).trans (by simp)
  | answer position done value =>
      cases issued : (alone inner).callbacks[position]? with
      | none => simp [sessionMachine, issued] at stepped
      | some handed =>
          cases handed with
          | none => exact absurd issued (layered.wrapped inner position)
          | some callback =>
              rw [step_answer_tolerated value issued (.inl collects)]
                at stepped
              cases stepped
              refine
                ⟨_, _, rfl, layered.answer inner issued done value, ?_⟩
              refine
                (answerThrough_collecting collect
                  (layered.sameStream outer inner) issued done
                  value).trans ?_
              rw [List.map_map]
              rfl

end

end DkPull.PullStream
