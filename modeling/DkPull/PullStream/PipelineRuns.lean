import DkPull.PullStream.Pipeline
import DkPull.PullStream.ProtocolSessions

/-!
# A pipeline collects its source

Each checker sees one request at a time, answered before the next one is made.
The sink runs all requests but the first in one loop inside the first answer,
and its callback runs inside the last of them, when every checker has already
noted the end of the stream.
-/

namespace DkPull.PullStream

open DkPull.Types
open DkPull.Reactive
open DkPull.PullStream.Sinks
open DkPull.PullStream.Sources
open ProtocolChecker

variable {T : Type}

def strict : Options where
  forbidExtraRequests := true
  enforceStreamTermination := true
  notifyEagerly := true

/-- The checker has seen `count` values, each requested and answered. -/
structure Reading (count : Nat) (probe : Probe) : Prop where
  index : probe.self.i = callbackIndex count
  latest : probe.self.latest.toNat = count
  aborted : probe.self.aborted = EndOrError.FALSE
  done : probe.self.done = EndOrError.FALSE
  errors : probe.self.errors = []
  callbacks : probe.callbacks.length = count

/-- The checker has noted the end of the stream and finds nothing to report. -/
def Clean (probe : Probe) : Prop :=
  terminate probe = (.ok [], probe)

def PassedOn (count : Nat) (done : Done) (probe : Probe) : Prop :=
  if done.toBool then Clean probe else Reading (count + 1) probe

private theorem reading_create : Reading 0 (Probe.create strict) where
  index := rfl
  latest := rfl
  aborted := rfl
  done := rfl
  errors := rfl
  callbacks := rfl

theorem Reading.requestMessages_eq_nil
    {count : Nat} {probe : Probe} (reading : Reading count probe) :
    requestMessages probe.self EndOrError.FALSE = [] := by
  simp [requestMessages, reading.aborted, reading.done]

theorem Reading.request
    {count : Nat} {probe : Probe} (reading : Reading count probe) :
    sessionMachine.step probe
        (.request EndOrError.FALSE false : SessionEvent T) =
      some (afterRequest probe EndOrError.FALSE false,
        [.toSource EndOrError.FALSE]) := by
  rw [step_request_tolerated false (.inr reading.requestMessages_eq_nil)]
  simp [passedAbort]

theorem Reading.answer
    {count : Nat} {probe : Probe} (reading : Reading count probe)
    (bounded : count + 1 < indexLimit) (done : Done) (value : T) :
    ∃ next,
      sessionMachine.step (afterRequest probe EndOrError.FALSE false)
          (.answer count done value) =
        some (next, [.toConsumer count done value]) ∧
      PassedOn count done next := by
  let asked := afterRequest probe EndOrError.FALSE false
  let callback : WrappedCallback := ⟨callbackIndex count, 0⟩
  have askedDone : asked.self.done = EndOrError.FALSE := reading.done
  have askedAborted : asked.self.aborted = EndOrError.FALSE := by
    simp [asked, afterRequest, reading.aborted]
  have askedErrors : asked.self.errors = [] := by
    simp [asked, afterRequest, reading.errors,
      reading.requestMessages_eq_nil]
  have askedIndex : asked.self.i = callbackIndex (count + 1) := by
    rw [callbackIndex_succ, ← reading.index]
    rfl
  have issued : asked.callbacks[count]? = some (some callback) := by
    simp [asked, afterRequest, callback, reading.index,
      ← reading.callbacks]
  have ordered :
      orderMessages asked.self.latest (callbackIndex count) = [] :=
    (orderMessages_eq_nil_iff
      (show probe.self.latest.toNat ≤ count + 1 by
        rw [reading.latest]
        exact Nat.le_succ count)
      (Nat.lt_succ_self count) bounded).mpr (.inl reading.latest)
  have silent : answerMessages asked.self callback done = [] := by
    simp [answerMessages, valueMessages, countMessages, askedDone,
      askedAborted, ordered, callback]
  have passed : passedDone asked.self done = done := by
    simp [passedDone, askedDone]
  let next := afterAnswer asked count callback done
  have stepped :
      sessionMachine.step asked (.answer count done value) =
        some (next, [.toConsumer count done value]) := by
    rw [step_answer_tolerated value issued (.inr silent), passed]
  have nextLatest : next.self.latest = callbackIndex count := by
    simp [next, afterAnswer, nextLatest, callback, ordered]
  have nextErrors : next.self.errors = [] := by
    simp [next, afterAnswer, askedErrors, silent]
  refine ⟨next, stepped, ?_⟩
  unfold PassedOn
  split
  · rename_i ends
    have nextDone : next.self.done.toBool = true := by
      simp [next, afterAnswer, passed, ends]
    have allInvoked : ¬ next.self.i > next.self.latest + 1 := by
      have nextIndex : next.self.i = next.self.latest + 1 := by
        rw [nextLatest, ← callbackIndex_succ]
        exact askedIndex
      simp [nextIndex]
    have found : terminateMessages next.self = [] := by
      simp [terminateMessages, neverInvokedMessages, terminationMessages,
        allInvoked, nextDone]
    have judged := terminate_tolerated (.inr found : Tolerates next _)
    rw [found, nextErrors, record_nil] at judged
    exact judged
  · rename_i continues
    have nextDone : next.self.done = done := by
      simp [next, afterAnswer, passed]
    have unset : done = EndOrError.FALSE :=
      EndOrError.eq_FALSE_of_toBool_false (by simpa using continues)
    constructor
    · exact askedIndex
    · rw [nextLatest, toNat_callbackIndex (by omega)]
    · exact askedAborted
    · rw [nextDone, unset]
    · exact nextErrors
    · simp [next, afterAnswer, asked, afterRequest, reading.callbacks]

private theorem deliver_singleton
    {Output : Type} (react : Output → PipelineM T PUnit) (output : Output) :
    deliver react [output] = react output :=
  bind_pure_unit

private theorem deliver_cons_of_ok
    {Output : Type} {react : Output → PipelineM T PUnit} {output : Output}
    {pipeline next : Pipeline T}
    (reacted : react output pipeline = (.ok ⟨⟩, next))
    (rest : List Output) :
    deliver react (output :: rest) pipeline = deliver react rest next :=
  Throwing.bind_of_ok reacted _

private theorem checkerStep_run
    {pipeline : Pipeline T} {number : Nat} {event : SessionEvent T}
    {probe : Probe} {outputs : List (SessionOutput T)}
    (stepped :
      sessionMachine.step (pipeline.checkers number) event =
        some (probe, outputs)) :
    checkerStep number event pipeline =
      (.ok outputs,
        { pipeline with
          checkers := Function.update pipeline.checkers number probe }) := by
  simp [checkerStep, stepped]

private theorem valuesSource_run [Inhabited T]
    {pipeline : Pipeline T} {abort : Abort} {done : Done} {value : T}
    {values : Values T}
    (answers :
      reply Values.take pipeline.values abort = ((done, value), values))
    (cb : Done → T → PipelineM T PUnit) :
    valuesSource abort cb pipeline =
      cb done value { pipeline with values } := by
  simp [valuesSource, Values.source_replies.request, answers,
    Sources.record, answersOf_answered, deliver_singleton]

/-- A request for a value comes back with the answer of the source.  The
callback runs when every checker on the way has passed the answer on. -/
theorem checked_run [Inhabited T]
    {checkers count : Nat} {pipeline : Pipeline T} {done : Done} {value : T}
    {values : Values T}
    (reading :
      ∀ number, number < checkers →
        Reading count (pipeline.checkers number))
    (bounded : count + 1 < indexLimit)
    (answers :
      reply Values.take pipeline.values EndOrError.FALSE =
        ((done, value), values)) :
    ∃ after : Nat → Probe,
      (∀ number, number < checkers → PassedOn count done (after number)) ∧
      (∀ number, checkers ≤ number →
        after number = pipeline.checkers number) ∧
      ∀ cb,
        checked checkers EndOrError.FALSE cb pipeline =
          cb done value { pipeline with values, checkers := after } := by
  induction checkers generalizing pipeline with
  | zero =>
      exact
        ⟨pipeline.checkers, fun number below => absurd below (by omega),
          fun _ _ => rfl, valuesSource_run answers⟩
  | succ checkers inductionHypothesis =>
      have own := reading checkers (Nat.lt_succ_self checkers)
      let asked := afterRequest (pipeline.checkers checkers)
        EndOrError.FALSE false
      let requested : Pipeline T :=
        { pipeline with
          checkers := Function.update pipeline.checkers checkers asked }
      have behind :
          ∀ number, number < checkers →
            Reading count (requested.checkers number) := by
        intro number below
        have same :
            requested.checkers number = pipeline.checkers number :=
          Function.update_of_ne (Nat.ne_of_lt below) _ _
        rw [same]
        exact reading number (Nat.lt_succ_of_lt below)
      obtain ⟨after, passedOn, untouched, behindRan⟩ :=
        inductionHypothesis behind answers
      obtain ⟨next, answered, ownPassedOn⟩ :=
        own.answer bounded done value
      have wrapped :
          sessionMachine.step (after checkers)
              (.answer (pipeline.checkers checkers).callbacks.length done
                value) =
            some (next, [.toConsumer count done value]) := by
        have sameAsked : requested.checkers checkers = asked :=
          Function.update_self _ _ _
        rw [untouched checkers (Nat.le_refl checkers), own.callbacks,
          sameAsked]
        exact answered
      refine ⟨Function.update after checkers next, ?_, ?_, ?_⟩
      · intro number below
        by_cases last : number = checkers
        · rw [last, Function.update_self]
          exact ownPassedOn
        · rw [Function.update_of_ne last]
          exact passedOn number (by omega)
      · intro number above
        have other : number ≠ checkers := by omega
        rw [Function.update_of_ne other, untouched number (by omega)]
        exact Function.update_of_ne other _ _
      · intro cb
        rw [checked, through,
          Throwing.bind_of_ok (Throwing.get_run pipeline),
          Throwing.bind_of_ok (checkerStep_run own.request),
          deliver_singleton, checkerOutput, behindRan,
          Throwing.bind_of_ok (checkerStep_run wrapped),
          deliver_singleton, checkerOutput]

/-! ## The sink -/

def sinkAt (looper : Looper.Configuration) (vector : List T)
    (completions : List (Done × List T)) : Reducing (List T) where
  draining := ⟨some looper, ⟨2, vector, completions⟩⟩
  reduces := 0
  sinks := 1
  halted := false

variable {moved : List T → List T} {looper follower : Looper.Configuration}
  {vector : List T} {completions : List (Done × List T)}

private theorem sink_apply :
    (makeCollect moved).step (Reducing.create .collect []) .apply =
      some (sinkAt Looper.Configuration.create.start.1 [] [],
        [.request EndOrError.FALSE]) :=
  rfl

private theorem sink_value
    {request : Nat} (made : request < looper.handles) (value : T) :
    (makeCollect moved).step (sinkAt looper vector completions)
        (.answer request EndOrError.FALSE value) =
      some (sinkAt looper.next.1 (vector ++ [value]) completions,
        .onValue value :: looper.next.2.map requested) := by
  have handled :
      (Reduce.drain pushBack moved).callback EndOrError.FALSE value looper
          ⟨2, vector, completions⟩ = _ :=
    Reduce.callback_value_of_held Nat.two_pos EndOrError.toBool_FALSE value
      looper
  rw [makeCollect, reduceMachine_step_of_live rfl]
  simp only [drainMachine, sinkAt, made, if_true, handled, Option.map_some,
    Reducing.follow, List.any_cons, DrainOutput.isThrown,
    any_isThrown_requested, Bool.or_false, pushBack]

private theorem sink_end
    {request : Nat} (made : request < looper.handles) {done : Done}
    (ends : done.toBool = true) (value : T) :
    (makeCollect moved).step (sinkAt looper vector completions)
        (.answer request done value) =
      some (sinkAt looper (moved vector)
          (completions ++ [(done, vector)]),
        [.onDone done]) := by
  have handled :
      (Reduce.drain pushBack moved).callback done value looper
          ⟨2, vector, completions⟩ = _ :=
    Reduce.callback_done_of_held Nat.two_pos ends value looper
  rw [makeCollect, reduceMachine_step_of_live rfl]
  simp only [drainMachine, sinkAt, made, if_true, handled, Option.map_some,
    Reducing.follow, List.any_cons, List.any_nil, DrainOutput.isThrown,
    Bool.or_false]

private theorem sink_returned
    {invoked : List Looper.LooperOutput}
    (inLoop : looper.stack.head? = some .loop)
    (popped : looper.returned = some (follower, invoked)) :
    (makeCollect moved).step (sinkAt looper vector completions) .returned =
      some (sinkAt follower vector completions, invoked.map requested) := by
  rw [makeCollect, reduceMachine_step_of_live rfl]
  simp only [drainMachine, sinkAt, Drain.resume, Reducing.resume,
    Reducing.follow, popped, any_isThrown_requested, Option.map_some,
    Reducing.leave, Reducing.applicationInnermost, Option.bind_some, inLoop]
  simp

private theorem sink_over (handles : Nat) :
    ∃ sink,
      (makeCollect moved).step
          (sinkAt ⟨⟨false, true⟩, [.start], handles⟩ vector completions)
          .returned =
        some (sink, []) :=
  ⟨_, rfl⟩

private theorem sinkStep_run
    {pipeline : Pipeline T} {event : ReduceEvent T}
    {sink : Reducing (List T)}
    {outputs : List (DrainOutput T CheckFailure)}
    (stepped :
      (makeCollect moved).step pipeline.sink event = some (sink, outputs)) :
    sinkStep moved event pipeline =
      (.ok outputs, { pipeline with sink }) := by
  simp [sinkStep, stepped]

/-! ## Calls of the source -/

/-- The sink has taken some values through the checkers, and some are left. -/
structure Pulling (checkers : Nat) (looper : Looper.Configuration)
    (taken left : List T) (pipeline : Pipeline T) : Prop where
  reading :
    ∀ number, number < checkers →
      Reading taken.length (pipeline.checkers number)
  values : pipeline.values = Values.create left
  sink : pipeline.sink = sinkAt looper taken []
  requests : pipeline.requests = taken.length
  collected : pipeline.collected = []

/-- The callback of the sink has been called with all of the values, and no
checker had anything to report. -/
structure Ended (moved : List T → List T) (checkers : Nat)
    (looper : Looper.Configuration) (all : List T) (pipeline : Pipeline T) :
    Prop where
  sink :
    pipeline.sink = sinkAt looper (moved all) [(EndOrError.TRUE, all)]
  collected :
    pipeline.collected =
      [⟨EndOrError.TRUE, all, List.replicate checkers (.ok [])⟩]

private theorem pulling_create
    (values : List T) (checkers : Nat) :
    Pulling checkers Looper.Configuration.create.start.1 [] values
      { Pipeline.create values strict with
        sink := sinkAt Looper.Configuration.create.start.1 [] [] } where
  reading _ _ := reading_create
  values := rfl
  sink := rfl
  requests := rfl
  collected := rfl

variable [Inhabited T] {checkers fuel : Nat} {taken left : List T}
  {pipeline : Pipeline T}

/-- What remains to be done for a call of the source when the sink has taken
the answer. -/
def afterAnswered (moved : List T → List T) (checkers fuel : Nat)
    (outputs : List (DrainOutput T CheckFailure)) :
    PipelineM T PUnit := do
  deliver (sinkOutput checkers (call moved checkers fuel)) outputs
  deliver (sinkOutput checkers (call moved checkers fuel))
    (← sinkStep moved .returned)

/-- A call of the source comes back to the sink with an answer. -/
theorem Pulling.call_run
    (pulling : Pulling checkers looper taken left pipeline)
    (bounded : taken.length + 1 < indexLimit) {done : Done} {value : T}
    {values : Values T} {sink : Reducing (List T)}
    {outputs : List (DrainOutput T CheckFailure)}
    (answers :
      reply Values.take (Values.create left) EndOrError.FALSE =
        ((done, value), values))
    (answered :
      (makeCollect moved).step (sinkAt looper taken [])
          (.answer taken.length done value) =
        some (sink, outputs)) :
    ∃ next : Pipeline T,
      (∀ number, number < checkers →
        PassedOn taken.length done (next.checkers number)) ∧
      next.values = values ∧ next.sink = sink ∧
      next.requests = taken.length + 1 ∧ next.collected = [] ∧
      call moved checkers (fuel + 1) EndOrError.FALSE pipeline =
        afterAnswered moved checkers fuel outputs next := by
  let asking : Pipeline T :=
    { pipeline with requests := taken.length + 1 }
  have reading :
      ∀ number, number < checkers →
        Reading taken.length (asking.checkers number) :=
    pulling.reading
  have askingAnswers :
      reply Values.take asking.values EndOrError.FALSE =
        ((done, value), values) := by
    rw [← answers, ← pulling.values]
  obtain ⟨after, passedOn, -, ran⟩ :=
    checked_run reading bounded askingAnswers
  refine
    ⟨{ asking with values, checkers := after, sink }, passedOn, rfl, rfl,
      rfl, pulling.collected, ?_⟩
  have stepped :
      (makeCollect moved).step
          ({ asking with values, checkers := after } : Pipeline T).sink
          (.answer taken.length done value) =
        some (sink, outputs) := by
    rw [← answered, ← pulling.sink]
  rw [call, Throwing.bind_of_ok (Throwing.get_run pipeline),
    Throwing.bind_of_ok (Throwing.modify_run _ pipeline),
    pulling.requests, Throwing.bind_of_same (ran _)]
  exact
    Throwing.bind_of_same (Throwing.bind_of_ok (sinkStep_run stepped) _) _

/-- A value is taken in, and the sink calls `next()`. -/
theorem Pulling.call_value
    {value : T}
    (pulling : Pulling checkers looper taken (value :: left) pipeline)
    (bounded : taken.length + 1 < indexLimit)
    (made : taken.length < looper.handles) :
    ∃ next : Pipeline T,
      Pulling checkers looper.next.1 (taken ++ [value]) left next ∧
      call moved checkers (fuel + 1) EndOrError.FALSE pipeline =
        afterAnswered moved checkers fuel (looper.next.2.map requested)
          next := by
  obtain ⟨next, passedOn, values, sink, requests, collected, ran⟩ :=
    pulling.call_run bounded rfl (sink_value made value)
  have grown : (taken ++ [value]).length = taken.length + 1 :=
    List.length_append
  refine ⟨next, ⟨?_, values, sink, ?_, collected⟩, ?_⟩
  · intro number below
    rw [grown]
    exact passedOn number below
  · rw [grown]
    exact requests
  · have accepted :
        sinkOutput checkers (call moved checkers fuel) (.onValue value)
            next =
          (.ok ⟨⟩, next) :=
      rfl
    rw [ran, afterAnswered, afterAnswered]
    exact Throwing.bind_of_same (deliver_cons_of_ok accepted _) _

/-- The end of the stream reaches the callback of the sink, which calls
`Terminate()` of each checker. -/
theorem Pulling.call_end
    (pulling : Pulling checkers looper taken [] pipeline)
    (bounded : taken.length + 1 < indexLimit)
    (made : taken.length < looper.handles) :
    ∃ next : Pipeline T,
      Ended moved checkers looper taken next ∧
      call moved checkers (fuel + 1) EndOrError.FALSE pipeline =
        afterAnswered moved checkers fuel [] next := by
  obtain ⟨next, passedOn, values, sink, requests, collected, ran⟩ :=
    pulling.call_run bounded rfl
      (sink_end made EndOrError.toBool_TRUE default)
  have terminations :
      ((List.range checkers).map fun number =>
          (terminate (next.checkers number)).1) =
        List.replicate checkers (.ok []) := by
    rw [List.eq_replicate_iff]
    refine ⟨by simp, ?_⟩
    intro termination member
    obtain ⟨number, below, rfl⟩ := List.mem_map.mp member
    have clean : Clean (next.checkers number) :=
      passedOn number (List.mem_range.mp below)
    rw [clean]
  let judged : Pipeline T := (collect checkers EndOrError.TRUE taken next).2
  have reacted :
      sinkOutput checkers (call moved checkers fuel)
          (.onDone EndOrError.TRUE) next =
        (.ok ⟨⟩, judged) := by
    rw [sinkOutput, Throwing.bind_of_ok (Throwing.get_run next), sink,
      collected]
    exact congrFun (deliver_singleton _ _) next
  refine ⟨judged, ⟨sink, ?_⟩, ?_⟩
  · change next.collected ++ [_] = _
    rw [collected, terminations]
    rfl
  · rw [ran, afterAnswered, afterAnswered]
    exact Throwing.bind_of_same (deliver_cons_of_ok reacted []) _

/-- In its loop the sink takes in all the values that are left. -/
theorem Pulling.call_loop
    (pulling :
      Pulling checkers ⟨⟨false, false⟩, [.loop, .start], taken.length + 1⟩
        taken left pipeline)
    (enough : left.length < fuel)
    (bounded : taken.length + left.length + 1 < indexLimit) :
    ∃ target handles,
      call moved checkers fuel EndOrError.FALSE pipeline =
          (.ok ⟨⟩, target) ∧
        Ended moved checkers ⟨⟨false, true⟩, [.start], handles⟩
          (taken ++ left) target := by
  induction left generalizing taken fuel pipeline with
  | nil =>
      obtain ⟨fuel, rfl⟩ : ∃ less, fuel = less + 1 :=
        ⟨fuel - 1, by omega⟩
      obtain ⟨next, ended, ran⟩ :=
        pulling.call_end bounded (Nat.lt_succ_self _)
      let finished : Looper.Configuration :=
        ⟨⟨false, true⟩, [.start], taken.length + 1⟩
      have popped :
          Looper.Configuration.returned
              ⟨⟨false, false⟩, [.loop, .start], taken.length + 1⟩ =
            some (finished, []) :=
        rfl
      have returned :
          (makeCollect moved).step next.sink .returned =
            some
              (sinkAt finished (moved taken) [(EndOrError.TRUE, taken)],
                []) := by
        rw [ended.sink]
        exact sink_returned rfl popped
      refine
        ⟨{ next with
            sink :=
              sinkAt finished (moved taken) [(EndOrError.TRUE, taken)] },
          taken.length + 1, ?_, ?_⟩
      · rw [ran, afterAnswered]
        exact Throwing.bind_of_ok (sinkStep_run returned) _
      · rw [List.append_nil]
        exact ⟨rfl, ended.collected⟩
  | cons value left inductionHypothesis =>
      obtain ⟨fuel, rfl⟩ : ∃ less, fuel = less + 1 :=
        ⟨fuel - 1, by omega⟩
      rw [List.length_cons] at enough bounded
      have grown : (taken ++ [value]).length = taken.length + 1 :=
        List.length_append
      obtain ⟨next, nextPulling, ran⟩ :=
        pulling.call_value (by omega) (Nat.lt_succ_self _)
      let again : Looper.Configuration :=
        ⟨⟨false, false⟩, [.loop, .start], (taken ++ [value]).length + 1⟩
      have popped :
          Looper.Configuration.returned
              ⟨⟨true, false⟩, [.loop, .start], taken.length + 1⟩ =
            some (again, [.invoked (taken.length + 1)]) := by
        rw [← grown]
        rfl
      have returned :
          (makeCollect moved).step next.sink .returned =
            some (sinkAt again (taken ++ [value]) [],
              [.request EndOrError.FALSE]) := by
        rw [nextPulling.sink]
        exact sink_returned rfl popped
      have entered :
          Pulling checkers again (taken ++ [value]) left
            { next with sink := sinkAt again (taken ++ [value]) [] } :=
        ⟨nextPulling.reading, nextPulling.values, rfl,
          nextPulling.requests, nextPulling.collected⟩
      obtain ⟨target, handles, looped, ended⟩ :=
        inductionHypothesis entered (show left.length < fuel by omega)
          (by omega)
      refine ⟨target, handles, ?_, ?_⟩
      · rw [ran, afterAnswered]
        refine
          (Throwing.bind_of_ok (sinkStep_run returned) _).trans ?_
        rw [deliver_singleton]
        exact looped
      · rw [List.append_cons]
        exact ended

/-- When the invocation made by `Start()` returns, `Pull` returns. -/
theorem Ended.returned
    {handles : Nat}
    (ended :
      Ended moved checkers ⟨⟨false, true⟩, [.start], handles⟩ taken
        pipeline) :
    ∃ target,
      afterAnswered moved checkers fuel [] pipeline = (.ok ⟨⟩, target) ∧
        target.collected =
          [⟨EndOrError.TRUE, taken, List.replicate checkers (.ok [])⟩] := by
  obtain ⟨sink, returned⟩ :
      ∃ sink,
        (makeCollect moved).step pipeline.sink .returned =
          some (sink, []) := by
    rw [ended.sink]
    exact sink_over handles
  refine ⟨{ pipeline with sink }, ?_, ended.collected⟩
  exact Throwing.bind_of_ok (sinkStep_run returned) _

/-- Pulling a list through any number of checkers that insist on everything
collects the list: `Pull` returns, and the callback of the sink is called once,
with a clean end and the list.  `Terminate()` of every checker, called inside
that callback, finds nothing. -/
theorem pull_collects_values
    (moved : List T → List T) (checkers : Nat) {values : List T}
    (short : values.length < 2 ^ 64 - 2) :
    ∃ enough, ∀ fuel, enough ≤ fuel →
      ∃ target,
        pull moved checkers fuel (Pipeline.create values strict) =
            (.ok ⟨⟩, target) ∧
          target.collected =
            [⟨EndOrError.TRUE, values,
              List.replicate checkers (.ok [])⟩] := by
  refine ⟨values.length + 2, fun fuel enough => ?_⟩
  obtain ⟨fuel, rfl⟩ : ∃ less, fuel = less + 1 := ⟨fuel - 1, by omega⟩
  have pulling := pulling_create values checkers
  have applied :
      pull moved checkers (fuel + 1) (Pipeline.create values strict) =
        call moved checkers (fuel + 1) EndOrError.FALSE
          { Pipeline.create values strict with
            sink := sinkAt Looper.Configuration.create.start.1 [] [] } := by
    rw [pull, Throwing.bind_of_ok (sinkStep_run sink_apply),
      deliver_singleton]
    rfl
  have bounded : values.length + 1 < indexLimit := by
    unfold indexLimit
    omega
  rw [applied]
  cases values with
  | nil =>
      obtain ⟨next, ended, ran⟩ :=
        pulling.call_end bounded Nat.zero_lt_one
      rw [ran]
      exact ended.returned
  | cons value left =>
      rw [List.length_cons] at enough bounded
      obtain ⟨next, nextPulling, ran⟩ :=
        pulling.call_value (Nat.lt_of_le_of_lt (by simp) bounded)
          Nat.zero_lt_one
      have inLoop :
          Pulling checkers ⟨⟨false, false⟩, [.loop, .start], 2⟩ [value] left
            next :=
        nextPulling
      have fuelLeft : left.length < fuel := by omega
      have inBounds : [value].length + left.length + 1 < indexLimit := by
        rw [List.length_singleton]
        omega
      obtain ⟨target, handles, looped, ended⟩ :=
        inLoop.call_loop fuelLeft inBounds
      have delivered :
          deliver (sinkOutput checkers (call moved checkers fuel))
              [.request EndOrError.FALSE] next =
            (.ok ⟨⟩, target) := by
        rw [deliver_singleton]
        exact looped
      have resumed :
          afterAnswered moved checkers fuel [.request EndOrError.FALSE]
              next =
            afterAnswered moved checkers fuel [] target :=
        Throwing.bind_of_same (delivered.trans rfl) _
      have whole := ran.trans resumed
      rw [whole]
      exact ended.returned

theorem pull_collects_values_oneTwoThree :
    ∃ fuel target,
      pull id 2 fuel (Pipeline.create [1, 2, 3] strict) =
          (.ok ⟨⟩, target) ∧
        target.collected =
          [⟨EndOrError.TRUE, [1, 2, 3], [.ok [], .ok []]⟩] := by
  have short : [1, 2, 3].length < 2 ^ 64 - 2 := by decide
  obtain ⟨enough, collects⟩ := pull_collects_values id 2 short
  exact ⟨enough, collects enough (Nat.le_refl enough)⟩

end DkPull.PullStream
