import DkPull.PullStream.ProtocolChecker

/-!
# What one call does to the protocol checker

Each piece of checker code is evaluated once here.  The messages that a call
reports are a function of the state in front of it, and the state behind it is
given in closed form whenever the call is tolerated: either the checker only
collects, or it has nothing to report.  An eager checker with something to
report throws the first message instead.
-/

namespace DkPull.PullStream

open DkPull.Types
open DkPull.Reactive

namespace ProtocolChecker

def reportAll : List Message → CheckerM Unit
  | [] => pure ()
  | err :: rest => do
      notifyError err
      reportAll rest

def record (probe : Probe) (errs : List Message) : Probe :=
  { probe with
    self := { probe.self with errors := probe.self.errors ++ errs } }

/-- A checker that collects tolerates every message, an eager one none. -/
def Tolerates (probe : Probe) (errs : List Message) : Prop :=
  probe.self.notifyEagerly = false ∨ errs = []

@[simp]
theorem record_nil (probe : Probe) : record probe [] = probe := by
  simp [record]

@[simp]
theorem record_record (probe : Probe) (first second : List Message) :
    record (record probe first) second = record probe (first ++ second) := by
  simp [record]

@[simp]
theorem assign_run
    (update : ProtocolChecker → ProtocolChecker) (probe : Probe) :
    (assign update : CheckerM Unit) probe =
      (.ok (), { probe with self := update probe.self }) :=
  rfl

private theorem notifyError_collecting
    {probe : Probe} (collecting : probe.self.notifyEagerly = false)
    (err : Message) :
    notifyError err probe = (.ok (), record probe [err]) := by
  simp [notifyError, record, collecting]

theorem notifyError_eager
    {probe : Probe} (eager : probe.self.notifyEagerly = true)
    (err : Message) :
    notifyError err probe = (.error err, probe) := by
  simp [notifyError, eager]

@[simp]
theorem reportAll_nil : reportAll [] = pure () :=
  rfl

@[simp]
theorem reportAll_singleton (err : Message) :
    reportAll [err] = notifyError err := by
  funext probe
  change (notifyError err >>= fun _ => pure ()) probe = notifyError err probe
  rw [bind_pure_unit]

@[simp]
theorem reportAll_cons_cons (first second : Message) (rest : List Message) :
    reportAll (first :: second :: rest) =
      notifyError first >>= fun _ => reportAll (second :: rest) :=
  rfl

private theorem reportAll_collecting
    {probe : Probe} (collecting : probe.self.notifyEagerly = false)
    (errs : List Message) :
    reportAll errs probe = (.ok (), record probe errs) := by
  induction errs generalizing probe with
  | nil =>
      simp
  | cons err rest inductionHypothesis =>
      have stillCollecting :
          (record probe [err]).self.notifyEagerly = false :=
        collecting
      simp [reportAll, notifyError_collecting collecting,
        inductionHypothesis stillCollecting]

private theorem reportAll_tolerated
    {probe : Probe} {errs : List Message}
    (tolerated : Tolerates probe errs) :
    reportAll errs probe = (.ok (), record probe errs) := by
  rcases tolerated with collecting | rfl
  · exact reportAll_collecting collecting errs
  · simp

theorem reportAll_eager
    {probe : Probe} (eager : probe.self.notifyEagerly = true)
    (err : Message) (rest : List Message) :
    reportAll (err :: rest) probe = (.error err, probe) := by
  simp [reportAll, notifyError_eager eager]

def requestMessages (self : ProtocolChecker) (abort : Abort) :
    List Message :=
  if self.aborted.toBool || self.done.toBool then
    (if !abort.toBool then [.valueRequestedAfterTermination] else []) ++
      if self.forbidExtraRequests then
        (if self.aborted.toBool then [.requestAfterAborted] else []) ++
          if self.done.toBool then [.requestAfterTerminated] else []
      else []
  else []

private theorem checkRequest_eq_reportAll (abort : Abort) (probe : Probe) :
    checkRequest abort probe =
      reportAll (requestMessages probe.self abort) probe := by
  rw [checkRequest, Throwing.bind_of_ok (Throwing.get_run probe)]
  cases aborted : probe.self.aborted.toBool <;>
    cases done : probe.self.done.toBool <;>
      cases requested : abort.toBool <;>
        cases forbids : probe.self.forbidExtraRequests <;>
          simp [requestMessages, aborted, done, requested, forbids,
            -Throwing.bind_run]

/-- The abort handed to the source: a request without a callback forwards the
stored one. -/
def passedAbort
    (self : ProtocolChecker) (abort : Abort) (isNull : Bool) : Abort :=
  if isNull && self.aborted.toBool then self.aborted else abort

def afterRequest (probe : Probe) (abort : Abort) (isNull : Bool) : Probe where
  self :=
    { probe.self with
      errors := probe.self.errors ++ requestMessages probe.self abort
      aborted :=
        if probe.self.aborted.toBool then probe.self.aborted else abort
      i := probe.self.i + 1
      skipped :=
        if isNull then
          Function.update probe.self.skipped probe.self.i (some true)
        else probe.self.skipped }
  callbacks :=
    probe.callbacks ++ [if isNull then none else some ⟨probe.self.i, 0⟩]

private theorem request_tolerated
    {probe : Probe} {abort : Abort} (isNull : Bool)
    (tolerated : Tolerates probe (requestMessages probe.self abort)) :
    request abort isNull probe =
      (.ok (passedAbort probe.self abort isNull),
        afterRequest probe abort isNull) := by
  have checked :
      checkRequest abort probe =
        (.ok (), record probe (requestMessages probe.self abort)) :=
    (checkRequest_eq_reportAll abort probe).trans
      (reportAll_tolerated tolerated)
  cases isNull <;>
    cases stored : probe.self.aborted.toBool <;>
      simp [request, checked, record, afterRequest, passedAbort, stored]

theorem request_eager
    {probe : Probe} {abort : Abort} (isNull : Bool)
    {err : Message} {rest : List Message}
    (eager : probe.self.notifyEagerly = true)
    (reported : requestMessages probe.self abort = err :: rest) :
    request abort isNull probe = (.error err, probe) := by
  have checked : checkRequest abort probe = (.error err, probe) := by
    rw [checkRequest_eq_reportAll, reported, reportAll_eager eager]
  simp [request, checked]

/-! ## Answers -/

def valueMessages (self : ProtocolChecker) (i : UInt64) (done : Done) :
    List Message :=
  if !done.toBool && (self.aborted.toBool || self.done.toBool) then
    [.returnedValueAfterTermination i]
  else []

def countMessages (callback : WrappedCallback) : List Message :=
  if callback.counter + 1 > 1 then
    [.invokedTimes callback.i (callback.counter + 1)]
  else []

def orderMessages (latest i : UInt64) : List Message :=
  if i < latest then
    [.invokedAfter i latest]
  else if i > latest + 1 then
    [.invokedBefore i (latest + 1)]
  else []

/-- The messages of one answer, in the order in which they are reported. -/
def answerMessages
    (self : ProtocolChecker) (callback : WrappedCallback) (done : Done) :
    List Message :=
  valueMessages self callback.i done ++
    (countMessages callback ++ orderMessages self.latest callback.i)

/-- The flag handed to the consumer: the first termination sticks. -/
def passedDone (self : ProtocolChecker) (done : Done) : Done :=
  if self.done.toBool then self.done else done

def nextLatest (latest i : UInt64) : UInt64 :=
  if orderMessages latest i = [] then i else latest

def afterAnswer
    (probe : Probe) (position : Nat) (callback : WrappedCallback)
    (done : Done) : Probe where
  self :=
    { probe.self with
      errors := probe.self.errors ++ answerMessages probe.self callback done
      latest := nextLatest probe.self.latest callback.i
      done := passedDone probe.self done }
  callbacks :=
    probe.callbacks.set position
      (some { callback with counter := callback.counter + 1 })

private theorem checkValue_eq_reportAll
    (i : UInt64) (done : Done) (probe : Probe) :
    checkValue i done probe =
      reportAll (valueMessages probe.self i done) probe := by
  cases violated :
      (!done.toBool && (probe.self.aborted.toBool ||
        probe.self.done.toBool)) <;>
    simp only [checkValue, valueMessages, Throwing.bind_run,
      Throwing.get_run, violated, Bool.false_eq_true, if_false, if_true,
      reportAll_nil, reportAll_singleton]

def counted
    (probe : Probe) (position : Nat) (callback : WrappedCallback) : Probe :=
  { probe with
    callbacks :=
      probe.callbacks.set position
        (some { callback with counter := callback.counter + 1 }) }

private theorem countInvocation_eq_reportAll
    (position : Nat) (callback : WrappedCallback) (probe : Probe) :
    countInvocation position callback probe =
      reportAll (countMessages callback)
        (counted probe position callback) := by
  by_cases repeated : callback.counter + 1 > 1 <;>
    simp [countInvocation, countMessages, counted, repeated]

def reached (probe : Probe) (i : UInt64) : Probe :=
  { probe with
    self := { probe.self with latest := nextLatest probe.self.latest i } }

private theorem checkOrder_eq_reportAll (i : UInt64) (probe : Probe) :
    checkOrder i probe =
      reportAll (orderMessages probe.self.latest i) (reached probe i) := by
  by_cases early : i < probe.self.latest
  · simp [checkOrder, orderMessages, nextLatest, reached, early]
  · by_cases late : i > probe.self.latest + 1
    · simp [checkOrder, orderMessages, nextLatest, reached, early, late]
    · simp [checkOrder, orderMessages, nextLatest, reached, early, late]

private theorem wrappedCallback_tolerated
    {probe : Probe} {position : Nat} {callback : WrappedCallback}
    {done : Done}
    (tolerated :
      Tolerates probe (answerMessages probe.self callback done)) :
    wrappedCallback position callback done probe =
      (.ok (passedDone probe.self done),
        afterAnswer probe position callback done) := by
  have split :
      Tolerates probe (valueMessages probe.self callback.i done) ∧
        Tolerates probe (countMessages callback) ∧
          Tolerates probe (orderMessages probe.self.latest callback.i) := by
    rcases tolerated with collecting | silent
    · exact ⟨Or.inl collecting, Or.inl collecting, Or.inl collecting⟩
    · simp only [answerMessages, List.append_eq_nil_iff] at silent
      exact ⟨Or.inr silent.1, Or.inr silent.2.1, Or.inr silent.2.2⟩
  obtain ⟨valueTolerated, countTolerated, orderTolerated⟩ := split
  have valueChecked :=
    (checkValue_eq_reportAll callback.i done probe).trans
      (reportAll_tolerated valueTolerated)
  let checked := record probe (valueMessages probe.self callback.i done)
  have countChecked :
      countInvocation position callback checked =
        (.ok (), record (counted checked position callback)
          (countMessages callback)) :=
    (countInvocation_eq_reportAll position callback checked).trans
      (reportAll_tolerated countTolerated)
  let ordered :=
    record (counted checked position callback) (countMessages callback)
  have orderChecked :
      checkOrder callback.i ordered =
        (.ok (), record (reached ordered callback.i)
          (orderMessages probe.self.latest callback.i)) :=
    (checkOrder_eq_reportAll callback.i ordered).trans
      (reportAll_tolerated orderTolerated)
  rw [wrappedCallback, Throwing.bind_of_ok valueChecked,
    Throwing.bind_of_ok countChecked, Throwing.bind_of_ok orderChecked]
  cases stored : probe.self.done.toBool <;>
    simp [checked, ordered, afterAnswer, answerMessages, passedDone, record,
      reached, counted, stored]

/-- An eager checker throws the first message of an answer. -/
theorem wrappedCallback_eager
    {probe : Probe} (position : Nat) {callback : WrappedCallback}
    {done : Done} {err : Message} {rest : List Message}
    (eager : probe.self.notifyEagerly = true)
    (reported :
      answerMessages probe.self callback done = err :: rest) :
    ∃ next,
      wrappedCallback position callback done probe = (.error err, next) := by
  have valueChecked := checkValue_eq_reportAll callback.i done probe
  cases value : valueMessages probe.self callback.i done with
  | cons first more =>
      rw [answerMessages, value, List.cons_append] at reported
      injection reported with same _
      subst same
      rw [value, reportAll_eager eager] at valueChecked
      exact ⟨probe, Throwing.bind_of_error valueChecked _⟩
  | nil =>
      rw [value] at valueChecked
      have countChecked :=
        countInvocation_eq_reportAll position callback probe
      let next := counted probe position callback
      cases count : countMessages callback with
      | cons first more =>
          rw [answerMessages, value, count] at reported
          injection reported with same _
          subst same
          have stillEager : next.self.notifyEagerly = true := eager
          rw [count, reportAll_eager stillEager] at countChecked
          refine ⟨next, ?_⟩
          rw [wrappedCallback, Throwing.bind_of_ok valueChecked,
            Throwing.bind_of_error countChecked]
      | nil =>
          rw [answerMessages, value, count] at reported
          rw [count] at countChecked
          have orderChecked := checkOrder_eq_reportAll callback.i next
          have sameOrder :
              orderMessages next.self.latest callback.i = err :: rest :=
            reported
          have stillEager :
              (reached next callback.i).self.notifyEagerly = true :=
            eager
          rw [sameOrder, reportAll_eager stillEager] at orderChecked
          refine ⟨reached next callback.i, ?_⟩
          rw [wrappedCallback, Throwing.bind_of_ok valueChecked,
            Throwing.bind_of_ok countChecked,
            Throwing.bind_of_error orderChecked]

/-- The test of the loop of `Terminate`. -/
def reportedByLoop (skipped : UInt64 → Option Bool) (k : UInt64) : Bool :=
  skipped k = none || skipped k = some true

def neverInvokedMessages (self : ProtocolChecker) : List Message :=
  if self.i > self.latest + 1 then
    ((loopIndices self.latest self.i).filter
      (reportedByLoop self.skipped)).map Message.neverInvoked
  else []

def terminationMessages (self : ProtocolChecker) : List Message :=
  if self.enforceStreamTermination && !self.done.toBool &&
      !self.aborted.toBool then
    [.neverTerminated]
  else []

def terminateMessages (self : ProtocolChecker) : List Message :=
  neverInvokedMessages self ++ terminationMessages self

private theorem terminateLoop_tolerated
    {probe : Probe} {indices : List UInt64}
    (tolerated :
      Tolerates probe
        ((indices.filter (reportedByLoop probe.self.skipped)).map
          Message.neverInvoked)) :
    terminateLoop indices probe =
      (.ok (), record probe
        ((indices.filter (reportedByLoop probe.self.skipped)).map
          Message.neverInvoked)) := by
  induction indices generalizing probe with
  | nil =>
      simp [terminateLoop]
  | cons k rest inductionHypothesis =>
      rw [terminateLoop, Throwing.bind_of_ok (Throwing.get_run probe)]
      cases reported : reportedByLoop probe.self.skipped k with
      | false =>
          rw [List.filter_cons_of_neg (by simp [reported])] at tolerated ⊢
          rw [← inductionHypothesis tolerated]
          have untested := reported
          rw [reportedByLoop] at untested
          simp [untested]
      | true =>
          rw [List.filter_cons_of_pos reported, List.map_cons]
            at tolerated ⊢
          have collecting : probe.self.notifyEagerly = false := by
            rcases tolerated with collecting | impossible
            · exact collecting
            · cases impossible
          let recorded := record probe [.neverInvoked k]
          have stillTolerated :
              Tolerates recorded
                ((rest.filter (reportedByLoop recorded.self.skipped)).map
                  Message.neverInvoked) :=
            Or.inl collecting
          have continued := inductionHypothesis stillTolerated
          have tested := reported
          rw [reportedByLoop] at tested
          simp only [tested, if_true]
          rw [Throwing.bind_of_ok
            (notifyError_collecting collecting (.neverInvoked k))]
          rw [continued, record_record]
          rfl

theorem checkNeverInvoked_tolerated
    {probe : Probe}
    (tolerated : Tolerates probe (neverInvokedMessages probe.self)) :
    checkNeverInvoked probe =
      (.ok (), record probe (neverInvokedMessages probe.self)) := by
  rw [checkNeverInvoked, Throwing.bind_of_ok (Throwing.get_run probe)]
  unfold neverInvokedMessages at tolerated ⊢
  split
  · rename_i passes
    rw [if_pos passes] at tolerated
    exact terminateLoop_tolerated tolerated
  · simp

theorem checkTermination_eq_reportAll (probe : Probe) :
    checkTermination probe =
      reportAll (terminationMessages probe.self) probe := by
  rw [checkTermination, Throwing.bind_of_ok (Throwing.get_run probe),
    terminationMessages]
  split <;> simp

/-- A tolerated `Terminate` returns what was recorded, followed by the
messages of its final checks. -/
theorem terminate_tolerated
    {probe : Probe}
    (tolerated : Tolerates probe (terminateMessages probe.self)) :
    terminate probe =
      (.ok (probe.self.errors ++ terminateMessages probe.self),
        record probe (terminateMessages probe.self)) := by
  have parts :
      Tolerates probe (neverInvokedMessages probe.self) ∧
        Tolerates probe (terminationMessages probe.self) := by
    rcases tolerated with collecting | silent
    · exact ⟨Or.inl collecting, Or.inl collecting⟩
    · rw [terminateMessages, List.append_eq_nil_iff] at silent
      exact ⟨Or.inr silent.1, Or.inr silent.2⟩
  let visited := record probe (neverInvokedMessages probe.self)
  have lastTolerated :
      Tolerates visited (terminationMessages visited.self) :=
    parts.2
  have judged :
      checkTermination visited =
        (.ok (), record visited (terminationMessages probe.self)) :=
    (checkTermination_eq_reportAll visited).trans
      (reportAll_tolerated lastTolerated)
  rw [terminate,
    Throwing.bind_of_ok (checkNeverInvoked_tolerated parts.1),
    Throwing.bind_of_ok judged]
  simp [visited, record, terminateMessages]

end ProtocolChecker

/-! ## Steps of a session -/

open ProtocolChecker

variable {T : Type}

def Unthrown (outputs : List (SessionOutput T)) : Prop :=
  ∀ err, SessionOutput.thrown err ∉ outputs

theorem Unthrown.of_append
    {early late : List (SessionOutput T)}
    (unthrown : Unthrown (early ++ late)) :
    Unthrown early ∧ Unthrown late := by
  constructor
  · intro err member
    exact unthrown err (List.mem_append_left late member)
  · intro err member
    exact unthrown err (List.mem_append_right early member)

theorem step_request_tolerated
    {probe : Probe} {abort : Abort} (isNull : Bool)
    (tolerated : Tolerates probe (requestMessages probe.self abort)) :
    (sessionMachine (T := T)).step probe (.request abort isNull) =
      some (afterRequest probe abort isNull,
        [.toSource (passedAbort probe.self abort isNull)]) := by
  simp [sessionMachine, CheckerM.emit, request_tolerated isNull tolerated]

theorem step_answer_tolerated
    {probe : Probe} {position : Nat} {callback : WrappedCallback}
    {done : Done} (value : T)
    (issued : probe.callbacks[position]? = some (some callback))
    (tolerated :
      Tolerates probe (answerMessages probe.self callback done)) :
    sessionMachine.step probe (.answer position done value) =
      some (afterAnswer probe position callback done,
        [.toConsumer position (passedDone probe.self done) value]) := by
  simp [sessionMachine, CheckerM.emit, issued,
    wrappedCallback_tolerated tolerated]

theorem step_answer_noop
    {probe : Probe} {position : Nat} (done : Done) (value : T)
    (issued : probe.callbacks[position]? = some none) :
    sessionMachine.step probe (.answer position done value) =
      some (probe, []) := by
  simp [sessionMachine, issued]

/-- Everything a request that does not throw can do. -/
theorem step_request_cases
    {probe next : Probe} {abort : Abort} {isNull : Bool}
    {emitted : List (SessionOutput T)}
    (stepped :
      sessionMachine.step probe (.request abort isNull) =
        some (next, emitted))
    (unthrown : Unthrown emitted) :
    Tolerates probe (requestMessages probe.self abort) ∧
      next = afterRequest probe abort isNull ∧
      emitted = [.toSource (passedAbort probe.self abort isNull)] := by
  have tolerated :
      Tolerates probe (requestMessages probe.self abort) := by
    cases mode : probe.self.notifyEagerly with
    | false =>
        exact Or.inl mode
    | true =>
        cases reported : requestMessages probe.self abort with
        | nil =>
            exact Or.inr rfl
        | cons err rest =>
            have thrown := request_eager isNull mode reported
            simp only [sessionMachine, CheckerM.emit, thrown,
              Option.some.injEq, Prod.mk.injEq] at stepped
            rw [← stepped.2] at unthrown
            exact absurd List.mem_cons_self (unthrown err)
  rw [step_request_tolerated isNull tolerated] at stepped
  cases stepped
  exact ⟨tolerated, rfl, rfl⟩

/-- Everything an answer that does not throw can do. -/
theorem step_answer_cases
    {probe next : Probe} {position : Nat} {done : Done} {value : T}
    {emitted : List (SessionOutput T)}
    (stepped :
      sessionMachine.step probe (.answer position done value) =
        some (next, emitted))
    (unthrown : Unthrown emitted) :
    (probe.callbacks[position]? = some none ∧
        next = probe ∧ emitted = []) ∨
      ∃ callback,
        probe.callbacks[position]? = some (some callback) ∧
          Tolerates probe (answerMessages probe.self callback done) ∧
          next = afterAnswer probe position callback done ∧
          emitted =
            [.toConsumer position (passedDone probe.self done) value] := by
  cases issued : probe.callbacks[position]? with
  | none =>
      simp [sessionMachine, issued] at stepped
  | some handed =>
      cases handed with
      | none =>
          rw [step_answer_noop done value issued] at stepped
          cases stepped
          exact Or.inl ⟨rfl, rfl, rfl⟩
      | some callback =>
          have tolerated :
              Tolerates probe
                (answerMessages probe.self callback done) := by
            cases mode : probe.self.notifyEagerly with
            | false =>
                exact Or.inl mode
            | true =>
                cases reported :
                    answerMessages probe.self callback done with
                | nil =>
                    exact Or.inr rfl
                | cons err rest =>
                    obtain ⟨target, thrown⟩ :=
                      wrappedCallback_eager position mode reported
                    simp only [sessionMachine, issued, CheckerM.emit, thrown,
                      Option.some.injEq, Prod.mk.injEq] at stepped
                    rw [← stepped.2] at unthrown
                    exact absurd List.mem_cons_self (unthrown err)
          rw [step_answer_tolerated value issued tolerated] at stepped
          cases stepped
          exact Or.inr ⟨callback, rfl, tolerated, rfl, rfl⟩

end DkPull.PullStream
