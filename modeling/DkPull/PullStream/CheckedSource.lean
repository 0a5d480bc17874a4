import DkPull.PullStream.ProtocolMessages
import DkPull.PullStream.ProtocolModes
import DkPull.PullStream.Sources.Termination

/-!
# A source behind a protocol checker

A consumer makes requests to a source of the library through a checker.  Such a
source answers in its last statement, and the checker has done with the answer
when it invokes the consumer's callback.  Requests that the consumer makes from
inside its callback therefore follow on the answer, and all that happens to the
checker is one request after the other, each with its answer.

The source cannot be the first to break the protocol.
-/

namespace DkPull.PullStream

open DkPull.Types
open DkPull.Reactive
open DkPull.PullStream.Sources
open ProtocolChecker

variable {State T : Type}

structure CheckedSource (State : Type) where
  probe : Probe
  self : State

def CheckedSource.create (options : Options) (self : State) :
    CheckedSource State where
  probe := Probe.create options
  self := self

/-- The answers of a source to one request with a callback.  They are written
down by the callback. -/
def sourceAnswers (source : Source State T) (abort : Abort) (self : State) :
    List (Done × T) × State :=
  let writeDown : SourceCallback State T := fun done value =>
    Sources.record (.answered 0 done value)
  let (_, exchange) := source abort (some writeDown) ⟨self, []⟩
  (answersOf 0 exchange.trace, exchange.self)

/-- A request of the consumer, with its abort and whether its callback is
null.  The checker never passes on a null callback. -/
def checkedSourceMachine (source : Source State T) :
    Machine (CheckedSource State) (Abort × Bool) (SessionOutput T) where
  step state request :=
    match
      sessionMachine.step state.probe (.request request.1 request.2) with
    | some (probe, [.toSource passed]) =>
        let (answers, self) := sourceAnswers source passed state.self
        let events : List (SessionEvent T) :=
          answers.map fun (done, value) =>
            .answer state.probe.callbacks.length done value
        (sessionMachine.run probe events).map fun (probe, left) =>
          (⟨probe, self⟩, .toSource passed :: left)
    | some (probe, left) => some ({ state with probe }, left)
    | none => none

def SessionOutput.thrown? : SessionOutput T → Option Message
  | .thrown err => some err
  | _ => none

def thrownMessages (outputs : List (SessionOutput T)) : List Message :=
  outputs.filterMap SessionOutput.thrown?

@[simp]
theorem thrownMessages_append (early late : List (SessionOutput T)) :
    thrownMessages (early ++ late) =
      thrownMessages early ++ thrownMessages late :=
  List.filterMap_append

def Message.blamesConsumer (err : Message) : Bool :=
  err.rule ∈ ['1', '6']

def aboutRule (rule : Char) (errs : List Message) : Nat :=
  errs.countP fun err => err.rule = rule

/-- A list of reports that begins with a report about the consumer, and has one
about a value requested behind the end for each about a value returned
there. -/
structure Fair (errs : List Message) : Prop where
  rules : ∀ err ∈ errs, err.rule ∈ ['1', '5', '6']
  first : ∀ err ∈ errs.head?, err.blamesConsumer = true
  provoked : aboutRule '5' errs ≤ aboutRule '1' errs

@[simp]
theorem aboutRule_append (rule : Char) (early late : List Message) :
    aboutRule rule (early ++ late) =
      aboutRule rule early + aboutRule rule late :=
  List.countP_append

private theorem Fair.nil : Fair [] where
  rules := by simp
  first := by simp
  provoked := Nat.le_refl 0

private theorem Fair.append
    {early late : List Message} (first : Fair early) (second : Fair late) :
    Fair (early ++ late) where
  rules := by
    intro err member
    rcases List.mem_append.mp member with before | behind
    · exact first.rules err before
    · exact second.rules err behind
  first := by
    cases early with
    | nil => exact second.first
    | cons front more => exact first.first
  provoked := by
    rw [aboutRule_append, aboutRule_append]
    exact Nat.add_le_add first.provoked second.provoked

/-- A value that was asked for behind the end may be returned there. -/
theorem Fair.concat
    {errs : List Message} (fair : Fair errs)
    (spare : aboutRule '5' errs < aboutRule '1' errs) (i : UInt64) :
    Fair (errs ++ [.returnedValueAfterTermination i]) where
  rules := by
    intro err member
    rcases List.mem_append.mp member with before | now
    · exact fair.rules err before
    · rw [List.mem_singleton.mp now]
      simp [Message.rule]
  first := by
    cases errs with
    | nil => exact absurd spare (Nat.lt_irrefl 0)
    | cons front more => exact fair.first
  provoked := by
    rw [aboutRule_append, aboutRule_append]
    exact Nat.succ_le_of_lt spare

/-- The first message of a request is about the consumer, and so are all
others. -/
theorem fair_requestMessages (self : ProtocolChecker) (abort : Abort) :
    Fair (requestMessages self abort) ∧
      aboutRule '5' (requestMessages self abort) = 0 := by
  unfold requestMessages
  cases self.aborted.toBool <;>
    cases self.done.toBool <;>
      cases abort.toBool <;>
        cases self.forbidExtraRequests <;>
          exact ⟨⟨by decide, by decide, by decide⟩, by decide⟩

private theorem provoked_requestMessages
    {self : ProtocolChecker} {abort : Abort}
    (closed : (self.aborted.toBool || self.done.toBool) = true)
    (asksOn : abort.toBool = false) :
    aboutRule '1' (requestMessages self abort) = 1 := by
  unfold requestMessages
  rw [closed, asksOn]
  cases self.aborted.toBool <;>
    cases self.done.toBool <;>
      cases self.forbidExtraRequests <;> decide

/-- What a checker reports when a source answers a request at once. -/
def exchangeMessages (self : ProtocolChecker) (abort : Abort) (done : Done) :
    List Message :=
  requestMessages self abort ++
    if !done.toBool && (self.aborted.toBool || self.done.toBool) then
      [.returnedValueAfterTermination self.i]
    else []

/-- A source that confirms aborts returns a value behind the end only when it
is asked for one. -/
theorem fair_exchangeMessages
    (self : ProtocolChecker) {abort : Abort} {done : Done}
    (confirms : abort.toBool = true → done.toBool = true) :
    Fair (exchangeMessages self abort done) := by
  obtain ⟨fair, none⟩ := fair_requestMessages self abort
  unfold exchangeMessages
  split
  · rename_i returned
    rw [Bool.and_eq_true, Bool.not_eq_true'] at returned
    have asksOn : abort.toBool = false := by
      cases aborts : abort.toBool with
      | false => rfl
      | true => simp [confirms aborts] at returned
    have asked := provoked_requestMessages returned.2 asksOn
    exact fair.concat (by omega) self.i
  · rwa [List.append_nil]

/-! ## One request with its answer -/

/-- The checker has seen the given number of requests, each with its answer. -/
structure InStep (options : Options) (count : Nat) (probe : Probe) :
    Prop where
  mode : probe.self.notifyEagerly = options.notifyEagerly
  forbids : probe.self.forbidExtraRequests = options.forbidExtraRequests
  enforces :
    probe.self.enforceStreamTermination = options.enforceStreamTermination
  index : probe.self.i = callbackIndex count
  latest : probe.self.latest.toNat = count
  callbacks : probe.callbacks.length = count

theorem InStep.create (options : Options) :
    InStep options 0 (Probe.create options) where
  mode := rfl
  forbids := rfl
  enforces := rfl
  index := rfl
  latest := rfl
  callbacks := rfl

def afterExchange (probe : Probe) (abort : Abort) (done : Done) : Probe :=
  afterAnswer (afterRequest probe abort false) probe.callbacks.length
    ⟨probe.self.i, 0⟩ done

variable {options : Options} {count : Nat} {probe : Probe}

private theorem afterExchange_done
    (probe : Probe) (abort : Abort) (done : Done) :
    (afterExchange probe abort done).self.done.toBool =
      (probe.self.done.toBool || done.toBool) := by
  cases ended : probe.self.done.toBool <;>
    simp [afterExchange, afterAnswer, passedDone, afterRequest, ended]

/-- The answer to a request that has just passed is in order, and it is the
first to that request. -/
theorem InStep.answerMessages_eq
    (inStep : InStep options count probe) (bounded : count + 1 < indexLimit)
    {abort : Abort} {done : Done}
    (confirms : abort.toBool = true → done.toBool = true) :
    orderMessages probe.self.latest probe.self.i = [] ∧
      requestMessages probe.self abort ++
          answerMessages (afterRequest probe abort false).self
            ⟨probe.self.i, 0⟩ done =
        exchangeMessages probe.self abort done := by
  have ordered : orderMessages probe.self.latest probe.self.i = [] := by
    rw [inStep.index]
    exact
      (orderMessages_eq_nil_iff
        (show probe.self.latest.toNat ≤ count + 1 by
          rw [inStep.latest]
          exact Nat.le_succ count)
        (Nat.lt_succ_self count) bounded).mpr (.inl inStep.latest)
  refine ⟨ordered, ?_⟩
  have counted : countMessages ⟨probe.self.i, 0⟩ = [] := by
    simp [countMessages]
  unfold exchangeMessages answerMessages valueMessages afterRequest
  simp only [counted, ordered, List.append_nil]
  cases aborted : probe.self.aborted.toBool with
  | true => simp [aborted]
  | false =>
      cases aborts : abort.toBool with
      | false => simp [aborts]
      | true => simp [confirms aborts]

/-- Nothing is reported of an exchange unless its request is out of order. -/
theorem exchangeMessages_eq_nil_iff
    (self : ProtocolChecker) {abort : Abort} {done : Done}
    (confirms : abort.toBool = true → done.toBool = true) :
    exchangeMessages self abort done = [] ↔
      requestMessages self abort = [] := by
  constructor
  · exact fun none => (List.append_eq_nil_iff.mp none).1
  · intro none
    have provoked := (fair_exchangeMessages self confirms).provoked
    unfold exchangeMessages at provoked ⊢
    rw [none, List.nil_append] at provoked ⊢
    split
    · rename_i returned
      rw [if_pos returned] at provoked
      exact absurd provoked (Nat.not_succ_le_zero 0)
    · rfl

private theorem sourceAnswers_eq [Inhabited T]
    {take : State → Option (T × State)}
    {source : Source State T} (replies : Replies take source)
    (abort : Abort) (self : State) :
    sourceAnswers source abort self =
      ([(reply take self abort).1], (reply take self abort).2) := by
  simp [sourceAnswers, replies.request, Sources.record, answersOf_answered]

private theorem reply_confirms [Inhabited T] (take : State → Option (T × State))
    (self : State) {abort : Abort} (aborts : abort.toBool = true) :
    (reply take self abort).1.1.toBool = true := by
  rw [reply_of_abort take self aborts]
  exact aborts

/-- A request whose exchange is tolerated goes to the source and comes back
with its answer. -/
theorem InStep.exchanged [Inhabited T] {take : State → Option (T × State)}
    {source : Source State T} (replies : Replies take source)
    {state : CheckedSource State}
    (inStep : InStep options count state.probe)
    (bounded : count + 1 < indexLimit) (abort : Abort)
    (tolerated :
      Tolerates state.probe
        (exchangeMessages state.probe.self abort
          (reply take state.self abort).1.1)) :
    ∃ passed,
      (checkedSourceMachine source).step state (abort, false) =
          some
            (⟨afterExchange state.probe abort
                (reply take state.self abort).1.1,
              (reply take state.self abort).2⟩,
              [.toSource abort,
                .toConsumer count passed
                  (reply take state.self abort).1.2]) ∧
        InStep options (count + 1)
          (afterExchange state.probe abort
            (reply take state.self abort).1.1) ∧
        (afterExchange state.probe abort
              (reply take state.self abort).1.1).self.errors =
          state.probe.self.errors ++
            exchangeMessages state.probe.self abort
              (reply take state.self abort).1.1 := by
  obtain ⟨self, initial⟩ := state
  obtain ⟨ordered, split⟩ :=
    inStep.answerMessages_eq bounded
      (reply_confirms take initial)
  let asked := afterRequest self abort false
  have requestTolerated :
      Tolerates self (requestMessages self.self abort) := by
    rcases tolerated with collecting | none
    · exact .inl collecting
    · exact .inr (List.append_eq_nil_iff.mp none).1
  have answerTolerated :
      Tolerates asked
        (answerMessages asked.self ⟨self.self.i, 0⟩
          (reply take initial abort).1.1) := by
    rcases tolerated with collecting | none
    · exact .inl collecting
    · rw [← split] at none
      exact .inr (List.append_eq_nil_iff.mp none).2
  have issued :
      asked.callbacks[self.callbacks.length]? =
        some (some ⟨self.self.i, 0⟩) := by
    simp [asked, afterRequest]
  have requested := step_request_tolerated (T := T) false requestTolerated
  have answered :=
    step_answer_tolerated (reply take initial abort).1.2 issued
      answerTolerated
  have handed : passedAbort self.self abort false = abort := by
    simp [passedAbort]
  rw [handed] at requested
  refine
    ⟨passedDone asked.self (reply take initial abort).1.1, ?_, ?_, ?_⟩
  · simp only [checkedSourceMachine, requested, sourceAnswers_eq replies,
      List.map_cons, List.map_nil, Machine.run_singleton]
    change (sessionMachine.step asked _).map _ = _
    rw [answered, ← inStep.callbacks]
    rfl
  · have bound : (callbackIndex count).toNat = count + 1 :=
      toNat_callbackIndex (by omega)
    constructor
    · exact inStep.mode
    · exact inStep.forbids
    · exact inStep.enforces
    · change self.self.i + 1 = _
      rw [inStep.index, callbackIndex_succ]
    · have latestAfter :
          nextLatest self.self.latest self.self.i = self.self.i :=
        if_pos ordered
      change (nextLatest self.self.latest self.self.i).toNat = _
      rw [latestAfter, inStep.index, bound]
    · simp [afterExchange, afterAnswer, afterRequest, inStep.callbacks]
  · rw [← split]
    simp [afterExchange, afterAnswer, afterRequest]

/-- An eager checker throws at a request that is out of order, and nothing
changes. -/
theorem step_refused [Inhabited T] {take : State → Option (T × State)}
    {state : CheckedSource State} (source : Source State T)
    (abort : Abort)
    (untolerated :
      ¬ Tolerates state.probe
        (exchangeMessages state.probe.self abort
          (reply take state.self abort).1.1)) :
    ∃ err,
      err.blamesConsumer = true ∧ err.rule ≠ '5' ∧
        requestMessages state.probe.self abort ≠ [] ∧
        (checkedSourceMachine source).step state (abort, false) =
          some (state, [.thrown err]) := by
  have confirms :
      abort.toBool = true →
        (reply take state.self abort).1.1.toBool = true :=
    reply_confirms take state.self
  unfold Tolerates at untolerated
  rw [exchangeMessages_eq_nil_iff _ confirms, not_or, Bool.not_eq_false]
    at untolerated
  obtain ⟨eager, loud⟩ := untolerated
  obtain ⟨err, rest, messages⟩ := List.exists_cons_of_ne_nil loud
  obtain ⟨fair, none⟩ := fair_requestMessages state.probe.self abort
  rw [messages] at fair none
  have thrown := request_eager false eager messages
  refine ⟨err, fair.first err rfl, ?_, loud, ?_⟩
  · rw [aboutRule, List.countP_eq_zero] at none
    simpa using none err List.mem_cons_self
  · simp [checkedSourceMachine, sessionMachine, CheckerM.emit, thrown]

/-! ## Whole runs -/

/-- The source answers one of the requests with an end or an error, as it
does with every abort. -/
def ended [Inhabited T] (take : State → Option (T × State))
    (initial : State) (requests : List (Abort × Bool)) : Bool :=
  (replies take initial requests).any fun answer => answer.1.toBool

/-- The consumer makes no request for a value behind an answer that ended the
stream, and no request at all where extra requests are forbidden. -/
def ConsumerObeys [Inhabited T] (take : State → Option (T × State))
    (initial : State) (options : Options)
    (requests : List (Abort × Bool)) : Prop :=
  ∀ before request after,
    requests = before ++ request :: after →
    ended take initial before = true →
      request.1.toBool = true ∧ options.forbidExtraRequests = false

private theorem ended_concat [Inhabited T] {take : State → Option (T × State)}
    {initial : State} {history : List (Abort × Bool)}
    (isEnded : ended take initial history = true)
    (request : Abort × Bool) :
    ended take initial (history ++ [request]) = true := by
  rw [ended] at isEnded ⊢
  rw [replies_append, List.any_append, isEnded, Bool.true_or]

private theorem consumerObeys_concat_iff [Inhabited T]
    (take : State → Option (T × State)) (initial : State)
    (options : Options) (history : List (Abort × Bool))
    (request : Abort × Bool) :
    ConsumerObeys take initial options (history ++ [request]) ↔
      ConsumerObeys take initial options history ∧
        (ended take initial history = true →
          request.1.toBool = true ∧ options.forbidExtraRequests = false) :=
  @forall_moment_concat_iff _
    (fun before request =>
      ended take initial before = true →
        request.1.toBool = true ∧ options.forbidExtraRequests = false)
    history request

/-- The consumer has obeyed, and the checker has seen all of its requests. -/
structure Undisturbed [Inhabited T] (take : State → Option (T × State))
    (initial : State) (history : List (Abort × Bool))
    (state : CheckedSource State) : Prop where
  reached : state.self = stateAfter take initial history
  done : state.probe.self.done.toBool = ended take initial history
  confirmed :
    state.probe.self.aborted.toBool = true →
      state.probe.self.done.toBool = true

theorem Undisturbed.requestMessages_eq_nil_iff [Inhabited T]
    {take : State → Option (T × State)} {initial : State}
    {history : List (Abort × Bool)} {state : CheckedSource State}
    (undisturbed : Undisturbed take initial history state)
    (inStep : InStep options count state.probe) (abort : Abort) :
    requestMessages state.probe.self abort = [] ↔
      (ended take initial history = true →
        abort.toBool = true ∧ options.forbidExtraRequests = false) := by
  have confirmed := undisturbed.confirmed
  rw [← undisturbed.done, ← inStep.forbids]
  unfold requestMessages
  cases done : state.probe.self.done.toBool with
  | false =>
      have unaborted : state.probe.self.aborted.toBool = false := by
        by_contra aborted
        have alsoEnded := confirmed (by simpa using aborted)
        rw [done] at alsoEnded
        cases alsoEnded
      simp [unaborted]
  | true =>
      cases abort.toBool <;>
        cases state.probe.self.forbidExtraRequests <;> simp

/-- An exchange leaves the consumer undisturbed. -/
theorem Undisturbed.exchanged [Inhabited T]
    {take : State → Option (T × State)} {initial : State}
    {history : List (Abort × Bool)} {state : CheckedSource State}
    (undisturbed : Undisturbed take initial history state) (abort : Abort) :
    Undisturbed take initial (history ++ [(abort, false)])
      ⟨afterExchange state.probe abort (reply take state.self abort).1.1,
        (reply take state.self abort).2⟩ := by
  have confirms :
      abort.toBool = true →
        (reply take state.self abort).1.1.toBool = true :=
    reply_confirms take state.self
  have confirmed := undisturbed.confirmed
  have done :=
    afterExchange_done state.probe abort (reply take state.self abort).1.1
  constructor
  · rw [stateAfter_append, ← undisturbed.reached]
    rfl
  · have answer :
        replies take initial (history ++ [(abort, false)]) =
          replies take initial history ++
            [(reply take state.self abort).1] := by
      rw [replies_append, ← undisturbed.reached]
      rfl
    rw [ended, answer, List.any_append, done, undisturbed.done]
    simp [ended]
  · rw [done]
    intro aborted
    have either :
        state.probe.self.aborted.toBool = true ∨ abort.toBool = true := by
      cases already : state.probe.self.aborted.toBool with
      | true => exact .inl rfl
      | false =>
          refine .inr ?_
          simpa [afterExchange, afterAnswer, afterRequest, already] using
            aborted
    rcases either with already | now
    · rw [confirmed already, Bool.true_or]
    · rw [confirms now, Bool.or_true]

/-- Everything that the checker has reported. -/
def reports (outputs : List (SessionOutput T)) (state : CheckedSource State) :
    List Message :=
  thrownMessages outputs ++ state.probe.self.errors

structure Judged [Inhabited T] (take : State → Option (T × State))
    (options : Options) (initial : State) (history : List (Abort × Bool))
    (outputs : List (SessionOutput T)) (state : CheckedSource State) :
    Prop where
  inStep :
    ∃ count, count ≤ history.length ∧ InStep options count state.probe
  thrown : Fair (thrownMessages outputs)
  recorded : Fair state.probe.self.errors
  verdict :
    ConsumerObeys take initial options history ∧
        Undisturbed take initial history state ∧
        reports outputs state = [] ∨
      ¬ ConsumerObeys take initial options history ∧
        (state.probe.self.done.toBool = true ∧
          ended take initial history = true) ∧
        reports outputs state ≠ []

theorem Judged.create [Inhabited T] (take : State → Option (T × State))
    (options : Options) (initial : State) :
    Judged take options initial [] ([] : List (SessionOutput T))
      (CheckedSource.create options initial) where
  inStep := ⟨0, Nat.le_refl 0, InStep.create options⟩
  thrown := Fair.nil
  recorded := Fair.nil
  verdict := by
    refine .inl ⟨?_, ⟨rfl, rfl, id⟩, rfl⟩
    intro before request after impossible
    simp at impossible

/-- Every request is judged, whether it comes back with an answer or with an
exception. -/
theorem Judged.step [Inhabited T] {take : State → Option (T × State)}
    {source : Source State T} (answering : Replies take source)
    {initial : State} {history : List (Abort × Bool)}
    {outputs emitted : List (SessionOutput T)}
    {state next : CheckedSource State} {abort : Abort}
    (judged : Judged take options initial history outputs state)
    (few : history.length + 1 < indexLimit)
    (stepped :
      (checkedSourceMachine source).step state (abort, false) =
        some (next, emitted)) :
    Judged take options initial (history ++ [(abort, false)])
      (outputs ++ emitted) next := by
  obtain ⟨count, atMost, inStep⟩ := judged.inStep
  have confirms :
      abort.toBool = true →
        (reply take state.self abort).1.1.toBool = true :=
    reply_confirms take state.self
  have length :
      (history ++ [(abort, false)]).length = history.length + 1 := by
    simp
  by_cases tolerated :
    Tolerates state.probe
      (exchangeMessages state.probe.self abort
        (reply take state.self abort).1.1)
  · obtain ⟨passed, exchanged, after, errors⟩ :=
      inStep.exchanged answering (by omega) abort tolerated
    rw [exchanged] at stepped
    cases stepped
    have sameThrown :
        thrownMessages
            (outputs ++
              [.toSource abort,
                .toConsumer count passed
                  (reply take state.self abort).1.2]) =
          thrownMessages outputs := by
      rw [thrownMessages_append]
      exact List.append_nil _
    refine ⟨⟨count + 1, by omega, after⟩, ?_, ?_, ?_⟩
    · rw [sameThrown]
      exact judged.thrown
    · rw [errors]
      exact judged.recorded.append (fair_exchangeMessages _ confirms)
    · rw [consumerObeys_concat_iff, reports, sameThrown, errors,
        ← List.append_assoc]
      rcases judged.verdict with
        ⟨obeys, undisturbed, silent⟩ | ⟨broken, ⟨done, isEnded⟩, loud⟩
      · rw [reports] at silent
        rw [silent, List.nil_append, Ne,
          exchangeMessages_eq_nil_iff _ confirms,
          undisturbed.requestMessages_eq_nil_iff inStep abort]
        by_cases allowed :
          ended take initial history = true →
            abort.toBool = true ∧ options.forbidExtraRequests = false
        · exact
            .inl ⟨⟨obeys, allowed⟩, undisturbed.exchanged abort, allowed⟩
        · have isEnded := ended_concat (Classical.not_imp.mp allowed).1
          have done := (undisturbed.exchanged abort).done
          exact
            .inr
              ⟨fun both => allowed both.2,
                ⟨done.trans (isEnded _), isEnded _⟩, allowed⟩
      · refine
          .inr
            ⟨fun both => broken both.1, ⟨?_, ended_concat isEnded _⟩, ?_⟩
        · rw [afterExchange_done, done, Bool.true_or]
        · exact fun none => loud (List.append_eq_nil_iff.mp none).1
  · obtain ⟨err, blames, notValue, outOfOrder, thrown⟩ :=
      step_refused source abort tolerated
    rw [thrown] at stepped
    cases stepped
    have nowThrown :
        thrownMessages (outputs ++ [.thrown err]) =
          thrownMessages outputs ++ [err] := by
      rw [thrownMessages_append]
      rfl
    have fair : Fair [err] := by
      constructor
      · simp only [Message.blamesConsumer, decide_eq_true_eq,
          List.mem_cons, List.not_mem_nil, or_false] at blames
        rcases blames with rule | rule <;> simp [rule]
      · simpa using blames
      · simp [aboutRule, notValue]
    refine
      ⟨⟨count, by omega, inStep⟩, ?_, judged.recorded, .inr ⟨?_, ?_, ?_⟩⟩
    · rw [nowThrown]
      exact judged.thrown.append fair
    · rw [consumerObeys_concat_iff]
      rintro ⟨obeys, allowed⟩
      rcases judged.verdict with ⟨-, undisturbed, -⟩ | ⟨broken, -⟩
      · exact
          outOfOrder
            ((undisturbed.requestMessages_eq_nil_iff inStep abort).mpr
              allowed)
      · exact broken obeys
    · rcases judged.verdict with
        ⟨-, undisturbed, -⟩ | ⟨-, ⟨done, isEnded⟩, -⟩
      · have isEnded : ended take initial history = true := by
          by_contra goesOn
          apply outOfOrder
          rw [undisturbed.requestMessages_eq_nil_iff inStep abort]
          exact fun isEnded => absurd isEnded goesOn
        exact ⟨undisturbed.done.trans isEnded, ended_concat isEnded _⟩
      · exact ⟨done, ended_concat isEnded _⟩
    · rw [reports, nowThrown]
      simp

private theorem judged_of_run [Inhabited T] {take : State → Option (T × State)}
    {source : Source State T} (answering : Replies take source)
    {initial : State} {requests : List (Abort × Bool)}
    {state : CheckedSource State} {outputs : List (SessionOutput T)}
    (ran :
      (checkedSourceMachine source).run (.create options initial) requests =
        some (state, outputs))
    (nonNull : ∀ request ∈ requests, request.2 = false)
    (few : requests.length < indexLimit) :
    Judged take options initial requests outputs state := by
  refine
    Machine.history_invariant
      (fun history outputs state =>
        (∀ request ∈ history, request.2 = false) →
          history.length < indexLimit →
            Judged take options initial history outputs state)
      (fun _ _ => Judged.create take options initial) ?_ ran nonNull few
  rintro history outputs state ⟨abort, isNull⟩ next emitted - earlier stepped
    nonNull few
  obtain rfl : isNull = false := nonNull (abort, isNull) (by simp)
  have before :=
    earlier (fun request member => nonNull request (by simp [member]))
      (by simp at few; omega)
  exact before.step answering (by simpa using few) stepped

theorem Judged.neverInvokedMessages_eq_nil [Inhabited T]
    {take : State → Option (T × State)} {initial : State}
    {requests : List (Abort × Bool)} {outputs : List (SessionOutput T)}
    {state : CheckedSource State}
    (judged : Judged take options initial requests outputs state)
    (few : requests.length < indexLimit) :
    neverInvokedMessages state.probe.self = [] := by
  obtain ⟨count, atMost, inStep⟩ := judged.inStep
  have index : (callbackIndex count).toNat = count + 1 :=
    toNat_callbackIndex (by omega)
  have latest :=
    toNat_latest_succ
      (show state.probe.self.latest.toNat < indexLimit by
        rw [inStep.latest]
        omega)
  unfold neverInvokedMessages
  rw [if_neg]
  rw [gt_iff_lt, UInt64.lt_iff_toNat_lt, latest, inStep.latest, inStep.index,
    index]
  exact Nat.lt_irrefl _

theorem Judged.terminationMessages_eq [Inhabited T]
    {take : State → Option (T × State)} {initial : State}
    {requests : List (Abort × Bool)} {outputs : List (SessionOutput T)}
    {state : CheckedSource State}
    (judged : Judged take options initial requests outputs state) :
    terminationMessages state.probe.self =
      if options.enforceStreamTermination && !ended take initial requests then
        [.neverTerminated]
      else [] := by
  obtain ⟨count, -, inStep⟩ := judged.inStep
  rw [terminationMessages, inStep.enforces]
  rcases judged.verdict with
    ⟨-, undisturbed, -⟩ | ⟨-, ⟨done, isEnded⟩, -⟩
  · have confirmed := undisturbed.confirmed
    rw [undisturbed.done] at confirmed ⊢
    cases isEnded : ended take initial requests with
    | true => simp
    | false =>
        have unaborted : state.probe.self.aborted.toBool = false := by
          rw [← Bool.not_eq_true]
          intro aborted
          have alsoEnded := confirmed aborted
          rw [isEnded] at alsoEnded
          cases alsoEnded
        simp [unaborted]
  · simp [done, isEnded]

/-- `Terminate` has at most the missing end to report. -/
theorem Judged.terminate_eq [Inhabited T]
    {take : State → Option (T × State)} {initial : State}
    {requests : List (Abort × Bool)} {outputs : List (SessionOutput T)}
    {state : CheckedSource State}
    (judged : Judged take options initial requests outputs state)
    (few : requests.length < indexLimit) :
    (terminate state.probe).1 =
      if options.enforceStreamTermination && !ended take initial requests then
        if options.notifyEagerly then .error .neverTerminated
        else .ok (state.probe.self.errors ++ [.neverTerminated])
      else .ok state.probe.self.errors := by
  obtain ⟨count, -, inStep⟩ := judged.inStep
  have messages :
      terminateMessages state.probe.self =
        terminationMessages state.probe.self := by
    rw [terminateMessages, judged.neverInvokedMessages_eq_nil few,
      List.nil_append]
  rw [judged.terminationMessages_eq] at messages
  split at messages
  · rename_i missing
    rw [if_pos missing, ← inStep.mode]
    cases mode : state.probe.self.notifyEagerly with
    | true => rw [terminate_eager mode messages, if_pos rfl]
    | false =>
        rw [terminate_tolerated (.inl mode), messages]
        rfl
  · rename_i settled
    rw [if_neg settled, terminate_tolerated (.inr messages), messages,
      List.append_nil]

/-- A checker between a consumer and a source of the library reports something
exactly if the consumer breaks the protocol.  What it reports begins with the
consumer and blames the source only for values that the consumer has asked for
behind the end.  At the end it only misses the end of the stream, if this is
enforced and the consumer has not seen to it. -/
theorem consumer_is_to_blame [Inhabited T]
    {take : State → Option (T × State)} {source : Source State T}
    (answering : Replies take source) {initial : State}
    {requests : List (Abort × Bool)} {state : CheckedSource State}
    {outputs : List (SessionOutput T)}
    (ran :
      (checkedSourceMachine source).run (.create options initial) requests =
        some (state, outputs))
    (nonNull : ∀ request ∈ requests, request.2 = false)
    (few : requests.length < indexLimit) :
    (reports outputs state = [] ↔
        ConsumerObeys take initial options requests) ∧
      Fair (reports outputs state) ∧
      (terminate state.probe).1 =
        if options.enforceStreamTermination &&
            !ended take initial requests then
          if options.notifyEagerly then .error .neverTerminated
          else .ok (state.probe.self.errors ++ [.neverTerminated])
        else .ok state.probe.self.errors := by
  have judged := judged_of_run answering ran nonNull few
  refine
    ⟨?_, judged.thrown.append judged.recorded, judged.terminate_eq few⟩
  rcases judged.verdict with ⟨obeys, -, silent⟩ | ⟨broken, -, loud⟩
  · exact iff_of_true silent obeys
  · exact iff_of_false loud broken

private theorem aborted_values_run :
    ∃ state outputs,
      (checkedSourceMachine Values.source).run
          (.create { notifyEagerly := false } (Values.create [7]))
          [(EndOrError.TRUE, false), (EndOrError.FALSE, false)] =
        some (state, outputs) ∧
      reports outputs state =
        [.valueRequestedAfterTermination,
          .returnedValueAfterTermination 2] :=
  ⟨_, _, rfl, rfl⟩

theorem consumer_is_to_blame_aborted_values :
    Fair [.valueRequestedAfterTermination, .returnedValueAfterTermination 2] ∧
      ¬ ConsumerObeys Values.take (Values.create [7])
        { notifyEagerly := false }
        [(EndOrError.TRUE, false), (EndOrError.FALSE, false)] := by
  obtain ⟨state, outputs, ran, reported⟩ := aborted_values_run
  obtain ⟨verdict, fair, -⟩ :=
    consumer_is_to_blame Values.source_replies ran (by decide) (by decide)
  rw [reported] at verdict fair
  refine ⟨fair, ?_⟩
  rw [← verdict]
  exact List.cons_ne_nil _ _

end DkPull.PullStream
