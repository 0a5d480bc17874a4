import DkPull.Reactive.Throwing
import DkPull.Types.EndOrError

/-!
# Requests to a source

A consumer requests values from a source and passes a callback to it.  More
requests may be made from inside a callback, before the request it belongs to
returns.  This module runs any finite pattern of such requests against the
code of a source and keeps a trace of what happens.
-/

namespace DkPull.PullStream.Sources

open DkPull.Types
open DkPull.Reactive

/-- A request begins, its callback is invoked, and it returns.  Requests are
numbered in the order in which they begin. -/
inductive RequestEvent (T : Type) where
  | asked (abort : Abort) (isNull : Bool)
  | answered (number : Nat) (done : Done) (value : T)
  | returned (number : Nat)
  deriving DecidableEq, Repr

/-- A source together with the trace of all requests made so far. -/
structure Exchange (State T : Type) where
  self : State
  trace : List (RequestEvent T)

/-- An empty `std::function` throws when it is called. -/
inductive BadFunctionCall where
  | badFunctionCall
  deriving DecidableEq, Repr

abbrev SourceM (State T : Type) :=
  Throwing BadFunctionCall (Exchange State T)

/-- `SourceCallback`, unless it is null. -/
abbrev SourceCallback (State T : Type) :=
  Done → T → SourceM State T PUnit

/-- `Source`.  A null callback is `none`. -/
abbrev Source (State T : Type) :=
  Abort → Option (SourceCallback State T) → SourceM State T PUnit

/-- Requests made one after the other, through functions that were obtained
from the same source and are known by a `handle`.  The callback of a request
makes more requests in its turn; `silent` requests have a null callback. -/
inductive Requests (T : Type) where
  | nil
  | silent (handle : Nat) (abort : Abort) (rest : Requests T)
  | request (handle : Nat) (abort : Abort)
      (callback : Done → T → Requests T) (rest : Requests T)

/-- The requests of a trace, in the order in which they begin. -/
def asks {T : Type} (trace : List (RequestEvent T)) :
    List (Abort × Bool) :=
  trace.filterMap fun
    | .asked abort isNull => some (abort, isNull)
    | _ => none

def nonAborts (requests : List (Abort × Bool)) : Nat :=
  requests.countP fun request => !request.1.toBool

def answersOf {T : Type} (number : Nat) (trace : List (RequestEvent T)) :
    List (Done × T) :=
  trace.filterMap fun
    | .answered other done value =>
        if other = number then some (done, value) else none
    | _ => none

variable {State T : Type}

def record (event : RequestEvent T) : SourceM State T PUnit :=
  modify fun exchange =>
    { exchange with trace := exchange.trace ++ [event] }

def assignSelf (self : State) : SourceM State T PUnit :=
  modify fun exchange => { exchange with self := self }

def ask (abort : Abort) (isNull : Bool) : SourceM State T Nat := do
  let number := (asks (← get).trace).length
  record (.asked abort isNull)
  return number

def Requests.perform (sources : Nat → Source State T) :
    Requests T → SourceM State T PUnit
  | nil => pure ⟨⟩
  | silent handle abort rest => do
      let number ← ask abort true
      sources handle abort none
      record (.returned number)
      rest.perform sources
  | request handle abort callback rest => do
      let number ← ask abort false
      let cb : SourceCallback State T := fun done value => do
        record (.answered number done value)
        (callback done value).perform sources
      sources handle abort (some cb)
      record (.returned number)
      rest.perform sources

/-- A source that returns from a request without a callback leaves the rest to
the requests that follow. -/
theorem Requests.perform_silent
    {sources : Nat → Source State T} {handle : Nat} {abort : Abort}
    {self next : State}
    (returns :
      ∀ trace,
        sources handle abort none ⟨self, trace⟩ =
          (.ok ⟨⟩, ⟨next, trace⟩))
    (rest : Requests T) (trace : List (RequestEvent T)) :
    (Requests.silent handle abort rest).perform sources ⟨self, trace⟩ =
      rest.perform sources
        ⟨next,
          trace ++ [.asked abort true, .returned (asks trace).length]⟩ := by
  simp [Requests.perform, ask, record, returns]

/-- A source that answers a request by invoking the callback leaves the rest to
the callback and to the requests that follow. -/
theorem Requests.perform_request
    {sources : Nat → Source State T} {handle : Nat} {abort : Abort}
    {done : Done} {value : T} {self next : State}
    (answers :
      ∀ cb trace,
        sources handle abort (some cb) ⟨self, trace⟩ =
          cb done value ⟨next, trace⟩)
    (callback : Done → T → Requests T) (rest : Requests T)
    (trace : List (RequestEvent T)) :
    (Requests.request handle abort callback rest).perform sources
        ⟨self, trace⟩ =
      ((callback done value).perform sources >>= fun _ =>
          record (.returned (asks trace).length) >>= fun _ =>
            rest.perform sources)
        ⟨next,
          trace ++
            [.asked abort false,
              .answered (asks trace).length done value]⟩ := by
  simp [Requests.perform, ask, record, answers]

/-! ## Sources that hand out a sequence -/

/-- The answer of a source to a request, and its next state.  `take` removes
the next value if there is one. -/
def reply [Inhabited T] (take : State → Option (T × State))
    (self : State) (abort : Abort) : (Done × T) × State :=
  if abort.toBool then ((abort, default), self)
  else
    match take self with
    | none => ((EndOrError.TRUE, default), self)
    | some (value, next) => ((EndOrError.FALSE, value), next)

theorem reply_of_abort [Inhabited T]
    (take : State → Option (T × State)) (self : State) {abort : Abort}
    (aborts : abort.toBool = true) :
    reply take self abort = ((abort, default), self) :=
  if_pos aborts

/-- A source answers as `reply` says: it changes its state first and invokes
the callback, if there is one, in its last statement. -/
def Replies [Inhabited T] (take : State → Option (T × State))
    (source : Source State T) : Prop :=
  ∀ abort cb exchange,
    source abort cb exchange =
      match cb with
      | none =>
          (.ok ⟨⟩,
            { exchange with self := (reply take exchange.self abort).2 })
      | some cb =>
          cb (reply take exchange.self abort).1.1
            (reply take exchange.self abort).1.2
            { exchange with self := (reply take exchange.self abort).2 }

private theorem Replies.silent [Inhabited T]
    {take : State → Option (T × State)} {source : Source State T}
    (replies : Replies take source) (abort : Abort)
    (exchange : Exchange State T) :
    source abort none exchange =
      (.ok ⟨⟩,
        { exchange with self := (reply take exchange.self abort).2 }) :=
  replies abort none exchange

theorem Replies.request [Inhabited T]
    {take : State → Option (T × State)} {source : Source State T}
    (replies : Replies take source) (abort : Abort)
    (cb : SourceCallback State T) (exchange : Exchange State T) :
    source abort (some cb) exchange =
      cb (reply take exchange.self abort).1.1
        (reply take exchange.self abort).1.2
        { exchange with self := (reply take exchange.self abort).2 } :=
  replies abort (some cb) exchange

def stateAfter [Inhabited T] (take : State → Option (T × State))
    (self : State) (requests : List (Abort × Bool)) : State :=
  requests.foldl (fun self request => (reply take self request.1).2) self

theorem nonAborts_cons
    (request : Abort × Bool) (rest : List (Abort × Bool)) :
    nonAborts (request :: rest) = nonAborts [request] + nonAborts rest :=
  @List.countP_append _ _ [request] rest

@[simp]
theorem nonAborts_append (early late : List (Abort × Bool)) :
    nonAborts (early ++ late) = nonAborts early + nonAborts late :=
  List.countP_append

theorem stateAfter_cons [Inhabited T]
    (take : State → Option (T × State)) (self : State)
    (request : Abort × Bool) (rest : List (Abort × Bool)) :
    stateAfter take self (request :: rest) =
      stateAfter take (reply take self request.1).2 rest :=
  rfl

theorem stateAfter_append [Inhabited T]
    (take : State → Option (T × State)) (self : State)
    (early late : List (Abort × Bool)) :
    stateAfter take self (early ++ late) =
      stateAfter take (stateAfter take self early) late :=
  List.foldl_append

@[simp]
theorem asks_append (early late : List (RequestEvent T)) :
    asks (early ++ late) = asks early ++ asks late :=
  List.filterMap_append

@[simp]
theorem answersOf_append
    (number : Nat) (early late : List (RequestEvent T)) :
    answersOf number (early ++ late) =
      answersOf number early ++ answersOf number late :=
  List.filterMap_append

@[simp]
theorem asks_nil : asks ([] : List (RequestEvent T)) = [] :=
  rfl

@[simp]
theorem asks_asked
    (abort : Abort) (isNull : Bool) (later : List (RequestEvent T)) :
    asks (.asked abort isNull :: later) = (abort, isNull) :: asks later :=
  rfl

@[simp]
theorem asks_answered
    (number : Nat) (done : Done) (value : T)
    (later : List (RequestEvent T)) :
    asks (.answered number done value :: later) = asks later :=
  rfl

@[simp]
theorem asks_returned
    (number : Nat) (later : List (RequestEvent T)) :
    asks (.returned number :: later) = asks later :=
  rfl

@[simp]
theorem answersOf_nil (number : Nat) :
    answersOf number ([] : List (RequestEvent T)) = [] :=
  rfl

@[simp]
theorem answersOf_asked
    (number : Nat) (abort : Abort) (isNull : Bool)
    (later : List (RequestEvent T)) :
    answersOf number (.asked abort isNull :: later) =
      answersOf number later :=
  rfl

theorem answersOf_answered
    (number other : Nat) (done : Done) (value : T)
    (later : List (RequestEvent T)) :
    answersOf number (.answered other done value :: later) =
      if other = number then (done, value) :: answersOf number later
      else answersOf number later := by
  unfold answersOf
  rw [List.filterMap_cons]
  split <;> simp_all

@[simp]
theorem answersOf_returned
    (number other : Nat) (later : List (RequestEvent T)) :
    answersOf number (.returned other :: later) = answersOf number later :=
  rfl

/-! ## The trace of requests -/

/-- The traces of requests to a source in a given state, the first of which has
the given number, together with the next state: every request is answered at
once, unless its callback is null, and returns behind the requests that its
callback makes. -/
inductive Served [Inhabited T] (take : State → Option (T × State)) :
    Nat → State → List (RequestEvent T) → State → Prop
  | nil (number : Nat) (self : State) : Served take number self [] self
  | silent {number : Nat} {self target : State} {abort : Abort}
      {later : List (RequestEvent T)}
      (rest :
        Served take (number + 1) (reply take self abort).2 later target) :
      Served take number self
        (.asked abort true :: .returned number :: later) target
  | request {number : Nat} {self middle target : State} {abort : Abort}
      {inner later : List (RequestEvent T)}
      (nested :
        Served take (number + 1) (reply take self abort).2 inner middle)
      (rest :
        Served take (number + 1 + (asks inner).length) middle later
          target) :
      Served take number self
        (.asked abort false ::
          .answered number (reply take self abort).1.1
            (reply take self abort).1.2 ::
          (inner ++ .returned number :: later))
        target

/-- The trace says nothing of a request. -/
def Absent (number : Nat) (trace : List (RequestEvent T)) : Prop :=
  answersOf number trace = [] ∧ .returned number ∉ trace

@[simp]
theorem absent_append_iff
    (number : Nat) (early late : List (RequestEvent T)) :
    Absent number (early ++ late) ↔
      Absent number early ∧ Absent number late := by
  unfold Absent
  rw [answersOf_append, List.append_eq_nil_iff, List.mem_append, not_or]
  exact and_and_and_comm

@[simp]
theorem absent_asked_iff
    (number : Nat) (abort : Abort) (isNull : Bool)
    (later : List (RequestEvent T)) :
    Absent number (.asked abort isNull :: later) ↔
      Absent number later := by
  simp [Absent]

@[simp]
theorem absent_answered_iff
    (number other : Nat) (done : Done) (value : T)
    (later : List (RequestEvent T)) :
    Absent number (.answered other done value :: later) ↔
      other ≠ number ∧ Absent number later := by
  unfold Absent
  rw [answersOf_answered]
  by_cases same : other = number
  · simp [same]
  · simp [same]

@[simp]
theorem absent_returned_iff
    (number other : Nat) (later : List (RequestEvent T)) :
    Absent number (.returned other :: later) ↔
      other ≠ number ∧ Absent number later := by
  unfold Absent
  rw [answersOf_returned, List.mem_cons, not_or,
    RequestEvent.returned.injEq, ← and_assoc, ← and_assoc,
    and_comm (a := answersOf number later = []), ne_comm]

/-- Behind `after`, which follows on the beginning of a request, the request
has returned once and for all. -/
def ReturnsOnce (number : Nat) (after : List (RequestEvent T)) : Prop :=
  ∃ inside outside,
    after = inside ++ .returned number :: outside ∧
      .returned number ∉ inside ∧ Absent number outside

private theorem ReturnsOnce.append
    {number : Nat} {after later : List (RequestEvent T)}
    (returns : ReturnsOnce number after) (absent : Absent number later) :
    ReturnsOnce number (after ++ later) := by
  obtain ⟨inside, outside, rfl, notInside, notOutside⟩ := returns
  refine
    ⟨inside, outside ++ later, by simp, notInside, ?_⟩
  exact (absent_append_iff number outside later).mpr ⟨notOutside, absent⟩

theorem exists_asked_of_asks_eq
    {trace : List (RequestEvent T)} {before after : List (Abort × Bool)}
    {abort : Abort} {isNull : Bool}
    (shape : asks trace = before ++ (abort, isNull) :: after) :
    ∃ early late,
      trace = early ++ .asked abort isNull :: late ∧
        asks early = before := by
  obtain ⟨early, rest, rfl, isBefore, found⟩ :=
    List.filterMap_eq_append_iff.mp shape
  obtain ⟨middle, event, late, rfl, none, isEvent, -⟩ :=
    List.filterMap_eq_cons_iff.mp found
  refine ⟨early ++ middle, late, ?_, ?_⟩
  · cases event with
    | asked abort' isNull' =>
        cases isEvent
        simp
    | _ => cases isEvent
  · have nothing : asks middle = [] :=
      List.filterMap_eq_nil_iff.mpr none
    rw [asks_append, nothing, List.append_nil]
    exact isBefore

variable [Inhabited T] {take : State → Option (T × State)}
  {sources : Nat → Source State T}

/-- Requests to functions of the same source are served, and none of them
throws. -/
theorem Requests.perform_served
    (replies : ∀ handle, Replies take (sources handle))
    (requests : Requests T) (exchange : Exchange State T) :
    ∃ trace target,
      requests.perform sources exchange =
          (.ok ⟨⟩, ⟨target, exchange.trace ++ trace⟩) ∧
        Served take (asks exchange.trace).length exchange.self trace
          target := by
  obtain ⟨self, trace⟩ := exchange
  induction requests generalizing self trace with
  | nil =>
      refine ⟨[], self, ?_, .nil _ _⟩
      rw [List.append_nil]
      rfl
  | silent handle abort rest restHypothesis =>
      obtain ⟨later, target, performed, served⟩ :=
        restHypothesis (reply take self abort).2
          (trace ++ [.asked abort true, .returned (asks trace).length])
      have behind :
          Served take ((asks trace).length + 1) (reply take self abort).2
            later target := by
        simpa using served
      refine ⟨_, target, ?_, .silent behind⟩
      have returns :
          ∀ trace,
            sources handle abort none ⟨self, trace⟩ =
              (.ok ⟨⟩, ⟨(reply take self abort).2, trace⟩) :=
        fun trace => (replies handle).silent abort ⟨self, trace⟩
      rw [perform_silent returns, performed, List.append_assoc]
      rfl
  | request handle abort callback rest callbackHypothesis restHypothesis =>
      let answer := (reply take self abort).1
      let events : List (RequestEvent T) :=
        [.asked abort false,
          .answered (asks trace).length answer.1 answer.2]
      obtain ⟨inner, middle, answered, nested⟩ :=
        callbackHypothesis answer.1 answer.2 (reply take self abort).2
          (trace ++ events)
      obtain ⟨later, target, performed, served⟩ :=
        restHypothesis middle
          (trace ++ events ++ inner ++ [.returned (asks trace).length])
      have inside :
          Served take ((asks trace).length + 1) (reply take self abort).2
            inner middle := by
        simpa [events] using nested
      have behind :
          Served take ((asks trace).length + 1 + (asks inner).length)
            middle later target := by
        simpa [events, Nat.add_assoc, Nat.add_comm, Nat.add_left_comm]
          using served
      refine ⟨_, target, ?_, .request inside behind⟩
      have answers :
          ∀ cb trace,
            sources handle abort (some cb) ⟨self, trace⟩ =
              cb answer.1 answer.2 ⟨(reply take self abort).2, trace⟩ :=
        fun cb trace => (replies handle).request abort cb ⟨self, trace⟩
      rw [perform_request answers, Throwing.bind_of_ok answered]
      refine performed.trans ?_
      simp [events, answer]

variable {number : Nat} {self target : State}
  {trace : List (RequestEvent T)}

/-- The state changes in the order in which the requests begin. -/
theorem Served.target_eq
    (served : Served take number self trace target) :
    target = stateAfter take self (asks trace) := by
  induction served with
  | nil => rfl
  | silent _ inductionHypothesis => exact inductionHypothesis
  | request _ _ nestedHypothesis restHypothesis =>
      rw [restHypothesis, nestedHypothesis]
      simp [stateAfter]

private theorem Served.absent
    (served : Served take number self trace target) {other : Nat}
    (outOfRange :
      other < number ∨ number + (asks trace).length ≤ other) :
    Absent other trace := by
  induction served with
  | nil => exact ⟨rfl, List.not_mem_nil⟩
  | silent _ inductionHypothesis =>
      simp only [asks_asked, asks_returned, List.length_cons]
        at outOfRange
      rw [absent_asked_iff, absent_returned_iff]
      exact ⟨by omega, inductionHypothesis (by omega)⟩
  | request _ _ nestedHypothesis restHypothesis =>
      simp only [asks_asked, asks_answered, asks_returned, asks_append,
        List.length_cons, List.length_append] at outOfRange
      rw [absent_asked_iff, absent_answered_iff, absent_append_iff,
        absent_returned_iff]
      exact
        ⟨by omega, nestedHypothesis (by omega), by omega,
          restHypothesis (by omega)⟩

/-- A request with a callback gets one answer, one without gets none, and
either returns once, behind its answer. -/
theorem Served.asked
    (served : Served take number self trace target)
    {before after : List (RequestEvent T)} {abort : Abort}
    {isNull : Bool}
    (shape : trace = before ++ .asked abort isNull :: after) :
    answersOf (number + (asks before).length) trace =
        (if isNull then []
        else
          [(reply take (stateAfter take self (asks before)) abort).1]) ∧
      ReturnsOnce (number + (asks before).length) after := by
  induction served generalizing before after with
  | nil =>
      rw [List.nil_eq, List.append_eq_nil_iff] at shape
      cases shape.2
  | silent rest inductionHypothesis =>
      rename_i number self target first later
      rcases before with _ | ⟨_, _ | ⟨_, before⟩⟩
      · cases shape
        have absent := rest.absent (.inl (Nat.lt_succ_self number))
        exact
          ⟨absent.1, [], later, rfl, List.not_mem_nil, absent⟩
      · cases shape
      · cases shape
        have found := inductionHypothesis rfl
        simp only [asks_asked, asks_returned, List.length_cons,
          answersOf_asked, answersOf_returned]
        rw [Nat.add_comm (asks before).length, ← Nat.add_assoc]
        exact found
  | request nested rest nestedHypothesis restHypothesis =>
      rename_i number self middle target first inner later
      rcases before with _ | ⟨_, _ | ⟨_, before⟩⟩
      · cases shape
        have insideAbsent := nested.absent (.inl (Nat.lt_succ_self number))
        have outsideAbsent :=
          rest.absent (.inl (Nat.lt_of_lt_of_le (Nat.lt_succ_self number)
            (Nat.le_add_right _ _)))
        constructor
        · simp [answersOf_answered, insideAbsent.1, outsideAbsent.1,
            stateAfter]
        · refine ⟨_ :: inner, later, rfl, ?_, outsideAbsent⟩
          simpa using insideAbsent.2
      · cases shape
      · simp only [List.cons_append, List.cons.injEq] at shape
        obtain ⟨rfl, rfl, shape⟩ := shape
        rcases List.append_eq_append_iff.mp shape with
          ⟨_ | ⟨_, behind⟩, rfl, tail⟩ | ⟨_ | ⟨_, inside⟩, rfl, tail⟩
        · cases tail
        · -- The request begins behind the first one.
          cases tail
          obtain ⟨answers, returns⟩ := restHypothesis rfl
          have index :
              number + ((first, false) :: (asks inner ++ asks behind)).length =
                number + 1 + (asks inner).length +
                  (asks behind).length := by
            rw [List.length_cons, List.length_append]
            omega
          have notInner :
              Absent
                (number + 1 + (asks inner).length + (asks behind).length)
                inner :=
            nested.absent (.inr (by omega))
          rw [asks_asked, asks_answered, asks_append, asks_returned, index,
            stateAfter_cons, stateAfter_append, ← nested.target_eq]
          refine ⟨?_, returns⟩
          rw [answersOf_asked, answersOf_answered, if_neg (by omega),
            answersOf_append, notInner.1, answersOf_returned]
          exact answers
        · cases tail
        · -- The request is made by the callback of the first one.
          cases tail
          obtain ⟨answers, returns⟩ := nestedHypothesis rfl
          have index :
              number + ((first, false) :: asks before).length =
                number + 1 + (asks before).length := by
            rw [List.length_cons]
            omega
          have notLater :
              Absent (number + 1 + (asks before).length)
                (.returned number :: later) := by
            rw [absent_returned_iff]
            refine ⟨by omega, rest.absent (.inl ?_)⟩
            simp
          rw [asks_asked, asks_answered, index, stateAfter_cons]
          refine ⟨?_, returns.append notLater⟩
          rw [answersOf_asked, answersOf_answered, if_neg (by omega),
            answersOf_append, notLater.1, List.append_nil]
          exact answers

def Requests.traceFrom
    (sources : Nat → Source State T) (initial : State)
    (requests : Requests T) : List (RequestEvent T) :=
  (requests.perform sources ⟨initial, []⟩).2.trace

theorem Requests.perform_from
    (replies : ∀ handle, Replies take (sources handle))
    (initial : State) (requests : Requests T) :
    requests.perform sources ⟨initial, []⟩ =
        (.ok ⟨⟩,
          ⟨stateAfter take initial
              (asks (requests.traceFrom sources initial)),
            requests.traceFrom sources initial⟩) ∧
      Served take 0 initial (requests.traceFrom sources initial)
        (stateAfter take initial
          (asks (requests.traceFrom sources initial))) := by
  obtain ⟨trace, target, performed, served⟩ :=
    requests.perform_served replies ⟨initial, []⟩
  have sameTrace : requests.traceFrom sources initial = trace := by
    rw [traceFrom, performed]
    rfl
  rw [sameTrace, ← served.target_eq]
  exact ⟨performed, served⟩

/-- Requests one after the other, whose callbacks make no requests. -/
def Requests.flat : List (Abort × Bool) → Requests T
  | [] => .nil
  | (abort, true) :: rest => .silent 0 abort (flat rest)
  | (abort, false) :: rest => .request 0 abort (fun _ _ => .nil) (flat rest)

theorem Requests.asks_flat
    (replies : ∀ handle, Replies take (sources handle))
    (requests : List (Abort × Bool)) (exchange : Exchange State T) :
    asks ((flat requests).perform sources exchange).2.trace =
      asks exchange.trace ++ requests := by
  induction requests generalizing exchange with
  | nil => simp [flat, perform]
  | cons request rest inductionHypothesis =>
      obtain ⟨abort, _ | _⟩ := request
      · simp [flat, perform, ask, record, (replies 0).request,
          inductionHypothesis]
      · simp [flat, perform, ask, record, (replies 0).silent,
          inductionHypothesis]

end DkPull.PullStream.Sources
