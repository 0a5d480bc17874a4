import DkPull.Looper.LooperInvariants
import DkPull.PullStream.Sinks.Drain

/-!
# A drain consumes its source

The source is described by what it replies to each request: the values in turn
and then, from the first request behind them on, the termination.  When it
replies is left open, so its answers may come inside the call of the source or
at any later time.  At every moment of such a run the calls made by the drain
are an initial part of one and the same sequence, and a complete run makes all
of them.
-/

namespace DkPull.PullStream.Sinks

open DkPull.Types
open DkPull.Reactive
open DkPull.Looper (looperMachine)

universe u

variable {T : Type} {Error State : Type u}

/-- The request and its reply, in order of the answers. -/
def replies (events : List (DrainEvent T)) : List (Nat × Done × T) :=
  events.filterMap fun
    | .answer request done value => some (request, done, value)
    | _ => none

def answeredRequests (events : List (DrainEvent T)) : List Nat :=
  (replies events).map Prod.fst

/-- The reply to a request of a source with the given values and
termination. -/
def IsReply (values : List T) (termination : Done)
    (request : Nat) (done : Done) (value : T) : Prop :=
  match values[request]? with
  | some expected => done = EndOrError.FALSE ∧ value = expected
  | none => done = termination

/-- The source answers each request at most once, its replies are the values
followed by the termination, and its calls return. -/
structure Conforms (values : List T) (termination : Done)
    (events : List (DrainEvent T)) : Prop where
  once : (answeredRequests events).Nodup
  replies :
    ∀ request done value,
      (request, done, value) ∈ replies events →
        IsReply values termination request done value
  returns : .threw ∉ events

instance [DecidableEq T] (values : List T) (termination : Done)
    (request : Nat) (done : Done) (value : T) :
    Decidable (IsReply values termination request done value) :=
  match found : values[request]? with
  | some expected =>
      decidable_of_iff (done = EndOrError.FALSE ∧ value = expected)
        (by simp [IsReply, found])
  | none =>
      decidable_of_iff (done = termination) (by simp [IsReply, found])

private theorem conforms_iff
    (values : List T) (termination : Done) (events : List (DrainEvent T)) :
    Conforms values termination events ↔
      (answeredRequests events).Nodup ∧
        (∀ reply ∈ replies events,
          IsReply values termination reply.1 reply.2.1 reply.2.2) ∧
        .threw ∉ events := by
  constructor
  · intro conforms
    exact
      ⟨conforms.once, fun reply member => conforms.replies _ _ _ member,
        conforms.returns⟩
  · rintro ⟨once, fitting, returns⟩
    exact ⟨once, fun _ _ _ member => fitting _ member, returns⟩

instance [DecidableEq T] (values : List T) (termination : Done)
    (events : List (DrainEvent T)) :
    Decidable (Conforms values termination events) :=
  decidable_of_iff _ (conforms_iff values termination events).symm

/-- Control is back outside, and every request has been answered. -/
def Complete
    (events : List (DrainEvent T)) (state : Draining State) : Prop :=
  ∃ looper,
    state.looper = some looper ∧ looper.stack = [] ∧
      ∀ request, request < looper.handles →
        request ∈ answeredRequests events

/-- The calls made while a list of values is consumed. -/
def consumption (values : List T) : List (DrainOutput T Error) :=
  values.flatMap fun value =>
    [.request EndOrError.FALSE, .onValue value]

/-- The calls made while a whole stream is consumed: one request for each value
and one for the termination, each behind the handling of the one before. -/
def wholeConsumption (values : List T) (termination : Done) :
    List (DrainOutput T Error) :=
  consumption values ++ [.request EndOrError.FALSE, .onDone termination]

def Drain.afterValues
    (drain : Drain T Error State) (initial : State) (values : List T) :
    State :=
  values.foldl (fun handlers value => (drain.onValue value handlers).2)
    initial

def Drain.afterStream
    (drain : Drain T Error State) (initial : State) (values : List T)
    (termination : Done) : State :=
  (drain.onDone termination (drain.afterValues initial values)).2

/-! ## The looper of a drain -/

def looperEvents : DrainEvent T → List Looper.LooperEvent
  | .sink => [.start]
  | .answer request done _ => if done.toBool then [] else [.next request]
  | .returned => [.returned]
  | .threw => [.threw]

/-- Every step of a drain is a run of its looper. -/
theorem looper_replays_step
    {drain : Drain T Error State} (calm : drain.NonThrowing)
    {state next : Draining State} {event : DrainEvent T}
    {emitted : List (DrainOutput T Error)}
    (stepped : (drainMachine drain).step state event = some (next, emitted)) :
    ∃ invoked,
      looperMachine.run (state.looper.getD .create) (looperEvents event) =
        some (next.looper.getD .create, invoked) := by
  cases drainStep_of_step calm stepped with
  | applied fresh =>
      rw [fresh]
      exact ⟨[.invoked 0], rfl⟩
  | ended looper active request done value made ends =>
      simp [active, looperEvents, ends]
  | continued looper follower active request done value made continues
      invoked called =>
      refine ⟨invoked, ?_⟩
      simpa [active, looperEvents, continues, Machine.run_singleton] using
        called
  | returned looper follower active invoked ended =>
      refine ⟨invoked, ?_⟩
      simpa [active, looperEvents, Machine.run_singleton] using ended
  | threw looper follower active invoked ended =>
      refine ⟨invoked, ?_⟩
      simpa [active, looperEvents, Machine.run_singleton] using ended

/-- Every run of a drain is a run of its looper. -/
theorem looper_replays
    {drain : Drain T Error State} (calm : drain.NonThrowing)
    {initial : State} {events : List (DrainEvent T)}
    {state : Draining State} {outputs : List (DrainOutput T Error)}
    (ran :
      (drainMachine drain).run (.create initial) events =
        some (state, outputs)) :
    ∃ invoked,
      looperMachine.run .create (events.flatMap looperEvents) =
        some (state.looper.getD .create, invoked) := by
  obtain ⟨invoked, looperRan, _⟩ :=
    Machine.replay (fun state => state.looper.getD .create) looperEvents
      (fun _ => True) (fun _ _ => True) trivial
      (fun _ _ _ _ _ _ => trivial)
      (fun _ _ _ _ stepped _ => by
        simpa using looper_replays_step calm stepped)
      ran (fun _ _ => trivial)
  exact ⟨invoked, looperRan⟩

/-! ## How far a drain has got -/

@[simp]
theorem answeredRequests_append (first second : List (DrainEvent T)) :
    answeredRequests (first ++ second) =
      answeredRequests first ++ answeredRequests second := by
  simp [answeredRequests, replies]

@[simp]
theorem answeredRequests_answer (request : Nat) (done : Done) (value : T) :
    answeredRequests [DrainEvent.answer request done value] = [request] :=
  rfl

@[simp]
theorem answeredRequests_sink :
    answeredRequests [(.sink : DrainEvent T)] = [] :=
  rfl

@[simp]
theorem answeredRequests_returned :
    answeredRequests [(.returned : DrainEvent T)] = [] :=
  rfl

theorem Conforms.of_append
    {values : List T} {termination : Done}
    {first second : List (DrainEvent T)}
    (conforms : Conforms values termination (first ++ second)) :
    Conforms values termination first where
  once := by
    have once := conforms.once
    rw [answeredRequests_append] at once
    exact once.of_append_left
  replies := by
    intro request done value member
    apply conforms.replies
    simpa [PullStream.Sinks.replies] using Or.inl member
  returns := fun threw => conforms.returns (List.mem_append_left _ threw)

theorem Conforms.isReply
    {values : List T} {termination : Done}
    {history : List (DrainEvent T)} {request : Nat} {done : Done}
    {value : T}
    (conforms :
      Conforms values termination
        (history ++ [.answer request done value])) :
    IsReply values termination request done value := by
  apply conforms.replies
  simp [PullStream.Sinks.replies]

theorem Conforms.read_le
    {values : List T} {termination : Done}
    {history : List (DrainEvent T)} {request read : Nat} {done : Done}
    {value : T}
    (conforms :
      Conforms values termination
        (history ++ [.answer request done value]))
    (answered : answeredRequests history = List.range read) :
    read ≤ request := by
  have once := conforms.once
  rw [answeredRequests_append, answeredRequests_answer, answered,
    List.nodup_append] at once
  by_contra smaller
  exact
    once.2.2 request (List.mem_range.mpr (Nat.lt_of_not_le smaller))
      request (List.mem_singleton_self request) rfl

private theorem consumption_append (first second : List T) :
    (consumption (first ++ second) : List (DrainOutput T Error)) =
      consumption first ++ consumption second :=
  List.flatMap_append

private theorem consumption_take_succ
    {values : List T} {read : Nat} (inRange : read < values.length) :
    (consumption (values.take (read + 1)) : List (DrainOutput T Error)) =
      consumption (values.take read) ++
        [.request EndOrError.FALSE, .onValue values[read]] := by
  rw [List.take_succ_eq_append_getElem inRange, consumption_append]
  rfl

private theorem Drain.afterValues_take_succ
    (drain : Drain T Error State) (initial : State)
    {values : List T} {read : Nat} (inRange : read < values.length) :
    drain.afterValues initial (values.take (read + 1)) =
      (drain.onValue values[read]
        (drain.afterValues initial (values.take read))).2 := by
  rw [List.take_succ_eq_append_getElem inRange, Drain.afterValues,
    List.foldl_append]
  rfl

section

variable (drain : Drain T Error State) (initial : State)
  (values : List T) (termination : Done)

/-- A drain that has read some values and no termination.  Exactly one request
is unanswered, and it has been made unless the looper has only noted it. -/
structure Reading
    (events : List (DrainEvent T)) (outputs : List (DrainOutput T Error))
    (state : Draining State) (read : Nat)
    (looper : Looper.Configuration) : Prop where
  active : state.looper = some looper
  few : read ≤ values.length
  answered : answeredRequests events = List.range read
  outstanding : looper.handles + looper.pending = read + 1
  steps : events.length + looper.stack.length = 1 + read + looper.handles
  made :
    outputs =
      consumption (values.take read) ++
        if looper.self.nextCalled then []
        else [.request EndOrError.FALSE]
  handled : state.handlers = drain.afterValues initial (values.take read)

/-- A drain that has read everything.  No request is unanswered and none will
be made. -/
structure Ended
    (events : List (DrainEvent T)) (outputs : List (DrainOutput T Error))
    (state : Draining State) (looper : Looper.Configuration) : Prop where
  active : state.looper = some looper
  answered : answeredRequests events = List.range (values.length + 1)
  all : looper.handles = values.length + 1
  uncalled : looper.self.nextCalled = false
  steps :
    events.length + looper.stack.length =
      1 + (values.length + 1) + looper.handles
  made : outputs = wholeConsumption values termination
  handled :
    state.handlers = drain.afterStream initial values termination

inductive Progress :
    List (DrainEvent T) → List (DrainOutput T Error) → Draining State →
      Prop where
  | fresh : Progress [] [] (.create initial)
  | reading {events : List (DrainEvent T)}
      {outputs : List (DrainOutput T Error)} {state : Draining State}
      (read : Nat) (looper : Looper.Configuration)
      (current : Reading drain initial values events outputs state read
        looper) :
      Progress events outputs state
  | ended {events : List (DrainEvent T)}
      {outputs : List (DrainOutput T Error)} {state : Draining State}
      (looper : Looper.Configuration)
      (current : Ended drain initial values termination events outputs state
        looper) :
      Progress events outputs state

end

variable {drain : Drain T Error State} {initial : State}
  {values : List T} {termination : Done}

/-- While a drain is reading, the return of a call of the source makes the next
request if the looper has noted it, and no other. -/
theorem Reading.returned
    {history : List (DrainEvent T)} {outputs : List (DrainOutput T Error)}
    {state : Draining State} {read : Nat}
    {looper follower : Looper.Configuration}
    {invoked : List Looper.LooperOutput}
    (current :
      Reading drain initial values history outputs state read looper)
    (stepped :
      looperMachine.step looper .returned = some (follower, invoked)) :
    Reading drain initial values (history ++ [.returned])
      (outputs ++ invoked.map requested)
      { state with looper := some follower } read follower := by
  have outstanding := current.outstanding
  have steps := current.steps
  have made := current.made
  have answered :
      answeredRequests (history ++ [.returned]) = List.range read := by
    simpa using current.answered
  unfold Looper.Configuration.pending at outstanding
  cases Looper.looperStep_iff.mp stepped with
  | startReturned rest innermost =>
      rw [innermost, List.length_cons] at steps
      exact
        { active := rfl
          few := current.few
          answered := answered
          outstanding := outstanding
          steps := by
            simp
            omega
          made := by simpa using made
          handled := current.handled }
  | repeated rest innermost called =>
      rw [innermost, List.length_cons] at steps
      rw [called] at outstanding made
      exact
        { active := rfl
          few := current.few
          answered := answered
          outstanding := by
            simpa [Looper.Configuration.pending] using outstanding
          steps := by
            simp
            omega
          made := by simp [made]
          handled := current.handled }
  | finished rest innermost uncalled =>
      rw [innermost, List.length_cons] at steps
      rw [uncalled] at outstanding made
      exact
        { active := rfl
          few := current.few
          answered := answered
          outstanding := by
            simpa [Looper.Configuration.pending] using outstanding
          steps := by
            simp
            omega
          made := by simp [made]
          handled := current.handled }

theorem Reading.only_request
    {history : List (DrainEvent T)} {outputs : List (DrainOutput T Error)}
    {state : Draining State} {read request : Nat}
    {looper : Looper.Configuration}
    (current :
      Reading drain initial values history outputs state read looper)
    (made : request < looper.handles) (unread : read ≤ request) :
    request = read ∧ looper.handles = read + 1 ∧
      looper.self.nextCalled = false := by
  have outstanding := current.outstanding
  unfold Looper.Configuration.pending at outstanding
  cases called : looper.self.nextCalled with
  | false =>
      rw [called, Bool.toNat_false] at outstanding
      exact ⟨by omega, by omega, rfl⟩
  | true =>
      rw [called, Bool.toNat_true] at outstanding
      omega

/-- While a drain is reading, a value makes the next request at once or leaves
it to the loop in progress. -/
theorem Reading.value
    {history : List (DrainEvent T)} {outputs : List (DrainOutput T Error)}
    {state : Draining State} {read : Nat}
    {looper follower : Looper.Configuration}
    {invoked : List Looper.LooperOutput}
    (current :
      Reading drain initial values history outputs state read looper)
    (inRange : read < values.length) (done : Done)
    (made : looper.handles = read + 1)
    (uncalled : looper.self.nextCalled = false)
    (called :
      looperMachine.step looper (.next read) = some (follower, invoked)) :
    Reading drain initial values
      (history ++ [.answer read done values[read]])
      (outputs ++ .onValue values[read] :: invoked.map requested)
      ⟨some follower, (drain.onValue values[read] state.handlers).2⟩
      (read + 1) follower := by
  have steps := current.steps
  have outputsBefore := current.made
  rw [uncalled, if_neg Bool.false_ne_true] at outputsBefore
  have answered :
      answeredRequests (history ++ [.answer read done values[read]]) =
        List.range (read + 1) := by
    rw [answeredRequests_append, current.answered, List.range_succ]
    rfl
  have handled :
      (drain.onValue values[read] state.handlers).2 =
        drain.afterValues initial (values.take (read + 1)) := by
    rw [drain.afterValues_take_succ initial inRange, current.handled]
  cases Looper.looperStep_iff.mp called with
  | noted _ _ looping =>
      exact
        { active := rfl
          few := inRange
          answered := answered
          outstanding := by simp [Looper.Configuration.pending, made]
          steps := by
            simp
            omega
          made := by simp [outputsBefore, consumption_take_succ inRange]
          handled := handled }
  | entered _ _ idle =>
      exact
        { active := rfl
          few := inRange
          answered := answered
          outstanding := by simp [Looper.Configuration.pending, made]
          steps := by
            simp
            omega
          made := by simp [outputsBefore, consumption_take_succ inRange]
          handled := handled }

theorem Reading.ends
    {history : List (DrainEvent T)} {outputs : List (DrainOutput T Error)}
    {state : Draining State} {looper : Looper.Configuration}
    (current :
      Reading drain initial values history outputs state values.length
        looper)
    (value : T) (made : looper.handles = values.length + 1)
    (uncalled : looper.self.nextCalled = false) :
    Ended drain initial values termination
      (history ++ [.answer values.length termination value])
      (outputs ++ [.onDone termination])
      ⟨some looper, (drain.onDone termination state.handlers).2⟩ looper := by
  have steps := current.steps
  have outputsBefore := current.made
  have handledBefore := current.handled
  rw [uncalled, if_neg Bool.false_ne_true, List.take_length] at outputsBefore
  rw [List.take_length] at handledBefore
  exact
    { active := rfl
      answered := by
        rw [answeredRequests_append, current.answered, List.range_succ]
        rfl
      all := made
      uncalled := uncalled
      steps := by
        simp
        omega
      made := by simp [outputsBefore, wholeConsumption]
      handled := by rw [handledBefore]; rfl }

/-- Behind the termination the calls of the source only return. -/
theorem Ended.returned
    {history : List (DrainEvent T)} {outputs : List (DrainOutput T Error)}
    {state : Draining State} {looper follower : Looper.Configuration}
    {invoked : List Looper.LooperOutput}
    (current :
      Ended drain initial values termination history outputs state looper)
    (stepped :
      looperMachine.step looper .returned = some (follower, invoked)) :
    Ended drain initial values termination (history ++ [.returned])
      (outputs ++ invoked.map requested)
      { state with looper := some follower } follower := by
  have steps := current.steps
  have answered :
      answeredRequests (history ++ [.returned]) =
        List.range (values.length + 1) := by
    simpa using current.answered
  cases Looper.looperStep_iff.mp stepped with
  | startReturned rest innermost =>
      rw [innermost, List.length_cons] at steps
      exact
        { active := rfl
          answered := answered
          all := current.all
          uncalled := current.uncalled
          steps := by
            simp
            omega
          made := by simpa using current.made
          handled := current.handled }
  | repeated rest innermost called =>
      rw [current.uncalled] at called
      cases called
  | finished rest innermost uncalled =>
      rw [innermost, List.length_cons] at steps
      exact
        { active := rfl
          answered := answered
          all := current.all
          uncalled := rfl
          steps := by
            simp
            omega
          made := by simpa using current.made
          handled := current.handled }

/-- Every conforming step of a drain is progress. -/
theorem Progress.step
    (calm : drain.NonThrowing) (ends : termination.toBool = true)
    {history : List (DrainEvent T)} {event : DrainEvent T}
    {outputs emitted : List (DrainOutput T Error)}
    {state next : Draining State}
    (progress :
      Progress drain initial values termination history outputs state)
    (conforms : Conforms values termination (history ++ [event]))
    (stepped : (drainMachine drain).step state event = some (next, emitted)) :
    Progress drain initial values termination (history ++ [event])
      (outputs ++ emitted) next := by
  cases progress with
  | fresh =>
      cases drainStep_of_step calm stepped with
      | applied _ =>
          refine .reading 0 Looper.Configuration.create.start.1 ?_
          exact ⟨rfl, Nat.zero_le _, rfl, rfl, rfl, rfl, rfl⟩
      | ended _ active => cases active
      | continued _ _ active => cases active
      | returned _ _ active => cases active
      | threw _ _ active => cases active
  | reading read looper current =>
      cases drainStep_of_step calm stepped with
      | applied fresh =>
          rw [current.active] at fresh
          cases fresh
      | ended _ active request done value made finished =>
          rw [current.active] at active
          cases active
          obtain ⟨rfl, handles, uncalled⟩ :=
            current.only_request made (conforms.read_le current.answered)
          have reply := conforms.isReply
          unfold IsReply at reply
          split at reply
          · rw [reply.1] at finished
            cases finished
          · rename_i beyond
            have last : request = values.length :=
              Nat.le_antisymm current.few
                (List.getElem?_eq_none_iff.mp beyond)
            subst last reply
            exact .ended looper (current.ends value handles uncalled)
      | continued _ follower active request done value made continues
          invoked called =>
          rw [current.active] at active
          cases active
          obtain ⟨rfl, handles, uncalled⟩ :=
            current.only_request made (conforms.read_le current.answered)
          have reply := conforms.isReply
          unfold IsReply at reply
          split at reply
          · rename_i expected found
            obtain ⟨inRange, same⟩ := List.getElem?_eq_some_iff.mp found
            rw [reply.2, ← same]
            exact
              .reading (request + 1) follower
                (current.value inRange done handles uncalled called)
          · rw [reply, ends] at continues
            cases continues
      | returned _ follower active invoked returned =>
          rw [current.active] at active
          cases active
          exact .reading read follower (current.returned returned)
      | threw _ follower active invoked threw =>
          exact absurd (by simp) conforms.returns
  | ended looper current =>
      have unanswerable :
          ∀ request done value,
            Conforms values termination
                (history ++ [.answer request done value]) →
              ¬ request < looper.handles := by
        intro request done value conforms made
        have unread := conforms.read_le current.answered
        rw [current.all] at made
        omega
      cases drainStep_of_step calm stepped with
      | applied fresh =>
          rw [current.active] at fresh
          cases fresh
      | ended _ active request done value made finished =>
          rw [current.active] at active
          cases active
          exact absurd made (unanswerable request done value conforms)
      | continued _ follower active request done value made continues
          invoked called =>
          rw [current.active] at active
          cases active
          exact absurd made (unanswerable request done value conforms)
      | returned _ follower active invoked returned =>
          rw [current.active] at active
          cases active
          exact .ended follower (current.returned returned)
      | threw _ follower active invoked threw =>
          exact absurd (by simp) conforms.returns

theorem progress_of_run
    (calm : drain.NonThrowing) (ends : termination.toBool = true)
    {events : List (DrainEvent T)} {outputs : List (DrainOutput T Error)}
    {state : Draining State}
    (ran :
      (drainMachine drain).run (.create initial) events =
        some (state, outputs))
    (conforms : Conforms values termination events) :
    Progress drain initial values termination events outputs state := by
  refine
    Machine.history_invariant
      (fun history outputs state =>
        Conforms values termination history →
          Progress drain initial values termination history outputs state)
      (fun _ => .fresh) ?_ ran conforms
  intro history outputs state event next emitted _ progress stepped conforms
  exact (progress conforms.of_append).step calm ends conforms stepped

private theorem wholeConsumption_split
    (values : List T) (termination : Done) (read : Nat) :
    (wholeConsumption values termination : List (DrainOutput T Error)) =
      consumption (values.take read) ++
        wholeConsumption (values.drop read) termination := by
  rw [wholeConsumption, wholeConsumption, ← List.append_assoc,
    ← consumption_append, List.take_append_drop]

private theorem request_isPrefix (values : List T) (termination : Done) :
    ([.request EndOrError.FALSE] : List (DrainOutput T Error)) <+:
      wholeConsumption values termination := by
  cases values with
  | nil => exact ⟨[.onDone termination], rfl⟩
  | cons value rest =>
      exact ⟨.onValue value :: wholeConsumption rest termination, rfl⟩

/-- What has been consumed so far is an initial part of the whole. -/
theorem Progress.isPrefix
    {events : List (DrainEvent T)} {outputs : List (DrainOutput T Error)}
    {state : Draining State}
    (progress :
      Progress drain initial values termination events outputs state) :
    outputs <+: wholeConsumption values termination := by
  cases progress with
  | fresh =>
      exact List.nil_prefix
  | reading read looper current =>
      rw [current.made, wholeConsumption_split values termination read,
        List.prefix_append_right_inj]
      split
      · exact List.nil_prefix
      · exact request_isPrefix _ termination
  | ended looper current =>
      rw [current.made]

/-- A conforming run has at most two events for each request. -/
theorem Progress.length_le
    {events : List (DrainEvent T)} {outputs : List (DrainOutput T Error)}
    {state : Draining State}
    (progress :
      Progress drain initial values termination events outputs state) :
    events.length ≤ 2 * values.length + 3 := by
  cases progress with
  | fresh =>
      exact Nat.zero_le _
  | reading read looper current =>
      have few := current.few
      have outstanding := current.outstanding
      have steps := current.steps
      omega
  | ended looper current =>
      have all := current.all
      have steps := current.steps
      omega

private theorem looper_settled
    (calm : drain.NonThrowing) {events : List (DrainEvent T)}
    {outputs : List (DrainOutput T Error)} {state : Draining State}
    (ran :
      (drainMachine drain).run (.create initial) events =
        some (state, outputs))
    (returns : .threw ∉ events) {looper : Looper.Configuration}
    (active : state.looper = some looper) (outside : looper.stack = []) :
    looper.self = ⟨false, true⟩ := by
  obtain ⟨invoked, looperRan⟩ := looper_replays calm ran
  rw [active, Option.getD_some] at looperRan
  have unthrown : .threw ∉ events.flatMap looperEvents := by
    intro member
    obtain ⟨event, occurred, translated⟩ := List.mem_flatMap.mp member
    cases event with
    | threw => exact returns occurred
    | answer request done value =>
        simp only [looperEvents] at translated
        split at translated <;> simp at translated
    | sink => simp [looperEvents] at translated
    | returned => simp [looperEvents] at translated
  exact
    (Looper.flagsFollow_of_run looperRan).idle (by simp [outside])
      (.of_unthrown unthrown)

/-- A conforming run that is complete has consumed the whole stream. -/
theorem ended_of_complete
    (calm : drain.NonThrowing) (ends : termination.toBool = true)
    {events : List (DrainEvent T)} {outputs : List (DrainOutput T Error)}
    {state : Draining State}
    (ran :
      (drainMachine drain).run (.create initial) events =
        some (state, outputs))
    (conforms : Conforms values termination events)
    (complete : Complete events state) :
    ∃ looper,
      Ended drain initial values termination events outputs state looper := by
  obtain ⟨looper, active, outside, served⟩ := complete
  cases progress_of_run calm ends ran conforms with
  | fresh =>
      cases active
  | ended looper current =>
      exact ⟨looper, current⟩
  | reading read _ current =>
      rw [current.active] at active
      cases active
      -- Nothing is noted, so the unanswered request has been made.
      have settled :=
        looper_settled calm ran conforms.returns current.active outside
      have outstanding := current.outstanding
      rw [Looper.Configuration.pending, settled, Bool.toNat_false]
        at outstanding
      have unanswered := served read (by omega)
      rw [current.answered, List.mem_range] at unanswered
      exact absurd unanswered (Nat.lt_irrefl read)

theorem Conforms.concat_silent
    {events : List (DrainEvent T)} {event : DrainEvent T}
    (conforms : Conforms values termination events)
    (silent : PullStream.Sinks.replies [event] = [])
    (returns : event ≠ .threw) :
    Conforms values termination (events ++ [event]) := by
  have same :
      PullStream.Sinks.replies (events ++ [event]) =
        PullStream.Sinks.replies events := by
    rw [PullStream.Sinks.replies, List.filterMap_append,
      ← PullStream.Sinks.replies, ← PullStream.Sinks.replies, silent,
      List.append_nil]
  constructor
  · rw [answeredRequests, same]
    exact conforms.once
  · rw [same]
    exact conforms.replies
  · rw [List.mem_append, List.mem_singleton, not_or]
    exact ⟨conforms.returns, returns.symm⟩

theorem Conforms.concat_answer
    {events : List (DrainEvent T)} {request : Nat} {done : Done} {value : T}
    (conforms : Conforms values termination events)
    (unanswered : request ∉ answeredRequests events)
    (reply : IsReply values termination request done value) :
    Conforms values termination
      (events ++ [.answer request done value]) := by
  constructor
  · rw [answeredRequests_append, answeredRequests_answer,
      List.nodup_append]
    refine ⟨conforms.once, List.nodup_singleton request, ?_⟩
    rintro earlier member last now rfl
    rw [List.mem_singleton.mp now] at member
    exact unanswered member
  · intro earlier earlierDone earlierValue member
    rw [PullStream.Sinks.replies, List.filterMap_append,
      List.mem_append] at member
    rcases member with before | now
    · exact conforms.replies _ _ _ before
    · simp only [List.filterMap_cons, List.filterMap_nil,
        List.mem_singleton] at now
      cases now
      exact reply
  · rw [List.mem_append, List.mem_singleton, not_or]
    exact ⟨conforms.returns, by simp⟩

private theorem exists_reply
    [Nonempty T] (values : List T) (termination : Done) (request : Nat) :
    ∃ done value, IsReply values termination request done value := by
  unfold IsReply
  cases found : values[request]? with
  | some expected =>
      exact ⟨EndOrError.FALSE, expected, rfl, rfl⟩
  | none =>
      obtain ⟨value⟩ := ‹Nonempty T›
      exact ⟨termination, value, rfl⟩

/-- A conforming run that is not complete goes on: the sink is applied, the
innermost call of the source returns, or the source gives the answer it
owes. -/
theorem continues_of_incomplete
    [Nonempty T] (calm : drain.NonThrowing)
    (ends : termination.toBool = true)
    {events : List (DrainEvent T)} {outputs : List (DrainOutput T Error)}
    {state : Draining State}
    (ran :
      (drainMachine drain).run (.create initial) events =
        some (state, outputs))
    (conforms : Conforms values termination events)
    (incomplete : ¬ Complete events state) :
    ∃ event next emitted,
      (drainMachine drain).step state event = some (next, emitted) ∧
        Conforms values termination (events ++ [event]) := by
  have returning :
      ∀ looper, state.looper = some looper → looper.stack ≠ [] →
        ∃ event next emitted,
          (drainMachine drain).step state event = some (next, emitted) ∧
            Conforms values termination (events ++ [event]) := by
    intro looper active inside
    obtain ⟨follower, invoked, stepped⟩ := Looper.returned_possible inside
    have resumed :
        (drainMachine drain).step state .returned =
          some ({ state with looper := some follower },
            invoked.map requested) := by
      have popped : looper.returned = some (follower, invoked) := stepped
      simp [drainMachine, active, Drain.resume, popped]
    exact
      ⟨.returned, _, _, resumed, conforms.concat_silent rfl (by simp)⟩
  cases progress_of_run calm ends ran conforms with
  | fresh =>
      exact ⟨.sink, _, _, rfl, conforms.concat_silent rfl (by simp)⟩
  | ended looper current =>
      apply returning looper current.active
      intro outside
      apply incomplete
      refine ⟨looper, current.active, outside, ?_⟩
      intro request made
      rw [current.answered, List.mem_range, ← current.all]
      exact made
  | reading read looper current =>
      by_cases outside : looper.stack = []
      · have settled :=
          looper_settled calm ran conforms.returns current.active outside
        have outstanding := current.outstanding
        rw [Looper.Configuration.pending, settled, Bool.toNat_false]
          at outstanding
        obtain ⟨done, value, reply⟩ := exists_reply values termination read
        have unanswered : read ∉ answeredRequests events := by
          rw [current.answered, List.mem_range]
          exact Nat.lt_irrefl read
        have answers :
            (drainMachine drain).step state (.answer read done value) =
              some (drain.callback done value looper state.handlers) := by
          have made : read < looper.handles := by
            omega
          simp [drainMachine, current.active, made]
        exact
          ⟨.answer read done value, _, _, answers,
            conforms.concat_answer unanswered reply⟩
      · exact returning looper current.active outside

/-- A drain consumes a stream exactly.  At every moment its calls are an
initial part of the expected ones; a run that is not complete goes on, but not
beyond two events for each request; and a complete run has made all the
expected calls, whichever answers were given inside a call of the source. -/
theorem drain_consumes_stream
    (calm : drain.NonThrowing)
    (ends : termination.toBool = true)
    {events : List (DrainEvent T)} {outputs : List (DrainOutput T Error)}
    {state : Draining State}
    (ran :
      (drainMachine drain).run (.create initial) events =
        some (state, outputs))
    (conforms : Conforms values termination events) :
    outputs <+: wholeConsumption values termination ∧
      events.length ≤ 2 * values.length + 3 ∧
      (Nonempty T → ¬ Complete events state →
        ∃ event next emitted,
          (drainMachine drain).step state event = some (next, emitted) ∧
            Conforms values termination (events ++ [event])) ∧
      (Complete events state →
        outputs = wholeConsumption values termination ∧
          state.handlers =
            drain.afterStream initial values termination) := by
  have progress := progress_of_run calm ends ran conforms
  refine
    ⟨progress.isPrefix, progress.length_le,
      fun _ => continues_of_incomplete calm ends ran conforms, ?_⟩
  intro complete
  obtain ⟨looper, current⟩ :=
    ended_of_complete calm ends ran conforms complete
  exact ⟨current.made, current.handled⟩

def countingDrain : Drain Nat Empty Nat :=
  .create (some fun _ => modify (· + 1)) none

private theorem nonThrowing_countingDrain : countingDrain.NonThrowing :=
  ⟨fun _ _ => rfl, fun _ _ => rfl⟩

/-- The value comes inside the call of the source, the end comes later. -/
theorem drain_consumes_stream_mixed :
    [.request .FALSE, .onValue 5, .request .FALSE, .onDone .TRUE] =
        (wholeConsumption [5] .TRUE : List (DrainOutput Nat Empty)) ∧
      1 = countingDrain.afterStream 0 [5] .TRUE :=
  (drain_consumes_stream nonThrowing_countingDrain rfl
    (show
      (drainMachine countingDrain).run (.create 0)
          [.sink, .answer 0 .FALSE 5, .returned, .returned,
            .answer 1 .TRUE 0] =
        some
          (⟨some ⟨⟨false, true⟩, [], 2⟩, 1⟩,
            [.request .FALSE, .onValue 5, .request .FALSE, .onDone .TRUE])
      from by decide)
    (show
      Conforms [5] EndOrError.TRUE
        [.sink, .answer 0 .FALSE 5, .returned, .returned,
          .answer 1 .TRUE 0]
      from by decide)).2.2.2
    ⟨_, rfl, rfl, by decide⟩

end DkPull.PullStream.Sinks
