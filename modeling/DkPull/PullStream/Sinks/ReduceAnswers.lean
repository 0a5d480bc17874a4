import DkPull.PullStream.Sinks.ReduceOwnership

/-!
# A reduce with an unruly source

A source may answer behind the end, several times or out of order.  As long as
no check fails, a `Reduce` handles one answer after the other, whatever is
nested in each other: a value goes into the accumulator, and a termination hands
the accumulator to the callback.  So a collecting sink neither loses a value
nor hands it over twice.
-/

namespace DkPull.PullStream.Sinks

open DkPull.Types
open DkPull.Reactive

variable {T Accumulator : Type}

def answersGiven (events : List (ReduceEvent T)) : List (Done × T) :=
  events.filterMap fun
    | .answer _ done value => some (done, value)
    | _ => none

@[simp]
theorem answersGiven_append (early late : List (ReduceEvent T)) :
    answersGiven (early ++ late) = answersGiven early ++ answersGiven late :=
  List.filterMap_append

/-- What the callback has got and what has been folded since. -/
structure Account (Accumulator : Type) where
  completions : List (Done × Accumulator)
  accumulator : Accumulator
  deriving DecidableEq, Repr

def Account.handle (reducer : Accumulator → T → Accumulator)
    (moved : Accumulator → Accumulator) (account : Account Accumulator)
    (answer : Done × T) : Account Accumulator :=
  if answer.1.toBool then
    { completions := account.completions ++ [(answer.1, account.accumulator)]
      accumulator := moved account.accumulator }
  else
    { account with accumulator := reducer account.accumulator answer.2 }

def Reducing.account (state : Reducing Accumulator) : Account Accumulator where
  completions := state.self.completions
  accumulator := state.self.accumulator

variable {kind : SinkKind} {reducer : Accumulator → T → Accumulator}
  {moved : Accumulator → Accumulator} {initial : Accumulator}
  {state next : Reducing Accumulator}

private theorem account_leave (isOver : Bool) (state : Reducing Accumulator) :
    (state.leave kind isOver).account = state.account := by
  unfold Reducing.leave
  split <;> rfl

private theorem account_enter (state : Reducing Accumulator) :
    (state.enter kind).account = state.account := by
  unfold Reducing.enter
  split <;> rfl

/-- Only answers change the account. -/
theorem ReduceStep.account_eq
    {event : ReduceEvent T} {emitted : List (DrainOutput T CheckFailure)}
    (stepped : ReduceStep kind reducer moved state event next emitted)
    (live : next.halted = false) :
    next.account =
      (answersGiven [event]).foldl (Account.handle reducer moved)
        state.account := by
  cases stepped with
  | handled event _ handles =>
      obtain ⟨-, accumulator, completions, -⟩ := handle_frame handles
      change (⟨_, _⟩ : Account Accumulator) = ⟨_, _⟩
      rw [accumulator, completions]
  | applied => exact account_enter state
  | refused => cases live
  | failed => cases live
  | ended _ _ _ _ _ _ _ ends =>
      simp [answersGiven, Account.handle, ends, Reducing.account,
        Reducing.self]
  | continued _ _ _ _ _ _ _ continues =>
      simp [answersGiven, Account.handle, continues, Reducing.account,
        Reducing.self]
  | returned => exact account_leave _ _
  | threw => exact account_leave _ _

/-- A `Reduce` handles the answers one after the other. -/
theorem account_of_run
    {events : List (ReduceEvent T)}
    {outputs : List (DrainOutput T CheckFailure)}
    (ran :
      (reduceMachine kind reducer moved).run (.create kind initial) events =
        some (state, outputs))
    (live : state.halted = false) :
    state.account =
      (answersGiven events).foldl (Account.handle reducer moved)
        ⟨[], initial⟩ := by
  refine
    Machine.history_invariant
      (fun history _ state =>
        state.halted = false →
          state.account =
            (answersGiven history).foldl (Account.handle reducer moved)
              ⟨[], initial⟩)
      (fun _ => rfl) ?_ ran live
  intro history outputs state event next emitted _ earlier stepped live
  obtain ⟨liveBefore, stepped⟩ := reduceStep_of_step stepped
  rw [stepped.account_eq live, earlier liveBefore, answersGiven_append,
    List.foldl_append]

def valuesGiven (answers : List (Done × T)) : List T :=
  answers.filterMap fun answer =>
    if answer.1.toBool then none else some answer.2

def Account.contents (account : Account (List T)) : List T :=
  account.completions.flatMap Prod.snd ++ account.accumulator

private theorem Account.handle_collecting
    {moved : List T → List T} (takes : ∀ vector, moved vector = [])
    (account : Account (List T)) (answers : List (Done × T)) :
    (answers.foldl (Account.handle pushBack moved) account).contents =
        account.contents ++ valuesGiven answers ∧
      (answers.foldl (Account.handle pushBack moved)
          account).completions.map Prod.fst =
        account.completions.map Prod.fst ++
          (answers.map Prod.fst).filter EndOrError.toBool := by
  induction answers generalizing account with
  | nil => simp [valuesGiven]
  | cons answer rest inductionHypothesis =>
      obtain ⟨contents, dones⟩ :=
        inductionHypothesis (account.handle pushBack moved answer)
      rw [List.foldl_cons, contents, dones]
      cases ends : answer.1.toBool with
      | true =>
          simp [Account.handle, Account.contents, valuesGiven, ends, takes]
      | false =>
          simp [Account.handle, Account.contents, valuesGiven, ends, pushBack]

/-- Whatever the source does, every value that it gives to a collecting sink is
in one of the vectors handed to the callback, or still waits for the next one;
all of them are in order.  The callback is called once for every termination
that the source gives, with this termination. -/
theorem collect_conserves
    {moved : List T → List T} (takes : ∀ vector, moved vector = [])
    {events : List (ReduceEvent T)} {state : Reducing (List T)}
    {outputs : List (DrainOutput T CheckFailure)}
    (ran :
      (makeCollect moved).run (.create .collect []) events =
        some (state, outputs))
    (live : state.halted = false) :
    state.self.completions.flatMap Prod.snd ++ state.self.accumulator =
        valuesGiven (answersGiven events) ∧
      state.self.completions.map Prod.fst =
        ((answersGiven events).map Prod.fst).filter EndOrError.toBool := by
  have account := account_of_run ran live
  obtain ⟨contents, dones⟩ :=
    Account.handle_collecting takes ⟨[], []⟩ (answersGiven events)
  rw [← account] at contents dones
  exact ⟨contents, dones⟩

private theorem endsTwice_run :
    ∃ state outputs,
      (makeCollect fun _ => []).run (.create .collect [])
            [.apply, .answer 0 .FALSE 5, .answer 1 .TRUE 0,
              .answer 0 .FALSE 7, .answer 1 .TRUE 0] =
          some (state, outputs) ∧
        state.halted = false :=
  ⟨_, _, rfl, rfl⟩

theorem collect_conserves_endsTwice :
    ∃ state outputs,
      (makeCollect fun _ => []).run (.create .collect [])
            [.apply, .answer 0 .FALSE 5, .answer 1 .TRUE 0,
              .answer 0 .FALSE 7, .answer 1 .TRUE 0] =
          some (state, outputs) ∧
        state.self.completions.flatMap Prod.snd ++ state.self.accumulator =
          [5, 7] := by
  obtain ⟨state, outputs, ran, live⟩ := endsTwice_run
  refine ⟨state, outputs, ran, ?_⟩
  exact (collect_conserves (fun _ => rfl) ran live).1

end DkPull.PullStream.Sinks
