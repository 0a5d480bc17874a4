import Mathlib.Control.Monad.Basic
import Mathlib.Tactic.Common

/-!
# Code that may throw

Imperative code that throws an exception keeps every assignment it made before
the throw.  `Throwing` is the monad of such code, and the lemmas below evaluate
it on a state one statement at a time.
-/

namespace DkPull.Reactive

universe u

abbrev Throwing (Error State : Type u) :=
  ExceptT Error (StateM State)

namespace Throwing

variable {Error State Result Next : Type u}

@[simp]
theorem pure_run (result : Result) (state : State) :
    (pure result : Throwing Error State Result) state =
      (.ok result, state) :=
  rfl

@[simp]
theorem throw_run (err : Error) (state : State) :
    (throw err : Throwing Error State Result) state =
      (.error err, state) :=
  rfl

@[simp]
theorem get_run (state : State) :
    (get : Throwing Error State State) state = (.ok state, state) :=
  rfl

@[simp]
theorem modify_run (update : State → State) (state : State) :
    (modify update : Throwing Error State PUnit) state =
      (.ok ⟨⟩, update state) :=
  rfl

@[simp]
theorem bind_run
    (code : Throwing Error State Result)
    (rest : Result → Throwing Error State Next) (state : State) :
    (code >>= rest) state =
      match code state with
      | (.ok result, next) => rest result next
      | (.error err, next) => (.error err, next) := by
  change
    (match code state with
      | (result, next) => ExceptT.bindCont rest result next) = _
  rcases code state with ⟨_ | _, _⟩ <;> rfl

/-- Code that succeeds hands its result and its state to what follows. -/
theorem bind_of_ok
    {code : Throwing Error State Result} {state next : State}
    {result : Result} (succeeded : code state = (.ok result, next))
    (rest : Result → Throwing Error State Next) :
    (code >>= rest) state = rest result next := by
  rw [bind_run, succeeded]

theorem bind_of_error
    {code : Throwing Error State Result} {state next : State} {err : Error}
    (thrown : code state = (.error err, next))
    (rest : Result → Throwing Error State Next) :
    (code >>= rest) state = (.error err, next) := by
  rw [bind_run, thrown]

/-- Code may be replaced by code that does the same from another state. -/
theorem bind_of_same
    {code other : Throwing Error State Result} {state next : State}
    (same : code state = other next)
    (rest : Result → Throwing Error State Next) :
    (code >>= rest) state = (other >>= rest) next := by
  rw [bind_run, bind_run, same]

@[simp]
theorem map_run
    (code : Throwing Error State Result) (update : Result → Next)
    (state : State) :
    (update <$> code) state =
      match code state with
      | (.ok result, next) => (.ok (update result), next)
      | (.error err, next) => (.error err, next) := by
  rw [map_eq_pure_bind, bind_run]
  rfl

end Throwing

end DkPull.Reactive
