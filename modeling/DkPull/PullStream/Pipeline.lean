import DkPull.PullStream.ProtocolChecker
import DkPull.PullStream.Sinks.Reduce
import DkPull.PullStream.Sources.Values

/-!
# A pipeline of checkers

`Pull` composes a `Values` source, any number of protocol checkers and a
collecting sink.  Everything happens in nested calls: the source answers a
request before the request returns, the sink makes its next request from inside
such an answer, and the callback of the sink runs on top of all of them.  An
exception that a checker throws is caught nowhere, so it leaves `Pull`.

The looper inside the sink may call the source without end, so the code takes
some fuel, one unit for each call.
-/

namespace DkPull.PullStream

open DkPull.Types
open DkPull.Reactive
open DkPull.PullStream.Sinks
open DkPull.PullStream.Sources

/-- What can leave `Pull` instead of a return: the exception of a checker or a
failed `CHECK`.  The other two stand for fuel that is used up and for a call
that no component can take. -/
inductive Failure where
  | violation (err : Message)
  | check (failure : CheckFailure)
  | outOfFuel
  | unexpectedCall
  deriving DecidableEq, Repr

/-- What the callback of the sink was called with, and what `Terminate()` of
each checker returned or threw inside this call. -/
structure Collected (T : Type) where
  done : Done
  vector : List T
  terminations : List (Except Message (List Message))

/-- The components of a pipeline.  The checkers are numbered from the source's
side on, and `requests` counts the calls of the source made by the sink. -/
structure Pipeline (T : Type) where
  values : Values T
  checkers : Nat → Probe
  sink : Reducing (List T)
  requests : Nat
  collected : List (Collected T)

def Pipeline.create {T : Type} (values : List T) (options : Options) :
    Pipeline T where
  values := Values.create values
  checkers _ := Probe.create options
  sink := Reducing.create .collect []
  requests := 0
  collected := []

abbrev PipelineM (T : Type) := Throwing Failure (Pipeline T)

/-- A source inside a pipeline.  Its callback is never null here. -/
abbrev PipelineSource (T : Type) :=
  Abort → (Done → T → PipelineM T PUnit) → PipelineM T PUnit

variable {T : Type}

def deliver {Output : Type} (react : Output → PipelineM T PUnit) :
    List Output → PipelineM T PUnit
  | [] => pure ⟨⟩
  | output :: rest => do
      react output
      deliver react rest

/-- `Values::Source`.  It invokes its callback in its last statement, so the
answer is written down here and passed on afterwards. -/
def valuesSource [Inhabited T] : PipelineSource T := fun abort cb => do
  let writeDown : SourceCallback (Values T) T := fun done value =>
    record (.answered 0 done value)
  let (_, exchange) :=
    Values.source abort (some writeDown) ⟨(← get).values, []⟩
  modify fun pipeline => { pipeline with values := exchange.self }
  deliver (fun (done, value) => cb done value)
    (answersOf 0 exchange.trace)

def checkerStep (number : Nat) (event : SessionEvent T) :
    PipelineM T (List (SessionOutput T)) := do
  match sessionMachine.step ((← get).checkers number) event with
  | none => throw .unexpectedCall
  | some (probe, outputs) =>
      modify fun pipeline =>
        { pipeline with
          checkers := Function.update pipeline.checkers number probe }
      return outputs

/-- What leaves a checker is a call of the source, a call of the consumer's
callback, or an exception. -/
def checkerOutput (source : Abort → PipelineM T PUnit)
    (cb : Done → T → PipelineM T PUnit) :
    SessionOutput T → PipelineM T PUnit
  | .toSource abort => source abort
  | .toConsumer _ done value => cb done value
  | .thrown err => throw (.violation err)

/-- `ProtocolChecker::Through()(source)` for the checker of the given
number. -/
def through (number : Nat) (source : PipelineSource T) :
    PipelineSource T := fun abort cb => do
  let position := ((← get).checkers number).callbacks.length
  let wrapped : Done → T → PipelineM T PUnit := fun done value => do
    deliver (checkerOutput (fun _ => pure ⟨⟩) cb)
      (← checkerStep number (.answer position done value))
  deliver (checkerOutput (fun passed => source passed wrapped) cb)
    (← checkerStep number (.request abort false))

/-- The source behind the first checkers. -/
def checked [Inhabited T] : Nat → PipelineSource T
  | 0 => valuesSource
  | number + 1 => through number (checked number)

def sinkStep (moved : List T → List T) (event : ReduceEvent T) :
    PipelineM T (List (DrainOutput T CheckFailure)) := do
  match (makeCollect moved).step (← get).sink event with
  | none => throw .unexpectedCall
  | some (sink, outputs) =>
      modify fun pipeline => { pipeline with sink }
      return outputs

/-- The callback of the sink: it calls `Terminate()` of each checker. -/
def collect (checkers : Nat) (done : Done) (vector : List T) :
    PipelineM T PUnit :=
  modify fun pipeline =>
    { pipeline with
      checkers number :=
        if number < checkers then
          (ProtocolChecker.terminate (pipeline.checkers number)).2
        else pipeline.checkers number
      collected :=
        pipeline.collected ++
          [⟨done, vector,
            (List.range checkers).map fun number =>
              (ProtocolChecker.terminate (pipeline.checkers number)).1⟩] }

/-- What leaves the sink is a call of the source, an invocation of the callback
(the last of those that the `Reduce` lists), or a failed check. -/
def sinkOutput (checkers : Nat) (call : Abort → PipelineM T PUnit) :
    DrainOutput T CheckFailure → PipelineM T PUnit
  | .request abort => call abort
  | .onValue _ => pure ⟨⟩
  | .onDone _ => do
      let pipeline ← get
      deliver (fun (done, vector) => collect checkers done vector)
        (pipeline.sink.self.completions.drop pipeline.collected.length)
  | .thrown failure => throw (.check failure)

/-- The looper function of the sink calls the source, and returns. -/
def call [Inhabited T] (moved : List T → List T) (checkers : Nat) :
    Nat → Abort → PipelineM T PUnit
  | 0, _ => throw .outOfFuel
  | fuel + 1, abort => do
      let number := (← get).requests
      modify fun pipeline => { pipeline with requests := number + 1 }
      checked checkers abort fun done value => do
        deliver (sinkOutput checkers (call moved checkers fuel))
          (← sinkStep moved (.answer number done value))
      deliver (sinkOutput checkers (call moved checkers fuel))
        (← sinkStep moved .returned)

/-- `Pull` applies the sink to the source behind all of the checkers. -/
def pull [Inhabited T] (moved : List T → List T) (checkers fuel : Nat) :
    PipelineM T PUnit := do
  deliver (sinkOutput checkers (call moved checkers fuel))
    (← sinkStep moved .apply)

end DkPull.PullStream
