import DkPull.PullStream.ProtocolTransparency

/-!
# What a running call reads of the protocol checker

The checker hands flags over by reference.  A request with a callback passes on
the caller's own object, but a request without one passes `self->aborted`, and
a wrapped callback passes `self->done`.  Until the call returns a nested call
may assign to these members, and the called side then reads something else than
what it was called with.

So a session is followed here through the beginnings and the ends of its calls,
and every moment of it shows what the running calls read.  Each side is taken
to pass an object of its own, which it leaves alone while the call runs.
-/

namespace DkPull.PullStream

open DkPull.Types
open DkPull.Reactive

variable {T : Type}

/-- A request or an answer begins, or the innermost running call returns or is
left by an exception of the called side. -/
inductive CallEvent (T : Type) where
  | begins (event : SessionEvent T)
  | returns
  deriving DecidableEq, Repr

def CallEvent.beginning : CallEvent T → List (SessionEvent T)
  | .begins event => [event]
  | .returns => []

/-- The requests and the answers in the order in which they begin. -/
def begun (events : List (CallEvent T)) : List (SessionEvent T) :=
  events.flatMap CallEvent.beginning

/-- The object behind a `const Abort&` or a `const Done&`: one of the calling
side, or a member of the checker. -/
inductive Reference where
  | own (flag : EndOrError)
  | aborted
  | done
  deriving DecidableEq, Repr

def Reference.read (self : ProtocolChecker) : Reference → EndOrError
  | own flag => flag
  | aborted => self.aborted
  | done => self.done

/-- What the checker passes on: `source(self->aborted, noop)`,
`source(abort, ..)` or `cb(self->done, ..)`. -/
def SessionEvent.reference : SessionEvent T → Reference
  | .request _ true => .aborted
  | .request abort false => .own abort
  | .answer _ _ _ => .done

/-- A call of the source, or of the consumer's callback for the request at
`position`. -/
inductive Call (T : Type) where
  | source (abort : Abort)
  | consumer (position : Nat) (done : Done) (value : T)
  deriving DecidableEq, Repr

def SessionOutput.call? : SessionOutput T → Option (Call T)
  | .toSource abort => some (.source abort)
  | .toConsumer position done value => some (.consumer position done value)
  | .thrown _ => none

def Call.withFlag (flag : EndOrError) : Call T → Call T
  | source _ => source flag
  | consumer position _ value => consumer position flag value

private theorem Call.withFlag_inj {first second : EndOrError} (call : Call T) :
    call.withFlag first = call.withFlag second ↔ first = second := by
  cases call <;> simp [withFlag]

structure Frame (T : Type) where
  began : Call T
  flag : Reference

/-- A running call as it began and as the called side reads it now. -/
structure Running (T : Type) where
  began : Call T
  reads : Call T
  deriving DecidableEq, Repr

def Frame.view (self : ProtocolChecker) (frame : Frame T) : Running T where
  began := frame.began
  reads := frame.began.withFlag (frame.flag.read self)

/-- What an event makes happen, and the calls that run then, innermost
first. -/
structure Snapshot (T : Type) where
  made : List (SessionOutput T)
  running : List (Running T)
  deriving DecidableEq, Repr

/-- A probe with the calls that have left it and not come back. -/
structure Execution (T : Type) where
  probe : Probe
  running : List (Frame T)

def Execution.create (options : Options) : Execution T where
  probe := Probe.create options
  running := []

def Execution.snapshot
    (execution : Execution T) (made : List (SessionOutput T)) : Snapshot T where
  made := made
  running := execution.running.map (Frame.view execution.probe.self)

/-- The calls that leave the checker while an event is handled. -/
def opened (event : SessionEvent T) (emitted : List (SessionOutput T)) :
    List (Frame T) :=
  (emitted.filterMap SessionOutput.call?).map fun call =>
    ⟨call, event.reference⟩

/-- The pipeline with the checker.  Nothing of the checker runs after a call
that has left it returns. -/
def callMachine : Machine (Execution T) (CallEvent T) (Snapshot T) where
  step execution
    | .begins event =>
        (sessionMachine.step execution.probe event).map fun result =>
          let next : Execution T :=
            ⟨result.1, opened event result.2 ++ execution.running⟩
          (next, [next.snapshot result.2])
    | .returns =>
        match execution.running with
        | [] => none
        | _ :: outer =>
            let next : Execution T := ⟨execution.probe, outer⟩
            some (next, [next.snapshot []])

def Running.constant (call : Call T) : Running T where
  began := call
  reads := call

/-- The pipeline without the checker.  The state lists, for each request,
whether it came without a callback, and the running calls.  An answer to a
missing callback would throw `std::bad_function_call` and is left out. -/
def directMachine :
    Machine (List Bool × List (Call T)) (CallEvent T) (Snapshot T) where
  step
    | (issued, running), .begins (.request abort isNull) =>
        let calls := .source abort :: running
        some ((issued ++ [isNull], calls),
          [⟨[.toSource abort], calls.map Running.constant⟩])
    | (issued, running), .begins (.answer position done value) =>
        let calls := .consumer position done value :: running
        if issued[position]? = some false then
          some ((issued, calls),
            [⟨[.toConsumer position done value],
              calls.map Running.constant⟩])
        else none
    | (_, []), .returns => none
    | (issued, _ :: outer), .returns =>
        some ((issued, outer), [⟨[], outer.map Running.constant⟩])

/-- What both sides see of a session with the checker between them. -/
def observed
    (options : Options) (events : List (CallEvent T)) :
    Option (List (Snapshot T)) :=
  (callMachine.run (Execution.create options) events).map Prod.snd

/-- What both sides see of a session without the checker. -/
def observedDirectly (events : List (CallEvent T)) :
    Option (List (Snapshot T)) :=
  (directMachine.run ([], []) events).map Prod.snd

/-- No running call ever reads something else than what it was called with. -/
def Steady (snapshots : List (Snapshot T)) : Prop :=
  ∀ snapshot ∈ snapshots, ∀ call ∈ snapshot.running, call.reads = call.began

/-! ## The conditions -/

/-- The event is the first termination that the checker stores in the
member. -/
def SessionEvent.Overwrites (history : List (SessionEvent T)) :
    SessionEvent T → Reference → Prop
  | .request abort _, .aborted =>
      (firstAbort history).toBool = false ∧ abort.toBool = true
  | .answer position done _, .done =>
      (nulls history)[position]? = some false ∧
        (firstDone history).toBool = false ∧ done.toBool = true
  | _, _ => False

/-- Follow the requests made and the references held by the running calls. -/
def hold :
    List Bool × List Reference → CallEvent T → List Bool × List Reference
  | (issued, held), .begins (.request abort isNull) =>
      (issued ++ [isNull],
        (SessionEvent.request abort isNull : SessionEvent T).reference :: held)
  | (issued, held), .begins (.answer position _ _) =>
      (issued, if issued[position]? = some false then .done :: held else held)
  | (issued, held), .returns => (issued, held.tail)

def heldReferences (history : List (CallEvent T)) : List Reference :=
  (history.foldl hold ([], [])).2

def CallEvent.Undisturbing (history : List (CallEvent T)) :
    CallEvent T → Prop
  | .begins event =>
      ∀ reference ∈ heldReferences history,
        ¬ event.Overwrites (begun history) reference
  | .returns => True

/-- The first done answer to a callback arrives while no callback of the
consumer runs, and the first abort is requested while the source is handling no
request without a callback. -/
def TerminatesUndisturbed (events : List (CallEvent T)) : Prop :=
  ∀ before event after,
    events = before ++ event :: after → event.Undisturbing before

def SessionEvent.ReachesCallback (history : List (SessionEvent T)) :
    SessionEvent T → Prop
  | .request _ _ => True
  | .answer position _ _ => (nulls history)[position]? = some false

def AnswersCallbacks (events : List (SessionEvent T)) : Prop :=
  ∀ before event after,
    events = before ++ event :: after → event.ReachesCallback before

private theorem begun_begins
    (history : List (CallEvent T)) (event : SessionEvent T) :
    begun (history ++ [.begins event]) = begun history ++ [event] := by
  simp [begun, CallEvent.beginning]

private theorem begun_returns (history : List (CallEvent T)) :
    begun (history ++ [.returns]) = begun history := by
  simp [begun, CallEvent.beginning]

private theorem callMachine_begins_iff
    {execution next : Execution T} {event : SessionEvent T}
    {seen : List (Snapshot T)} :
    callMachine.step execution (.begins event) = some (next, seen) ↔
      ∃ emitted,
        sessionMachine.step execution.probe event =
            some (next.probe, emitted) ∧
          next.running = opened event emitted ++ execution.running ∧
          seen = [next.snapshot emitted] := by
  constructor
  · intro stepped
    obtain ⟨result, checked, same⟩ := Option.map_eq_some_iff.mp stepped
    cases same
    exact ⟨result.2, checked, rfl, rfl⟩
  · rintro ⟨emitted, checked, running, rfl⟩
    refine Option.map_eq_some_iff.mpr ⟨_, checked, ?_⟩
    rw [← running]

private theorem callMachine_returns_iff
    {execution next : Execution T} {seen : List (Snapshot T)} :
    callMachine.step execution .returns = some (next, seen) ↔
      ∃ inner,
        execution.running = inner :: next.running ∧
          next.probe = execution.probe ∧ seen = [next.snapshot []] := by
  obtain ⟨probe, running⟩ := execution
  cases running with
  | nil => simp [callMachine]
  | cons inner others =>
      constructor
      · rintro ⟨⟩
        exact ⟨inner, rfl, rfl, rfl⟩
      · obtain ⟨following, outer⟩ := next
        rintro ⟨_, ⟨⟩, rfl, rfl⟩
        rfl

private theorem callMachine_replays_step
    {execution next : Execution T} {event : CallEvent T}
    {seen : List (Snapshot T)}
    (stepped : callMachine.step execution event = some (next, seen)) :
    sessionMachine.run execution.probe event.beginning =
      some (next.probe, seen.flatMap Snapshot.made) := by
  cases event with
  | begins event =>
      obtain ⟨emitted, checked, _, rfl⟩ := callMachine_begins_iff.mp stepped
      rw [List.flatMap_singleton]
      exact Machine.run_singleton.trans checked
  | returns =>
      obtain ⟨_, _, same, rfl⟩ := callMachine_returns_iff.mp stepped
      rw [same]
      rfl

/-- A machine whose steps are those of another one, up to the returns, makes
the same calls in a whole run. -/
private theorem replays_of_steps {State Target : Type}
    {machine : Machine State (CallEvent T) (Snapshot T)}
    {replaying : Machine Target (SessionEvent T) (SessionOutput T)}
    (project : State → Target)
    (steps :
      ∀ {source target event seen},
        machine.step source event = some (target, seen) →
          replaying.run (project source) event.beginning =
            some (project target, seen.flatMap Snapshot.made))
    {source target : State} {events : List (CallEvent T)}
    {snapshots : List (Snapshot T)}
    (ran : machine.run source events = some (target, snapshots)) :
    replaying.run (project source) (begun events) =
      some (project target, snapshots.flatMap Snapshot.made) := by
  obtain ⟨_, replayed, rfl⟩ :=
    Machine.replay project CallEvent.beginning (fun _ => True)
      (fun snapshots outputs => snapshots.flatMap Snapshot.made = outputs)
      rfl
      (fun _ _ _ _ early late => by
        rw [List.flatMap_append, early, late])
      (fun _ _ _ _ stepped _ => ⟨_, steps stepped, rfl⟩)
      ran (fun _ _ => trivial)
  exact replayed

/-- The pipeline with the checker is a session of the checker. -/
theorem callMachine_replays
    {source target : Execution T} {events : List (CallEvent T)}
    {snapshots : List (Snapshot T)}
    (ran : callMachine.run source events = some (target, snapshots)) :
    sessionMachine.run source.probe (begun events) =
      some (target.probe, snapshots.flatMap Snapshot.made) :=
  replays_of_steps Execution.probe callMachine_replays_step ran

private theorem directMachine_replays_step
    {source target : List Bool × List (Call T)} {event : CallEvent T}
    {seen : List (Snapshot T)}
    (stepped : directMachine.step source event = some (target, seen)) :
    verbatimMachine.run source.1 event.beginning =
      some (target.1, seen.flatMap Snapshot.made) := by
  obtain ⟨issued, running⟩ := source
  cases event with
  | begins event =>
      cases event with
      | request abort isNull =>
          cases stepped
          rfl
      | answer position done value =>
          simp only [directMachine] at stepped
          split at stepped
          · rename_i wrapped
            cases stepped
            simp [CallEvent.beginning, Machine.run_singleton, verbatimMachine,
              wrapped]
          · cases stepped
  | returns =>
      cases running with
      | nil => cases stepped
      | cons inner outer =>
          cases stepped
          rfl

/-- Without the checker every call is made verbatim. -/
theorem directMachine_replays
    {source target : List Bool × List (Call T)}
    {events : List (CallEvent T)} {snapshots : List (Snapshot T)}
    (ran : directMachine.run source events = some (target, snapshots)) :
    verbatimMachine.run source.1 (begun events) =
      some (target.1, snapshots.flatMap Snapshot.made) :=
  replays_of_steps Prod.fst directMachine_replays_step ran

/-! ## What the running calls hold -/

private theorem issued_of_hold (history : List (CallEvent T)) :
    (history.foldl hold ([], [])).1 = nulls (begun history) := by
  induction history using List.reverseRecOn with
  | nil => rfl
  | append_singleton history event inductionHypothesis =>
      rw [List.foldl_concat]
      cases event with
      | begins event =>
          rw [begun_begins, nulls_append, ← inductionHypothesis]
          cases event <;> simp [hold]
      | returns =>
          rw [begun_returns, ← inductionHypothesis]
          rfl

/-- The calls that an event begins hold what the checker passes on. -/
theorem heldReferences_begins
    {options : Options} {history : List (CallEvent T)}
    {probe next : Probe} {event : SessionEvent T}
    {emitted : List (SessionOutput T)}
    (tracks : Tracks options (begun history) probe)
    (stepped : sessionMachine.step probe event = some (next, emitted))
    (unthrown : Unthrown emitted) :
    heldReferences (history ++ [.begins event]) =
      (opened event emitted).map Frame.flag ++ heldReferences history := by
  have issued := issued_of_hold history
  rw [heldReferences, List.foldl_concat]
  cases event with
  | request abort isNull =>
      obtain ⟨_, _, rfl⟩ := step_request_cases stepped unthrown
      cases isNull <;> rfl
  | answer position done value =>
      simp only [hold, issued]
      rcases step_answer_cases stepped unthrown with
        ⟨found, _, rfl⟩ | ⟨callback, found, _, _, rfl⟩
      · rw [if_neg (tracks.noop_unwrapped found)]
        rfl
      · rw [if_pos (tracks.callback_eq found).1]
        rfl

private theorem heldReferences_returns (history : List (CallEvent T)) :
    heldReferences (history ++ [.returns]) =
      (heldReferences history).tail := by
  rw [heldReferences, List.foldl_concat]
  rfl

private theorem opened_reads
    {probe next : Probe} {event : SessionEvent T}
    {emitted : List (SessionOutput T)}
    (stepped : sessionMachine.step probe event = some (next, emitted))
    (unthrown : Unthrown emitted) :
    ∀ frame ∈ opened event emitted,
      (frame.view next.self).reads = frame.began := by
  intro frame member
  cases event with
  | request abort isNull =>
      obtain ⟨_, rfl, rfl⟩ := step_request_cases stepped unthrown
      obtain rfl := List.mem_singleton.mp member
      cases isNull <;> rfl
  | answer position done value =>
      rcases step_answer_cases stepped unthrown with
        ⟨_, _, rfl⟩ | ⟨callback, _, _, rfl, rfl⟩
      · cases member
      · obtain rfl := List.mem_singleton.mp member
        rfl

/-- A stored flag changes exactly when it is unset and a set one arrives. -/
theorem stored_eq_iff (stored arriving : EndOrError) :
    (if stored.toBool then stored else arriving) = stored ↔
      ¬ (stored.toBool = false ∧ arriving.toBool = true) := by
  cases unset : stored.toBool with
  | true => simp
  | false =>
      have stays := EndOrError.eq_FALSE_of_toBool_false unset
      cases set : arriving.toBool with
      | true =>
          have differs : arriving ≠ stored := by
            rintro rfl
            rw [unset] at set
            cases set
          simp [differs]
      | false =>
          simp [stays, EndOrError.eq_FALSE_of_toBool_false set]

/-- What a reference reads changes exactly when it is overwritten. -/
theorem read_eq_iff
    {options : Options} {history : List (SessionEvent T)}
    {probe next : Probe} {event : SessionEvent T}
    {emitted : List (SessionOutput T)}
    (tracks : Tracks options history probe)
    (stepped : sessionMachine.step probe event = some (next, emitted))
    (unthrown : Unthrown emitted) (reference : Reference) :
    reference.read next.self = reference.read probe.self ↔
      ¬ event.Overwrites history reference := by
  cases event with
  | request abort isNull =>
      obtain ⟨_, rfl, _⟩ := step_request_cases stepped unthrown
      cases reference with
      | own flag => exact iff_of_true rfl not_false
      | aborted =>
          rw [SessionEvent.Overwrites, ← tracks.aborted]
          exact stored_eq_iff probe.self.aborted abort
      | done => exact iff_of_true rfl not_false
  | answer position done value =>
      rcases step_answer_cases stepped unthrown with
        ⟨found, rfl, _⟩ | ⟨callback, found, _, rfl, _⟩
      · have unwrapped := tracks.noop_unwrapped found
        cases reference <;> simp [SessionEvent.Overwrites, unwrapped]
      · have wrapped := (tracks.callback_eq found).1
        cases reference with
        | own flag => exact iff_of_true rfl not_false
        | aborted => exact iff_of_true rfl not_false
        | done =>
            simp only [SessionEvent.Overwrites, wrapped, true_and,
              ← tracks.done]
            exact stored_eq_iff probe.self.done done

/-- What the past knows to be held is what the running calls hold. -/
theorem heldReferences_of_run
    {options : Options} {events : List (CallEvent T)}
    {execution : Execution T} {snapshots : List (Snapshot T)}
    (ran :
      callMachine.run (Execution.create options) events =
        some (execution, snapshots))
    (unthrown : Unthrown (snapshots.flatMap Snapshot.made)) :
    heldReferences events = execution.running.map Frame.flag := by
  refine
    Machine.history_invariant
      (fun history snapshots execution =>
        Unthrown (snapshots.flatMap Snapshot.made) →
          heldReferences history = execution.running.map Frame.flag)
      (fun _ => rfl) ?_ ran unthrown
  intro history snapshots execution event next seen front held stepped unthrown
  rw [List.flatMap_append] at unthrown
  obtain ⟨before, now⟩ := unthrown.of_append
  cases event with
  | begins event =>
      obtain ⟨emitted, checked, running, rfl⟩ :=
        callMachine_begins_iff.mp stepped
      rw [List.flatMap_singleton] at now
      have tracks := tracks_of_run (callMachine_replays front) before
      rw [heldReferences_begins tracks checked now, running, List.map_append,
        held before]
  | returns =>
      obtain ⟨inner, running, _, _⟩ := callMachine_returns_iff.mp stepped
      rw [heldReferences_returns, held before, running]
      rfl

def Execution.Steady (execution : Execution T) : Prop :=
  ∀ frame ∈ execution.running,
    (frame.view execution.probe.self).reads = frame.began

private theorem steady_snapshot_iff
    {execution : Execution T} {made : List (SessionOutput T)} :
    Steady [execution.snapshot made] ↔ execution.Steady := by
  simp [Steady, Execution.Steady, Execution.snapshot, Frame.view]

private theorem steady_append_iff {early late : List (Snapshot T)} :
    Steady (early ++ late) ↔ Steady early ∧ Steady late :=
  List.forall_mem_append

private theorem steady_of_step
    {execution next : Execution T} {event : CallEvent T}
    {seen : List (Snapshot T)}
    (stepped : callMachine.step execution event = some (next, seen))
    (steady : Steady seen) : next.Steady := by
  cases event with
  | begins event =>
      obtain ⟨emitted, _, _, rfl⟩ := callMachine_begins_iff.mp stepped
      exact steady_snapshot_iff.mp steady
  | returns =>
      obtain ⟨_, _, _, rfl⟩ := callMachine_returns_iff.mp stepped
      exact steady_snapshot_iff.mp steady

/-- A step keeps the running calls steady exactly if it overwrites nothing that
one of them holds. -/
theorem steady_step_iff
    {options : Options} {history : List (CallEvent T)}
    {execution next : Execution T} {event : CallEvent T}
    {seen : List (Snapshot T)}
    (tracks : Tracks options (begun history) execution.probe)
    (held : heldReferences history = execution.running.map Frame.flag)
    (steady : execution.Steady)
    (stepped : callMachine.step execution event = some (next, seen))
    (unthrown : Unthrown (seen.flatMap Snapshot.made)) :
    Steady seen ↔ event.Undisturbing history := by
  cases event with
  | begins event =>
      obtain ⟨emitted, checked, running, rfl⟩ :=
        callMachine_begins_iff.mp stepped
      rw [List.flatMap_singleton] at unthrown
      have unchanged :
          ∀ frame ∈ execution.running,
            (frame.view next.probe.self).reads = frame.began ↔
              ¬ event.Overwrites (begun history) frame.flag := by
        intro frame member
        have before := steady frame member
        rw [← read_eq_iff tracks checked unthrown,
          ← frame.began.withFlag_inj]
        simp only [Frame.view] at before ⊢
        rw [before]
      rw [steady_snapshot_iff, CallEvent.Undisturbing, held]
      constructor
      · intro after reference member
        obtain ⟨frame, runs, rfl⟩ := List.mem_map.mp member
        apply (unchanged frame runs).mp
        apply after
        rw [running]
        exact List.mem_append_right _ runs
      · intro undisturbed frame member
        rw [running] at member
        rcases List.mem_append.mp member with new | old
        · exact opened_reads checked unthrown frame new
        · exact
            (unchanged frame old).mpr
              (undisturbed _ (List.mem_map_of_mem old))
  | returns =>
      obtain ⟨inner, running, same, rfl⟩ :=
        callMachine_returns_iff.mp stepped
      refine iff_of_true (steady_snapshot_iff.mpr ?_) trivial
      intro frame member
      rw [same]
      apply steady frame
      rw [running]
      exact List.mem_cons_of_mem inner member

/-- Every call reads what it began with for as long as it runs exactly if no
event overwrites what a running call holds. -/
theorem steady_iff_undisturbed
    {options : Options} {events : List (CallEvent T)}
    {execution : Execution T} {snapshots : List (Snapshot T)}
    (ran :
      callMachine.run (Execution.create options) events =
        some (execution, snapshots))
    (unthrown : Unthrown (snapshots.flatMap Snapshot.made)) :
    (Steady snapshots ↔ TerminatesUndisturbed events) ∧
      (Steady snapshots → execution.Steady) := by
  refine
    Machine.history_invariant
      (fun history snapshots execution =>
        Unthrown (snapshots.flatMap Snapshot.made) →
          (Steady snapshots ↔ TerminatesUndisturbed history) ∧
            (Steady snapshots → execution.Steady))
      ?_ ?_ ran unthrown
  · intro _
    simp [Steady, TerminatesUndisturbed, Execution.Steady, Execution.create]
  intro history snapshots execution event next seen front earlier stepped
    unthrown
  rw [List.flatMap_append] at unthrown
  obtain ⟨before, now⟩ := unthrown.of_append
  obtain ⟨same, current⟩ := earlier before
  have tracks := tracks_of_run (callMachine_replays front) before
  have held := heldReferences_of_run front before
  rw [steady_append_iff, TerminatesUndisturbed, forall_moment_concat_iff,
    ← TerminatesUndisturbed, ← same]
  refine ⟨and_congr_right ?_, fun steady => steady_of_step stepped steady.2⟩
  intro steady
  exact steady_step_iff tracks held (current steady) stepped now

/-! ## The two pipelines side by side -/

private theorem answersCallbacks_concat_iff
    {history : List (SessionEvent T)} {event : SessionEvent T} :
    AnswersCallbacks (history ++ [event]) ↔
      AnswersCallbacks history ∧ event.ReachesCallback history :=
  forall_moment_concat_iff

private theorem steady_constants
    (made : List (SessionOutput T)) (calls : List (Call T)) :
    Steady [⟨made, calls.map Running.constant⟩] := by
  simp [Steady, Running.constant]

/-- Without the checker nothing changes under a running call, and missing
callbacks are not answered. -/
theorem steady_of_direct
    {events : List (CallEvent T)} {snapshots : List (Snapshot T)}
    {state : List Bool × List (Call T)}
    (ran : directMachine.run ([], []) events = some (state, snapshots)) :
    state.1 = nulls (begun events) ∧ Steady snapshots ∧
      AnswersCallbacks (begun events) := by
  refine
    Machine.history_invariant
      (fun history snapshots state =>
        state.1 = nulls (begun history) ∧ Steady snapshots ∧
          AnswersCallbacks (begun history))
      ?_ ?_ ran
  · simp [begun, nulls, requests, Steady, AnswersCallbacks]
  rintro history snapshots ⟨issued, running⟩ event next seen _
    ⟨rfl, steady, answers⟩ stepped
  rw [steady_append_iff]
  cases event with
  | begins event =>
      rw [begun_begins, answersCallbacks_concat_iff, nulls_append]
      cases event with
      | request abort isNull =>
          cases stepped
          exact ⟨rfl, ⟨steady, steady_constants _ _⟩, answers, trivial⟩
      | answer position done value =>
          simp only [directMachine] at stepped
          split at stepped
          · rename_i wrapped
            cases stepped
            refine
              ⟨(List.append_nil _).symm, ⟨steady, steady_constants _ _⟩,
                answers, wrapped⟩
          · cases stepped
  | returns =>
      rw [begun_returns]
      cases running with
      | nil => cases stepped
      | cons inner outer =>
          cases stepped
          exact ⟨rfl, ⟨steady, steady_constants _ _⟩, answers⟩

/-- Running calls that are steady look like calls without the checker. -/
theorem snapshot_of_steady
    {execution : Execution T} (steady : execution.Steady)
    (made : List (SessionOutput T)) :
    execution.snapshot made =
      ⟨made, (execution.running.map Frame.began).map Running.constant⟩ := by
  rw [Execution.snapshot, List.map_map]
  congr 1
  apply List.map_congr_left
  intro frame member
  exact congrArg (Running.mk frame.began) (steady frame member)

/-- One step is the same without the checker if its call is passed on verbatim
and nothing changes under the running calls. -/
theorem directMachine_step_of_steady
    {options : Options} {history : List (CallEvent T)}
    {execution next : Execution T} {event : CallEvent T}
    {seen : List (Snapshot T)}
    (tracks : Tracks options (begun history) execution.probe)
    (stepped : callMachine.step execution event = some (next, seen))
    (unthrown : Unthrown (seen.flatMap Snapshot.made))
    (repeats : ∀ call ∈ event.beginning, call.RepeatsFirst (begun history))
    (answers : ∀ call ∈ event.beginning, call.ReachesCallback (begun history))
    (steady : Steady seen) :
    directMachine.step
        (nulls (begun history), execution.running.map Frame.began) event =
      some
        ((nulls (begun (history ++ [event])),
          next.running.map Frame.began), seen) := by
  have settled := steady_of_step stepped steady
  cases event with
  | begins event =>
      obtain ⟨emitted, checked, running, rfl⟩ :=
        callMachine_begins_iff.mp stepped
      rw [List.flatMap_singleton] at unthrown
      have verbatim :=
        (verbatimOutputs_eq_iff tracks checked unthrown).2.mpr
          (repeats event List.mem_cons_self)
      rw [snapshot_of_steady settled, running, ← verbatim, begun_begins,
        nulls_append]
      cases event with
      | request abort isNull => rfl
      | answer position done value =>
          have wrapped : (nulls (begun history))[position]? = some false :=
            answers _ List.mem_cons_self
          simp [directMachine, verbatimOutputs, wrapped, opened,
            SessionOutput.call?]
  | returns =>
      obtain ⟨inner, running, _, rfl⟩ := callMachine_returns_iff.mp stepped
      rw [snapshot_of_steady settled, running, begun_returns]
      rfl

private theorem directMachine_run_of_steady
    {options : Options} {events : List (CallEvent T)}
    {execution : Execution T} {snapshots : List (Snapshot T)}
    (ran :
      callMachine.run (Execution.create options) events =
        some (execution, snapshots))
    (unthrown : Unthrown (snapshots.flatMap Snapshot.made))
    (repeats : RepeatsFirstTermination (begun events))
    (answers : AnswersCallbacks (begun events))
    (steady : Steady snapshots) :
    directMachine.run ([], []) events =
      some
        ((nulls (begun events), execution.running.map Frame.began),
          snapshots) := by
  refine
    Machine.history_invariant
      (fun history snapshots execution =>
        Unthrown (snapshots.flatMap Snapshot.made) →
          RepeatsFirstTermination (begun history) →
          AnswersCallbacks (begun history) → Steady snapshots →
            directMachine.run ([], []) history =
              some
                ((nulls (begun history),
                  execution.running.map Frame.began), snapshots))
      (fun _ _ _ _ => rfl) ?_ ran unthrown repeats answers steady
  intro history snapshots execution event next seen front earlier stepped
    unthrown repeats answers steady
  rw [List.flatMap_append] at unthrown
  obtain ⟨before, now⟩ := unthrown.of_append
  rw [steady_append_iff] at steady
  have tracks := tracks_of_run (callMachine_replays front) before
  have split :
      (RepeatsFirstTermination (begun history) ∧
          ∀ call ∈ event.beginning, call.RepeatsFirst (begun history)) ∧
        AnswersCallbacks (begun history) ∧
          ∀ call ∈ event.beginning,
            call.ReachesCallback (begun history) := by
    cases event with
    | begins event =>
        rw [begun_begins] at repeats answers
        rw [RepeatsFirstTermination, forall_moment_concat_iff,
          ← RepeatsFirstTermination] at repeats
        simpa [CallEvent.beginning] using
          ⟨repeats, answersCallbacks_concat_iff.mp answers⟩
    | returns =>
        rw [begun_returns] at repeats answers
        simpa [CallEvent.beginning] using ⟨repeats, answers⟩
  obtain ⟨⟨repeated, repeatsNow⟩, answered, answersNow⟩ := split
  exact
    Machine.run_concat_eq_some.mpr
      ⟨_, snapshots, seen, earlier before repeated answered steady.1,
        directMachine_step_of_steady tracks stepped now repeatsNow answersNow
          steady.2,
        rfl⟩

/-- In a session in which the checker throws nothing each side is called with
exactly what the other one passes to it if and only if later terminations
repeat the first one, and reads the same until the call returns if and only if
no first termination arrives under a call that holds the member it is stored
in.  Both sides see what they see without the checker if and only if both hold
and no missing callback is answered. -/
theorem unnoticed_iff
    {options : Options} {events : List (CallEvent T)}
    {snapshots : List (Snapshot T)}
    (seen : observed options events = some snapshots)
    (unthrown : ∀ snapshot ∈ snapshots, ∀ err, .thrown err ∉ snapshot.made) :
    (Transparent (begun events) (snapshots.flatMap Snapshot.made) ↔
        RepeatsFirstTermination (begun events)) ∧
      (Steady snapshots ↔ TerminatesUndisturbed events) ∧
      (observedDirectly events = some snapshots ↔
        RepeatsFirstTermination (begun events) ∧
          TerminatesUndisturbed events ∧ AnswersCallbacks (begun events)) := by
  obtain ⟨⟨execution, reached⟩, ran, rfl⟩ := Option.map_eq_some_iff.mp seen
  have noThrow : Unthrown (reached.flatMap Snapshot.made) := by
    intro err thrown
    obtain ⟨snapshot, member, made⟩ := List.mem_flatMap.mp thrown
    exact unthrown snapshot member err made
  obtain ⟨transparent, verbatim⟩ :=
    transparent_iff_repeats (callMachine_replays ran) noThrow
  obtain ⟨steady, _⟩ := steady_iff_undisturbed ran noThrow
  refine ⟨transparent, steady, ?_⟩
  rw [← steady]
  constructor
  · intro direct
    obtain ⟨⟨state, _⟩, directly, rfl⟩ := Option.map_eq_some_iff.mp direct
    obtain ⟨_, steady, answers⟩ := steady_of_direct directly
    refine ⟨verbatim.mp ?_, steady, answers⟩
    simp [PullStream.verbatim, directMachine_replays directly]
  · rintro ⟨repeats, steady, answers⟩
    have directly :=
      directMachine_run_of_steady ran noThrow repeats answers steady
    simp [observedDirectly, directly]

/-- A read is answered under its request, the next one is requested under that
answer and aborted in time. -/
theorem unnoticed_iff_synchronous :
    observedDirectly
          [.begins (.request .FALSE false), .begins (.answer 0 .FALSE 7),
            .begins (.request .TRUE false), .returns, .returns, .returns,
            .begins (.answer 1 .TRUE 0)] =
        some
          [⟨[SessionOutput.toSource .FALSE], [.constant (.source .FALSE)]⟩,
            ⟨[.toConsumer 0 .FALSE 7],
              [.constant (.consumer 0 .FALSE 7),
                .constant (.source .FALSE)]⟩,
            ⟨[.toSource .TRUE],
              [.constant (.source .TRUE), .constant (.consumer 0 .FALSE 7),
                .constant (.source .FALSE)]⟩,
            ⟨[],
              [.constant (.consumer 0 .FALSE 7),
                .constant (.source .FALSE)]⟩,
            ⟨[], [.constant (.source .FALSE)]⟩,
            ⟨[], []⟩,
            ⟨[.toConsumer 1 .TRUE 0], [.constant (.consumer 1 .TRUE 0)]⟩] ↔
      RepeatsFirstTermination
          (begun
            [.begins (.request .FALSE false), .begins (.answer 0 .FALSE 7),
              .begins (.request .TRUE false), .returns, .returns, .returns,
              .begins (.answer 1 .TRUE 0)]) ∧
        TerminatesUndisturbed
          [.begins (.request .FALSE false), .begins (.answer 0 .FALSE 7),
            .begins (.request .TRUE false), .returns, .returns, .returns,
            .begins (.answer 1 .TRUE 0)] ∧
        AnswersCallbacks
          (begun
            [.begins (.request .FALSE false), .begins (.answer 0 .FALSE 7),
              .begins (.request .TRUE false), .returns, .returns, .returns,
              .begins (.answer 1 .TRUE 0)]) :=
  (unnoticed_iff (show observed {} _ = _ from by decide) (by simp)).2.2

/-- After a clean end an abort with a reason is answered with this reason, but
the consumer is told of the clean end.  The checker has no complaint. -/
theorem reason_of_late_abort_is_lost :
    judgement {}
          [.request .FALSE false, .answer 0 .TRUE (),
            .request (.ofMessage "intentional") false,
            .answer 1 (.ofMessage "intentional") ()] =
        some (.ok []) ∧
      forwarded {}
          [.request .FALSE false, .answer 0 .TRUE (),
            .request (.ofMessage "intentional") false,
            .answer 1 (.ofMessage "intentional") ()] =
        some
          [.toSource .FALSE, .toConsumer 0 .TRUE (),
            .toSource (.ofMessage "intentional"), .toConsumer 1 .TRUE ()] ∧
      ¬ Transparent
          [.request .FALSE false, .answer 0 .TRUE (),
            .request (.ofMessage "intentional") false,
            .answer 1 (.ofMessage "intentional") ()]
          [.toSource .FALSE, .toConsumer 0 .TRUE (),
            .toSource (.ofMessage "intentional"),
            .toConsumer 1 .TRUE ()] := by
  refine ⟨by decide, by decide, ?_⟩
  intro transparent
  have received := transparent.toConsumer 1 (by decide)
  exact absurd received (by decide)

/-- The end arrives under a callback that was called with a value, which from
then on reads the end. -/
example :
    (observed {}
        [.begins (.request .FALSE false), .returns,
          .begins (.answer 0 .FALSE 7), .begins (.request .FALSE false),
          .begins (.answer 1 .TRUE 8)]).map
        (fun snapshots => snapshots.getLast?.map Snapshot.running) =
      some
        (some
          [⟨.consumer 1 .TRUE 8, .consumer 1 .TRUE 8⟩,
            ⟨.source .FALSE, .source .FALSE⟩,
            ⟨.consumer 0 .FALSE 7, .consumer 0 .TRUE 7⟩]) := by
  decide

end DkPull.PullStream
