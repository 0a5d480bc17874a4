import DkPull.PullStream.ProtocolSessions

/-!
# The two reporting modes

A checker that throws and one that collects differ in nothing but the mode
until there is something to report.  Then the one throws the message that the
other records first.
-/

namespace DkPull.PullStream

open DkPull.Types
open DkPull.Reactive
open ProtocolChecker

variable {T : Type}

def Options.withMode (options : Options) (eagerly : Bool) : Options :=
  { options with notifyEagerly := eagerly }

/-- The checker in the same state that throws. -/
def Probe.twin (probe : Probe) : Probe :=
  { probe with self := { probe.self with notifyEagerly := true } }

@[simp]
theorem eventMessages_twin (probe : Probe) (event : SessionEvent T) :
    eventMessages probe.twin event = eventMessages probe event := by
  cases event <;> rfl

@[simp]
theorem terminateMessages_twin (probe : Probe) :
    terminateMessages probe.twin.self = terminateMessages probe.self :=
  rfl

namespace ProtocolChecker

/-- An eager checker throws in the loop of `Terminate` for the first index that
is to be reported. -/
theorem terminateLoop_eager
    {probe : Probe} (eager : probe.self.notifyEagerly = true)
    {indices : List UInt64} {err : Message} {rest : List Message}
    (reported :
      (indices.filter (reportedByLoop probe.self.skipped)).map
          Message.neverInvoked =
        err :: rest) :
    terminateLoop indices probe = (.error err, probe) := by
  induction indices with
  | nil => cases reported
  | cons k others inductionHypothesis =>
      rw [terminateLoop, Throwing.bind_of_ok (Throwing.get_run probe)]
      cases tested : reportedByLoop probe.self.skipped k with
      | false =>
          rw [List.filter_cons_of_neg (by simp [tested])] at reported
          have untested := tested
          rw [reportedByLoop] at untested
          simp [untested, inductionHypothesis reported]
      | true =>
          rw [List.filter_cons_of_pos tested, List.map_cons] at reported
          injection reported with same _
          rw [reportedByLoop] at tested
          simp only [tested, if_true]
          rw [← same]
          exact Throwing.bind_of_error (notifyError_eager eager _) _

private theorem checkNeverInvoked_eager
    {probe : Probe} (eager : probe.self.notifyEagerly = true)
    {err : Message} {rest : List Message}
    (reported : neverInvokedMessages probe.self = err :: rest) :
    checkNeverInvoked probe = (.error err, probe) := by
  rw [checkNeverInvoked, Throwing.bind_of_ok (Throwing.get_run probe)]
  unfold neverInvokedMessages at reported
  split at reported
  · rename_i passes
    rw [if_pos passes]
    exact terminateLoop_eager eager reported
  · cases reported

theorem terminate_eager
    {probe : Probe} (eager : probe.self.notifyEagerly = true)
    {err : Message} {rest : List Message}
    (reported : terminateMessages probe.self = err :: rest) :
    terminate probe = (.error err, probe) := by
  unfold terminateMessages at reported
  cases never : neverInvokedMessages probe.self with
  | cons first others =>
      rw [never, List.cons_append] at reported
      injection reported with same _
      rw [terminate, ← same]
      exact
        Throwing.bind_of_error (checkNeverInvoked_eager eager never) _
  | nil =>
      have passes :=
        @checkNeverInvoked_tolerated probe (.inr never)
      rw [never, record_nil] at passes
      rw [never, List.nil_append] at reported
      have judged := checkTermination_eq_reportAll probe
      rw [reported, reportAll_eager eager] at judged
      rw [terminate, Throwing.bind_of_ok passes]
      exact Throwing.bind_of_error judged _

end ProtocolChecker

/-- As long as there is nothing to report, both modes do the same. -/
theorem step_twin
    {probe next : Probe} {event : SessionEvent T}
    {emitted : List (SessionOutput T)}
    (stepped : sessionMachine.step probe event = some (next, emitted))
    (silent : eventMessages probe event = []) :
    sessionMachine.step probe.twin event = some (next.twin, emitted) ∧
      Unthrown emitted := by
  cases event with
  | request abort isNull =>
      have tolerated : Tolerates probe (requestMessages probe.self abort) :=
        .inr silent
      have twinTolerated :
          Tolerates probe.twin (requestMessages probe.twin.self abort) :=
        .inr silent
      rw [step_request_tolerated isNull tolerated] at stepped
      cases stepped
      rw [step_request_tolerated isNull twinTolerated]
      exact ⟨rfl, by simp [Unthrown]⟩
  | answer position done value =>
      cases issued : probe.callbacks[position]? with
      | none => simp [sessionMachine, issued] at stepped
      | some handed =>
          have twinIssued : probe.twin.callbacks[position]? = some handed :=
            issued
          cases handed with
          | none =>
              rw [step_answer_noop done value issued] at stepped
              cases stepped
              rw [step_answer_noop done value twinIssued]
              exact ⟨rfl, by simp [Unthrown]⟩
          | some callback =>
              simp only [eventMessages, issued] at silent
              have tolerated :
                  Tolerates probe
                    (answerMessages probe.self callback done) :=
                .inr silent
              have twinTolerated :
                  Tolerates probe.twin
                    (answerMessages probe.twin.self callback done) :=
                .inr silent
              rw [step_answer_tolerated value issued tolerated] at stepped
              cases stepped
              rw [step_answer_tolerated value twinIssued twinTolerated]
              exact ⟨rfl, by simp [Unthrown]⟩

/-- Where there is something to report, an eager checker throws the first
message and passes nothing on. -/
theorem step_twin_throws
    {probe : Probe} {event : SessionEvent T} {err : Message}
    {rest : List Message}
    (reported : eventMessages probe event = err :: rest) :
    ∃ next,
      sessionMachine.step probe.twin event = some (next, [.thrown err]) := by
  cases event with
  | request abort isNull =>
      have thrown :
          request abort isNull probe.twin = (.error err, probe.twin) :=
        request_eager isNull rfl reported
      exact ⟨probe.twin, by simp [sessionMachine, CheckerM.emit, thrown]⟩
  | answer position done value =>
      cases issued : probe.callbacks[position]? with
      | none => simp [eventMessages, issued] at reported
      | some handed =>
          cases handed with
          | none => simp [eventMessages, issued] at reported
          | some callback =>
              simp only [eventMessages, issued] at reported
              obtain ⟨next, thrown⟩ :
                  ∃ next,
                    wrappedCallback position callback done probe.twin =
                      (.error err, next) :=
                wrappedCallback_eager position rfl reported
              have twinIssued :
                  probe.twin.callbacks[position]? = some (some callback) :=
                issued
              exact
                ⟨next, by
                  simp [sessionMachine, CheckerM.emit, twinIssued, thrown]⟩

private theorem step_unthrown_of_collecting
    {probe next : Probe} {event : SessionEvent T}
    {emitted : List (SessionOutput T)}
    (collecting : probe.self.notifyEagerly = false)
    (stepped : sessionMachine.step probe event = some (next, emitted)) :
    Unthrown emitted := by
  cases event with
  | request abort isNull =>
      rw [step_request_tolerated isNull (.inl collecting)] at stepped
      cases stepped
      simp [Unthrown]
  | answer position done value =>
      cases issued : probe.callbacks[position]? with
      | none => simp [sessionMachine, issued] at stepped
      | some handed =>
          cases handed with
          | none =>
              rw [step_answer_noop done value issued] at stepped
              cases stepped
              simp [Unthrown]
          | some callback =>
              rw [step_answer_tolerated value issued (.inl collecting)]
                at stepped
              cases stepped
              simp [Unthrown]

/-! ## Sessions -/

private theorem unthrown_of_collecting
    {options : Options} {events : List (SessionEvent T)} {probe : Probe}
    {outputs : List (SessionOutput T)}
    (collecting : options.notifyEagerly = false)
    (ran :
      sessionMachine.run (Probe.create options) events =
        some (probe, outputs)) :
    Unthrown outputs := by
  refine
    Machine.history_invariant (fun _ outputs _ => Unthrown outputs)
      (by simp [Unthrown]) ?_ ran
  intro history outputs probe event next emitted front unthrown stepped
  have mode := (tracks_of_run front unthrown).mode.trans collecting
  exact unthrown.append (step_unthrown_of_collecting mode stepped)

/-- As long as the collecting checker has recorded nothing, both modes do the
same. -/
theorem run_twin
    {options : Options} {events : List (SessionEvent T)} {probe : Probe}
    {outputs : List (SessionOutput T)}
    (ran :
      sessionMachine.run (Probe.create (options.withMode false)) events =
        some (probe, outputs))
    (silent : probe.self.errors = []) :
    sessionMachine.run (Probe.create (options.withMode true)) events =
      some (probe.twin, outputs) := by
  refine
    Machine.history_invariant
      (fun history outputs probe =>
        probe.self.errors = [] →
          sessionMachine.run (Probe.create (options.withMode true)) history =
            some (probe.twin, outputs))
      (fun _ => rfl) ?_ ran silent
  intro history outputs probe event next emitted front earlier stepped
    silent
  have unthrown := unthrown_of_collecting rfl front
  have mode := (tracks_of_run front unthrown).mode
  have now := step_unthrown_of_collecting mode stepped
  rw [(step_errors stepped now).2, List.append_eq_nil_iff] at silent
  exact
    Machine.run_concat_eq_some.mpr
      ⟨probe.twin, outputs, emitted, earlier silent.1,
        (step_twin stepped silent.2).1, rfl⟩

/-- The first event at which the collecting checker records something makes the
eager one throw the first message recorded there and pass nothing on. -/
theorem run_twin_throws
    {options : Options} {history : List (SessionEvent T)}
    {event : SessionEvent T} {probe next : Probe}
    {outputs emitted : List (SessionOutput T)} {err : Message}
    {rest : List Message}
    (ran :
      sessionMachine.run (Probe.create (options.withMode false)) history =
        some (probe, outputs))
    (silent : probe.self.errors = [])
    (stepped : sessionMachine.step probe event = some (next, emitted))
    (reported : next.self.errors = err :: rest) :
    ∃ target,
      sessionMachine.run (Probe.create (options.withMode true))
          (history ++ [event]) =
        some (target, outputs ++ [.thrown err]) := by
  have unthrown := unthrown_of_collecting rfl ran
  have mode := (tracks_of_run ran unthrown).mode
  have now := step_unthrown_of_collecting mode stepped
  rw [(step_errors stepped now).2, silent, List.nil_append] at reported
  obtain ⟨target, thrown⟩ := step_twin_throws reported
  exact
    ⟨target,
      Machine.run_concat_eq_some.mpr
        ⟨probe.twin, outputs, [.thrown err], run_twin ran silent, thrown,
          rfl⟩⟩

/-- Up to the first message the two modes forward the same calls, and none
throws.  With the first message the eager checker throws it and forwards
nothing.  The same holds of the final `Terminate()`. -/
theorem modes_agree
    (options : Options) {events : List (SessionEvent T)} {probe : Probe}
    {outputs : List (SessionOutput T)}
    (ran :
      sessionMachine.run (Probe.create (options.withMode false)) events =
        some (probe, outputs)) :
    Unthrown outputs ∧
      (probe.self.errors = [] →
        ∃ twin,
          sessionMachine.run (Probe.create (options.withMode true)) events =
              some (twin, outputs) ∧
            ((∃ target twinTarget,
                terminate probe = (.ok [], target) ∧
                  terminate twin = (.ok [], twinTarget)) ∨
              ∃ err rest target twinTarget,
                terminate probe = (.ok (err :: rest), target) ∧
                  terminate twin = (.error err, twinTarget))) ∧
      ∀ history event after middle early next emitted err rest,
        events = history ++ event :: after →
        sessionMachine.run (Probe.create (options.withMode false)) history =
          some (middle, early) →
        middle.self.errors = [] →
        sessionMachine.step middle event = some (next, emitted) →
        next.self.errors = err :: rest →
          ∃ target,
            sessionMachine.run (Probe.create (options.withMode true))
                (history ++ [event]) =
              some (target, early ++ [.thrown err]) := by
  have unthrown := unthrown_of_collecting rfl ran
  have mode := (tracks_of_run ran unthrown).mode
  refine ⟨unthrown, ?_, ?_⟩
  · intro silent
    refine ⟨probe.twin, run_twin ran silent, ?_⟩
    have collected := @terminate_tolerated probe (.inl mode)
    rw [silent, List.nil_append] at collected
    cases judged : terminateMessages probe.self with
    | nil =>
        rw [judged] at collected
        have twinJudged : terminateMessages probe.twin.self = [] := judged
        have returned :=
          @terminate_tolerated probe.twin (.inr twinJudged)
        rw [twinJudged, List.append_nil] at returned
        have twinSilent : probe.twin.self.errors = [] := silent
        rw [twinSilent] at returned
        exact .inl ⟨_, _, collected, returned⟩
    | cons err rest =>
        rw [judged] at collected
        exact
          .inr
            ⟨err, rest, _, _, collected,
              @terminate_eager probe.twin rfl err rest judged⟩
  · intro history event after middle early next emitted err rest _ front
      silent stepped reported
    exact run_twin_throws front silent stepped reported

def answeredOutOfOrder : List (SessionEvent Nat) :=
  [.request EndOrError.FALSE false, .request EndOrError.FALSE false,
    .answer 1 EndOrError.FALSE 7, .answer 0 EndOrError.FALSE 8]

theorem modes_agree_answeredOutOfOrder :
    ∃ target,
      sessionMachine.run (Probe.create (Options.withMode {} true))
          (answeredOutOfOrder.take 3) =
        some
          (target,
            [.toSource EndOrError.FALSE, .toSource EndOrError.FALSE,
              .thrown (.invokedBefore 2 1)]) := by
  obtain ⟨probe, outputs, ran⟩ :
      ∃ probe outputs,
        sessionMachine.run (Probe.create (Options.withMode {} false))
            answeredOutOfOrder =
          some (probe, outputs) :=
    ⟨_, _, rfl⟩
  obtain ⟨-, -, throws⟩ := modes_agree {} ran
  exact
    throws (answeredOutOfOrder.take 2) _ _ _ _ _ _
      (.invokedBefore 2 1) [] rfl rfl rfl rfl rfl

end DkPull.PullStream
