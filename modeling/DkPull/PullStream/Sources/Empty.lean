import DkPull.PullStream.Sources.Values

/-!
# The empty source

`MakeEmpty` returns a source that answers every request with a clean end.  It
does not look at the abort and calls the callback without a check, so unlike
`Values` without elements it loses the message of an error, and throws when
the callback is null.
-/

namespace DkPull.PullStream.Sources

open DkPull.Types
open DkPull.Reactive

variable {T : Type} [Inhabited T]

def makeEmpty : Source PUnit T := fun _ cb =>
  match cb with
  | none => throw .badFunctionCall
  | some cb => cb EndOrError.TRUE default

def emptySources (_ : Nat) : Source PUnit T :=
  makeEmpty

/-- Every request has a callback, and none carries an error, as long as all of
them are answered with a clean end. -/
def Requests.isPlain : Requests T → Bool
  | nil => true
  | silent _ _ _ => false
  | request _ abort callback rest =>
      !abort.isError && (callback EndOrError.TRUE default).isPlain &&
        rest.isPlain

/-- A request with a null callback is the last thing that happens. -/
theorem Requests.emptySources_silent
    (handle : Nat) (abort : Abort) (rest : Requests T)
    (trace : List (RequestEvent T)) :
    (Requests.silent handle abort rest).perform emptySources ⟨⟨⟩, trace⟩ =
      (.error .badFunctionCall,
        ⟨⟨⟩, trace ++ [.asked abort true]⟩) := by
  simp [Requests.perform, ask, record, emptySources, makeEmpty]

theorem Requests.emptySources_request
    (handle : Nat) (abort : Abort) (callback : Done → T → Requests T)
    (rest : Requests T) (trace : List (RequestEvent T)) :
    (Requests.request handle abort callback rest).perform emptySources
        ⟨⟨⟩, trace⟩ =
      ((callback EndOrError.TRUE default).perform emptySources >>= fun _ =>
          record (.returned (asks trace).length) >>= fun _ =>
            rest.perform emptySources)
        ⟨⟨⟩,
          trace ++
            [.asked abort false,
              .answered (asks trace).length EndOrError.TRUE default]⟩ :=
  Requests.perform_request (fun _ _ => rfl) callback rest trace

/-- Without elements and without errors `Values` answers every request with a
clean end. -/
theorem reply_create_nil
    {abort : Abort} (noError : abort.isError = false) :
    reply Values.take (Values.create ([] : List T)) abort =
      ((EndOrError.TRUE, default), Values.create []) := by
  unfold reply
  split
  · rename_i aborts
    rw [EndOrError.eq_TRUE_of_toBool aborts noError]
  · rfl

/-- Plain requests get the same from both sources. -/
theorem Requests.emptySources_agree
    {requests : Requests T} (plain : requests.isPlain = true)
    (trace : List (RequestEvent T)) :
    ∃ later,
      requests.perform emptySources ⟨⟨⟩, trace⟩ =
          (.ok ⟨⟩, ⟨⟨⟩, later⟩) ∧
        requests.perform Values.sources ⟨Values.create [], trace⟩ =
          (.ok ⟨⟩, ⟨Values.create [], later⟩) := by
  induction requests generalizing trace with
  | nil => exact ⟨trace, rfl, rfl⟩
  | silent handle abort rest =>
      cases plain
  | request handle abort callback rest callbackHypothesis restHypothesis =>
      rw [isPlain, Bool.and_eq_true, Bool.and_eq_true,
        Bool.not_eq_true'] at plain
      obtain ⟨⟨noError, callbackPlain⟩, restPlain⟩ := plain
      have answers :
          ∀ (cb : SourceCallback (Values T) T) trace,
            Values.sources handle abort (some cb)
                ⟨Values.create [], trace⟩ =
              cb EndOrError.TRUE default ⟨Values.create [], trace⟩ := by
        intro cb trace
        rw [(Values.sources_replies handle).request,
          reply_create_nil noError]
      obtain ⟨inner, emptyInner, valuesInner⟩ :=
        callbackHypothesis _ _ callbackPlain
          (trace ++
            [.asked abort false,
              .answered (asks trace).length EndOrError.TRUE default])
      obtain ⟨later, emptyRest, valuesRest⟩ :=
        restHypothesis restPlain
          (inner ++ [.returned (asks trace).length])
      refine ⟨later, ?_, ?_⟩
      · rw [emptySources_request, Throwing.bind_of_ok emptyInner]
        exact (Throwing.bind_of_ok rfl _).trans emptyRest
      · rw [perform_request answers, Throwing.bind_of_ok valuesInner]
        exact (Throwing.bind_of_ok rfl _).trans valuesRest

end DkPull.PullStream.Sources
