import DkPull.PullStream.Sources.Requests

/-!
# Values

`Values` hands out the elements of a list.  All functions that its `Source()`
returns share the list, so every element is handed out once, in the order in
which the requests begin.
-/

namespace DkPull.PullStream.Sources

open DkPull.Types
open DkPull.Reactive

structure Values (T : Type) where
  values : List T
  deriving DecidableEq, Repr

namespace Values

variable {T : Type} [Inhabited T]

def create (values : List T) : Values T where
  values := values

def source : Source (Values T) T := fun abort cb => do
  let cb := cb.getD fun _ _ => pure ⟨⟩
  if abort.toBool then
    cb abort default
  else
    match (← get).self.values with
    | [] => cb EndOrError.TRUE default
    | t :: rest =>
        assignSelf { values := rest }
        cb EndOrError.FALSE t

/-- Every call of `Values::Source` returns the same function of the shared
object. -/
def sources (_ : Nat) : Source (Values T) T :=
  source

def take (self : Values T) : Option (T × Values T) :=
  match self.values with
  | [] => none
  | t :: rest => some (t, { values := rest })

/-- Each path through the function ends with the call of the callback, behind
the removal of the element. -/
theorem source_replies : Replies take (source (T := T)) := by
  intro abort cb exchange
  obtain ⟨⟨values⟩, trace⟩ := exchange
  cases aborts : abort.toBool with
  | true => cases cb <;> simp [source, reply, aborts]
  | false =>
      cases values with
      | nil => cases cb <;> simp [source, reply, take, aborts]
      | cons t rest =>
          cases cb <;> simp [source, reply, take, assignSelf, aborts]

theorem sources_replies (handle : Nat) :
    Replies take (sources (T := T) handle) :=
  source_replies

private theorem reply_create_state
    (values : List T) (request : Abort × Bool) :
    (reply take (create values) request.1).2 =
      create (values.drop (nonAborts [request])) := by
  cases aborts : request.1.toBool with
  | true => simp [reply, nonAborts, aborts]
  | false =>
      cases values <;> simp [reply, nonAborts, take, create, aborts]

theorem stateAfter_create
    (values : List T) (requests : List (Abort × Bool)) :
    stateAfter take (create values) requests =
      create (values.drop (nonAborts requests)) := by
  induction requests generalizing values with
  | nil => rfl
  | cons request rest inductionHypothesis =>
      rw [stateAfter_cons, reply_create_state, inductionHypothesis,
        List.drop_drop, nonAborts_cons request rest]

/-- The answer to a request behind some number of requests that were not
aborts. -/
def answerOf (values : List T) (earlier : Nat) (abort : Abort) : Done × T :=
  if abort.toBool then (abort, default)
  else
    match values[earlier]? with
    | some t => (EndOrError.FALSE, t)
    | none => (EndOrError.TRUE, default)

private theorem reply_create
    (values : List T) (earlier : Nat) (abort : Abort) :
    (reply take (create (values.drop earlier)) abort).1 =
      answerOf values earlier abort := by
  unfold reply answerOf
  split
  · rfl
  · rw [← Nat.add_zero earlier, ← List.getElem?_drop, Nat.add_zero]
    cases values.drop earlier with
    | nil => rfl
    | cons t rest => rfl

/-- The requests that are not aborts get the elements of the list in order, and
then the end; an abort is answered by itself and takes no element.  Every
request with a callback is answered once, before it returns, and no request
throws. -/
theorem answers_in_order (values : List T) (requests : Requests T) :
    requests.perform sources ⟨create values, []⟩ =
        (.ok ⟨⟩,
          ⟨create
              (values.drop
                (nonAborts
                  (asks (requests.traceFrom sources (create values))))),
            requests.traceFrom sources (create values)⟩) ∧
      ∀ before abort isNull after,
        requests.traceFrom sources (create values) =
            before ++ .asked abort isNull :: after →
          answersOf (asks before).length
              (requests.traceFrom sources (create values)) =
            (if isNull then []
            else [answerOf values (nonAborts (asks before)) abort]) ∧
          ReturnsOnce (asks before).length after := by
  obtain ⟨performed, served⟩ :=
    requests.perform_from sources_replies (create values)
  rw [stateAfter_create] at performed
  refine ⟨performed, ?_⟩
  intro before abort isNull after shape
  have answered := served.asked shape
  rw [stateAfter_create, reply_create, Nat.zero_add] at answered
  exact answered

end Values

end DkPull.PullStream.Sources
