import DkPull.PullStream.Sources.Answers
import DkPull.PullStream.Sources.Count
import DkPull.PullStream.Sources.Values

/-!
# Values after termination

A source that has run out of values stays ended.  A source that has been
aborted does not remember it: the next request gets a value as long as there
is one.
-/

namespace DkPull.PullStream.Sources

open DkPull.Types

variable {State T : Type} [Inhabited T]
  {take : State → Option (T × State)}

/-- Behind an answer that ends the stream there is no value. -/
def EndsForGood (trace : List (RequestEvent T)) : Prop :=
  (answers trace).Pairwise fun earlier later =>
    earlier.1.toBool = true → later.1.toBool = true

private theorem reply_ends_iff
    (self : State) {abort : Abort} (asksOn : abort.toBool = false) :
    (reply take self abort).1.1.toBool = true ↔ take self = none := by
  rw [reply, asksOn, if_neg Bool.false_ne_true]
  cases take self with
  | none => exact iff_of_true rfl rfl
  | some next => exact iff_of_false Bool.false_ne_true (by simp)

/-- A source that has run out of values stays as it is. -/
theorem reply_of_exhausted
    {self : State} (exhausted : take self = none) (abort : Abort) :
    (reply take self abort).2 = self := by
  unfold reply
  rw [exhausted]
  split <;> rfl

private theorem stateAfter_of_exhausted
    {self : State} (exhausted : take self = none)
    (requests : List (Abort × Bool)) :
    stateAfter take self requests = self := by
  induction requests with
  | nil => rfl
  | cons request rest inductionHypothesis =>
      rw [stateAfter_cons, reply_of_exhausted exhausted]
      exact inductionHypothesis

private theorem nonAborts_of_abort
    {before between : List (Abort × Bool)} {abort : Abort}
    {isNull : Bool} (aborts : abort.toBool = true) :
    nonAborts (before ++ (abort, isNull) :: between) =
      nonAborts (before ++ between) := by
  have nothing : nonAborts [(abort, isNull)] = 0 := by
    simp [nonAborts, aborts]
  rw [nonAborts_append, nonAborts_cons, nothing, Nat.zero_add,
    nonAborts_append]

/-- A source ends for good if and only if no value is requested behind an abort
while there is one left. -/
theorem Served.endsForGood_iff
    {number : Nat} {self target : State} {trace : List (RequestEvent T)}
    (served : Served take number self trace target) :
    EndsForGood trace ↔
      ∀ before abort between second after,
        asks trace =
            before ++ (abort, false) :: (between ++
              (second, false) :: after) →
        abort.toBool = true → second.toBool = false →
          take
              (stateAfter take self
                (before ++ (abort, false) :: between)) =
            none := by
  unfold EndsForGood
  rw [served.answers_eq, pairwise_replies_iff]
  constructor
  · intro every before abort between second after shape aborts asksOn
    have ends := every before abort between second after shape
    rw [reply_of_abort take _ aborts] at ends
    exact (reply_ends_iff _ asksOn).mp (ends aborts)
  · intro aborted before first between second after shape ends
    cases asksOn : second.toBool with
    | true =>
        rw [reply_of_abort take _ asksOn]
        exact asksOn
    | false =>
        rw [reply_ends_iff _ asksOn]
        cases aborts : first.toBool with
        | true =>
            exact
              aborted before first between second after shape aborts asksOn
        | false =>
            have exhausted := (reply_ends_iff _ aborts).mp ends
            rw [stateAfter_append, stateAfter_of_exhausted exhausted]
            exact exhausted

private theorem Values.take_eq_none_iff
    (values : List T) (requests : List (Abort × Bool)) :
    Values.take (stateAfter Values.take (Values.create values) requests) =
        none ↔
      values.length ≤ nonAborts requests := by
  rw [Values.stateAfter_create, ← List.drop_eq_nil_iff]
  unfold Values.take Values.create
  cases values.drop (nonAborts requests) <;> simp

private theorem Count.take_eq_none_iff
    (maximum : UInt64) (requests : List (Abort × Bool)) :
    Count.take (stateAfter Count.take (Count.create maximum) requests) =
        none ↔
      maximum.toNat + 1 < 2 ^ 64 ∧ maximum.toNat < nonAborts requests := by
  have bound := maximum.toNat_lt
  have ended :
      Count.take
          (stateAfter Count.take (Count.create maximum) requests) =
          none ↔
        maximum.toNat <
          (Count.counter maximum (nonAborts requests)).toNat := by
    rw [Count.stateAfter_create, ← UInt64.lt_iff_toNat_lt]
    simp [Count.take]
  rw [ended]
  by_cases bounded : maximum.toNat + 1 < 2 ^ 64
  · rw [Count.counter_of_bounded bounded]
    omega
  · have inRange :=
      (Count.counter maximum (nonAborts requests)).toNat_lt
    omega

/-- A value that is requested after an abort is handed out. -/
theorem not_endsForGood_after_abort :
    ¬ EndsForGood
        ((Requests.flat
            [(EndOrError.TRUE, false), (EndOrError.FALSE, false)]).traceFrom
          Values.sources (Values.create [7])) ∧
      ¬ EndsForGood
        ((Requests.flat
            [(EndOrError.TRUE, false), (EndOrError.FALSE, false)]).traceFrom
          Count.sources (Count.create 5)) := by
  unfold EndsForGood
  decide

/-- `Values` and `Count` end for good if and only if no value is requested
behind an abort that was answered while there is one left.  A `Count` to the
greatest number of 64 bits always has one. -/
theorem sources_endForGood_iff
    (values : List T) (requests : Requests T)
    (maximum : UInt64) (countRequests : Requests UInt64) :
    (EndsForGood
          (requests.traceFrom Values.sources (Values.create values)) ↔
        ∀ before abort between second after,
          asks (requests.traceFrom Values.sources (Values.create values)) =
              before ++ (abort, false) :: (between ++
                (second, false) :: after) →
          abort.toBool = true → second.toBool = false →
            values.length ≤ nonAborts (before ++ between)) ∧
      (EndsForGood
          (countRequests.traceFrom Count.sources (Count.create maximum)) ↔
        ∀ before abort between second after,
          asks
                (countRequests.traceFrom Count.sources
                  (Count.create maximum)) =
              before ++ (abort, false) :: (between ++
                (second, false) :: after) →
          abort.toBool = true → second.toBool = false →
            maximum.toNat + 1 < 2 ^ 64 ∧
              maximum.toNat < nonAborts (before ++ between)) := by
  constructor
  · obtain ⟨-, served⟩ :=
      requests.perform_from Values.sources_replies (Values.create values)
    rw [served.endsForGood_iff]
    refine forall₅_congr fun before abort between second after => ?_
    refine imp_congr_right fun _ => imp_congr_right fun aborts => ?_
    rw [Values.take_eq_none_iff, nonAborts_of_abort aborts]
  · obtain ⟨-, served⟩ :=
      countRequests.perform_from Count.sources_replies
        (Count.create maximum)
    rw [served.endsForGood_iff]
    refine forall₅_congr fun before abort between second after => ?_
    refine imp_congr_right fun _ => imp_congr_right fun aborts => ?_
    rw [Count.take_eq_none_iff, nonAborts_of_abort aborts]

end DkPull.PullStream.Sources
