import Mathlib.Tactic.Common

/-!
# End-or-error flags

`EndOrError` is the type of both `Abort` (what a consumer passes upstream) and
`Done` (what a source passes downstream).  Its constructors set at most one of
the two flags and leave the message empty unless the error flag is set, so
these facts are fields of the structure.
-/

namespace DkPull.Types

/-- Either nothing happened yet, or the stream ended, or it failed with a
message. -/
@[ext]
structure EndOrError where
  isEnd : Bool
  isError : Bool
  errorMessage : String
  exclusive : (isEnd && isError) = false
  silent : isError = false → errorMessage = ""
  deriving DecidableEq, Repr

namespace EndOrError

def ofBool (endFlag : Bool) : EndOrError where
  isEnd := endFlag
  isError := false
  errorMessage := ""
  exclusive := Bool.and_false endFlag
  silent := fun _ => rfl

def ofMessage (message : String) : EndOrError where
  isEnd := false
  isError := true
  errorMessage := message
  exclusive := rfl
  silent := fun impossible => nomatch impossible

def TRUE : EndOrError := ofBool true

def FALSE : EndOrError := ofBool false

def toBool (flag : EndOrError) : Bool :=
  flag.isEnd || flag.isError

@[simp]
theorem toBool_TRUE : TRUE.toBool = true :=
  rfl

@[simp]
theorem toBool_FALSE : FALSE.toBool = false :=
  rfl

@[simp]
theorem toBool_ofMessage (message : String) :
    (ofMessage message).toBool = true :=
  rfl

/-- The only flag that tests false is `FALSE` itself: no message can hide
behind two unset flags. -/
theorem eq_FALSE_of_toBool_false
    {flag : EndOrError} (unset : flag.toBool = false) :
    flag = FALSE := by
  have bothUnset : flag.isEnd = false ∧ flag.isError = false := by
    simpa [toBool] using unset
  apply EndOrError.ext
  · exact bothUnset.1
  · exact bothUnset.2
  · exact flag.silent bothUnset.2

/-- Every flag is unset, a clean end, or an error with its message. -/
theorem eq_FALSE_or_TRUE_or_ofMessage (flag : EndOrError) :
    flag = FALSE ∨ flag = TRUE ∨
      flag = ofMessage flag.errorMessage := by
  have exclusive := flag.exclusive
  cases failed : flag.isError with
  | false =>
      have message := flag.silent failed
      cases ended : flag.isEnd with
      | false =>
          exact Or.inl (EndOrError.ext ended failed message)
      | true =>
          exact Or.inr (Or.inl (EndOrError.ext ended failed message))
  | true =>
      rw [failed, Bool.and_true] at exclusive
      exact Or.inr (Or.inr (EndOrError.ext exclusive failed rfl))

theorem eq_TRUE_of_toBool
    {flag : EndOrError} (set : flag.toBool = true)
    (noError : flag.isError = false) : flag = TRUE := by
  rcases eq_FALSE_or_TRUE_or_ofMessage flag with unset | ended | failed
  · rw [unset] at set
    cases set
  · exact ended
  · rw [failed] at noError
    cases noError

end EndOrError

/-- What a consumer passes to its source. -/
abbrev Abort := EndOrError

abbrev Done := EndOrError

end DkPull.Types
