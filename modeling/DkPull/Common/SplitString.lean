import DkPull.Reactive.Throwing

/-!
# Splitting strings

`SplitString` goes through a string from one delimiter to the next with
`find`, and takes the tokens between them with `substr`, which throws when it
is asked to begin behind the end of the string.  A string is the list of its
characters; nothing depends on what the characters are.
-/

namespace DkPull.Common

open DkPull.Reactive

variable {CharT : Type}

inductive OutOfRange where
  | outOfRange
  deriving DecidableEq, Repr

/-- Code that works on `*result`. -/
abbrev SplitM (CharT : Type) :=
  Throwing OutOfRange (List (List CharT))

/-- `full.find(delim, pos)`.  `npos` is `none`. -/
def find [DecidableEq CharT]
    (full : List CharT) (delim : CharT) (pos : Nat) : Option Nat :=
  ((full.drop pos).findIdx? (· = delim)).map (pos + ·)

def substr
    (full : List CharT) (pos count : Nat) : SplitM CharT (List CharT) :=
  if pos > full.length then throw .outOfRange
  else pure ((full.drop pos).take count)

def clear : SplitM CharT PUnit :=
  modify fun _ => []

def pushBack (token : List CharT) : SplitM CharT PUnit :=
  modify fun result => result ++ [token]

private theorem substr_run
    {full : List CharT} {pos : Nat} (inRange : pos ≤ full.length)
    (count : Nat) (result : List (List CharT)) :
    substr full pos count result =
      (.ok ((full.drop pos).take count), result) := by
  rw [substr, if_neg (Nat.not_lt.mpr inRange)]
  rfl

private theorem pushBack_run
    (token : List CharT) (result : List (List CharT)) :
    pushBack token result = (.ok ⟨⟩, result ++ [token]) :=
  rfl

private theorem clear_run (result : List (List CharT)) :
    clear result = (.ok ⟨⟩, []) :=
  rfl

variable [DecidableEq CharT]

/-- A delimiter that is found stands behind a token without delimiters. -/
theorem find_eq_some
    {full : List CharT} {delim : CharT} {prevPos pos : Nat}
    (found : find full delim prevPos = some pos) :
    ∃ token,
      full.drop prevPos = token ++ delim :: full.drop (pos + 1) ∧
        delim ∉ token ∧ pos = prevPos + token.length := by
  obtain ⟨index, isIndex, rfl⟩ := Option.map_eq_some_iff.mp found
  obtain ⟨inRange, isDelim, sooner⟩ :=
    List.findIdx?_eq_some_iff_getElem.mp isIndex
  have length : ((full.drop prevPos).take index).length = index :=
    List.length_take_of_le (Nat.le_of_lt inRange)
  refine ⟨(full.drop prevPos).take index, ?_, ?_, ?_⟩
  · have behind :
        (full.drop prevPos).drop index =
          delim :: full.drop (prevPos + index + 1) := by
      rw [List.drop_eq_getElem_cons inRange, of_decide_eq_true isDelim,
        List.drop_drop, Nat.add_assoc]
    rw [← behind, List.take_append_drop]
  · intro member
    obtain ⟨earlier, isEarlier, same⟩ := List.getElem_of_mem member
    rw [length] at isEarlier
    rw [List.getElem_take] at same
    exact sooner earlier isEarlier (decide_eq_true same)
  · rw [length]

private theorem find_eq_none
    {full : List CharT} {delim : CharT} {prevPos : Nat}
    (missing : find full delim prevPos = none) :
    delim ∉ full.drop prevPos := by
  have never :=
    List.findIdx?_eq_none_iff.mp (Option.map_eq_none_iff.mp missing)
  intro member
  simpa using never delim member

private theorem find_bounds
    {full : List CharT} {delim : CharT} {prevPos pos : Nat}
    (found : find full delim prevPos = some pos) :
    prevPos ≤ pos ∧ pos < full.length := by
  obtain ⟨token, shape, -, rfl⟩ := find_eq_some found
  have lengths := congrArg List.length shape
  simp only [List.length_drop, List.length_append, List.length_cons]
    at lengths
  omega

/-- The loop of `DoSplitString` with the current value of `prev_pos`, and the
last token behind the loop. -/
def splitFrom (full : List CharT) (delim : CharT) (prevPos : Nat) :
    SplitM CharT PUnit :=
  match found : find full delim prevPos with
  | some pos => do
      let token ← substr full prevPos (pos - prevPos)
      pushBack token
      splitFrom full delim (pos + 1)
  | none => do
      let token ← substr full prevPos (full.length - prevPos)
      pushBack token
termination_by full.length - prevPos
decreasing_by
  have bounds := find_bounds found
  omega

def doSplitString (full : List CharT) (delim : CharT) :
    SplitM CharT PUnit := do
  clear
  if full.isEmpty then
    return
  splitFrom full delim 0

def splitString (full : List CharT) (delim : CharT) : SplitM CharT PUnit :=
  doSplitString full delim

def splitStringView (full : List CharT) (delim : CharT) :
    SplitM CharT PUnit :=
  doSplitString full delim

private theorem splitFrom_of_found
    {full : List CharT} {delim : CharT} {prevPos pos : Nat}
    (found : find full delim prevPos = some pos) :
    splitFrom full delim prevPos =
      substr full prevPos (pos - prevPos) >>= fun token =>
        pushBack token >>= fun _ => splitFrom full delim (pos + 1) := by
  rw [splitFrom]
  split
  next other isOther =>
    rw [found] at isOther
    cases isOther
    rfl
  next missing =>
    rw [found] at missing
    cases missing

private theorem splitFrom_of_missing
    {full : List CharT} {delim : CharT} {prevPos : Nat}
    (missing : find full delim prevPos = none) :
    splitFrom full delim prevPos =
      substr full prevPos (full.length - prevPos) >>= pushBack := by
  rw [splitFrom]
  split
  next pos found =>
    rw [missing] at found
    cases found
  next => rfl

/-- From a position inside the string or at its end, the loop appends the tokens
behind this position. -/
theorem splitFrom_run
    (full : List CharT) (delim : CharT) {prevPos : Nat}
    (inRange : prevPos ≤ full.length) (result : List (List CharT)) :
    splitFrom full delim prevPos result =
      (.ok ⟨⟩, result ++ (full.drop prevPos).splitOn delim) := by
  cases found : find full delim prevPos with
  | some pos =>
      obtain ⟨token, shape, free, rfl⟩ := find_eq_some found
      have behind : prevPos + token.length + 1 ≤ full.length :=
        (find_bounds found).2
      have taken :
          (full.drop prevPos).take (prevPos + token.length - prevPos) =
            token := by
        rw [shape, Nat.add_sub_cancel_left, List.take_left]
      rw [splitFrom_of_found found,
        Throwing.bind_of_ok (substr_run inRange _ result), taken,
        Throwing.bind_of_ok (pushBack_run token result),
        splitFrom_run full delim behind, shape,
        List.splitOn_append_cons_self_of_not_mem free, List.append_assoc,
        List.singleton_append]
  | none =>
      have all :
          (full.drop prevPos).take (full.length - prevPos) =
            full.drop prevPos :=
        List.take_of_length_le (Nat.le_of_eq List.length_drop)
      rw [splitFrom_of_missing found,
        Throwing.bind_of_ok (substr_run inRange _ result), all,
        List.splitOn_eq_singleton (find_eq_none found)]
      rfl
termination_by full.length - prevPos
decreasing_by
  omega

/-- `DoSplitString` replaces the content of `*result` by the pieces between the
delimiters, or by nothing if the string is empty. -/
theorem doSplitString_run
    (full : List CharT) (delim : CharT) (previous : List (List CharT)) :
    doSplitString full delim previous =
      (.ok ⟨⟩, if full = [] then [] else full.splitOn delim) := by
  rw [doSplitString, Throwing.bind_of_ok (clear_run previous)]
  cases full with
  | nil => rfl
  | cons first rest =>
      exact splitFrom_run (first :: rest) delim (Nat.zero_le _) []

example (previous : List (List Char)) :
    splitString [',', ','] ',' previous = (.ok ⟨⟩, [[], [], []]) :=
  doSplitString_run [',', ','] ',' previous

def join (tokens : List (List CharT)) (delim : CharT) : List CharT :=
  [delim].intercalate tokens

private theorem not_mem_of_mem_splitOn
    {full token : List CharT} {delim : CharT}
    (member : token ∈ full.splitOn delim) : delim ∉ token := by
  induction full generalizing token with
  | nil =>
      rw [List.splitOn_nil, List.mem_singleton] at member
      rw [member]
      exact List.not_mem_nil
  | cons first rest inductionHypothesis =>
      rw [List.splitOn_cons_eq_if_modifyHead] at member
      by_cases isDelim : first = delim
      · rw [if_pos (beq_iff_eq.mpr isDelim)] at member
        rcases List.mem_cons.mp member with rfl | later
        · exact List.not_mem_nil
        · exact inductionHypothesis later
      · rw [if_neg (mt beq_iff_eq.mp isDelim)] at member
        obtain ⟨piece, pieces, shape⟩ :=
          List.exists_cons_of_ne_nil (List.splitOn_ne_nil delim rest)
        rw [shape, List.modifyHead_cons] at member
        rw [shape] at inductionHypothesis
        rcases List.mem_cons.mp member with rfl | later
        · have free := inductionHypothesis List.mem_cons_self
          rw [List.mem_cons, not_or]
          exact ⟨Ne.symm isDelim, free⟩
        · exact inductionHypothesis (List.mem_cons_of_mem _ later)

private theorem length_splitOn (full : List CharT) (delim : CharT) :
    (full.splitOn delim).length = full.count delim + 1 := by
  induction full with
  | nil => rfl
  | cons first rest inductionHypothesis =>
      rw [List.splitOn_cons_eq_if_modifyHead, List.count_cons]
      by_cases isDelim : first = delim
      · rw [if_pos (beq_iff_eq.mpr isDelim),
          if_pos (beq_iff_eq.mpr isDelim), List.length_cons,
          inductionHypothesis]
      · rw [if_neg (mt beq_iff_eq.mp isDelim),
          if_neg (mt beq_iff_eq.mp isDelim), List.length_modifyHead,
          inductionHypothesis]

omit [DecidableEq CharT] in
/-- Only no tokens at all and a single empty token are joined to the empty
string. -/
theorem eq_of_join_eq_nil
    {tokens : List (List CharT)} {delim : CharT}
    (joined : join tokens delim = []) : tokens = [] ∨ tokens = [[]] := by
  cases tokens with
  | nil => exact .inl rfl
  | cons first rest =>
      cases rest with
      | nil =>
          rw [join, List.intercalate_singleton] at joined
          exact .inr (by rw [joined])
      | cons second others =>
          rw [join, List.intercalate_cons_cons] at joined
          simp at joined

/-- Joining undoes splitting, and splitting undoes joining unless the tokens are
a single empty one.  The code never throws, and what `*result` held before does
not matter. -/
theorem splitString_inverse_join (delim : CharT) :
    (∀ full : List CharT, ∃ tokens,
        (∀ previous,
          splitString full delim previous = (.ok ⟨⟩, tokens) ∧
            splitStringView full delim previous = (.ok ⟨⟩, tokens)) ∧
          (∀ token ∈ tokens, delim ∉ token) ∧
          tokens.length =
            (if full = [] then 0 else full.count delim + 1) ∧
          join tokens delim = full) ∧
      ∀ tokens : List (List CharT),
        (∀ token ∈ tokens, delim ∉ token) → tokens ≠ [[]] →
          ∀ previous,
            splitString (join tokens delim) delim previous =
                (.ok ⟨⟩, tokens) ∧
              splitStringView (join tokens delim) delim previous =
                (.ok ⟨⟩, tokens) := by
  constructor
  · intro full
    have ran := doSplitString_run full delim
    refine ⟨_, fun previous => ⟨ran previous, ran previous⟩, ?_⟩
    by_cases isEmpty : full = []
    · rw [if_pos isEmpty, if_pos isEmpty, isEmpty]
      exact ⟨fun _ member => absurd member List.not_mem_nil, rfl, rfl⟩
    · rw [if_neg isEmpty, if_neg isEmpty]
      exact
        ⟨fun _ => not_mem_of_mem_splitOn, length_splitOn full delim,
          List.intercalate_splitOn delim⟩
  · intro tokens free notSingle previous
    have ran := doSplitString_run (join tokens delim) delim previous
    have tokensAgain :
        (if join tokens delim = [] then []
          else (join tokens delim).splitOn delim) =
          tokens := by
      by_cases isEmpty : join tokens delim = []
      · rw [if_pos isEmpty]
        exact ((eq_of_join_eq_nil isEmpty).resolve_right notSingle).symm
      · rw [if_neg isEmpty]
        apply List.splitOn_intercalate delim free
        rintro rfl
        exact isEmpty rfl
    rw [tokensAgain] at ran
    exact ⟨ran, ran⟩

theorem splitString_inverse_join_threeWords :
    splitString (join [['a', ' '], [], [' ', 'b']] 'x') 'x' [['1'], ['2']] =
        (.ok ⟨⟩, [['a', ' '], [], [' ', 'b']]) ∧
      splitStringView (join [['a', ' '], [], [' ', 'b']] 'x') 'x'
          [['1'], ['2']] =
        (.ok ⟨⟩, [['a', ' '], [], [' ', 'b']]) :=
  (splitString_inverse_join 'x').2 _ (by decide) (by decide) _

end DkPull.Common
