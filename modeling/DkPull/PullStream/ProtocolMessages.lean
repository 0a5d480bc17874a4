import DkPull.PullStream.ProtocolChecker

/-!
# Reading the messages of the protocol checker

A list of messages is returned as a list of texts.  This module recovers from
a text what is needed of the message behind it: the number of the violated
rule, and for rule 2 and one of the two texts of rule 4 the whole message.
-/

namespace DkPull.PullStream

/-- The number of the violated rule, as it is printed. -/
def Message.rule : Message → Char
  | valueRequestedAfterTermination => '1'
  | neverInvoked _ => '2'
  | invokedTimes _ _ => '3'
  | invokedAfter _ _ => '4'
  | invokedBefore _ _ => '4'
  | returnedValueAfterTermination _ => '5'
  | requestAfterAborted => '6'
  | requestAfterTerminated => '6'
  | neverTerminated => '7'

/-- The character of a text at which the number of the rule is printed. -/
def ruleOfText (text : String) : Option Char :=
  text.toList[10]?

private theorem ruleOfText_append
    {start : String} {rule : Char} (found : ruleOfText start = some rule)
    (rest : String) :
    ruleOfText (start ++ rest) = some rule := by
  unfold ruleOfText at found ⊢
  have inRange := (List.getElem?_eq_some_iff.mp found).1
  rw [String.toList_append, List.getElem?_append_left inRange, found]

private theorem ruleOfText_neverInvoked :
    ruleOfText "Invariant 2 violated: callback " = some '2' := by
  decide

private theorem ruleOfText_outOfOrder :
    ruleOfText "Invariant 4 violated: callback " = some '4' := by
  decide

/-- Every text names the rule of its message. -/
theorem ruleOfText_text (err : Message) :
    ruleOfText err.text = some err.rule := by
  cases err with
  | valueRequestedAfterTermination =>
      decide
  | neverInvoked k =>
      exact
        ruleOfText_append (ruleOfText_append ruleOfText_neverInvoked _) _
  | invokedTimes i counter =>
      have start : ruleOfText "Invariant 3 violated: callback " = some '3' :=
        by decide
      exact
        ruleOfText_append
          (ruleOfText_append
            (ruleOfText_append (ruleOfText_append start _) _) _) _
  | invokedAfter i latest =>
      exact
        ruleOfText_append
          (ruleOfText_append (ruleOfText_append ruleOfText_outOfOrder _) _) _
  | invokedBefore i expected =>
      exact
        ruleOfText_append
          (ruleOfText_append (ruleOfText_append ruleOfText_outOfOrder _) _) _
  | returnedValueAfterTermination i =>
      have start : ruleOfText "Invariant 5 violated: callback " = some '5' :=
        by decide
      exact ruleOfText_append (ruleOfText_append start _) _
  | requestAfterAborted =>
      decide
  | requestAfterTerminated =>
      decide
  | neverTerminated =>
      decide

/-- Equal lists of texts come from messages of the same rules. -/
theorem rules_eq_of_texts_eq
    {first second : List Message}
    (same : first.map Message.text = second.map Message.text) :
    first.map Message.rule = second.map Message.rule := by
  have read :
      ∀ errs : List Message,
        (errs.map Message.text).map ruleOfText =
          (errs.map Message.rule).map some := by
    intro errs
    simp only [List.map_map]
    exact List.map_congr_left fun err _ => ruleOfText_text err
  have mapped := congrArg (List.map ruleOfText) same
  rw [read, read] at mapped
  exact List.map_injective_iff.mpr (fun _ _ => Option.some.inj) mapped

private theorem eq_neverInvoked_of_rule
    {err : Message} (rule : err.rule = '2') : ∃ i, err = .neverInvoked i := by
  cases err with
  | neverInvoked i => exact ⟨i, rfl⟩
  | _ => simp [Message.rule] at rule

private theorem eq_invokedAfter_or_invokedBefore_of_rule
    {err : Message} (rule : err.rule = '4') :
    (∃ i latest, err = .invokedAfter i latest) ∨
      ∃ i expected, err = .invokedBefore i expected := by
  cases err with
  | invokedAfter i latest => exact .inl ⟨i, latest, rfl⟩
  | invokedBefore i expected => exact .inr ⟨i, expected, rfl⟩
  | _ => simp [Message.rule] at rule

private theorem toString_toList_injective
    {first second : Nat}
    (same : (toString first).toList = (toString second).toList) :
    first = second := by
  have numbers := congrArg (fun read => Nat.ofDigitChars 10 read 0) same
  simpa [Nat.toString_eq_ofList_toDigits] using numbers

theorem eq_neverInvoked_of_text_eq
    {err : Message} {k : Nat}
    (same :
      err.text =
        "Invariant 2 violated: callback " ++ toString k ++
          " was never invoked") :
    ∃ i, err = .neverInvoked i ∧ i.toNat = k := by
  have rule := ruleOfText_text err
  rw [same,
    ruleOfText_append (ruleOfText_append ruleOfText_neverInvoked _) _]
    at rule
  obtain ⟨i, rfl⟩ :=
    eq_neverInvoked_of_rule (Option.some.inj rule).symm
  have chars :
      ("Invariant 2 violated: callback " ++ toString i.toNat ++
          " was never invoked").toList =
        ("Invariant 2 violated: callback " ++ toString k ++
          " was never invoked").toList :=
    congrArg String.toList same
  rw [String.toList_append, String.toList_append, String.toList_append,
    String.toList_append] at chars
  have digits := List.append_cancel_left (List.append_cancel_right chars)
  exact ⟨i, rfl, toString_toList_injective digits⟩

/-- Up to its first blank a text is determined by the text. -/
theorem append_blank_inj
    {first second firstRest secondRest : List Char}
    (firstFree : ' ' ∉ first) (secondFree : ' ' ∉ second)
    (same : first ++ ' ' :: firstRest = second ++ ' ' :: secondRest) :
    first = second ∧ firstRest = secondRest := by
  induction first generalizing second with
  | nil =>
      cases second with
      | nil =>
          simpa using same
      | cons char more =>
          simp only [List.nil_append, List.cons_append] at same
          injection same with blank _
          exact absurd (List.mem_cons.mpr (.inl blank)) secondFree
  | cons char more inductionHypothesis =>
      cases second with
      | nil =>
          simp only [List.nil_append, List.cons_append] at same
          injection same with blank _
          exact absurd (List.mem_cons.mpr (.inl blank.symm)) firstFree
      | cons other others =>
          simp only [List.cons_append] at same
          injection same with head tail
          obtain ⟨fronts, rests⟩ :=
            inductionHypothesis
              (fun member => firstFree (List.mem_cons_of_mem _ member))
              (fun member => secondFree (List.mem_cons_of_mem _ member))
              tail
          exact ⟨by rw [head, fronts], rests⟩

private theorem blank_not_mem_toString (n : Nat) :
    ' ' ∉ (toString n).toList := by
  intro member
  rw [Nat.toString_eq_ofList_toDigits, String.toList_ofList] at member
  have digit : Char.isDigit ' ' :=
    Nat.isDigit_of_mem_toDigits (by decide) (by decide) member
  exact absurd digit (by decide)

private theorem toList_append_append_append (start a word b : String) :
    (start ++ a ++ word ++ b).toList =
      start.toList ++ (a.toList ++ (word.toList ++ b.toList)) := by
  simp

/-- A text of rule 4 about a callback that is early has both printed indices
of its message. -/
theorem eq_invokedBefore_of_text_eq
    {err : Message} {a b : Nat}
    (same :
      err.text =
        "Invariant 4 violated: callback " ++ toString a ++
          " invoked before callback " ++ toString b) :
    ∃ i expected,
      err = .invokedBefore i expected ∧ i.toNat = a ∧
        expected.toNat = b := by
  have rule := ruleOfText_text err
  rw [same,
    ruleOfText_append
      (ruleOfText_append (ruleOfText_append ruleOfText_outOfOrder _) _) _]
    at rule
  have beforeWord :
      " invoked before callback ".toList =
        ' ' :: "invoked before callback ".toList := by
    decide
  have afterWord :
      " invoked after callback ".toList =
        ' ' :: "invoked after callback ".toList := by
    decide
  rcases eq_invokedAfter_or_invokedBefore_of_rule
      (Option.some.inj rule).symm with
    ⟨i, latest, rfl⟩ | ⟨i, expected, rfl⟩
  · -- The other text of rule 4 has another word behind the first index.
    have chars :
        ("Invariant 4 violated: callback " ++ toString i.toNat ++
            " invoked after callback " ++ toString latest.toNat).toList =
          ("Invariant 4 violated: callback " ++ toString a ++
            " invoked before callback " ++ toString b).toList :=
      congrArg String.toList same
    rw [toList_append_append_append, toList_append_append_append,
      beforeWord, afterWord, List.cons_append, List.cons_append] at chars
    have printed := List.append_cancel_left chars
    obtain ⟨_, rests⟩ :=
      append_blank_inj (blank_not_mem_toString i.toNat)
        (blank_not_mem_toString a) printed
    have letters := congrArg (fun rest : List Char => rest[8]?) rests
    rw [List.getElem?_append_left (by decide),
      List.getElem?_append_left (by decide)] at letters
    exact absurd letters (by decide)
  · have chars :
        ("Invariant 4 violated: callback " ++ toString i.toNat ++
            " invoked before callback " ++
            toString expected.toNat).toList =
          ("Invariant 4 violated: callback " ++ toString a ++
            " invoked before callback " ++ toString b).toList :=
      congrArg String.toList same
    rw [toList_append_append_append, toList_append_append_append,
      beforeWord, List.cons_append, List.cons_append] at chars
    have printed := List.append_cancel_left chars
    obtain ⟨indices, rests⟩ :=
      append_blank_inj (blank_not_mem_toString i.toNat)
        (blank_not_mem_toString a) printed
    have expecteds := List.append_cancel_left rests
    exact
      ⟨i, expected, rfl, toString_toList_injective indices,
        toString_toList_injective expecteds⟩

end DkPull.PullStream
