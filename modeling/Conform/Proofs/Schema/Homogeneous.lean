import Conform.Schema.Build
import Conform.Proofs.Schema.Calls

/-
  Tuples whose elements are all the same schema, and arrays
  of one length. Both look at the same items at the same
  places, and they accept the same values. They differ in
  what they say of an array of another length: the tuple
  looks at no item then, and the array looks at all of them.

  Main declarations:
    * `Schema.repeatedTuple`
    * `Schema.exactArray`
    * `map_eachItemErrors?_eq_some_iff`
    * `Schema.exactLengthLaws`
    * `Schema.exactArray_complains_first`
-/

namespace Conform

------------------------------------------------------------
-- Items at Their Places
------------------------------------------------------------

/- What one check finds in items, each with its outcome. -/
abbrev Judge.Finds
    (judge : Judge)
    (items : List Value)
    (outcomes : List Outcome) : Prop :=
  List.Forall₂ (fun v o => judge v = some o) items outcomes

/- The errors of items from an index on, one by one. -/
def errorsFrom
    (i : Nat)
    (outcomes : List Outcome) : List String :=
  (outcomes.zipIdx i).flatMap fun p =>
    (Step.index p.2).locate p.1.errors

section

variable {judge : Judge}
variable {items : List Value}
variable {errors : List String}

theorem zip_replicate
    {α β : Type}
    (a : α)
    (bs : List β) :
    (List.replicate bs.length a).zip bs =
      bs.map fun b => (a, b) := by
  induction bs with
  | nil => rfl
  | cons b rest ih =>
      rw [List.length_cons, List.replicate_succ, List.map_cons,
        List.zip_cons_cons, ih]

/-
  The errors gathered from numbered items are those of their
  outcomes. The induction is on the items, and the index of
  the first one goes up by one with each of them.
-/
theorem gather_numbered_eq_some_iff
    {i : Nat} :
    gather
        (fun p : Value × Nat =>
          judge.errorsAt (.index p.2) p.1)
        (items.zipIdx i) = some errors ↔
      ∃ outcomes, judge.Finds items outcomes ∧
        errors = errorsFrom i outcomes := by
  induction items generalizing i errors with
  | nil => simp [gather, errorsFrom, eq_comm]
  | cons v rest ih =>
      constructor
      · intro h
        rw [List.zipIdx_cons, gather] at h
        rcases Option.bind_eq_some_iff.mp h with
          ⟨first, hFirst, hRest⟩
        rcases Option.bind_eq_some_iff.mp hRest with
          ⟨others, hOthers, hAll⟩
        rcases Option.map_eq_some_iff.mp hFirst with
          ⟨o, hJudge, rfl⟩
        rcases ih.mp hOthers with ⟨outcomes, hFinds, rfl⟩
        cases hAll
        exact ⟨o :: outcomes, .cons hJudge hFinds, rfl⟩
      · rintro ⟨outcomes, hFinds, rfl⟩
        cases hFinds with
        | @cons _ o _ others hJudge hOthers =>
            have hFirst : judge.errorsAt (.index i) v =
                some ((Step.index i).locate o.errors) := by
              rw [Judge.errorsAt, hJudge]
              rfl
            rw [List.zipIdx_cons, gather, hFirst,
              ih.mpr ⟨others, hOthers, rfl⟩]
            rfl

/- What is made of the errors of all items of an array. -/
theorem map_eachItemErrors?_eq_some_iff
    {α : Type}
    {f : List String → α}
    {a : α} :
    (eachItemErrors? (some judge) items).map f = some a ↔
      ∃ outcomes, judge.Finds items outcomes ∧
        a = f (errorsFrom 0 outcomes) := by
  rw [eachItemErrors?, itemErrors?, zip_replicate,
    List.zipIdx_map, gather_map, Option.map_eq_some_iff]
  constructor
  · rintro ⟨errors, hErrors, rfl⟩
    rcases gather_numbered_eq_some_iff.mp hErrors with
      ⟨outcomes, hFinds, rfl⟩
    exact ⟨outcomes, hFinds, rfl⟩
  · rintro ⟨outcomes, hFinds, rfl⟩
    exact ⟨errorsFrom 0 outcomes,
      gather_numbered_eq_some_iff.mpr ⟨outcomes, hFinds, rfl⟩,
      rfl⟩

------------------------------------------------------------
-- Lengths
------------------------------------------------------------

/- What is wrong with an array of another length. -/
def Problem.ofLength
    (n length : Nat) : Problem :=
  if length < n then .arrayTooShort n else .arrayTooLong n

/- With the right length there is no other difference. -/
theorem tupleErrors?_eq_arrayErrors?
    {n : Nat}
    {v : Value}
    (hLength : ∀ items, v = .array items → items.length = n) :
    tupleErrors? (List.replicate n judge) v =
      arrayErrors? (some judge) (some n) (some n) v := by
  cases v with
  | array items =>
      have hItems : items.length = n := hLength items rfl
      subst hItems
      simp [tupleErrors?, arrayErrors?, eachItemErrors?,
        Leaf.boundProblems]
  | _ => rfl

/- A tuple of another length does not look at its items. -/
theorem tupleErrors?_of_length_ne
    {n : Nat}
    (hLength : items.length ≠ n) :
    tupleErrors? (List.replicate n judge) (.array items) =
      some [(Problem.wrongArity n).text] := by
  rw [tupleErrors?, List.length_replicate, if_neg hLength]

/- An array of another length does. -/
theorem arrayErrors?_of_length_ne
    {n : Nat}
    (hLength : items.length ≠ n) :
    arrayErrors? (some judge) (some n) (some n)
        (.array items) =
      (eachItemErrors? (some judge) items).map fun errors =>
        (Problem.ofLength n items.length).text :: errors := by
  rw [arrayErrors?]
  rcases Nat.lt_or_gt_of_ne hLength with hShort | hLong
  · have hNotLong : ¬ n < items.length := by omega
    simp [Leaf.boundProblems, Problem.ofLength, hShort,
      hNotLong]
  · have hNotShort : ¬ items.length < n := by omega
    simp [Leaf.boundProblems, Problem.ofLength, hLong,
      hNotShort]

end

namespace Schema

------------------------------------------------------------
-- Nodes
------------------------------------------------------------

/- A tuple whose elements are copies of one schema. -/
def repeatedTuple
    (s : Settings)
    (n : Nat)
    (c : Schema) : Schema :=
  (tuple (List.replicate n c)).mapSettings fun _ => s

/- An array whose least and greatest length are the same. -/
def exactArray
    (s : Settings)
    (n : Nat)
    (c : Schema) : Schema :=
  (((array.setItems c).setMinLength n).setMaxLength
    n).mapSettings fun _ => s

section

variable {resolve : String → Option Schema}
variable {unfoldings : Nat}
variable {s : Settings}
variable {n : Nat}
variable {c : Schema}

theorem judgeWithin_repeatedTuple :
    (repeatedTuple s n c).judgeWithin resolve unfoldings =
      s.guard (tupleErrors? (List.replicate n
        (c.judgeWithin resolve unfoldings))) := by
  have hNode : repeatedTuple s n c =
      node s (.tuple (List.replicate n c)) := rfl
  rw [judgeWithin, hNode, judge, judges_eq_map,
    List.map_replicate]
  rfl

theorem judgeWithin_exactArray :
    (exactArray s n c).judgeWithin resolve unfoldings =
      s.guard (arrayErrors?
        (some (c.judgeWithin resolve unfoldings)) (some n)
        (some n)) := by
  have hNode : exactArray s n c =
      node s (.array (some c) (some n) (some n)) := rfl
  rw [judgeWithin, hNode, judge]
  rfl

theorem repeatedTuple_eq_exactArray
    {v : Value}
    (hLength : ∀ items, v = .array items → items.length = n) :
    (repeatedTuple s n c).judgeWithin resolve unfoldings v =
      (exactArray s n c).judgeWithin resolve unfoldings v := by
  rw [judgeWithin_repeatedTuple, judgeWithin_exactArray]
  exact s.guard_congr (tupleErrors?_eq_arrayErrors? hLength)

section

variable {items : List Value}
variable (hLength : items.length ≠ n)

include hLength

/- A tuple says one thing of an array of another length. -/
theorem repeatedTuple_of_length_ne :
    (repeatedTuple s n c).judgeWithin resolve unfoldings
        (.array items) =
      some (.ofErrors (s.complaints (.array items) ++
        [(Problem.wrongArity n).text])) := by
  rw [judgeWithin_repeatedTuple, s.guard_of_present _ rfl,
    tupleErrors?_of_length_ne hLength, Option.map_some]

/- An array says this of its length and goes on. -/
theorem exactArray_of_length_ne_iff
    {o : Outcome} :
    (exactArray s n c).judgeWithin resolve unfoldings
        (.array items) = some o ↔
      ∃ outcomes,
        (c.judgeWithin resolve unfoldings).Finds items
            outcomes ∧
          o = .ofErrors (s.complaints (.array items) ++
            (Problem.ofLength n items.length).text ::
              errorsFrom 0 outcomes) := by
  rw [judgeWithin_exactArray, s.guard_of_present _ rfl,
    arrayErrors?_of_length_ne hLength, Option.map_map]
  exact map_eachItemErrors?_eq_some_iff

end

/- A tuple of the right length has the errors of its items. -/
theorem repeatedTuple_of_length_eq_iff
    {items : List Value}
    (hLength : items.length = n)
    {o : Outcome} :
    (repeatedTuple s n c).judgeWithin resolve unfoldings
        (.array items) = some o ↔
      ∃ outcomes,
        (c.judgeWithin resolve unfoldings).Finds items
            outcomes ∧
          o = .ofErrors (s.complaints (.array items) ++
            errorsFrom 0 outcomes) := by
  subst hLength
  rw [judgeWithin_repeatedTuple, s.guard_of_present _ rfl,
    tupleErrors?, List.length_replicate, if_pos rfl]
  exact map_eachItemErrors?_eq_some_iff

end

------------------------------------------------------------
-- Laws
------------------------------------------------------------

/-
  What holds of a tuple of copies of a schema and an array
  of exactly that many items, with the same settings:
    * they accept the same values, and the tuple has an
      outcome wherever the array has one;
    * their outcomes are the same, but for arrays of another
      length;
    * that of an array of this length has the messages of
      the broken rules and the errors of all items;
    * of an array of another length the tuple says so after
      the messages of the broken rules, and that is all;
    * the array says so at the same place, and the errors of
      all items follow.
-/
structure ExactLengthLaws
    (resolve : String → Option Schema)
    (unfoldings : Nat)
    (s : Settings)
    (n : Nat)
    (c : Schema) : Prop where
  accepted :
    ∀ v,
      ((repeatedTuple s n c).judgeWithin resolve
          unfoldings).Passes v ↔
        ((exactArray s n c).judgeWithin resolve
          unfoldings).Passes v
  ends :
    ∀ v o,
      (exactArray s n c).judgeWithin resolve unfoldings v =
          some o →
        ∃ o',
          (repeatedTuple s n c).judgeWithin resolve unfoldings
              v = some o'
  same :
    ∀ v,
      (∀ items, v = .array items → items.length = n) →
        (repeatedTuple s n c).judgeWithin resolve unfoldings
            v =
          (exactArray s n c).judgeWithin resolve unfoldings v
  exact :
    ∀ items, items.length = n →
      ∀ o,
        (repeatedTuple s n c).judgeWithin resolve unfoldings
            (.array items) = some o ↔
          ∃ outcomes,
            (c.judgeWithin resolve unfoldings).Finds items
                outcomes ∧
              o = .ofErrors (s.complaints (.array items) ++
                errorsFrom 0 outcomes)
  otherTuple :
    ∀ items, items.length ≠ n →
      (repeatedTuple s n c).judgeWithin resolve unfoldings
          (.array items) =
        some (.ofErrors (s.complaints (.array items) ++
          [(Problem.wrongArity n).text]))
  otherArray :
    ∀ items, items.length ≠ n →
      ∀ o,
        (exactArray s n c).judgeWithin resolve unfoldings
            (.array items) = some o ↔
          ∃ outcomes,
            (c.judgeWithin resolve unfoldings).Finds items
                outcomes ∧
              o = .ofErrors (s.complaints (.array items) ++
                (Problem.ofLength n items.length).text ::
                  errorsFrom 0 outcomes)

/- A value is an array of another length or it is not. -/
theorem other_length_or_not
    (n : Nat)
    (v : Value) :
    (∃ items, v = .array items ∧ items.length ≠ n) ∨
      ∀ items, v = .array items → items.length = n := by
  by_cases h : ∃ items, v = .array items ∧ items.length ≠ n
  · exact Or.inl h
  · refine Or.inr fun items hItems => ?_
    by_contra hLength
    exact h ⟨items, hItems, hLength⟩

theorem not_passes_of_errors
    {judge : Judge}
    {v : Value}
    (h : ∀ o, judge v = some o →
      ∃ before e after,
        o = .ofErrors (before ++ e :: after)) :
    ¬ judge.Passes v := by
  rintro ⟨o, hOutcome, hValid⟩
  rcases h o hOutcome with ⟨before, e, after, rfl⟩
  simp [Outcome.ofErrors] at hValid

/- Tuples of copies and arrays of one length obey the laws. -/
theorem exactLengthLaws
    (resolve : String → Option Schema)
    (unfoldings : Nat)
    (s : Settings)
    (n : Nat)
    (c : Schema) :
    ExactLengthLaws resolve unfoldings s n c where
  accepted v := by
    rcases other_length_or_not n v with
      ⟨items, rfl, hLength⟩ | hLength
    · refine iff_of_false (not_passes_of_errors ?_)
        (not_passes_of_errors ?_)
      · intro o hOutcome
        rw [repeatedTuple_of_length_ne hLength] at hOutcome
        exact ⟨_, _, [], (Option.some.inj hOutcome).symm⟩
      · intro o hOutcome
        rcases (exactArray_of_length_ne_iff hLength).mp
          hOutcome with ⟨outcomes, _, rfl⟩
        exact ⟨_, _, errorsFrom 0 outcomes, rfl⟩
    · rw [Judge.Passes, Judge.Passes,
        repeatedTuple_eq_exactArray hLength]
  ends v o hOutcome := by
    rcases other_length_or_not n v with
      ⟨items, rfl, hLength⟩ | hLength
    · exact ⟨_, repeatedTuple_of_length_ne hLength⟩
    · exact ⟨o,
        (repeatedTuple_eq_exactArray hLength).trans hOutcome⟩
  same _ := repeatedTuple_eq_exactArray
  exact _ hLength _ := repeatedTuple_of_length_eq_iff hLength
  otherTuple _ := repeatedTuple_of_length_ne
  otherArray _ hLength _ := exactArray_of_length_ne_iff hLength

/- A rule that no array obeys. -/
def textOnly : Settings :=
  { rules := [⟨fun v => v.asString?.isSome, "text only"⟩] }

/-
  Two texts are expected, and rules that an array breaks are
  reported before anything else.
-/
theorem exactLengthLaws_pair :
    (repeatedTuple textOnly 2 string).verdict?
          (.array [.string "a", .null]) =
        (exactArray textOnly 2 string).verdict?
          (.array [.string "a", .null]) ∧
      (repeatedTuple textOnly 2 string).verdict?
          (.array [.string "a", .null]) =
        some (Outcome.ofErrors
          [ "text only",
            "Error at index 1: Value cannot be null." ]) ∧
      (repeatedTuple textOnly 2 string).verdict?
          (.array [.null]) =
        some (Outcome.ofErrors
          [ "text only",
            "Tuple must have exactly 2 elements." ]) ∧
      (exactArray textOnly 2 string).verdict?
          (.array [.null]) =
        some (Outcome.ofErrors
          [ "text only",
            "Array is too short. Minimum length is 2.",
            "Error at index 0: Value cannot be null." ]) := by
  have hLaws :=
    exactLengthLaws (fun _ => none) 0 textOnly 2 string
  have hNull : string.verdict? .null =
      some (Outcome.ofErrors ["Value cannot be null."]) := rfl
  refine ⟨hLaws.same _ ?_, ?_, ?_, ?_⟩
  · rintro items ⟨⟩
    rfl
  · refine (hLaws.exact _ rfl _).mpr
      ⟨[Outcome.valid, _], .cons rfl (.cons hNull .nil), rfl⟩
  · exact hLaws.otherTuple _ (by decide)
  · refine (hLaws.otherArray _ (by decide) _).mpr
      ⟨[_], .cons hNull .nil, rfl⟩

/-
  The errors of an array of another length do not start with
  the one about its length if it breaks a rule as well.
-/
theorem exactArray_complains_first :
    (exactArray textOnly 1 string).verdict?
          (.array [.string "a", .bool true]) =
        some (Outcome.ofErrors
          [ "text only",
            "Array is too long. Maximum length is 1.",
            "Error at index 1: Value must be a string." ]) ∧
      ¬ ∃ outcomes,
        string.verdict?.Finds [.string "a", .bool true]
            outcomes ∧
          (exactArray textOnly 1 string).verdict?
              (.array [.string "a", .bool true]) =
            some (Outcome.ofErrors
              ((Problem.ofLength 1 2).text ::
                errorsFrom 0 outcomes)) := by
  refine ⟨rfl, ?_⟩
  rintro ⟨outcomes, _, hOutcome⟩
  have hErrors :
      "text only" :: _ = (Problem.ofLength 1 2).text :: _ :=
    congrArg Outcome.errors (Option.some.inj hOutcome)
  have hFirst := (List.cons.inj hErrors).1
  revert hFirst
  decide

end Schema

end Conform
