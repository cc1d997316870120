import Conform.Proofs.Schema.Inversion
import Conform.Proofs.Schema.Presence
import Mathlib.Logic.Function.Iterate

/-
  What a lazy node checks if it follows a property. In a
  present value it checks the value, its property, the
  property of the latter, and so on, up to the first value
  that is absent. The first of them that breaks a rule or
  that the child refuses has all the errors, and each step
  that leads to it is told in front of them.

  Main declarations:
    * `Value.Chain`
    * `Settings.Passes` and `Settings.Fails`
    * `Settings.judgeLazy_reentry`
    * `Settings.Concludes`
    * `Settings.judgeLazy_iff_concludes`
    * `Schema.judgeWithin_lazy_follows`
-/

namespace Conform

------------------------------------------------------------
-- Chains
------------------------------------------------------------

namespace Value

/-
  From a value on, the property of a given name is present
  `n` times in a row, the value itself being counted, and
  absent after that.
-/
structure Chain
    (name : String)
    (v : Value)
    (n : Nat) : Prop where
  present : ∀ i < n, ((get name)^[i] v).isAbsent = false
  ends : ((get name)^[n] v).isAbsent = true

section

variable {name : String}
variable {v : Value}
variable {n : Nat}

theorem Chain.next
    (h : v.Chain name (n + 1)) :
    (v.get name).Chain name n :=
  ⟨fun i hi => h.present (i + 1) (Nat.succ_lt_succ hi), h.ends⟩

theorem chain_succ
    (hPresent : v.isAbsent = false)
    (h : (v.get name).Chain name n) :
    v.Chain name (n + 1) := by
  refine ⟨fun i hi => ?_, h.ends⟩
  cases i with
  | zero => exact hPresent
  | succ i => exact h.present i (Nat.lt_of_succ_lt_succ hi)

theorem Chain.pos
    (h : v.Chain name n)
    (hPresent : v.isAbsent = false) :
    0 < n := by
  cases n with
  | zero =>
      have hAbsent := h.ends
      rw [Function.iterate_zero_apply, hPresent] at hAbsent
      cases hAbsent
  | succ n => exact Nat.succ_pos n

/-
  Every chain ends. The induction is on the trail, which
  lists the values of the chain.
-/
theorem exists_chain
    (name : String)
    (v : Value) :
    ∃ n, v.Chain name n := by
  generalize hTrail : v.trail name = values
  induction values generalizing v with
  | nil =>
      refine ⟨0, fun i hi => absurd hi (Nat.not_lt_zero i), ?_⟩
      cases hAbsent : v.isAbsent with
      | true => exact hAbsent
      | false =>
          rw [trail_of_present name hAbsent] at hTrail
          cases hTrail
  | cons w rest ih =>
      cases hAbsent : v.isAbsent with
      | true =>
          rw [trail_of_absent name hAbsent] at hTrail
          cases hTrail
      | false =>
          rw [trail_of_present name hAbsent] at hTrail
          rcases ih _ (List.cons_eq_cons.mp hTrail).2 with
            ⟨n, hChain⟩
          exact ⟨n + 1, chain_succ hAbsent hChain⟩

end

end Value

------------------------------------------------------------
-- One Value
------------------------------------------------------------

namespace Settings

section

variable (s : Settings)
variable (checks : Judge)

/- A value that obeys all rules and that the child accepts. -/
def Passes
    (v : Value) : Prop :=
  s.Permits v ∧
    ∃ found, checks v = some found ∧ found.isValid = true

/-
  The errors of a value that breaks a rule or that the child
  refuses: the messages of the broken rules, and then the
  errors of the child.
-/
def Fails
    (v : Value)
    (errors : List String) : Prop :=
  ∃ found, checks v = some found ∧
    ¬ (s.Permits v ∧ found.isValid = true) ∧
    errors = s.complaints v ++ found.errors

end

section

variable {s : Settings}
variable {checks : Judge}
variable {name : String}
variable {v : Value}

theorem Fails.not_passes
    {errors : List String}
    (h : s.Fails checks v errors) :
    ¬ s.Passes checks v := by
  rintro ⟨hRules, other, hOther, hValid⟩
  rcases h with ⟨found, hFound, hNot, _⟩
  rw [hFound] at hOther
  cases hOther
  exact hNot ⟨hRules, hValid⟩

/-
  A check of the child tells whether a value passes. If it
  does not, then there are errors.
-/
theorem passes_or_fails
    {found : Outcome}
    (hCoherent : found.Coherent)
    (hFound : checks v = some found) :
    (s.Passes checks v ∧
        s.complaints v ++ found.errors = []) ∨
      (s.Fails checks v (s.complaints v ++ found.errors) ∧
        s.complaints v ++ found.errors ≠ []) := by
  have hClear : s.complaints v ++ found.errors = [] ↔
      s.Permits v ∧ found.isValid = true := by
    rw [List.append_eq_nil_iff, complaints_eq_nil_iff]
    exact and_congr_right fun _ => hCoherent.symm
  by_cases hErrors : s.complaints v ++ found.errors = []
  · rcases hClear.mp hErrors with ⟨hRules, hValid⟩
    exact Or.inl ⟨⟨hRules, found, hFound, hValid⟩, hErrors⟩
  · exact Or.inr
      ⟨⟨found, hFound, mt hClear.mpr hErrors, rfl⟩, hErrors⟩

theorem Fails.errors_ne_nil
    {errors : List String}
    (hCoherent : ∀ found, checks v = some found →
      found.Coherent)
    (h : s.Fails checks v errors) :
    errors ≠ [] := by
  have hNot := h.not_passes
  rcases h with ⟨found, hFound, _, rfl⟩
  rcases passes_or_fails (hCoherent found hFound) hFound with
    ⟨hPasses, _⟩ | ⟨_, hErrors⟩
  · exact absurd hPasses hNot
  · exact hErrors

/-
  The check of one value of a lazy node: it ends with the
  errors of the value, or goes on if there are none.
-/
def judgeOne
    (s : Settings)
    (checks : Judge)
    (v : Value)
    (next : Option Outcome) : Option Outcome :=
  (checks v).bind fun found =>
    let errors := s.complaints v ++ found.errors
    if errors = [] then next else some (.ofErrors errors)

/- The check of one value ends where it fails and goes on else. -/
theorem judgeOne_eq_some_iff
    {next : Option Outcome}
    {o : Outcome}
    (hCoherent : ∀ found, checks v = some found →
      found.Coherent) :
    s.judgeOne checks v next = some o ↔
      (∃ errors, s.Fails checks v errors ∧
        o = .ofErrors errors) ∨
      (s.Passes checks v ∧ next = some o) := by
  unfold judgeOne
  cases hFound : checks v with
  | none => simp [Fails, Passes, hFound]
  | some found =>
      rw [Option.bind_some]
      dsimp only
      rcases passes_or_fails (hCoherent found hFound) hFound
        with ⟨hPasses, hClear⟩ | ⟨hFails, hErrors⟩
      · rw [if_pos hClear, and_iff_right hPasses]
        refine (or_iff_right ?_).symm
        rintro ⟨errors, hFails, _⟩
        exact hFails.not_passes hPasses
      · rw [if_neg hErrors, Option.some.injEq,
          or_iff_left fun h => hFails.not_passes h.1]
        constructor
        · rintro rfl
          exact ⟨_, hFails, rfl⟩
        · rintro ⟨errors, ⟨other, hOther, _, rfl⟩, rfl⟩
          rw [hFound] at hOther
          cases hOther
          rfl

/- It ends if the check of the child and what is next do. -/
theorem exists_judgeOne_eq_some
    {found next : Outcome}
    (h : checks v = some found) :
    ∃ o, s.judgeOne checks v (some next) = some o := by
  rw [judgeOne, h, Option.bind_some]
  dsimp only
  split
  · exact ⟨next, rfl⟩
  · exact ⟨_, rfl⟩

/- Without a property to follow, one value is checked. -/
theorem judgeLazy_none
    (hPresent : v.isAbsent = false) :
    s.judgeLazy checks none v =
      s.judgeOne checks v (some .valid) := by
  rw [judgeLazy, hPresent, if_neg Bool.false_ne_true, judgeOne]
  dsimp only
  cases checks v with
  | none => rfl
  | some found =>
      rw [Option.map_some, Option.map_some, Option.bind_some]
      split
      · rename_i hClear
        rw [hClear]
        rfl
      · rfl

/-
  With a property to follow, the value is checked, and then
  the node checks the property with itself again, as long as
  the property is present.
-/
theorem judgeLazy_reentry
    (hPresent : v.isAbsent = false) :
    s.judgeLazy checks (some name) v =
      s.judgeOne checks v
        (if (v.get name).isAbsent then some .valid
        else
          (s.judgeLazy checks (some name) (v.get name)).map
            fun rest =>
              .ofErrors
                ((Step.property name).locate
                  rest.errors)) := by
  rw [judgeLazy, hPresent, if_neg Bool.false_ne_true, judgeOne]
  dsimp only
  rw [Value.trail_of_present name hPresent, trailErrors?]
  cases checks v with
  | none => rfl
  | some found =>
      dsimp only [Option.map_some, Option.bind_some, bind]
      by_cases hClear :
          s.complaints v ++ found.errors = []
      · rw [if_pos (List.isEmpty_iff.mpr hClear),
          if_pos hClear]
        cases hNext : (v.get name).isAbsent with
        | true =>
            rw [Value.trail_of_absent name hNext]
            rfl
        | false =>
            rw [if_neg Bool.false_ne_true, judgeLazy, hNext,
              if_neg Bool.false_ne_true]
            dsimp only
            rw [Option.map_map, Option.map_map]
            rfl
      · have hBroken : ¬ (s.complaints v ++
            found.errors).isEmpty = true :=
          fun hEmpty => hClear (List.isEmpty_iff.mp hEmpty)
        rw [if_neg hBroken, if_neg hClear]
        rfl

end

------------------------------------------------------------
-- Chains of Values
------------------------------------------------------------

/- Errors with a text in front of each, a number of times. -/
def told
    (text : String)
    (times : Nat)
    (errors : List String) : List String :=
  errors.map fun e =>
    String.join (List.replicate times text) ++ e

theorem told_zero
    (text : String)
    (errors : List String) :
    told text 0 errors = errors := by
  unfold told
  simp

/- One more step is told in front of all others. -/
theorem told_succ
    (step : Step)
    (times : Nat)
    (errors : List String) :
    told step.text (times + 1) errors =
      step.locate (told step.text times errors) := by
  unfold told Step.locate
  rw [List.map_map]
  refine List.map_congr_left fun e _ => ?_
  rw [List.replicate_succ, String.join_cons,
    String.append_assoc]
  rfl

/-
  What comes of checking the first `n` values of a chain:
  either all of them pass, or all errors are those of the
  first one that fails. In front of them stands, for each
  step that leads to this value, that it was made.
-/
def Concludes
    (s : Settings)
    (checks : Judge)
    (name : String)
    (v : Value)
    (n : Nat)
    (o : Outcome) : Prop :=
  ((∀ i < n, s.Passes checks ((Value.get name)^[i] v)) ∧
      o = .valid) ∨
    ∃ i < n,
      (∀ k < i, s.Passes checks ((Value.get name)^[k] v)) ∧
      ∃ errors,
        s.Fails checks ((Value.get name)^[i] v) errors ∧
        o = .ofErrors
          (told ("Validation failed for property '" ++ name ++
            "': ") i errors)

section

variable {s : Settings}
variable {checks : Judge}
variable {name : String}
variable {v : Value}
variable {n : Nat}
variable {o : Outcome}

/-
  Over one more value, either the first value fails, or it
  passes and the rest is told from one step further up.
-/
theorem concludes_succ_iff :
    s.Concludes checks name v (n + 1) o ↔
      (∃ errors, s.Fails checks v errors ∧
        o = .ofErrors errors) ∨
      (s.Passes checks v ∧
        ∃ rest,
          s.Concludes checks name (v.get name) n rest ∧
          o = .ofErrors
            ((Step.property name).locate rest.errors)) := by
  constructor
  · rintro (⟨hAll, rfl⟩ | ⟨i, hi, hBefore, errors, hFails, rfl⟩)
    · apply Or.inr
      refine ⟨hAll 0 (Nat.succ_pos n), .valid,
        Or.inl ⟨fun i hi => ?_, rfl⟩, rfl⟩
      exact hAll (i + 1) (Nat.succ_lt_succ hi)
    · cases i with
      | zero =>
          apply Or.inl
          rw [told_zero]
          exact ⟨errors, hFails, rfl⟩
      | succ i =>
          apply Or.inr
          refine ⟨hBefore 0 (Nat.succ_pos i), _,
            Or.inr ⟨i, Nat.lt_of_succ_lt_succ hi,
              fun k hk => ?_, errors, hFails, rfl⟩, ?_⟩
          · exact hBefore (k + 1) (Nat.succ_lt_succ hk)
          · exact congrArg Outcome.ofErrors
              (told_succ (.property name) i errors)
  · rintro (⟨errors, hFails, rfl⟩ |
      ⟨hFirst, rest, hRest, rfl⟩)
    · refine Or.inr ⟨0, Nat.succ_pos n,
        fun k hk => absurd hk (Nat.not_lt_zero k), errors,
        hFails, ?_⟩
      rw [told_zero]
    · rcases hRest with
        ⟨hAll, rfl⟩ | ⟨i, hi, hBefore, errors, hFails, rfl⟩
      · refine Or.inl ⟨fun i hi => ?_, rfl⟩
        cases i with
        | zero => exact hFirst
        | succ i => exact hAll i (Nat.lt_of_succ_lt_succ hi)
      · refine Or.inr ⟨i + 1, Nat.succ_lt_succ hi,
          fun k hk => ?_, errors, hFails, ?_⟩
        · cases k with
          | zero => exact hFirst
          | succ k =>
              exact hBefore k (Nat.lt_of_succ_lt_succ hk)
        · exact congrArg Outcome.ofErrors
            (told_succ (.property name) i errors).symm

/- Checking no value comes to nothing. -/
theorem concludes_zero_iff :
    s.Concludes checks name v 0 o ↔ o = .valid := by
  constructor
  · rintro (⟨_, rfl⟩ | ⟨i, hi, _⟩)
    · rfl
    · exact absurd hi (Nat.not_lt_zero i)
  · rintro rfl
    exact Or.inl
      ⟨fun i hi => absurd hi (Nat.not_lt_zero i), rfl⟩

/-
  A lazy node comes to an outcome exactly if checking the
  chain does. The induction is on the length of the chain;
  one step of it is one return of the node to itself.
-/
theorem judgeLazy_iff_concludes
    (hCoherent : ∀ w found, checks w = some found →
      found.Coherent)
    (hPresent : v.isAbsent = false)
    (hChain : v.Chain name n) :
    s.judgeLazy checks (some name) v = some o ↔
      s.Concludes checks name v n o := by
  induction n generalizing v o with
  | zero => exact absurd (hChain.pos hPresent) (Nat.lt_irrefl 0)
  | succ n ih =>
      rw [judgeLazy_reentry hPresent,
        judgeOne_eq_some_iff (hCoherent v), concludes_succ_iff]
      refine or_congr_right (and_congr_right fun _ => ?_)
      cases hNext : (v.get name).isAbsent with
      | true =>
          have hEnd : n = 0 := by
            by_contra hMore
            have hLater := hChain.next.present 0
              (Nat.pos_of_ne_zero hMore)
            rw [Function.iterate_zero_apply, hNext] at hLater
            cases hLater
          subst hEnd
          simp only [concludes_zero_iff, exists_eq_left,
            if_true, Option.some.injEq]
          exact eq_comm
      | false =>
          simp only [if_neg Bool.false_ne_true,
            Option.map_eq_some_iff, ih hNext hChain.next]
          simp only [eq_comm]

/-
  If the child can be checked for every value of the chain,
  checking the chain comes to something.
-/
theorem exists_concludes
    (hCoherent : ∀ w found, checks w = some found →
      found.Coherent)
    (h : ∀ i < n, ∃ found,
      checks ((Value.get name)^[i] v) = some found) :
    ∃ o, s.Concludes checks name v n o := by
  induction n generalizing v with
  | zero => exact ⟨.valid, concludes_zero_iff.mpr rfl⟩
  | succ n ih =>
      rcases h 0 (Nat.succ_pos n) with ⟨found, hFound⟩
      have hLater : ∀ i < n, ∃ found,
          checks ((Value.get name)^[i] (v.get name)) =
            some found :=
        fun i hi => h (i + 1) (Nat.succ_lt_succ hi)
      rcases passes_or_fails (s := s)
          (hCoherent v found hFound) hFound with
        ⟨hPasses, _⟩ | ⟨hFails, _⟩
      · rcases ih hLater with ⟨rest, hRest⟩
        exact ⟨_, concludes_succ_iff.mpr
          (Or.inr ⟨hPasses, rest, hRest, rfl⟩)⟩
      · exact ⟨_, concludes_succ_iff.mpr
          (Or.inl ⟨_, hFails, rfl⟩)⟩

/- The outcome is valid exactly if all values pass. -/
theorem Concludes.isValid_iff
    (hCoherent : ∀ w found, checks w = some found →
      found.Coherent)
    (h : s.Concludes checks name v n o) :
    o.isValid = true ↔
      ∀ i < n, s.Passes checks ((Value.get name)^[i] v) := by
  rcases h with ⟨hAll, rfl⟩ | ⟨i, hi, _, errors, hFails, rfl⟩
  · exact iff_of_true rfl hAll
  · apply iff_of_false
    · rw [Outcome.isValid_ofErrors, told, List.map_eq_nil_iff]
      exact hFails.errors_ne_nil (hCoherent _)
    · exact fun hAll => hFails.not_passes (hAll i hi)

/- No value is handed up from a chain. -/
theorem Concludes.value_eq_none
    (h : s.Concludes checks name v n o) :
    o.value = none := by
  rcases h with ⟨_, rfl⟩ | ⟨_, _, _, _, _, rfl⟩ <;> rfl

end

end Settings

------------------------------------------------------------
-- Lazy Nodes
------------------------------------------------------------

/- The check against the child of a lazy node. -/
def Deferred.judge
    (find : String → Judge) : Deferred → Judge
  | .known child => child.judge find
  | .named name => find name

theorem Schema.judge_lazy
    (find : String → Judge)
    (s : Settings)
    (child : Deferred)
    (property : Option String) :
    (node s (.lazy child property)).judge find =
      s.judgeLazy (child.judge find) property := by
  cases child with
  | known c =>
      rw [judge]
      rfl
  | named name =>
      rw [judge]
      rfl

theorem Deferred.coherent_judge
    {resolve : String → Option Schema}
    {unfoldings : Nat}
    {child : Deferred}
    {v : Value}
    {o : Outcome}
    (h : child.judge (namedJudge resolve unfoldings) v =
      some o) :
    o.Coherent := by
  have hNamed := decides_namedJudge resolve unfoldings
  cases child with
  | known c => exact (Schema.decides_judge hNamed c v o h).1
  | named name => exact (hNamed name v o h).1

/-
  A lazy node that follows a property comes to an outcome of
  a present value exactly if checking the chain of the value
  does, and then to the same one: all values of the chain
  pass, or the errors are those of the first that fails. It
  does come to one if the child can be checked for all these
  values, and it is valid exactly if all pass. A lazy node
  that follows no property checks the value alone. The
  outcome never has a value, and of the settings only the
  rules matter.
-/
theorem Schema.judgeWithin_lazy_follows
    (resolve : String → Option Schema)
    (unfoldings : Nat)
    (s : Settings)
    (child : Deferred)
    (v : Value)
    (hPresent : v.isAbsent = false) :
    (∀ name, ∃ n, v.Chain name n ∧ 0 < n ∧
        ((∀ i < n, ∃ found,
            child.judge (namedJudge resolve unfoldings)
                ((Value.get name)^[i] v) =
              some found) →
          ∃ o,
            (node s (.lazy child (some name))).judgeWithin
                resolve unfoldings v =
              some o) ∧
        ∀ o,
          ((node s (.lazy child (some name))).judgeWithin
                resolve unfoldings v =
              some o ↔
            s.Concludes
              (child.judge (namedJudge resolve unfoldings))
              name v n o) ∧
          ((node s (.lazy child (some name))).judgeWithin
              resolve unfoldings v = some o →
            (o.isValid = true ↔
                ∀ i < n, s.Passes
                  (child.judge (namedJudge resolve unfoldings))
                  ((Value.get name)^[i] v)) ∧
              o.value = none)) ∧
      ((∃ found,
          child.judge (namedJudge resolve unfoldings) v =
            some found) →
        ∃ o,
          (node s (.lazy child none)).judgeWithin resolve
              unfoldings v =
            some o) ∧
      (∀ o,
        (node s (.lazy child none)).judgeWithin resolve
            unfoldings v = some o ↔
          (∃ errors,
            s.Fails
                (child.judge (namedJudge resolve unfoldings)) v
                errors ∧
              o = .ofErrors errors) ∨
          (s.Passes
              (child.judge (namedJudge resolve unfoldings)) v ∧
            o = .valid)) ∧
      ∀ (t : Settings) (property : Option String),
        t.rules = s.rules →
          (node t (.lazy child property)).judgeWithin resolve
              unfoldings v =
            (node s (.lazy child property)).judgeWithin resolve
              unfoldings v := by
  have hCoherent : ∀ w found,
      child.judge (namedJudge resolve unfoldings) w =
          some found →
        found.Coherent :=
    fun _ _ => Deferred.coherent_judge
  simp only [judgeWithin, judge_lazy]
  refine ⟨fun name => ?_, ?_, fun o => ?_,
    fun t property hRules => ?_⟩
  · rcases v.exists_chain name with ⟨n, hChain⟩
    have hIff := fun o =>
      Settings.judgeLazy_iff_concludes (s := s) (o := o)
        hCoherent hPresent hChain
    refine ⟨n, hChain, hChain.pos hPresent, fun hEach => ?_,
      fun o => ⟨hIff o, fun hOutcome => ?_⟩⟩
    · rcases Settings.exists_concludes (s := s) hCoherent hEach
        with ⟨o, hConcludes⟩
      exact ⟨o, (hIff o).mpr hConcludes⟩
    · have hConcludes := (hIff o).mp hOutcome
      exact ⟨hConcludes.isValid_iff hCoherent,
        hConcludes.value_eq_none⟩
  · rintro ⟨found, hFound⟩
    rw [Settings.judgeLazy_none hPresent]
    exact Settings.exists_judgeOne_eq_some hFound
  · rw [Settings.judgeLazy_none hPresent,
      Settings.judgeOne_eq_some_iff (hCoherent v)]
    simp only [Option.some.injEq, eq_comm]
  · exact Settings.ReadAlike.judgeLazy_eq
      (Settings.readAlike_of_present hPresent hRules) _ property

/-
  A chain of two links is refused for the empty label of the
  second one, which is told from one step away. This is so
  whether or not the chain may be null.
-/
theorem Schema.judgeWithin_lazy_follows_links :
    ∃ n o,
      (Value.linkTo "").Chain "next" n ∧
        chain.judgeWithin linkNamed 1 (Value.linkTo "") =
          some o ∧
        o.errors =
          ["Validation failed for property 'next': " ++
            "Validation failed for property 'label': " ++
            "String is too short. Minimum length is 1."] ∧
        Settings.Concludes {} (namedJudge linkNamed 1 "link")
          "next" (Value.linkTo "") n o ∧
        (chain.setNullable true).judgeWithin linkNamed 1
          (Value.linkTo "") = some o := by
  rcases judgeWithin_lazy_follows linkNamed 1 {}
      (.named "link") (Value.linkTo "") rfl with
    ⟨hChains, _, _, hSettings⟩
  rcases hChains "next" with ⟨n, hChain, _, _, hOutcomes⟩
  have hOutcome :
      chain.judgeWithin linkNamed 1 (Value.linkTo "") =
        some _ := rfl
  refine ⟨n, _, hChain, hOutcome, by decide,
    (hOutcomes _).1.mp hOutcome, ?_⟩
  exact (hSettings { nullable := true } (some "next")
    rfl).trans hOutcome

end Conform
