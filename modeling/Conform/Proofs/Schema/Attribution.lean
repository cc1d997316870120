import Conform.Proofs.Schema.Inversion
import Conform.Proofs.Schema.Verdict

/-
  Where the errors of an outcome come from. A walk visits
  the nodes of a schema with the parts of a value that they
  are about, and collects the messages of each of them with
  the steps that lead to its part. The errors of an outcome
  are the texts of what the walk collects, in order, so that
  none is lost, invented or put in another place.

  Main declarations:
    * `Located`, `Located.words` and `Located.render`
    * `Contribution` and `Schema.contributions`
    * `Walks` and `Walks.unique`
    * `Explains` and `Judge.Follows`
    * `Settings.explains_judgeUnion`
    * `Settings.explains_judgeLazy`
    * `Schema.follows_judge`
    * `Schema.judgeWithin_errors`
-/

namespace Conform

------------------------------------------------------------
-- Located Messages
------------------------------------------------------------

/- A message with the steps to the part that it is about. -/
structure Located where
  steps : List Step
  message : String

namespace Located

/- A message about a value in its own place. -/
def here
    (message : String) : Located :=
  ⟨[], message⟩

/- A message for a part as a message for the whole. -/
def under
    (way : List Step)
    (l : Located) : Located :=
  ⟨way ++ l.steps, l.message⟩

/-
  The words that name a part. They are written out here, so
  that what an error has to say of its place is fixed apart
  from the checks that say it.
-/
def words : Step → String
  | .property name =>
      "Validation failed for property '" ++ name ++ "': "
  | .index i => "Error at index " ++ toString i ++ ": "
  | .key name => "Invalid key '" ++ name ++ "': "
  | .entry name => "Invalid value for key '" ++ name ++ "': "

/- The message after the words for all steps. -/
def render
    (l : Located) : String :=
  l.steps.foldr (fun step text => words step ++ text) l.message

/- The checks put these words before the errors of a part. -/
theorem words_eq_text
    (step : Step) :
    words step = step.text := by
  cases step <;> rfl

@[simp] theorem render_here
    (message : String) :
    (here message).render = message := rfl

@[simp] theorem render_under_nil
    (l : Located) :
    (l.under []).render = l.render := rfl

@[simp] theorem render_under_step
    (step : Step)
    (l : Located) :
    (l.under [step]).render = step.text ++ l.render := by
  rw [← words_eq_text]
  rfl

end Located

------------------------------------------------------------
-- Contributions
------------------------------------------------------------

/-
  What a node adds to a walk: a message, or a visit to a
  node with a value, where the way leads from the value of
  the first node to that of the other.
-/
inductive Contribution
  | message (l : Located)
  | visit (way : List Step) (schema : Schema) (v : Value)

/- Messages about a value in its own place. -/
def Contribution.own
    (messages : List String) : List Contribution :=
  messages.map fun message => .message (.here message)

/-
  What a node says about an absent value, and what it says
  about a present one before anything else.
-/
def Settings.opening
    (s : Settings)
    (v : Value)
    (present : List Contribution) : List Contribution :=
  if v.isAbsent then
    Contribution.own (s.absence v)
  else
    Contribution.own (s.complaints v) ++ present

namespace Schema

open Contribution

/-
  What a declared property adds. An undefined property is
  not visited, and it is missing where it is required.
-/
def propertyContributions
    (v : Value)
    (p : String × Schema) : List Contribution :=
  if (v.get p.1).isUndefined then
    if p.2.settings.required then
      [.message ((Located.here Problem.missingProperty.text).under
        [.property p.1])]
    else []
  else
    [.visit [.property p.1] p.2 (v.get p.1)]

/- The declared properties of an object, in order. -/
def objectContributions
    (properties : List (String × Schema))
    (v : Value) : List Contribution :=
  match v with
  | .object _ => properties.flatMap (propertyContributions v)
  | _ => own [Problem.notObject.text]

/- The items of an array after a wrong length. -/
def arrayContributions
    (item : Option Schema)
    (least most : Option Nat)
    (v : Value) : List Contribution :=
  match v with
  | .array items =>
      let n := items.length
      let problems :=
        Leaf.boundProblems least (fun m => decide (n < m))
            .arrayTooShort ++
          Leaf.boundProblems most (fun m => decide (m < n))
            .arrayTooLong
      own (problems.map Problem.text) ++
        match item with
        | none => []
        | some c => items.zipIdx.map fun p =>
            .visit [.index p.2] c p.1
  | _ => own [Problem.notArray.text]

/- The elements of a tuple, unless the arity is wrong. -/
def tupleContributions
    (elements : List Schema)
    (v : Value) : List Contribution :=
  match v with
  | .array items =>
      if items.length = elements.length then
        (elements.zip items).zipIdx.map fun p =>
          .visit [.index p.2] p.1.1 p.1.2
      else
        own [(Problem.wrongArity elements.length).text]
  | _ => own [Problem.notArray.text]

/- The name and then the contents of each field. -/
def recordContributions
    (keys contents : Schema)
    (v : Value) : List Contribution :=
  match v with
  | .object fields => fields.flatMap fun field =>
      [ .visit [.key field.1] keys (.string field.1),
        .visit [.entry field.1] contents field.2 ]
  | _ => own [Problem.notObject.text]

open Classical in
/-
  What the options of a union add. They are visited only
  with a present value that none of them accepts.
-/
noncomputable def unionContributions
    (resolve : String → Option Schema)
    (s : Settings)
    (options : List Schema)
    (v : Value) : List Contribution :=
  if ∃ option ∈ options, Accepts resolve option v then
    own (if v.isAbsent then [] else s.complaints v)
  else if v.isAbsent then
    own (s.absence v)
  else
    own (s.complaints v ++ [Problem.noOption.text]) ++
      options.map fun option => .visit [] option v

open Classical in
/-
  What the property adds that a lazy node follows. It is
  visited, by the lazy node itself, if it is not absent and
  there are no errors in the value that has it.
-/
noncomputable def nextContributions
    (resolve : String → Option Schema)
    (s : Settings)
    (child : Deferred)
    (c : Schema)
    (property : Option String)
    (v : Value) : List Contribution :=
  match property with
  | none => []
  | some name =>
      if (v.get name).isAbsent = false ∧ s.Permits v ∧
          Accepts resolve c v then
        [.visit [.property name]
          (node s (.lazy child (some name))) (v.get name)]
      else []

/-
  What a node adds to a walk with a value, in order: its own
  messages, which are those of broken rules and then those
  about presence, type, arity or length, and then visits to
  the nodes below it. With a value that is refused for its
  presence, type or arity no other node is visited.
-/
noncomputable def contributions
    (resolve : String → Option Schema) :
    Schema → Value → List Contribution
  | node s (.leaf kind), v =>
      s.opening v (own ((kind.problems v).map Problem.text))
  | node s (.object properties), v =>
      s.opening v (objectContributions properties v)
  | node s (.array item least most), v =>
      s.opening v (arrayContributions item least most v)
  | node s (.tuple elements), v =>
      s.opening v (tupleContributions elements v)
  | node s (.record keys contents), v =>
      s.opening v (recordContributions keys contents v)
  | node s (.union options), v =>
      unionContributions resolve s options v
  | node s (.nullable inner), v =>
      if v.isAbsent then []
      else own (s.complaints v) ++ [.visit [] inner v]
  | node s (.optional inner), v =>
      if v.isUndefined then []
      else own (s.complaints v) ++ [.visit [] inner v]
  | node s (.mapped mapping inner), v =>
      if s.lets v then []
      else
        match mapping v with
        | .error reason =>
            own [(Problem.mappingFailed reason).text]
        | .ok image =>
            own (if image.isAbsent then []
              else s.complaints image) ++
              [.visit [] inner image]
  | node s (.lazy child property), v =>
      if v.isAbsent then
        if s.nullable then []
        else own [s.message.getD Problem.isAbsent.text]
      else
        own (s.complaints v) ++
          match child.schema? resolve with
          | none => []
          | some c =>
              .visit [] c v ::
                nextContributions resolve s child c property v

end Schema

------------------------------------------------------------
-- Walks
------------------------------------------------------------

/-
  The walk through contributions, with all that it collects.
  A visit collects what the visited node contributes, under
  the way to it, before the walk goes on.
-/
inductive Walks
    (resolve : String → Option Schema) :
    List Contribution → List Located → Prop
  | done : Walks resolve [] []
  | message {l : Located}
      {rest : List Contribution} {others : List Located}
      (hRest : Walks resolve rest others) :
      Walks resolve (.message l :: rest) (l :: others)
  | visit {way : List Step} {s : Schema} {v : Value}
      {inner : List Located}
      {rest : List Contribution} {others : List Located}
      (hInner : Walks resolve (s.contributions resolve v) inner)
      (hRest : Walks resolve rest others) :
      Walks resolve (.visit way s v :: rest)
        (inner.map (Located.under way) ++ others)

namespace Walks

variable {resolve : String → Option Schema}
variable {first rest : List Contribution}
variable {found others : List Located}

/- A walk that ends collects the same messages each time. -/
theorem unique
    (h : Walks resolve first found)
    (hOther : Walks resolve first others) :
    others = found := by
  induction h generalizing others with
  | done =>
      cases hOther
      rfl
  | message _ ih =>
      cases hOther with
      | message hRest => rw [ih hRest]
  | visit _ _ ihInner ihRest =>
      cases hOther with
      | visit hInner hRest =>
          rw [ihInner hInner, ihRest hRest]

theorem append
    (h : Walks resolve first found)
    (hRest : Walks resolve rest others) :
    Walks resolve (first ++ rest) (found ++ others) := by
  induction h with
  | done => exact hRest
  | message _ ih => exact .message ih
  | visit hInner _ _ ih =>
      rw [List.append_assoc]
      exact .visit hInner ih

theorem own
    (messages : List String) :
    Walks resolve (Contribution.own messages)
      (messages.map Located.here) := by
  induction messages with
  | nil => exact .done
  | cons message rest ih => exact .message ih

end Walks

/- Errors that are the texts of what a walk collects. -/
def Explains
    (resolve : String → Option Schema)
    (agenda : List Contribution)
    (errors : List String) : Prop :=
  ∃ found, Walks resolve agenda found ∧
    errors = found.map Located.render

namespace Explains

variable {resolve : String → Option Schema}
variable {first rest : List Contribution}
variable {errors others : List String}

theorem done : Explains resolve [] [] :=
  ⟨[], .done, rfl⟩

theorem own
    (messages : List String) :
    Explains resolve (Contribution.own messages) messages :=
  ⟨_, .own messages, by simp [Function.comp_def]⟩

theorem append
    (h : Explains resolve first errors)
    (hRest : Explains resolve rest others) :
    Explains resolve (first ++ rest) (errors ++ others) := by
  rcases h with ⟨found, hWalks, rfl⟩
  rcases hRest with ⟨later, hLater, rfl⟩
  exact ⟨_, hWalks.append hLater, List.map_append.symm⟩

/- A visit in the same place adds the errors as they are. -/
theorem visit
    {s : Schema}
    {v : Value}
    (h : Explains resolve (s.contributions resolve v) errors) :
    Explains resolve [.visit [] s v] errors := by
  rcases h with ⟨found, hWalks, rfl⟩
  refine ⟨_, .visit hWalks .done, ?_⟩
  simp [Function.comp_def]

/- A visit to a part adds the errors under the step to it. -/
theorem visitAt
    {s : Schema}
    {v : Value}
    (step : Step)
    (h : Explains resolve (s.contributions resolve v) errors) :
    Explains resolve [.visit [step] s v]
      (step.locate errors) := by
  rcases h with ⟨found, hWalks, rfl⟩
  refine ⟨_, .visit hWalks .done, ?_⟩
  simp [Step.locate, Function.comp_def]

/- Errors gathered from a list come from all its members. -/
theorem gather
    {α : Type}
    {f : α → Option (List String)}
    {agenda : α → List Contribution}
    {members : List α}
    (hMembers : ∀ a ∈ members, ∀ part, f a = some part →
      Explains resolve (agenda a) part)
    (h : gather f members = some errors) :
    Explains resolve (members.flatMap agenda) errors := by
  induction members generalizing errors with
  | nil =>
      cases h
      exact done
  | cons a rest ih =>
      rw [Conform.gather] at h
      rcases Option.bind_eq_some_iff.mp h with
        ⟨part, hPart, hRest⟩
      rcases Option.bind_eq_some_iff.mp hRest with
        ⟨later, hLater, hErrors⟩
      cases hErrors
      rw [List.flatMap_cons]
      refine (hMembers a List.mem_cons_self part hPart).append
        (ih ?_ hLater)
      exact fun b hb => hMembers b (List.mem_cons_of_mem a hb)

end Explains

------------------------------------------------------------
-- Objects, Arrays, Tuples and Records
------------------------------------------------------------

/- A check whose errors come from a walk of a schema. -/
def Judge.Follows
    (judge : Judge)
    (resolve : String → Option Schema)
    (s : Schema) : Prop :=
  ∀ v o, judge v = some o →
    Explains resolve (s.contributions resolve v) o.errors

section

variable {resolve : String → Option Schema}
variable {errors : List String}

theorem Judge.Follows.errorsAt
    {judge : Judge}
    {s : Schema}
    (h : judge.Follows resolve s)
    (step : Step)
    {v : Value}
    (hErrors : judge.errorsAt step v = some errors) :
    Explains resolve [.visit [step] s v] errors := by
  rcases Option.map_eq_some_iff.mp hErrors with ⟨o, hJudge, rfl⟩
  exact .visitAt step (h v o hJudge)

theorem Slot.explains_errors?
    {judge : Judge}
    {p : String × Schema}
    (h : judge.Follows resolve p.2)
    {v : Value}
    (hErrors :
      Slot.errors? ⟨p.1, p.2.settings.required, judge⟩ v =
        some errors) :
    Explains resolve (Schema.propertyContributions v p)
      errors := by
  simp only [errors?] at hErrors
  unfold Schema.propertyContributions
  cases hUndefined : (v.get p.1).isUndefined with
  | true =>
      rw [if_pos hUndefined] at hErrors
      rw [if_pos rfl]
      cases hErrors
      cases p.2.settings.required with
      | true => exact ⟨_, .message .done, rfl⟩
      | false => exact .done
  | false =>
      simp only [hUndefined, Bool.false_eq_true, if_false]
        at hErrors
      rw [if_neg Bool.false_ne_true]
      exact h.errorsAt (.property p.1) hErrors

theorem explains_objectErrors?
    {find : String → Judge}
    {properties : List (String × Schema)}
    (h : ∀ p ∈ properties,
      (p.2.judge find).Follows resolve p.2)
    {v : Value}
    (hErrors : objectErrors? (slots find properties) v =
      some errors) :
    Explains resolve (Schema.objectContributions properties v)
      errors := by
  cases v with
  | object fields =>
      rw [objectErrors?, slots_eq_map, gather_map] at hErrors
      exact .gather
        (fun p hp _ => Slot.explains_errors? (h p hp)) hErrors
  | _ =>
      cases hErrors
      exact .own _

/-
  Checks of items, one for each, come from visits to them at
  their indices.
-/
theorem explains_itemErrors?
    {α : Type}
    {members : List α}
    {judge : α → Judge}
    {schema : α → Schema}
    (h : ∀ a ∈ members, (judge a).Follows resolve (schema a))
    {items : List Value}
    (hErrors : itemErrors? (members.map judge) items =
      some errors) :
    Explains resolve
      ((members.zip items).zipIdx.map fun p =>
        .visit [.index p.2] (schema p.1.1) p.1.2)
      errors := by
  rw [itemErrors?, List.zip_map_left, List.zipIdx_map,
    gather_map] at hErrors
  rw [List.map_eq_flatMap]
  refine .gather (fun p hp part hPart => ?_) hErrors
  have hZip : p.1 ∈ members.zip items :=
    List.fst_mem_of_mem_zipIdx hp
  exact (h p.1.1 (List.of_mem_zip hZip).1).errorsAt
    (.index p.2) hPart

/- The check of each item with one schema. -/
theorem explains_eachItemErrors?
    {judge : Judge}
    {c : Schema}
    (h : judge.Follows resolve c)
    {items : List Value}
    (hErrors : eachItemErrors? (some judge) items =
      some errors) :
    Explains resolve
      (items.zipIdx.map fun p => .visit [.index p.2] c p.1)
      errors := by
  have hItems : itemErrors? (items.map fun _ => judge) items =
      some errors := by
    rw [List.map_const']
    exact hErrors
  have hZip : Explains resolve
      ((items.zip items).zipIdx.map fun p =>
        .visit [.index p.2] c p.1.2) errors :=
    explains_itemErrors? (fun _ _ => h) hItems
  rw [List.zip, List.zipWith_self, List.zipIdx_map,
    List.map_map] at hZip
  exact hZip

theorem explains_arrayErrors?
    {item : Option Schema}
    {judge : Schema → Judge}
    (h : ∀ c, item = some c → (judge c).Follows resolve c)
    {least most : Option Nat}
    {v : Value}
    (hErrors : arrayErrors? (item.map judge) least most v =
      some errors) :
    Explains resolve
      (Schema.arrayContributions item least most v) errors := by
  cases v with
  | array items =>
      rcases Option.map_eq_some_iff.mp hErrors with
        ⟨found, hFound, rfl⟩
      refine (Explains.own _).append ?_
      cases item with
      | none =>
          cases hFound
          exact .done
      | some c => exact explains_eachItemErrors? (h c rfl) hFound
  | _ =>
      cases hErrors
      exact .own _

theorem explains_tupleErrors?
    {elements : List Schema}
    {judge : Schema → Judge}
    (h : ∀ c ∈ elements, (judge c).Follows resolve c)
    {v : Value}
    (hErrors : tupleErrors? (elements.map judge) v =
      some errors) :
    Explains resolve (Schema.tupleContributions elements v)
      errors := by
  cases v with
  | array items =>
      rw [tupleErrors?, List.length_map] at hErrors
      rw [Schema.tupleContributions]
      by_cases hLength : items.length = elements.length
      · rw [if_pos hLength] at hErrors ⊢
        exact explains_itemErrors? h hErrors
      · rw [if_neg hLength] at hErrors ⊢
        cases hErrors
        exact .own _
  | _ =>
      cases hErrors
      exact .own _

theorem explains_recordErrors?
    {keys contents : Judge}
    {k c : Schema}
    (hKeys : keys.Follows resolve k)
    (hContents : contents.Follows resolve c)
    {v : Value}
    (hErrors : recordErrors? keys contents v = some errors) :
    Explains resolve (Schema.recordContributions k c v)
      errors := by
  cases v with
  | object fields =>
      refine .gather (fun field _ part hPart => ?_) hErrors
      rcases Option.bind_eq_some_iff.mp hPart with
        ⟨first, hFirst, hRest⟩
      rcases Option.bind_eq_some_iff.mp hRest with
        ⟨second, hSecond, hAll⟩
      cases hAll
      exact (hKeys.errorsAt _ hFirst).append
        (hContents.errorsAt _ hSecond)
  | _ =>
      cases hErrors
      exact .own _

/- The errors of a guarded node follow its opening. -/
theorem Settings.explains_guard
    {s : Settings}
    {errors? : Value → Option (List String)}
    {v : Value}
    {o : Outcome}
    {present : List Contribution}
    (h : ∀ errors, errors? v = some errors →
      Explains resolve present errors)
    (hJudge : s.guard errors? v = some o) :
    Explains resolve (s.opening v present) o.errors := by
  unfold opening
  rcases guard_cases hJudge with
    ⟨hAbsent, rfl⟩ | ⟨hPresent, errors, hErrors, rfl⟩
  · rw [if_pos hAbsent]
    exact .own _
  · rw [hPresent, if_neg Bool.false_ne_true]
    exact (Explains.own _).append (h errors hErrors)

end

------------------------------------------------------------
-- Unions, Wrappers and Lazy Nodes
------------------------------------------------------------

namespace Settings

section

variable {resolve : String → Option Schema}
variable {s : Settings}
variable {v : Value}
variable {o : Outcome}

/-
  Where an option accepts the value there are no errors but
  the broken rules, and where none does the errors of all
  options follow.
-/
theorem explains_judgeUnion
    {find : String → Judge}
    {options : List Schema}
    (hDecides : ∀ c ∈ options,
      (c.judge find).Decides (Accepts resolve c))
    (hFollows : ∀ c ∈ options,
      (c.judge find).Follows resolve c)
    (hJudge :
      s.judgeUnion (options.map (Schema.judge find)) v =
        some o) :
    Explains resolve
      ((Schema.node s (.union options)).contributions resolve v)
      o.errors := by
  rw [Schema.contributions, Schema.unionContributions]
  rcases judgeUnion_cases hJudge with
    ⟨hAdmits, rfl⟩ |
    ⟨_, hAbsent, hChoice | ⟨errors, hChoice, rfl⟩⟩ |
    ⟨hPresent, ⟨accepted, hChoice, hAccepted⟩ |
      ⟨errors, hChoice, rfl⟩⟩
  · simp only [if_pos hAdmits.isAbsent,
      absence_eq_nil_of_admits hAdmits, ite_self]
    exact .done
  · rcases choose?_spec hDecides hChoice with
      ⟨_, hOk, hCoherent, hValid, hSome⟩ | ⟨_, hError, _⟩
    · cases hOk
      rw [if_pos hSome, if_pos hAbsent, hCoherent.mp hValid]
      exact .done
    · cases hError
  · rcases choose?_spec hDecides hChoice with
      ⟨_, hOk, _⟩ | ⟨_, _, hNone⟩
    · cases hOk
    · rw [if_neg (by simpa using hNone), if_pos hAbsent]
      exact .own _
  · rcases choose?_spec hDecides hChoice with
      ⟨_, hOk, hCoherent, hValid, hSome⟩ | ⟨_, hError, _⟩
    · cases hOk
      rw [if_pos hSome, hPresent, if_neg Bool.false_ne_true]
      rcases hAccepted with ⟨hRules, rfl⟩ | ⟨_, rfl⟩
      · rw [(s.complaints_eq_nil_iff v).mpr hRules,
          hCoherent.mp hValid]
        exact .done
      · exact .own _
    · cases hError
  · rcases choose?_spec hDecides hChoice with
      ⟨_, hOk, _⟩ | ⟨_, _, hNone⟩
    · cases hOk
    · rw [if_neg (by simpa using hNone), hPresent,
        if_neg Bool.false_ne_true, List.map_eq_flatMap]
      have hOptions : Explains resolve
          (options.flatMap fun c => [.visit [] c v])
          errors := by
        refine .gather (fun c hc part hPart => ?_)
          (gather_of_choose?_error hChoice)
        rcases Option.map_eq_some_iff.mp hPart with
          ⟨found, hFound, rfl⟩
        exact .visit (hFollows c hc v found hFound)
      have hAll := (Explains.own (s.complaints v ++
        [Problem.noOption.text])).append hOptions
      rw [List.append_assoc] at hAll
      exact hAll

theorem explains_delegate
    {inner : Judge}
    {c : Schema}
    (hFollows : inner.Follows resolve c)
    (hJudge : s.delegate inner v = some o) :
    Explains resolve
      (Contribution.own (s.complaints v) ++ [.visit [] c v])
      o.errors := by
  rcases delegate_cases hJudge with ⟨found, hFound, hOutcome⟩
  have hErrors : o.errors = s.complaints v ++ found.errors := by
    rcases hOutcome with ⟨hRules, rfl⟩ | ⟨_, rfl⟩
    · rw [(s.complaints_eq_nil_iff v).mpr hRules,
        List.nil_append]
    · rfl
  rw [hErrors]
  exact (Explains.own _).append
    (.visit (hFollows v found hFound))

theorem explains_judgeMapped
    {mapping : Mapping}
    {inner : Judge}
    {c : Schema}
    (hFollows : inner.Follows resolve c)
    (hJudge : s.judgeMapped mapping inner v = some o) :
    Explains resolve
      ((Schema.node s (.mapped mapping c)).contributions
        resolve v)
      o.errors := by
  rw [Schema.contributions]
  rcases judgeMapped_cases hJudge with
    ⟨hAdmits, rfl⟩ | ⟨hAdmits, reason, hImage, rfl⟩ |
    ⟨hAdmits, image, found, hImage, hFound, rfl⟩
  · rw [if_pos ((s.lets_iff v).mpr hAdmits)]
    exact .done
  · rw [if_neg fun hLets => hAdmits ((s.lets_iff v).mp hLets),
      hImage]
    exact .own _
  · rw [if_neg fun hLets => hAdmits ((s.lets_iff v).mp hLets),
      hImage]
    exact (Explains.own _).append
      (.visit (hFollows image found hFound))

/-
  A lazy node explains its errors if it explains those of
  the property that it follows.
-/
theorem explains_judgeLazy_of_next
    {child : Deferred}
    {judge : Judge}
    {property : Option String}
    (hChild : ∀ o, judge v = some o →
      ∃ c, child.schema? resolve = some c ∧
        (o.errors = [] ↔ Accepts resolve c v) ∧
        Explains resolve (c.contributions resolve v) o.errors)
    (hNext : ∀ name rest, property = some name →
      v.isAbsent = false →
      s.judgeLazy judge property (v.get name) = some rest →
        Explains resolve
          ((Schema.node s (.lazy child property)).contributions
            resolve (v.get name))
          rest.errors)
    (hJudge : s.judgeLazy judge property v = some o) :
    Explains resolve
      ((Schema.node s (.lazy child property)).contributions
        resolve v)
      o.errors := by
  rw [Schema.contributions]
  rcases judgeLazy_cases hJudge with
    ⟨hAbsent, rfl⟩ | ⟨hPresent, found, hFound, hStops⟩
  · rw [if_pos hAbsent]
    cases s.nullable with
    | true => exact .done
    | false => exact .own _
  · rcases hChild found hFound with
      ⟨c, hSchema, hAccepts, hInner⟩
    simp only [hPresent, if_neg Bool.false_ne_true, hSchema,
      Schema.nextContributions]
    cases property with
    | none =>
        rcases hStops with ⟨rfl, _⟩ | ⟨_, _, hNone, _⟩
        · exact (Explains.own _).append (.visit hInner)
        · cases hNone
    | some name =>
        rcases hStops with
          ⟨rfl, hStop⟩ |
          ⟨_, rest, hName, hMore, hClear, hRest, rfl⟩
        · have hNot : ¬ ((v.get name).isAbsent = false ∧
              s.Permits v ∧ Accepts resolve c v) := by
            rintro ⟨hMore, hRules, hAccepted⟩
            rcases hStop with hErrors | hEnd
            · apply hErrors
              rw [(s.complaints_eq_nil_iff v).mpr hRules,
                hAccepts.mpr hAccepted]
              rfl
            · simp [hEnd name rfl] at hMore
          simp only [if_neg hNot]
          exact (Explains.own _).append (.visit hInner)
        · cases hName
          rcases List.append_eq_nil_iff.mp hClear with
            ⟨hRules, hFoundNone⟩
          have hFollowed : (v.get name).isAbsent = false ∧
              s.Permits v ∧ Accepts resolve c v :=
            ⟨hMore, (s.complaints_eq_nil_iff v).mp hRules,
              hAccepts.mp hFoundNone⟩
          simp only [if_pos hFollowed]
          rw [hFoundNone] at hInner
          rw [hRules]
          exact (Explains.visit hInner).append
            (.visitAt (.property name)
              (hNext name rest rfl hPresent hRest))

/-
  A lazy node explains its errors. The induction is on the
  length of the trail that it follows, and an absent value,
  at which a trail ends, has only messages of its own.
-/
theorem explains_judgeLazy
    {child : Deferred}
    {judge : Judge}
    {property : Option String}
    (hChild : ∀ v o, judge v = some o →
      ∃ c, child.schema? resolve = some c ∧
        (o.errors = [] ↔ Accepts resolve c v) ∧
        Explains resolve (c.contributions resolve v) o.errors)
    (hJudge : s.judgeLazy judge property v = some o) :
    Explains resolve
      ((Schema.node s (.lazy child property)).contributions
        resolve v)
      o.errors := by
  induction hLength : (followed property v).length
    using Nat.strongRecOn generalizing v o with
  | ind n ih =>
      refine explains_judgeLazy_of_next (hChild v) ?_ hJudge
      intro name rest hName hPresent hRest
      have hShorter :
          (followed property (v.get name)).length < n := by
        subst hName hLength
        simp [followed, Value.trail_of_present name hPresent]
      exact ih _ hShorter hRest rfl

end

end Settings

------------------------------------------------------------
-- Schemas
------------------------------------------------------------

namespace Schema

/-
  The check against a schema follows the walk if the checks
  of the named schemas do. The induction is on the schema,
  and what a check decides says where unions and lazy nodes
  go.
-/
theorem follows_judge
    {resolve : String → Option Schema}
    {find : String → Judge}
    (hDecides : ∀ c : Schema,
      (c.judge find).Decides (Accepts resolve c))
    (hNamed : ∀ name v o, find name v = some o →
      ∃ c, resolve name = some c ∧
        (o.errors = [] ↔ Accepts resolve c v) ∧
        Explains resolve (c.contributions resolve v) o.errors)
    (s : Schema) :
    (s.judge find).Follows resolve s := by
  induction s with
  | leaf settings kind =>
      intro v o hJudge
      rw [judge] at hJudge
      rw [contributions]
      refine Settings.explains_guard (fun errors h => ?_) hJudge
      cases h
      exact .own _
  | object settings properties ih =>
      intro v o hJudge
      rw [judge] at hJudge
      rw [contributions]
      exact Settings.explains_guard
        (fun _ => explains_objectErrors? ih) hJudge
  | array settings item least most ih =>
      intro v o hJudge
      have hGuard : settings.guard
          (arrayErrors? (item.map (judge find)) least most) v =
          some o := by
        cases item with
        | none =>
            rw [judge] at hJudge
            exact hJudge
        | some c =>
            rw [judge] at hJudge
            exact hJudge
      rw [contributions]
      exact Settings.explains_guard
        (fun _ => explains_arrayErrors? ih) hGuard
  | tuple settings elements ih =>
      intro v o hJudge
      rw [judge, judges_eq_map] at hJudge
      rw [contributions]
      exact Settings.explains_guard
        (fun _ => explains_tupleErrors? ih) hJudge
  | record settings keys contents ihKeys ihContents =>
      intro v o hJudge
      rw [judge] at hJudge
      rw [contributions]
      exact Settings.explains_guard
        (fun _ => explains_recordErrors? ihKeys ihContents)
        hJudge
  | union settings options ih =>
      intro v o hJudge
      rw [judge, judges_eq_map] at hJudge
      exact Settings.explains_judgeUnion
        (fun c _ => hDecides c) ih hJudge
  | nullable settings inner ih =>
      intro v o hJudge
      rw [judge] at hJudge
      rw [contributions]
      rcases Settings.judgeNullable_cases hJudge with
        ⟨hAbsent, rfl⟩ | ⟨hPresent, hDelegate⟩
      · rw [if_pos hAbsent]
        exact .done
      · rw [hPresent, if_neg Bool.false_ne_true]
        exact Settings.explains_delegate ih hDelegate
  | optional settings inner ih =>
      intro v o hJudge
      rw [judge] at hJudge
      rw [contributions]
      rcases Settings.judgeOptional_cases hJudge with
        ⟨hUndefined, rfl⟩ | ⟨hDefined, hDelegate⟩
      · rw [if_pos hUndefined]
        exact .done
      · rw [hDefined, if_neg Bool.false_ne_true]
        exact Settings.explains_delegate ih hDelegate
  | mapped settings mapping inner ih =>
      intro v o hJudge
      rw [judge] at hJudge
      exact Settings.explains_judgeMapped ih hJudge
  | known settings child property ih =>
      intro v o hJudge
      rw [judge] at hJudge
      refine Settings.explains_judgeLazy (fun w r h => ?_) hJudge
      exact ⟨child, rfl, (hDecides child).errors_eq_nil_iff h,
        ih w r h⟩
  | named settings name property =>
      intro v o hJudge
      rw [judge] at hJudge
      exact Settings.explains_judgeLazy (hNamed name) hJudge

/-
  With any number of unfoldings, the errors of a named
  schema come from a walk of the schema that it names.
-/
theorem explains_namedJudge
    {resolve : String → Option Schema}
    (unfoldings : Nat)
    (name : String)
    (v : Value)
    (o : Outcome)
    (hJudge : namedJudge resolve unfoldings name v = some o) :
    ∃ c, resolve name = some c ∧
      (o.errors = [] ↔ Accepts resolve c v) ∧
      Explains resolve (c.contributions resolve v)
        o.errors := by
  induction unfoldings generalizing name v o with
  | zero => cases hJudge
  | succ n ih =>
      rw [namedJudge] at hJudge
      cases hResolve : resolve name with
      | none => simp [hResolve] at hJudge
      | some c =>
          simp only [hResolve] at hJudge
          have hDecides : ∀ c : Schema,
              (c.judge (namedJudge resolve n)).Decides
                (Accepts resolve c) :=
            decides_judge (decides_namedJudge resolve n)
          exact ⟨c, rfl,
            (hDecides c).errors_eq_nil_iff hJudge,
            follows_judge hDecides ih c v o hJudge⟩

/-
  Where a check ends, there is exactly one list of located
  messages that the walk of the schema collects, and the
  errors of the outcome are their texts in the same order.
-/
theorem judgeWithin_errors
    (resolve : String → Option Schema)
    (unfoldings : Nat)
    (s : Schema)
    (v : Value)
    (o : Outcome)
    (hEnds : s.judgeWithin resolve unfoldings v = some o) :
    ∃ found,
      Walks resolve (s.contributions resolve v) found ∧
        (∀ other,
          Walks resolve (s.contributions resolve v) other →
            other = found) ∧
        o.errors = found.map Located.render := by
  rcases follows_judge
      (decides_judge (decides_namedJudge resolve unfoldings))
      (explains_namedJudge unfoldings) s v o hEnds with
    ⟨found, hWalks, hErrors⟩
  exact ⟨found, hWalks, fun _ => hWalks.unique, hErrors⟩

/- Three prices or more, and numbers by longer names. -/
def ledger : Schema :=
  (object.property "lines"
    ((array.setItems (object.property "price" number)
      ).setMinLength 3)).property "tags"
    (record (string.setMinLength 2) number)

/- Two lines without a proper price, and one short name. -/
def brokenLedger : Value :=
  .object
    [ ("lines", .array
        [ .object [], .object [("price", .bool true)] ]),
      ("tags", .object [("a", .null)]) ]

/-
  The items of an array that is too short are visited, and
  the name of a field is visited before its contents. Each
  error names all that lies between it and the ledger.
-/
theorem judgeWithin_errors_ledger :
    ∃ o,
      ledger.judgeWithin (fun _ => none) 0 brokenLedger =
          some o ∧
        (∃ found,
          Walks (fun _ => none)
              (ledger.contributions (fun _ => none)
                brokenLedger) found ∧
            (∀ other,
              Walks (fun _ => none)
                  (ledger.contributions (fun _ => none)
                    brokenLedger) other →
                other = found) ∧
            o.errors = found.map Located.render) ∧
        o.errors = List.map Located.render
          [ ⟨[.property "lines"],
              (Problem.arrayTooShort 3).text⟩,
            ⟨[.property "lines", .index 0, .property "price"],
              Problem.missingProperty.text⟩,
            ⟨[.property "lines", .index 1, .property "price"],
              Problem.notNumber.text⟩,
            ⟨[.property "tags", .key "a"],
              (Problem.stringTooShort 2).text⟩,
            ⟨[.property "tags", .entry "a"],
              Problem.isNull.text⟩ ] ∧
        o.errors =
          [ "Validation failed for property 'lines': " ++
              "Array is too short. Minimum length is 3.",
            "Validation failed for property 'lines': " ++
              "Error at index 0: " ++
              "Validation failed for property 'price': " ++
              "Property is missing.",
            "Validation failed for property 'lines': " ++
              "Error at index 1: " ++
              "Validation failed for property 'price': " ++
              "Value must be a number.",
            "Validation failed for property 'tags': " ++
              "Invalid key 'a': " ++
              "String is too short. Minimum length is 2.",
            "Validation failed for property 'tags': " ++
              "Invalid value for key 'a': " ++
              "Value cannot be null." ] := by
  refine ⟨_, rfl, ?_, rfl, by decide +kernel⟩
  exact judgeWithin_errors (fun _ => none) 0 ledger brokenLedger
    _ rfl

end Schema

end Conform
