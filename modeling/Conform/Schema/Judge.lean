import Conform.Schema

/-
  This file defines the check of a value against a schema.
  The check of a node is put together from the checks of the
  nodes below it, and each shape has its own way to do so.

  A lazy node may name its child. A named schema is unfolded
  when it is needed, and the number of unfoldings inside one
  another is bounded, so a check may end without an outcome.
  Schemas without named children always have an outcome.

  Key definitions include:
    * `Judge`
    * `gather`
    * `Settings.guard`
    * `Settings.judgeUnion`
    * `Settings.delegate`
    * `Settings.judgeMapped`
    * `Settings.judgeLazy`
    * `Schema.judge`
    * `Schema.judgeWithin`
    * `Schema.validate`
-/

namespace Conform

/-
  A check of values. It has no outcome if it would need more
  unfoldings of named schemas than it is given.
-/
abbrev Judge :=
  Value → Option Outcome

/- The errors of a check, seen from a step further up. -/
def Judge.errorsAt
    (judge : Judge)
    (step : Step)
    (v : Value) : Option (List String) :=
  (judge v).map fun o => step.locate o.errors

/- The results for all members of a list, one after another. -/
def gather
    {α β : Type}
    (f : α → Option (List β)) : List α → Option (List β)
  | [] => some []
  | a :: rest => do
      let first ← f a
      let others ← gather f rest
      some (first ++ others)

------------------------------------------------------------
-- Objects, Arrays, Tuples and Records
------------------------------------------------------------

/- A declared property of an object. -/
structure Slot where
  name : String
  required : Bool
  judge : Judge

/-
  The errors of one property of an object. A property that
  is undefined is an error only where it is required.
-/
def Slot.errors?
    (slot : Slot)
    (v : Value) : Option (List String) :=
  let step := Step.property slot.name
  let field := v.get slot.name
  if field.isUndefined then
    some (if slot.required then
      step.locate [Problem.missingProperty.text] else [])
  else
    slot.judge.errorsAt step field

/- The errors of the declared properties of an object. -/
def objectErrors?
    (slots : List Slot)
    (v : Value) : Option (List String) :=
  match v with
  | .object _ => gather (fun slot => slot.errors? v) slots
  | _ => some [Problem.notObject.text]

/- The errors of the items of an array from an index on. -/
def itemErrors?
    (judges : List Judge)
    (items : List Value) : Option (List String) :=
  gather
    (fun p : (Judge × Value) × Nat =>
      p.1.1.errorsAt (.index p.2) p.1.2)
    (judges.zip items).zipIdx

/-
  The errors of the items of an array, which are checked
  only if the array says how.
-/
def eachItemErrors?
    (item : Option Judge)
    (items : List Value) : Option (List String) :=
  match item with
  | none => some []
  | some judge =>
      itemErrors? (List.replicate items.length judge) items

/-
  The errors of an array. The items are checked even if
  there are too few or too many of them.
-/
def arrayErrors?
    (item : Option Judge)
    (minLength maxLength : Option Nat)
    (v : Value) : Option (List String) :=
  match v with
  | .array items =>
      let n := items.length
      let problems :=
        Leaf.boundProblems minLength (fun m => decide (n < m))
            .arrayTooShort ++
          Leaf.boundProblems maxLength (fun m => decide (m < n))
            .arrayTooLong
      (eachItemErrors? item items).map fun errors =>
        problems.map Problem.text ++ errors
  | _ => some [Problem.notArray.text]

/-
  The errors of a tuple. The elements are checked only if
  there is one for each place.
-/
def tupleErrors?
    (elements : List Judge)
    (v : Value) : Option (List String) :=
  match v with
  | .array items =>
      if items.length = elements.length then
        itemErrors? elements items
      else
        some [(Problem.wrongArity elements.length).text]
  | _ => some [Problem.notArray.text]

/-
  The errors of a record: for each field those of its name
  and then those of its contents.
-/
def recordErrors?
    (keys contents : Judge)
    (v : Value) : Option (List String) :=
  match v with
  | .object fields =>
      gather
        (fun field => do
          let first ← keys.errorsAt (.key field.1)
            (.string field.1)
          let second ← contents.errorsAt (.entry field.1)
            field.2
          some (first ++ second))
        fields
  | _ => some [Problem.notObject.text]

namespace Settings

/-
  The check of a node that looks at present values only. The
  settings decide about absent ones, and the messages of
  broken rules come first.
-/
def guard
    (s : Settings)
    (errors? : Value → Option (List String)) : Judge :=
  fun v =>
    match s.presence? v with
    | some outcome => some outcome
    | none =>
        (errors? v).map fun errors =>
          Outcome.ofErrors (s.complaints v ++ errors)

------------------------------------------------------------
-- Unions
------------------------------------------------------------

/-
  The outcome of the first option that accepts a value, or
  the errors of all options. Options after one that accepts
  are not consulted.
-/
def choose? : List Judge → Value →
    Option (Except (List String) Outcome)
  | [], _ => some (.error [])
  | judge :: rest, v => do
      let outcome ← judge v
      if outcome.isValid then some (.ok outcome)
      else
        match ← choose? rest v with
        | .ok later => some (.ok later)
        | .error errors => some (.error (outcome.errors ++ errors))

/-
  The check of a union. An absent value that the settings
  refuse is offered to the options as well. Where an option
  accepts, its outcome is the outcome, unless the value
  breaks a rule of the union.
-/
def judgeUnion
    (s : Settings)
    (options : List Judge) : Judge :=
  fun v =>
    match s.presence? v with
    | some outcome =>
        if outcome.isValid then some outcome
        else
          (choose? options v).map fun choice =>
            match choice with
            | .ok accepted => accepted
            | .error _ => outcome
    | none =>
        let broken := s.complaints v
        (choose? options v).map fun choice =>
          match choice with
          | .ok accepted =>
              if broken.isEmpty then accepted
              else Outcome.ofErrors broken
          | .error errors =>
              Outcome.ofErrors
                (broken ++ Problem.noOption.text :: errors)

------------------------------------------------------------
-- Wrappers
------------------------------------------------------------

/-
  The check that a wrapper leaves to its inner node. Where
  the value breaks a rule of the wrapper, the errors of the
  inner node follow the messages of the broken rules.
-/
def delegate
    (s : Settings)
    (inner : Judge) : Judge :=
  fun v =>
    let broken := s.complaints v
    (inner v).map fun outcome =>
      if broken.isEmpty then outcome
      else Outcome.ofErrors (broken ++ outcome.errors)

/- The check of a node that lets both absent values pass. -/
def judgeNullable
    (s : Settings)
    (inner : Judge) : Judge :=
  fun v =>
    if v.isAbsent then some Outcome.valid
    else s.delegate inner v

/- The check of a node that lets the undefined value pass. -/
def judgeOptional
    (s : Settings)
    (inner : Judge) : Judge :=
  fun v =>
    if v.isUndefined then some Outcome.valid
    else s.delegate inner v

/- An absent value that the settings let pass unmapped. -/
def lets
    (s : Settings) : Value → Bool
  | .undefined => !s.required
  | .null => s.nullable
  | _ => false

/-
  The check of a node with a mapping. The value that the
  mapping gives is checked, by the rules of the node if it
  is present and by the inner node in any case, and it is
  part of the outcome.
-/
def judgeMapped
    (s : Settings)
    (mapping : Mapping)
    (inner : Judge) : Judge :=
  fun v =>
    if s.lets v then some (Outcome.valid.withValue v)
    else
      match mapping v with
      | .error reason =>
          some (Outcome.ofErrors
            [(Problem.mappingFailed reason).text])
      | .ok mapped =>
          let broken :=
            if mapped.isAbsent then [] else s.complaints mapped
          (inner mapped).map fun outcome =>
            (Outcome.ofErrors (broken ++ outcome.errors)).withValue
              mapped

------------------------------------------------------------
-- Lazy Nodes
------------------------------------------------------------

/-
  The errors of the values of a trail, up to the first one
  that has any. Each step away from the start of the trail
  is a step to a property.
-/
def trailErrors?
    (errors? : Value → Option (List String))
    (name : String) : List Value → Option (List String)
  | [] => some []
  | v :: rest => do
      let errors ← errors? v
      if errors.isEmpty then
        (trailErrors? errors? name rest).map
          (Step.property name).locate
      else
        some errors

/-
  The check of a lazy node. Absent values pass if the node
  is nullable. With a property name, the values of the trail
  of that property are all checked in the same way.
-/
def judgeLazy
    (s : Settings)
    (child : Judge)
    (property : Option String) : Judge :=
  fun v =>
    if v.isAbsent then
      some (if s.nullable then Outcome.valid
        else s.refuse .isAbsent)
    else
      let errors? (w : Value) : Option (List String) :=
        (child w).map fun outcome =>
          s.complaints w ++ outcome.errors
      match property with
      | none => (errors? v).map Outcome.ofErrors
      | some name =>
          (trailErrors? errors? name (v.trail name)).map
            Outcome.ofErrors

end Settings

------------------------------------------------------------
-- Schemas
------------------------------------------------------------

mutual

/-
  The check against a schema, given the checks against the
  named schemas.
-/
def Schema.judge
    (find : String → Judge) : Schema → Judge
  | .node s (.leaf l) =>
      s.guard fun v => some ((l.problems v).map Problem.text)
  | .node s (.object properties) =>
      s.guard (objectErrors? (slots find properties))
  | .node s (.array none minLength maxLength) =>
      s.guard (arrayErrors? none minLength maxLength)
  | .node s (.array (some item) minLength maxLength) =>
      s.guard (arrayErrors? (some (item.judge find))
        minLength maxLength)
  | .node s (.tuple elements) =>
      s.guard (tupleErrors? (judges find elements))
  | .node s (.record keys contents) =>
      s.guard (recordErrors? (keys.judge find)
        (contents.judge find))
  | .node s (.union options) =>
      s.judgeUnion (judges find options)
  | .node s (.nullable inner) =>
      s.judgeNullable (inner.judge find)
  | .node s (.optional inner) =>
      s.judgeOptional (inner.judge find)
  | .node s (.mapped mapping inner) =>
      s.judgeMapped mapping (inner.judge find)
  | .node s (.lazy (.known child) property) =>
      s.judgeLazy (child.judge find) property
  | .node s (.lazy (.named name) property) =>
      s.judgeLazy (find name) property

/- The checks against several schemas. -/
def judges
    (find : String → Judge) : List Schema → List Judge
  | [] => []
  | s :: rest => s.judge find :: judges find rest

/- The checks of several properties. -/
def slots
    (find : String → Judge) :
    List (String × Schema) → List Slot
  | [] => []
  | (name, s) :: rest =>
      ⟨name, s.settings.required, s.judge find⟩ ::
        slots find rest

end

theorem judges_eq_map
    (find : String → Judge)
    (schemas : List Schema) :
    judges find schemas = schemas.map (Schema.judge find) := by
  induction schemas with
  | nil => simp [judges]
  | cons s rest ih => simp [judges, ih]

theorem slots_eq_map
    (find : String → Judge)
    (properties : List (String × Schema)) :
    slots find properties = properties.map fun p =>
      ⟨p.1, p.2.settings.required, p.2.judge find⟩ := by
  induction properties with
  | nil => simp [slots]
  | cons p rest ih => simp [slots, ih]

/-
  The check against a named schema, with a bound on the
  unfoldings inside one another. What a name stands for is
  looked up anew each time.
-/
def namedJudge
    (resolve : String → Option Schema) :
    Nat → String → Judge
  | 0, _, _ => none
  | n + 1, name, v =>
      match resolve name with
      | none => none
      | some s => s.judge (namedJudge resolve n) v

namespace Schema

/-
  The check against a schema whose lazy nodes may name
  schemas, with a bound on the unfoldings.
-/
def judgeWithin
    (resolve : String → Option Schema)
    (unfoldings : Nat)
    (s : Schema) : Judge :=
  s.judge (namedJudge resolve unfoldings)

/-
  The check against a schema whose lazy nodes may name the
  schemas of a table.
-/
def validate
    (table : List (String × Schema))
    (unfoldings : Nat)
    (s : Schema) : Judge :=
  s.judgeWithin (fun name => table.lookup name) unfoldings

/- The check against a schema without named children. -/
def verdict?
    (s : Schema) : Judge :=
  s.judge fun _ _ => none

end Schema

end Conform
