import Conform.Catalog
import Conform.Proofs.Definition.Meaning

/-
  Runs of a catalog. A caller asks one thing after another
  and gets an answer each time. Beside the catalog stands
  one that keeps nothing: it compiles a definition anew
  whenever its schema is needed, with the registry that is
  installed at that time.

  Main declarations:
    * `Operation` and `Answer`
    * `Catalog.step` and `Catalog.run`
    * `Uncached.answer` and `Uncached.run`
    * `Uncached.compile_of_mem_issuedAt`
    * `Uncached.run_eraseIdx`
    * `issuedAt`
-/

namespace Conform

------------------------------------------------------------
-- Operations and Answers
------------------------------------------------------------

/- What a caller may ask of a catalog. -/
inductive Operation
  | keys
  | contains (name : String)
  | definition (name : String)
  | get (name : String)
  | validate (name : String) (v : Value)
  | getAll
  | withRegistry (registry : Registry)

namespace Operation

/- Whether an operation replaces the registry. -/
def replaces : Operation → Bool
  | withRegistry _ => true
  | _ => false

/- The registry that is installed after an operation. -/
def registryAfter
    (registry : Registry) : Operation → Registry
  | withRegistry other => other
  | _ => registry

/- How often operations replace the registry. -/
def replacements
    (operations : List Operation) : Nat :=
  operations.countP replaces

end Operation

/-
  What a caller gets: names, a truth value, a definition, an
  outcome, or the nodes of schemas with their names. Nodes
  may come with what tells them apart.
-/
inductive Answer (ν : Type)
  | names (names : List String)
  | flag (b : Bool)
  | definition (definition : Option Json)
  | outcome (result : Except Failure (Option Outcome))
  | nodes (result : Except Failure (List (String × ν)))
  | done

namespace Answer

variable {α β : Type}

/- Changes the nodes of an answer. -/
def map
    (f : α → β) : Answer α → Answer β
  | names l => names l
  | flag b => flag b
  | definition d => definition d
  | outcome r => outcome r
  | nodes r =>
      nodes (r.map fun l => l.map fun p => (p.1, f p.2))
  | done => done

/- The nodes that an answer hands out with their names. -/
def issued : Answer α → List (String × α)
  | nodes (.ok l) => l
  | _ => []

/- The answer of an operation that failed. -/
def Failed : Answer α → Prop
  | outcome r => ∃ e, r = .error e
  | nodes r => ∃ e, r = .error e
  | _ => False

theorem issued_map
    (f : α → β)
    (a : Answer α) :
    (a.map f).issued = a.issued.map fun p => (p.1, f p.2) := by
  cases a with
  | nodes r => cases r <;> rfl
  | _ => rfl

end Answer

/- The nodes that are handed out at a place of a run. -/
def issuedAt
    {ν : Type}
    (answers : List (Answer ν))
    (i : Nat) : List (String × ν) :=
  match answers[i]? with
  | some a => a.issued
  | none => []

------------------------------------------------------------
-- Runs of a Catalog
------------------------------------------------------------

namespace Catalog

/- One operation, with its answer and the catalog after it. -/
def step
    (op : Operation)
    (c : Catalog) : Answer Handle × Catalog :=
  match op with
  | .keys => (.names c.keys, c)
  | .contains name => (.flag (c.contains name), c)
  | .definition name => (.definition (c.definition? name), c)
  | .get name =>
      let (result, c) := c.get name
      (.nodes (result.map fun handle => [(name, handle)]), c)
  | .validate name v =>
      let (result, c) := c.validate name v
      (.outcome result, c)
  | .getAll =>
      let (result, c) := c.getAll
      (.nodes result, c)
  | .withRegistry registry => (.done, c.withRegistry registry)

/- The answers to operations, one after another. -/
def run
    (c : Catalog) : List Operation → List (Answer Handle)
  | [] => []
  | op :: rest => (c.step op).1 :: (c.step op).2.run rest

end Catalog

------------------------------------------------------------
-- Runs Without Kept Schemas
------------------------------------------------------------

/-
  A document with the registry that is installed. Nothing is
  kept of what is compiled.
-/
structure Uncached where
  document : Document
  registry : Registry

namespace Uncached

/- Compiles the definition of a name. -/
def compile
    (s : Uncached)
    (name : String) : Except Failure Schema :=
  match s.document.definitions.lookup name with
  | none => .error (.missingEntity name)
  | some j =>
      match Definition.compile s.registry j name with
      | .ok schema => .ok schema
      | .error f => .error (.fault f)

/- Compiles several definitions, up to the first failure. -/
def compileEach
    (s : Uncached) :
    List String → Except Failure (List (String × Schema))
  | [] => .ok []
  | name :: rest => do
      let schema ← s.compile name
      let others ← s.compileEach rest
      .ok ((name, schema) :: others)

/- The answer to an operation, with all compiled anew. -/
def answer
    (s : Uncached) : Operation → Answer Schema
  | .keys => .names (Fields.names s.document.definitions)
  | .contains name =>
      .flag (s.document.definitions.lookup name).isSome
  | .definition name =>
      .definition (s.document.definitions.lookup name)
  | .get name =>
      .nodes ((s.compile name).map fun schema =>
        [(name, schema)])
  | .validate name v =>
      .outcome ((s.compile name).map fun schema =>
        schema.verdict? v)
  | .getAll =>
      .nodes
        (s.compileEach (Fields.names s.document.definitions))
  | .withRegistry _ => .done

/- The document with the registry that is installed next. -/
def after
    (s : Uncached)
    (op : Operation) : Uncached :=
  { s with registry := op.registryAfter s.registry }

/- The answers to operations, one after another. -/
def run
    (s : Uncached) : List Operation → List (Answer Schema)
  | [] => []
  | op :: rest => s.answer op :: (s.after op).run rest

/- The document with the registry installed before a place. -/
def before
    (s : Uncached)
    (operations : List Operation)
    (i : Nat) : Uncached :=
  (operations.take i).foldl after s

section

variable {s : Uncached}
variable {name : String}

theorem compileEach_cons_eq_ok_iff
    {rest : List String}
    {found : List (String × Schema)} :
    s.compileEach (name :: rest) = .ok found ↔
      ∃ schema others, s.compile name = .ok schema ∧
        s.compileEach rest = .ok others ∧
        found = (name, schema) :: others := by
  rw [compileEach]
  cases hFirst : s.compile name with
  | error e => simp [bind, Except.bind]
  | ok schema =>
      cases hOthers : s.compileEach rest with
      | error e => simp [bind, Except.bind]
      | ok others => simp [bind, Except.bind, eq_comm]

theorem mem_compileEach
    {names : List String}
    {found : List (String × Schema)}
    (h : s.compileEach names = .ok found) :
    ∀ p ∈ found, s.compile p.1 = .ok p.2 := by
  induction names generalizing found with
  | nil =>
      cases h
      exact fun p hp => absurd hp List.not_mem_nil
  | cons name rest ih =>
      rcases compileEach_cons_eq_ok_iff.mp h with
        ⟨schema, others, hFirst, hOthers, rfl⟩
      exact List.forall_mem_cons.mpr ⟨hFirst, ih hOthers⟩

/- What is compiled is compiled under its own name. -/
theorem names_compileEach
    {names : List String}
    {found : List (String × Schema)}
    (h : s.compileEach names = .ok found) :
    found.map Prod.fst = names := by
  induction names generalizing found with
  | nil =>
      cases h
      rfl
  | cons name rest ih =>
      rcases compileEach_cons_eq_ok_iff.mp h with
        ⟨schema, others, _, hOthers, rfl⟩
      exact congrArg (name :: ·) (ih hOthers)

/-
  Where several compilations fail, the first of them that
  fails does so for the same reason.
-/
theorem first_of_compileEach_eq_error
    {names : List String}
    {f : Failure}
    (h : s.compileEach names = .error f) :
    ∃ before name after, names = before ++ name :: after ∧
      (∀ n ∈ before, ∃ schema, s.compile n = .ok schema) ∧
      s.compile name = .error f := by
  induction names with
  | nil => cases h
  | cons name rest ih =>
      rw [compileEach] at h
      cases hFirst : s.compile name with
      | error e =>
          rw [hFirst] at h
          cases h
          exact ⟨[], name, rest, rfl,
            fun n hn => absurd hn List.not_mem_nil, hFirst⟩
      | ok schema =>
          have hOthers : s.compileEach rest = .error f := by
            cases hOthers : s.compileEach rest with
            | error e =>
                rw [hFirst, hOthers] at h
                exact h
            | ok others =>
                rw [hFirst, hOthers] at h
                cases h
          rcases ih hOthers with
            ⟨before, n, after, hNames, hBefore, hFails⟩
          refine ⟨name :: before, n, after,
            congrArg (name :: ·) hNames, ?_, hFails⟩
          exact List.forall_mem_cons.mpr
            ⟨⟨schema, hFirst⟩, hBefore⟩

/- What is compiled is a definition of the document. -/
theorem compile_eq_ok_iff
    {schema : Schema} :
    s.compile name = .ok schema ↔
      ∃ definition,
        s.document.definitions.lookup name =
            some definition ∧
          Definition.compile s.registry definition name =
            .ok schema := by
  unfold compile
  cases s.document.definitions.lookup name with
  | none => simp
  | some definition =>
      cases hCompile :
          Definition.compile s.registry definition name <;>
        simp [hCompile]

/- What is compiled has a verdict on every value. -/
theorem verdict?_of_compile_eq_ok
    {schema : Schema}
    (h : s.compile name = .ok schema)
    (v : Value) :
    ∃ o, schema.verdict? v = some o := by
  rcases compile_eq_ok_iff.mp h with ⟨_, _, hCompile⟩
  exact Definition.verdict?_of_compile_eq_ok hCompile v

/- A validation that does not fail has an outcome. -/
theorem outcome_of_answer
    {op : Operation}
    {r : Option Outcome}
    (h : s.answer op = .outcome (.ok r)) :
    ∃ o, r = some o := by
  cases op with
  | validate name v =>
      rw [answer] at h
      cases hCompile : s.compile name with
      | error e =>
          rw [hCompile] at h
          cases h
      | ok schema =>
          rw [hCompile] at h
          cases h
          exact verdict?_of_compile_eq_ok hCompile v
  | _ => cases h

theorem outcome_of_run
    {operations : List Operation}
    {r : Option Outcome}
    (h : .outcome (.ok r) ∈ s.run operations) :
    ∃ o, r = some o := by
  induction operations generalizing s with
  | nil => exact absurd h List.not_mem_nil
  | cons op rest ih =>
      rcases List.mem_cons.mp h with hHead | hRest
      · exact outcome_of_answer hHead.symm
      · exact ih hRest

/- What is handed out is what is compiled. -/
theorem compile_of_mem_issued
    {op : Operation}
    {p : String × Schema}
    (h : p ∈ (s.answer op).issued) :
    s.compile p.1 = .ok p.2 := by
  cases op with
  | get name =>
      rw [answer] at h
      cases hCompile : s.compile name with
      | error e =>
          rw [hCompile] at h
          exact absurd h List.not_mem_nil
      | ok schema =>
          rw [hCompile] at h
          rw [List.mem_singleton.mp h]
          exact hCompile
  | getAll =>
      rw [answer] at h
      generalize Fields.names s.document.definitions = names
        at h
      cases hCompile : s.compileEach names with
      | error e =>
          rw [hCompile] at h
          exact absurd h List.not_mem_nil
      | ok found =>
          rw [hCompile] at h
          exact mem_compileEach hCompile p h
  | _ => exact absurd h List.not_mem_nil

/- So is what is handed out at any place of a run. -/
theorem compile_of_mem_issuedAt
    {operations : List Operation}
    {i : Nat}
    {p : String × Schema}
    (h : p ∈ issuedAt (s.run operations) i) :
    (s.before operations i).compile p.1 = .ok p.2 := by
  induction operations generalizing s i with
  | nil => exact absurd h List.not_mem_nil
  | cons op rest ih =>
      cases i with
      | zero => exact compile_of_mem_issued h
      | succ i => exact ih h

theorem after_of_not_replaces
    {op : Operation}
    (h : op.replaces = false) :
    s.after op = s := by
  cases op with
  | withRegistry registry => cases h
  | _ => rfl

/-
  An operation that does not replace the registry has no
  bearing on the other answers.
-/
theorem run_eraseIdx
    {op : Operation}
    (hOp : op.replaces = false)
    (before after : List Operation) :
    (s.run (before ++ op :: after)).eraseIdx before.length =
      s.run (before ++ after) := by
  induction before generalizing s with
  | nil =>
      show (s.after op).run after = s.run after
      rw [after_of_not_replaces hOp]
  | cons first rest ih =>
      exact congrArg (s.answer first :: ·) ih

end

end Uncached

end Conform
