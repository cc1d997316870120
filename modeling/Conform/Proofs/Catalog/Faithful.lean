import Conform.Proofs.Catalog.Runs

/-
  What a catalog keeps. Every schema that is kept is the
  compilation of the definition of its name with the
  registry that is installed, so all answers are those that
  are given without kept schemas.

  Main declarations:
    * `Catalog.Getting`
    * `Catalog.Faithful`
    * `Catalog.step_map_schema`
    * `Catalog.run_map_schema`
    * `Catalog.faithful_after`
-/

namespace Conform

namespace Catalog

------------------------------------------------------------
-- Getting a Schema
------------------------------------------------------------

/- The document and the registry of a catalog. -/
def uncached
    (c : Catalog) : Uncached :=
  ⟨c.document, c.registry⟩

@[simp]
theorem uncached_keep
    (name : String)
    (schema : Schema)
    (c : Catalog) :
    (c.keep name schema).uncached = c.uncached := rfl

/-
  A schema is asked for in one of three ways: it is kept
  already, it cannot be compiled, or it is compiled and
  kept.
-/
inductive Getting
    (name : String)
    (c : Catalog) : Except Failure Handle × Catalog → Prop
  | kept {handle : Handle}
      (hKept : c.compiled.lookup name = some handle) :
      Getting name c (.ok handle, c)
  | failed {e : Failure}
      (hFails : c.uncached.compile name = .error e) :
      Getting name c (.error e, c)
  | compiled {schema : Schema}
      (hNew : c.compiled.lookup name = none)
      (hCompile : c.uncached.compile name = .ok schema) :
      Getting name c
        (.ok ⟨c.compilations, schema⟩, c.keep name schema)

theorem getting
    (name : String)
    (c : Catalog) :
    Getting name c (c.get name) := by
  unfold get
  cases hKept : c.compiled.lookup name with
  | some handle => exact .kept hKept
  | none =>
      cases hCompile : c.compile name with
      | error e => exact .failed hCompile
      | ok schema => exact .compiled hKept hCompile

------------------------------------------------------------
-- Faithful Catalogs
------------------------------------------------------------

/-
  Every schema that is kept is the compilation of the
  definition of its name with the registry that is
  installed.
-/
def Faithful
    (c : Catalog) : Prop :=
  ∀ name handle, c.compiled.lookup name = some handle →
    c.uncached.compile name = .ok handle.schema

theorem faithful_keep
    {c : Catalog}
    {name : String}
    {schema : Schema}
    (h : c.Faithful)
    (hCompile : c.uncached.compile name = .ok schema) :
    (c.keep name schema).Faithful := by
  intro n handle hKept
  rw [uncached_keep]
  by_cases hName : n = name
  · subst hName
    rw [keep, List.lookup_cons_self] at hKept
    cases hKept
    exact hCompile
  · rw [keep, Fields.lookup_cons_of_ne hName] at hKept
    exact h n handle hKept

/- A faithful catalog gives the schema compiled anew. -/
theorem get_map_schema
    {c : Catalog}
    (h : c.Faithful)
    (name : String) :
    (c.get name).1.map Handle.schema =
        c.uncached.compile name ∧
      (c.get name).2.Faithful ∧
      (c.get name).2.uncached = c.uncached := by
  have hGetting := c.getting name
  generalize c.get name = r at hGetting
  cases hGetting with
  | kept hKept => exact ⟨(h name _ hKept).symm, h, rfl⟩
  | failed hFails => exact ⟨hFails.symm, h, rfl⟩
  | compiled _ hCompile =>
      exact ⟨hCompile.symm, faithful_keep h hCompile, rfl⟩

/-
  So are the schemas of several names. The induction is on
  the names; a failure ends both compilations at once.
-/
theorem getEach_map_schema
    {c : Catalog}
    (h : c.Faithful)
    (names : List String) :
    (c.getEach names).1.map
          (List.map fun p => (p.1, p.2.schema)) =
        c.uncached.compileEach names ∧
      (c.getEach names).2.Faithful ∧
      (c.getEach names).2.uncached = c.uncached := by
  induction names generalizing c with
  | nil => exact ⟨rfl, h, rfl⟩
  | cons name rest ih =>
      rcases get_map_schema h name with
        ⟨hResult, hFaithful, hSame⟩
      rw [Uncached.compileEach, getEach, ← hResult]
      generalize c.get name = r at hFaithful hSame ⊢
      rcases r with ⟨e | handle, c'⟩
      · exact ⟨rfl, hFaithful, hSame⟩
      · rcases ih hFaithful with ⟨hOthers, hRest, hSameRest⟩
        rw [← hSame, ← hOthers]
        dsimp only at hRest hSameRest ⊢
        generalize c'.getEach rest = r at hRest hSameRest ⊢
        refine ⟨?_, hRest, hSameRest⟩
        rcases r with ⟨_ | _, _⟩ <;> rfl

/-
  One operation on a faithful catalog is answered as without
  kept schemas, and the catalog is faithful afterwards.
-/
theorem step_map_schema
    {c : Catalog}
    (h : c.Faithful)
    (op : Operation) :
    (c.step op).1.map Handle.schema = c.uncached.answer op ∧
      (c.step op).2.Faithful ∧
      (c.step op).2.uncached = c.uncached.after op := by
  cases op with
  | keys => exact ⟨rfl, h, rfl⟩
  | contains name => exact ⟨rfl, h, rfl⟩
  | definition name => exact ⟨rfl, h, rfl⟩
  | get name =>
      rcases get_map_schema h name with
        ⟨hResult, hFaithful, hSame⟩
      rw [step, Uncached.answer, ← hResult]
      generalize c.get name = r at hFaithful hSame ⊢
      refine ⟨?_, hFaithful, hSame⟩
      rcases r with ⟨_ | _, _⟩ <;> rfl
  | validate name v =>
      rcases get_map_schema h name with
        ⟨hResult, hFaithful, hSame⟩
      rw [step, validate, Uncached.answer, ← hResult]
      generalize c.get name = r at hFaithful hSame ⊢
      refine ⟨?_, hFaithful, hSame⟩
      rcases r with ⟨_ | _, _⟩ <;> rfl
  | getAll =>
      rcases getEach_map_schema h c.keys with
        ⟨hResult, hFaithful, hSame⟩
      refine ⟨?_, hFaithful, hSame⟩
      exact congrArg Answer.nodes hResult
  | withRegistry registry =>
      refine ⟨rfl, fun name handle hKept => ?_, rfl⟩
      cases hKept

/- All operations are answered as without kept schemas. -/
theorem run_map_schema
    {c : Catalog}
    (h : c.Faithful)
    (operations : List Operation) :
    (c.run operations).map (Answer.map Handle.schema) =
      c.uncached.run operations := by
  induction operations generalizing c with
  | nil => rfl
  | cons op rest ih =>
      rcases step_map_schema h op with
        ⟨hAnswer, hFaithful, hAfter⟩
      rw [run, List.map_cons, Uncached.run, hAnswer,
        ih hFaithful, hAfter]

/- The catalog after several operations. -/
def after
    (c : Catalog)
    (operations : List Operation) : Catalog :=
  operations.foldl (fun c op => (c.step op).2) c

theorem faithful_ofDocument
    (path : Option String)
    (registry : Registry)
    (document : Document) :
    (ofDocument path registry document).Faithful := by
  intro name handle hKept
  cases hKept

theorem faithful_after
    {c : Catalog}
    (h : c.Faithful)
    (operations : List Operation) :
    (c.after operations).Faithful := by
  induction operations generalizing c with
  | nil => exact h
  | cons op rest ih => exact ih (step_map_schema h op).2.1

end Catalog

end Conform
