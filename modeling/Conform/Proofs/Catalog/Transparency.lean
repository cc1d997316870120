import Mathlib.Data.List.InsertIdx
import Conform.Proofs.Catalog.Origins

/-
  What a catalog keeps cannot be seen in a run, neither in
  what the answers say nor in which nodes are the same, and
  an operation that fails leaves nothing behind that can.

  Main declarations:
    * `Alike`
    * `Catalog.Transparent`
    * `Catalog.alike_eraseIdx`
    * `Catalog.run_transparent`
-/

namespace Conform

------------------------------------------------------------
-- Places of a Run
------------------------------------------------------------

namespace Operation

/- Two places have one registry if none comes in between. -/
theorem replacements_take_eq_iff
    (operations : List Operation)
    {i j : Nat}
    (hLe : i ≤ j) :
    replacements (operations.take i) =
        replacements (operations.take j) ↔
      ∀ op ∈ (operations.take j).drop i,
        op.replaces = false := by
  have hSplit :
      operations.take i ++ (operations.take j).drop i =
        operations.take j := by
    have hTake : (operations.take j).take i =
        operations.take i := by
      rw [List.take_take, Nat.min_eq_left hLe]
    rw [← hTake, List.take_append_drop]
  have hCount :
      replacements (operations.take j) =
        replacements (operations.take i) +
          replacements ((operations.take j).drop i) :=
    (congrArg replacements hSplit.symm).trans
      List.countP_append
  rw [hCount, Nat.left_eq_add, replacements,
    List.countP_eq_zero]
  simp

/- The place in a longer run that an operation leads to. -/
def past
    (n i : Nat) : Nat :=
  if i < n then i else i + 1

theorem replacements_take_past
    {op : Operation}
    (hOp : op.replaces = false)
    (before after : List Operation)
    (i : Nat) :
    replacements
        ((before ++ op :: after).take (past before.length i)) =
      replacements ((before ++ after).take i) := by
  induction before generalizing i with
  | nil => simp [past, replacements, hOp]
  | cons first rest ih =>
      cases i with
      | zero => rfl
      | succ i =>
          have hPast :
              past (first :: rest).length (i + 1) =
                past rest.length i + 1 := by
            unfold past
            rw [List.length_cons]
            split <;> split <;> omega
          rw [hPast]
          simp only [List.cons_append, List.take_succ_cons,
            replacements, List.countP_cons]
          exact congrArg (· + _) (ih i)

end Operation

theorem issuedAt_eraseIdx
    {ν : Type}
    (answers : List (Answer ν))
    (n i : Nat) :
    issuedAt (answers.eraseIdx n) i =
      issuedAt answers (Operation.past n i) := by
  unfold issuedAt Operation.past
  rw [List.getElem?_eraseIdx]
  by_cases hBefore : i < n
  · rw [if_pos hBefore, if_pos hBefore]
  · rw [if_neg hBefore, if_neg hBefore]

theorem issuedAt_map
    {α β : Type}
    (f : α → β)
    (answers : List (Answer α))
    (i : Nat) :
    issuedAt (answers.map (Answer.map f)) i =
      (issuedAt answers i).map fun p => (p.1, f p.2) := by
  unfold issuedAt
  rw [List.getElem?_map]
  cases answers[i]? with
  | none => rfl
  | some a => exact a.issued_map f

------------------------------------------------------------
-- Transparency
------------------------------------------------------------

/-
  Answers that no caller can tell apart: they say the same,
  and two nodes are the same in the one exactly if the nodes
  of the same names and places are in the other.
-/
structure Alike
    (answers others : List (Answer Handle)) : Prop where
  content :
    answers.map (Answer.map Handle.schema) =
      others.map (Answer.map Handle.schema)
  identity : ∀ i j m n g h g' h',
    (m, g) ∈ issuedAt answers i →
    (n, h) ∈ issuedAt answers j →
    (m, g') ∈ issuedAt others i →
    (n, h') ∈ issuedAt others j →
      (g.serial = h.serial ↔ g'.serial = h'.serial)

namespace Catalog

/-
  A catalog whose kept schemas cannot be seen in a run:
    * they are what compiling anew gives;
    * all answers are those without kept schemas;
    * a validation that does not fail has an outcome;
    * two nodes are the same exactly if they have one name
      and no registry was replaced between them;
    * a node gives the verdicts of the registry with which
      it was compiled, whatever came later;
    * an operation that fails might as well not have been.
-/
structure Transparent
    (c : Catalog)
    (operations : List Operation) : Prop where
  faithful : (c.after operations).Faithful
  answers :
    (c.run operations).map (Answer.map Handle.schema) =
      c.uncached.run operations
  decided : ∀ r, .outcome (.ok r) ∈ c.run operations →
    ∃ o, r = some o
  identity : ∀ i j p q, i ≤ j →
    p ∈ issuedAt (c.run operations) i →
    q ∈ issuedAt (c.run operations) j →
      (p.2.serial = q.2.serial ↔
        p.1 = q.1 ∧ ∀ op ∈ (operations.take j).drop i,
          op.replaces = false)
  lasting : ∀ i p, p ∈ issuedAt (c.run operations) i →
    ∃ schema,
      (c.uncached.before operations i).compile p.1 =
        .ok schema ∧
      ∀ v, p.2.schema.verdict? v = schema.verdict? v
  harmless : ∀ before op after,
    operations = before ++ op :: after →
    (∀ a, (c.run operations)[before.length]? = some a →
      a.Failed) →
    Alike ((c.run operations).eraseIdx before.length)
      (c.run (before ++ after))

/- An operation that fails does not replace the registry. -/
theorem not_replaces_of_failed
    {c : Catalog}
    {before after : List Operation}
    {op : Operation}
    (h : ∀ a,
      (c.run (before ++ op :: after))[before.length]? = some a →
        a.Failed) :
    op.replaces = false := by
  induction before generalizing c with
  | nil =>
      cases op with
      | withRegistry registry => exact (h _ rfl).elim
      | _ => rfl
  | cons first rest ih => exact ih h

section

variable {c : Catalog}
variable {origins : List (String × Nat)}
variable {replaced : Nat}

/-
  Leaving an operation out that does not replace the
  registry cannot be noticed afterwards.
-/
theorem alike_eraseIdx
    (hFaithful : c.Faithful)
    (hTraced : c.Traced origins replaced)
    {op : Operation}
    (hOp : op.replaces = false)
    (before after : List Operation) :
    Alike
      ((c.run (before ++ op :: after)).eraseIdx before.length)
      (c.run (before ++ after)) := by
  constructor
  case content =>
    rw [← List.eraseIdx_map, run_map_schema hFaithful,
      run_map_schema hFaithful, Uncached.run_eraseIdx hOp]
  case identity =>
    intro i j m n g h g' h' hg hh hg' hh'
    rw [issuedAt_eraseIdx] at hg hh
    rw [serial_eq_iff hTraced hg hh,
      serial_eq_iff hTraced hg' hh',
      Operation.replacements_take_past hOp,
      Operation.replacements_take_past hOp]

end

/- What a catalog keeps cannot be seen in any run. -/
theorem run_transparent
    (path : Option String)
    (registry : Registry)
    (document : Document)
    (operations : List Operation) :
    (ofDocument path registry document).Transparent
      operations := by
  have hFaithful := faithful_ofDocument path registry document
  have hTraced := traced_ofDocument path registry document
  generalize ofDocument path registry document = c
    at hFaithful hTraced
  constructor
  case faithful => exact faithful_after hFaithful operations
  case answers => exact run_map_schema hFaithful operations
  case decided =>
    intro r hr
    have hMapped := List.mem_map_of_mem hr
      (f := Answer.map Handle.schema)
    rw [run_map_schema hFaithful] at hMapped
    exact Uncached.outcome_of_run hMapped
  case identity =>
    intro i j p q hLe hp hq
    rw [serial_eq_iff hTraced hp hq,
      Operation.replacements_take_eq_iff operations hLe]
  case lasting =>
    intro i p hp
    have hIssued : (p.1, p.2.schema) ∈
        issuedAt (c.uncached.run operations) i := by
      rw [← run_map_schema hFaithful, issuedAt_map]
      exact List.mem_map.mpr ⟨p, hp, rfl⟩
    exact ⟨p.2.schema,
      Uncached.compile_of_mem_issuedAt hIssued, fun v => rfl⟩
  case harmless =>
    intro before op after hSplit hFailed
    subst hSplit
    exact alike_eraseIdx hFaithful hTraced
      (not_replaces_of_failed hFailed) before after

/- A definition that is compiled and one that is not. -/
def halfDocument : Document where
  definitions :=
    [ ("a", .object [("type", .string "string")]),
      ("b", .object [("type", .string "bigint")]) ]
  ordered := by
    rw [Fields.Ordered, List.pairwise_pair]
    decide

/- A catalog in which not all schemas can be compiled. -/
def halfCatalog : Catalog :=
  ofDocument none Registry.usual halfDocument

/- Asks for one schema again and again. -/
def getAgain : List Operation :=
  [.getAll, .get "a", .get "a", .withRegistry Registry.empty,
    .get "a"]

/-
  Getting all schemas fails after one has been compiled. The
  schema is then the same until the registry is replaced,
  and the failure might as well not have been.
-/
theorem run_halfCatalog_transparent :
    ∃ g h k : Handle,
      ("a", g) ∈ issuedAt (halfCatalog.run getAgain) 1 ∧
      ("a", h) ∈ issuedAt (halfCatalog.run getAgain) 2 ∧
      ("a", k) ∈ issuedAt (halfCatalog.run getAgain) 4 ∧
      g.serial = h.serial ∧ g.serial ≠ k.serial ∧
      Alike ((halfCatalog.run getAgain).eraseIdx 0)
        (halfCatalog.run getAgain.tail) := by
  have hRun := run_transparent none Registry.usual halfDocument
    getAgain
  refine ⟨⟨0, _⟩, ⟨0, _⟩, ⟨1, _⟩, .head _, .head _, .head _,
    ?_, ?_, ?_⟩
  · exact (hRun.identity 1 2 _ _ (by decide) (.head _)
      (.head _)).mpr ⟨rfl, by decide⟩
  · intro hSame
    have hNone := ((hRun.identity 1 4 _ _ (by decide) (.head _)
      (.head _)).mp hSame).2
    exact absurd hNone (by decide)
  · refine hRun.harmless [] .getAll getAgain.tail rfl ?_
    intro a hAnswer
    cases hAnswer
    exact ⟨_, rfl⟩

end Catalog

end Conform
