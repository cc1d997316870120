import Mathlib.Data.List.Nodup
import Conform.Proofs.Catalog.Faithful

/-
  Where the nodes of a run come from. A compilation is known
  by the name of the definition and by the number of
  registries that had been replaced before it, and no two
  compilations have both in common.

  Main declarations:
    * `Catalog.Traced`
    * `Catalog.step_traced`
    * `Catalog.run_traced`
    * `Catalog.serial_eq_iff`
-/

namespace Conform

namespace Catalog

------------------------------------------------------------
-- Traced Catalogs
------------------------------------------------------------

/-
  The origins of the compilations so far, in order: the name
  of the definition and the number of registries that had
  been replaced. No two compilations have one origin, and
  what is kept is exactly what was compiled since the last
  replacement.
-/
structure Traced
    (c : Catalog)
    (origins : List (String × Nat))
    (replaced : Nat) : Prop where
  unique : origins.Nodup
  length_eq : origins.length = c.compilations
  bounded : ∀ o ∈ origins, o.2 ≤ replaced
  kept : ∀ name handle,
    c.compiled.lookup name = some handle →
      origins[handle.serial]? = some (name, replaced)
  complete : ∀ name, (name, replaced) ∈ origins →
    ∃ handle, c.compiled.lookup name = some handle

/- The nodes handed out come from the given registry. -/
def IssuedFrom
    (origins : List (String × Nat))
    (replaced : Nat)
    (issued : List (String × Handle)) : Prop :=
  ∀ p ∈ issued,
    origins[p.2.serial]? = some (p.1, replaced)

theorem getElem?_append_mono
    {α : Type}
    {l m : List α}
    {i : Nat}
    {a : α}
    (hPrefix : l <+: m)
    (h : l[i]? = some a) :
    m[i]? = some a := by
  rcases hPrefix with ⟨rest, rfl⟩
  rcases List.getElem?_eq_some_iff.mp h with ⟨hBound, _⟩
  rw [List.getElem?_append_left hBound, h]

/- Later compilations do not change where nodes come from. -/
theorem IssuedFrom.mono
    {origins later : List (String × Nat)}
    {replaced : Nat}
    {issued : List (String × Handle)}
    (h : IssuedFrom origins replaced issued)
    (hPrefix : origins <+: later) :
    IssuedFrom later replaced issued :=
  fun p hp => getElem?_append_mono hPrefix (h p hp)

section

variable {c : Catalog}
variable {origins : List (String × Nat)}
variable {replaced : Nat}

/- A new compilation has a new origin. -/
theorem Traced.keep
    (h : c.Traced origins replaced)
    {name : String}
    (hNew : c.compiled.lookup name = none)
    (schema : Schema) :
    (c.keep name schema).Traced
      (origins ++ [(name, replaced)]) replaced := by
  have hLast :
      (origins ++ [(name, replaced)])[c.compilations]? =
        some (name, replaced) := by
    rw [← h.length_eq, List.getElem?_concat_length]
  have hFresh : (name, replaced) ∉ origins := by
    intro hMember
    rcases h.complete name hMember with ⟨handle, hKept⟩
    rw [hNew] at hKept
    cases hKept
  constructor
  case unique =>
    refine List.Nodup.append h.unique
      (List.nodup_singleton _) ?_
    exact List.disjoint_singleton.mpr hFresh
  case length_eq =>
    rw [List.length_append, h.length_eq]
    rfl
  case bounded =>
    intro o ho
    rcases List.mem_append.mp ho with hOld | hNewest
    · exact h.bounded o hOld
    · have hSame := List.mem_singleton.mp hNewest
      subst hSame
      exact Nat.le_refl replaced
  case kept =>
    intro n handle hKept
    by_cases hName : n = name
    · subst hName
      rw [Catalog.keep, List.lookup_cons_self] at hKept
      cases hKept
      exact hLast
    · rw [Catalog.keep, Fields.lookup_cons_of_ne hName] at hKept
      exact getElem?_append_mono (List.prefix_append _ _)
        (h.kept n handle hKept)
  case complete =>
    intro n hMember
    by_cases hName : n = name
    · subst hName
      exact ⟨_, List.lookup_cons_self⟩
    · rw [Catalog.keep, Fields.lookup_cons_of_ne hName]
      refine h.complete n ?_
      rcases List.mem_append.mp hMember with hOld | hNewest
      · exact hOld
      · rw [List.mem_singleton, Prod.mk.injEq] at hNewest
        exact absurd hNewest.1 hName

/- A replaced registry starts a new series of origins. -/
theorem Traced.withRegistry
    (h : c.Traced origins replaced)
    (registry : Registry) :
    (c.withRegistry registry).Traced origins
      (replaced + 1) := by
  constructor
  case unique => exact h.unique
  case length_eq => exact h.length_eq
  case bounded =>
    exact fun o ho => Nat.le_succ_of_le (h.bounded o ho)
  case kept =>
    intro name handle hKept
    cases hKept
  case complete =>
    intro name hMember
    have hBound := h.bounded _ hMember
    exact absurd hBound (Nat.not_succ_le_self replaced)

theorem get_traced
    (h : c.Traced origins replaced)
    (name : String) :
    ∃ later, origins <+: later ∧
      (c.get name).2.Traced later replaced ∧
      ∀ handle, (c.get name).1 = .ok handle →
        later[handle.serial]? = some (name, replaced) := by
  have hGetting := c.getting name
  generalize c.get name = r at hGetting
  cases hGetting with
  | kept hKept =>
      refine ⟨origins, List.prefix_refl _, h, ?_⟩
      intro handle hOk
      rw [← Except.ok.inj hOk]
      exact h.kept name _ hKept
  | failed =>
      refine ⟨origins, List.prefix_refl _, h, ?_⟩
      intro handle hOk
      cases hOk
  | compiled hNew =>
      refine ⟨_, List.prefix_append _ _, h.keep hNew _, ?_⟩
      intro handle hOk
      cases hOk
      exact (h.keep hNew _).kept name _ List.lookup_cons_self

theorem getEach_traced
    (h : c.Traced origins replaced)
    (names : List String) :
    ∃ later, origins <+: later ∧
      (c.getEach names).2.Traced later replaced ∧
      ∀ issued, (c.getEach names).1 = .ok issued →
        IssuedFrom later replaced issued := by
  induction names generalizing c origins with
  | nil =>
      refine ⟨origins, List.prefix_refl _, h, ?_⟩
      intro issued hOk
      cases hOk
      exact fun p hp => absurd hp List.not_mem_nil
  | cons name rest ih =>
      rcases get_traced h name with
        ⟨next, hNext, hTraced, hHandle⟩
      rw [getEach]
      generalize c.get name = r at hTraced hHandle ⊢
      rcases r with ⟨e | handle, c'⟩
      · refine ⟨next, hNext, hTraced, ?_⟩
        intro issued hOk
        cases hOk
      · rcases ih hTraced with ⟨later, hLater, hAll, hOthers⟩
        dsimp only at hAll hOthers ⊢
        generalize c'.getEach rest = r at hAll hOthers ⊢
        refine ⟨later, hNext.trans hLater, hAll, ?_⟩
        intro issued hOk
        rcases r with ⟨e | others, c''⟩
        · cases hOk
        · cases hOk
          exact List.forall_mem_cons.mpr
            ⟨getElem?_append_mono hLater (hHandle handle rfl),
              hOthers others rfl⟩

theorem step_traced
    (h : c.Traced origins replaced)
    (op : Operation) :
    ∃ later, origins <+: later ∧
      (c.step op).2.Traced later
        (replaced + Operation.replacements [op]) ∧
      IssuedFrom later replaced (c.step op).1.issued := by
  have hNone : ∀ later, IssuedFrom later replaced [] :=
    fun _ p hp => absurd hp List.not_mem_nil
  cases op with
  | keys => exact ⟨_, List.prefix_refl _, h, hNone _⟩
  | contains name => exact ⟨_, List.prefix_refl _, h, hNone _⟩
  | definition name =>
      exact ⟨_, List.prefix_refl _, h, hNone _⟩
  | get name =>
      rcases get_traced h name with
        ⟨later, hLater, hTraced, hHandle⟩
      rw [step]
      generalize c.get name = r at hTraced hHandle ⊢
      refine ⟨later, hLater, hTraced, ?_⟩
      rcases r with ⟨e | handle, c'⟩
      · exact hNone later
      · exact List.forall_mem_singleton.mpr
          (hHandle handle rfl)
  | validate name v =>
      rcases get_traced h name with
        ⟨later, hLater, hTraced, _⟩
      rw [step, validate]
      generalize c.get name = r at hTraced ⊢
      exact ⟨later, hLater, hTraced, hNone later⟩
  | getAll =>
      rcases getEach_traced h c.keys with
        ⟨later, hLater, hTraced, hIssued⟩
      rw [step, getAll]
      generalize c.getEach c.keys = r at hTraced hIssued ⊢
      refine ⟨later, hLater, hTraced, ?_⟩
      rcases r with ⟨e | issued, c'⟩
      · exact hNone later
      · exact hIssued issued rfl
  | withRegistry registry =>
      exact ⟨_, List.prefix_refl _, h.withRegistry registry,
        hNone _⟩

/-
  At each place of a run, the nodes that are handed out come
  from the registry installed there. The induction is on the
  operations; the origins found so far are kept.
-/
theorem run_traced
    (h : c.Traced origins replaced)
    (operations : List Operation) :
    ∃ later, origins <+: later ∧ later.Nodup ∧
      ∀ i, IssuedFrom later
        (replaced + Operation.replacements (operations.take i))
        (issuedAt (c.run operations) i) := by
  induction operations generalizing c origins replaced with
  | nil =>
      exact ⟨origins, List.prefix_refl _, h.unique,
        fun i p hp => absurd hp List.not_mem_nil⟩
  | cons op rest ih =>
      rcases step_traced h op with
        ⟨next, hNext, hTraced, hIssued⟩
      rcases ih hTraced with ⟨later, hLater, hUnique, hRest⟩
      refine ⟨later, hNext.trans hLater, hUnique, ?_⟩
      intro i
      cases i with
      | zero => exact hIssued.mono hLater
      | succ i =>
          have hCount :
              Operation.replacements
                  ((op :: rest).take (i + 1)) =
                Operation.replacements [op] +
                  Operation.replacements (rest.take i) := by
            show ([op] ++ rest.take i).countP _ = _
            exact List.countP_append
          rw [hCount, ← Nat.add_assoc]
          exact hRest i

/-
  Two nodes of a run are the same exactly if they have the
  same name and come from the same registry.
-/
theorem serial_eq_iff
    (h : c.Traced origins replaced)
    {operations : List Operation}
    {i j : Nat}
    {p q : String × Handle}
    (hp : p ∈ issuedAt (c.run operations) i)
    (hq : q ∈ issuedAt (c.run operations) j) :
    p.2.serial = q.2.serial ↔
      p.1 = q.1 ∧
        Operation.replacements (operations.take i) =
          Operation.replacements (operations.take j) := by
  rcases run_traced h operations with
    ⟨later, _, hUnique, hIssued⟩
  have hFirst := hIssued i p hp
  have hSecond := hIssued j q hq
  rcases List.getElem?_eq_some_iff.mp hFirst with ⟨hBound, _⟩
  rw [← List.getElem?_inj hBound hUnique, hFirst, hSecond,
    Option.some.injEq, Prod.mk.injEq, Nat.add_left_cancel_iff]

end

theorem traced_ofDocument
    (path : Option String)
    (registry : Registry)
    (document : Document) :
    (ofDocument path registry document).Traced [] 0 := by
  constructor
  case unique => exact List.nodup_nil
  case length_eq => rfl
  case bounded =>
    exact fun o ho => absurd ho List.not_mem_nil
  case kept =>
    intro name handle hKept
    cases hKept
  case complete =>
    exact fun name h => absurd h List.not_mem_nil

end Catalog

end Conform
