import Conform.Proofs.Definition.Listed
import Conform.Proofs.Definition.Places
import Conform.Proofs.Schema.Choice
import Conform.Proofs.Schema.Rules

/-
  A date may be declared in two ways: by a leaf that reads
  text itself, or by a mapping that reads text in front of a
  leaf for dates. Both are compiled exactly if the bounds are
  dates. With the same bounds and the same flag for null they
  accept the same values, and their errors are the same but
  for text that denotes no instant, to which each has its
  own words. The mapping also hands on the instant that was
  read, which is the one that both compare with the bounds.

  The mapping changes nothing but text. Hence it is enough
  to compare the two where the mapping has a result, and
  where it has none.

  Main declarations:
    * `Mapping.toDate_eq_ok_iff`
    * `Schema.verdict?_readDate_of_toDate`
    * `Schema.DateLaws`
    * `Definition.dateDefinition`
    * `Definition.readDateDefinition`
    * `Definition.dateLaws`
-/

namespace Conform

------------------------------------------------------------
-- Reading Dates
------------------------------------------------------------

/- A text that denotes no instant. -/
def Value.Unread
    (v : Value) : Prop :=
  ∃ text, v = .string text ∧ Instant.ofText? text = none

theorem Mapping.toDate_of_read
    {text : String}
    {t : Instant}
    (h : Instant.ofText? text = some t) :
    Mapping.toDate (.string text) = .ok (.date t) := by
  rw [toDate, h]

theorem Mapping.toDate_of_unread
    {text : String}
    (h : Instant.ofText? text = none) :
    Mapping.toDate (.string text) =
      .error ("'" ++ text ++ "' is not a date") := by
  rw [toDate, h]

/-
  The mapping reads text that denotes an instant, and keeps
  every value that is no text.
-/
theorem Mapping.toDate_eq_ok_iff
    {v w : Value} :
    Mapping.toDate v = .ok w ↔
      (∃ text t, v = .string text ∧
        Instant.ofText? text = some t ∧ w = .date t) ∨
      ((∀ text, v ≠ .string text) ∧ w = v) := by
  cases v with
  | string text =>
      cases hText : Instant.ofText? text with
      | none => simp [toDate_of_unread hText, hText]
      | some t => simp [toDate_of_read hText, hText, eq_comm]
  | _ => simp [toDate, eq_comm]

/- It has no result only for text that is not read. -/
theorem Mapping.exists_toDate_eq_ok
    {v : Value}
    (h : ¬ v.Unread) :
    ∃ w, Mapping.toDate v = .ok w := by
  cases v with
  | string text =>
      cases hText : Instant.ofText? text with
      | none => exact absurd ⟨text, rfl, hText⟩ h
      | some t => exact ⟨_, toDate_of_read hText⟩
  | _ => exact ⟨_, rfl⟩

------------------------------------------------------------
-- Dates with Bounds
------------------------------------------------------------

/- The leaf has the same problems with what is read. -/
theorem Leaf.problems_date_of_toDate
    {earliest latest : Option Instant}
    {v w : Value}
    (h : Mapping.toDate v = .ok w) :
    (Leaf.date earliest latest true).problems v =
      (Leaf.date earliest latest true).problems w := by
  rcases Mapping.toDate_eq_ok_iff.mp h with
    ⟨text, t, rfl, hText, rfl⟩ | ⟨_, rfl⟩
  · have hInstant : instant? true (.string text) = some t :=
      hText
    rw [problems, hInstant]
    rfl
  · rfl

namespace Schema

/- A date that may be given as text. -/
def textDate
    (nullable : Bool)
    (earliest latest : Option Instant) : Schema :=
  node { nullable := nullable, required := false }
    (.leaf (.date earliest latest true))

/- A date that is read by the mapping first. -/
def readDate
    (nullable : Bool)
    (earliest latest : Option Instant) : Schema :=
  node { nullable := nullable, required := false }
    (.mapped Mapping.toDate (textDate false earliest latest))

section

variable {nullable : Bool}
variable {earliest latest : Option Instant}
variable {v w : Value}

/- The leaf is asked about every value that is there. -/
theorem verdict?_textDate_of_present
    (h : v.isAbsent = false) :
    (textDate nullable earliest latest).verdict? v =
      some (Outcome.ofErrors
        (((Leaf.date earliest latest true).problems v).map
          Problem.text)) := by
  rw [textDate, verdict?, judge,
    Settings.guard_of_present _ _ h]
  rfl

/-
  Where the mapping has a result, the outcome is the one
  without the mapping, together with that result. An absent
  value is decided by the flag on the outside. If that lets
  it through to the leaf inside, the leaf refuses it with
  the same words.
-/
theorem verdict?_readDate_of_toDate
    (h : Mapping.toDate v = .ok w) :
    (readDate nullable earliest latest).verdict? v =
      ((textDate nullable earliest latest).verdict? v).map
        (Outcome.withValue w) := by
  cases hAbsent : v.isAbsent with
  | true =>
      cases v with
      | undefined =>
          cases h
          rfl
      | null =>
          cases h
          cases nullable <;> rfl
      | _ => cases hAbsent
  | false =>
      have hPresent : w.isAbsent = false := by
        rcases Mapping.toDate_eq_ok_iff.mp h with
          ⟨_, _, _, _, rfl⟩ | ⟨_, rfl⟩
        · rfl
        · exact hAbsent
      have hInner :
          (textDate false earliest latest).judge
              (fun _ _ => none) w =
            some (Outcome.ofErrors
              (((Leaf.date earliest latest true).problems
                w).map Problem.text)) :=
        verdict?_textDate_of_present hPresent
      rw [verdict?_textDate_of_present hAbsent,
        Leaf.problems_date_of_toDate h, readDate, verdict?,
        judge, Settings.judgeMapped,
        Settings.lets_of_present _ hAbsent,
        if_neg Bool.false_ne_true, h]
      simp only [hInner, hPresent, Option.map_some]
      rfl

/- Text that is not read is refused by the leaf. -/
theorem verdict?_textDate_of_unread
    {text : String}
    (h : Instant.ofText? text = none) :
    (textDate nullable earliest latest).verdict?
        (.string text) =
      some (Outcome.ofErrors [Problem.notDate.text]) := by
  have hInstant :
      Leaf.instant? true (.string text) = none := h
  rw [verdict?_textDate_of_present rfl, Leaf.problems, hInstant]
  rfl

/- The mapping refuses it before the leaf is asked. -/
theorem verdict?_readDate_of_unread
    {text : String}
    (h : Instant.ofText? text = none) :
    (readDate nullable earliest latest).verdict?
        (.string text) =
      some (Outcome.ofErrors
        [(Problem.mappingFailed
          ("'" ++ text ++ "' is not a date")).text]) := by
  rw [readDate, verdict?, judge, Settings.judgeMapped,
    Settings.lets_of_present _ rfl, if_neg Bool.false_ne_true,
    Mapping.toDate_of_unread h]

end

------------------------------------------------------------
-- Agreement of Both Ways
------------------------------------------------------------

/-
  Two schemas that agree about dates, the second of which
  reads them first. Both have an outcome on every value, and
  they accept the same values. The errors are the same but
  for text that is not read, where each of them has its own
  error. An instant in text is compared with the bounds as
  the instant itself is, and the second schema accepts text
  with this instant as the value.
-/
structure DateLaws
    (earliest latest : Option Instant)
    (direct read : Schema) : Prop where
  accepted :
    ∀ v, ∃ o p,
      direct.verdict? v = some o ∧
      read.verdict? v = some p ∧
      o.isValid = p.isValid
  errors :
    ∀ v, ¬ v.Unread →
      (direct.verdict? v).map Outcome.errors =
        (read.verdict? v).map Outcome.errors
  unread :
    ∀ text, Instant.ofText? text = none →
      direct.verdict? (.string text) =
          some (Outcome.ofErrors
            ["Value must be a valid date."]) ∧
        read.verdict? (.string text) =
          some (Outcome.ofErrors
            ["Transform failed: '" ++ text ++
              "' is not a date"])
  instant :
    ∀ text t, Instant.ofText? text = some t →
      direct.verdict? (.string text) =
        direct.verdict? (.date t)
  value :
    ∀ text p,
      read.verdict? (.string text) = some p →
      p.isValid = true →
      ∃ t, Instant.ofText? text = some t ∧
        p.value = some (.date t) ∧
        (∀ b, earliest = some b → t.lt b = false) ∧
        ∀ b, latest = some b → b.lt t = false

section

variable {nullable : Bool}
variable {earliest latest : Option Instant}
variable {v : Value}

/- Where the mapping has a result, the errors are the same. -/
theorem errors_textDate_eq_readDate
    (h : ¬ v.Unread) :
    ((textDate nullable earliest latest).verdict? v).map
        Outcome.errors =
      ((readDate nullable earliest latest).verdict? v).map
        Outcome.errors := by
  rcases Mapping.exists_toDate_eq_ok h with ⟨w, hMapped⟩
  rw [verdict?_readDate_of_toDate hMapped, Option.map_map]
  rfl

/- Text that is accepted denotes an instant within bounds. -/
theorem value_readDate
    {text : String}
    {p : Outcome}
    (hVerdict :
      (readDate nullable earliest latest).verdict?
        (.string text) = some p)
    (hValid : p.isValid = true) :
    ∃ t, Instant.ofText? text = some t ∧
      p.value = some (.date t) ∧
      (∀ b, earliest = some b → t.lt b = false) ∧
      ∀ b, latest = some b → b.lt t = false := by
  cases hText : Instant.ofText? text with
  | none =>
      rw [verdict?_readDate_of_unread hText] at hVerdict
      cases hVerdict
      cases hValid
  | some t =>
      have hMapped := Mapping.toDate_of_read hText
      rw [verdict?_readDate_of_toDate hMapped,
        verdict?_textDate_of_present rfl,
        Leaf.problems_date_of_toDate hMapped] at hVerdict
      cases hVerdict
      have hNone := (Outcome.isValid_ofErrors _).mp hValid
      rcases (Leaf.problems_eq_nil_iff _ _).mp
        (List.map_eq_nil_iff.mp hNone) with
        ⟨u, hDates, hEarliest, hLatest⟩
      cases hDates with
      | date => exact ⟨t, rfl, rfl, hEarliest, hLatest⟩

/- Both accept the same values. -/
theorem isValid_textDate_eq_readDate :
    ∃ o p,
      (textDate nullable earliest latest).verdict? v = some o ∧
      (readDate nullable earliest latest).verdict? v = some p ∧
      o.isValid = p.isValid := by
  by_cases hUnread : v.Unread
  · rcases hUnread with ⟨text, rfl, hText⟩
    exact ⟨_, _, verdict?_textDate_of_unread hText,
      verdict?_readDate_of_unread hText, rfl⟩
  · rcases Mapping.exists_toDate_eq_ok hUnread with
      ⟨w, hMapped⟩
    have hOutcome :
        ∃ o, (textDate nullable earliest latest).verdict? v =
          some o := by
      cases v <;> exact ⟨_, rfl⟩
    rcases hOutcome with ⟨o, hDirect⟩
    refine ⟨o, o.withValue w, hDirect, ?_, rfl⟩
    rw [verdict?_readDate_of_toDate hMapped, hDirect,
      Option.map_some]

end

theorem dateLaws_textDate
    (nullable : Bool)
    (earliest latest : Option Instant) :
    DateLaws earliest latest
      (textDate nullable earliest latest)
      (readDate nullable earliest latest) where
  accepted _ := isValid_textDate_eq_readDate
  errors _ h := errors_textDate_eq_readDate h
  unread _ h :=
    ⟨verdict?_textDate_of_unread h,
      verdict?_readDate_of_unread h⟩
  instant _ _ h := by
    rw [verdict?_textDate_of_present rfl,
      verdict?_textDate_of_present rfl,
      Leaf.problems_date_of_toDate (Mapping.toDate_of_read h)]
  value _ _ := value_readDate

end Schema

namespace Definition

------------------------------------------------------------
-- Definitions of Dates
------------------------------------------------------------

/- The fields that are set, of those that may be. -/
def setFields
    (all : List (String × Option Json)) :
    List (String × Json) :=
  all.filterMap fun p => p.2.map fun j => (p.1, j)

/- A field holds what it is set to, if no name is repeated. -/
theorem lookup_setFields
    {all : List (String × Option Json)}
    (hNames : (all.map Prod.fst).Nodup)
    (name : String) :
    (setFields all).lookup name = (all.lookup name).join := by
  induction all with
  | nil => rfl
  | cons p rest ih =>
      rcases p with ⟨first, contents⟩
      rw [List.map_cons, List.nodup_cons] at hNames
      have hRest := ih hNames.2
      by_cases hName : name = first
      · subst hName
        have hNone : rest.lookup name = none := by
          rw [List.lookup_eq_none_iff]
          intro p hp
          rw [bne_iff_ne]
          intro hSame
          exact hNames.1
            (List.mem_map.mpr ⟨p, hp, hSame.symm⟩)
        rw [hNone] at hRest
        rw [List.lookup_cons_self]
        cases contents with
        | none => exact hRest
        | some j => exact List.lookup_cons_self
      · rw [Fields.lookup_cons_of_ne hName]
        cases contents with
        | none => exact hRest
        | some j =>
            exact (Fields.lookup_cons_of_ne hName).trans hRest

/-
  A date that is declared directly, with bounds and a flag
  for null, each of which may be set.
-/
def dateFields
    (nullable : Option Bool)
    (lower upper : Option Json) : List (String × Json) :=
  setFields
    [ ("max", upper),
      ("min", lower),
      ("nullable", nullable.map .bool),
      ("type", some (.string "date")) ]

def dateDefinition
    (nullable : Option Bool)
    (lower upper : Option Json) : Json :=
  .object (dateFields nullable lower upper)

/- A date with bounds behind the mapping that reads dates. -/
def readDateFields
    (nullable : Bool)
    (lower upper : Option Json) : List (String × Json) :=
  [ ("nullable", .bool nullable),
    ("schema", dateDefinition none lower upper),
    ("transformFn", .string "toDate"),
    ("type", .string "transform") ]

def readDateDefinition
    (nullable : Bool)
    (lower upper : Option Json) : Json :=
  .object (readDateFields nullable lower upper)

/- Bounds that denote instants, as far as they are set. -/
def AreDates
    (lower upper : Option Json) : Prop :=
  (∀ j, lower = some j → IsDate j) ∧
    ∀ j, upper = some j → IsDate j

/- The instant that a bound denotes. -/
def instantOf?
    (bound : Option Json) : Option Instant :=
  bound.bind fun j => j.asString?.bind Instant.ofText?

section

variable {registry : Registry}
variable {lower upper : Option Json}

/- Of a well-formed definition the tag asks for the fields. -/
theorem WellFormed.body
    {tag : Tag}
    {fields : List (String × Json)}
    (h : WellFormed registry (.object fields))
    (hType : fields.lookup "type" =
      some (.string tag.name)) :
    Body registry (WellFormed registry) tag fields := by
  cases h with
  | @definition other _ hHeader hBody =>
      have hTag : some other = some tag := by
        rw [← tag?_eq_some_iff.mpr hHeader.type,
          tag?_eq_some_iff.mpr hType]
      exact Option.some.inj hTag ▸ hBody

section

variable {nullable : Option Bool}

theorem lookup_dateFields
    (name : String) :
    (dateFields nullable lower upper).lookup name =
      (([ ("max", upper),
          ("min", lower),
          ("nullable", nullable.map .bool),
          ("type", some (.string "date")) ] :
        List (String × Option Json)).lookup name).join :=
  lookup_setFields (by simp) name

theorem hasFlags_dateFields :
    HasFlags (dateFields nullable lower upper) := by
  constructor
  case nullable =>
    intro j hj
    rw [lookup_dateFields] at hj
    rcases Option.map_eq_some_iff.mp hj with ⟨b, _, hFlag⟩
    exact ⟨b, hFlag.symm⟩
  case required =>
    intro j hj
    rw [lookup_dateFields] at hj
    cases hj
  case message =>
    intro j hj
    rw [lookup_dateFields] at hj
    cases hj

theorem lookup_type_dateFields :
    (dateFields nullable lower upper).lookup "type" =
      some (.string Tag.date.name) :=
  lookup_dateFields "type"

/- A date is compiled exactly if its bounds are dates. -/
theorem wellFormed_dateDefinition_iff :
    WellFormed registry (dateDefinition nullable lower upper) ↔
      AreDates lower upper := by
  constructor
  · intro h
    cases WellFormed.body h lookup_type_dateFields with
    | date hEarliest hLatest =>
        constructor
        · intro j hj
          exact hEarliest j ((lookup_dateFields _).trans hj)
        · intro j hj
          exact hLatest j ((lookup_dateFields _).trans hj)
  · rintro ⟨hLower, hUpper⟩
    apply WellFormed.definition
      (hasFlags_dateFields.header lookup_type_dateFields)
    apply Body.date
    · intro j hj
      exact hLower j ((lookup_dateFields _).symm.trans hj)
    · intro j hj
      exact hUpper j ((lookup_dateFields _).symm.trans hj)

theorem assemble_dateDefinition :
    assemble registry (dateDefinition nullable lower upper)
        none =
      Schema.textDate (nullable.getD false)
        (instantOf? lower) (instantOf? upper) := by
  rw [dateDefinition, assemble_object, assembleParts]
  simp only [partsOf_fields,
    tag?_eq_some_iff.mpr lookup_type_dateFields,
    assembleShape_date, finish_new, given, lookup_dateFields]
  cases nullable <;> rfl

end

section

variable {nullable : Bool}

theorem hasFlags_readDateFields :
    HasFlags (readDateFields nullable lower upper) := by
  constructor
  case nullable =>
    intro j hj
    exact ⟨nullable, (Option.some.inj hj).symm⟩
  case required =>
    intro j hj
    cases hj
  case message =>
    intro j hj
    cases hj

theorem lookup_type_readDateFields :
    (readDateFields nullable lower upper).lookup "type" =
      some (.string Tag.mapped.name) :=
  rfl

/- With the mapping it is compiled under the same condition. -/
theorem wellFormed_readDateDefinition_iff :
    WellFormed Registry.usual
        (readDateDefinition nullable lower upper) ↔
      AreDates lower upper := by
  constructor
  · intro h
    have hPart :
        part? .inner (readDateDefinition nullable lower upper) =
          some (dateDefinition none lower upper) := rfl
    exact wellFormed_dateDefinition_iff.mp (h.part hPart)
  · intro h
    have hInner : WellFormed Registry.usual
        (dateDefinition none lower upper) :=
      wellFormed_dateDefinition_iff.mpr h
    exact .definition
      (hasFlags_readDateFields.header lookup_type_readDateFields)
      (.mapped rfl hInner rfl rfl)

theorem assemble_readDateDefinition :
    assemble Registry.usual
        (readDateDefinition nullable lower upper) none =
      Schema.readDate nullable
        (instantOf? lower) (instantOf? upper) := by
  have hInner :
      (readDateFields nullable lower upper).lookup "schema" =
        some (dateDefinition none lower upper) := rfl
  have hName :
      (readDateFields nullable lower upper).lookup
          "transformFn" =
        some (.string "toDate") := rfl
  have hFind :
      Registry.usual.find? "toDate" = some Mapping.toDate := rfl
  rw [readDateDefinition, assemble_object, assembleParts]
  simp only [partsOf_fields,
    tag?_eq_some_iff.mpr lookup_type_readDateFields]
  rw [assembleShape_mapped _ _ hName hFind,
    innerSchema_of_lookup hInner, assemble_dateDefinition,
    Schema.mapped, finish_new]
  rfl

end

end

------------------------------------------------------------
-- Laws
------------------------------------------------------------

/-
  With bounds that are dates, and only with such bounds, a
  date may be declared in either way, and what is compiled
  obeys the laws.
-/
theorem dateLaws
    (nullable : Bool)
    (lower upper : Option Json)
    (path other : String) :
    (Succeeds (compile Registry.usual
        (dateDefinition (some nullable) lower upper) path) ↔
      AreDates lower upper) ∧
    (Succeeds (compile Registry.usual
        (readDateDefinition nullable lower upper) other) ↔
      AreDates lower upper) ∧
    ∀ direct read,
      compile Registry.usual
          (dateDefinition (some nullable) lower upper) path =
        .ok direct →
      compile Registry.usual
          (readDateDefinition nullable lower upper) other =
        .ok read →
      Schema.DateLaws (instantOf? lower) (instantOf? upper)
        direct read := by
  refine ⟨succeeds_compile_iff.trans
      wellFormed_dateDefinition_iff,
    succeeds_compile_iff.trans
      wellFormed_readDateDefinition_iff, ?_⟩
  intro direct read hDirect hRead
  rw [(assembled _ _).eq_none hDirect,
    (assembled _ _).eq_none hRead, assemble_dateDefinition,
    assemble_readDateDefinition]
  exact Schema.dateLaws_textDate nullable _ _

/- The first day that is accepted, as a bound. -/
def since2020 : Option Json :=
  some (.string "2020-01-01")

/-
  A day of 2021 is read by the mapping, the last day of 2019
  is refused in the same words by both, and a text that is no
  date in different words.
-/
theorem dateLaws_since_2020 :
    ∃ direct read,
      compile Registry.usual
          (dateDefinition (some true) since2020 none) "day" =
        .ok direct ∧
      compile Registry.usual
          (readDateDefinition true since2020 none) "day" =
        .ok read ∧
      (∃ p t,
        read.verdict? (.string "2021-03-05") = some p ∧
        Instant.ofText? "2021-03-05" = some t ∧
        p.value = some (.date t)) ∧
      (read.verdict? (.string "2019-12-31")).map
          Outcome.errors =
        some
          [ "Date must be on or after " ++
              "2020-01-01T00:00:00.000Z." ] ∧
      direct.verdict? (.string "soon") =
        some (Outcome.ofErrors
          ["Value must be a valid date."]) ∧
      read.verdict? (.string "soon") =
        some (Outcome.ofErrors
          ["Transform failed: 'soon' is not a date"]) := by
  have hDates : AreDates since2020 none := by
    constructor
    · intro j hj
      exact ⟨_, _, (Option.some.inj hj).symm, rfl⟩
    · intro j hj
      cases hj
  rcases dateLaws true since2020 none "day" "day" with
    ⟨hDirect, hRead, hAgree⟩
  rcases hDirect.mpr hDates with ⟨direct, hDirectly⟩
  rcases hRead.mpr hDates with ⟨read, hMapped⟩
  have hLaws := hAgree direct read hDirectly hMapped
  have hSchema := (assembled _ _).eq_none hDirectly
  rw [assemble_dateDefinition] at hSchema
  refine ⟨direct, read, hDirectly, hMapped, ?_, ?_, ?_⟩
  · rcases hLaws.accepted (.string "2021-03-05") with
      ⟨o, p, hO, hP, hSame⟩
    have hValid :
        (direct.verdict? (.string "2021-03-05")).map
            Outcome.isValid =
          some true := by
      rw [hSchema]
      rfl
    rw [hO] at hValid
    rcases hLaws.value _ p hP
      (hSame.symm.trans (Option.some.inj hValid)) with
      ⟨t, hText, hValue, _⟩
    exact ⟨p, t, hP, hText, hValue⟩
  · rw [← hLaws.errors]
    · rw [hSchema]
      decide
    · rintro ⟨text, hText, hUnread⟩
      cases hText
      cases hUnread
  · exact hLaws.unread "soon" rfl

end Definition

end Conform
