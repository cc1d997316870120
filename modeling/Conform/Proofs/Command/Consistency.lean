import Conform.Command.Response
import Conform.Proofs.Catalog.Faithful
import Conform.Proofs.Command.Printing

/-
  The commands `check` and `validate` agree about every
  document. Both load it in the same way, and both compile
  its definitions by themselves: what is compiled first has
  no bearing on what is compiled later. So a document that
  passes the check can be validated against throughout, and
  one that does not is refused by both for the same reason.

  Main declarations:
    * `Command.checkDocument_of_load`
    * `Command.validateSubject_of_load`
    * `Surroundings.Asks`
    * `Response.check_agrees_with_validate`
-/

namespace Conform

------------------------------------------------------------
-- Definitions of a Document
------------------------------------------------------------

namespace Fields

variable {α : Type}
variable {fields : List (String × α)}
variable {name other : String}

theorem mem_names_iff :
    name ∈ names fields ↔
      ∃ contents, fields.lookup name = some contents := by
  rw [← Option.isSome_iff_exists, List.lookup_isSome_iff,
    names, List.mem_map]
  simp only [beq_iff_eq]
  exact exists_congr fun f => and_congr_right fun _ => eq_comm

theorem Ordered.pairwise_names
    (h : Ordered fields) :
    (names fields).Pairwise (· < ·) :=
  List.pairwise_map.mpr h

/- A lesser name comes before. -/
theorem Ordered.mem_before
    {before after : List String}
    (h : Ordered fields)
    (hNames : names fields = before ++ name :: after)
    (hOther : other ∈ names fields)
    (hLess : other < name) :
    other ∈ before := by
  have hPairs := h.pairwise_names
  rw [hNames, List.pairwise_append] at hPairs
  rw [hNames, List.mem_append, List.mem_cons] at hOther
  rcases hOther with hBefore | rfl | hAfter
  · exact hBefore
  · exact absurd hLess (String.lt_irrefl other)
  · have hGreater : name < other :=
      (List.pairwise_cons.mp hPairs.2.1).1 other hAfter
    exact absurd hLess (String.lt_asymm hGreater)

end Fields

namespace Uncached

variable {s : Uncached}
variable {f : Failure}

/- An entity of the document fails for its definition. -/
theorem fault_of_compile_eq_error
    {name : String}
    (hName : name ∈ Fields.names s.document.definitions)
    (h : s.compile name = .error f) :
    ∃ definition fault,
      s.document.definitions.lookup name = some definition ∧
        Definition.compile s.registry definition name =
          .error fault ∧
        f = .fault fault := by
  rcases Fields.mem_names_iff.mp hName with
    ⟨definition, hLookup⟩
  rw [compile, hLookup] at h
  dsimp only at h
  cases hCompile :
      Definition.compile s.registry definition name with
  | ok compiled =>
      rw [hCompile] at h
      cases h
  | error fault =>
      rw [hCompile] at h
      cases h
      exact ⟨definition, fault, hLookup, hCompile, rfl⟩

/-
  Where not all definitions compile, there is a least one
  that does not, and its fault is the failure.
-/
theorem least_of_compileEach_eq_error
    (h : s.compileEach (Fields.names s.document.definitions) =
      .error f) :
    ∃ least definition fault,
      s.document.definitions.lookup least = some definition ∧
        Definition.compile s.registry definition least =
          .error fault ∧
        f = .fault fault ∧
        s.compile least = .error f ∧
        ∀ name other,
          s.document.definitions.lookup name = some other →
            name < least →
            ∃ compiled,
              Definition.compile s.registry other name =
                .ok compiled := by
  rcases first_of_compileEach_eq_error h with
    ⟨before, least, after, hNames, hBefore, hFails⟩
  have hLeast :
      least ∈ Fields.names s.document.definitions := by
    rw [hNames]
    exact List.mem_append_right before List.mem_cons_self
  rcases fault_of_compile_eq_error hLeast hFails with
    ⟨definition, fault, hLookup, hCompile, hFault⟩
  refine ⟨least, definition, fault, hLookup, hCompile, hFault,
    hFails, fun name other hOther hLess => ?_⟩
  have hEarlier : name ∈ before :=
    s.document.ordered.mem_before hNames
      (Fields.mem_names_iff.mpr ⟨other, hOther⟩) hLess
  rcases hBefore name hEarlier with ⟨compiled, hCompiled⟩
  rcases compile_eq_ok_iff.mp hCompiled with
    ⟨found, hFound, hOk⟩
  rw [hOther] at hFound
  cases hFound
  exact ⟨compiled, hOk⟩

end Uncached

------------------------------------------------------------
-- Commands
------------------------------------------------------------

/- A document as it is compiled for a command. -/
def Document.uncached
    (document : Document) : Uncached :=
  ⟨document, Registry.usual⟩

namespace Command

variable {files : Files}
variable {schema : Option String}
variable {path : String}
variable {document : Document}
variable {f : Failure}

/- The document that a command is about. -/
def documentOf
    (files : Files)
    (schema : Option String) :
    Except Failure (String × Document) :=
  Document.load files ⟨schema, Location.usualMaxSize⟩

theorem openCatalog_of_load
    (h : documentOf files schema = .ok (path, document)) :
    openCatalog files schema =
      .ok (Catalog.ofDocument (some path) Registry.usual
        document) := by
  unfold documentOf at h
  rw [openCatalog, Catalog.load, h]
  rfl

theorem openCatalog_of_load_error
    (h : documentOf files schema = .error f) :
    openCatalog files schema =
      .error (.failure .opening f) := by
  unfold documentOf at h
  rw [openCatalog, Catalog.load, h]
  rfl

/- A check compiles all definitions of the document. -/
theorem checkDocument_of_load
    (h : documentOf files schema = .ok (path, document)) :
    checkDocument files schema =
      match document.uncached.compileEach
          (Fields.names document.definitions) with
      | .ok found =>
          .ok (.checked path
            (found.map fun p => (p.1, p.2.kind)))
      | .error f => .error (.failure .compiling f) := by
  have hAll :
      (Catalog.ofDocument (some path) Registry.usual
          document).getAll.1.map
        (List.map fun p => (p.1, p.2.schema)) =
      document.uncached.compileEach
        (Fields.names document.definitions) :=
    (Catalog.getEach_map_schema
      (Catalog.faithful_ofDocument _ _ _) _).1
  rw [checkDocument, openCatalog_of_load h, ← hAll]
  dsimp only [bind, Except.bind]
  cases (Catalog.ofDocument (some path) Registry.usual
    document).getAll.1 with
  | error f => rfl
  | ok handles =>
      dsimp only [during, Except.map]
      rw [List.map_map]
      rfl

/- A validation compiles one definition of the document. -/
theorem validateSubject_of_load
    {text entity : String}
    {j : Json}
    (hText : Document.parseJson? .json text = some j)
    (h : documentOf files schema = .ok (path, document)) :
    validateSubject files entity schema (some (.text text)) =
      match document.uncached.compile entity with
      | .ok compiled =>
          match compiled.verdict? (Value.ofJson j) with
          | some outcome => .ok (.validated entity outcome)
          | none => .error .noOutcome
      | .error f => .error (.failure .settingUp f) := by
  have hGet := (Catalog.get_map_schema
    (Catalog.faithful_ofDocument (some path) Registry.usual
      document)
    entity).1
  change _ = document.uncached.compile entity at hGet
  rw [validateSubject, readSubject, parseSubject, hText,
    openCatalog_of_load h, ← hGet]
  dsimp only [bind, Except.bind]
  rw [Catalog.validate]
  generalize Catalog.get entity _ = result
  rcases result with ⟨_ | handle, _⟩
  · rfl
  · cases hOutcome :
        handle.schema.verdict? (Value.ofJson j) <;>
      simp only [Except.map, during, hOutcome]

/- Without a document, nothing is validated. -/
theorem validateSubject_of_load_error
    {text entity : String}
    {j : Json}
    (hText : Document.parseJson? .json text = some j)
    (h : documentOf files schema = .error f) :
    validateSubject files entity schema (some (.text text)) =
      .error (.failure .opening f) := by
  rw [validateSubject, readSubject, parseSubject, hText,
    openCatalog_of_load_error h]
  rfl

end Command

------------------------------------------------------------
-- Command Lines
------------------------------------------------------------

namespace Surroundings

/- A command line asks for a command, perhaps in a style. -/
def Asks
    (s : Surroundings)
    (args : List String)
    (style : Option Style)
    (command : Command) : Prop :=
  Request.ofArguments s.vars args =
    .ok (.perform style command)

/-
  A command line asks to check the value that a JSON text
  denotes against the schema of an entity.
-/
def AsksToValidate
    (s : Surroundings)
    (args : List String)
    (style : Option Style)
    (entity : String)
    (schema : Option String)
    (v : Value) : Prop :=
  ∃ text j, Document.parseJson? .json text = some j ∧
    v = Value.ofJson j ∧
    s.Asks args style
      (.validate entity schema (some (.text text)))

end Surroundings

namespace Response

section

variable {s : Surroundings}
variable {args : List String}
variable {style : Option Style}
variable {command : Command}

/- No refusal looks like a success. -/
theorem code_ofRefusal_ne_zero
    (refusal : Refusal) :
    (ofRefusal refusal).code ≠ 0 := by
  cases refusal with
  | failure stage f => cases f <;> exact Nat.succ_ne_zero _
  | _ => exact Nat.succ_ne_zero _

theorem toArguments_of_ok
    {report : Report}
    (hAsks : s.Asks args style command)
    (h : command.perform s = .ok report) :
    toArguments s args =
      ofReport (style.getD s.usualStyle) report := by
  unfold Surroundings.Asks at hAsks
  simp only [toArguments, hAsks, toRequest, h]

theorem toArguments_of_error
    {refusal : Refusal}
    (hAsks : s.Asks args style command)
    (h : command.perform s = .error refusal) :
    toArguments s args = ofRefusal refusal := by
  unfold Surroundings.Asks at hAsks
  simp only [toArguments, hAsks, toRequest, h]

/-
  The style of a report has a bearing on the output alone,
  not on the code and not on the error.
-/
theorem code_and_error_of_asks
    {style' : Option Style}
    {args' : List String}
    (hAsks : s.Asks args style command)
    (hAsks' : s.Asks args' style' command) :
    (toArguments s args).code = (toArguments s args').code ∧
      (toArguments s args).error =
        (toArguments s args').error := by
  cases h : command.perform s with
  | ok report =>
      rw [toArguments_of_ok hAsks h, toArguments_of_ok hAsks' h]
      exact ⟨rfl, rfl⟩
  | error refusal =>
      rw [toArguments_of_error hAsks h,
        toArguments_of_error hAsks' h]
      exact ⟨rfl, rfl⟩

/- A list of entities is printed, and no error. -/
theorem ofReport_checked
    (style : Style)
    (path : String)
    (entities : List (String × String)) :
    Report.Lists path entities style
        (ofReport style (.checked path entities)).output ∧
      (ofReport style (.checked path entities)).error = none :=
  ⟨Report.lists_render path entities style, rfl⟩

/- An outcome is printed, and no error. -/
theorem ofReport_validated
    (style : Style)
    (entity : String)
    (outcome : Outcome) :
    Report.Tells entity outcome style
        (ofReport style (.validated entity outcome)).output ∧
      (ofReport style (.validated entity outcome)).error =
        none ∧
      (ofReport style (.validated entity outcome)).code =
        if outcome.isValid then 0 else 60 :=
  ⟨Report.tells_render entity outcome style, rfl, rfl⟩

variable {schema : Option String}
variable {path entity : String}
variable {document : Document}
variable {v : Value}
variable {f : Failure}

theorem check_of_compiled
    {found : List (String × Schema)}
    (hAsks : s.Asks args style (.check schema))
    (hLoad :
      Command.documentOf s.files schema = .ok (path, document))
    (h : document.uncached.compileEach
      (Fields.names document.definitions) = .ok found) :
    toArguments s args =
      ofReport (style.getD s.usualStyle)
        (.checked path (found.map fun p => (p.1, p.2.kind))) := by
  refine toArguments_of_ok hAsks ?_
  rw [Command.perform, Command.checkDocument_of_load hLoad, h]

theorem check_of_failure
    (hAsks : s.Asks args style (.check schema))
    (hLoad :
      Command.documentOf s.files schema = .ok (path, document))
    (h : document.uncached.compileEach
      (Fields.names document.definitions) = .error f) :
    toArguments s args = ofRefusal (.failure .compiling f) := by
  refine toArguments_of_error hAsks ?_
  rw [Command.perform, Command.checkDocument_of_load hLoad, h]

theorem check_of_load_error
    (hAsks : s.Asks args style (.check schema))
    (h : Command.documentOf s.files schema = .error f) :
    toArguments s args = ofRefusal (.failure .opening f) := by
  refine toArguments_of_error hAsks ?_
  rw [Command.perform, Command.checkDocument,
    Command.openCatalog_of_load_error h]
  rfl

/- A check succeeds only if all definitions compile. -/
theorem compiled_of_check
    (hAsks : s.Asks args style (.check schema))
    (hCode : (toArguments s args).code = 0) :
    ∃ path document found,
      Command.documentOf s.files schema =
          .ok (path, document) ∧
        document.uncached.compileEach
            (Fields.names document.definitions) =
          .ok found := by
  cases hLoad : Command.documentOf s.files schema with
  | error f =>
      rw [check_of_load_error hAsks hLoad] at hCode
      exact absurd hCode (code_ofRefusal_ne_zero _)
  | ok loaded =>
      rcases loaded with ⟨path, document⟩
      cases hAll : document.uncached.compileEach
          (Fields.names document.definitions) with
      | error f =>
          rw [check_of_failure hAsks hLoad hAll] at hCode
          exact absurd hCode (code_ofRefusal_ne_zero _)
      | ok found => exact ⟨path, document, found, rfl, hAll⟩

/- A check of a document fails only if one of them does not. -/
theorem failure_of_check
    (hAsks : s.Asks args style (.check schema))
    (hLoad :
      Command.documentOf s.files schema = .ok (path, document))
    (hCode : (toArguments s args).code ≠ 0) :
    ∃ f, document.uncached.compileEach
      (Fields.names document.definitions) = .error f := by
  cases hAll : document.uncached.compileEach
      (Fields.names document.definitions) with
  | error f => exact ⟨f, rfl⟩
  | ok found =>
      rw [check_of_compiled hAsks hLoad hAll] at hCode
      exact absurd rfl hCode

theorem validate_of_compiled
    {compiled : Schema}
    (hAsks : s.AsksToValidate args style entity schema v)
    (hLoad :
      Command.documentOf s.files schema = .ok (path, document))
    (h : document.uncached.compile entity = .ok compiled) :
    ∃ outcome, compiled.verdict? v = some outcome ∧
      toArguments s args =
        ofReport (style.getD s.usualStyle)
          (.validated entity outcome) ∧
      Report.Tells entity outcome (style.getD s.usualStyle)
        (toArguments s args).output ∧
      (toArguments s args).error = none ∧
      (toArguments s args).code =
        if outcome.isValid then 0 else 60 := by
  rcases hAsks with ⟨text, j, hText, rfl, hAsks⟩
  rcases Uncached.verdict?_of_compile_eq_ok h (Value.ofJson j)
    with ⟨outcome, hOutcome⟩
  have hPerform :
      Command.perform s (.validate entity schema
          (some (.text text))) =
        .ok (.validated entity outcome) := by
    rw [Command.perform,
      Command.validateSubject_of_load hText hLoad, h]
    dsimp only
    rw [hOutcome]
  have hResponse := toArguments_of_ok hAsks hPerform
  refine ⟨outcome, hOutcome, hResponse, ?_⟩
  rw [hResponse]
  exact ofReport_validated _ entity outcome

theorem validate_of_failure
    (hAsks : s.AsksToValidate args style entity schema v)
    (hLoad :
      Command.documentOf s.files schema = .ok (path, document))
    (h : document.uncached.compile entity = .error f) :
    toArguments s args = ofRefusal (.failure .settingUp f) := by
  rcases hAsks with ⟨text, j, hText, rfl, hAsks⟩
  refine toArguments_of_error hAsks ?_
  rw [Command.perform,
    Command.validateSubject_of_load hText hLoad, h]

theorem validate_of_load_error
    (hAsks : s.AsksToValidate args style entity schema v)
    (h : Command.documentOf s.files schema = .error f) :
    toArguments s args = ofRefusal (.failure .opening f) := by
  rcases hAsks with ⟨text, j, hText, rfl, hAsks⟩
  exact toArguments_of_error hAsks
    (Command.validateSubject_of_load_error hText h)

end

------------------------------------------------------------
-- Agreement
------------------------------------------------------------

/-
  If `check` succeeds, it lists the entities of the document
  in the order of their names, each with the type that its
  definition declares, and `validate` reports on every value
  for each of them. In any style, the list and the report
  are what is printed. If there is no document, both
  commands are refused alike. Otherwise the definition of
  some entity does not compile, and both commands are
  refused with the fault of the least such entity. The style
  of the output makes no difference to the code or the
  error.
-/
theorem check_agrees_with_validate
    (s : Surroundings)
    (schema : Option String)
    (args : List String)
    (style : Option Style)
    (hCheck : s.Asks args style (.check schema)) :
    ((toArguments s args).code = 0 →
      ∃ path document entities,
        Command.documentOf s.files schema =
            .ok (path, document) ∧
          toArguments s args =
            ofReport (style.getD s.usualStyle)
              (.checked path entities) ∧
          Report.Lists path entities
            (style.getD s.usualStyle)
            (toArguments s args).output ∧
          (toArguments s args).error = none ∧
          entities.map Prod.fst =
            Fields.names document.definitions ∧
          (Fields.names document.definitions).Pairwise
            (· < ·) ∧
          ∀ e ∈ entities, ∃ definition compiled,
            document.definitions.lookup e.1 =
                some definition ∧
              Definition.typeName? definition = some e.2 ∧
              Definition.compile Registry.usual definition
                  e.1 =
                .ok compiled ∧
              ∀ args' style' v,
                s.AsksToValidate args' style' e.1 schema v →
                  ∃ outcome,
                    compiled.verdict? v = some outcome ∧
                      toArguments s args' =
                        ofReport (style'.getD s.usualStyle)
                          (.validated e.1 outcome) ∧
                      Report.Tells e.1 outcome
                        (style'.getD s.usualStyle)
                        (toArguments s args').output ∧
                      (toArguments s args').error = none ∧
                      (toArguments s args').code =
                        if outcome.isValid then 0 else 60) ∧
      (∀ f, Command.documentOf s.files schema = .error f →
        toArguments s args =
            ofRefusal (.failure .opening f) ∧
          (toArguments s args).error =
            some ("error: schema load failed: " ++
              f.message) ∧
          (toArguments s args).code ≠ 0 ∧
          ∀ args' style' entity v,
            s.AsksToValidate args' style' entity schema v →
              toArguments s args' = toArguments s args) ∧
      (∀ path document,
        Command.documentOf s.files schema =
            .ok (path, document) →
          (toArguments s args).code ≠ 0 →
          ∃ least definition fault,
            document.definitions.lookup least =
                some definition ∧
              Definition.compile Registry.usual definition
                  least =
                .error fault ∧
              (∀ name other,
                document.definitions.lookup name =
                    some other →
                  name < least →
                  ∃ compiled,
                    Definition.compile Registry.usual other
                        name =
                      .ok compiled) ∧
              toArguments s args =
                ⟨60, "",
                  some ("error: schema compile failed: " ++
                    fault.message)⟩ ∧
              ∀ args' style' v,
                s.AsksToValidate args' style' least schema v →
                  toArguments s args' =
                    ⟨60, "",
                      some ("error: validation setup failed: " ++
                        fault.message)⟩) ∧
      ∀ command args₁ style₁ args₂ style₂,
        s.Asks args₁ style₁ command →
          s.Asks args₂ style₂ command →
          (toArguments s args₁).code =
              (toArguments s args₂).code ∧
            (toArguments s args₁).error =
              (toArguments s args₂).error := by
  refine ⟨fun hCode => ?_, fun f hLoad => ?_,
    fun path document hLoad hCode => ?_,
    fun _ _ _ _ _ => code_and_error_of_asks⟩
  · rcases compiled_of_check hCheck hCode with
      ⟨path, document, found, hLoad, hAll⟩
    have hResponse := check_of_compiled hCheck hLoad hAll
    have hPrinted := ofReport_checked
      (style.getD s.usualStyle) path
      (found.map fun p => (p.1, p.2.kind))
    rw [← hResponse] at hPrinted
    refine ⟨path, document, _, hLoad, hResponse, hPrinted.1,
      hPrinted.2, ?_, document.ordered.pairwise_names,
      fun e he => ?_⟩
    · rw [List.map_map]
      exact Uncached.names_compileEach hAll
    · rcases List.mem_map.mp he with ⟨p, hp, rfl⟩
      have hCompile := Uncached.mem_compileEach hAll p hp
      rcases Uncached.compile_eq_ok_iff.mp hCompile with
        ⟨definition, hLookup, hOk⟩
      exact ⟨definition, p.2, hLookup,
        Definition.typeName?_of_compile_eq_ok hOk, hOk,
        fun _ _ _ hAsks =>
          validate_of_compiled hAsks hLoad hCompile⟩
  · have hRefused := check_of_load_error hCheck hLoad
    refine ⟨hRefused, ?_, ?_,
      fun args' style' entity v hAsks => ?_⟩
    · rw [hRefused]
      rfl
    · rw [hRefused]
      exact code_ofRefusal_ne_zero _
    · rw [hRefused, validate_of_load_error hAsks hLoad]
  · rcases failure_of_check hCheck hLoad hCode with ⟨f, hAll⟩
    rcases Uncached.least_of_compileEach_eq_error hAll with
      ⟨least, definition, fault, hLookup, hCompile, rfl,
        hFails, hLesser⟩
    refine ⟨least, definition, fault, hLookup, hCompile,
      hLesser, ?_, fun args' style' v hAsks => ?_⟩
    · rw [check_of_failure hCheck hLoad hAll]
      rfl
    · rw [validate_of_failure hAsks hLoad hFails]
      rfl

end Response

------------------------------------------------------------
-- A Document about Words
------------------------------------------------------------

/- A document that gives words a type, and counts too. -/
def typingWords
    (type : String) : Surroundings where
  files := fun path =>
    if path = "words.yaml" then
      let text := "word:\n  type: " ++ type ++ "\n" ++
        "count:\n  type: number\n"
      .ok (.file text.utf8ByteSize
        (.bytes text.toUTF8.data.toList))
    else .error .missing
  vars := ⟨none, none⟩
  terminal := false
  build := Build.unknown

/- Asks for a check of a document. -/
def checkLine
    (format schema : String) : List String :=
  ["check", "--schema", schema, "--format", format]

/- Asks for a validation of a truth value. -/
def validateLine
    (format entity schema : String) : List String :=
  [ "validate", entity, "--schema", schema,
    "--json", "true", "--format", format ]

theorem load_typingWords
    {type : String}
    (hType : type = "string" ∨ type = "text") :
    ∃ path document,
      Command.documentOf (typingWords type).files
            (some "words.yaml") =
          .ok (path, document) ∧
        Fields.names document.definitions =
          ["count", "word"] := by
  have hNames :
      (Command.documentOf (typingWords type).files
            (some "words.yaml")).toOption.map
          (fun r => Fields.names r.2.definitions) =
        some ["count", "word"] := by
    rcases hType with rfl | rfl <;> decide +kernel
  cases hLoad : Command.documentOf (typingWords type).files
      (some "words.yaml") with
  | error f =>
      rw [hLoad] at hNames
      cases hNames
  | ok loaded =>
      rw [hLoad] at hNames
      exact ⟨loaded.1, loaded.2, rfl, Option.some.inj hNames⟩

/-
  Where words are strings, the check lists both entities in
  the order of their names, and a truth value is reported
  on. Where words are of an unknown type, both commands are
  refused for it, although counts come first. Where there is
  no such document, both are refused alike.
-/
theorem Response.check_agrees_with_validate_words :
    ((toArguments (typingWords "string")
          (checkLine "json" "words.yaml")).code = 0 ∧
        (∃ path entities,
          Report.Lists path entities .json
              (toArguments (typingWords "string")
                (checkLine "json" "words.yaml")).output ∧
            entities.map Prod.fst = ["count", "word"]) ∧
        ∃ outcome,
          toArguments (typingWords "string")
                (validateLine "json" "word" "words.yaml") =
              ofReport .json (.validated "word" outcome) ∧
            Report.Tells "word" outcome .json
              (toArguments (typingWords "string")
                (validateLine "json" "word"
                  "words.yaml")).output) ∧
      (toArguments (typingWords "string")
            (checkLine "json" "words.yaml") =
          ⟨0,
            "\x7b\"schema_id\":" ++
              "\"https://schemas.3leaps.dev/valkit/cli/v1/" ++
              "check-report.schema.json\"" ++
              ",\"document\":\"words.yaml\",\"entities\":[" ++
              "\x7b\"entity\":\"count\"," ++
              "\"kind\":\"number\"\x7d," ++
              "\x7b\"entity\":\"word\"," ++
              "\"kind\":\"string\"\x7d]\x7d\n",
            none⟩ ∧
        toArguments (typingWords "string")
            (checkLine "table" "words.yaml") =
          ⟨0,
            "words.yaml\n" ++
              "┌────────┬────────┐\n" ++
              "│ ENTITY ┆ KIND   │\n" ++
              "╞════════╪════════╡\n" ++
              "│ count  ┆ number │\n" ++
              "├╌╌╌╌╌╌╌╌┼╌╌╌╌╌╌╌╌┤\n" ++
              "│ word   ┆ string │\n" ++
              "└────────┴────────┘\n",
            none⟩ ∧
        toArguments (typingWords "string")
            (checkLine "pretty" "words.yaml") =
          ⟨0,
            "words.yaml: 2 entities compiled\n" ++
              "  count                    number\n" ++
              "  word                     string\n",
            none⟩) ∧
      (toArguments (typingWords "string")
            (validateLine "json" "word" "words.yaml") =
          ⟨60,
            "\x7b\"schema_id\":" ++
              "\"https://schemas.3leaps.dev/valkit/cli/v1/" ++
              "validation-result.schema.json\"" ++
              ",\"entity\":\"word\",\"isValid\":false" ++
              ",\"errors\":[\"Value must be a string.\"]" ++
              "\x7d\n",
            none⟩ ∧
        toArguments (typingWords "string")
            (validateLine "table" "word" "words.yaml") =
          ⟨60,
            "┌────────┬───────┬─────────────────────────┐\n" ++
              "│ ENTITY ┆ VALID ┆ ERROR                   │\n" ++
              "╞════════╪═══════╪═════════════════════════╡\n" ++
              "│ word   ┆ false ┆ Value must be a string. │\n" ++
              "└────────┴───────┴─────────────────────────┘\n",
            none⟩ ∧
        toArguments (typingWords "string")
            (validateLine "pretty" "word" "words.yaml") =
          ⟨60,
            "word: invalid\n  - Value must be a string.\n",
            none⟩) ∧
      (∃ fault : Fault,
        fault.message =
            "unsupported schema type 'text' at word" ∧
          toArguments (typingWords "text")
              (checkLine "json" "words.yaml") =
            ⟨60, "", some ("error: schema compile failed: " ++
              fault.message)⟩ ∧
          toArguments (typingWords "text")
              (validateLine "json" "word" "words.yaml") =
            ⟨60, "", some ("error: validation setup failed: " ++
              fault.message)⟩) ∧
      toArguments (typingWords "string")
          (checkLine "json" "verbs.yaml") =
        ⟨1, "", some ("error: schema load failed: " ++
          "schema file not found: verbs.yaml")⟩ ∧
      toArguments (typingWords "string")
          (validateLine "json" "word" "verbs.yaml") =
        toArguments (typingWords "string")
          (checkLine "json" "verbs.yaml") := by
  refine ⟨?_,
    ⟨by decide +kernel, by decide +kernel, by decide +kernel⟩,
    ⟨by decide +kernel, by decide +kernel, by decide +kernel⟩,
    ?_, by decide +kernel, ?_⟩
  · rcases check_agrees_with_validate (typingWords "string")
        (some "words.yaml") (checkLine "json" "words.yaml")
        (some .json) rfl
      with ⟨hSuccess, _⟩
    have hCode : (toArguments (typingWords "string")
        (checkLine "json" "words.yaml")).code = 0 := by
      decide +kernel
    rcases load_typingWords (Or.inl rfl) with
      ⟨_, _, hFound, hInOrder⟩
    rcases hSuccess hCode with
      ⟨path, document, entities, hLoad, _, hLists, _, hNames,
        _, hEach⟩
    rw [hFound] at hLoad
    cases hLoad
    rw [hInOrder] at hNames
    have hWord : "word" ∈ entities.map Prod.fst := by
      rw [hNames]
      decide
    rcases List.mem_map.mp hWord with ⟨e, he, hName⟩
    rcases hEach e he with ⟨_, _, _, _, _, hValidates⟩
    rw [hName] at hValidates
    rcases hValidates (validateLine "json" "word" "words.yaml")
        (some .json) (.bool true)
        ⟨"true", .bool true, rfl, rfl, rfl⟩
      with ⟨outcome, _, hResponse, hTells, _⟩
    exact ⟨hCode, ⟨_, entities, hLists, hNames⟩, outcome,
      hResponse, hTells⟩
  · rcases check_agrees_with_validate (typingWords "text")
        (some "words.yaml") (checkLine "json" "words.yaml")
        (some .json) rfl
      with ⟨_, _, hFaulty, _⟩
    have hResponse : toArguments (typingWords "text")
          (checkLine "json" "words.yaml") =
        ⟨60, "", some ("error: schema compile failed: " ++
          "unsupported schema type 'text' at word")⟩ := by
      decide +kernel
    have hCode : (toArguments (typingWords "text")
        (checkLine "json" "words.yaml")).code ≠ 0 := by
      rw [hResponse]
      exact Nat.succ_ne_zero _
    rcases load_typingWords (Or.inr rfl) with
      ⟨path, document, hLoad, hInOrder⟩
    rcases hFaulty path document hLoad hCode with
      ⟨least, definition, fault, hLookup, _, _, hCheck,
        hValidate⟩
    have hLeast :
        least ∈ Fields.names document.definitions :=
      Fields.mem_names_iff.mpr ⟨definition, hLookup⟩
    rw [hInOrder] at hLeast
    -- Counts are compiled, so that they are reported on.
    rcases List.mem_pair.mp hLeast with rfl | rfl
    · have hCounts : (toArguments (typingWords "text")
          (validateLine "json" "count" "words.yaml")).error =
          none := by
        decide +kernel
      rw [hValidate (validateLine "json" "count" "words.yaml")
        (some .json) (.bool true)
        ⟨"true", .bool true, rfl, rfl, rfl⟩] at hCounts
      cases hCounts
    · have hMessage := hResponse.symm.trans hCheck
      simp only [Response.mk.injEq, Option.some.injEq,
        String.append_right_inj, true_and] at hMessage
      exact ⟨fault, hMessage.symm, hCheck,
        hValidate _ (some .json) (.bool true)
          ⟨"true", .bool true, rfl, rfl, rfl⟩⟩
  · rcases check_agrees_with_validate (typingWords "string")
        (some "verbs.yaml") (checkLine "json" "verbs.yaml")
        (some .json) rfl
      with ⟨_, hMissing, _⟩
    exact (hMissing _ rfl).2.2.2 _ _ _ _
      ⟨"true", .bool true, rfl, rfl, rfl⟩

end Conform
