import Conform.Command.Report
import Conform.Proofs.Json.Quotation
import Mathlib.Data.List.Forall2

/-
  What reports look like. A list of entities and the outcome
  for a value have a text in each style: JSON data and plain
  lines are given letter by letter, and a table by the texts
  in it, with nothing but its frame and blanks between them.

  Main declarations:
    * `Table.Frames`
    * `Table.frames_render`
    * `Report.Lists` and `Report.lists_render`
    * `Report.Tells` and `Report.tells_render`
-/

namespace Conform

namespace Table

------------------------------------------------------------
-- Framed Texts
------------------------------------------------------------

/- The marks of a frame, with blanks and line breaks. -/
def frameMarks : List Char :=
  "┌─┬┐╞═╪╡├╌┼┤└┴┘│┆ \n".toList

/- A text of marks alone. -/
def isFrame
    (text : List Char) : Bool :=
  text.all frameMarks.contains

/-
  A text in which the given pieces stand in their order, and
  nothing but marks of a frame before, between and after.
-/
inductive Frames : List (List Char) → List Char → Prop
  | done : Frames [] []
  | mark {c : Char}
      {pieces : List (List Char)} {text : List Char}
      (hMark : c ∈ frameMarks)
      (hRest : Frames pieces text) :
      Frames pieces (c :: text)
  | piece (p : List Char)
      {pieces : List (List Char)} {text : List Char}
      (hRest : Frames pieces text) :
      Frames (p :: pieces) (p ++ text)

/-
  The pieces of a row: the first line of each cell, then the
  second line of each cell, and so on.
-/
def rowPieces
    (row : List String) : List (List Char) :=
  let cells := row.map fun cell => cell.toList.splitOn '\n'
  let height := (cells.map List.length).foldl max 0
  (List.range height).flatMap fun i =>
    cells.map fun cell => (cell[i]?).getD []

namespace Frames

variable {pieces others : List (List Char)}
variable {text rest : List Char}

theorem append
    (h : Frames pieces text)
    (hRest : Frames others rest) :
    Frames (pieces ++ others) (text ++ rest) := by
  induction h with
  | done => exact hRest
  | mark hMark _ ih => exact .mark hMark ih
  | piece p _ ih =>
      rw [List.append_assoc]
      exact .piece p ih

/- Marks alone have no pieces between them. -/
theorem marks
    (h : isFrame text = true) :
    Frames [] text := by
  induction text with
  | nil => exact .done
  | cons c rest ih =>
      rw [isFrame, List.all_cons, Bool.and_eq_true] at h
      exact .mark (List.contains_iff_mem.mp h.1) (ih h.2)

/- A mark that is repeated. -/
theorem repeated
    {c : Char}
    (hMark : c ∈ frameMarks)
    (n : Nat) :
    Frames [] (List.replicate n c) := by
  induction n with
  | zero => exact .done
  | succ n ih => exact .mark hMark ih

/- One piece with blanks behind it. -/
theorem padded
    (columns : Nat)
    (p : List Char) :
    Frames [p] (Text.padTo columns p) :=
  .piece p (.repeated (by decide) _)

end Frames

/- Several texts, each of which frames the next pieces. -/
inductive FramesEach :
    List (List Char) → List (List Char) → Prop
  | done : FramesEach [] []
  | text {pieces others : List (List Char)}
      {text : List Char} {texts : List (List Char)}
      (hText : Frames pieces text)
      (hRest : FramesEach others texts) :
      FramesEach (pieces ++ others) (text :: texts)

namespace FramesEach

variable {pieces others : List (List Char)}
variable {texts rest : List (List Char)}

theorem append
    (h : FramesEach pieces texts)
    (hRest : FramesEach others rest) :
    FramesEach (pieces ++ others) (texts ++ rest) := by
  induction h with
  | done => exact hRest
  | text hText _ ih =>
      rw [List.append_assoc]
      exact .text hText ih

theorem single
    {text : List Char}
    (h : Frames pieces text) :
    FramesEach pieces [text] := by
  have hSingle := FramesEach.text h .done
  rw [List.append_nil] at hSingle
  exact hSingle

/- Texts for the members of a list, one for each. -/
theorem ofMembers
    {α : Type}
    {f : α → List (List Char)}
    {g : α → List Char}
    {members : List α}
    (h : ∀ a ∈ members, Frames (f a) (g a)) :
    FramesEach (members.flatMap f) (members.map g) := by
  induction members with
  | nil => exact .done
  | cons a rest ih =>
      refine .text (h a List.mem_cons_self) (ih fun b hb => ?_)
      exact h b (List.mem_cons_of_mem a hb)

/- The texts with marks between them are framed. -/
theorem intercalate
    {marks : List Char}
    (hMarks : isFrame marks = true)
    (h : FramesEach pieces texts) :
    Frames pieces (marks.intercalate texts) := by
  induction h with
  | done => exact .done
  | text hText hRest ih =>
      cases hRest with
      | done => simpa using hText
      | text _ _ =>
          rw [List.intercalate_cons_cons, List.append_assoc]
          exact hText.append ((Frames.marks hMarks).append ih)

end FramesEach

------------------------------------------------------------
-- Lines of a Table
------------------------------------------------------------

section

variable {widths : List Nat}
variable {row : List String}

/- The lines of a cell are what its line breaks separate. -/
theorem cellLines_eq_splitOn
    (cell : String) :
    cellLines cell = cell.toList.splitOn '\n' := by
  have hSplit : ∀ cs current : List Char,
      Text.split '\n' current cs =
        cs.splitOnPPrepend (· == '\n') current := by
    intro cs
    induction cs with
    | nil => exact fun _ => rfl
    | cons c rest ih =>
        intro current
        rw [Text.split, List.splitOnPPrepend, ih, ih]
        simp only [beq_iff_eq]
  exact hSplit cell.toList []

/- There is a width for each cell of any row. -/
theorem length_columnWidths
    (t : Table)
    (hRows : ∀ row ∈ t.rows, row.length = t.heads.length) :
    t.columnWidths.length = t.heads.length := by
  have hFold : ∀ (rows : List (List String))
      (widths : List Nat),
      (∀ row ∈ rows, row.length = widths.length) →
      (rows.foldl
        (fun widths row =>
          List.zipWith max widths (row.map cellWidth))
        widths).length = widths.length := by
    intro rows
    induction rows with
    | nil => exact fun _ _ => rfl
    | cons row rest ih =>
        intro widths hLengths
        have hSame :
            (List.zipWith max widths
              (row.map cellWidth)).length = widths.length := by
          rw [List.length_zipWith, List.length_map,
            hLengths row List.mem_cons_self, Nat.min_self]
        rw [List.foldl_cons, ih _ fun other hOther => ?_, hSame]
        rw [hSame]
        exact hLengths other (List.mem_cons_of_mem row hOther)
  have hHeads := hFold t.rows (t.heads.map cellWidth)
    (by simpa using hRows)
  rw [List.length_map] at hHeads
  exact hHeads

/- A line across the table has no pieces. -/
theorem frames_rule
    {rule : Rule}
    (hLeft : isFrame rule.left.toList = true)
    (hFill : rule.fill ∈ frameMarks)
    (hBetween : isFrame rule.between.toList = true)
    (hRight : isFrame rule.right.toList = true)
    (widths : List Nat) :
    Frames [] (rule.render widths).toList := by
  have hParts : FramesEach []
      (widths.map fun n =>
        List.replicate (n + 2) rule.fill) := by
    induction widths with
    | nil => exact .done
    | cons n rest ih => exact .text (.repeated hFill (n + 2)) ih
  have hRule := ((Frames.marks hLeft).append
    (hParts.intercalate hBetween)).append (.marks hRight)
  simpa [Rule.render, Function.comp_def] using hRule

/- A line of cells has the cells for pieces. -/
theorem frames_cellsLine
    {cells : List (List Char)}
    (hLength : cells.length = widths.length) :
    Frames cells (cellsLine widths cells).toList := by
  have hCells : FramesEach cells
      (List.zipWith Text.padTo widths cells) := by
    induction cells generalizing widths with
    | nil =>
        rw [List.zipWith_nil_right]
        exact .done
    | cons cell rest ih =>
        cases widths with
        | nil => cases hLength
        | cons n widths =>
            exact .text (.padded n cell)
              (ih (Nat.succ.inj hLength))
  have hLeft : Frames [] "│ ".toList := .marks rfl
  have hRight : Frames [] " │".toList := .marks rfl
  have hBetween : isFrame " ┆ ".toList = true := rfl
  have hLine :=
    (hLeft.append (hCells.intercalate hBetween)).append hRight
  simpa [cellsLine, List.map_zipWith] using hLine

theorem framesEach_rowLines
    (hLength : row.length = widths.length) :
    FramesEach (rowPieces row)
      ((rowLines widths row).map String.toList) := by
  have hCells : row.map cellLines =
      row.map fun cell => cell.toList.splitOn '\n' :=
    List.map_congr_left fun cell _ => cellLines_eq_splitOn cell
  rw [rowLines, rowPieces, hCells,
    List.map_map (g := String.toList)]
  refine .ofMembers fun i _ => frames_cellsLine ?_
  rw [List.length_map, List.length_map, hLength]

/- Rows have their pieces, and what is between them none. -/
theorem framesEach_rows
    {rule : String}
    (hRule : Frames [] rule.toList)
    {rows : List (List String)}
    (hRows : ∀ row ∈ rows, row.length = widths.length) :
    FramesEach (rows.flatMap rowPieces)
      ((List.flatten
        ((rows.map (rowLines widths)).intersperse
          [rule])).map String.toList) := by
  induction rows with
  | nil => exact .done
  | cons row rest ih =>
      have hFirst := framesEach_rowLines
        (hRows row List.mem_cons_self)
      have hRest := ih fun other hOther =>
        hRows other (List.mem_cons_of_mem row hOther)
      cases rest with
      | nil => simpa using hFirst
      | cons next rest =>
          rw [List.map_cons, List.map_cons,
            List.intersperse_cons_cons, ← List.map_cons,
            List.flatten_cons, List.flatten_cons,
            List.map_append, List.map_append,
            List.flatMap_cons]
          exact hFirst.append ((FramesEach.single hRule).append
            hRest)

end

/-
  A table whose rows have as many cells as it has heads is
  drawn with the heads and then the rows, in order.
-/
theorem frames_render
    (t : Table)
    (hRows : ∀ row ∈ t.rows, row.length = t.heads.length) :
    Frames ((t.heads :: t.rows).flatMap rowPieces)
      t.render.toList := by
  have hWidths := t.length_columnWidths hRows
  have hTop : Frames []
      (topRule.render t.columnWidths).toList :=
    frames_rule rfl (by decide) rfl rfl _
  have hHead : Frames []
      (headRule.render t.columnWidths).toList :=
    frames_rule rfl (by decide) rfl rfl _
  have hBetween : Frames []
      (rowRule.render t.columnWidths).toList :=
    frames_rule rfl (by decide) rfl rfl _
  have hBottom : Frames []
      (bottomRule.render t.columnWidths).toList :=
    frames_rule rfl (by decide) rfl rfl _
  have hHeads : FramesEach (rowPieces t.heads)
      ((rowLines t.columnWidths t.heads).map String.toList) :=
    framesEach_rowLines hWidths.symm
  have hBody := framesEach_rows hBetween fun row hRow =>
    (hRows row hRow).trans hWidths.symm
  have hLines := (((FramesEach.single hTop).append
    hHeads).append (.single hHead)).append
      (hBody.append (.single hBottom))
  have hBreak : isFrame "\n".toList = true := rfl
  have hRender := hLines.intercalate hBreak
  simpa [render, lines] using hRender

end Table

------------------------------------------------------------
-- Lists of Entities
------------------------------------------------------------

namespace Report

/- A text denotes an entity and its kind as JSON data. -/
def SpellsEntity
    (entity : String × String)
    (text : String) : Prop :=
  ∃ name kind, Json.Spells name entity.1 ∧
    Json.Spells kind entity.2 ∧
    text = "\x7b\"entity\":" ++ name ++
      ",\"kind\":" ++ kind ++ "\x7d"

/-
  A text lists the entities of a document with their kinds,
  in order: as the members of JSON data, as the rows of a
  table, or as one line for each in which the kind stands
  behind a name that takes up 24 columns.
-/
inductive Lists
    (document : String)
    (entities : List (String × String)) :
    Style → String → Prop
  | json {name : String} {items : List String}
      (hName : Json.Spells name document)
      (hItems : List.Forall₂ SpellsEntity entities items) :
      Lists document entities .json
        ("\x7b\"schema_id\":" ++
          "\"https://schemas.3leaps.dev/valkit/cli/v1/" ++
          "check-report.schema.json\"" ++
          ",\"document\":" ++ name ++
          ",\"entities\":[" ++
          String.intercalate "," items ++ "]\x7d\n")
  | table {drawn : String}
      (hDrawn : Table.Frames
        ((["ENTITY", "KIND"] ::
          entities.map fun e => [e.1, e.2]).flatMap
            Table.rowPieces)
        drawn.toList) :
      Lists document entities .table
        (document ++ "\n" ++ drawn ++ "\n")
  | pretty :
      Lists document entities .pretty
        (document ++ ": " ++ toString entities.length ++
          " entities compiled\n" ++
          String.join (entities.map fun e =>
            "  " ++ e.1 ++
              String.ofList
                (List.replicate (24 - e.1.length) ' ') ++
              " " ++ e.2 ++ "\n"))

/- What is written for an entity denotes it. -/
theorem spellsEntity_render
    (entity : String × String) :
    SpellsEntity entity (entityJson entity).render := by
  refine ⟨_, _, Json.spells_quote _, Json.spells_quote _, ?_⟩
  rw [← String.toList_inj]
  simp [entityJson, Json.render, Json.renderMembers,
    Json.quote_plain "entity" rfl, Json.quote_plain "kind" rfl]

/- The report on a document lists its entities. -/
theorem lists_render
    (document : String)
    (entities : List (String × String))
    (style : Style) :
    Lists document entities style
      ((checked document entities).render style) := by
  cases style with
  | json =>
      have hItems : List.Forall₂ SpellsEntity entities
          (entities.map fun e => (entityJson e).render) := by
        rw [List.forall₂_map_right_iff, List.forall₂_same]
        exact fun e _ => spellsEntity_render e
      have hText : Lists document entities .json _ :=
        .json (Json.spells_quote document) hItems
      convert hText using 1
      rw [← String.toList_inj]
      simp only [render, checkedLines, jsonLine, Json.render,
        Json.renderMembers, Json.renderItems_eq_map,
        Json.quote_plain "schema_id" rfl,
        Json.quote_plain
          ("https://schemas.3leaps.dev/valkit/cli/v1/" ++
            "check-report" ++ ".schema.json") rfl,
        Json.quote_plain "document" rfl,
        Json.quote_plain "entities" rfl]
      simp [ofLines, Function.comp_def]
  | table =>
      have hText : Lists document entities .table _ := .table
        (Table.frames_render
          ⟨["ENTITY", "KIND"],
            entities.map fun e => [e.1, e.2]⟩
          fun row hRow => by
            rcases List.mem_map.mp hRow with ⟨e, _, rfl⟩
            rfl)
      simpa [render, checkedLines, ofLines,
        String.append_assoc] using hText
  | pretty =>
      have hText : Lists document entities .pretty _ := .pretty
      simpa [render, checkedLines, ofLines, entityLine,
        Function.comp_def, String.append_assoc] using hText

------------------------------------------------------------
-- Outcomes
------------------------------------------------------------

/- The word for a verdict. -/
def verdictWord
    (outcome : Outcome) : String :=
  if outcome.isValid then "true" else "false"

/-
  The rows that tell an outcome: one for each error, or one
  with an empty cell in the place of an error.
-/
def tellingRows
    (entity : String)
    (outcome : Outcome) : List (List String) :=
  if outcome.errors = [] then
    [[entity, verdictWord outcome, ""]]
  else
    outcome.errors.map fun e => [entity, verdictWord outcome, e]

theorem outcomeRows_eq
    (entity : String)
    (outcome : Outcome) :
    outcomeRows entity outcome = tellingRows entity outcome := by
  unfold outcomeRows tellingRows
  cases outcome.errors with
  | nil => rfl
  | cons e rest => exact (if_neg (List.cons_ne_nil e rest)).symm

theorem length_of_mem_tellingRows
    {entity : String}
    {outcome : Outcome}
    {row : List String}
    (h : row ∈ tellingRows entity outcome) :
    row.length = 3 := by
  unfold tellingRows at h
  split at h
  · rw [List.mem_singleton.mp h]
    rfl
  · rcases List.mem_map.mp h with ⟨e, _, rfl⟩
    rfl

/-
  A text tells the outcome for an entity, with all errors in
  order: as the members of JSON data, with the value that a
  mapping produced if there is one, as the rows of a table,
  one for each error or one without, or as a line for the
  verdict before one for each error.
-/
inductive Tells
    (entity : String)
    (outcome : Outcome) :
    Style → String → Prop
  | json {name : String} {errors : List String}
      (hName : Json.Spells name entity)
      (hErrors : List.Forall₂ (fun e text => Json.Spells text e)
        outcome.errors errors) :
      Tells entity outcome .json
        ("\x7b\"schema_id\":" ++
          "\"https://schemas.3leaps.dev/valkit/cli/v1/" ++
          "validation-result.schema.json\"" ++
          ",\"entity\":" ++ name ++
          ",\"isValid\":" ++ verdictWord outcome ++
          ",\"errors\":[" ++
          String.intercalate "," errors ++ "]" ++
          (match outcome.value with
            | none => ""
            | some v => ",\"value\":" ++ v.toJson.render) ++
          "\x7d\n")
  | table {drawn : String}
      (hDrawn : Table.Frames
        ((["ENTITY", "VALID", "ERROR"] ::
          tellingRows entity outcome).flatMap Table.rowPieces)
        drawn.toList) :
      Tells entity outcome .table (drawn ++ "\n")
  | pretty :
      Tells entity outcome .pretty
        (entity ++ ": " ++
          (if outcome.isValid then "valid" else "invalid") ++
          "\n" ++
          String.join (outcome.errors.map fun e =>
            "  - " ++ e ++ "\n"))

/- The report on a value tells its outcome. -/
theorem tells_render
    (entity : String)
    (outcome : Outcome)
    (style : Style) :
    Tells entity outcome style
      ((validated entity outcome).render style) := by
  cases style with
  | json =>
      have hErrors :
          List.Forall₂ (fun e text => Json.Spells text e)
            outcome.errors (outcome.errors.map Json.quote) := by
        rw [List.forall₂_map_right_iff, List.forall₂_same]
        exact fun e _ => Json.spells_quote e
      have hText : Tells entity outcome .json _ :=
        .json (Json.spells_quote entity) hErrors
      convert hText using 1
      rw [← String.toList_inj]
      rcases outcome with ⟨isValid, errors, value⟩
      -- The value is the last member, and may be left out.
      cases value <;>
        simp only [render, validatedLines, Outcome.members,
          jsonLine, verdictWord, List.cons_append,
          List.nil_append, List.append_nil, Json.render,
          Json.renderMembers, Json.renderItems_eq_map,
          Json.quote_plain "schema_id" rfl,
          Json.quote_plain
            ("https://schemas.3leaps.dev/valkit/cli/v1/" ++
              "validation-result" ++ ".schema.json") rfl,
          Json.quote_plain "entity" rfl,
          Json.quote_plain "isValid" rfl,
          Json.quote_plain "errors" rfl,
          Json.quote_plain "value" rfl] <;>
        simp [ofLines, Function.comp_def, Json.render]
  | table =>
      have hText : Tells entity outcome .table _ := .table
        (Table.frames_render
          ⟨["ENTITY", "VALID", "ERROR"],
            tellingRows entity outcome⟩
          fun _ => length_of_mem_tellingRows)
      simpa [render, validatedLines, ofLines, outcomeRows_eq,
        String.append_assoc] using hText
  | pretty =>
      have hText : Tells entity outcome .pretty _ := .pretty
      simpa [render, validatedLines, ofLines,
        Function.comp_def, String.append_assoc] using hText

end Report

end Conform
