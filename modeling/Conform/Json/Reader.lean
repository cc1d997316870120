import Conform.Json.Token

/-
  This file reads JSON text. The tokens are taken one by one
  by a machine that keeps the arrays and objects still open
  on a stack. The last of several members with one name
  counts.

  Key definitions include:
    * `Json.Frame`
    * `Json.Stage`
    * `Json.Reading`
    * `Json.Reading.step?`
    * `Json.documentDepth`
    * `Json.parse?`
-/

namespace Conform

namespace Json

/-
  An open array with the items read so far, last first, or
  an open object with the members read so far and the name
  of the member whose data is due.
-/
inductive Frame
  | items (done : List Json)
  | members (done : List (String × Json)) (name : String)

/- What has just been read, and so what may follow. -/
inductive Stage
  | valueDue
  | arrayOpened
  | objectOpened
  | nameDue (done : List (String × Json))
  | colonDue (done : List (String × Json)) (name : String)
  | complete (j : Json)

/- The stage that reading has reached, and what is open. -/
structure Reading where
  stage : Stage
  stack : List Frame

namespace Reading

/-
  Takes a token where data is due. Arrays and objects may be
  open inside one another up to a limit.
-/
def open?
    (limit : Nat)
    (stack : List Frame) : Token → Option Reading
  | .literal j => some ⟨.complete j, stack⟩
  | .text s => some ⟨.complete (.string s), stack⟩
  | .openArray =>
      if stack.length < limit then
        some ⟨.arrayOpened, .items [] :: stack⟩
      else none
  | .openObject =>
      if stack.length < limit then
        some ⟨.objectOpened, stack⟩
      else none
  | _ => none

/- Takes a token after complete data. -/
def close?
    (j : Json) : List Frame → Token → Option Reading
  | .items done :: stack, .comma =>
      some ⟨.valueDue, .items (j :: done) :: stack⟩
  | .items done :: stack, .closeArray =>
      some ⟨.complete (.array (j :: done).reverse), stack⟩
  | .members done name :: stack, .comma =>
      some ⟨.nameDue (Fields.insert name j done), stack⟩
  | .members done name :: stack, .closeObject =>
      some ⟨.complete (.object (Fields.insert name j done)),
        stack⟩
  | _, _ => none

/- Takes a token. -/
def step?
    (limit : Nat)
    (r : Reading)
    (token : Token) : Option Reading :=
  match r.stage, token with
  | .valueDue, token => open? limit r.stack token
  | .arrayOpened, .closeArray =>
      some ⟨.complete (.array []), r.stack.drop 1⟩
  | .arrayOpened, token => open? limit r.stack token
  | .objectOpened, .closeObject =>
      some ⟨.complete (.object []), r.stack⟩
  | .objectOpened, .text name =>
      some ⟨.colonDue [] name, r.stack⟩
  | .nameDue done, .text name =>
      some ⟨.colonDue done name, r.stack⟩
  | .colonDue done name, .colon =>
      some ⟨.valueDue, .members done name :: r.stack⟩
  | .complete j, token => close? j r.stack token
  | _, _ => none

/- The data of a reading that is complete. -/
def finish? : Reading → Option Json
  | ⟨.complete j, []⟩ => some j
  | _ => none

end Reading

/- The deepest nesting that a document may have. -/
def documentDepth : Nat :=
  127

/- The data that a text denotes, nested up to a limit. -/
def parse?
    (limit : Nat)
    (text : String) : Option Json := do
  let tokens ← Token.scanAll? text
  let last ← tokens.foldlM (Reading.step? limit)
    ⟨.valueDue, []⟩
  last.finish?

end Json

end Conform
