import Conform.Command.Response

/-
  This file is the program: it looks at the files that its
  arguments name, and gives the response to the arguments.

  Key definitions include:
    * `lookAt`
    * `main`
-/

namespace Conform

/- What is found under a path, with as much as may be read. -/
def lookAt
    (path : String) : IO (Except OpenError Entry) := do
  try
    let place ← IO.FS.realPath path
    let info ← place.metadata
    let size := info.byteSize.toNat
    match info.type with
    | .dir => return .ok (.directory size)
    | kind =>
        let handle ← IO.FS.Handle.mk path .read
        let limit := USize.ofNat (Location.usualMaxSize + 1)
        let bytes ← handle.read limit
        let content := Content.bytes bytes.toList
        if kind == .file then return .ok (.file size content)
        else return .ok (.device size content)
  catch e =>
    match e with
    | .inappropriateType _ _ _ => return .error .notDirectory
    | .invalidArgument _ 36 _ => return .error .tooLong
    | _ => return .error .missing

/- The files that a request looks at. -/
def filesOf : Request → IO Files
  | .perform _ command => do
      let found ← command.paths.mapM fun path =>
        return (path, ← lookAt path)
      return fun path =>
        (found.lookup path).getD (.error .missing)
  | _ => return fun _ => .error .missing

/- The response to the arguments of the program. -/
def respond
    (args : List String) : IO Response := do
  let schemaPath ← IO.getEnv Location.variableName
  let logLevel ← IO.getEnv Variables.logLevelName
  let vars : Variables := ⟨schemaPath, logLevel⟩
  let files ←
    match Request.ofArguments vars args with
    | .ok request => filesOf request
    | .error _ => pure fun _ => .error .missing
  let terminal ← (← IO.getStdout).isTty
  return Response.toArguments
    ⟨files, vars, terminal, Build.unknown⟩ args

end Conform

/- Runs the program. -/
def main
    (args : List String) : IO UInt32 := do
  let response ← Conform.respond args
  IO.print response.output
  if let some error := response.error then
    IO.eprintln error
  return UInt32.ofNat response.code
