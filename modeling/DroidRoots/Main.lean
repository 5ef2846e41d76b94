import DroidRoots.Command

/-! The program: it gathers the files that a command names, lets the command decide, and
carries out what it decided. -/

namespace DroidRoots

def usage : String :=
  "usage: droid-roots --class-hierarchy FILE --callgraph FILE [--settings FILE] " ++
    "[--catalog FILE] [--out FILE] [--log-level LEVEL]"

def gather (files : FileTree) (name : Text) : IO FileTree := do
  let path := Path.ofText name
  if path.objection?.isSome then return files
  let mut files := files
  let mut place := path.start
  for n in List.range path.parts.length do
    let part : Path := { path with parts := path.parts.take (n + 1) }
    place := place.enter part.name
    match ← (IO.FS.readBinFile part.text.display).toBaseIO with
    | .ok content =>
      files := files.put place (.file content)
      return files
    | .error (.noFileOrDirectory ..) => return files
    | .error _ => if !place.parts.isEmpty then files := files.put place .directory
  return files

def freshRun : IO Text := do
  let digits ← (List.range 32).mapM fun _ => IO.rand 0 15
  return digits.flatMap Text.hexDigits

def world (args : List Text) : IO World := do
  let catalog ← IO.getEnv "LIFECYCLE_CATALOG_PATH"
  let endpoint ← IO.getEnv "OTEL_EXPORTER_OTLP_ENDPOINT"
  let w : World :=
    { files := .empty, catalog := catalog.map Text.of, endpoint := endpoint.map Text.of,
      run := ← freshRun }
  match Options.parse args with
  | .error _ => return w
  | .ok o =>
    let w := { w with files := ← (Command.namedFiles o).foldlM gather w.files }
    match Command.catalogFile? w o with
    | none => return w
    | some name => return { w with files := ← gather w.files name }

def save (written : Written) : IO Unit := do
  let directory := written.path.parent
  if directory.parts ≠ [] then IO.FS.createDirAll directory.text.display
  IO.FS.writeFile written.path.text.display written.text.display

def carryOut (outcome : Outcome) : IO UInt32 := do
  for notice in outcome.notices do IO.eprintln notice.line.display
  if let some written := outcome.written then save written
  IO.print outcome.output.display
  match outcome.ending with
  | .finished => return 0
  | .exited 0 =>
    IO.println usage
    return 0
  | .exited code =>
    IO.eprintln usage
    return code.toUInt32
  | .failed fault =>
    IO.eprintln fault.message.display
    return 1
  | .unprinted =>
    IO.eprintln "a path cannot be printed"
    return 1

end DroidRoots

def main (args : List String) : IO UInt32 := do
  let args := args.map DroidRoots.Text.of
  let w ← DroidRoots.world args
  DroidRoots.carryOut (DroidRoots.Command.run w args)
