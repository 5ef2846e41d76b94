import DroidRoots.Console
import DroidRoots.Json.Printer
import DroidRoots.Options
import DroidRoots.Run
import DroidRoots.Telemetry
import DroidRoots.Text.Upper

/-! The command: options, settings and one run, whose report is printed or written to a
file. Nothing is printed or written unless the whole run succeeds. A file is written before
anything is printed. -/

namespace DroidRoots

structure World where
  files : FileTree
  /-- The catalog and the endpoint that the environment names. -/
  catalog : Option Text := none
  endpoint : Option Text := none
  /-- The identity that the run is given. -/
  run : Text
  console : Console := .utf8
  letters : Letters := .lenient

inductive Ending
  | finished
  | exited (code : Nat)
  | failed (fault : Fault)
  /-- The output does not take what is to be printed. -/
  | unprinted
  deriving DecidableEq, Repr

structure Written where
  path : Path
  location : Location
  text : Text
  deriving DecidableEq, Repr

structure Outcome where
  ending : Ending
  output : Text := []
  written : Option Written := none
  notices : List Notice := []
  spans : List Span := []

namespace Command

/-- The least weight of the notices that a level shows. -/
def levels : List (Text × Nat) :=
  [("CRITICAL", 50), ("FATAL", 50), ("ERROR", 40), ("WARN", 30), ("WARNING", 30), ("INFO", 20),
    ("DEBUG", 10), ("NOTSET", 0)]

def threshold (level : Text) : Except Fault Nat :=
  let name := Text.upper level
  match levels.lookup name with
  | some weight => .ok weight
  | none => .error (.unknownLevel (Text.quoted name))

structure Plan where
  threshold : Nat
  settings : Settings
  exporter : Option Telemetry.Exporter

/-- All that is settled before the run. The catalog of the command line goes before that of
the environment, which goes before that of the settings file. -/
def plan (w : World) (o : Options) : Except Fault Plan := do
  let threshold ← threshold o.logLevel
  let settings ← Settings.load w.files w.catalog (some o.settings)
  let settings ← settings.withCatalog? o.catalog
  let exporter ← Telemetry.exporter? w.endpoint settings.document
  return { threshold, settings, exporter }

def render (r : RunReport) : Text := Json.pretty r.toValue

def deliver (files : FileTree) (out : Option Text) (r : RunReport) :
    Except Fault (Text × Option Written) :=
  match out with
  | none | some [] => .ok (render r ++ "\n", none)
  | some name => do
    let path := Path.ofText name
    let location ← (← files.prepare path).target path
    let count := Text.ofNat r.report.entryPoints.size
    let line := count ++ " entry points written to " ++ path.text ++ "\n"
    return (line, some { path, location, text := render r })

/-- How a command ends after its run, with what it prints and the file that it has written before
that. -/
def told (w : World) (out : Option Text) (result : Except Fault RunReport) :
    Ending × Text × Option Written :=
  match result.bind (deliver w.files out) with
  | .error fault => (.failed fault, [], none)
  | .ok (output, written) =>
    if w.console.takes output then (.finished, output, written) else (.unprinted, [], written)

def execute (w : World) (o : Options) (p : Plan) : Outcome :=
  let (result, state) :=
    (Run.report w.files w.run p.settings.document o.classHierarchy o.callGraph).run.run {}
  let (ending, output, written) := told w o.out result
  let notices := state.notices.filter fun notice => p.threshold ≤ notice.weight
  { ending, output, written, notices, spans := state.spans }

def namedFiles (o : Options) : List Text :=
  [o.settings, o.classHierarchy, o.callGraph] ++ o.out.toList

def catalogFile? (w : World) (o : Options) : Option Text :=
  match (plan w o).bind fun p => Settings.catalogPath p.settings.document with
  | .ok (.text name) => some name
  | _ => none

def run (w : World) (args : List Text) : Outcome :=
  match Options.parse args with
  | .error exit => { ending := .exited (exit.code w.letters) }
  | .ok o =>
    match plan w o with
    | .error fault => { ending := .failed fault }
    | .ok p => execute w o p

end Command

end DroidRoots
