import DroidRoots.Files.Document

/-! Settings: the defaults, overlaid with a settings file and with the catalog that the
environment or the command line names. -/

namespace DroidRoots

structure Settings where
  sections : List (Scalar × Value)
  knots : Knots := []

namespace Settings

def document (settings : Settings) : Document := ⟨.object settings.sections, settings.knots⟩

def defaults : Settings where
  sections :=
    [(.text "lifecycle", .record [("catalog_path", .null)]),
      (.text "telemetry", .record [("enabled", .bool false)])]

/-- A mapping is merged into a mapping that is there; anything else takes its place. -/
def overlayEntry (knots : Knots) (sections : List (Scalar × Value)) (key : Scalar)
    (value : Value) : List (Scalar × Value) :=
  match knots.untie value, Value.lookup? key sections with
  | .object new, some (.object old) =>
    Value.put key (.object (new.foldl (fun done e => Value.put e.1 e.2 done) old)) sections
  | _, _ => Value.put key value sections

def overlay (sections : List (Scalar × Value)) (loaded : Settings) : Settings :=
  { loaded with
    sections := loaded.sections.foldl (fun done e => overlayEntry loaded.knots done e.1 e.2)
      sections }

def withCatalog (path : Text) (settings : Settings) : Except Fault Settings :=
  match settings.knots.untie (Value.fieldD "lifecycle" settings.sections (.object [])) with
  | .object own =>
    let named := Value.object (Value.put (.text "catalog_path") (.text path) own)
    .ok { settings with sections := Value.put (.text "lifecycle") named settings.sections }
  | _ => .error .expectedMapping

/-- An empty path names no catalog. -/
def withCatalog? (path : Option Text) (settings : Settings) : Except Fault Settings :=
  match path with
  | none | some [] => .ok settings
  | some path => settings.withCatalog path

/-- What a settings file says; a value that counts as missing says nothing. -/
def ofDocument (path : Text) (d : Document) : Except Fault Settings :=
  if !d.isPresent then .ok { sections := [] }
  else match d.top with
    | .object sections => .ok { sections, knots := d.knots }
    | _ => .error (.settingsNotMapping path)

def ofFile (files : FileTree) : Option Text → Except Fault Settings
  | none | some [] => .ok defaults
  | some name => do
    let path := Path.ofText name
    if ← files.exists path then
      return overlay defaults.sections (← ofDocument path.text (← files.readYaml path))
    else return defaults

def load (files : FileTree) (catalog : Option Text) (file : Option Text) :
    Except Fault Settings := do
  (← ofFile files file).withCatalog? catalog

def fieldOf (knots : Knots) (name : Text) (default value : Value) : Except Fault Value :=
  match knots.untie value with
  | .object fields => .ok (Value.fieldD name fields default)
  | _ => .error .expectedObject

def catalogPath (settings : Document) : Except Fault Value := do
  let lifecycle ← fieldOf settings.knots "lifecycle" (.object []) settings.root
  fieldOf settings.knots "catalog_path" .null lifecycle

end Settings

end DroidRoots
