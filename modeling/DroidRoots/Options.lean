import DroidRoots.Text.Digit

/-! The command line: options with a value each, in any order. An option's name may be cut
short as long as one option only starts with what is left. The last value given for an
option counts. -/

namespace DroidRoots

structure Options where
  classHierarchy : Text
  callGraph : Text
  settings : Text := "config/settings.yaml"
  catalog : Option Text := none
  out : Option Text := none
  logLevel : Text := "INFO"
  deriving DecidableEq, Repr

/-- How the letter for help is read with what follows it in the same argument. Both readings are in
use. -/
inductive Letters
  /-- Only the letter itself may follow, also after an equals sign. -/
  | strict
  /-- Help is given whatever follows, unless that is an equals sign or a dash. -/
  | lenient
  deriving DecidableEq, Repr

def Letters.giveHelp (after : Text) : Letters → Bool
  | strict =>
    match after with
    | [.char '='] => false
    | .char '=' :: rest | rest => rest.all (· = .char 'h')
  | lenient =>
    match after.dropWhile (· = .char 'h') with
    | .char '=' :: _ | .char '-' :: _ => false
    | _ => true

inductive EarlyExit
  | help
  | misuse
  | letters (after : Text)
  deriving DecidableEq, Repr

def EarlyExit.code (reading : Letters) : EarlyExit → Nat
  | help => 0
  | misuse => 2
  | letters after => if reading.giveHelp after then 0 else 2

namespace Options

inductive Name
  | help
  | classHierarchy
  | callGraph
  | settings
  | catalog
  | out
  | logLevel
  deriving DecidableEq, Repr

def Name.text : Name → Text
  | help => "--help"
  | classHierarchy => "--class-hierarchy"
  | callGraph => "--callgraph"
  | settings => "--settings"
  | catalog => "--catalog"
  | out => "--out"
  | logLevel => "--log-level"

def Name.all : List Name := [help, classHierarchy, callGraph, settings, catalog, out, logLevel]

inductive Argument
  | word (text : Text)
  | separator
  | option (name : Name) (attached : Option Text)
  | letters (after : Text)
  | unknown
  deriving DecidableEq, Repr

/-- A number below zero, which is no option. A line end may follow it. -/
def isNegativeNumber : Text → Bool
  | .char '-' :: body =>
    let body := if body.getLast? = some (.char '\n') then body.dropLast else body
    match body.dropWhile Text.isDecimalDigit with
    | [] => !body.isEmpty
    | .char '.' :: places => !places.isEmpty && places.all Text.isDecimalDigit
    | _ => false
  | _ => false

def splitAttached (text : Text) : Text × Option Text :=
  (text.takeWhile (· ≠ .char '='),
    match text.dropWhile (· ≠ .char '=') with
    | [] => none
    | _ :: rest => some rest)

def candidates (start : Text) : List Name :=
  Name.all.filter fun name => start.isPrefixOf name.text

/-- Fails if several options start as the argument does. -/
def argument (text : Text) : Except EarlyExit Argument :=
  let (start, attached) := splitAttached text
  let other : Argument :=
    if isNegativeNumber text || text.contains (.char ' ') then .word text else .unknown
  match text with
  | [] | [.char '-'] => .ok (.word text)
  | .char '-' :: .char '-' :: _ =>
    match Name.all.find? fun name => name.text = start with
    | some name => .ok (.option name attached)
    | none =>
      match candidates start with
      | [name] => .ok (.option name attached)
      | [] => .ok other
      | _ => .error .misuse
  | .char '-' :: .char 'h' :: rest => .ok (.letters rest)
  | .char '-' :: _ => .ok other
  | _ => .ok (.word text)

def arguments : List Text → Except EarlyExit (List Argument)
  | [] => .ok []
  | text :: rest =>
    if text = "--" then .ok (.separator :: rest.map .word)
    else do
      let first ← argument text
      let others ← arguments rest
      return first :: others

structure Given where
  values : List (Name × Text) := []
  leftOver : Bool := false

def take : Given → List Argument → Except EarlyExit Given
  | given, [] => .ok given
  | _, .letters after :: _ => .error (.letters after)
  | _, .option .help attached :: _ =>
    if attached.isNone then .error .help else .error .misuse
  | given, .option name (some value) :: rest =>
    take { given with values := (name, value) :: given.values } rest
  | given, .option name none :: .word value :: rest =>
    take { given with values := (name, value) :: given.values } rest
  | _, .option _ none :: _ => .error .misuse
  | given, _ :: rest => take { given with leftOver := true } rest

def parse (args : List Text) : Except EarlyExit Options := do
  let given ← take {} (← arguments args)
  let value (name : Name) : Option Text := given.values.lookup name
  match value .classHierarchy, value .callGraph with
  | some classHierarchy, some callGraph =>
    if given.leftOver then throw .misuse
    let defaults : Options := { classHierarchy, callGraph }
    return {
      defaults with
      settings := (value .settings).getD defaults.settings
      catalog := value .catalog
      out := value .out
      logLevel := (value .logLevel).getD defaults.logLevel }
  | _, _ => throw .misuse

end Options

end DroidRoots
