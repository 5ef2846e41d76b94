import DroidRoots.Yaml.Graph
import DroidRoots.Yaml.Token

/-! The nodes of a YAML document, read from its tokens. An alias stands for the node that was
anchored under its name, be it still open; a name is anchored once. -/

namespace DroidRoots.Yaml.Node

structure Reading where
  scanner : Scanner
  graph : Graph := {}
  anchors : List (String × Nat) := []
  handles : List (String × String) := []

abbrev Reader := StateT Reading (Except Fault)

def next? : Reader (Option Token) := do
  let s ← (← get).scanner.fill Scanner.lookAhead
  modify fun r => { r with scanner := s }
  return s.tokens.head?

def drop : Reader Unit := modify fun r => { r with scanner := r.scanner.take }

def fail {α : Type} : Reader α := throw .malformedYaml

def isNext (accept : Token → Bool) : Reader Bool := return (← next?).any accept

def fullTag (tag : Tag) : Reader String := do
  match tag.handle with
  | none => return tag.suffix
  | some handle =>
    match (← get).handles.lookup handle with
    | some stem => return stem ++ tag.suffix
    | none => fail

structure Properties where
  anchor : Option String := none
  tag : Option Tag := none

def properties : Reader Properties := do
  match ← next? with
  | some (.anchor name) =>
    drop
    match ← next? with
    | some (.tag tag) =>
      drop
      return { anchor := some name, tag := some tag }
    | _ => return { anchor := some name }
  | some (.tag tag) =>
    drop
    match ← next? with
    | some (.anchor name) =>
      drop
      return { anchor := some name, tag := some tag }
    | _ => return { tag := some tag }
  | _ => return {}

def isAnchored (name : String) : Reader Bool := return ((← get).anchors.lookup name).isSome

def add (anchor : Option String) (node : Node) : Reader Nat := do
  let place := (← get).graph.size
  if let some name := anchor then
    if ← isAnchored name then fail
    modify fun r => { r with anchors := (name, place) :: r.anchors }
  modify fun r => { r with graph := r.graph.push node }
  return place

def isAlone (tag : Option String) : Bool := tag = some "!"

/-- The kind of a collection: a tag that says nothing but that there is one is dropped. -/
def kindOf (plain : Kind) (tag : Option String) : Kind :=
  match tag with
  | none => plain
  | some name => if isAlone tag then plain else .ofTag name

/-- A lone exclamation mark makes even a quoted scalar count as plain. -/
def scalarOf (tag : Option String) (plain : Bool) (text : Text) : Node :=
  let shown : Kind := if isAlone tag || (plain && tag.isNone) then .ofText text else .text
  ⟨kindOf shown tag, .scalar text⟩

def empty : Reader Nat := add none ⟨.null, .scalar []⟩

def listOf (anchor tag : Option String) (items : Reader (List Nat)) : Reader Nat := do
  let place ← add anchor ⟨kindOf .list tag, .list []⟩
  let items ← items
  modify fun r => { r with graph := r.graph.setShape place (.list items) }
  return place

def mapOf (anchor tag : Option String) (entries : Reader (List (Nat × Nat))) : Reader Nat := do
  let place ← add anchor ⟨kindOf .map tag, .map []⟩
  let entries ← entries
  modify fun r => { r with graph := r.graph.setShape place (.map entries) }
  return place

def bare (anchor tag : Option String) : Reader Nat :=
  if anchor.isNone && tag.isNone then fail
  else add anchor ⟨kindOf .null tag, .scalar []⟩

inductive Place
  | flow
  | block
  /-- Below a key, where a list needs no deeper indentation. -/
  | belowKey
  deriving DecidableEq

def endsDash (inKey : Bool) : Option Token → Bool
  | some .dash | some .blockEnd => true
  | some .key | some .value => inKey
  | _ => false

def endsKey : Option Token → Bool
  | some .key | some .value | some .blockEnd => true
  | _ => false

def endsPair (closing : Token) (token : Option Token) : Bool :=
  token = some .comma || token = some closing

def deepest : Nat := 490

mutual

/-- A node and what follows it. The first number bounds how far the reading goes; each step
of it takes a token, so no text exceeds it. The second is how deep the node may go. -/
def node : Nat → Nat → Place → Reader Nat
  | 0, _, _ => fail
  | _, 0, _ => throw .tooDeep
  | fuel + 1, room + 1, place => do
    if let some (.alias name) ← next? then
      drop
      match (← get).anchors.lookup name with
      | some node => return node
      | none => fail
    else
      let p ← properties
      let tag ← p.tag.mapM fullTag
      match ← next? with
      | some .dash =>
        if place = .belowKey then listOf p.anchor tag (dashes fuel room true [])
        else bare p.anchor tag
      | some (.scalar plain text) =>
        drop
        add p.anchor (scalarOf tag plain text)
      | some .openList =>
        listOf p.anchor tag do
          drop
          listItems fuel room []
      | some .openMap =>
        mapOf p.anchor tag do
          drop
          mapEntries fuel room []
      | some .sequenceStart =>
        if place = .flow then bare p.anchor tag
        else listOf p.anchor tag do
          drop
          dashes fuel room false []
      | some .mappingStart =>
        if place = .flow then bare p.anchor tag
        else mapOf p.anchor tag do
          drop
          blockEntries fuel room []
      | _ => bare p.anchor tag

/-- The items of a block list after those already read, which come last first. The list ends
with its block or, below a key, where no other dash follows. -/
def dashes : Nat → Nat → Bool → List Nat → Reader (List Nat)
  | 0, _, _, _ => fail
  | fuel + 1, room, belowKey, done => do
    if ← isNext (· = .dash) then
      drop
      let item ← if endsDash belowKey (← next?) then empty else node fuel room .block
      dashes fuel room belowKey (item :: done)
    else if belowKey then return done.reverse
    else if ← isNext (· = .blockEnd) then do
      drop
      return done.reverse
    else fail

def blockEntries : Nat → Nat → List (Nat × Nat) → Reader (List (Nat × Nat))
  | 0, _, _ => fail
  | fuel + 1, room, done => do
    if ← isNext (· = .key) then
      drop
      let key ← if endsKey (← next?) then empty else node fuel room .belowKey
      let value ← blockValue fuel room
      blockEntries fuel room ((key, value) :: done)
    else if ← isNext (· = .blockEnd) then do
      drop
      return done.reverse
    else fail

def blockValue : Nat → Nat → Reader Nat
  | 0, _ => fail
  | fuel + 1, room => do
    if ← isNext (· = .value) then
      drop
      if endsKey (← next?) then empty else node fuel room .belowKey
    else empty

def flowPart : Nat → Nat → Token → Bool → Reader Nat
  | 0, _, _, _ => fail
  | fuel + 1, room, closing, isKey => do
    let token ← next?
    if endsPair closing token || (isKey && token = some .value) then empty
    else node fuel room .flow

def flowValue : Nat → Nat → Token → Reader Nat
  | 0, _, _ => fail
  | fuel + 1, room, closing => do
    if ← isNext (· = .value) then
      drop
      flowPart fuel room closing false
    else empty

def flowPair : Nat → Nat → Token → Reader (Nat × Nat)
  | 0, _, _ => fail
  | fuel + 1, room, closing => do
    let key ← flowPart fuel room closing true
    let value ← flowValue fuel room closing
    return (key, value)

def listItems : Nat → Nat → List Nat → Reader (List Nat)
  | 0, _, _ => fail
  | fuel + 1, room, done => do
    if ← isNext (· = .closeList) then
      drop
      return done.reverse
    else
      unless done.isEmpty do
        if ← isNext (· = .comma) then drop else fail
      if ← isNext (· = .key) then
        if room = 0 then throw .tooDeep
        let item ← mapOf none none do
          drop
          return [← flowPair fuel (room - 1) .closeList]
        listItems fuel room (item :: done)
      else if ← isNext (· = .closeList) then
        drop
        return done.reverse
      else
        let item ← node fuel room .flow
        listItems fuel room (item :: done)

def mapEntries : Nat → Nat → List (Nat × Nat) → Reader (List (Nat × Nat))
  | 0, _, _ => fail
  | fuel + 1, room, done => do
    if ← isNext (· = .closeMap) then
      drop
      return done.reverse
    else
      unless done.isEmpty do
        if ← isNext (· = .comma) then drop else fail
      if ← isNext (· = .key) then
        drop
        let entry ← flowPair fuel room .closeMap
        mapEntries fuel room (entry :: done)
      else if ← isNext (· = .closeMap) then
        drop
        return done.reverse
      else
        let key ← node fuel room .flow
        let value ← empty
        mapEntries fuel room ((key, value) :: done)

end

def standardHandles : List (String × String) := [("!", "!"), ("!!", Kind.tagStem)]

def directives (version : Bool) (handles : List (String × String)) :
    Nat → Reader (List (String × String))
  | 0 => fail
  | fuel + 1 => do
    match ← next? with
    | some (.directive d) =>
      drop
      match d with
      | .version major =>
        if version || major ≠ 1 then fail else directives true handles fuel
      | .abbreviation handle stem =>
        if (handles.lookup handle).isSome then fail
        else directives version ((handle, stem) :: handles) fuel
      | .other => directives version handles fuel
    | _ => return handles ++ standardHandles

def documentStart (fuel : Nat) : Reader Unit := do
  let handles ← directives false [] fuel
  if ← isNext (· = .documentStart) then
    drop
    modify fun r => { r with handles }
  else fail

def marked (fuel : Nat) : Reader Nat := do
  documentStart fuel
  match ← next? with
  | none | some (.directive _) | some .documentStart | some .documentEnd => empty
  | _ => node fuel deepest .block

def dropEnds : Nat → Reader Unit
  | 0 => fail
  | fuel + 1 => do
    if ← isNext (· = .documentEnd) then
      drop
      dropEnds fuel

def only? (fuel : Nat) : Reader (Option Nat) := do
  match ← next? with
  | none => return none
  | some token =>
    let root ← match token with
      | .directive _ | .documentStart => marked fuel
      | _ =>
        modify fun r => { r with handles := standardHandles }
        node fuel deepest .block
    dropEnds fuel
    if (← next?).isNone then return some root
    documentStart fuel
    fail

def ofSource (source : Source) : Except Fault (Graph × Option Nat) := do
  let fuel := 4 * source.text.length + 8
  let (root, reading) ← (only? fuel).run { scanner := .ofSource source }
  return (reading.graph, root)

end DroidRoots.Yaml.Node
