import ConfigSchema.Yaml.Lexer

/-! # YAML nodes

Anchors are numbered by how many names have been anchored before; anchoring a name again does not
make another name, so two anchors can have one number, and an alias leads to the last node of its
number. -/
namespace ConfigSchema.Yaml

structure Properties where
  anchor : Option Nat := none
  tag : Option String := none

/-- A node. Of a scalar it is known whether it is plain. -/
inductive Node
  | reference (anchor : Nat)
  | scalar (properties : Properties) (text : String) (plain : Bool)
  | sequence (properties : Properties) (items : List Node)
  | mapping (properties : Properties) (entries : List (Node × Node))

structure NodeState where
  tokens : List Token
  /-- The tag directives, as handles and what they stand for. -/
  handles : List (String × String) := []
  /-- The numbers of anchored names, the latest first. -/
  anchors : List (String × Nat) := []

abbrev NodeScan := StateT NodeState Option

namespace NodeScan

def peek : NodeScan Token := do
  match (← get).tokens with
  | [] => failure
  | token :: _ => return token

def skip : NodeScan Unit := modify fun state => { state with tokens := state.tokens.drop 1 }

/-- Moves over a token, which must be there. -/
def expect (token : Token) : NodeScan Unit := do
  if (← peek) != token then failure
  skip

/-- A scalar that is not written at all. -/
def absent : Node := .scalar {} "" true

/-! ## Properties -/

def anchorNumber (name : String) : NodeScan Nat := do
  let state ← get
  let others := state.anchors.filter fun anchor => anchor.1 != name
  let number := state.anchors.length
  set { state with anchors := (name, number) :: others }
  return number

def fullTag (handle suffix : String) : NodeScan String := do
  if handle.isEmpty then return suffix
  let lead ← ((← get).handles.lookup handle : Option String)
  return lead ++ suffix

def anchor? : NodeScan (Option Nat) := do
  match ← peek with
  | .anchor name =>
    skip
    return some (← anchorNumber name)
  | _ => return none

def tag? : NodeScan (Option String) := do
  match ← peek with
  | .tag handle suffix =>
    skip
    return some (← fullTag handle suffix)
  | _ => return none

/-- The properties of a node: an anchor and a tag in either order. -/
def properties : NodeScan Properties := do
  match ← anchor? with
  | some anchor => return { anchor := some anchor, tag := ← tag? }
  | none =>
    match ← tag? with
    | some tag => return { anchor := ← anchor?, tag := some tag }
    | none => return {}

/-! ## Nodes -/

/-- Whether a block entry or a value has nothing in it, by the token behind its mark. -/
def endsEntry : Token → Bool
  | .blockEntry | .blockEnd => true
  | _ => false

/-- Whether a key or value in a block mapping is missing. -/
def endsPair : Token → Bool
  | .key | .value | .blockEnd => true
  | _ => false

/-- Whether an entry of a sequence without indentation is missing. -/
def endsIndentless (token : Token) : Bool := endsEntry token || endsPair token

mutual

/-- A node. In a block it may be a block, and inside a mapping also a sequence that is not indented
further. -/
def node : (fuel : Nat) → (block indentless : Bool) → NodeScan Node
  | 0, _, _ => failure
  | fuel + 1, block, indentless => do
    if let .reference name ← peek then
      skip
      return .reference (← ((← get).anchors.lookup name : Option Nat))
    let properties ← properties
    match ← peek with
    | .blockEntry =>
      if indentless then return .sequence properties (← indentlessItems fuel)
      else emptyNode properties
    | .scalar text plain =>
      skip
      if properties.tag == some "!" then return .scalar { properties with tag := none } text plain
      return .scalar properties text plain
    | .flowSequenceStart =>
      skip
      return .sequence properties (← flowItems fuel true)
    | .flowMappingStart =>
      skip
      return .mapping properties (← flowEntries fuel true)
    | .blockSequenceStart =>
      if !block then emptyNode properties
      else
        skip
        return .sequence properties (← blockItems fuel)
    | .blockMappingStart =>
      if !block then emptyNode properties
      else
        skip
        return .mapping properties (← blockEntries fuel)
    | _ => emptyNode properties

def emptyNode (properties : Properties) : NodeScan Node :=
  if properties.anchor.isNone && properties.tag.isNone then failure
  else return .scalar properties "" true

def blockItems : (fuel : Nat) → NodeScan (List Node)
  | 0 => failure
  | fuel + 1 => do
    match ← peek with
    | .blockEnd =>
      skip
      return []
    | .blockEntry =>
      skip
      let item ← if endsEntry (← peek) then pure absent else node fuel true false
      return item :: (← blockItems fuel)
    | _ => failure

def indentlessItems : (fuel : Nat) → NodeScan (List Node)
  | 0 => failure
  | fuel + 1 => do
    match ← peek with
    | .blockEntry =>
      skip
      let item ← if endsIndentless (← peek) then pure absent else node fuel true false
      return item :: (← indentlessItems fuel)
    | _ => return []

def blockEntries : (fuel : Nat) → NodeScan (List (Node × Node))
  | 0 => failure
  | fuel + 1 => do
    match ← peek with
    | .blockEnd =>
      skip
      return []
    | .key =>
      skip
      let key ← if endsPair (← peek) then pure absent else node fuel true true
      let value ←
        if (← peek) == .value then
          skip
          if endsPair (← peek) then pure absent else node fuel true true
        else pure absent
      return (key, value) :: (← blockEntries fuel)
    | _ => failure

/-- The items of a sequence in brackets. An item may be a single pair. -/
def flowItems : (fuel : Nat) → (first : Bool) → NodeScan (List Node)
  | 0, _ => failure
  | fuel + 1, first => do
    if (← peek) == .flowSequenceEnd then
      skip
      return []
    if !first then expect .flowEntry
    match ← peek with
    | .flowSequenceEnd =>
      skip
      return []
    | .key =>
      skip
      let pair ← flowPair fuel
      return .mapping {} [pair] :: (← flowItems fuel false)
    | _ =>
      let item ← node fuel false false
      return item :: (← flowItems fuel false)

/-- A single pair in a sequence, after the mark of its key. Where no key follows, one token is
passed over. -/
def flowPair : (fuel : Nat) → NodeScan (Node × Node)
  | 0 => failure
  | fuel + 1 => do
    let key ←
      match ← peek with
      | .value | .flowEntry | .flowSequenceEnd =>
        skip
        pure absent
      | _ => node fuel false false
    return (key, ← flowValue fuel .flowSequenceEnd)

def flowValue : (fuel : Nat) → (close : Token) → NodeScan Node
  | 0, _ => failure
  | fuel + 1, close => do
    if (← peek) != .value then return absent
    skip
    let next ← peek
    if next == .flowEntry || next == close then return absent
    node fuel false false

/-- The entries of a mapping in braces. A node without a mark of a key is one without a value. -/
def flowEntries : (fuel : Nat) → (first : Bool) → NodeScan (List (Node × Node))
  | 0, _ => failure
  | fuel + 1, first => do
    if (← peek) == .flowMappingEnd then
      skip
      return []
    if !first then expect .flowEntry
    match ← peek with
    | .flowMappingEnd =>
      skip
      return []
    | .key =>
      skip
      let key ←
        match ← peek with
        | .value | .flowEntry | .flowMappingEnd => pure absent
        | _ => node fuel false false
      let value ← flowValue fuel .flowMappingEnd
      return (key, value) :: (← flowEntries fuel false)
    | _ =>
      let key ← node fuel false false
      return (key, absent) :: (← flowEntries fuel false)

end

/-! ## Documents -/

/-- The handles that need no directive. -/
def standardHandles : List (String × String) := [("!", "!"), ("!!", "tag:yaml.org,2002:")]

def directives : (fuel : Nat) → (version : Bool) → NodeScan Unit
  | 0, _ => return ()
  | fuel + 1, version => do
    match ← peek with
    | .version major minor =>
      if version || major != 1 || (minor != 1 && minor != 2) then failure
      skip
      directives fuel true
    | .tagDirective handle lead =>
      let state ← get
      if (state.handles.lookup handle).isSome then failure
      set { state with handles := state.handles ++ [(handle, lead)] }
      skip
      directives fuel version
    | _ => return ()

/-- The node behind a mark of a document, which may have nothing in it. -/
def marked (fuel : Nat) : NodeScan Node := do
  match ← peek with
  | .version _ _ | .tagDirective _ _ | .documentStart | .documentEnd | .streamEnd => return absent
  | _ => node fuel true false

/-- Moves over the marks at the end of a document. -/
def documentEnds : (fuel : Nat) → NodeScan Unit
  | 0 => return ()
  | fuel + 1 => do
    if (← peek) == .documentEnd then
      skip
      documentEnds fuel

/-- The only document of a stream, or nothing if the stream is empty. Behind directives, the mark
of a document must stand. -/
def stream : NodeScan (Option Node) := do
  let fuel := 4 * (← get).tokens.length + 4
  match ← peek with
  | .streamEnd => return none
  | .version _ _ | .tagDirective _ _ | .documentStart =>
    directives fuel false
    expect .documentStart
    modify fun state => { state with handles := state.handles ++ standardHandles }
    let document ← marked fuel
    documentEnds fuel
    expect .streamEnd
    return some document
  | _ =>
    modify fun state => { state with handles := standardHandles }
    let document ← node fuel true false
    documentEnds fuel
    expect .streamEnd
    return some document

end NodeScan

/-- The node that a text holds. A text without any holds a null. -/
def Node.parse? (text : String) : Option Node := do
  let (node, _) ← NodeScan.stream.run { tokens := ← tokens? text }
  return node.getD NodeScan.absent

end ConfigSchema.Yaml
