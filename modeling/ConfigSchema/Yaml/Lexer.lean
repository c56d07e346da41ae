import ConfigSchema.Yaml.Scalar
import ConfigSchema.Yaml.Token

/-! # Splitting YAML texts into tokens

A key is only known by the colon behind it: wherever a key may start, its place among the tokens is
kept, and the colon puts the key token there. Such a key must stand on one line and span at most
1024 characters, and at the indentation of a block it must turn out to be one. -/
namespace ConfigSchema.Yaml

/-- A place where a key may have started. -/
structure PossibleKey where
  required : Bool
  /-- How many tokens stand before it. -/
  token : Nat
  index : Nat
  line : Nat
  column : Nat

structure LexState where
  tokens : Array Token := #[]
  /-- How many brackets are open. -/
  depth : Nat := 0
  /-- The column of the innermost block, and of those around it. -/
  indent : Int := -1
  outer : List Int := []
  /-- Whether a key may start here. -/
  keyAllowed : Bool := true
  /-- The possible key inside each open bracket, the innermost first, and outside of all. -/
  keys : List (Option PossibleKey) := [none]

/-- A lexer moves a cursor, collects tokens, and may fail. -/
abbrev Lex := StateT LexState Scan

namespace Lex

def push (token : Token) : Lex Unit := modify fun state =>
  { state with tokens := state.tokens.push token }

def allowKey (allowed : Bool) : Lex Unit := modify fun state => { state with keyAllowed := allowed }

def inFlow : Lex Bool := do return (← get).depth != 0

/-! ## Possible keys -/

def setKey (key : Option PossibleKey) : Lex Unit := modify fun state =>
  { state with keys := key :: state.keys.drop 1 }

/-- Gives up the possible key; a required one must not be given up. -/
def dropKey : Lex Unit := do
  if ((← get).keys.head?.join).any PossibleKey.required then failure
  setKey none

/-- Gives up all possible keys that have become too long. -/
def dropStaleKeys : Lex Unit := do
  let cursor ← getThe Cursor
  let state ← get
  let stale (key : PossibleKey) : Bool :=
    key.line < cursor.line || key.index + 1024 < cursor.index
  if state.keys.any fun key => key.any fun key => stale key && key.required then failure
  set { state with keys := state.keys.map (Option.filter fun key => !stale key) }

/-- Keeps this place as one where a key may start, if it is one. -/
def saveKey : Lex Unit := do
  let state ← get
  if state.keyAllowed then
    let cursor ← getThe Cursor
    dropKey
    setKey (some {
      required := state.depth == 0 && state.indent == cursor.column
      token := state.tokens.size
      index := cursor.index
      line := cursor.line
      column := cursor.column })

/-! ## Blocks -/

/-- Opens a block at a column, unless one is open there or brackets are. Its token goes to the given
place or to the end. -/
def openBlock (column : Nat) (place : Option Nat) (token : Token) : Lex Unit := modify fun state =>
  if state.depth == 0 && state.indent < (column : Int) then
    { state with
      indent := column
      outer := state.indent :: state.outer
      tokens := state.tokens.insertIdxIfInBounds (place.getD state.tokens.size) token }
  else state

/-- Closes the blocks that stand further right than a column, the innermost first. -/
def closedBlocks (column : Int) : (indent : Int) → (outer : List Int) → Nat × Int × List Int
  | indent, [] => (0, indent, [])
  | indent, next :: outer =>
    if indent > column then
      let (closed, rest) := closedBlocks column next outer
      (closed + 1, rest)
    else (0, indent, next :: outer)

def closeBlocks (column : Int) : Lex Unit := modify fun state =>
  if state.depth != 0 then state
  else
    let (closed, indent, outer) := closedBlocks column state.indent state.outer
    { state with indent, outer, tokens := state.tokens ++ Array.replicate closed .blockEnd }

/-! ## Directives and names -/

def directiveNumber : Scan Nat := do
  let digits ← Scan.takeWhile Char.isDigit
  if digits.isEmpty || digits.length > 9 then failure
  return digits.foldl (fun n c => n * 10 + (c.toNat - '0'.toNat)) 0

/-- The handle of a tag. In a directive it must be complete. -/
def tagHandle (complete : Bool) : Scan (List Char) := do
  if (← Scan.peek) != some '!' then failure
  Scan.skip
  let name ← Scan.takeWhile isWord
  if (← Scan.peek) == some '!' then
    Scan.skip
    return ['!'] ++ name ++ ['!']
  if complete && !name.isEmpty then failure
  return '!' :: name

def tagEscape : (bytes : Nat) → Scan (List UInt8)
  | 0 => return []
  | bytes + 1 => do
    if (← Scan.peek) != some '%' then failure
    Scan.skip
    let byte ← Scan.hexNumber 2
    if byte / 64 != 2 then failure
    return UInt8.ofNat byte :: (← tagEscape bytes)

def followers? (byte : Nat) : Option Nat :=
  if byte < 0x80 then some 0
  else if byte / 32 == 6 then some 1
  else if byte / 16 == 14 then some 2
  else if byte / 8 == 30 then some 3
  else none

/-- The characters of a tag. Brackets and commas may stand in a verbatim one only. Escapes that are
no character are left out. -/
def tagChars (verbatim : Bool) : (fuel : Nat) → Scan (List Char)
  | 0 => return []
  | fuel + 1 => do
    match ← Scan.peek with
    | none => return []
    | some c =>
      if c == '%' then
        Scan.skip
        let byte ← Scan.hexNumber 2
        let bytes := UInt8.ofNat byte :: (← tagEscape (← (followers? byte : Option Nat)))
        let chars := ((String.fromUTF8? ⟨bytes.toArray⟩).getD "").toList
        return chars ++ (← tagChars verbatim fuel)
      else if isWord c || ";/?:@&=+$.!~*'()".toList.contains c
          || (verbatim && [',', '[', ']'].contains c) then
        Scan.skip
        return c :: (← tagChars verbatim fuel)
      else return []

def tagSuffix (verbatim : Bool) (beginning : List Char) : Scan (List Char) := do
  let chars ← tagChars verbatim (← get).rest.length
  if beginning.isEmpty && chars.isEmpty then failure
  return beginning.drop 1 ++ chars

def directive : Scan Token := do
  Scan.skip
  let name ← Scan.takeWhile isWord
  if name.isEmpty || !isGap (← Scan.peek) then failure
  let token ← do
    match String.ofList name with
    | "YAML" =>
      Scan.skipBlanks
      let major ← directiveNumber
      if (← Scan.peek) != some '.' then failure
      Scan.skip
      let minor ← directiveNumber
      pure (Token.version major minor)
    | "TAG" =>
      Scan.skipBlanks
      let handle ← tagHandle true
      if !(← Scan.peek).any isBlank then failure
      Scan.skipBlanks
      let lead ← tagSuffix true []
      if !isGap (← Scan.peek) then failure
      pure (Token.tagDirective (String.ofList handle) (String.ofList lead))
    | _ => failure
  Scan.skipBlanks
  Scan.skipComment
  if !isLineEnd (← Scan.peek) then failure
  let _ ← Scan.lineBreak
  return token

def anchorName : Scan String := do
  Scan.skip
  let name ← Scan.takeWhile isWord
  let next ← Scan.peek
  if name.isEmpty || !(isGap next || next.any "?:,]\x7d%@`".toList.contains) then failure
  return String.ofList name

def tag (inFlow : Bool) : Scan Token := do
  let token ← do
    if (← Scan.peekAt 1) == some '<' then
      Scan.skipMany 2
      let suffix ← tagSuffix true []
      if (← Scan.peek) != some '>' then failure
      Scan.skip
      pure (Token.tag "" (String.ofList suffix))
    else
      let handle ← tagHandle false
      if handle.length > 1 && handle.getLast? == some '!' then
        let suffix ← tagSuffix false []
        pure (Token.tag (String.ofList handle) (String.ofList suffix))
      else
        let suffix ← tagSuffix false handle
        if suffix.isEmpty then pure (Token.tag "" "!")
        else pure (Token.tag "!" (String.ofList suffix))
  let next ← Scan.peek
  if !(isGap next || (inFlow && next == some ',')) then failure
  return token

/-! ## Tokens -/

/-- Moves to the next token, over blank space and comments. Outside brackets, a tab must not stand
where a key may start. -/
def toNext : (fuel : Nat) → Lex Unit
  | 0 => return ()
  | fuel + 1 => do
    let cursor ← getThe Cursor
    if cursor.column == 0 && cursor.rest.head? == some '\uFEFF' then Scan.skip
    let tabs := (← inFlow) || !(← get).keyAllowed
    let _ ← Scan.takeWhile fun c => c == ' ' || (tabs && c == '\t')
    Scan.skipComment
    if (← Scan.peek).any isBreak then
      let _ ← Scan.lineBreak
      if !(← inFlow) then allowKey true
      toNext fuel

/-- A directive or a mark between documents: it closes all blocks. -/
def documentToken (token : Scan Token) : Lex Unit := do
  closeBlocks (-1)
  dropKey
  allowKey false
  push (← token)

def openFlow (token : Token) : Lex Unit := do
  saveKey
  modify fun state => { state with keys := none :: state.keys, depth := state.depth + 1 }
  allowKey true
  Scan.skip
  push token

def closeFlow (token : Token) : Lex Unit := do
  dropKey
  modify fun state =>
    if state.depth == 0 then state
    else { state with keys := state.keys.drop 1, depth := state.depth - 1 }
  allowKey false
  Scan.skip
  push token

def flowEntry : Lex Unit := do
  dropKey
  allowKey true
  Scan.skip
  push .flowEntry

def blockEntry : Lex Unit := do
  if !(← inFlow) then
    if !(← get).keyAllowed then failure
    openBlock (← getThe Cursor).column none .blockSequenceStart
  dropKey
  allowKey true
  Scan.skip
  push .blockEntry

def explicitKey : Lex Unit := do
  let inFlow ← inFlow
  if !inFlow then
    if !(← get).keyAllowed then failure
    openBlock (← getThe Cursor).column none .blockMappingStart
  dropKey
  allowKey !inFlow
  Scan.skip
  push .key

/-- A colon. It makes the possible key one. -/
def value : Lex Unit := do
  match (← get).keys.head?.join with
  | some key =>
    modify fun state => { state with tokens := state.tokens.insertIdxIfInBounds key.token .key }
    openBlock key.column (some key.token) .blockMappingStart
    setKey none
    allowKey false
  | none =>
    let inFlow ← inFlow
    if !inFlow then
      if !(← get).keyAllowed then failure
      openBlock (← getThe Cursor).column none .blockMappingStart
    allowKey !inFlow
  Scan.skip
  push .value

/-- A token at which a key may start and behind which none does. -/
def keyToken (token : Scan Token) : Lex Unit := do
  saveKey
  allowKey false
  push (← token)

/-- A block scalar. -/
def blockScalar (literal : Bool) : Lex Unit := do
  dropKey
  allowKey true
  let indent := (← get).indent
  push (.scalar (← Scan.block literal indent) false)

/-- A plain scalar. Behind its last line break a key may start. -/
def plainScalar : Lex Unit := do
  saveKey
  allowKey false
  let state ← get
  let (text, broken) ← Scan.plain (state.depth != 0) (state.indent + 1).toNat
  if broken then allowKey true
  push (.scalar text true)

def streamEnd : Lex Unit := do
  modifyThe Cursor fun cursor =>
    if cursor.column == 0 then cursor else { cursor with column := 0, line := cursor.line + 1 }
  closeBlocks (-1)
  dropKey
  allowKey false
  push .streamEnd

/-- Characters that mean something at the start of a token. -/
def indicators : List Char := "-?:,[]\x7b\x7d#&*!|>'\"%@`".toList

/-- Reads the next token from its first character on. -/
def tokenAt (c : Char) : Lex Unit := do
  let atLineStart := (← getThe Cursor).column == 0
  let next ← Scan.peekAt 1
  let inFlow ← inFlow
  if c == '%' && atLineStart then documentToken directive
  else if ← Scan.atDocumentMark then
    documentToken do
      Scan.skipMany 3
      return if c == '-' then .documentStart else .documentEnd
  else if c == '[' then openFlow .flowSequenceStart
  else if c == '{' then openFlow .flowMappingStart
  else if c == ']' then closeFlow .flowSequenceEnd
  else if c == '}' then closeFlow .flowMappingEnd
  else if c == ',' then flowEntry
  else if c == '-' && isGap next then blockEntry
  else if c == '?' && (inFlow || isGap next) then explicitKey
  else if c == ':' && (inFlow || isGap next) then value
  else if c == '*' then keyToken (Token.reference <$> anchorName)
  else if c == '&' then keyToken (Token.anchor <$> anchorName)
  else if c == '!' then keyToken (tag inFlow)
  else if c == '|' && !inFlow then blockScalar true
  else if c == '>' && !inFlow then blockScalar false
  else if c == '\'' || c == '"' then keyToken do return .scalar (← Scan.quoted c) false
  else if !(isBlank c || indicators.contains c) || (c == '-' && !next.any isBlank)
      || (!inFlow && (c == '?' || c == ':') && !isGap next) then plainScalar
  else failure

def all : (fuel : Nat) → Lex Unit
  | 0 => failure
  | fuel + 1 => do
    toNext ((← getThe Cursor).rest.length + 1)
    dropStaleKeys
    closeBlocks (← getThe Cursor).column
    match ← Scan.peek with
    | none => streamEnd
    | some c =>
      tokenAt c
      all fuel

end Lex

/-- The tokens of a text. A mark of byte order in front is no part of it. -/
def tokens? (text : String) : Option (List Token) := do
  let chars := text.toList
  if !chars.all isAllowed then none
  let chars := if chars.head? == some '\uFEFF' then chars.drop 1 else chars
  let ((_, state), _) ← ((Lex.all (chars.length + 2)).run {}).run { rest := chars }
  return state.tokens.toList

end ConfigSchema.Yaml
