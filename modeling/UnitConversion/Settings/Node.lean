import UnitConversion.Settings.Tag
import UnitConversion.Settings.Token

/-!
# Nodes of a settings file

The tokens of a text form a graph of scalars, sequences and mappings. A node may be tagged, and it may
be named by an anchor and used again by that name, also inside of itself. So nodes refer to each other
by number. A text holds at most one document.

Each reader takes tokens from the front of the list and gives the number of the node that it has read.
Its number of rounds is bounded by the number of tokens.

* `Document.ofText`: the document of a text.
-/

namespace UnitConversion.Settings

/-- What a node is made of. Its parts are numbers of nodes. -/
inductive Content where
  | scalar (text : Text)
  | sequence (items : List Nat)
  | mapping (entries : List (Nat × Nat))

structure Node where
  tag : Tag
  content : Content

/-- A node where there is nothing to read. -/
def Node.empty : Node := ⟨.null, .scalar []⟩

/-- The nodes of a text by number, and the outermost of them. -/
structure Document where
  nodes : Array Node
  root : Nat

namespace Node

/-- The number of collections that may be open at once. -/
def depthLimit : Nat := 489

/-- What the readers of nodes share: the tokens that are left, the nodes so far, those with anchors,
what the handles of tags stand for, and how many more collections may be opened. -/
structure State where
  tokens : List Token
  nodes : Array Node := #[]
  anchors : List (String × Nat) := []
  handles : List (String × String)
  depth : Nat := depthLimit

abbrev Reader := StateT State (Except ReadError)

/-- The text is not well formed. -/
def refuse {α : Type} : Reader α := throw .malformed

/-! ## Tokens -/

/-- The next token stays where it is. Where the text could not be cut any further, there is none. -/
def peek : Reader (Option Token) := do
  match (← get).tokens.head? with
  | some (.broken e) => throw e
  | t => return t

/-- Takes the next token. -/
def drop : Reader Unit := modify fun s => { s with tokens := s.tokens.tail }

/-- Takes the next token if it is the given one. -/
def accept (t : Token) : Reader Bool := do
  if (← peek) = some t then
    drop
    return true
  else return false

/-- Takes the next token, which has to be the given one. -/
def expect (t : Token) : Reader Unit := do
  if !(← accept t) then refuse

/-- The next token is one of these. -/
def nextIn (ts : List Token) : Reader Bool := return (← peek).any (ts.contains ·)

/-! ## Adding nodes -/

/-- Adds a node. -/
def add (n : Node) : Reader Nat := modifyGet fun s => (s.nodes.size, { s with nodes := s.nodes.push n })

/-- Gives a node its content. -/
def complete (number : Nat) (content : Content) : Reader Unit :=
  modify fun s => { s with nodes := s.nodes.modify number fun n => { n with content } }

/-- Reads the parts of a collection. -/
def inside {α : Type} (parts : Reader α) : Reader α := do
  let s ← get
  if s.depth = 0 then throw .tooDeep
  set { s with depth := s.depth - 1 }
  let parts ← parts
  modify fun s => { s with depth := s.depth + 1 }
  return parts

/-- Adds a node where there is nothing to read. -/
def addEmpty : Reader Nat := add .empty

/-! ## Properties -/

/-- The full form of a tag. -/
def fullTag (handle : Option String) (suffix : String) : Reader String :=
  match handle with
  | none => return suffix
  | some handle => do
    match (← get).handles.lookup handle with
    | some start => return start ++ suffix
    | none => refuse

/-- An anchor, if there is one. -/
def anchor? : Reader (Option String) := do
  match ← peek with
  | some (.anchor name) =>
    drop
    return some name
  | _ => return none

/-- A tag, if there is one. -/
def tag? : Reader (Option String) := do
  match ← peek with
  | some (.tag handle suffix) =>
    drop
    return some (← fullTag handle suffix)
  | _ => return none

/-- The anchor and the tag of a node, in either order. -/
def properties : Reader (Option String × Option String) := do
  match ← anchor? with
  | some name => return (some name, ← tag?)
  | none =>
    let t ← tag?
    return (← if t.isSome then anchor? else pure none, t)

/-- Adds a node under a name, if it has one. Every name is given once. -/
def addNamed (anchor : Option String) (n : Node) : Reader Nat := do
  let number ← add n
  if let some name := anchor then
    let s ← get
    if (s.anchors.lookup name).isSome then refuse
    set { s with anchors := (name, number) :: s.anchors }
  return number

/-- The node with a name. -/
def named (name : String) : Reader Nat := do
  match (← get).anchors.lookup name with
  | some number => return number
  | none => refuse

/-- The tag of a node whose written tag may be missing. A single exclamation mark is as good as none,
but that a scalar looks like something then counts even if it is quoted. -/
def chosenTag (written : Option String) (otherwise : Tag) : Tag :=
  match written with
  | none | some "!" => otherwise
  | some name => .ofName name

/-- The tag of a scalar. -/
def scalarTag (written : Option String) (isPlain : Bool) (text : Text) : Tag :=
  chosenTag written (if isPlain || written.isSome then .ofScalar text else .text)

/-! ## Nodes -/

mutual

/-- A node. Blocks are read where `block` holds, and sequences that are no farther indented than the
mapping around them where `indentless` holds. -/
def read (block indentless : Bool) : (rounds : Nat) → Reader Nat
  | 0 => refuse
  | rounds + 1 => do
    if let some (.alias name) := ← peek then
      drop
      return ← named name
    let (anchor, tag) ← properties
    readContent block indentless anchor tag rounds

/-- The content of a node behind its properties. -/
def readContent (block indentless : Bool) (anchor tag : Option String) : (rounds : Nat) → Reader Nat
  | 0 => refuse
  | rounds + 1 => do
    let t ← peek
    if indentless && t = some .entry then
      let number ← addNamed anchor ⟨chosenTag tag .list, .sequence []⟩
      complete number (.sequence (← inside (indentlessItems rounds)))
      return number
    else if let some (.scalar text isPlain) := t then
      drop
      addNamed anchor ⟨scalarTag tag isPlain text, .scalar text⟩
    else if t = some .flowSequenceStart then
      let number ← addNamed anchor ⟨chosenTag tag .list, .sequence []⟩
      drop
      complete number (.sequence (← inside (flowItems true rounds)))
      return number
    else if t = some .flowMappingStart then
      let number ← addNamed anchor ⟨chosenTag tag .mapping, .mapping []⟩
      drop
      complete number (.mapping (← inside (flowEntries true rounds)))
      return number
    else if block && t = some .sequenceStart then
      let number ← addNamed anchor ⟨chosenTag tag .list, .sequence []⟩
      drop
      complete number (.sequence (← inside (blockItems rounds)))
      return number
    else if block && t = some .mappingStart then
      let number ← addNamed anchor ⟨chosenTag tag .mapping, .mapping []⟩
      drop
      complete number (.mapping (← inside (blockEntries rounds)))
      return number
    else if anchor.isSome || tag.isSome then
      addNamed anchor ⟨scalarTag tag true [], .scalar []⟩
    else refuse

/-- A node, or nothing before one of the given tokens. -/
def readUnless (stops : List Token) (block indentless : Bool) : (rounds : Nat) → Reader Nat
  | 0 => refuse
  | rounds + 1 => do
    if ← nextIn stops then addEmpty else read block indentless rounds

/-- The items of a block up to its end. -/
def blockItems : (rounds : Nat) → Reader (List Nat)
  | 0 => refuse
  | rounds + 1 => do
    if ← accept .blockEnd then return []
    expect .entry
    let item ← readUnless [.entry, .blockEnd] true false rounds
    return item :: (← blockItems rounds)

/-- The items of a sequence that is no block of its own. -/
def indentlessItems : (rounds : Nat) → Reader (List Nat)
  | 0 => refuse
  | rounds + 1 => do
    if ← accept .entry then
      let item ← readUnless [.entry, .key, .value, .blockEnd] true false rounds
      return item :: (← indentlessItems rounds)
    else return []

/-- The entries of a block up to its end. -/
def blockEntries : (rounds : Nat) → Reader (List (Nat × Nat))
  | 0 => refuse
  | rounds + 1 => do
    if ← accept .blockEnd then return []
    expect .key
    let stops := [.key, .value, .blockEnd]
    let key ← readUnless stops true true rounds
    let value ← if ← accept .value then readUnless stops true true rounds else addEmpty
    return (key, value) :: (← blockEntries rounds)

/-- The items of a sequence in brackets up to the closing one. A key among them is a mapping with one
entry. -/
def flowItems (first : Bool) : (rounds : Nat) → Reader (List Nat)
  | 0 => refuse
  | rounds + 1 => do
    if ← accept .flowSequenceEnd then return []
    if !first then expect .flowEntry
    if ← accept .flowSequenceEnd then return []
    let item ←
      if ← accept .key then do
        let key ← readUnless [.value, .flowEntry, .flowSequenceEnd] false false rounds
        let value ←
          if ← accept .value then readUnless [.flowEntry, .flowSequenceEnd] false false rounds
          else addEmpty
        add ⟨.mapping, .mapping [(key, value)]⟩
      else read false false rounds
    return item :: (← flowItems false rounds)

/-- The entries of a mapping in braces up to the closing one. -/
def flowEntries (first : Bool) : (rounds : Nat) → Reader (List (Nat × Nat))
  | 0 => refuse
  | rounds + 1 => do
    if ← accept .flowMappingEnd then return []
    if !first then expect .flowEntry
    if ← accept .flowMappingEnd then return []
    let item ←
      if ← accept .key then do
        let key ← readUnless [.value, .flowEntry, .flowMappingEnd] false false rounds
        let value ←
          if ← accept .value then readUnless [.flowEntry, .flowMappingEnd] false false rounds
          else addEmpty
        pure (key, value)
      else do
        let key ← read false false rounds
        pure (key, ← addEmpty)
    return item :: (← flowEntries false rounds)

end

/-! ## Documents -/

/-- What the handles of tags stand for unless a document says otherwise. -/
def defaultHandles : List (String × String) := [("!", "!"), ("!!", Tag.namePrefix)]

/-- Takes the directives before a document. There is at most one version, which has to be of the first
edition, and at most one meaning for each handle. -/
def directives : (rounds : Nat) → (versionSeen : Bool) → List (String × String) →
    Reader (List (String × String))
  | 0, _, _ => refuse
  | rounds + 1, versionSeen, handles => do
    match ← peek with
    | some (.directive d) =>
      drop
      match d with
      | .version major =>
        if versionSeen || major != 1 then refuse else directives rounds true handles
      | .tagHandle handle uri =>
        if (handles.lookup handle).isSome then refuse
        else directives rounds versionSeen ((handle, uri) :: handles)
      | .other => directives rounds versionSeen handles
    | _ => return handles

/-- The document behind a document mark. -/
def explicitDocument (rounds : Nat) : Reader Nat := do
  match ← peek with
  | none | some .documentStart | some .documentEnd | some (.directive _) => addEmpty
  | _ => read true false rounds

/-- A document with what stands before it. -/
def document (rounds : Nat) : Reader Nat := do
  match ← peek with
  | some (.directive _) | some .documentStart =>
    let handles ← directives rounds false []
    expect .documentStart
    modify fun s => { s with handles := handles ++ defaultHandles }
    explicitDocument rounds
  | _ => read true false rounds

/-- Takes the marks of the end of a document. Nothing may follow them. -/
def expectEnd : (rounds : Nat) → Reader Unit
  | 0 => refuse
  | rounds + 1 => do
    match ← peek with
    | none => return
    | some .documentEnd =>
      drop
      expectEnd rounds
    | _ => refuse

/-- The only document, if there is one. -/
def onlyDocument : Reader (Option Nat) := do
  if (← peek).isNone then return none
  let rounds := 4 * (← get).tokens.length + 4
  let number ← document rounds
  expectEnd rounds
  return some number

end Node

/-- The document of a list of tokens, if it has one. -/
def Document.ofTokens (tokens : List Token) : Except ReadError (Option Document) := do
  let (number?, s) ← Node.onlyDocument.run { tokens, handles := Node.defaultHandles }
  return number?.map fun root => { nodes := s.nodes, root }

/-- The document of a text, if it has one. -/
def Document.ofText (cs : List Char) : Except ReadError (Option Document) := ofTokens (tokens cs)

end UnitConversion.Settings
