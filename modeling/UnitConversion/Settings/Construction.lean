import UnitConversion.Settings.Merge
import UnitConversion.Settings.Order
import UnitConversion.Settings.Value

/-!
# From nodes to settings

A scalar stands for its value at once. A collection is begun empty and gets its parts later, in the
order in which collections are begun. So a collection can be part of itself, and of the errors of a
text the outermost one counts, not the first one.

When all collections have their parts, the settings are read off: a node that is met again inside of
itself becomes a name. A setting without such names is the same wherever it stands, and is read off
only once.

* `Document.setting`: the setting of a document.
-/

namespace UnitConversion.Settings

/-- A key of a mapping. The node that it comes from tells apart keys that are not numbers; the word for
such a key comes from no node in particular. -/
structure Key where
  setting : Setting
  origin? : Option Nat

namespace Key

def isNotANumber (k : Key) : Bool :=
  match k.setting with
  | .float x => x.isNaN
  | _ => false

/-- Two keys of a mapping are the same. -/
def isSame (a b : Key) : Bool :=
  a.setting.sameKey b.setting || (a.isNotANumber && b.isNotANumber && a.origin? == b.origin?)

/-- Sets the value of a key, in its place if it is there and at the end if not. -/
def putEntry (entries : List (Key × Nat)) (key : Key) (value : Nat) : List (Key × Nat) :=
  match entries with
  | [] => [(key, value)]
  | (k, v) :: rest => if k.isSame key then (k, value) :: rest else (k, v) :: putEntry rest key value

end Key

/-- What a node stands for. The parts are numbers of nodes. -/
inductive Built where
  | scalar (s : Setting)
  | list (items : List Nat)
  | pairs (items : List (Nat × Nat))
  | mapping (entries : List (Key × Nat))
  | set (members : List Key)

/-- What is built while settings are made of nodes, and the collections that wait for their parts, the
last one first. -/
structure Construction where
  nodes : Array Node
  built : Array (Option Built)
  waiting : List Nat

abbrev Builder := StateT Construction (Except ReadError)

namespace Builder

/-- The nodes as they are now. -/
def nodes : Builder (Array Node) := return (← get).nodes

/-- Sets what a node stands for. -/
def put (number : Nat) (b : Built) : Builder Unit :=
  modify fun s => { s with built := s.built.setIfInBounds number (some b) }

/-! ## Scalars -/

/-- The text of a node that is used as a scalar. A mapping has its text under the value key. -/
def scalarText (nodes : Array Node) : (rounds : Nat) → (number : Nat) → Except ReadError Text
  | 0, _ => .error .tooDeep
  | rounds + 1, number =>
    match (nodeAt nodes number).content with
    | .scalar t => .ok t
    | .sequence _ => .error .malformed
    | .mapping entries =>
      match entries.find? fun (key, _) => (nodeAt nodes key).tag = .value with
      | some (_, value) => scalarText nodes rounds value
      | none => .error .malformed

/-- The setting of a node that is used as a scalar. -/
def scalarSetting (nodes : Array Node) (number : Nat) : Except ReadError Setting := do
  let node := nodeAt nodes number
  let t ← scalarText nodes (nodes.size + 1) number
  if node.tag = .moment && isMappingAt nodes number then .error .momentOfMapping
  else scalarValue node.tag t

/-! ## Collections -/

/-- A collection without its parts. -/
def emptyOf? : Tag → Option Built
  | .list => some (.list [])
  | .pairs => some (.pairs [])
  | .mapping => some (.mapping [])
  | .set => some (.set [])
  | _ => none

/-- What a node stands for. A collection may not have its parts yet. -/
def begin? (number : Nat) : Builder Built := do
  let s ← get
  match (s.built[number]?).join with
  | some b => return b
  | none =>
    match emptyOf? (nodeAt s.nodes number).tag with
    | some b =>
      set { s with waiting := number :: s.waiting }
      put number b
      return b
    | none =>
      let b := Built.scalar (← scalarSetting s.nodes number)
      put number b
      return b

/-- The key that a node is. -/
def key (number : Nat) : Builder Key := do
  let nodes ← nodes
  match ← begin? number with
  | .scalar setting =>
    let isWord := match scalarText nodes (nodes.size + 1) number with
      | .ok t => isNotANumberWord t
      | .error _ => false
    return { setting, origin? := if isWord then none else some number }
  | _ => throw .malformed

/-- The entries of a mapping, with those that it takes in. -/
def entries (number : Nat) : Builder (List (Key × Nat)) := do
  let s ← get
  let nodes ← takeIn s.nodes number
  set { s with nodes }
  let step (built : List (Key × Nat)) (entry : Nat × Nat) : Builder (List (Key × Nat)) := do
    let k ← key entry.1
    let _ ← begin? entry.2
    return Key.putEntry built k entry.2
  (entriesAt nodes number).foldlM step []

/-- A pair, which is written as a mapping of one entry. -/
def pair (number : Nat) : Builder (Nat × Nat) := do
  match entriesAt (← nodes) number with
  | [entry] =>
    let _ ← begin? entry.1
    let _ ← begin? entry.2
    return entry
  | _ => throw .malformed

/-- Gives a collection its parts. -/
def complete (number : Nat) : Builder Unit := do
  let node := nodeAt (← nodes) number
  match node.tag, node.content with
  | .list, .sequence items =>
    for item in items do
      let _ ← begin? item
    put number (.list items)
  | .pairs, .sequence items => put number (.pairs (← items.mapM pair))
  | .mapping, .mapping _ => put number (.mapping (← entries number))
  | .set, .mapping _ => put number (.set ((← entries number).map (·.1)))
  | _, _ => throw .malformed

/-- Gives all collections their parts that wait for them, also those that come to wait meanwhile. -/
def completeAll : (rounds : Nat) → Builder Unit
  | 0 => return
  | rounds + 1 => do
    let s ← get
    if s.waiting.isEmpty then return
    set { s with waiting := [] }
    for number in s.waiting.reverse do complete number
    completeAll rounds

end Builder

/-! ## Reading off -/

/-- A setting, with the names in it of collections around it. -/
structure Reading where
  setting : Setting
  names : List Nat := []

/-- The settings that were read off and have no such names. -/
abbrev Reader := StateM (Array (Option Setting))

namespace Reading

/-- Names of two settings. -/
def join (a b : List Nat) : List Nat := a ++ b.filter (!a.contains ·)

/-- All names of a list of settings. -/
def joinAll (rs : List Reading) : List Nat := rs.foldl (fun names r => join names r.names) []

/-- The setting of a collection whose parts have been read off. It has a name if that stands in it. -/
def close (number : Nat) (r : Reading) : Reading :=
  if r.names.contains number then ⟨.named number r.setting, r.names.filter (· != number)⟩ else r

/-- The setting of a node inside of collections. -/
def ofNumber (built : Array (Option Built)) :
    (depth : Nat) → (around : List Nat) → (number : Nat) → Reader Reading
  | 0, _, _ => return ⟨.null, []⟩
  | depth + 1, around, number => do
    if around.contains number then return ⟨.again number, [number]⟩
    if let some s := ((← get)[number]?).join then return ⟨s, []⟩
    let part := ofNumber built depth (number :: around)
    let r ← match (built[number]?).join with
      | none => pure ⟨.null, []⟩
      | some (.scalar s) => pure ⟨s, []⟩
      | some (.set members) => pure ⟨.set (members.map (·.setting)), []⟩
      | some (.list items) => do
        let items ← items.mapM part
        pure ⟨.list (items.map (·.setting)), joinAll items⟩
      | some (.pairs items) => do
        let pairs ← items.mapM fun (a, b) => return (← part a, ← part b)
        pure
          { setting := .list (pairs.map fun (a, b) => .list [a.setting, b.setting])
            names := joinAll (pairs.flatMap fun (a, b) => [a, b]) }
      | some (.mapping entries) => do
        let values ← entries.mapM fun (k, value) => return (k.setting, ← part value)
        pure
          { setting := .mapping (values.map fun (k, r) => (k, r.setting))
            names := joinAll (values.map (·.2)) }
    let r := close number r
    if r.names.isEmpty then modify fun known => known.setIfInBounds number (some r.setting)
    return r

end Reading

/-- The setting of a document. -/
def Document.setting (d : Document) : Except ReadError Setting := do
  let size := d.nodes.size
  let start : Construction := ⟨d.nodes, Array.replicate size none, []⟩
  let build : Builder Unit := do
    let _ ← Builder.begin? d.root
    Builder.completeAll (size + 1)
  let (_, s) ← build.run start
  let (r, _) := (Reading.ofNumber s.built (size + 1) [] d.root).run (Array.replicate size none)
  return r.setting

end UnitConversion.Settings
