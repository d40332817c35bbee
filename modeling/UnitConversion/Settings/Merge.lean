import UnitConversion.Settings.Node

/-!
# Entries of other mappings

Under the merge key a mapping takes in the entries of another mapping, or of a list of mappings. They
come before its own entries, and of two entries with one key the later one counts. So its own entries
win, then those of its last merge key, and in a list those of the first mapping.

A mapping can be its own source. So a merge key is taken out before its source is looked at, and each
step has one key less to take out.

* `takeIn`: the nodes with all that a mapping takes in.
-/

namespace UnitConversion.Settings

/-- The node with a number. -/
def nodeAt (nodes : Array Node) (number : Nat) : Node := (nodes[number]?).getD .empty

/-- The entries of a node that is a mapping. -/
def entriesAt (nodes : Array Node) (number : Nat) : List (Nat × Nat) :=
  match (nodeAt nodes number).content with
  | .mapping entries => entries
  | _ => []

/-- The node is a mapping. -/
def isMappingAt (nodes : Array Node) (number : Nat) : Bool :=
  match (nodeAt nodes number).content with
  | .mapping _ => true
  | _ => false

/-- The nodes with other entries for one of them. -/
def withEntries (nodes : Array Node) (number : Nat) (entries : List (Nat × Nat)) : Array Node :=
  nodes.modify number fun n => { n with content := .mapping entries }

/-- The first source under a merge key, and the entries without that one. -/
def splitMerge? (nodes : Array Node) : List (Nat × Nat) → Option (Nat × List (Nat × Nat))
  | [] => none
  | (key, value) :: rest =>
    if (nodeAt nodes key).tag = .merge then some (value, rest)
    else (splitMerge? nodes rest).map fun (source, others) => (source, (key, value) :: others)

/-- The nodes with the tag of a text for an equals sign that is a key. -/
def settleKeys (nodes : Array Node) (entries : List (Nat × Nat)) : Array Node :=
  entries.foldl (fun nodes (key, _) => nodes.modify key fun n =>
    if n.tag = .value then { n with tag := .text } else n) nodes

/-- The nodes with all that a mapping takes in behind the entries that it has taken in already. -/
def takeInAfter (taken : List (Nat × Nat)) (number : Nat) :
    (rounds : Nat) → Array Node → Except ReadError (Array Node)
  | 0, _ => .error .malformed
  | rounds + 1, nodes => do
    let entries := entriesAt nodes number
    match splitMerge? nodes entries with
    | none => return settleKeys (withEntries nodes number (taken ++ entries)) entries
    | some (source, others) =>
      let nodes := withEntries nodes number others
      match (nodeAt nodes source).content with
      | .scalar _ => throw .malformed
      | .mapping _ =>
        let nodes ← takeInAfter [] source rounds nodes
        takeInAfter (taken ++ entriesAt nodes source) number rounds nodes
      | .sequence items =>
        let step : Array Node × List (Nat × Nat) → Nat →
            Except ReadError (Array Node × List (Nat × Nat)) := fun (nodes, behind) item =>
          if isMappingAt nodes item then
            (takeInAfter [] item rounds nodes).map fun nodes =>
              (nodes, entriesAt nodes item ++ behind)
          else .error .malformed
        let (nodes, more) ← items.foldlM step (nodes, [])
        takeInAfter (taken ++ more) number rounds nodes

/-- The number of merge keys in all mappings. -/
def mergeCount (nodes : Array Node) : Nat :=
  nodes.foldl (fun count n =>
    match n.content with
    | .mapping entries => count + entries.countP fun (key, _) => (nodeAt nodes key).tag = .merge
    | _ => count) 0

/-- The nodes with all that a mapping takes in. -/
def takeIn (nodes : Array Node) (number : Nat) : Except ReadError (Array Node) :=
  takeInAfter [] number (mergeCount nodes + 1) nodes

end UnitConversion.Settings
