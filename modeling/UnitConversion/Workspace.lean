import UnitConversion.Conversion.Dispatcher

/-!
# Workspaces

A workspace is what a run of steps acts on: the declared conversions, a registry, and the dispatchers that were
built, each of which can still be asked. Each step gives an answer and the next workspace, also when it fails; a
failed step keeps what it changed before the failure.

Instances are told apart over a whole run. A new registry starts a new generation, and an instance is
identified by its generation and its place.

* `Workspace.step`: one step.
* `Workspace.run`: a list of steps.
-/

namespace UnitConversion

namespace Dispatcher

/-- The dispatcher of no group. -/
def empty {α : Type} : Dispatcher α := ⟨[], [], [], []⟩

/-- The dispatcher of a list of groups on a new registry. -/
def ofGroups {α : Type} [Scalar α] (table : Declarations α) (groups : List Group) :
    Registry α × Except (BuildError α) (Dispatcher α) :=
  build table .empty groups

end Dispatcher

namespace Standard

/-- The dispatcher of the built-in catalog. -/
def dispatcher : Dispatcher Binary64 :=
  match (Dispatcher.ofGroups declarations catalog).2 with
  | .ok d => d
  | .error _ => .empty

end Standard

/-- Declarations, a registry and dispatchers, with the instances that were handed out. -/
structure Workspace (α : Type) where
  table : Declarations α
  registry : Registry α
  /-- How often the registry was replaced. -/
  generation : Nat
  /-- The dispatchers in the order in which they were built. -/
  dispatchers : List (Dispatcher α)
  /-- Generation and place of the instances handed out, in the order of their first time. -/
  handedOut : List (Nat × Nat)

/-- What a dispatcher can be asked. -/
inductive Question (α : Type) where
  | entries
  | process (source target : Text) (x : α)
  | describe (source target : Text)
  | unit (signature : Text)
  | groups
  | groupFor (quantity : Text)

/-- What can be done with a workspace. -/
inductive Step (α : Type) where
  | newRegistry
  | declare (pair : UnitPair) (factor offset : α) (swapped : Bool)
  | undeclare (pair : UnitPair)
  | build (pair : UnitPair)
  | get (pair : UnitPair)
  | size
  | contains (pair : UnitPair)
  | forward (pair : UnitPair) (x : α)
  | backward (pair : UnitPair) (x : α)
  | expandGroup (g : Group)
  | expandCatalog (groups : List Group)
  | buildDispatcher (groups : List Group)
  | resetDispatcher (groups : List Group)
  /-- Asks the dispatcher at a place. -/
  | ask (place : Nat) (q : Question α)

/-- What a step gives. -/
inductive Answer (α : Type) where
  | count (n : Nat)
  | flag (b : Bool)
  | transform (t : Transform α)
  /-- A transform, its number among the instances handed out, and the size of the registry. -/
  | handedOut (t : Transform α) (number size : Nat)
  | value (x : α)
  | value? (x : Option α)
  | entries (es : List (Entry α))
  | described (e : Option (Entry α))
  /-- The number of entries of a new dispatcher and the size of its registry. -/
  | built (entries size : Nat)
  | unit? (u : Option MeasureUnit)
  | groups (gs : List Group)
  | group? (g : Option Group)
  | failed (e : BuildError α)

/-- The answer of a dispatcher. -/
def Dispatcher.answerTo {α : Type} [Scalar α] (d : Dispatcher α) : Question α → Answer α
  | .entries => .entries d.entries
  | .process source target x => .value? (d.process source target x)
  | .describe source target => .described (d.describe source target)
  | .unit signature => .unit? (d.unit? signature)
  | .groups => .groups d.groups
  | .groupFor quantity => .group? (d.groupFor quantity)

namespace Workspace

variable {α : Type} [Scalar α]

/-- The workspace with one more dispatcher. -/
def add (w : Workspace α) (d : Dispatcher α) : Workspace α := { w with dispatchers := w.dispatchers ++ [d] }

/-- Fetches an instance from the registry and gives it a number. -/
def fetch (w : Workspace α) (pair : UnitPair) :
    Workspace α × Except (TransformError α) (Transform α × Nat) :=
  match w.registry.fetch w.table pair with
  | (r, .error e) => ({ w with registry := r }, .error e)
  | (r, .ok found) =>
    let identity := (w.generation, found.place)
    let handedOut := if w.handedOut.contains identity then w.handedOut else w.handedOut ++ [identity]
    ({ w with registry := r, handedOut }, .ok (found.transform, handedOut.idxOf identity))

/-- The answer to a fetched transform. -/
def answerFetch (result : Workspace α × Except (TransformError α) (Transform α × Nat))
    (answer : Workspace α → Transform α → Nat → Answer α) : Workspace α × Answer α :=
  match result with
  | (w, .ok (t, number)) => (w, answer w t number)
  | (w, .error e) => (w, .failed (.transform e))

/-- The answer to an expansion. -/
def answerEntries (w : Workspace α)
    (result : Registry α × Except (TransformError α) (List (Entry α))) : Workspace α × Answer α :=
  ({ w with registry := result.1 },
    match result.2 with
    | .ok es => .entries es
    | .error e => .failed (.transform e))

/-- One step. -/
def step (w : Workspace α) : Step α → Workspace α × Answer α
  | .newRegistry => ({ w with registry := .empty, generation := w.generation + 1 }, .count 0)
  | .declare pair factor offset swapped =>
    let table := w.table.declare pair factor offset swapped
    ({ w with table }, .count table.size)
  | .undeclare pair =>
    let table := w.table.undeclare pair
    ({ w with table }, .count table.size)
  | .build pair =>
    match w.table.build pair with
    | .ok t => (w, .transform t)
    | .error e => (w, .failed (.transform e))
  | .get pair => answerFetch (w.fetch pair) fun w' t number => .handedOut t number w'.registry.size
  | .size => (w, .count w.registry.size)
  | .contains pair => (w, .flag (w.registry.contains pair))
  | .forward pair x => answerFetch (w.fetch pair) fun _ t _ => .value (t.forward x)
  | .backward pair x => answerFetch (w.fetch pair) fun _ t _ => .value (t.backward x)
  | .expandGroup g => w.answerEntries (g.expand w.table w.registry)
  | .expandCatalog groups => w.answerEntries (UnitConversion.expandCatalog w.table w.registry groups)
  | .buildDispatcher groups =>
    match Dispatcher.build w.table w.registry groups with
    | (r, .ok d) => ({ w with registry := r }.add d, .built d.entries.length r.size)
    | (r, .error e) => ({ w with registry := r }, .failed e)
  | .resetDispatcher groups =>
    match Dispatcher.ofGroups w.table groups with
    | (r, .ok d) => (w.add d, .built d.entries.length r.size)
    | (_, .error e) => (w, .failed e)
  | .ask place q => (w, (w.dispatchers.getD place .empty).answerTo q)

/-- The answers to a list of steps, and the workspace after them. -/
def run (w : Workspace α) : List (Step α) → Workspace α × List (Answer α)
  | [] => (w, [])
  | s :: rest =>
    let (w', answer) := w.step s
    let (w'', answers) := w'.run rest
    (w'', answer :: answers)

/-- A workspace with the given declarations, an empty registry and given dispatchers. -/
def start (table : Declarations α) (dispatchers : List (Dispatcher α)) : Workspace α :=
  ⟨table, .empty, 0, dispatchers, []⟩

end Workspace

/-- The built-in declarations with the built-in dispatcher. -/
def Standard.workspace : Workspace Binary64 := .start declarations [dispatcher]

end UnitConversion
