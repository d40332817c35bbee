import UnitConversion.Transform.Declarations

/-!
# The registry of built transforms

A registry builds the transform of a pair once, by the declaration in force at that moment, and hands
it out from then on. It only grows at its end, so the place of a transform in it identifies the
instance. A failure to build leaves it as it is.

* `Registry.fetch`: one pair.
* `Registry.fetchAll`: pairs in order, up to the first that cannot be built. What was built before
  the failure stays.
-/

namespace UnitConversion

/-- A transform at its place in a registry. -/
structure Instance (α : Type) where
  place : Nat
  transform : Transform α
deriving DecidableEq

/-- The transforms built so far, in order. -/
structure Registry (α : Type) where
  built : List (UnitPair × Transform α)

namespace Registry

variable {α : Type}

/-- The registry of no transform. -/
def empty : Registry α := ⟨[]⟩

def size (r : Registry α) : Nat := r.built.length

/-- The instance of a pair. -/
def find? (r : Registry α) (pair : UnitPair) : Option (Instance α) :=
  (r.built.lookup pair).map fun t => ⟨r.built.findIdx fun entry => entry.1 == pair, t⟩

/-- The pair has been built. -/
def contains (r : Registry α) (pair : UnitPair) : Bool := (r.find? pair).isSome

/-- The registry with one more transform. -/
def push (r : Registry α) (pair : UnitPair) (t : Transform α) : Registry α :=
  ⟨r.built ++ [(pair, t)]⟩

variable [Scalar α]

/-- The instance of a pair, built if it is not there. -/
def fetch (r : Registry α) (table : Declarations α) (pair : UnitPair) :
    Registry α × Except (TransformError α) (Instance α) :=
  match r.find? pair with
  | some found => (r, .ok found)
  | none =>
    match table.build pair with
    | .ok t => (r.push pair t, .ok ⟨r.size, t⟩)
    -- A failed build leaves nothing behind, so that the next fetch tries again.
    | .error e => (r, .error e)

/-- The instances of a list of pairs. -/
def fetchAll (r : Registry α) (table : Declarations α) :
    List UnitPair → Registry α × Except (TransformError α) (List (Instance α))
  | [] => (r, .ok [])
  | pair :: rest =>
    match r.fetch table pair with
    | (r', .error e) => (r', .error e)
    | (r', .ok found) =>
      match r'.fetchAll table rest with
      | (r'', .error e) => (r'', .error e)
      | (r'', .ok others) => (r'', .ok (found :: others))

end Registry

end UnitConversion
