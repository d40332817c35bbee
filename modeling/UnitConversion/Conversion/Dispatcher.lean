import UnitConversion.Conversion.Entry

/-!
# Dispatching conversions

A dispatcher holds the entries of a catalog with an index of their keys, and converts between two
signatures. It is built once; what later happens to the declarations or the registry does not reach
it.

* `Dispatcher.build`: checks the catalog, then builds and expands all groups.
* `Dispatcher.process`: converts a magnitude. A known unit converts into itself without any arithmetic.
-/

namespace UnitConversion

/-- Why a dispatcher cannot be built. -/
inductive BuildError (α : Type) where
  | catalog (e : CatalogError)
  | transform (e : TransformError α)
deriving DecidableEq

/-- Entries by the signatures they convert between. -/
abbrev EntryIndex (α : Type) := List ((Text × Text) × Entry α)

/-- The index of a list of entries. Of two entries with one key the first counts. -/
def entryIndex {α : Type} (entries : List (Entry α)) : EntryIndex α :=
  entries.foldl (fun index e => Association.putNew index e.key e) []

/-- A catalog that is ready for conversions. -/
structure Dispatcher (α : Type) where
  groups : List Group
  units : UnitIndex
  entries : List (Entry α)
  index : EntryIndex α

namespace Dispatcher

variable {α : Type}

/-- The entry for a pair of signatures. -/
def describe (d : Dispatcher α) (source target : Text) : Option (Entry α) :=
  d.index.lookup (source, target)

/-- The unit with a signature. -/
def unit? (d : Dispatcher α) (signature : Text) : Option MeasureUnit := d.units.lookup signature

/-- The first group of a quantity. -/
def groupFor (d : Dispatcher α) (quantity : Text) : Option Group :=
  d.groups.find? fun g => g.quantity == quantity

variable [Scalar α]

/-- Builds a dispatcher on a registry. The catalog is checked before anything is built; transforms that
are built before a failure stay in the registry. -/
def build (table : Declarations α) (r : Registry α) (groups : List Group) :
    Registry α × Except (BuildError α) (Dispatcher α) :=
  match unitIndex groups with
  | .error e => (r, .error (.catalog e))
  | .ok units =>
    match expandCatalog table r groups with
    | (r', .error e) => (r', .error (.transform e))
    | (r', .ok entries) => (r', .ok ⟨groups, units, entries, entryIndex entries⟩)

/-- Converts a magnitude from one signature to another. -/
def process (d : Dispatcher α) (source target : Text) (x : α) : Option α :=
  if source = target ∧ (d.unit? source).isSome then some x
  else (d.describe source target).map fun e => e.route.convert x

end Dispatcher

end UnitConversion
