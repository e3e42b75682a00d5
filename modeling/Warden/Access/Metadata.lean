import Warden.Authority.Basic

/-!
# Attributes of named objects

A map from object names to their attributes beside the names in order of first insertion;
inserting a name again replaces its attributes and keeps its place.
-/

namespace Warden

/-- Objects with their attributes, and the names in order of first insertion. -/
structure ObjectTable where
  entries : String → Option (List String)
  order : List String

namespace ObjectTable

def empty : ObjectTable := ⟨fun _ => none, []⟩

/-- Sets the attributes of `object`; a new name goes to the end of the order. -/
def insert (t : ObjectTable) (object : String) (attributes : List String) : ObjectTable :=
  { entries := fun o => if o = object then some attributes else t.entries o,
    order := if (t.entries object).isNone then t.order ++ [object] else t.order }

/-- The table after the insertions, in order, starting from `t`. -/
def insertAll (t : ObjectTable) (entries : List (String × List String)) : ObjectTable :=
  entries.foldl (fun t e => t.insert e.1 e.2) t

def attributes? (t : ObjectTable) (object : String) : Option (List String) :=
  t.entries object

/-- Every attribute in the table, in the order of the names, without repeats. -/
def allAttributes (t : ObjectTable) : List String :=
  dedup (t.order.filterMap t.entries).flatten

end ObjectTable

end Warden
