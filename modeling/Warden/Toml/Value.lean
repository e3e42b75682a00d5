/-!
# TOML documents

The values a configuration holds, and how headers, array headers and (dotted) keys build the
tables of a document, each table defined once.
-/

namespace Warden.Toml

/-- A TOML value of the kinds a configuration holds. -/
inductive Value where
  | string (s : String)
  | boolean (b : Bool)
  | array (items : List Value)
  | table (entries : List (String × Value))
  deriving Repr

/-- How a table of a document under construction came to exist. -/
inductive Origin where
  | implicit
  | header
  | dotted
  deriving DecidableEq, Repr

/-- A node of a document under construction. -/
inductive Node where
  | leaf (v : Value)
  | table (origin : Origin) (entries : List (String × Node))
  | tables (items : List (List (String × Node)))

abbrev Entries := List (String × Node)

/-- Replaces the node under `key`, which is present, keeping its position. -/
def Entries.put (es : Entries) (key : String) (n : Node) : Entries :=
  es.map fun e => if e.1 = key then (key, n) else e

/-- How a path is being followed: to a header's table, or along a dotted key. -/
inductive Mode where
  | header
  | dotted
  deriving DecidableEq, Repr

/-- Whether a path followed in this mode may pass through a table of this origin. -/
def Mode.passes : Mode → Origin → Bool
  | .header, _ => true
  | .dotted, o => o != .header

/-- The origin of a table that a path followed in this mode creates on its way. -/
def Mode.creates : Mode → Origin
  | .header => .implicit
  | .dotted => .dotted

/-- Applies `k` to the entries of the table at `path`, creating tables on the way. -/
def within (mode : Mode) (k : Entries → Except String Entries) :
    List String → Entries → Except String Entries
  | [], es => k es
  | key :: rest, es =>
    match es.lookup key with
    | none => do
      let inner ← within mode k rest []
      return es ++ [(key, .table mode.creates inner)]
    | some (.table o inner) =>
      if mode.passes o then do
        let inner ← within mode k rest inner
        return es.put key (.table o inner)
      else .error s!"cannot extend table {key}"
    | some (.tables items) =>
      match items.getLast? with
      | some last => do
        let inner ← within mode k rest last
        return es.put key (.tables (items.dropLast ++ [inner]))
      | none => .error s!"empty array of tables {key}"
    | some (.leaf _) => .error s!"{key} is not a table"

/-- Defines the table `key` by a header. -/
def defineTable (key : String) (es : Entries) : Except String Entries :=
  match es.lookup key with
  | none => .ok (es ++ [(key, .table .header [])])
  | some (.table .implicit inner) => .ok (es.put key (.table .header inner))
  | some _ => .error s!"table {key} defined twice"

/-- Adds a new table to the array of tables `key`. -/
def appendTable (key : String) (es : Entries) : Except String Entries :=
  match es.lookup key with
  | none => .ok (es ++ [(key, .tables [[]])])
  | some (.tables items) => .ok (es.put key (.tables (items ++ [[]])))
  | some _ => .error s!"{key} is not an array of tables"

/-- Sets `key` to a value; the key must be new. -/
def setLeaf (key : String) (v : Value) (es : Entries) : Except String Entries :=
  match es.lookup key with
  | none => .ok (es ++ [(key, .leaf v)])
  | some _ => .error s!"duplicate key {key}"

def setDotted (keys : List String) (v : Value) (es : Entries) : Except String Entries :=
  match keys.getLast? with
  | some last => within .dotted (setLeaf last v) keys.dropLast es
  | none => .error "empty key"

mutual

def Node.toValue : Node → Value
  | .leaf v => v
  | .table _ es => .table (entriesToValues es)
  | .tables items => .array (tablesToValues items)

def entriesToValues : List (String × Node) → List (String × Value)
  | [] => []
  | (k, n) :: rest => (k, n.toValue) :: entriesToValues rest

def tablesToValues : List (List (String × Node)) → List Value
  | [] => []
  | es :: rest => .table (entriesToValues es) :: tablesToValues rest

end

/-- A document under construction and the path of the table that pairs go to. -/
structure Builder where
  root : Entries
  current : List String

/-- The start of a document: an empty root, which takes the first pairs. -/
def Builder.start : Builder := ⟨[], []⟩

/-- Enters the table of a header `[path]`. -/
def Builder.header (b : Builder) (path : List String) : Except String Builder :=
  match path.getLast? with
  | some last => return ⟨← within .header (defineTable last) path.dropLast b.root, path⟩
  | none => .error "empty header"

/-- Enters a new table of the array header `[[path]]`. -/
def Builder.arrayHeader (b : Builder) (path : List String) : Except String Builder :=
  match path.getLast? with
  | some last => return ⟨← within .header (appendTable last) path.dropLast b.root, path⟩
  | none => .error "empty header"

/-- Sets a (dotted) key of the current table. -/
def Builder.pair (b : Builder) (keys : List String) (v : Value) : Except String Builder :=
  return { b with root := ← within .header (setDotted keys v) b.current b.root }

def Builder.finish (b : Builder) : Value := .table (entriesToValues b.root)

def inlineTable (pairs : List (List String × Value)) : Except String Value := do
  let es ← pairs.foldlM (fun es p => setDotted p.1 p.2 es) []
  return .table (entriesToValues es)

end Warden.Toml
