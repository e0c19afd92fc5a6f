import Ingress.Json.Reading

/-!
# Tables of TOML

A table keeps its entries in the order in which they came about. It remembers how it came about
itself, since that decides what may be added to it later: a table with a header of its own takes no
dotted keys from elsewhere, and a table of dotted keys takes no header.
-/

namespace Ingress.Toml

open Json

/-- How a table came about. -/
inductive Origin
  /-- By a header of its own. -/
  | header
  /-- As the outer part of a longer header. -/
  | implied
  /-- By a dotted key. -/
  | dotted
deriving DecidableEq

/-- An entry of a table. -/
inductive Node
  | value (reading : Reading)
  | table (origin : Origin) (entries : List (String × Node))
  /-- Tables under one header, in order. -/
  | tables (items : List (List (String × Node)))

/-- A table: how it came about and its entries. -/
structure Table where
  origin : Origin
  entries : List (String × Node)

namespace Table

/-- A table with a header and nothing in it. -/
def empty : Table := ⟨.header, []⟩

/-- The entry of a key. -/
def get? (key : String) (t : Table) : Option Node := (t.entries.find? (·.1 = key)).map (·.2)

/-- Puts an entry at the place of its key, or at the end. -/
def set (key : String) (node : Node) (t : Table) : Table :=
  if t.entries.any (·.1 = key) then
    { t with entries := t.entries.map fun e => if e.1 = key then (key, node) else e }
  else { t with entries := t.entries ++ [(key, node)] }

/-- The table without the entry of a key. -/
def erase (key : String) (t : Table) : Table :=
  { t with entries := t.entries.filter (·.1 ≠ key) }

/-- Changes the table at the end of a path, creating the tables on the way. -/
def alter (dotted : Bool) (f : Table → Option Table) : List String → Table → Option Table
  | [], t => f t
  | key :: path, t =>
    match t.get? key with
    | none => do
      let inner ← alter dotted f path ⟨if dotted then .dotted else .implied, []⟩
      some (t.set key (.table inner.origin inner.entries))
    | some (.value _) => none
    | some (.tables items) => do
      let last ← items.getLast?
      let inner ← alter dotted f path ⟨.header, last⟩
      some (t.set key (.tables (items.dropLast ++ [inner.entries])))
    | some (.table origin entries) =>
      if dotted ∧ origin = .header then none
      else do
        let inner ← alter dotted f path ⟨origin, entries⟩
        some (t.set key (.table inner.origin inner.entries))

/-- Adds the value of a key of one or more parts. -/
def add (path : List String) (value : Reading) (t : Table) : Option Table := do
  let key ← path.getLast?
  let outer := path.dropLast
  alter true (fun inner =>
    if (inner.origin = .dotted) = (outer = []) then none
    else if (inner.get? key).isSome then none
    else some (inner.set key (.value value))) outer t

end Table

mutual

/-- What an entry holds. -/
def Node.reading : Node → Reading
  | .value r => r
  | .table _ entries => .record (readEntries entries)
  | .tables items => .series (readItems items)
termination_by structural n => n

/-- What entries hold, in order. -/
def readEntries : List (String × Node) → List (Option String × Reading)
  | [] => []
  | (key, node) :: rest => (some key, node.reading) :: readEntries rest
termination_by structural es => es

/-- What tables under one header hold. -/
def readItems : List (List (String × Node)) → List Reading
  | [] => []
  | entries :: rest => .record (readEntries entries) :: readItems rest
termination_by structural items => items

end

/-- A document as far as it has been read: what is finished, and the table of the last header, which
is apart from the rest until the next one. -/
structure Draft where
  root : Table
  current : Table
  path : List String
  /-- Whether the last header was one of several tables. -/
  isItem : Bool

namespace Draft

/-- A document with nothing in it. -/
def empty : Draft := ⟨.empty, .empty, [], false⟩

/-- Puts the current table into its place. -/
def settle (d : Draft) : Option Table :=
  match d.path.getLast? with
  | none => some d.current
  | some key =>
    d.root.alter false (fun parent =>
      if d.isItem then
        match parent.get? key with
        | some (.tables items) => some (parent.set key (.tables (items ++ [d.current.entries])))
        | _ => none
      else
        match parent.get? key with
        | none => some (parent.set key (.table d.current.origin d.current.entries))
        | some _ => none) d.path.dropLast

/-- Begins the table of a header. A table that was only implied so far keeps its entries. -/
def beginTable (path : List String) (d : Draft) : Option Draft := do
  let root ← d.settle
  let key ← path.getLast?
  let find (parent : Table) : Option (Table × List (String × Node)) :=
    match parent.get? key with
    | none => some (parent, [])
    | some (.table .implied entries) => some (parent.erase key, entries)
    | some _ => none
  let entries ← entriesAt find path.dropLast root
  let root ← root.alter false (fun parent => (find parent).map (·.1)) path.dropLast
  some ⟨root, ⟨.header, entries⟩, path, false⟩
where
  /-- The entries of the table that a header stands for, if it exists already. -/
  entriesAt (find : Table → Option (Table × List (String × Node))) :
      List String → Table → Option (List (String × Node))
    | [], t => (find t).map (·.2)
    | key :: path, t =>
      match t.get? key with
      | none => some []
      | some (.value _) => none
      | some (.tables items) => entriesAt find path ⟨.header, items.getLast?.getD []⟩
      | some (.table origin entries) => entriesAt find path ⟨origin, entries⟩

/-- Begins one more table of a header of several. -/
def beginItem (path : List String) (d : Draft) : Option Draft := do
  let root ← d.settle
  let key ← path.getLast?
  let root ← root.alter false (fun parent =>
    match parent.get? key with
    | none => some (parent.set key (.tables []))
    | some (.tables _) => some parent
    | some _ => none) path.dropLast
  some ⟨root, .empty, path, true⟩

/-- Adds a value to the current table. -/
def add (path : List String) (value : Reading) (d : Draft) : Option Draft := do
  let current ← d.current.add path value
  some { d with current }

/-- The whole document. -/
def finish (d : Draft) : Option Reading := do
  let root ← d.settle
  some (.record (readEntries root.entries))

end Draft

end Ingress.Toml
