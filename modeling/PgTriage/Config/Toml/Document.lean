/-
TOML documents as trees of tables.

A document is a run of lines: headers that name a table or open the next table of a
list, and entries that give a key of the current table a value.  A key with dots makes
tables on its way.  Nothing may be given twice: a key has one value, a table one header,
and a table that has a header, or that was given as a value, cannot be added to by
dotted keys from outside.

The tree remembers how each table came about, for that decides what may still be done
with it.
-/
import PgTriage.Config.Value

namespace PgTriage.Config.Toml

/-- How a table came about. -/
inductive Origin where
  /-- By dotted keys. -/
  | dotted
  /-- By the header of a table inside it. -/
  | implied
  /-- By a header of its own. -/
  | declared
deriving DecidableEq, Repr

/-- A document under construction. -/
inductive Node where
  | value (v : Value)
  | table (origin : Origin) (entries : List (String × Node))
  /-- A list of tables, of which the last is being filled. -/
  | tables (earlier : List (List (String × Node))) (last : List (String × Node))

/-- The named nodes of a table. -/
abbrev Nodes := List (String × Node)

namespace Nodes

/-- The node under a key. -/
def get? (t : Nodes) (key : String) : Option Node :=
  (t.find? fun e => e.1 = key).map (·.2)

/-- The nodes with one under a key. -/
def put (key : String) (node : Node) : Nodes → Nodes
  | [] => [(key, node)]
  | e :: rest => if e.1 = key then (key, node) :: rest else e :: put key node rest

/--
Gives the dotted key a value.  `isOpen` says whether this table takes keys: the current
table does, and tables that dotted keys made.
-/
def set (v : Value) (isOpen : Bool) : List String → Nodes → Option Nodes
  | [], _ => none
  | [key], t =>
    match t.get? key with
    | none => if isOpen then some (t.put key (.value v)) else none
    | some _ => none
  | key :: keys, t =>
    match t.get? key with
    | none => (set v true keys []).map fun sub => t.put key (.table .dotted sub)
    | some (.value _) => none
    | some (.table .declared _) => none
    | some (.table .implied sub) =>
      (set v false keys sub).map fun sub => t.put key (.table .implied sub)
    | some (.table .dotted sub) =>
      (set v true keys sub).map fun sub => t.put key (.table .dotted sub)
    | some (.tables earlier last) =>
      (set v false keys last).map fun last => t.put key (.tables earlier last)

/-- Changes the node that a path leads to, through the last table of each list. -/
def alterAt (change : Option Node → Option Node) : List String → Nodes → Option Nodes
  | [], _ => none
  | [key], t => (change (t.get? key)).map fun node => t.put key node
  | key :: keys, t =>
    match t.get? key with
    | none => (alterAt change keys []).map fun sub => t.put key (.table .implied sub)
    | some (.value _) => none
    | some (.table origin sub) =>
      (alterAt change keys sub).map fun sub => t.put key (.table origin sub)
    | some (.tables earlier last) =>
      (alterAt change keys last).map fun last => t.put key (.tables earlier last)

end Nodes

/-- A line of a document that says something. -/
inductive Line where
  /-- The header of a table. -/
  | table (path : List String)
  /-- The header that opens the next table of a list. -/
  | element (path : List String)
  | entry (key : List String) (v : Value)

/-- A document so far, and the table its entries go to. -/
structure State where
  root : Nodes
  current : List String

namespace State

/-- The effect of a header on the node it names. -/
def declare : Option Node → Option Node
  | none => some (.table .declared [])
  | some (.table .implied sub) => some (.table .declared sub)
  | some _ => none

/-- The effect of a list header on the node it names. -/
def openElement : Option Node → Option Node
  | none => some (.tables [] [])
  | some (.tables earlier last) => some (.tables (earlier ++ [last]) [])
  | some _ => none

/-- The effect of an entry on the current table. -/
def setIn (key : List String) (v : Value) : Option Node → Option Node
  | some (.table origin sub) => (Nodes.set v true key sub).map (.table origin)
  | some (.tables earlier last) => (Nodes.set v true key last).map (.tables earlier)
  | _ => none

/-- The document after one more line, unless the line contradicts what came before. -/
def step (s : State) : Line → Option State
  | .table path => (Nodes.alterAt declare path s.root).map fun root => ⟨root, path⟩
  | .element path => (Nodes.alterAt openElement path s.root).map fun root => ⟨root, path⟩
  | .entry key v =>
    let root :=
      if s.current.isEmpty then Nodes.set v true key s.root
      else Nodes.alterAt (setIn key v) s.current s.root
    root.map fun root => ⟨root, s.current⟩

end State

mutual

/-- The value of a node. -/
def Node.toValue : Node → Value
  | .value v => v
  | .table _ entries => .table (Node.toTable entries)
  | .tables earlier last => .list (Node.toTables earlier ++ [.table (Node.toTable last)])

/-- The table of named nodes. -/
def Node.toTable : List (String × Node) → Table
  | [] => []
  | (key, node) :: rest => (key, Node.toValue node) :: Node.toTable rest

/-- The values of the tables of a list. -/
def Node.toTables : List (List (String × Node)) → List Value
  | [] => []
  | entries :: rest => .table (Node.toTable entries) :: Node.toTables rest

end

/-- The table a run of lines describes. -/
def tableOfLines (lines : List Line) : Option Table :=
  (lines.foldlM State.step ⟨[], []⟩).map fun s => Node.toTable s.root

/-- The table that keys with values describe, as they stand between braces. -/
def tableOfEntries (entries : List (List String × Value)) : Option Table :=
  (entries.foldlM (fun (t : Nodes) e => Nodes.set e.2 true e.1 t) []).map Node.toTable

end PgTriage.Config.Toml
