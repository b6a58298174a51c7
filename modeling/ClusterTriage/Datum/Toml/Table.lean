import ClusterTriage.Datum.Basic

/-!
# Tables under construction

A TOML document builds its tables piece by piece: headers open tables, dotted keys open tables on
their way, and each table may be defined in one manner only. The manner is kept with the table until
the document is complete.
-/

namespace ClusterTriage
namespace Toml

/-- How a table came to be. -/
inductive Manner where
  | header
  /-- As a table above one that has a header. -/
  | implied
  /-- On the way of a dotted key. -/
  | dotted
deriving DecidableEq, Repr

/-- What a key of a table stands for. -/
inductive Node where
  /-- A value, which no later line adds to. -/
  | value (d : Datum)
  | table (manner : Manner) (entries : List (String × Node))
  /-- An array of tables, each opened by a header in double brackets. -/
  | tables (items : List (List (String × Node)))
deriving Inhabited

/-- The keys of a table in the order of their definition. -/
abbrev Entries := List (String × Node)

/-- Puts a node under a key, in the place of the node that was there. -/
def replaceEntry (key : String) (node : Node) : Entries → Entries
  | [] => [(key, node)]
  | (k, n) :: rest => if k = key then (key, node) :: rest else (k, n) :: replaceEntry key node rest

/-- Changes the table at the end of a path. Tables that are missing on the way come into being. A
dotted path may not enter a table that has a header. -/
def descend (dotted : Bool) (change : Manner → Entries → Option Entries) :
    Manner → List String → Entries → Option Entries
  | manner, [], entries => change manner entries
  | _, key :: path, entries =>
    match entries.lookup key with
    | none => do
      let manner := if dotted then Manner.dotted else Manner.implied
      let inner ← descend dotted change manner path []
      some (entries ++ [(key, .table manner inner)])
    | some (.value _) => none
    | some (.tables items) => do
      let inner ← descend dotted change .header path (items.getLastD [])
      some (replaceEntry key (.tables (items.dropLast ++ [inner])) entries)
    | some (.table manner inner) =>
      if dotted ∧ manner = .header then none
      else do
        let inner ← descend dotted change manner path inner
        some (replaceEntry key (.table manner inner) entries)

/-- Defines a key by a value. A table is filled either through dotted keys or directly. -/
def define (path : List String) (key : String) (d : Datum) (manner : Manner) (entries : Entries) :
    Option Entries :=
  descend true (fun manner entries =>
    if (manner == .dotted) == path.isEmpty then none
    else if (entries.lookup key).isSome then none
    else some (entries ++ [(key, .value d)])) manner path entries

def openTable (key : String) (entries : Entries) : Option Entries :=
  match entries.lookup key with
  | none => some (entries ++ [(key, .table .header [])])
  | some (.table .implied inner) => some (replaceEntry key (.table .header inner) entries)
  | some _ => none

/-- Opens a further table of an array of tables. -/
def openItem (key : String) (entries : Entries) : Option Entries :=
  match entries.lookup key with
  | none => some (entries ++ [(key, .tables [[]])])
  | some (.tables items) => some (replaceEntry key (.tables (items ++ [[]])) entries)
  | some _ => none

mutual

def Node.datum : Node → Datum
  | .value d => d
  | .table _ entries => .object (entriesData entries)
  | .tables items => .array (itemsData items)

def entriesData : List (String × Node) → List (String × Datum)
  | [] => []
  | (key, node) :: rest => (key, node.datum) :: entriesData rest

def itemsData : List (List (String × Node)) → List Datum
  | [] => []
  | entries :: rest => .object (entriesData entries) :: itemsData rest

end

end Toml
end ClusterTriage
