import Siblings.Document.Value

/-!
# Assembling tables

A TOML document names its tables by paths. The statements of a document are put together one
after the other; a statement that would define something twice is refused.

A table may be added to by later statements, but not in every way: what was opened by a header
is not reached by dotted keys, and what dotted keys have made is not opened by a header. The
entries of a table are kept in the order of their keys.
-/

namespace Siblings.Toml

/-- How a table came to be. -/
inductive Origin where
  /-- It was opened by a header of its own. -/
  | opened
  /-- A header of a table inside it went through it. -/
  | passed
  /-- A dotted key went through it. -/
  | dotted
  deriving DecidableEq, Repr

/-- A part of a document while it is assembled. -/
inductive Node where
  /-- A value that is complete. -/
  | leaf (value : Value)
  /-- A table that may still grow. -/
  | table (origin : Origin) (entries : List (Text × Node))
  /-- An array of tables, of which the last may still grow. -/
  | elements (tables : List (List (Text × Node)))
  deriving Inhabited

/-- The entries of a table while it is assembled. -/
abbrev Entries := List (Text × Node)

namespace Entries

/-- The entries with another node under a key. -/
def replace (entries : Entries) (key : Text) (node : Node) : Entries :=
  entries.map fun (k, n) => if k = key then (k, node) else (k, n)

/-- **The entries with a node under a new key,** in the order of the keys, which are compared by
their code points. -/
def add : Entries → Text → Node → Entries
  | [], key, node => [(key, node)]
  | (k, n) :: entries, key, node =>
    if key < k then (key, node) :: (k, n) :: entries else (k, n) :: add entries key node

/-- A value under a path of keys, where `reachable` says whether the table itself may get an
entry. -/
def assignFrom (value : Value) (reachable : Bool) : List Text → Entries → Option Entries
  | [], _ => none
  | [key], entries =>
    if reachable && (entries.lookup key).isNone then some (add entries key (.leaf value)) else none
  | key :: path, entries =>
    match entries.lookup key with
    | none =>
      (assignFrom value true path []).map fun inner => add entries key (.table .dotted inner)
    | some (.leaf _) => none
    | some (.table .opened _) => none
    | some (.table origin inner) =>
      (assignFrom value (origin = .dotted) path inner).map fun inner =>
        replace entries key (.table origin inner)
    | some (.elements tables) =>
      match tables.getLast? with
      | none => none
      | some last =>
        (assignFrom value false path last).map fun last =>
          replace entries key (.elements (tables.dropLast ++ [last]))

/-- **A value under a path of keys.** -/
def assign (entries : Entries) (path : List Text) (value : Value) : Option Entries :=
  assignFrom value true path entries

/-- A change to the entries that a path of headers leads to. -/
def within (change : Entries → Option Entries) : List Text → Entries → Option Entries
  | [], entries => change entries
  | key :: path, entries =>
    match entries.lookup key with
    | none => (within change path []).map fun inner => add entries key (.table .passed inner)
    | some (.leaf _) => none
    | some (.table origin inner) =>
      (within change path inner).map fun inner => replace entries key (.table origin inner)
    | some (.elements tables) =>
      match tables.getLast? with
      | none => none
      | some last =>
        (within change path last).map fun last =>
          replace entries key (.elements (tables.dropLast ++ [last]))

/-- Opens a table under a key. -/
def openTable (key : Text) (entries : Entries) : Option Entries :=
  match entries.lookup key with
  | none => some (add entries key (.table .opened []))
  | some (.table .passed inner) => some (replace entries key (.table .opened inner))
  | _ => none

/-- Opens one more table of an array under a key. -/
def openElement (key : Text) (entries : Entries) : Option Entries :=
  match entries.lookup key with
  | none => some (add entries key (.elements [[]]))
  | some (.elements tables) => some (replace entries key (.elements (tables ++ [[]])))
  | _ => none

end Entries

mutual

/-- A part of a document when it is complete. -/
def Node.toValue : Node → Value
  | .leaf value => value
  | .table _ entries => .table (Node.toEntries entries)
  | .elements tables => .array (Node.toTables tables)

/-- The entries of a table when it is complete. -/
def Node.toEntries : List (Text × Node) → List (Text × Value)
  | [] => []
  | (key, node) :: entries => (key, node.toValue) :: Node.toEntries entries

/-- The tables of an array when it is complete. -/
def Node.toTables : List (List (Text × Node)) → List Value
  | [] => []
  | entries :: tables => .table (Node.toEntries entries) :: Node.toTables tables

end

/-- **A statement of a document.** -/
inductive Statement where
  /-- A value under a path of keys of the current table. -/
  | assign (path : List Text) (value : Value)
  /-- The header of a table. -/
  | header (path : List Text)
  /-- The header of one more table of an array. -/
  | element (path : List Text)

namespace Statement

/-- The entries after some statements, where `current` is the path of the last header. -/
def assembleFrom (current : List Text) : List Statement → Entries → Option Entries
  | [], entries => some entries
  | .assign path value :: statements, entries => do
    let entries ← Entries.within (fun inner => Entries.assign inner path value) current entries
    assembleFrom current statements entries
  | .header path :: statements, entries => do
    let key ← path.getLast?
    let entries ← Entries.within (Entries.openTable key) path.dropLast entries
    assembleFrom path statements entries
  | .element path :: statements, entries => do
    let key ← path.getLast?
    let entries ← Entries.within (Entries.openElement key) path.dropLast entries
    assembleFrom path statements entries

/-- **The document that some statements make,** unless one is refused. -/
def assemble (statements : List Statement) : Option Value :=
  (assembleFrom [] statements []).map fun entries => .table (Node.toEntries entries)

end Statement

/-- **The table that some assignments make,** unless one is refused. -/
def tableOf? (assignments : List (List Text × Value)) : Option Value :=
  Statement.assemble (assignments.map fun (path, value) => .assign path value)

end Siblings.Toml
