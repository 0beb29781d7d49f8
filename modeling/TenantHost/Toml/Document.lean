import TenantHost.Value
/-!
# A document under construction

A document is built statement by statement. A table remembers how it came to be: on the way to
another one, by the dotted keys of a section, or by a header of its own. That decides whether it may
still be entered. What a value wrote in one piece, inline, is closed. A list of tables is entered at
its last one.
-/

namespace TenantHost.Toml

/-- How a table came to be. -/
inductive Origin where
  | implied
  | dotted (sectionNumber : Nat)
  | header
  deriving DecidableEq, Repr

/-- What stands behind a key of a document under construction. -/
inductive Node where
  | closed (value : Value)
  | table (origin : Origin) (entries : List (String × Node))
  | tables (earlier : List Value) (last : List (String × Node))

/-- The entries of a table under construction, in the order of the document. -/
abbrev Entries : Type := List (String × Node)

mutual

/-- The value that a finished node is. -/
def Node.finish : Node → Value
  | .closed value => value
  | .table _ entries => .table (finishAll entries)
  | .tables earlier last => .list (earlier ++ [.table (finishAll last)])

/-- The entries of a finished table. -/
def finishAll : Entries → List (String × Value)
  | [] => []
  | (key, node) :: rest => (key, node.finish) :: finishAll rest

end

/-- One key on the way to a table: from a header, or dotted within a section. -/
structure Passage where
  key : String
  dottedIn : Option Nat
  deriving DecidableEq, Repr

/-- What becomes of a table that is passed: dotted keys pass only tables that their own section, or
no one, has made. -/
def Origin.passed (origin : Origin) (dottedIn : Option Nat) : Option Origin :=
  match dottedIn, origin with
  | none, origin => some origin
  | some _, .header => none
  | some here, .implied => some (.dotted here)
  | some here, .dotted there => if here = there then some (.dotted there) else none

/-- Goes down to a table, making the tables that are missing on the way, and changes it. -/
def descend (change : Entries → Option Entries) : List Passage → Entries → Option Entries
  | [], entries => change entries
  | passage :: path, entries =>
    match entries.lookup passage.key with
    | none => do
      let origin ← Origin.implied.passed passage.dottedIn
      return entries ++ [(passage.key, .table origin (← descend change path []))]
    | some (.closed _) => none
    | some (.table origin inner) => do
      let origin ← origin.passed passage.dottedIn
      return Table.insert entries passage.key (.table origin (← descend change path inner))
    | some (.tables earlier last) =>
      match passage.dottedIn with
      | some _ => none
      | none => do
        return Table.insert entries passage.key (.tables earlier (← descend change path last))

/-- Adds a key that the table does not have yet. -/
def addKey (key : String) (value : Value) (entries : Entries) : Option Entries :=
  match entries.lookup key with
  | none => some (entries ++ [(key, .closed value)])
  | some _ => none

/-- Opens a table by its header: a new one, or one that was only implied so far. -/
def openTable (key : String) (entries : Entries) : Option Entries :=
  match entries.lookup key with
  | none => some (entries ++ [(key, .table .header [])])
  | some (.table .implied inner) => some (Table.insert entries key (.table .header inner))
  | some _ => none

/-- Opens one more table of a list of tables. -/
def openListed (key : String) (entries : Entries) : Option Entries :=
  match entries.lookup key with
  | none => some (entries ++ [(key, .tables [] [])])
  | some (.tables earlier last) =>
    some (Table.insert entries key (.tables (earlier ++ [.table (finishAll last)]) []))
  | some _ => none

/-- The way along the keys of a header. -/
def headerPath (keys : List String) : List Passage :=
  keys.map fun key => ⟨key, none⟩

/-- The way along dotted keys within a section. -/
def dottedPath (sectionNumber : Nat) (keys : List String) : List Passage :=
  keys.map fun key => ⟨key, some sectionNumber⟩

end TenantHost.Toml
