import TenantHost.Number
import TenantHost.Moment
import TenantHost.Text.Quoted
/-!
# Raw settings

What a settings file may hold before it is checked: tables, lists, texts, truth values, integers,
doubles, dates and times. A table keeps its entries in the order of the file and has each key once.
-/

namespace TenantHost

/-- A raw setting; `null` is the absence of one. -/
inductive Value where
  | null
  | bool (b : Bool)
  | int (n : Int)
  | real (d : Double)
  | text (s : String)
  | moment (m : Moment)
  | list (items : List Value)
  | table (entries : List (String × Value))

namespace Value

/-- A number as a raw setting. -/
def ofNumber : Number → Value
  | .int n => .int n
  | .real d => .real d

/-- The name of a setting's kind. -/
def typeName : Value → String
  | .null => "NoneType"
  | .bool _ => "bool"
  | .int _ => "int"
  | .real _ => "float"
  | .text _ => "str"
  | .moment m => "datetime." ++ m.kind
  | .list _ => "list"
  | .table _ => "dict"

/-- Why a setting cannot be shown: an integer in it has too many digits, or it is nested too
deep. -/
inductive ShowProblem where
  | tooManyDigits
  | tooDeep
  deriving DecidableEq, Repr

/-- How deep the parts of a setting may stand that is shown. Every part is shown by a call within
that of the part around it, of which the runtime allows 1000, and some are under way by then. -/
def greatestShownDepth : Nat := 989

mutual

/-- The first problem, from the front, of showing a setting that stands so deep. -/
def showProblem? (depth : Nat) (value : Value) : Option ShowProblem :=
  if greatestShownDepth < depth then some .tooDeep
  else
    match value with
    | .int n => if Number.isShowableInt n then none else some .tooManyDigits
    | .moment m => if greatestShownDepth < depth + m.depth then some .tooDeep else none
    | .list items => itemsProblem? (depth + 1) items
    | .table entries => entriesProblem? (depth + 1) entries
    | _ => none

/-- The first problem of showing the items of a list. -/
def itemsProblem? (depth : Nat) : List Value → Option ShowProblem
  | [] => none
  | v :: rest => (showProblem? depth v).or (itemsProblem? depth rest)

/-- The first problem of showing the entries of a table. -/
def entriesProblem? (depth : Nat) : List (String × Value) → Option ShowProblem
  | [] => none
  | (_, v) :: rest => (showProblem? depth v).or (entriesProblem? depth rest)

end

mutual

/-- How a setting is shown inside a list, or where its kind has to show: text is quoted. -/
def literal : Value → String
  | .null => "None"
  | .bool b => if b then "True" else "False"
  | .int n => toString n
  | .real d => d.text
  | .text s => Text.quoted s
  | .moment m => m.literal
  | .list items => "[" ++ ", ".intercalate (literals items) ++ "]"
  | .table entries => "\x7b" ++ ", ".intercalate (entryLiterals entries) ++ "\x7d"

/-- The items of a list as they are shown. -/
def literals : List Value → List String
  | [] => []
  | v :: rest => literal v :: literals rest

/-- The entries of a table as they are shown. -/
def entryLiterals : List (String × Value) → List String
  | [] => []
  | (key, v) :: rest => (Text.quoted key ++ ": " ++ literal v) :: entryLiterals rest

end

/-- How a setting is shown by itself: text is bare, and moments are plain. -/
def display : Value → String
  | .text s => s
  | .moment m => m.text
  | v => v.literal

/-- The problem of showing a setting by itself, which takes one call more. -/
def displayProblem? (value : Value) : Option ShowProblem :=
  value.showProblem? 1

/-- The problem of showing a setting where its kind has to show. -/
def literalProblem? (value : Value) : Option ShowProblem :=
  value.showProblem? 0

end Value

/-! ## Tables -/

namespace Table

/-- Sets a key: in its place if the table has it, at the end otherwise. -/
def insert {α : Type} (entries : List (String × α)) (key : String) (value : α) :
    List (String × α) :=
  match entries with
  | [] => [(key, value)]
  | (k, v) :: rest => if k = key then (key, value) :: rest else (k, v) :: insert rest key value

/-- The table of a list of entries, the last one for each key. -/
def ofList {α : Type} (entries : List (String × α)) : List (String × α) :=
  entries.foldl (fun table entry => insert table entry.1 entry.2) []

theorem lookup_insert {α : Type} (entries : List (String × α)) (key k : String) (value : α) :
    (insert entries key value).lookup k = if k = key then some value else entries.lookup k := by
  induction entries with
  | nil => grind [insert]
  | cons entry rest ih => grind [insert]

end Table

end TenantHost
