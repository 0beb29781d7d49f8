import TenantHost.Fault
import TenantHost.Text.Lines
/-!
# The account table of a Windows host

The listing command prints a header, a row of dashes, rows of account names, and two lines of
summary. The row of dashes is recognised by its first character and by the one at its own place in
the listing: it is the first row where both are dashes. A dashed row that is too short to have a
character at its own place makes the listing unreadable. The group of an account stands as second
word on a fixed line.
-/

namespace TenantHost.Account

open Text

/-- How often a row has a dash at a place, asked once for each of its characters if it begins with a
dash. It fails if the row has no such place. -/
def dashCount (place : Nat) (row : List Char) : Except Fault Nat :=
  if row.head? = some '-' then
    row.foldlM (fun count _ =>
      match row[place]? with
      | none => .error .beyondLine
      | some c => .ok (if c = '-' then count + 1 else count)) 0
  else .ok 0

/-- The place after the row of dashes, counting from the place of the first row; 0 if there is
none. -/
def tableStartFrom (place : Nat) : List (List Char) → Except Fault Nat
  | [] => .ok 0
  | row :: rest =>
    if row = [] then tableStartFrom (place + 1) rest
    else
      match dashCount place row with
      | .error fault => .error fault
      | .ok count => if count = row.length then .ok (place + 1) else tableStartFrom (place + 1) rest

/-- The place of the first row of the table; 0 if the listing has no row of dashes. -/
def tableStart (rows : List (List Char)) : Except Fault Nat :=
  tableStartFrom 0 rows

/-- How many lines follow the table. -/
def summaryRows : Nat := 2

/-- The words between the row of dashes and the summary. -/
def tableNames (output : List Char) : Except Fault (List (List Char)) :=
  let rows := outputLines output
  match tableStart rows with
  | .error _ => .error (.unreadableTable "net user")
  | .ok start => .ok (((rows.take (rows.length - summaryRows)).drop start).flatMap words)

/-- The line of an account's description that names its group. -/
def groupLine : Nat := 22

/-- Drops one star in front. -/
def dropStar : List Char → List Char
  | '*' :: rest => rest
  | text => text

/-- The group in an account's description: the second word of its line. -/
def tableGroup (output : List Char) : Except Fault (List Char) :=
  match (outputLines output)[groupLine]? with
  | none => .error (.unreadableGroup groupLine)
  | some row =>
    match (words row)[1]? with
    | none => .error (.unreadableGroup groupLine)
    | some group => .ok (dropStar group)

end TenantHost.Account
