import TenantHost.Text.Blank
/-!
# Paths

A path is an anchor and names. Empty names and `.` say nothing and are dropped when a path is read;
`..` is kept. Two slashes in front are an anchor of their own, three or more are as good as one.
-/

namespace TenantHost

/-- Where a path starts. -/
inductive Anchor where
  | here
  | root
  | doubleRoot
  deriving DecidableEq, Repr

/-- A path: where it starts and the names on the way. -/
structure Path where
  anchor : Anchor
  names : List String
  deriving DecidableEq, Repr

/-- The slashes of an anchor. -/
def Anchor.text : Anchor → String
  | .here => ""
  | .root => "/"
  | .doubleRoot => "//"

/-- The anchor of a written path. -/
def Anchor.ofText : List Char → Anchor
  | ['/', '/'] => .doubleRoot
  | '/' :: '/' :: '/' :: _ => .root
  | '/' :: '/' :: _ => .doubleRoot
  | '/' :: _ => .root
  | _ => .here

namespace Path

/-- Reads a path. -/
def ofText (text : String) : Path :=
  let names := (Text.fields (· == '/') text.toList).map String.ofList
  ⟨Anchor.ofText text.toList, names.filter fun name => name ≠ "" && name ≠ "."⟩

/-- Writes a path; one that says nothing is `.`. -/
def text (path : Path) : String :=
  if path.anchor = .here ∧ path.names = [] then "."
  else path.anchor.text ++ "/".intercalate path.names

end Path

end TenantHost
