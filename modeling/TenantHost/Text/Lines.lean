import TenantHost.Text.Blank
/-!
# Lines

The output of a command is cut at `\n`, and the empty lines at its end are dropped. A text file is
first brought to one kind of line end: `\r\n` and a lone `\r` become `\n`.
-/

namespace TenantHost.Text

/-- Drops the empty lines at the end. -/
def dropTrailingEmpty (ls : List (List Char)) : List (List Char) :=
  (ls.reverse.dropWhile List.isEmpty).reverse

/-- The lines of a command's output, without the empty lines at its end. -/
def outputLines (output : List Char) : List (List Char) :=
  dropTrailingEmpty (fields (· == '\n') output)

/-- Brings every line end to `\n`: `\r\n` and a lone `\r` count as one each. -/
def unifyNewlines : List Char → List Char
  | [] => []
  | '\r' :: '\n' :: rest => '\n' :: unifyNewlines rest
  | c :: rest => (if c = '\r' then '\n' else c) :: unifyNewlines rest

/-- The elements joined by a separator. -/
def joined (separator : String) (parts : List String) : String :=
  separator.intercalate parts

end TenantHost.Text
