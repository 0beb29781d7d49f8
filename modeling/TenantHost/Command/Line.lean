import TenantHost.Text.Lines
/-!
# Command lines

A command is a list of arguments. A command line is cut into arguments at blanks and knows no
quotes, so an argument that is empty or holds a blank cannot be written in one: exactly the other
lists of arguments are read back from their lines.
-/

namespace TenantHost.Command

/-- The arguments of a command line: its words. -/
def tokenize (line : String) : List String :=
  (Text.words line.toList).map String.ofList

/-- The arguments joined by single spaces. -/
def line (argv : List String) : String :=
  " ".intercalate argv

/-- A command with a tenant's name in front of it, so that it runs as that tenant. -/
def asTenant (tenant command : String) : String :=
  "sudo -u " ++ tenant ++ " " ++ command

end TenantHost.Command
