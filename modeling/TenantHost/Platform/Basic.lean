/-!
# Platform families

The family of operating systems that a host belongs to. It is read off the name of the system by its
first letters; every name that is not known otherwise counts as Linux.
-/

namespace TenantHost

/-- A family of operating systems. -/
inductive Platform where
  | linux
  | macos
  | windows
  | other
  deriving DecidableEq, Repr

namespace Platform

/-- The name of a family. -/
def name : Platform → String
  | .linux => "linux"
  | .macos => "macos"
  | .windows => "windows"
  | .other => "other"

/-- The family that a system's name belongs to. -/
def classify (systemName : String) : Platform :=
  if systemName.startsWith "Mac" then .macos
  else if systemName.startsWith "Windows" then .windows
  else .linux

/-- The usual name of a system, where the host reports another one. -/
def conventionalName (reported : String) : String :=
  if reported = "Darwin" then "Mac OS X" else reported

end Platform

end TenantHost
