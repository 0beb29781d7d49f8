import TenantHost.Double.Basic
import TenantHost.Path
/-!
# Settings

What a host is configured with: the thresholds from which work is refused, and how accounts are
managed.
-/

namespace TenantHost

/-- The thresholds of admission: the greatest load, and the least available memory in gigabytes. -/
structure Thresholds where
  maxLoad : Double
  reservedMemory : Double
  deriving DecidableEq

/-- Whether tenants' commands get a prefix, and where the account database is. -/
structure AccountPolicy where
  sudoEnable : Bool
  database : Path
  deriving DecidableEq, Repr

/-- The settings of a host. -/
structure Settings where
  thresholds : Thresholds
  accounts : AccountPolicy
  deriving DecidableEq

namespace Settings

/-- The account database of a host that does not say otherwise. -/
def defaultDatabase : String := "/etc/passwd"

/-- The memory that is kept free on a host that does not say otherwise: 0.3 gigabytes. -/
def defaultReservedMemory : Double := Double.ofRatio false 3 10

/-- The least threshold for the load: 0.01. -/
def leastMaxLoad : Double := Double.ofRatio false 1 100

end Settings

end TenantHost
