import TenantHost.Command.Runner
import TenantHost.Resource.Metric
/-!
# Hosts

What a host does for the process that runs on it: every outside party is an action on one state, the
outside, whatever that is.
-/

namespace TenantHost

/-- The outside parties of a process. -/
structure Host (σ : Type) where
  execute : Executor σ
  systemName : Action σ String
  userName : Action σ String
  processId : Action σ Int
  cpuCount : Action σ (Option Int)
  fileExists : Path → Action σ Bool
  readFile : Path → Action σ (List UInt8)
  sensors : Sensors σ

end TenantHost
