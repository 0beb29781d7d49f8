import TenantHost.Account.Strategy
/-!
# Creation reports

What was planned for a new account and how far it got. Steps run in order and stop at the first
failure, and nothing is undone, so an account may be left half created.
-/

namespace TenantHost

/-- How a step ended. -/
structure StepOutcome where
  step : Step
  succeeded : Bool
  output : String
  error : Option String
  deriving DecidableEq, Repr

/-- The record of an attempt to create an account. -/
structure Report where
  user : String
  platform : Platform
  group : String
  groupError : Option String
  planned : List Step
  outcomes : List StepOutcome
  deriving DecidableEq, Repr

namespace Report

/-- Whether a group was found and every planned step was done. -/
def succeeded (report : Report) : Bool :=
  report.groupError.isNone && !report.planned.isEmpty &&
    report.outcomes.length == report.planned.length && report.outcomes.all StepOutcome.succeeded

/-- Whether a step was done and yet the attempt did not succeed. -/
def partiallyApplied (report : Report) : Bool :=
  report.outcomes.any StepOutcome.succeeded && !report.succeeded

/-- The step that failed, if one did. -/
def failedStep (report : Report) : Option StepOutcome :=
  report.outcomes.find? fun outcome => !outcome.succeeded

/-- The descriptions of the steps that were done. -/
def completed (report : Report) : List String :=
  (report.outcomes.filter StepOutcome.succeeded).map fun outcome => outcome.step.description

end Report

end TenantHost
