import Targeting.Host

/-!
# Resolution errors

Look-ups that a host answers with nothing, and failures in general.
-/
namespace Targeting

inductive ResolutionError where
  | noIdentity (entity : String)
  | noScoreboard (objective : String)
  | noObjective (objective : String)
  | noScore (objective holder : String)
  | noExecutor
  | poolFailed (fault : Fault)
  | noContext (selector : String)
deriving DecidableEq, Repr

namespace ResolutionError

def message : ResolutionError → String
  | .noIdentity _ => "Entity has no scoreboard identity"
  | .noScoreboard _ => "No scoreboard available"
  | .noObjective objective => "Objective not found: " ++ objective
  | .noScore objective _ => "No score on " ++ objective
  | .noExecutor => "@s requires an executor"
  | .poolFailed fault => "Entity pool query failed: " ++ fault.message
  | .noContext _ => "No execution context for selector"

end ResolutionError

/-- A step that the host broke off, or that found nothing. -/
inductive Failure where
  | host (fault : Fault)
  | unresolved (error : ResolutionError)
deriving DecidableEq, Repr

def Failure.message : Failure → String
  | .host fault => fault.message
  | .unresolved error => error.message

end Targeting
