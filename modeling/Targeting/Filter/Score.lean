import Targeting.Log.Logged

/-!
# Score filters

Every score filter of a query has to accept the score of the entity. A score
that cannot be found fails the filter and is reported; a fault of the host
breaks the check off.
-/
namespace Targeting

/-- Turns a host answer into a step that may fail otherwise too. -/
def asked {α : Type} (answer : Except Fault α) : Except Failure α := answer.mapError .host

def found {α : Type} (error : ResolutionError) : Option α → Except Failure α
  | some value => .ok value
  | none => .error (.unresolved error)

def Entity.scoreOn (e : Entity) (objective : String) (board : Option Scoreboard) :
    Except Failure Int := do
  match ← asked e.identity with
  | none => throw (.unresolved (.noIdentity (← asked e.id)))
  | some identity =>
    let board ← found (.noScoreboard objective) board
    let counter ← found (.noObjective objective) (← asked (board.objective objective))
    found (.noScore objective identity.displayName) (← asked (counter.score identity))

def Entity.meetsScores (e : Entity) (board : Option Scoreboard) :
    List ScoreFilter → ExceptT Fault Logged Bool
  | [] => pure true
  | filter :: rest =>
    match e.scoreOn filter.objective board with
    | .ok score => if filter.accepts score then meetsScores e board rest else pure false
    | .error (.unresolved error) => do
      let id ← e.id
      note (.scoreUnavailable id error)
      return false
    | .error (.host fault) => throw fault

end Targeting
