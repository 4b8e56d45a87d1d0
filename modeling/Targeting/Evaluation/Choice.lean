import Targeting.Evaluation.Order
import Targeting.Evaluation.Sample
import Targeting.Filter.Item
import Targeting.Filter.Score
import Targeting.Selector.Reading
import Targeting.Text.Quoted

/-!
# Choosing entities

A selector chooses entities of a host. The symbol shapes the query, the origin
follows from the query and the context, the pool is asked for candidates, and
every candidate is checked again before the choice is ordered and cut.
-/
namespace Targeting

/-- What a choice depends on besides the selector. -/
structure Context where
  host : Host
  location : Option Point := none
  executor : Option Entity := none
  picks : List Int := []

/-- The location given, else that of the executor. -/
def Context.base (context : Context) : Except Fault (Option Point) :=
  match context.location, context.executor with
  | some location, _ => .ok (some location)
  | none, some executor => executor.location.map some
  | none, none => .ok none

namespace Query

/-- Whether the query by itself narrows a random choice. -/
def narrows (q : Query) : Bool :=
  q.type.any (!·.isEmpty) || !q.tags.isEmpty || !q.families.isEmpty || q.name.any (!·.isEmpty)

def forSymbol (q : Query) (symbol : Symbol) (settings : Settings) : Query :=
  match symbol with
  | .nearestPlayer =>
    { q with type := some settings.playerTypeId, count := some (q.count.getD ⟨.closest, 1⟩) }
  | .players => { q with type := some settings.playerTypeId }
  | .randomPlayer =>
    -- The count of a random choice is a sample size and not a limit.
    if q.narrows then { q with count := none }
    else { q with count := none, type := some settings.playerTypeId }
  | .everyone => q
  | .self => q

def sampleSize (q : Query) (symbol : Symbol) (settings : Settings) : Option Nat :=
  if symbol = .randomPlayer then some ((q.count.map (·.size)).getD settings.defaultRandomCount)
  else none

/-- The origin of a query in a context, if anything is measured from one. -/
def originIn (q : Query) (context : Context) : Except Fault (Option Point) := do
  match q.origin with
  | some anchor => return some (anchor.resolve (← context.base))
  | none => if q.needsOrigin then return some ((← context.base).getD {}) else return none

end Query

def Entity.passes (e : Entity) (q : Query) (origin : Option Point) (settings : Settings)
    (board : Option Scoreboard) : ExceptT Fault Logged Bool := do
  if !(← e.meets q origin settings) then return false
  if !(← e.meetsScores board q.scores) then return false
  match q.volume, origin with
  | some volume, some start =>
    if withinBox (← e.location) start volume then e.meetsItems q.items settings else return false
  | _, _ => e.meetsItems q.items settings

def passing (q : Query) (origin : Option Point) (settings : Settings)
    (board : Option Scoreboard) : List Entity → ExceptT Fault Logged (List Entity)
  | [] => pure []
  | e :: rest => do
    let passes ← e.passes q origin settings board
    let others ← passing q origin settings board rest
    return if passes then e :: others else others

def measured (center : Point) (entities : List Entity) : Except Fault (List (Float × Entity)) :=
  entities.mapM fun e => do return ((← e.location).distanceSquared center, e)

/-- The first entities of the order that a limit asks for. -/
def limited (limit : CountLimit) (center : Point) (entities : List Entity) :
    Except Fault (List Entity) := do
  let items ← measured center entities
  let ordered :=
    match limit.proximity with
    | .closest => Evaluation.sortUp items
    | .farthest => Evaluation.sortDown items
  return (ordered.map (·.2)).take limit.size

/-- A selector with the settings it was made with and the text it was made from. -/
structure Chooser where
  selector : Selector
  settings : Settings := {}
  given : Option String := none

namespace Chooser

def describe (c : Chooser) : String :=
  "EntitySelector(" ++ ((c.given.map Text.quoted).getD absentWord) ++ ")"

variable (c : Chooser) (context : Context)

def query : Query := c.selector.query.forSymbol c.selector.symbol c.settings

/-- What the pool is asked; the executor alone needs no pool. -/
def poolQuery? : Except Fault (Option PoolQuery) :=
  if c.selector.symbol = .self then .ok none
  else do
    let origin ← c.query.originIn context
    return some ⟨{ c.query with count := none }, origin⟩

/-- The executor, if it passes. The distance from the origin does not matter to it. -/
def chooseSelf : ExceptT Fault Logged (List Entity) := do
  let q := c.selector.query
  match context.executor with
  | none =>
    note (.choseNothing c.given .noExecutor)
    return []
  | some e =>
    if !(← e.meets q none c.settings) then return []
    if !(← e.meetsScores context.host.scoreboard q.scores) then return []
    if !(← e.meetsItems q.items c.settings) then return []
    -- Only a volume needs the origin here.
    match q.volume with
    | none => return [e]
    | some volume =>
      let origin := (← q.originIn context).getD {}
      return if withinBox (← e.location) origin volume then [e] else []

/-- The entities of the pool that pass, ordered and cut. -/
def choosePool : ExceptT Fault Logged (List Entity) := do
  let q := c.query
  let origin ← q.originIn context
  -- The pool is not told the count: it might cut before the checks.
  match context.host.pool ⟨{ q with count := none }, origin⟩ with
  | .error fault =>
    note (.choseNothing c.given (.poolFailed fault))
    return []
  | .ok candidates =>
    let accepted ← passing q origin c.settings context.host.scoreboard candidates
    match c.selector.query.sampleSize c.selector.symbol c.settings, q.count with
    | some size, _ => return Evaluation.sample context.picks size accepted
    | none, none => return accepted
    | none, some limit => limited limit (origin.getD {}) accepted

def choose : ExceptT Fault Logged (List Entity) :=
  if c.selector.symbol = .self then c.chooseSelf context else c.choosePool context

end Chooser

end Targeting
