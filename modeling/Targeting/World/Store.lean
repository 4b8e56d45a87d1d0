import Targeting.World.Board
import Targeting.World.Body

/-!
# Worlds in memory

A world keeps its bodies under handles, the handles that are in the pool, and a
scoreboard. One counter numbers the entities that come without an id and the
scoreboard identities as they are made.
-/
namespace Targeting

inductive PoolService where
  /-- Filters by type, name and tags. -/
  | filtering
  | unfiltered
  | broken
deriving DecidableEq, Repr

structure World where
  bodies : List Body := []
  pool : List Nat := []
  service : PoolService := .filtering
  board : Option Board := some {}
  next : Nat := 1
deriving DecidableEq, Repr

/-- Who holds a score: an entity or a bare name. -/
inductive Holder where
  | entity (handle : Nat)
  | named (name : String)
deriving DecidableEq, Repr

/-- The scoreboard identity that a new body starts with. -/
inductive Naming where
  | none
  /-- One of its own. -/
  | own
  /-- That of an earlier entity. -/
  | shared (handle : Nat)
deriving DecidableEq, Repr

/-- A body before the world has numbered it. Without an id it gets a number for one. -/
structure Draft where
  body : Body
  id : Option String := none
  naming : Naming := .none
deriving DecidableEq, Repr

namespace World

def brokenFault : Fault := ⟨"engine offline"⟩

def body? (w : World) (handle : Nat) : Option Body := w.bodies[handle]?

def entity? (w : World) (handle : Nat) : Option Entity := (w.body? handle).map (·.entity handle)

def pooled (w : World) : List (Nat × Body) :=
  w.pool.filterMap fun handle => (w.body? handle).map fun body => (handle, body)

def filtered (q : Query) : List (Nat × Body) → Except Fault (List (Nat × Body))
  | [] => .ok []
  | entry :: rest => do
    let kept ← entry.2.mayMatch q
    let others ← filtered q rest
    return if kept then entry :: others else others

def answer (w : World) (asked : PoolQuery) : Except Fault (List Entity) :=
  match w.service with
  | .broken => .error brokenFault
  | .unfiltered => .ok (w.pooled.map fun (handle, body) => body.entity handle)
  | .filtering => do
    let kept ← filtered asked.query w.pooled
    return kept.map fun (handle, body) => body.entity handle

def host (w : World) : Host where
  pool := w.answer
  scoreboard := w.board.map (·.scoreboard)

def takeNumber : StateM World Nat := do
  let w ← get
  set { w with next := w.next + 1 }
  return w.next

def changeBody (handle : Nat) (change : Body → Body) : StateM World Unit :=
  modify fun w => { w with bodies := w.bodies.modify handle change }

/-- The scoreboard identity of an entity, made on first use; says whether it was made. -/
def ensureIdentity (handle : Nat) : StateM World (Option (Identity × Bool)) := do
  match (← get).body? handle with
  | none => return none
  | some body =>
    match body.identity with
    | some identity => return some (identity, false)
    | none =>
      let identity : Identity := ⟨← takeNumber, body.scoreName⟩
      changeBody handle fun body => { body with identity := some identity }
      return some (identity, true)

/-- The identity of a bare name, made on first use. -/
def namedIdentity (name : String) : StateM World (Option Identity) := do
  match (← get).board with
  | none => return none
  | some board =>
    match Keyed.get? name board.named with
    | some identity => return some identity
    | none =>
      let identity : Identity := ⟨← takeNumber, name⟩
      modify fun w => { w with board := w.board.map fun board =>
        { board with named := Keyed.put name identity board.named } }
      return some identity

def identityOf : Holder → StateM World (Option Identity)
  | .entity handle => do return (← ensureIdentity handle).map (·.1)
  | .named name => namedIdentity name

/-- Makes a body of a draft: first its id, then its identity. Returns its handle. -/
def make (draft : Draft) : StateM World Nat := do
  let id ← match draft.id with
    | some id => pure id
    | none => (toString ·) <$> takeNumber
  let w ← get
  let handle := w.bodies.length
  -- Handles are places in the list, so bodies are never removed from it.
  set { w with bodies := w.bodies ++ [{ draft.body with id }] }
  match draft.naming with
  | .none => return handle
  | .own =>
    discard <| ensureIdentity handle
    return handle
  | .shared other =>
    let identity := (← ensureIdentity other).map (·.1)
    changeBody handle fun body => { body with identity }
    return handle

def add (draft : Draft) : StateM World Nat := do
  let handle ← make draft
  modify fun w => { w with pool := w.pool ++ [handle] }
  return handle

/-- Takes an entity out of the pool; `false` if it is not in it. -/
def remove (handle : Nat) : StateM World Bool := do
  let w ← get
  if w.pool.contains handle then
    set { w with pool := w.pool.erase handle }
    return true
  else return false

/-- Adds an objective; `false` if it exists or there is no board. -/
def addObjective (objective : String) : StateM World Bool := do
  let w ← get
  match w.board.bind (·.addObjective? objective) with
  | some board =>
    set { w with board := some board }
    return true
  | none => return false

def scores? (w : World) (objective : String) : Option (List (Identity × Int)) :=
  w.board.bind (·.scores? objective)

def changeBoard (change : Board → Board) : StateM World Unit :=
  modify fun w => { w with board := w.board.map change }

/-- The scores of an objective, asked of the service of the board. -/
def lookUp (w : World) (objective : String) : Except Fault (Option (List (Identity × Int))) :=
  match w.board with
  | none => .ok none
  | some board =>
    if board.service = .offline then .error Board.offlineFault else .ok (board.scores? objective)

/-- Sets a score; the holder is looked up only if the objective exists. -/
def setScore (objective : String) (holder : Holder) (score : Int) : StateM World Unit := do
  if ((← get).scores? objective).isSome then
    match ← identityOf holder with
    | some identity => changeBoard (·.setScore objective identity score)
    | none => return

def resetScore (objective : String) (holder : Holder) : StateM World Unit := do
  if ((← get).scores? objective).isSome then
    match ← identityOf holder with
    | some identity => changeBoard (·.resetScore objective identity)
    | none => return

def score? (objective : String) (holder : Holder) : StateM World (Option Int) := do
  -- Even to be asked for a score, a holder is given an identity.
  if ((← get).scores? objective).isNone then return none
  match ← identityOf holder with
  | some identity => return (← get).board.bind (·.score? objective identity)
  | none => return none

end World

end Targeting
