import Targeting.Message.Renderer
import Targeting.World.Store

/-!
# Sessions

A world with a point of view on it and the selectors that were made so far.
-/
namespace Targeting

/-- Where selectors are evaluated from, and the picks of random choices. -/
structure Viewpoint where
  location : Option Point := none
  executor : Option Nat := none
  picks : List Int := []
deriving DecidableEq, Repr

structure Session where
  world : World := {}
  view : Viewpoint := {}
  cache : Selector.Cache := {}
  prepared : List (String × Chooser) := []

/-- A step of a session, with the notices it reports. -/
abbrev Step := StateT Session Logged

namespace Session

def context (s : Session) : Context where
  host := s.world.host
  location := s.view.location
  executor := s.view.executor.bind s.world.entity?
  picks := s.view.picks

def inWorld {α : Type} (step : StateM World α) : Step α := do
  let s ← get
  let (result, world) := step.run s.world
  set { s with world }
  return result

def rendering {α : Type} (step : Rendering α) : Step α := do
  let s ← get
  let (result, cache) ← StateT.lift (step.run s.cache)
  set { s with cache }
  return result

def chooser (given : Option String) (settings : Settings) : Step Chooser :=
  rendering (chooserOf given settings)

def choose (c : Chooser) : Step (Except Fault (List Entity)) := do
  StateT.lift (c.choose (← get).context).run

def prepare (name : String) (given : Option String) (settings : Settings) : Step Chooser := do
  let c ← chooser given settings
  modify fun s => { s with prepared := Keyed.put name c s.prepared }
  return c

/-- Renders a message, resolved in the session or in no context at all. -/
def render (raw : Json) (settings : Settings) (resolved : Bool) :
    Step (Except DigitLimit String) := do
  let s ← get
  let context := if resolved then some s.context else none
  rendering ((Renderer.mk context settings).render raw).run

end Session

end Targeting
