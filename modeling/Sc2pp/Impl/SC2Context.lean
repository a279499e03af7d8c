import Sc2pp.Impl.Actions
import Sc2pp.Impl.Map

/-!
This module contains the context an agent plays with. The query object it also holds has no state of
its own, it is a handle of the session.
-/

namespace Sc2

structure SC2Context where
  obs : Observation
  map : Map
  act : Actions

namespace SC2Context

def new (obs : Observation) : Outcome SC2Context := do
  let map ← Map.new obs
  return { obs := obs, map := map, act := {} }

def update (context : SC2Context) (responseObs : Proto.ResponseObservation)
    : Outcome SC2Context := do
  let obs ← context.obs.update responseObs
  return { context with obs := obs }

end SC2Context

end Sc2
