import Sc2pp.Proto.Raw

/-!
This module contains the requests a client sends and the responses the game gives. The payload of
either is a `oneof`. The value of an error code is never looked at, so it is a number.
-/

namespace Sc2.Proto

structure LocalMap where
  mapPath : Option String := none
  deriving DecidableEq, Repr

structure PlayerSetup where
  type : Option PlayerType := none
  race : Option Race := none
  difficulty : Option Difficulty := none
  deriving DecidableEq, Repr

structure RequestCreateGame where
  localMap : Option LocalMap := none
  playerSetup : List PlayerSetup := []
  realtime : Option Bool := none
  deriving DecidableEq, Repr

structure InterfaceOptions where
  raw : Option Bool := none
  score : Option Bool := none
  deriving DecidableEq, Repr

structure RequestJoinGame where
  race : Option Race := none
  options : Option InterfaceOptions := none
  deriving DecidableEq, Repr

structure RequestStep where
  count : Option UInt32 := none
  deriving DecidableEq, Repr

structure RequestData where
  abilityId : Option Bool := none
  unitTypeId : Option Bool := none
  deriving DecidableEq, Repr

structure RequestQueryAvailableAbilities where
  unitTag : Option Tag := none
  deriving DecidableEq, Repr

structure RequestQueryBuildingPlacement where
  abilityId : Option Int32 := none
  targetPos : Option Point2D := none
  deriving DecidableEq, Repr

structure RequestQuery where
  abilities : List RequestQueryAvailableAbilities := []
  placements : List RequestQueryBuildingPlacement := []
  ignoreResourceRequirements : Option Bool := none
  deriving DecidableEq, Repr

inductive Request.Payload where
  | createGame (request : RequestCreateGame)
  | joinGame (request : RequestJoinGame)
  | gameInfo
  | observation
  | action (request : RequestAction)
  | step (request : RequestStep)
  | data (request : RequestData)
  | query (request : RequestQuery)
  | ping
  deriving DecidableEq, Repr

structure Request where
  payload : Option Request.Payload := none
  deriving DecidableEq, Repr, Inhabited

namespace Request

def hasAction (request : Request) : Bool :=
  match request.payload with
  | some (.action _) => true
  | _ => false

def action (request : Request) : RequestAction :=
  match request.payload with
  | some (.action r) => r
  | _ => {}

def withAction (request : Request) (f : RequestAction → RequestAction) : Request :=
  { request with payload := some (.action (f request.action)) }

@[simp]
theorem action_withAction (request : Request) (f : RequestAction → RequestAction)
    : (request.withAction f).action = f request.action := by
  rfl

end Request

structure ResponseCreateGame where
  error : Option Int32 := none
  errorDetails : Option String := none
  deriving DecidableEq, Repr, Inhabited

structure ResponseJoinGame where
  playerId : Option UInt32 := none
  error : Option Int32 := none
  errorDetails : Option String := none
  deriving DecidableEq, Repr, Inhabited

structure ResponseGameInfo where
  mapName : Option String := none
  localMapPath : Option String := none
  startRaw : Option StartRaw := none
  deriving DecidableEq, Repr, Inhabited

structure ResponseStep where
  simulationLoop : Option UInt32 := none
  deriving DecidableEq, Repr, Inhabited

structure UnitTypeData where
  unitId : Option UInt32 := none
  mineralCost : Option UInt32 := none
  vespeneCost : Option UInt32 := none
  deriving DecidableEq, Repr

structure AbilityData where
  abilityId : Option UInt32 := none
  footprintRadius : Option Rat := none
  deriving DecidableEq, Repr

structure ResponseData where
  abilities : List AbilityData := []
  units : List UnitTypeData := []
  deriving DecidableEq, Repr, Inhabited

structure AvailableAbility where
  abilityId : Option Int32 := none
  requiresPoint : Option Bool := none
  deriving DecidableEq, Repr

structure ResponseQueryAvailableAbilities where
  abilities : List AvailableAbility := []
  unitTag : Option Tag := none
  unitTypeId : Option UInt32 := none
  deriving DecidableEq, Repr

structure ResponseQueryBuildingPlacement where
  result : Option ActionResult := none
  deriving DecidableEq, Repr

structure ResponseQuery where
  abilities : List ResponseQueryAvailableAbilities := []
  placements : List ResponseQueryBuildingPlacement := []
  deriving DecidableEq, Repr, Inhabited

inductive Response.Payload where
  | createGame (response : ResponseCreateGame)
  | joinGame (response : ResponseJoinGame)
  | gameInfo (response : ResponseGameInfo)
  | observation (response : ResponseObservation)
  | step (response : ResponseStep)
  | data (response : ResponseData)
  | query (response : ResponseQuery)
  | ping
  | other
  deriving Repr

structure Response where
  payload : Option Response.Payload := none
  deriving Repr, Inhabited

namespace Response

def createGame? (response : Response) : Option ResponseCreateGame :=
  match response.payload with
  | some (.createGame r) => some r
  | _ => none

def joinGame? (response : Response) : Option ResponseJoinGame :=
  match response.payload with
  | some (.joinGame r) => some r
  | _ => none

def gameInfo? (response : Response) : Option ResponseGameInfo :=
  match response.payload with
  | some (.gameInfo r) => some r
  | _ => none

def observation? (response : Response) : Option ResponseObservation :=
  match response.payload with
  | some (.observation r) => some r
  | _ => none

def step? (response : Response) : Option ResponseStep :=
  match response.payload with
  | some (.step r) => some r
  | _ => none

def data? (response : Response) : Option ResponseData :=
  match response.payload with
  | some (.data r) => some r
  | _ => none

def query? (response : Response) : Option ResponseQuery :=
  match response.payload with
  | some (.query r) => some r
  | _ => none

def hasPing (response : Response) : Bool :=
  match response.payload with
  | some .ping => true
  | _ => false

end Response

end Sc2.Proto
