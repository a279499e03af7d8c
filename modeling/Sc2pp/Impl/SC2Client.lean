import Sc2pp.Impl.Agent
import Sc2pp.Impl.SC2Session

/-!
This module contains the client: starting and joining a game, and the loop body that steps the game
and lets the agent act. What the source prints is left out, except where it reads a response it prints.

`get_unit_type_data` and `get_ability_data` differ in what they ask for and select, not in the text of
their exception. The three loaders of `createContext` are arguments of one constructor call, they run
from left to right here. A `T` of `joinGame<T>` is given by its state and its `update`.
-/

namespace Sc2

structure SC2Client (σ : Type) where
  agent : Option (Agent σ)
  prevLoop : UInt32

namespace SC2Client

def gameInfoRequest : Proto.Request where
  -- The source asks to create a game first, which the next member of the `oneof` replaces.
  payload := some .gameInfo

def getGameInfo : Talk GameInfo := do
  let gameInfo ← Dialogue.send gameInfoRequest
  match gameInfo with
  | none => Dialogue.fail (.exception "get_game_info failed")
  | some gameInfo =>
    let info ← (gameInfo.gameInfo?.getD {}).fromProto
    return info

def dataRequest (what : Proto.RequestData) : Proto.Request where
  payload := some (.data what)

def getData {T : Type} (what : Proto.RequestData) (select : Proto.ResponseData → List T)
    : Talk (List T) := do
  let response ← Dialogue.send (dataRequest what)
  match response with
  | none => Dialogue.fail (.exception "get_unit_type_data failed")
  | some response =>
    let responseData := response.data?.getD {}
    return select responseData

def getUnitTypeData : Talk (List Proto.UnitTypeData) :=
  getData { unitTypeId := some true } Proto.ResponseData.units

def getAbilityData : Talk (List Proto.AbilityData) :=
  getData { abilityId := some true } Proto.ResponseData.abilities

def createGameRequest : Proto.Request where
  payload := some (.createGame {
    localMap := some { mapPath := some "ai/2000AtmospheresAIE.SC2Map" }
    playerSetup := [PlayerType.computer, PlayerType.participant].map fun type => {
      type := some type
      race := some .protoss
      difficulty := some .hard
    }
    realtime := some false
  })

def createGame : Talk Bool := do
  let response ← Dialogue.send createGameRequest
  -- The source has `!response && !response->has_create_game()`.
  let invalid ←
    if response.isNone then do
      let response ← Outcome.deref response
      pure response.createGame?.isNone
    else
      pure false
  if invalid then
    return false
  let response ← Outcome.deref response
  let createGame := response.createGame?.getD {}
  if createGame.error.isSome then
    return false
  return true

def joinGameRequest (race : Race) : Proto.Request where
  payload := some (.joinGame {
    race := some race
    options := some { raw := some true, score := some true }
  })

def joinGame (race : Race) : Talk UInt32 := do
  let response ← Dialogue.send (joinGameRequest race)
  match response with
  | none => return -1
  | some response =>
    match response.joinGame? with
    | none => return -1
    | some responseJoinGame =>
      if responseJoinGame.error.isSome then
        return -1
      return responseJoinGame.playerId.getD 0

def createContext : Talk SC2Context := do
  let gameInfo ← getGameInfo
  let unitTypeData ← getUnitTypeData
  let abilityData ← getAbilityData
  SC2Context.new (Observation.new gameInfo unitTypeData abilityData)

variable {σ : Type}

def joinGameAs (client : SC2Client σ) (state : σ) (update : σ → Observation → Agent.Program σ)
    : Talk (Bool × SC2Client σ) := do
  let id ← joinGame .protoss
  if id == -1 then
    return (false, client)
  let sc2 ← createContext
  let agent : Agent σ := { id := id, sc2 := sc2, state := state, update := update }
  return (true, { client with agent := some agent })

def stepRequest : Proto.Request where
  payload := some (.step { count := some 1 })

def observationRequest : Proto.Request where
  payload := some .observation

def step : Talk (UInt32 × Proto.ResponseObservation) := do
  let stepResponse ← Dialogue.send stepRequest
  match stepResponse.bind Proto.Response.step? with
  | none => Dialogue.fail (.exception "step filed!: ")
  | some responseStep =>
    let simulationLoop := responseStep.simulationLoop.getD 0
    let response ← Dialogue.send observationRequest
    match response.bind Proto.Response.observation? with
    | none =>
      -- The response is printed before the exception is thrown.
      let _ ← Outcome.deref response
      Dialogue.fail (.exception "no obs in response: ")
    | some observation => return (simulationLoop, observation)

def update (client : SC2Client σ) : Talk (Option Proto.PlayerResult × SC2Client σ) := do
  let (simulationLoop, responseObservation) ← step
  let agent ← Outcome.deref client.agent
  let (actions, agent) ← agent.step responseObservation
  let _ ← Dialogue.send actions
  let client := { client with agent := some agent }
  if responseObservation.playerResult.isEmpty then
    return (none, client)
  match responseObservation.playerResult.find? (fun res => res.playerId.getD 0 == agent.id) with
  | some res => return (some res, client)
  | none =>
    let client := { client with prevLoop := simulationLoop }
    Outcome.assertThat false
    return (none, client)

def pingRequest : Proto.Request where
  payload := some .ping

def ping : Talk Bool := do
  let response ← Dialogue.send pingRequest
  let response ← Outcome.deref response
  return response.hasPing

end SC2Client

end Sc2
