import Sc2pp.Impl.SC2Client

/-!
This module contains the requests of the client as one question each (two for `step`) and what the
client makes of the reply.
-/

namespace Sc2.SC2Client

open Proto

def createGameOf (reply : Option Response) : Outcome Bool :=
  match reply with
  | none => .error .nullDeref
  | some response => .ok ((response.createGame?.getD {}).error.isNone)

def joinGameOf (reply : Option Response) : Outcome UInt32 :=
  match reply with
  | none => .ok (-1)
  | some response =>
    match response.joinGame? with
    | none => .ok (-1)
    | some joined => .ok (if joined.error.isSome then -1 else joined.playerId.getD 0)

def observationOf (simulationLoop : UInt32) (reply : Option Response)
    : Outcome (UInt32 × ResponseObservation) :=
  match reply with
  | none => .error .nullDeref
  | some response =>
    match response.observation? with
    | none => .error (.exception "no obs in response: ")
    | some observation => .ok (simulationLoop, observation)

def pingOf (reply : Option Response) : Outcome Bool :=
  match reply with
  | none => .error .nullDeref
  | some response => .ok response.hasPing

def gameInfoOf (reply : Option Response) : Outcome GameInfo :=
  match reply with
  | none => .error (.exception "get_game_info failed")
  | some response => (response.gameInfo?.getD {}).fromProto

def dataOf {T : Type} (select : ResponseData → List T) (reply : Option Response)
    : Outcome (List T) :=
  match reply with
  | none => .error (.exception "get_unit_type_data failed")
  | some response => .ok (select (response.data?.getD {}))

theorem observationOf_eq_ok {simulationLoop simulationLoop' : UInt32} {reply : Option Response}
    {observation : ResponseObservation}
    (h : observationOf simulationLoop reply = .ok (simulationLoop', observation))
    : ∃ response, reply = some response ∧ response.observation? = some observation := by
  unfold observationOf at h
  split at h
  . cases h
  . next response =>
    split at h
    . cases h
    . next observation' hobs =>
      cases h
      exact ⟨response, rfl, hobs⟩

theorem observationOf_answered {simulationLoop : UInt32} {reply : Option Response}
    {observation : ResponseObservation}
    (h : reply.bind Response.observation? = some observation)
    : observationOf simulationLoop reply = .ok (simulationLoop, observation) := by
  rcases Option.bind_eq_some_iff.mp h with ⟨response, rfl, hobs⟩
  simp only [observationOf, hobs]

theorem createGame_eq : createGame = Dialogue.asking createGameRequest createGameOf := by
  unfold createGame
  apply Dialogue.send_bind_eq_asking
  intro reply
  cases reply with
  | none => rfl
  | some response =>
    change (if (response.createGame?.getD {}).error.isSome then pure false else pure true) = _
    simp only [createGameOf]
    cases (response.createGame?.getD {}).error with
    | none => rfl
    | some error => rfl

theorem joinGame_eq (race : Race)
    : joinGame race = Dialogue.asking (joinGameRequest race) joinGameOf := by
  unfold joinGame
  apply Dialogue.send_bind_eq_asking
  intro reply
  cases reply with
  | none => rfl
  | some response =>
    simp only [joinGameOf]
    cases response.joinGame? with
    | none => rfl
    | some joined =>
      cases herror : joined.error.isSome with
      | true => simp only [herror]; rfl
      | false => simp only [herror]; rfl

theorem step_eq
    : step = Dialogue.send stepRequest >>= fun stepResponse =>
        match stepResponse.bind Response.step? with
        | none => Dialogue.fail (.exception "step filed!: ")
        | some responseStep =>
          Dialogue.asking observationRequest
            (observationOf (responseStep.simulationLoop.getD 0)) := by
  unfold step
  congr 1
  funext stepResponse
  cases stepResponse.bind Response.step? with
  | none => rfl
  | some responseStep =>
    apply Dialogue.send_bind_eq_asking
    intro reply
    cases reply with
    | none => rfl
    | some response =>
      simp only [observationOf, Option.bind_some]
      cases response.observation? with
      | none => rfl
      | some observation => rfl

theorem ping_eq : ping = Dialogue.asking pingRequest pingOf := by
  unfold ping
  apply Dialogue.send_bind_eq_asking
  intro reply
  cases reply with
  | none => rfl
  | some response => rfl

theorem getGameInfo_eq : getGameInfo = Dialogue.asking gameInfoRequest gameInfoOf := by
  unfold getGameInfo
  apply Dialogue.send_bind_eq_asking
  intro reply
  cases reply with
  | none => rfl
  | some response =>
    simp only [gameInfoOf]
    cases (response.gameInfo?.getD {}).fromProto with
    | error fault => rfl
    | ok info => rfl

theorem getData_eq {T : Type} (what : RequestData) (select : ResponseData → List T)
    : getData what select = Dialogue.asking (dataRequest what) (dataOf select) := by
  unfold getData
  apply Dialogue.send_bind_eq_asking
  intro reply
  cases reply with
  | none => rfl
  | some response => rfl

end Sc2.SC2Client
