import Sc2pp.Lemmas.Images
import Sc2pp.Lemmas.Query
import Sc2pp.Lemmas.Replies
import Mathlib.Tactic.MkIffOfInductiveProp

/-!
This module contains what the operations of a client make of the replies they get. The replies of a
run are the results of its calls of `SC2Session::send` in order, a call that was not made has no
response either. `Supplied` says that the replies have what an operation asks for, `Meets` how it
should end, and `Fits` for which replies it does end so.
-/

namespace Sc2

inductive Operation where
  | createGame
  | joinGame (race : Race)
  | step
  | ping
  | getGameInfo
  | getUnitTypeData
  | getAbilityData
  | abilitiesOfUnit (unit : Unit) (ignoreResourceRequirements : Bool)
  | abilities (units : Units) (ignoreResourceRequirements : Bool)
  | placement (building : AbilityId) (pos : Point2D) (ignoreResourceRequirements : Bool)

namespace Operation

open Proto

-- The result is whether the operation reports success.
def run : Operation → Talk Bool
  | createGame => SC2Client.createGame
  | joinGame race => do
    let id ← SC2Client.joinGame race
    return id != -1
  | step => do
    let _ ← SC2Client.step
    return true
  | ping => SC2Client.ping
  | getGameInfo => do
    let _ ← SC2Client.getGameInfo
    return true
  | getUnitTypeData => do
    let _ ← SC2Client.getUnitTypeData
    return true
  | getAbilityData => do
    let _ ← SC2Client.getAbilityData
    return true
  | abilitiesOfUnit unit ignore => do
    let _ ← Query.abilitiesOfUnit unit ignore
    return true
  | abilities units ignore => do
    let found ← Query.abilities units ignore
    return !found.isEmpty
  | placement building pos ignore => Query.placement building pos ignore

def reply (replies : List (Option Response)) (idx : Nat) : Option Response :=
  replies.getD idx none

def Supplied (replies : List (Option Response)) : Operation → Prop
  | createGame => ((reply replies 0).bind Response.createGame?).isSome
  | joinGame _ => ((reply replies 0).bind Response.joinGame?).isSome
  | step =>
    ((reply replies 0).bind Response.step?).isSome ∧
    ((reply replies 1).bind Response.observation?).isSome
  | ping => (reply replies 0).any Response.hasPing
  | getGameInfo => ((reply replies 0).bind Response.gameInfo?).isSome
  | getUnitTypeData => ((reply replies 0).bind Response.data?).isSome
  | getAbilityData => ((reply replies 0).bind Response.data?).isSome
  | abilitiesOfUnit _ _ =>
    ∃ query, (reply replies 0).bind Response.query? = some query ∧ query.abilities ≠ []
  | abilities units _ =>
    ∃ query, (reply replies 0).bind Response.query? = some query ∧
      units.length ≤ query.abilities.length
  | placement _ _ _ =>
    ∃ query, (reply replies 0).bind Response.query? = some query ∧ query.placements ≠ []

def ErrorFree (replies : List (Option Response)) : Operation → Prop
  | createGame => ∀ r, (reply replies 0).bind Response.createGame? = some r → r.error = none
  | joinGame _ => ∀ r, (reply replies 0).bind Response.joinGame? = some r → r.error = none
  | _ => True

@[mk_iff]
structure Meets (op : Operation) (replies : List (Option Response)) (result : Outcome Bool)
    : Prop where
  not_nullDeref : result ≠ .error .nullDeref
  not_outOfRange : result ≠ .error .outOfRange
  not_intOverflow : result ≠ .error .intOverflow
  fails : ¬ op.Supplied replies → result = .ok false ∨ ∃ what, result = .error (.exception what)
  succeeds : result = .ok true → op.Supplied replies ∧ op.ErrorFree replies

def Fits (replies : List (Option Response)) : Operation → Prop
  | createGame => ((reply replies 0).bind Response.createGame?).isSome
  | joinGame _ => True
  | step => ((reply replies 0).bind Response.step?).isSome → (reply replies 1).isSome
  | ping => (reply replies 0).isSome
  | getGameInfo =>
    ∀ r, reply replies 0 = some r →
      ∃ info, r.gameInfo? = some info ∧ ImagesFit (info.startRaw.getD {}).images
  | getUnitTypeData => ∀ r, reply replies 0 = some r → r.data?.isSome
  | getAbilityData => ∀ r, reply replies 0 = some r → r.data?.isSome
  | abilitiesOfUnit _ _ =>
    ∃ r, reply replies 0 = some r ∧ ∀ query, r.query? = some query → query.abilities ≠ []
  | abilities units _ =>
    ∀ query, (reply replies 0).bind Response.query? = some query →
      query.abilities = [] ∨ units.length ≤ query.abilities.length
  | placement _ _ _ =>
    ∀ query, (reply replies 0).bind Response.query? = some query → query.placements ≠ []

variable {log : List (Request × Option Response)} {result : Outcome Bool}

theorem meets_createGame (h : Dialogue.Runs createGame.run log result)
    : createGame.Meets (log.map Prod.snd) result ↔ createGame.Fits (log.map Prod.snd) := by
  simp only [run] at h
  rw [SC2Client.createGame_eq, Dialogue.runs_asking_iff] at h
  rcases h with ⟨response, rfl, rfl⟩
  cases response with
  | none => simp [meets_iff, Fits, reply, SC2Client.createGameOf]
  | some response =>
    cases hgame : response.createGame? with
    | none => simp [meets_iff, Fits, Supplied, reply, SC2Client.createGameOf, hgame]
    | some game =>
      cases herror : game.error with
      | none =>
        simp [meets_iff, Fits, Supplied, ErrorFree, reply, SC2Client.createGameOf, hgame, herror]
      | some error => simp [meets_iff, Fits, Supplied, reply, SC2Client.createGameOf, hgame, herror]

theorem meets_joinGame (race : Race) (h : Dialogue.Runs (joinGame race).run log result)
    : (joinGame race).Meets (log.map Prod.snd) result := by
  simp only [run] at h
  rw [SC2Client.joinGame_eq, Dialogue.asking_bind_pure, Dialogue.runs_asking_iff] at h
  rcases h with ⟨response, rfl, rfl⟩
  cases response with
  | none => simp [meets_iff, Supplied, reply, SC2Client.joinGameOf]
  | some response =>
    cases hgame : response.joinGame? with
    | none => simp [meets_iff, Supplied, reply, SC2Client.joinGameOf, hgame]
    | some game =>
      cases herror : game.error with
      | none => simp [meets_iff, Supplied, ErrorFree, reply, SC2Client.joinGameOf, hgame, herror]
      | some error => simp [meets_iff, Supplied, reply, SC2Client.joinGameOf, hgame, herror]

theorem meets_step (h : Dialogue.Runs step.run log result)
    : step.Meets (log.map Prod.snd) result ↔ step.Fits (log.map Prod.snd) := by
  simp only [run] at h
  rw [SC2Client.step_eq] at h
  simp only [bind_assoc, Dialogue.runs_send_bind_iff] at h
  rcases h with ⟨stepResponse, rest, rfl, h⟩
  cases hstep : stepResponse.bind Response.step? with
  | none =>
    simp only [hstep, Dialogue.runs_fail_bind] at h
    rcases h with ⟨rfl, rfl⟩
    simp [meets_iff, Fits, reply, hstep]
  | some responseStep =>
    simp only [hstep] at h
    rw [Dialogue.asking_bind_pure, Dialogue.runs_asking_iff] at h
    rcases h with ⟨response, rfl, rfl⟩
    cases response with
    | none => simp [meets_iff, Fits, reply, SC2Client.observationOf, hstep]
    | some response =>
      cases hobs : response.observation? with
      | none => simp [meets_iff, Fits, reply, SC2Client.observationOf, hstep, hobs]
      | some observation =>
        simp [meets_iff, Fits, Supplied, ErrorFree, reply, SC2Client.observationOf, hstep, hobs]

theorem meets_ping (h : Dialogue.Runs ping.run log result)
    : ping.Meets (log.map Prod.snd) result ↔ ping.Fits (log.map Prod.snd) := by
  simp only [run] at h
  rw [SC2Client.ping_eq, Dialogue.runs_asking_iff] at h
  rcases h with ⟨response, rfl, rfl⟩
  cases response with
  | none => simp [meets_iff, Fits, reply, SC2Client.pingOf]
  | some response =>
    cases hping : response.hasPing with
    | false => simp [meets_iff, Fits, Supplied, reply, SC2Client.pingOf, hping]
    | true => simp [meets_iff, Fits, Supplied, ErrorFree, reply, SC2Client.pingOf, hping]

theorem meets_getGameInfo (h : Dialogue.Runs getGameInfo.run log result)
    : getGameInfo.Meets (log.map Prod.snd) result ↔ getGameInfo.Fits (log.map Prod.snd) := by
  simp only [run] at h
  rw [SC2Client.getGameInfo_eq, Dialogue.asking_bind_pure, Dialogue.runs_asking_iff] at h
  rcases h with ⟨response, rfl, rfl⟩
  cases response with
  | none => simp [meets_iff, Fits, reply, SC2Client.gameInfoOf]
  | some response =>
    cases hgame : response.gameInfo? with
    | none =>
      rcases ResponseGameInfo.fromProto_default with ⟨info, hinfo⟩
      simp [meets_iff, Fits, Supplied, reply, SC2Client.gameInfoOf, hgame, hinfo]
    | some game =>
      rcases game.fromProto_cases with ⟨hfit, ⟨info, hinfo⟩ | ⟨what, hinfo⟩⟩ |
        ⟨hfit, fault, hinfo, hfault⟩
      . simp [meets_iff, Fits, Supplied, ErrorFree, reply, SC2Client.gameInfoOf, hgame, hinfo, hfit]
      . simp [meets_iff, Fits, reply, SC2Client.gameInfoOf, hgame, hinfo, hfit]
      . rcases hfault with rfl | rfl
        . simp [meets_iff, Fits, reply, SC2Client.gameInfoOf, hgame, hinfo, hfit]
        . simp [meets_iff, Fits, reply, SC2Client.gameInfoOf, hgame, hinfo, hfit]

theorem meets_getData {T : Type} {what : RequestData} {select : ResponseData → List T}
    {op : Operation}
    (hsupplied : ∀ replies, op.Supplied replies
      ↔ ((reply replies 0).bind Response.data?).isSome = true)
    (herror : ∀ replies, op.ErrorFree replies)
    (h : Dialogue.Runs (do let _ ← SC2Client.getData what select; return true) log result)
    : op.Meets (log.map Prod.snd) result
        ↔
      ∀ r, reply (log.map Prod.snd) 0 = some r → r.data?.isSome = true := by
  rw [SC2Client.getData_eq, Dialogue.asking_bind_pure, Dialogue.runs_asking_iff] at h
  rcases h with ⟨response, rfl, rfl⟩
  rw [meets_iff, hsupplied]
  cases response with
  | none => simp [reply, SC2Client.dataOf]
  | some response =>
    cases hdata : response.data? with
    | none => simp [reply, SC2Client.dataOf, hdata]
    | some data => simp [reply, SC2Client.dataOf, hdata, herror]

theorem meets_abilities (units : Units) (ignore : Bool)
    (h : Dialogue.Runs (abilities units ignore).run log result)
    : (abilities units ignore).Meets (log.map Prod.snd) result
        ↔
      (abilities units ignore).Fits (log.map Prod.snd) := by
  simp only [run] at h
  cases hunits : units.isEmpty with
  | true =>
    rw [List.isEmpty_iff.mp hunits, Query.abilities_nil, pure_bind, Dialogue.runs_pure_iff] at h
    rcases h with ⟨rfl, rfl⟩
    simp [meets_iff, Fits, reply]
  | false =>
    rw [Query.abilities_eq hunits, Dialogue.asking_bind_pure,
      Dialogue.runs_asking_iff] at h
    rcases h with ⟨response, rfl, rfl⟩
    cases response with
    | none => simp [meets_iff, Fits, reply, Query.abilitiesOf]
    | some response =>
      cases hquery : response.query? with
      | none => simp [meets_iff, Fits, reply, Query.abilitiesOf, hquery]
      | some query =>
        cases habilities : query.abilities with
        | nil => simp [meets_iff, Fits, reply, Query.abilitiesOf, hquery, habilities]
        | cons entry entries =>
          simp [meets_iff, Fits, Supplied, ErrorFree, reply, Query.abilitiesOf, hquery, habilities]

theorem meets_abilitiesOfUnit (unit : Unit) (ignore : Bool)
    (h : Dialogue.Runs (abilitiesOfUnit unit ignore).run log result)
    : (abilitiesOfUnit unit ignore).Meets (log.map Prod.snd) result
        ↔
      (abilitiesOfUnit unit ignore).Fits (log.map Prod.snd) := by
  simp only [run] at h
  rw [Query.abilitiesOfUnit_eq, Dialogue.asking_bind_pure, Dialogue.runs_asking_iff] at h
  rcases h with ⟨response, rfl, rfl⟩
  cases response with
  | none => simp [meets_iff, Fits, reply, Query.abilitiesOf, Outcome.elementAt]
  | some response =>
    cases hquery : response.query? with
    | none => simp [meets_iff, Fits, reply, Query.abilitiesOf, hquery]
    | some query =>
      cases habilities : query.abilities with
      | nil =>
        simp [meets_iff, Fits, reply, Query.abilitiesOf, Outcome.elementAt, hquery, habilities]
      | cons entry entries =>
        simp [meets_iff, Fits, Supplied, ErrorFree, reply, Query.abilitiesOf, Outcome.elementAt,
          hquery, habilities]

theorem meets_placement (building : AbilityId) (pos : Sc2.Point2D) (ignore : Bool)
    (h : Dialogue.Runs (placement building pos ignore).run log result)
    : (placement building pos ignore).Meets (log.map Prod.snd) result
        ↔
      (placement building pos ignore).Fits (log.map Prod.snd) := by
  simp only [run] at h
  rw [Query.placement_eq, Dialogue.runs_asking_iff] at h
  rcases h with ⟨response, rfl, rfl⟩
  cases response with
  | none => simp [meets_iff, Fits, reply, Query.placementOf]
  | some response =>
    cases hquery : response.query? with
    | none => simp [meets_iff, Fits, reply, Query.placementOf, hquery]
    | some query =>
      cases hplacements : query.placements with
      | nil => simp [meets_iff, Fits, Supplied, reply, Query.placementOf, hquery, hplacements]
      | cons entry entries =>
        cases entries with
        | nil =>
          simp [meets_iff, Fits, Supplied, ErrorFree, reply, Query.placementOf, hquery, hplacements]
        | cons _ _ =>
          simp [meets_iff, Fits, Supplied, reply, Query.placementOf, hquery, hplacements]

theorem meets_iff_fits (op : Operation)
    : (∀ log result, Dialogue.Runs op.run log result →
          (op.Meets (log.map Prod.snd) result ↔ op.Fits (log.map Prod.snd))) ∧
      ∀ serve, ∃ log result, Dialogue.Runs op.run log result ∧ Dialogue.AnsweredBy serve log := by
  refine ⟨?_, fun serve => Dialogue.runs_exists serve op.run⟩
  intro log result h
  cases op with
  | createGame => apply meets_createGame h
  | joinGame race => apply iff_of_true (meets_joinGame race h) trivial
  | step => apply meets_step h
  | ping => apply meets_ping h
  | getGameInfo => apply meets_getGameInfo h
  | getUnitTypeData => exact meets_getData (fun _ => .rfl) (fun _ => trivial) h
  | getAbilityData => exact meets_getData (fun _ => .rfl) (fun _ => trivial) h
  | abilitiesOfUnit unit ignore => apply meets_abilitiesOfUnit unit ignore h
  | abilities units ignore => apply meets_abilities units ignore h
  | placement building pos ignore => apply meets_placement building pos ignore h

def pathingInfo (width height : Int32) (data : List UInt8) : ResponseGameInfo where
  startRaw := some {
    pathingGrid := some { size := some { x := some width, y := some height }, data := data }
  }

-- The second bitmap has an area of 2^32, the third one byte too few.
theorem meets_iff_fits_bitmaps
    : getGameInfo.Meets [some { payload := some (.gameInfo (pathingInfo 5 3 [127, 254])) }]
        (.ok true) ∧
      ¬ getGameInfo.Meets [some { payload := some (.gameInfo (pathingInfo 65536 65536 [])) }]
        (.error .intOverflow) ∧
      ¬ getGameInfo.Meets [some { payload := some (.gameInfo (pathingInfo 5 3 [127])) }]
        (.error .outOfRange) := by
  have hmeets : ∀ info : ResponseGameInfo, ∀ result,
      (info.fromProto >>= fun _ => .ok true) = result →
      (getGameInfo.Meets [some { payload := some (.gameInfo info) }] result
        ↔ ImagesFit (info.startRaw.getD {}).images) := by
    intro info result hresult
    have hruns : Dialogue.Runs getGameInfo.run
        [(SC2Client.gameInfoRequest, some { payload := some (.gameInfo info) })] result := by
      simp only [run]
      rw [SC2Client.getGameInfo_eq, Dialogue.asking_bind_pure, Dialogue.runs_asking_iff]
      exact ⟨_, rfl, hresult.symm⟩
    have hfits := (meets_iff_fits getGameInfo).1 _ _ hruns
    simpa [Fits, reply, Response.gameInfo?] using hfits
  refine ⟨?_, ?_, ?_⟩
  . exact (hmeets (pathingInfo 5 3 [127, 254]) (.ok true) rfl).mpr (by decide)
  . exact mt (hmeets (pathingInfo 65536 65536 []) (.error .intOverflow) rfl).mp (by decide)
  . exact mt (hmeets (pathingInfo 5 3 [127]) (.error .outOfRange) rfl).mp (by decide)

theorem lost_replies
    : Dialogue.Runs createGame.run [(SC2Client.createGameRequest, none)] (.error .nullDeref) ∧
      ¬ createGame.Meets [none] (.error .nullDeref) ∧
      Dialogue.Runs (abilitiesOfUnit (Proto.Unit.withOrders {} []) false).run
        [(Query.abilitiesRequest [Proto.Unit.withOrders {} []] false, none)]
        (.error .outOfRange) ∧
      ¬ (abilitiesOfUnit (Proto.Unit.withOrders {} []) false).Meets [none] (.error .outOfRange) := by
  refine ⟨.ask _ _ _ (.done _), ?_, .ask _ _ _ (.done _), ?_⟩
  . intro h
    apply h.not_nullDeref rfl
  . intro h
    apply h.not_outOfRange rfl

end Operation

end Sc2
