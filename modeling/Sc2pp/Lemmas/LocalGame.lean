import Sc2pp.Lemmas.Game
import Sc2pp.Util.Serve

/-!
This module contains the program of the tests without its messages. A `Game` has a state, which a
step and the actions of the agent change. `host` plays it round by round: the agent in its `Seat`
looks at the state, its queries are about that state, and what it has issued is performed once it has
decided everything. A handler `Speaks` for a game if its replies tell the state and it performs the
actions of a batch. Served by such a handler, the program of the tests comes to what `host` comes to
and leaves the game in the same state.
-/

namespace Sc2

open Dialogue SC2Client

structure Game (S : Type) where
  created : Bool
  player : Option UInt32
  gameInfo : Proto.ResponseGameInfo
  unitTypeData : List Proto.UnitTypeData
  abilityData : List Proto.AbilityData
  advance : S → S
  observe : S → Proto.ResponseObservation
  abilities : S → Bool → Tag → AvailableAbilities
  placement : S → Bool → AbilityId → Point2D → Bool
  perform : S → Proto.Action → S

structure Seat (σ : Type) where
  id : UInt32
  obs : Observation
  state : σ

namespace Game

variable {S σ : Type}

def answer (game : Game S) (s : S) : Query.Call → Query.Answer
  | .abilities units ignore => .abilities (units.map fun unit => game.abilities s ignore unit.tag)
  | .abilitiesOfUnit unit ignore => .abilitiesOfUnit (game.abilities s ignore unit.tag)
  | .placement building pos ignore => .placement (game.placement s ignore building pos)

def act (game : Game S) (s : S) (issued : List Actions.Call)
    : Agent.Program σ → Outcome (σ × List Actions.Call)
  | .done state => .ok (state, issued)
  | .fail fault => .error fault
  | .act call k => game.act s (issued ++ [call]) k
  | .has k => game.act s issued (k !issued.isEmpty)
  | .query call k => game.act s issued (k (.ok (game.answer s call)))

def result (id : UInt32) (results : List Proto.PlayerResult)
    : Outcome (Option Proto.PlayerResult) :=
  if results.isEmpty then
    .ok none
  else
    match results.find? (fun res => res.playerId.getD 0 == id) with
    | some res => .ok (some res)
    | none => .error .assertFailed

def plan (game : Game S) (s : S) (update : σ → Observation → Agent.Program σ) (seat : Seat σ)
    (response : Proto.ResponseObservation) : Outcome (List Actions.Call × Seat σ) := do
  let obs ← seat.obs.update response
  let (state, calls) ← game.act s [] (update seat.state obs)
  return (calls, { seat with obs := obs, state := state })

def turn (game : Game S) (update : σ → Observation → Agent.Program σ) (seat : Seat σ)
    : ExceptT Fault (StateM S) (Option Proto.PlayerResult × Seat σ) := do
  modify game.advance
  let response := game.observe (← get)
  let (calls, seat) ← game.plan (← get) update seat response
  modify fun s => (calls.map Actions.Call.message).foldl game.perform s
  let result ← Game.result seat.id response.playerResult
  return (result, seat)

def play (game : Game S) (update : σ → Observation → Agent.Program σ) (seat : Seat σ)
    : Nat → ExceptT Fault (StateM S) (Option Proto.PlayerResult × Seat σ)
  | 0 => return (none, seat)
  | rounds + 1 => do
    let (result, seat) ← game.turn update seat
    if result.isSome then
      return (result, seat)
    else
      game.play update seat rounds

def context (game : Game S) : Outcome SC2Context := do
  let gameInfo ← game.gameInfo.fromProto
  SC2Context.new (Observation.new gameInfo game.unitTypeData game.abilityData)

-- An id of -1 is taken for a game that could not be joined.
def joined (game : Game S) : Option UInt32 :=
  game.player.filter (· != -1)

def tryHost (game : Game S) (state : σ) (update : σ → Observation → Agent.Program σ) (rounds : Nat)
    : ExceptT Fault (StateM S) Ending := do
  if !game.created then
    return .notCreated
  match game.joined with
  | none => return .joinFailed
  | some id =>
    let sc2 ← game.context
    let (result, _) ← game.play update { id := id, obs := sc2.obs, state := state } rounds
    return .ofResult result

def host (game : Game S) (state : σ) (update : σ → Observation → Agent.Program σ) (rounds : Nat)
    : ExceptT Fault (StateM S) Ending :=
  tryCatch (game.tryHost state update rounds) fun
    | .exception what => return .caught what
    | fault => throw fault

structure Speaks (handler : Proto.Request → StateM S (Option Proto.Response)) (game : Game S)
    : Prop where
  ping : ∀ s, ∃ r, (handler pingRequest).run s = (some r, s)
  createGame : ∀ s, ∃ r response, (handler createGameRequest).run s = (some r, s) ∧
    r.createGame? = some response ∧ response.error.isNone = game.created
  joinGame : ∀ race s, ∃ r response, (handler (joinGameRequest race)).run s = (some r, s) ∧
    r.joinGame? = some response ∧ response.error.isNone = game.player.isSome ∧
    ∀ id ∈ game.player, response.playerId.getD 0 = id
  gameInfo : ∀ s, ∃ r, (handler gameInfoRequest).run s = (some r, s) ∧
    r.gameInfo? = some game.gameInfo
  unitTypeData : ∀ s, ∃ r response,
    (handler (dataRequest { unitTypeId := some true })).run s = (some r, s) ∧
    r.data? = some response ∧ response.units = game.unitTypeData
  abilityData : ∀ s, ∃ r response,
    (handler (dataRequest { abilityId := some true })).run s = (some r, s) ∧
    r.data? = some response ∧ response.abilities = game.abilityData
  step : ∀ s, ∃ r response, (handler stepRequest).run s = (some r, game.advance s) ∧
    r.step? = some response
  observation : ∀ s, ∃ r, (handler observationRequest).run s = (some r, s) ∧
    r.observation? = some (game.observe s)
  abilities : ∀ units ignore s, ∃ r query,
    (handler (Query.abilitiesRequest units ignore)).run s = (some r, s) ∧ r.query? = some query ∧
    query.abilities.map Query.AvailableAbilities.fromProto
      = units.map fun unit => game.abilities s ignore unit.tag
  placement : ∀ building pos ignore s, ∃ r query,
    (handler (Query.placementRequest building pos ignore)).run s = (some r, s) ∧
    r.query? = some query ∧
    query.placements.map (fun placement => placement.result.getD .success == .success)
      = [game.placement s ignore building pos]
  perform : ∀ request s, IsBatch request →
    ((handler request).run s).2 = request.action.actions.foldl game.perform s

variable {handler : Proto.Request → StateM S (Option Proto.Response)} {game : Game S}

theorem serve_abilities (h : Speaks handler game) (units : Units) (ignore : Bool) (s : S)
    : (serve handler (Query.abilities units ignore)).run.run s
        =
      (.ok (units.map fun unit => game.abilities s ignore unit.tag), s) := by
  cases units with
  | nil => rfl
  | cons unit units =>
    rcases h.abilities (unit :: units) ignore s with ⟨r, query, hr, hquery, hentries⟩
    rw [Query.abilities_eq rfl, serve_asking hr, Query.abilitiesOf, hquery, ← hentries]

theorem serve_placement (h : Speaks handler game) (building : AbilityId) (pos : Point2D)
    (ignore : Bool) (s : S)
    : (serve handler (Query.placement building pos ignore)).run.run s
        =
      (.ok (game.placement s ignore building pos), s) := by
  rcases h.placement building pos ignore s with ⟨r, query, hr, hquery, hentries⟩
  rcases List.map_eq_singleton_iff.mp hentries with ⟨placement, hplacements, hplacement⟩
  rw [Query.placement_eq, serve_asking hr]
  simp only [Query.placementOf, hquery, hplacements, hplacement]

theorem serve_call (h : Speaks handler game) (call : Query.Call) (s : S)
    : (serve handler call.run).run.run s = (.ok (game.answer s call), s) := by
  cases call with
  | abilities units ignore =>
    rw [Query.Call.run, serve_bind_ok (serve_abilities h units ignore s)]
    rfl
  | abilitiesOfUnit unit ignore =>
    have hserve : (serve handler (Query.abilitiesOfUnit unit ignore)).run.run s
        = (.ok (game.abilities s ignore unit.tag), s) := by
      rw [Query.abilitiesOfUnit, serve_bind_ok (serve_abilities h [unit] ignore s)]
      rfl
    rw [Query.Call.run, serve_bind_ok hserve]
    rfl
  | placement building pos ignore =>
    rw [Query.Call.run, serve_bind_ok (serve_placement h building pos ignore s)]
    rfl

def batch (calls : List Actions.Call) : Actions :=
  calls.foldl Actions.call {}

theorem batch_call (calls : List Actions.Call) (call : Actions.Call)
    : (batch calls).call call = batch (calls ++ [call]) := by
  unfold batch
  rw [List.foldl_append]
  rfl

theorem holds_batch (calls : List Actions.Call) : Agent.Holds (batch calls) calls := by
  have hfoldl : ∀ calls actions issued, Agent.Holds actions issued →
      Agent.Holds (calls.foldl Actions.call actions) (issued ++ calls) := by
    intro calls
    induction calls with
    | nil => simp
    | cons call calls ih =>
      intro actions issued h
      rw [List.append_cons]
      exact ih _ _ (h.call call)
  exact hfoldl calls {} [] .empty

theorem serve_run (h : Speaks handler game) (program : Agent.Program σ) (issued : List Actions.Call)
    (s : S)
    : (serve handler (program.run (batch issued))).run.run s
        =
      ((fun acted => (acted.1, batch acted.2)) <$> game.act s issued program, s) := by
  induction program generalizing issued with
  | done state => rfl
  | fail fault => rfl
  | act call k ih =>
    rw [Agent.Program.run, batch_call]
    exact ih (issued ++ [call])
  | has k ih =>
    rw [Agent.Program.run, (holds_batch issued).has]
    exact ih _ issued
  | query call k ih =>
    have hattempt : (serve handler call.run.attempt).run.run s
        = (.ok (.ok (game.answer s call)), s) := by
      apply serve_attempt (serve_call h call s)
    rw [Agent.Program.run, serve_bind_ok hattempt]
    exact ih _ issued

end Game

namespace Seat

variable {σ : Type}

def agent (seat : Seat σ) (map : Map) (update : σ → Observation → Agent.Program σ) : Agent σ where
  id := seat.id
  sc2 := { obs := seat.obs, map := map, act := {} }
  state := seat.state
  update := update

def client (seat : Seat σ) (prevLoop : UInt32) (map : Map)
    (update : σ → Observation → Agent.Program σ) : SC2Client σ where
  agent := some (seat.agent map update)
  prevLoop := prevLoop

end Seat

namespace Game

variable {S σ : Type} {handler : Proto.Request → StateM S (Option Proto.Response)} {game : Game S}

theorem serve_agentStep (h : Speaks handler game) (seat : Seat σ) (map : Map)
    (update : σ → Observation → Agent.Program σ) (response : Proto.ResponseObservation) (s : S)
    : (serve handler ((seat.agent map update).step response)).run.run s
        =
      ((fun planned => ((batch planned.1).reset.1, planned.2.agent map update)) <$>
        game.plan s update seat response, s) := by
  unfold Agent.step SC2Context.update plan Seat.agent
  simp only
  cases hobs : seat.obs.update response with
  | error fault => rfl
  | ok obs =>
    have hrun := serve_run h (update seat.state obs) [] s
    simp only [Outcome.bind_ok, Outcome.pure_eq_ok]
    cases hact : game.act s [] (update seat.state obs) with
    | error fault =>
      rw [hact] at hrun
      exact (serve_bind_error hrun).trans rfl
    | ok acted =>
      rw [hact] at hrun
      refine (serve_bind_ok hrun).trans ?_
      simp only [(holds_batch acted.2).reset.2, Outcome.bind_ok]
      rfl

theorem serve_gameStep (h : Speaks handler game) (s : S)
    : ∃ loop, (serve handler step).run.run s
        = (.ok (loop, game.observe (game.advance s)), game.advance s) := by
  rcases h.step s with ⟨r, response, hr, hstep⟩
  rcases h.observation (game.advance s) with ⟨r', hr', hobservation⟩
  refine ⟨response.simulationLoop.getD 0, ?_⟩
  rw [step_eq, serve_send_bind hr]
  simp only [Option.bind_some, hstep]
  rw [serve_asking hr']
  simp only [observationOf, hobservation]

theorem finish_eq (client : SC2Client σ) (response : Proto.ResponseObservation) (agent : Agent σ)
    : client.finish response agent
        =
      (fun result => (result, { client with agent := some agent })) <$>
        Game.result agent.id response.playerResult := by
  unfold finish Game.result
  cases response.playerResult.isEmpty with
  | true => rfl
  | false =>
    simp only [Bool.false_eq_true, if_false]
    cases response.playerResult.find? (fun res => res.playerId.getD 0 == agent.id) with
    | none => rfl
    | some res => rfl

theorem turn_error {update : σ → Observation → Agent.Program σ} {seat : Seat σ} {s : S}
    {fault : Fault}
    (hplan : game.plan (game.advance s) update seat (game.observe (game.advance s)) = .error fault)
    : (game.turn update seat).run.run s = (.error fault, game.advance s) := by
  change (((liftM (game.plan (game.advance s) update seat (game.observe (game.advance s))) :
    ExceptT Fault (StateM S) _) >>= _).run).run (game.advance s) = _
  rw [hplan]
  rfl

theorem turn_ok {update : σ → Observation → Agent.Program σ} {seat seat' : Seat σ} {s : S}
    {calls : List Actions.Call}
    (hplan : game.plan (game.advance s) update seat (game.observe (game.advance s))
      = .ok (calls, seat'))
    : (game.turn update seat).run.run s
        =
      ((fun result => (result, seat')) <$>
          Game.result seat'.id (game.observe (game.advance s)).playerResult,
        (calls.map Actions.Call.message).foldl game.perform (game.advance s)) := by
  change (((liftM (game.plan (game.advance s) update seat (game.observe (game.advance s))) :
    ExceptT Fault (StateM S) _) >>= _).run).run (game.advance s) = _
  rw [hplan]
  change (((liftM (Game.result seat'.id (game.observe (game.advance s)).playerResult) :
    ExceptT Fault (StateM S) _) >>= fun result => pure (result, seat')).run).run
      ((calls.map Actions.Call.message).foldl game.perform (game.advance s)) = _
  cases Game.result seat'.id (game.observe (game.advance s)).playerResult with
  | error fault => rfl
  | ok result => rfl

theorem serve_update (h : Speaks handler game) (seat : Seat σ) (prevLoop : UInt32) (map : Map)
    (update : σ → Observation → Agent.Program σ)
    : serve handler (seat.client prevLoop map update).update
        =
      (fun played => (played.1, played.2.client prevLoop map update)) <$>
        game.turn update seat := by
  apply ExceptT.ext
  funext s
  rcases serve_gameStep h s with ⟨loop, hgame⟩
  have hstep := serve_agentStep h seat map update (game.observe (game.advance s)) (game.advance s)
  rw [update_eq rfl]
  refine (serve_bind_ok hgame).trans ?_
  cases hplan : game.plan (game.advance s) update seat (game.observe (game.advance s)) with
  | error fault =>
    rw [hplan] at hstep
    refine (serve_bind_error hstep).trans ?_
    exact (map_run (turn_error hplan) _).symm
  | ok planned =>
    rw [hplan] at hstep
    rcases planned with ⟨calls, seat'⟩
    have hbatch := (holds_batch calls).reset.1.isBatch
    have hperform := h.perform (batch calls).reset.1 (game.advance s) hbatch
    rw [(Actions.reset_spec _).1, (holds_batch calls).pending] at hperform
    refine (serve_bind_ok hstep).trans ?_
    refine Eq.trans ?_ (map_run (turn_ok hplan) _).symm
    rw [← hperform]
    refine (serve_asking rfl).trans ?_
    rw [finish_eq, Functor.map_map]
    rfl

theorem serve_play (h : Speaks handler game) (prevLoop : UInt32) (map : Map)
    (update : σ → Observation → Agent.Program σ) (seat : Seat σ) (rounds : Nat)
    : serve handler ((seat.client prevLoop map update).play rounds)
        =
      (fun played => (played.1, played.2.client prevLoop map update)) <$>
        game.play update seat rounds := by
  induction rounds generalizing seat with
  | zero => rfl
  | succ rounds ih =>
    unfold SC2Client.play Game.play
    rw [serve_bind, serve_update h, bind_map_left, map_bind]
    congr 1
    funext played
    simp only
    split
    . rfl
    . exact ih played.2

theorem serve_rounds (h : Speaks handler game) (map : Map)
    (update : σ → Observation → Agent.Program σ) (seat : Seat σ) (rounds : Nat)
    {f : Option Proto.PlayerResult × SC2Client σ → Talk Ending}
    (hf : ∀ played, f played = pure (.ofResult played.1))
    : serve handler ((seat.client 0 map update).play rounds >>= f)
        =
      game.play update seat rounds >>= fun played => pure (.ofResult played.1) := by
  rw [serve_bind, serve_play h, bind_map_left]
  congr 1
  funext played
  rw [hf]
  rfl

theorem serve_createContext (h : Speaks handler game) (s : S)
    : (serve handler createContext).run.run s = (game.context, s) := by
  rcases h.gameInfo s with ⟨r, hr, hgameInfo⟩
  rcases h.unitTypeData s with ⟨r', units, hr', hunits, hunitTypeData⟩
  rcases h.abilityData s with ⟨r'', abilities, hr'', habilities, habilityData⟩
  have hserve : (serve handler getGameInfo).run.run s = (game.gameInfo.fromProto, s) := by
    rw [getGameInfo_eq, serve_asking hr]
    simp only [gameInfoOf, hgameInfo, Option.getD_some]
  have hserve' : (serve handler getUnitTypeData).run.run s = (.ok game.unitTypeData, s) := by
    rw [getUnitTypeData, getData_eq, serve_asking hr']
    simp only [dataOf, hunits, Option.getD_some, hunitTypeData]
  have hserve'' : (serve handler getAbilityData).run.run s = (.ok game.abilityData, s) := by
    rw [getAbilityData, getData_eq, serve_asking hr'']
    simp only [dataOf, habilities, Option.getD_some, habilityData]
  unfold createContext context
  cases hinfo : game.gameInfo.fromProto with
  | error fault =>
    rw [hinfo] at hserve
    exact serve_bind_error hserve
  | ok gameInfo =>
    rw [hinfo] at hserve
    rw [serve_bind_ok hserve, serve_bind_ok hserve', serve_bind_ok hserve'']
    rfl

theorem serve_joinGame (h : Speaks handler game) (race : Race) (s : S)
    : (serve handler (joinGame race)).run.run s = (.ok (game.player.getD (-1)), s) := by
  rcases h.joinGame race s with ⟨r, response, hr, hresponse, herror, hplayer⟩
  rw [joinGame_eq, serve_asking hr]
  simp only [joinGameOf, hresponse]
  cases hgame : game.player with
  | none =>
    rw [hgame, Option.isSome_none, Option.isNone_eq_false_iff] at herror
    simp [herror]
  | some id =>
    rw [hgame, Option.isSome_some, Option.isNone_iff_eq_none] at herror
    simp [herror, hplayer id hgame]

theorem serve_joinGameAs_failed (h : Speaks handler game) (hjoined : game.joined = none)
    (client : SC2Client σ) (state : σ) (update : σ → Observation → Agent.Program σ) (s : S)
    : (serve handler (client.joinGameAs state update)).run.run s = (.ok (false, client), s) := by
  have hid : (game.player.getD (-1) == -1) = true := by
    cases hplayer : game.player with
    | none => rfl
    | some id =>
      unfold joined at hjoined
      rw [hplayer, Option.filter_eq_none_iff] at hjoined
      simpa using hjoined id rfl
  unfold joinGameAs
  rw [serve_bind_ok (serve_joinGame h .protoss s)]
  simp only [hid, if_true]
  rfl

theorem serve_joinGameAs_joined (h : Speaks handler game) {id : UInt32}
    (hjoined : game.joined = some id) (client : SC2Client σ) (state : σ)
    (update : σ → Observation → Agent.Program σ) (s : S)
    : (serve handler (client.joinGameAs state update)).run.run s
        =
      ((fun sc2 =>
          let agent : Agent σ := { id := id, sc2 := sc2, state := state, update := update }
          (true, { client with agent := some agent })) <$> game.context, s) := by
  rcases Option.filter_eq_some_iff.mp hjoined with ⟨hplayer, hid⟩
  have hjoin := serve_joinGame h .protoss s
  rw [hplayer, Option.getD_some] at hjoin
  have hcontext := serve_createContext h s
  unfold joinGameAs
  rw [serve_bind_ok hjoin, if_neg (by simpa using hid)]
  cases hnew : game.context with
  | error fault =>
    rw [hnew] at hcontext
    exact serve_bind_error hcontext
  | ok sc2 =>
    rw [hnew] at hcontext
    exact serve_bind_ok hcontext

theorem context_act {sc2 : SC2Context} (h : game.context = .ok sc2) : sc2.act = {} := by
  rcases Outcome.bind_eq_ok.mp h with ⟨gameInfo, -, hnew⟩
  apply new_act hnew

theorem serve_tryMain (h : Speaks handler game) (state : σ)
    (update : σ → Observation → Agent.Program σ) (rounds : Nat)
    : serve handler (Main.tryMain state update rounds) = game.tryHost state update rounds := by
  apply ExceptT.ext
  funext s
  rcases h.ping s with ⟨r, hr⟩
  have hping : (serve handler ping).run.run s = (.ok r.hasPing, s) := by
    rw [ping_eq, serve_asking hr, pingOf]
  rcases h.createGame s with ⟨r', response, hr', hresponse, hcreated⟩
  have hcreate : (serve handler createGame).run.run s = (.ok game.created, s) := by
    rw [createGame_eq, serve_asking hr']
    simp only [createGameOf, hresponse, Option.getD_some, hcreated]
  unfold Main.tryMain tryHost
  refine (serve_bind_ok hping).trans ?_
  refine (serve_bind_ok hcreate).trans ?_
  cases game.created with
  | false => rfl
  | true =>
    cases hjoined : game.joined with
    | none => exact serve_bind_ok (serve_joinGameAs_failed h hjoined .new state update s)
    | some id =>
      have hjoin := serve_joinGameAs_joined h hjoined .new state update s
      cases hcontext : game.context with
      | error fault =>
        rw [hcontext] at hjoin
        exact serve_bind_error hjoin
      | ok sc2 =>
        rw [hcontext] at hjoin
        rcases sc2 with ⟨obs, map, act⟩
        have hact := context_act hcontext
        simp only at hact
        subst hact
        refine (serve_bind_ok hjoin).trans ?_
        let seat : Seat σ := { id := id, obs := obs, state := state }
        change ((serve handler ((seat.client 0 map update).play rounds >>= _)).run).run s = _
        refine congrArg (fun hosted => hosted.run.run s) (serve_rounds h map update seat rounds ?_)
        rintro ⟨_ | result, client⟩
        . rfl
        . rfl

theorem serve_main (h : Speaks handler game) (state : σ)
    (update : σ → Observation → Agent.Program σ) (rounds : Nat)
    : serve handler (Main.main state update rounds) = game.host state update rounds := by
  apply ExceptT.ext
  funext s
  rcases hend : (game.tryHost state update rounds).run.run s with ⟨result, s'⟩
  have htry : (serve handler (Main.tryMain state update rounds)).run.run s = (result, s') := by
    rw [serve_tryMain h, hend]
  unfold Main.main host
  refine (serve_bind_ok (serve_attempt htry)).trans ?_
  cases result with
  | ok ending => exact (tryCatch_ok hend).symm
  | error fault =>
    refine Eq.trans ?_ (tryCatch_error hend).symm
    cases fault with
    | exception what => rfl
    | _ => rfl

theorem main_refines (h : Speaks handler game) (state : σ)
    (update : σ → Observation → Agent.Program σ) (rounds : Nat)
    : serve handler (Main.main state update rounds) = game.host state update rounds ∧
      ∀ s, ∃ log, Dialogue.Runs (Main.main state update rounds) log
          ((game.host state update rounds).run.run s).1 ∧
        log.map Prod.snd = replies handler (Main.main state update rounds) s := by
  have hserve := serve_main h state update rounds
  refine ⟨hserve, ?_⟩
  intro s
  rw [← hserve]
  apply serve_runs

end Game

def AvailableAbilities.toProto (found : AvailableAbilities)
    : Proto.ResponseQueryAvailableAbilities where
  abilities := found.abilities.map fun ability => {
    abilityId := some ability.abilityId.val
    requiresPoint := some ability.requiresPoint
  }
  unitTag := some found.unitTag
  unitTypeId := some found.unitTypeId.val.toUInt32

theorem AvailableAbilities.fromProto_toProto (found : AvailableAbilities)
    : Query.AvailableAbilities.fromProto found.toProto = found := by
  rcases found with ⟨abilities, unitTag, unitTypeId⟩
  simp [toProto, Query.AvailableAbilities.fromProto, Query.AvailableAbility.fromProto,
    Function.comp_def]

namespace Game

variable {S : Type}

def answerQuery (game : Game S) (s : S) (query : Proto.RequestQuery) : Proto.ResponseQuery :=
  let ignore := query.ignoreResourceRequirements.getD false
  {
    abilities := query.abilities.map fun asked =>
      (game.abilities s ignore (asked.unitTag.getD 0)).toProto
    placements := query.placements.map fun asked =>
      let pos := (asked.targetPos.bind Proto.Point2D.whole?).getD {}
      let possible := game.placement s ignore ⟨asked.abilityId.getD 0⟩ pos
      { result := some (if possible then .success else ⟨2⟩) }
  }

def handler (game : Game S) (request : Proto.Request) : StateM S (Option Proto.Response) := do
  let s ← get
  match request.payload with
  | some (.createGame _) =>
    return some { payload := some (.createGame { error := if game.created then none else some 1 }) }
  | some (.joinGame _) =>
    let error := if game.player.isSome then none else some 1
    return some { payload := some (.joinGame { playerId := game.player, error := error }) }
  | some .gameInfo => return some { payload := some (.gameInfo game.gameInfo) }
  | some (.data _) =>
    return some {
      payload := some (.data { abilities := game.abilityData, units := game.unitTypeData })
    }
  | some (.step _) =>
    set (game.advance s)
    return some { payload := some (.step {}) }
  | some .observation => return some { payload := some (.observation (game.observe s)) }
  | some (.query query) => return some { payload := some (.query (game.answerQuery s query)) }
  | some .ping => return some { payload := some .ping }
  | some (.action _) | none =>
    set (request.action.actions.foldl game.perform s)
    return some {}

theorem handler_speaks (game : Game S) : Speaks game.handler game where
  ping s := ⟨_, rfl⟩
  createGame s := ⟨_, _, rfl, rfl, by cases game.created <;> rfl⟩
  joinGame race s := ⟨_, _, rfl, rfl, by cases game.player <;> simp⟩
  gameInfo s := ⟨_, rfl, rfl⟩
  unitTypeData s := ⟨_, _, rfl, rfl, rfl⟩
  abilityData s := ⟨_, _, rfl, rfl, rfl⟩
  step s := ⟨_, _, rfl, rfl⟩
  observation s := ⟨_, rfl, rfl⟩
  abilities units ignore s := by
    refine ⟨_, _, rfl, rfl, ?_⟩
    simp [answerQuery, AvailableAbilities.fromProto_toProto, Function.comp_def]
  placement building pos ignore s := by
    refine ⟨_, _, rfl, rfl, ?_⟩
    cases hpossible : game.placement s ignore building pos with
    | true => simp [answerQuery, hpossible]
    | false => simp [answerQuery, hpossible, Proto.ActionResult.success]
  perform request s h := by
    rcases request with ⟨payload⟩
    rcases h with hnone | ⟨actions, hactions⟩
    . simp only at hnone
      subst hnone
      rfl
    . simp only at hactions
      subst hactions
      rfl

-- The game is over with its second round. It remembers the actions it was sent.
def duel : Game (Nat × List Proto.Action) where
  created := true
  player := some 1
  gameInfo := {}
  unitTypeData := []
  abilityData := []
  advance s := (s.1 + 1, s.2)
  observe s := { playerResult := if s.1 < 2 then [] else [{ playerId := some 1 }] }
  abilities _ _ tag := { abilities := [], unitTag := tag, unitTypeId := .protossProbe }
  placement s _ _ _ := s.2.isEmpty
  perform s action := (s.1, s.2 ++ [action])

theorem main_refines_duel
    : serve duel.handler (Main.main 0 greeter 3) = duel.host 0 greeter 3 ∧
      ((duel.host 0 greeter 3).run.run (0, [])).2.1 = 2 ∧
      ∃ log, Dialogue.Runs (Main.main 0 greeter 3) log
          ((duel.host 0 greeter 3).run.run (0, [])).1 ∧
        log.map Prod.snd = replies duel.handler (Main.main 0 greeter 3) (0, []) := by
  rcases main_refines duel.handler_speaks 0 greeter 3 with ⟨hserve, hruns⟩
  exact ⟨hserve, by decide +kernel, hruns (0, [])⟩

end Game

end Sc2
