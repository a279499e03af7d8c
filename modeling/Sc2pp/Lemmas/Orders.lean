import Sc2pp.Lemmas.Player

/-!
This module contains the orders a game gets from the program of the tests, as its requests show them.
The orders of an ability are a quota the requests are drawn from: whatever the game answers and however
the program ends, none is left to give once the maximum of the ability is reached.
-/

namespace Sc2

open SC2Client Agent

def Order.commands (a : AbilityId) : Order → Bool
  | .command ability _ _ => ability == a
  | _ => false

def Proto.Request.ordered (a : AbilityId) (request : Proto.Request) : Nat :=
  (request.action.actions.filterMap Proto.Action.order?).countP (Order.commands a)

theorem ordered_of_carries {request : Proto.Request} {calls : List Actions.Call}
    (h : Carries request calls) (a : AbilityId)
    : request.ordered a = calls.countP fun call => call.order.commands a := by
  have horders : request.action.actions.filterMap Proto.Action.order?
      = calls.map Actions.Call.order := by
    have hsome := congrArg (List.filterMap fun order => order) h.orders
    rw [List.filterMap_map, List.filterMap_map] at hsome
    exact hsome.trans (congrFun List.filterMap_eq_map' calls)
  unfold Proto.Request.ordered
  rw [horders, List.countP_map]
  rfl

theorem ordered_of_query {request : Proto.Request} (h : IsQuery request) (a : AbilityId)
    : request.ordered a = 0 := by
  rcases request with ⟨payload⟩
  rcases h with ⟨query, hquery⟩
  simp only at hquery
  subst hquery
  rfl

namespace TestAgent

theorem gatherCall_order (probe resource : Unit)
    : (gatherCall probe resource).order = .command .harvestGather (.unit resource.tag) [probe.tag] := by
  rfl

theorem countP_gatherCalls {a : AbilityId} (ha : a ≠ .harvestGather) (probes resources : Units)
    : (List.zipWith gatherCall probes resources).countP (fun call => call.order.commands a) = 0 := by
  rw [← List.map_uncurry_zip_eq_zipWith, List.countP_map, List.countP_eq_zero]
  intro pair _ hordered
  rw [Function.comp_apply, Function.uncurry, gatherCall_order, Order.commands, beq_iff_eq] at hordered
  exact ha hordered.symm

theorem countP_announcement (obs : Observation) (a : AbilityId)
    : (announcement obs).countP (fun call => call.order.commands a) = 0 := by
  unfold announcement
  split <;> rfl

theorem Batched.ordered {step : Step} {minerals : Units} (h : Batched step minerals) {a : AbilityId}
    (ha : a ≠ .harvestGather)
    : (Intent.calls step.intents).countP (fun call => call.order.commands a)
        =
      (Intent.tasks step.intents).countP (·.action == a) := by
  rw [h.calls, List.countP_append, List.countP_append, List.countP_append, countP_announcement,
    countP_gatherCalls ha, assignments, countP_gatherCalls ha, List.countP_map]
  simp only [Nat.zero_add]
  rfl

theorem ordered_of_plays {agent agent' : TestAgent} {obs : Observation} {dice : Dice}
    {intents : List Intent} (h : Plays [] (agent.update dice obs) intents agent')
    {request : Proto.Request} (hcarries : Carries request (Intent.calls intents)) {a : AbilityId}
    (hpylon : a ≠ .buildPylon) (hgather : a ≠ .harvestGather)
    : agent'.taken a = agent.taken a + request.ordered a ∧
        (maxTaken a ≤ agent.taken a → request.ordered a = 0) := by
  rcases @update_batched agent agent' ⟨obs, dice, intents⟩ h with ⟨minerals, hbatched⟩
  rcases @update_accounts agent agent' ⟨obs, dice, intents⟩ h
    with ⟨asked, placed, candidates, tasks, haccounts, -⟩
  rw [ordered_of_carries hcarries, hbatched.ordered hgather]
  constructor
  . exact (updated_of_plays h).taken a
  . exact haccounts.unspent hpylon

end TestAgent

namespace Player

def orders (a : AbilityId) : Protocol Proto.Request Nat :=
  .quota (Proto.Request.ordered a) (TestAgent.maxTaken a)

theorem orders_free {a : AbilityId} {request : Proto.Request} (h : request.ordered a = 0) (sent : Nat)
    : (orders a).next sent request = some sent := by
  apply Protocol.quota_free h

structure Plays (a : AbilityId) (agent : Agent Player) (sent : Nat) : Prop where
  act : agent.sc2.act = {}
  update : agent.update = Player.update
  taken : agent.state.agent.taken a = sent

theorem step_orders {a : AbilityId} (hpylon : a ≠ .buildPylon) (hgather : a ≠ .harvestGather)
    {agent : Agent Player} {sent : Nat} (h : Plays a agent sent)
    (response : Proto.ResponseObservation)
    : (agent.step response).Obeys (orders a) sent fun acted sent' => sent' = sent ∧
        Plays a acted.2 (sent + acted.1.ordered a) ∧
        (TestAgent.maxTaken a ≤ sent → acted.1.ordered a = 0) := by
  apply (agent.step_asks response).obeys
  . intro request hquery
    apply orders_free (ordered_of_query hquery a)
  . intro log acted hstep
    rcases Agent.step_spec h.act hstep with ⟨obs, intents, hsteps, -⟩
    have hplays := hsteps.plays
    rw [h.update] at hplays
    have hordered := TestAgent.ordered_of_plays (update_plays hplays).1 hsteps.carries hpylon hgather
    rw [h.taken] at hordered
    refine ⟨rfl, ⟨?_, ?_, hordered.1⟩, hordered.2⟩
    . rw [hsteps.sc2]
    . rw [hsteps.same.2, h.update]

theorem gameStep_orders (a : AbilityId) (sent : Nat)
    : SC2Client.step.Obeys (orders a) sent fun _ sent' => sent' = sent := by
  rw [step_eq]
  apply Dialogue.Obeys.send_bind (orders_free rfl sent)
  intro reply
  cases reply.bind Proto.Response.step? with
  | none => exact .fail
  | some responseStep => exact .asking (orders_free rfl sent) (fun _ _ _ => rfl)

theorem update_orders {a : AbilityId} (hpylon : a ≠ .buildPylon) (hgather : a ≠ .harvestGather)
    {client : SC2Client Player} {agent : Agent Player} (hagent : client.agent = some agent)
    {sent : Nat} (h : Plays a agent sent)
    : client.update.Obeys (orders a) sent fun updated sent' =>
        ∃ agent', updated.2.agent = some agent' ∧ Plays a agent' sent' := by
  rw [update_eq hagent]
  apply (gameStep_orders a sent).bind
  intro stepped sent' hsent
  subst hsent
  apply (step_orders hpylon hgather h stepped.2).bind
  intro acted sent'' hacted
  rcases hacted with ⟨rfl, hplays, hfull⟩
  apply Dialogue.Obeys.asking (Protocol.quota_next hfull)
  intro reply updated hfinish
  exact ⟨acted.2, finish_agent hfinish, hplays⟩

theorem play_orders {a : AbilityId} (hpylon : a ≠ .buildPylon) (hgather : a ≠ .harvestGather)
    {client : SC2Client Player} {agent : Agent Player} (hagent : client.agent = some agent)
    {sent : Nat} (h : Plays a agent sent) (rounds : Nat)
    : (client.play rounds).Obeys (orders a) sent fun _ _ => True := by
  induction rounds generalizing client agent sent with
  | zero => exact .pure trivial
  | succ rounds ih =>
    unfold play
    apply (update_orders hpylon hgather hagent h).bind
    intro updated sent' hupdated
    rcases hupdated with ⟨agent', hagent', hplays⟩
    simp only
    split
    . exact .pure trivial
    . exact ih hagent' hplays

def SetsUp (request : Proto.Request) : Prop :=
  request.hasAction = false

theorem createContext_asks : createContext.Asks SetsUp := by
  have hgameInfo : SetsUp gameInfoRequest := rfl
  have hdata : ∀ what, SetsUp (dataRequest what) := fun _ => rfl
  unfold createContext getUnitTypeData getAbilityData
  rw [getGameInfo_eq, getData_eq, getData_eq]
  apply Dialogue.Asks.bind (.asking hgameInfo)
  intro gameInfo
  apply Dialogue.Asks.bind (.asking (hdata _))
  intro unitTypeData
  apply Dialogue.Asks.bind (.asking (hdata _))
  intro abilityData
  exact .silent

theorem joinGameAs_asks (client : SC2Client Player) (rolls : Nat → Dice)
    : (client.joinGameAs (new rolls) update).Asks SetsUp := by
  have hjoin : SetsUp (joinGameRequest .protoss) := rfl
  unfold joinGameAs
  rw [joinGame_eq]
  apply Dialogue.Asks.bind (.asking hjoin)
  intro playerId
  split
  . exact .silent
  . apply createContext_asks.bind
    intro context
    exact .silent

theorem ordered_of_setsUp {request : Proto.Request} (h : SetsUp request) (a : AbilityId)
    : request.ordered a = 0 := by
  rcases request with ⟨_ | payload⟩
  . rfl
  . cases payload with
    | action actions => cases h
    | _ => rfl

theorem joinGameAs_orders (a : AbilityId) (client : SC2Client Player) (rolls : Nat → Dice)
    : (client.joinGameAs (new rolls) update).Obeys (orders a) 0 fun joined sent => sent = 0 ∧
        (joined.1 = true → ∃ agent, joined.2.agent = some agent ∧ Plays a agent 0) := by
  apply (joinGameAs_asks client rolls).obeys
  . intro request h
    apply orders_free (ordered_of_setsUp h a)
  . intro log joined h
    refine ⟨rfl, ?_⟩
    intro hjoined
    rcases joined with ⟨joined, client'⟩
    simp only at hjoined
    subst hjoined
    rcases joinGameAs_ok h with ⟨agent, _, _, _, hagent, -, -, -, -, -, hstate, hupdate, hact⟩
    exact ⟨agent, hagent, hact, hupdate, by rw [hstate]; rfl⟩

theorem tryMain_orders {a : AbilityId} (hpylon : a ≠ .buildPylon) (hgather : a ≠ .harvestGather)
    (rolls : Nat → Dice) (rounds : Nat)
    : (Main.tryMain (new rolls) update rounds).Obeys (orders a) 0 fun _ _ => True := by
  unfold Main.tryMain
  rw [ping_eq, createGame_eq]
  have hasks : ∀ {α : Type} {request : Proto.Request} {f : Option Proto.Response → Outcome α},
      SetsUp request → (Dialogue.asking request f).Obeys (orders a) 0 fun _ sent => sent = 0 :=
    fun h => .asking (orders_free (ordered_of_setsUp h a) 0) fun _ _ _ => rfl
  have hping : SetsUp pingRequest := rfl
  have hcreate : SetsUp createGameRequest := rfl
  apply (hasks hping).bind
  intro pong sent hsent
  subst hsent
  apply (hasks hcreate).bind
  intro created sent hsent
  subst hsent
  split
  . exact .pure trivial
  . apply (joinGameAs_orders a _ rolls).bind
    intro joined sent hjoined
    rcases joined with ⟨joined, client⟩
    rcases hjoined with ⟨rfl, hjoined⟩
    cases joined with
    | false => exact .pure trivial
    | true =>
      rcases hjoined rfl with ⟨agent, hagent, hplays⟩
      apply (play_orders hpylon hgather hagent hplays rounds).bind
      intro played sent _
      rcases played with ⟨res, client'⟩
      cases res with
      | none => exact .pure trivial
      | some res => exact .pure trivial

theorem main_orders {a : AbilityId} (hpylon : a ≠ .buildPylon) (hgather : a ≠ .harvestGather)
    (rolls : Nat → Dice) (rounds : Nat)
    : (Main.main (new rolls) update rounds).Obeys (orders a) 0 fun _ _ => True := by
  unfold Main.main
  apply (tryMain_orders hpylon hgather rolls rounds).attempt.bind
  intro result sent _
  cases result with
  | ok ending => exact .pure trivial
  | error fault =>
    cases fault with
    | exception what => exact .pure trivial
    | _ => exact .fail

theorem main_stops_ordering {a : AbilityId} (hpylon : a ≠ .buildPylon) (hgather : a ≠ .harvestGather)
    {rolls : Nat → Dice} {rounds : Nat} {log before after : Exchanges} {result : Outcome Ending}
    (h : Dialogue.Runs (Main.main (new rolls) update rounds) log result) (hlog : log = before ++ after)
    (hfull : TestAgent.maxTaken a ≤ (before.map fun e => e.1.ordered a).sum)
    : (after.map fun e => e.1.ordered a).sum = 0 := by
  rcases (main_orders hpylon hgather rolls rounds).runs log result h with ⟨spent, hfollow, -⟩
  subst hlog
  rw [List.map_append, Protocol.follow_append, Option.bind_eq_some_iff] at hfollow
  rcases hfollow with ⟨sent, hbefore, hafter⟩
  have hsent := Protocol.quota_spent hbefore
  rw [List.map_map, Nat.zero_add] at hsent
  have hnone := Protocol.quota_exhausted hafter (hsent ▸ hfull)
  rwa [List.map_map] at hnone

def ownFacility : Proto.Unit where
  tag := some 5
  alliance := some .self
  unitType := some UnitTypeId.protossRoboticsFacility.val.toUInt32
  buildProgress := some 1

def observerOffer : Proto.ResponseQuery where
  abilities := [
    { unitTag := some 4 },
    { abilities := [{ abilityId := some AbilityId.trainObserver.val }], unitTag := some 5 }
  ]

-- The maximum of TRAIN_OBSERVER is 1, the game offers it in every round.
def drill (before : Exchanges) (request : Proto.Request) : Option Proto.Response :=
  match request.payload with
  | some .observation =>
    some {
      payload := some (.observation (Proto.ResponseObservation.ofUnits [ownNexus, ownFacility]))
    }
  | some (.query _) => some { payload := some (.query observerOffer) }
  | _ => Main.host 3 before request

def drillLog : Exchanges :=
  (Main.main (new fun _ => TestAgent.calmDice) update 3).exchanges drill

theorem main_stops_ordering_observer
    : ∃ before after result, drillLog = before ++ after ∧
        Dialogue.Runs (Main.main (new fun _ => TestAgent.calmDice) update 3) drillLog result ∧
        TestAgent.maxTaken .trainObserver = 1 ∧
        (before.map fun e => e.1.ordered .trainObserver).sum = 1 ∧
        (after.filterMap fun e => e.2.bind Proto.Response.query?) = [observerOffer, observerOffer] ∧
        (after.map fun e => e.1.ordered .trainObserver).sum = 0 := by
  rcases Dialogue.runs_exchanges drill (Main.main (new fun _ => TestAgent.calmDice) update 3)
    with ⟨result, hruns, -⟩
  have hmax : TestAgent.maxTaken .trainObserver = 1 := by decide
  have hbefore : ((drillLog.take 10).map fun e => e.1.ordered .trainObserver).sum = 1 := by
    decide +kernel
  have hafter : ((drillLog.drop 10).filterMap fun e => e.2.bind Proto.Response.query?)
      = [observerOffer, observerOffer] := by
    decide +kernel
  have hsplit : drillLog = drillLog.take 10 ++ drillLog.drop 10 := (List.take_append_drop 10 _).symm
  refine ⟨_, _, result, hsplit, hruns, hmax, hbefore, hafter, ?_⟩
  apply main_stops_ordering (by decide) (by decide) hruns hsplit
  rw [hbefore, hmax]

end Player

end Sc2
