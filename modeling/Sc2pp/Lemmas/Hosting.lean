import Sc2pp.Lemmas.Connection
import Sc2pp.Lemmas.LocalGame

/-!
This module contains the program of the tests over a network that carries the replies of a game. It
connects, plays and closes as `program` does, and comes to what the local `host` of the game comes to.
-/

namespace Sc2

open SC2Session Dialogue

variable {S σ α : Type}

def SC2Session.SendOutcome.reply? : SendOutcome → Option Proto.Response
  | received response => some response
  | _ => none

def Delivers (wire : Nat → SendOutcome) (replies : List (Option Proto.Response)) : Prop :=
  ∀ i reply, replies[i]? = some reply → (wire i).reply? = reply

namespace SC2Session

theorem send_reply {session : SC2Session} (hconnected : session.connected = true)
    (request : Proto.Request) (wire : SendOutcome)
    : (session.send request wire).result = wire.reply? := by
  unfold send
  rw [hconnected]
  cases wire <;> rfl

theorem carry_delivers {session : SC2Session} (hconnected : session.connected = true)
    {wire : Nat → SendOutcome} {talk : Talk α} {log : Exchanges} {result : Outcome α}
    (hruns : Runs talk log result) (hwire : Delivers wire (log.map Prod.snd))
    : (session.carry wire talk).result = result := by
  induction hruns generalizing session wire with
  | done result => rfl
  | ask request k reply hrest ih =>
    have hreply : (wire 0).reply? = reply := hwire 0 reply rfl
    have hsent := send_connected hconnected request (wire 0)
    unfold carry
    simp only
    rw [send_reply hconnected, hreply]
    apply ih hsent.2
    intro i reply' hreply'
    exact hwire (i + 1) reply' hreply'

end SC2Session

namespace Game

variable {handler : Proto.Request → StateM S (Option Proto.Response)} {game : Game S}

theorem program_hosts (h : Speaks handler game) (state : σ)
    (update : σ → Observation → Agent.Program σ) (rounds : Nat) (s : S) {network : Main.Network}
    (hopened : Main.Opened network)
    (hwire : Delivers network.wire (replies handler (Main.main state update rounds) s))
    : (Main.program state update rounds network).ending
        =
      ((game.host state update rounds).run.run s).1 := by
  have hstart := @SC2Client.retry_disconnected .new rfl rfl network.net 9
  have hserve := serve_main h state update rounds
  rcases @serve_runs _ _ _ _ _ handler (Main.main state update rounds) s with ⟨log, hruns, hlog⟩
  rcases Main.program_closing state update rounds network with ⟨closing, -, hclosing⟩
  rw [hclosing.ending, ← hserve]
  apply carry_delivers (hstart.connected.mpr hopened) hruns
  rw [hlog]
  exact hwire

def wireOf (replies : List (Option Proto.Response)) (i : Nat) : SendOutcome :=
  replies[i]?.join.elim .readFails .received

theorem wireOf_delivers (replies : List (Option Proto.Response))
    : Delivers (wireOf replies) replies := by
  intro i reply h
  unfold wireOf
  rw [h, Option.join_some]
  cases reply with
  | none => rfl
  | some response => rfl

def duelNetwork : Main.Network where
  net _ := { resolve := true, tcpConnect := true, handshake := true }
  wire := wireOf (replies duel.handler (Main.main 0 SC2Client.greeter 3) (0, []))
  closes := true

theorem program_hosts_duel
    : (Main.program 0 SC2Client.greeter 3 duelNetwork).ending
        =
      ((duel.host 0 SC2Client.greeter 3).run.run (0, [])).1 := by
  have hopened : Main.Opened duelNetwork := ⟨0, by decide, rfl, rfl⟩
  exact program_hosts duel.handler_speaks 0 SC2Client.greeter 3 (0, []) hopened (wireOf_delivers _)

end Game

end Sc2
