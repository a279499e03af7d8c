import Sc2pp.Impl.SC2Session
import Sc2pp.Util.Run

/-!
This module contains how the flag of a session relates to the state of its stream over any sequence
of calls. `Keeps` is the condition under which a call leaves a flag that was right as it should be,
`Sound` says what a right flag is there for.
-/

namespace Sc2.SC2Session

inductive Event where
  | connect (host port : String) (net : ConnectOutcome)
  | send (request : Proto.Request) (wire : SendOutcome)
  | close (succeeds : Bool)
  deriving Repr

def ops (session : SC2Session) : Event → List Op
  | .connect host port net => (session.connect host port net).ops
  | .send request wire => (session.send request wire).ops
  | .close succeeds => (session.close succeeds).ops

def step (session : SC2Session) : Event → SC2Session
  | .connect host port net => (session.connect host port net).session
  | .send request wire => (session.send request wire).session
  | .close succeeds => (session.close succeeds).session

def Consistent (session : SC2Session) : Prop :=
  session.connected = true ↔ session.usable = true

def Keeps (session : SC2Session) : Event → Prop
  | .connect _ _ net =>
    ¬ (session.connected = false ∧ net.resolve = true ∧ net.tcpConnect = true ∧
      net.handshake = false)
  | .send _ wire => session.connected = true → ∃ response, wire = .received response
  | .close _ => session.usable = false

def Sound (session : SC2Session) (e : Event) : Prop :=
  (∀ request, Op.write request ∈ session.ops e → session.usable = true) ∧
  ∀ host port net, e = .connect host port net → session.usable = false →
    Op.resolve host port ∈ session.ops e ∧ (net.resolve = true → Op.tcpConnect ∈ session.ops e)

theorem consistent_new : new.Consistent := by
  simp [Consistent, new]

theorem consistent_connect_iff {session : SC2Session} (h : session.Consistent)
    (host port : String) (net : ConnectOutcome)
    : (session.connect host port net).session.Consistent
        ↔
      session.Keeps (.connect host port net) := by
  rcases net with ⟨resolve, tcpConnect, succeeds⟩
  unfold Consistent at h
  cases hconnected : session.connected
  . cases resolve <;> cases tcpConnect <;>
      simp_all [connect, handshake, Consistent, Keeps]
  . simp_all [connect, handshake, Consistent, Keeps]

theorem consistent_send_iff {session : SC2Session} (h : session.Consistent)
    (request : Proto.Request) (wire : SendOutcome)
    : (session.send request wire).session.Consistent ↔ session.Keeps (.send request wire) := by
  unfold Consistent at h
  cases hconnected : session.connected
  . simp_all [send, Consistent, Keeps]
  . cases wire <;> simp_all [send, Consistent, Keeps]

theorem consistent_close_iff {session : SC2Session} (h : session.Consistent) (succeeds : Bool)
    : (session.close succeeds).session.Consistent ↔ session.Keeps (.close succeeds) := by
  unfold Consistent at h
  cases husable : session.usable <;> simp_all [close, Consistent, Keeps]

theorem step_consistent_iff (session : SC2Session) (e : Event) (h : session.Consistent)
    : (session.step e).Consistent ↔ session.Keeps e := by
  cases e with
  | connect host port net => apply consistent_connect_iff h host port net
  | send request wire => apply consistent_send_iff h request wire
  | close succeeds => apply consistent_close_iff h succeeds

theorem write_not_mem_connect {session : SC2Session} {host port : String} {net : ConnectOutcome}
    {request : Proto.Request} : Op.write request ∉ (session.connect host port net).ops := by
  rcases net with ⟨resolve, tcpConnect, succeeds⟩
  cases hconnected : session.connected <;> cases resolve <;> cases tcpConnect <;>
    simp [connect, handshake, hconnected]

theorem write_mem_send {session : SC2Session} {request request' : Proto.Request}
    {wire : SendOutcome} (h : Op.write request' ∈ (session.send request wire).ops)
    : session.connected = true := by
  unfold send at h
  split at h
  . cases h
  . next hconnected => simpa using hconnected

theorem connect_ops_of_not_connected {session : SC2Session} (h : session.connected = false)
    (host port : String) (net : ConnectOutcome)
    : Op.resolve host port ∈ (session.connect host port net).ops ∧
      (net.resolve = true → Op.tcpConnect ∈ (session.connect host port net).ops) := by
  rcases net with ⟨resolve, tcpConnect, succeeds⟩
  cases resolve <;> cases tcpConnect <;> simp [connect, handshake, h]

theorem sound_of_consistent (session : SC2Session) (e : Event) (h : session.Consistent)
    : session.Sound e := by
  constructor
  . intro request hwrite
    cases e with
    | connect host port net => exact absurd hwrite write_not_mem_connect
    | send request' wire => exact h.mp (write_mem_send hwrite)
    | close succeeds =>
      simp only [ops, close] at hwrite
      split at hwrite <;> simp at hwrite
  . intro host port net he husable
    subst he
    apply connect_ops_of_not_connected
    rw [Bool.eq_false_iff]
    intro hconnected
    rw [h.mp hconnected] at husable
    cases husable

theorem run_consistent_iff (events : List Event)
    : ((∀ session ∈ events.scanl step new, session.Consistent) ∧
        ∀ e ∈ Run.steps step new events, e.1.Sound e.2)
        ↔
      ∀ e ∈ Run.steps step new events, e.1.Keeps e.2 := by
  rw [← Run.scanl_invariant_iff step_consistent_iff consistent_new events]
  constructor
  . intro h
    exact h.1
  . intro h
    exact ⟨h, Run.steps_of_scanl sound_of_consistent h⟩

inductive Carried
    : SC2Session → List (Proto.Request × Option Proto.Response) → List Op → SC2Session → Prop where
  | nil (session : SC2Session) : Carried session [] [] session
  | cons {session session' : SC2Session} {request : Proto.Request} {wire : SendOutcome}
    {log : List (Proto.Request × Option Proto.Response)} {ops : List Op}
    : Carried (session.send request wire).session log ops session' →
      Carried session ((request, (session.send request wire).result) :: log)
        ((session.send request wire).ops ++ ops) session'

def refusedHandshake : Event :=
  .connect "127.0.0.1" "8167" { resolve := true, tcpConnect := true, handshake := false }

theorem refused_handshake_stays_connected
    : ∃ session ∈ [refusedHandshake].scanl step new,
        session.connected = true ∧ session.usable = false ∧ ¬ session.Consistent ∧
        ¬ session.Sound refusedHandshake ∧ ¬ session.Sound (.send {} .readFails) := by
  refine ⟨new.step refusedHandshake, by simp, rfl, rfl, ?_, ?_, ?_⟩
  . simp [Consistent, step, refusedHandshake, connect, handshake, new]
  . intro h
    have hops := (h.2 "127.0.0.1" "8167" _ rfl rfl).1
    simp [ops, step, refusedHandshake, connect, handshake, new] at hops
  . intro h
    have husable := h.1 {} (by simp [ops, send, step, refusedHandshake, connect, handshake, new])
    simp [step, refusedHandshake, connect, handshake, new] at husable

end Sc2.SC2Session
