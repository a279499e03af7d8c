import Sc2pp.Impl.Connection
import Sc2pp.Lemmas.Main
import Sc2pp.Lemmas.SC2Session

/-!
This module contains what the program of the tests does to its stream. The stream is used for one
exchange after the other, a `chunk` of operations for each.
-/

namespace Sc2

open SC2Session

variable {σ α : Type}

namespace SC2Session

theorem carry_carried (session : SC2Session) (wire : Nat → SendOutcome) (talk : Talk α)
    : ∃ log, Dialogue.Runs talk log (session.carry wire talk).result ∧
        Carried session log (session.carry wire talk).ops (session.carry wire talk).session := by
  induction talk generalizing session wire with
  | done result => exact ⟨[], .done result, .nil session⟩
  | ask request k ih =>
    rcases ih _ (session.send request (wire 0)).session (fun i => wire (i + 1))
      with ⟨log, hruns, hcarried⟩
    exact ⟨_, .ask request k _ hruns, .cons hcarried⟩

def Chunk (e : Proto.Request × Option Proto.Response) (chunk : List Op) : Prop :=
  chunk = [.write e.1, .read] ∨ (chunk = [.write e.1] ∧ e.2 = none)

theorem send_connected {session : SC2Session} (h : session.connected = true)
    (request : Proto.Request) (wire : SendOutcome)
    : Chunk (request, (session.send request wire).result) (session.send request wire).ops ∧
        (session.send request wire).session.connected = true := by
  cases wire with
  | writeFails =>
    simp only [send, h]
    exact ⟨.inr ⟨rfl, rfl⟩, rfl⟩
  | readFails =>
    simp only [send, h]
    exact ⟨.inl rfl, rfl⟩
  | received response =>
    simp only [send, h]
    exact ⟨.inl rfl, h⟩

theorem send_disconnected {session : SC2Session} (h : session.connected = false)
    (request : Proto.Request) (wire : SendOutcome)
    : session.send request wire = { session := session, ops := [], result := none } := by
  simp [send, h]

theorem carried_chunks {session session' : SC2Session} {log : Exchanges} {ops : List Op}
    (hconnected : session.connected = true) (h : Carried session log ops session')
    : ∃ chunks, ops = chunks.flatten ∧ List.Forall₂ Chunk log chunks := by
  induction h with
  | nil session => exact ⟨[], rfl, .nil⟩
  | @cons session session' request wire log ops _ ih =>
    rcases send_connected hconnected request wire with ⟨hchunk, hconnected'⟩
    rcases ih hconnected' with ⟨chunks, rfl, hchunks⟩
    exact ⟨_ :: chunks, rfl, .cons hchunk hchunks⟩

theorem carried_usable {session session' : SC2Session} {log : Exchanges} {ops : List Op}
    (hconnected : session.connected = true) (h : Carried session log ops session')
    : session'.usable = true ↔ session.usable = true ∧ ∀ e ∈ log, e.2 ≠ none := by
  induction h with
  | nil session => simp
  | @cons session session' request wire log ops _ ih =>
    rw [ih (send_connected hconnected request wire).2, List.forall_mem_cons]
    cases wire with
    | writeFails => simp [send, hconnected]
    | readFails => simp [send, hconnected]
    | received response => simp [send, hconnected]

theorem carried_disconnected {session session' : SC2Session} {log : Exchanges} {ops : List Op}
    (hconnected : session.connected = false) (h : Carried session log ops session')
    : ops = [] ∧ session' = session ∧ ∀ e ∈ log, e.2 = none := by
  induction h with
  | nil session => exact ⟨rfl, rfl, by simp⟩
  | @cons session session' request wire log ops _ ih =>
    rw [send_disconnected hconnected] at ih ⊢
    rcases ih hconnected with ⟨rfl, rfl, hlog⟩
    exact ⟨rfl, rfl, by simpa using hlog⟩

theorem close_session (session : SC2Session) (succeeds : Bool)
    : (session.close succeeds).session.usable = false := by
  unfold close
  split
  . rfl
  . next h => simpa using h

theorem close_ops (session : SC2Session) (succeeds : Bool)
    : (session.close succeeds).ops = if session.usable then [.close] else [] := by
  unfold close
  split <;> rfl

end SC2Session

namespace SC2Client

def Opens (net : ConnectOutcome) : Prop :=
  net.resolve = true ∧ net.tcpConnect = true

instance (net : ConnectOutcome) : Decidable (Opens net) :=
  inferInstanceAs (Decidable (_ ∧ _))

def IsDial (op : Op) : Prop :=
  op = .resolve "127.0.0.1" "8167" ∨ op = .tcpConnect

def IsHandshake (op : Op) : Prop :=
  op = .handshake "127.0.0.1:8167"

structure Shaken (session : SC2Session) (net : Nat → ConnectOutcome) (attempts : Nat)
    (did : Did PUnit) : Prop where
  connected : did.session.connected = true
  usable : did.session.usable = true
    ↔ session.usable = true ∨ ∃ i < attempts, (net i).handshake = true
  ops : ∀ op ∈ did.ops, IsHandshake op
  length : did.ops.length ≤ attempts

theorem retry_connected {session : SC2Session} (hconnected : session.connected = true)
    (hhost : session.host = "127.0.0.1:8167") (net : Nat → ConnectOutcome) (attempts : Nat)
    : Shaken session net attempts (retry session net attempts) := by
  induction attempts generalizing session net with
  | zero => exact ⟨hconnected, by simp [retry], by simp [retry], by simp [retry]⟩
  | succ attempts ih =>
    have hconnect : session.connect "127.0.0.1" "8167" (net 0)
        = session.handshake [] (net 0).handshake := by
      simp [connect, hconnected]
    unfold retry
    rw [hconnect]
    cases hshake : (net 0).handshake with
    | true =>
      constructor
      . exact hconnected
      . rw [Nat.exists_lt_succ_left]
        simp [handshake, hshake]
      . simp [handshake, IsHandshake, hhost]
      . simp [handshake]
    | false =>
      have hrest := @ih (session.handshake [] false).session hconnected hhost
        (fun i => net (i + 1))
      constructor
      . exact hrest.connected
      . rw [Nat.exists_lt_succ_left, hshake]
        simpa [handshake] using hrest.usable
      . intro op hop
        rcases List.mem_append.mp hop with hop | hop
        . simp only [handshake, List.nil_append, List.mem_singleton] at hop
          rw [hop, hhost]
          rfl
        . exact hrest.ops op hop
      . have hlength := hrest.length
        simp only [handshake, Option.isNone_some, Bool.false_eq_true, if_false] at hlength ⊢
        simp only [List.length_append, List.length_singleton, List.nil_append]
        omega

structure Dialled (net : Nat → ConnectOutcome) (attempts : Nat) (did : Did PUnit) : Prop where
  connected : did.session.connected = true ↔ ∃ i < attempts, Opens (net i)
  usable : did.session.usable = true
    ↔ ∃ i j, i ≤ j ∧ j < attempts ∧ Opens (net i) ∧ (net j).handshake = true
  ops : ∃ dials shakes, did.ops = dials ++ shakes ∧ (∀ op ∈ dials, IsDial op) ∧
    (∀ op ∈ shakes, IsHandshake op) ∧ dials.length ≤ 2 * attempts ∧ shakes.length ≤ attempts

theorem handshake_refused (session : SC2Session) (ops : List Op)
    : (session.handshake ops false).session = session := by
  simp [handshake]

theorem connect_refused {session : SC2Session} (hconnected : session.connected = false)
    (husable : session.usable = false) {net : ConnectOutcome} (h : ¬ Opens net)
    : ∃ session' ops error, session.connect "127.0.0.1" "8167" net
          = { session := session', ops := ops, result := some error } ∧
        session'.connected = false ∧ session'.usable = false ∧ (∀ op ∈ ops, IsDial op) ∧
        ops.length ≤ 2 := by
  rcases net with ⟨resolve, tcpConnect, succeeds⟩
  cases resolve with
  | false =>
    refine ⟨session, [.resolve "127.0.0.1" "8167"], .resolve, by simp [connect, hconnected],
      hconnected, husable, ?_, by simp⟩
    simp [IsDial]
  | true =>
    cases tcpConnect with
    | false =>
      refine ⟨{ session with host := "127.0.0.1" }, [.resolve "127.0.0.1" "8167", .tcpConnect],
        .connect, by simp [connect, hconnected], hconnected, husable, ?_, by simp⟩
      simp [IsDial]
    | true => exact absurd ⟨rfl, rfl⟩ h

theorem connect_opened {session : SC2Session} (hconnected : session.connected = false)
    {net : ConnectOutcome} (h : Opens net)
    : session.connect "127.0.0.1" "8167" net
        =
      SC2Session.handshake
        { host := "127.0.0.1:8167", connected := true, usable := session.usable }
        [.resolve "127.0.0.1" "8167", .tcpConnect] net.handshake := by
  rcases net with ⟨resolve, tcpConnect, succeeds⟩
  rcases h with ⟨hresolve, htcp⟩
  simp only at hresolve htcp
  subst hresolve
  subst htcp
  simp [connect, hconnected]

theorem retry_stops {session : SC2Session} {net : Nat → ConnectOutcome} {attempts : Nat}
    (h : (session.connect "127.0.0.1" "8167" (net 0)).result = none)
    : retry session net (attempts + 1)
        =
      { session.connect "127.0.0.1" "8167" (net 0) with result := ⟨⟩ } := by
  simp [retry, h]

theorem retry_again {session : SC2Session} {net : Nat → ConnectOutcome} {attempts : Nat}
    {error : ErrorCode}
    (h : (session.connect "127.0.0.1" "8167" (net 0)).result = some error)
    : (retry session net (attempts + 1)).session
        =
      (retry (session.connect "127.0.0.1" "8167" (net 0)).session
        (fun i => net (i + 1)) attempts).session ∧
      (retry session net (attempts + 1)).ops
        =
      (session.connect "127.0.0.1" "8167" (net 0)).ops ++
        (retry (session.connect "127.0.0.1" "8167" (net 0)).session
          (fun i => net (i + 1)) attempts).ops := by
  simp [retry, h]

theorem exists_le_lt_succ {p q : Nat → Prop} {n : Nat}
    : (∃ i j, i ≤ j ∧ j < n + 1 ∧ p i ∧ q j)
        ↔
      (p 0 ∧ (q 0 ∨ ∃ j < n, q (j + 1))) ∨
        ∃ i j, i ≤ j ∧ j < n ∧ p (i + 1) ∧ q (j + 1) := by
  constructor
  . intro h
    rcases h with ⟨i, j, hij, hj, hp, hq⟩
    cases i with
    | zero => exact .inl ⟨hp, Nat.exists_lt_succ_left.mp ⟨j, hj, hq⟩⟩
    | succ i =>
      cases j with
      | zero => omega
      | succ j => exact .inr ⟨i, j, by omega, by omega, hp, hq⟩
  . intro h
    rcases h with ⟨hp, h⟩ | ⟨i, j, hij, hj, hp, hq⟩
    . rcases Nat.exists_lt_succ_left.mpr h with ⟨j, hj, hq⟩
      exact ⟨0, j, by omega, hj, hp, hq⟩
    . exact ⟨i + 1, j + 1, by omega, by omega, hp, hq⟩

theorem retry_opened {session : SC2Session} (hconnected : session.connected = false)
    (husable : session.usable = false) {net : Nat → ConnectOutcome} (hopens : Opens (net 0))
    (attempts : Nat) : Dialled net (attempts + 1) (retry session net (attempts + 1)) := by
  have hconnect := connect_opened hconnected hopens
  have hdials : ∀ op ∈ [Op.resolve "127.0.0.1" "8167", .tcpConnect], IsDial op := by
    simp [IsDial]
  have hfirst : ∀ op ∈ [Op.handshake "127.0.0.1:8167"], IsHandshake op := by
    simp [IsHandshake]
  cases hshake : (net 0).handshake with
  | true =>
    rw [hshake] at hconnect
    have hretry := @retry_stops session net attempts (by rw [hconnect]; rfl)
    rw [hconnect] at hretry
    rw [hretry]
    constructor
    . rw [Nat.exists_lt_succ_left]
      simp [handshake, hopens]
    . rw [exists_le_lt_succ]
      simp [handshake, hopens, hshake]
    . exact ⟨_, _, rfl, hdials, hfirst, by simp, by simp⟩
  | false =>
    rw [hshake] at hconnect
    rcases @retry_again session net attempts _ (by rw [hconnect]; rfl) with ⟨hsession, hops⟩
    rw [hconnect, handshake_refused] at hsession hops
    have hrest := @retry_connected
      { host := "127.0.0.1:8167", connected := true, usable := session.usable }
      rfl rfl (fun i => net (i + 1)) attempts
    constructor
    . rw [hsession, Nat.exists_lt_succ_left]
      simpa [hopens] using hrest.connected
    . rw [hsession, exists_le_lt_succ]
      constructor
      . intro husable'
        rcases hrest.usable.mp husable' with h | h
        . simp [husable] at h
        . exact .inl ⟨hopens, .inr h⟩
      . intro h
        apply hrest.usable.mpr
        rcases h with ⟨_, h | h⟩ | ⟨i, j, _, hj, _, h⟩
        . simp [hshake] at h
        . exact .inr h
        . exact .inr ⟨j, hj, h⟩
    . rw [hops]
      refine ⟨_, [.handshake "127.0.0.1:8167"] ++ _, List.append_assoc _ _ _, hdials, ?_, by simp,
        ?_⟩
      . rw [List.forall_mem_append]
        exact ⟨hfirst, hrest.ops⟩
      . have hlength := hrest.length
        rw [List.length_append, List.length_singleton]
        omega

theorem Dialled.refused {session : SC2Session} (hconnected : session.connected = false)
    (husable : session.usable = false) {net : Nat → ConnectOutcome} (hopens : ¬ Opens (net 0))
    {attempts : Nat}
    (ih : ∀ session : SC2Session, session.connected = false → session.usable = false →
      Dialled (fun i => net (i + 1)) attempts (retry session (fun i => net (i + 1)) attempts))
    : Dialled net (attempts + 1) (retry session net (attempts + 1)) := by
  rcases connect_refused hconnected husable hopens
    with ⟨session', ops, error, hconnect, hconnected', husable', hdials, hlength⟩
  rcases @retry_again session net attempts error (by rw [hconnect]) with ⟨hsession, hops⟩
  rw [hconnect] at hsession hops
  have hrest := ih session' hconnected' husable'
  rcases hrest.ops with ⟨dials, shakes, hops', hdials', hshakes, hlength', hlength''⟩
  constructor
  . rw [hsession, Nat.exists_lt_succ_left, hrest.connected]
    simp [hopens]
  . rw [hsession, exists_le_lt_succ, hrest.usable]
    simp [hopens]
  . refine ⟨ops ++ dials, shakes, ?_, ?_, hshakes, ?_, by omega⟩
    . simp [hops, hops']
    . rw [List.forall_mem_append]
      exact ⟨hdials, hdials'⟩
    . rw [List.length_append]
      omega

theorem retry_disconnected {session : SC2Session} (hconnected : session.connected = false)
    (husable : session.usable = false) (net : Nat → ConnectOutcome) (attempts : Nat)
    : Dialled net attempts (retry session net attempts) := by
  induction attempts generalizing session net with
  | zero =>
    constructor
    . simp [retry, hconnected]
    . simp [retry, husable]
    . exact ⟨[], [], rfl, by simp, by simp, by simp, by simp⟩
  | succ attempts ih =>
    by_cases hopens : Opens (net 0)
    . exact retry_opened hconnected husable hopens attempts
    . apply Dialled.refused hconnected husable hopens
      intro session' hconnected' husable'
      exact ih hconnected' husable' fun i => net (i + 1)

end SC2Client

namespace Main

open SC2Client

def Opened (network : Network) : Prop :=
  ∃ i < 9, Opens (network.net i)

def Upgraded (network : Network) : Prop :=
  ∃ i j, i ≤ j ∧ j < 9 ∧ Opens (network.net i) ∧ (network.net j).handshake = true

theorem Upgraded.opened {network : Network} (h : Upgraded network) : Opened network := by
  rcases h with ⟨i, j, hij, hj, hopens, -⟩
  exact ⟨i, by omega, hopens⟩

theorem main_eq_ask (state : σ) (update : σ → Observation → Agent.Program σ) (rounds : Nat)
    : ∃ k, main state update rounds = .ask pingRequest k ∧
        k none = .done (.error .nullDeref) := by
  exact ⟨_, rfl, rfl⟩

theorem main_unanswered {state : σ} {update : σ → Observation → Agent.Program σ} {rounds : Nat}
    {log : Exchanges} {result : Outcome Ending}
    (h : Dialogue.Runs (main state update rounds) log result) (hlog : ∀ e ∈ log, e.2 = none)
    : log = [(pingRequest, none)] ∧ result = .error .nullDeref := by
  rcases main_eq_ask state update rounds with ⟨k, hmain, hnone⟩
  rw [hmain, Dialogue.runs_ask_iff] at h
  rcases h with ⟨reply, rest, rfl, hrest⟩
  have hreply := hlog (pingRequest, reply) List.mem_cons_self
  simp only at hreply
  subst hreply
  rw [hnone, Dialogue.runs_done_iff] at hrest
  rcases hrest with ⟨rfl, rfl⟩
  exact ⟨rfl, rfl⟩

def Closes (network : Network) (finished : Finished) (log : Exchanges) : Prop :=
  destroysClient finished.ending = true ∧ Upgraded network ∧ ∀ e ∈ log, e.2 ≠ none

structure Transcript (network : Network) (finished : Finished) (log : Exchanges)
    (dials shakes : List Op) (chunks : List (List Op)) (closing : List Op) : Prop where
  ops : finished.ops = dials ++ shakes ++ chunks.flatten ++ closing
  isDial : ∀ op ∈ dials, IsDial op
  isHandshake : ∀ op ∈ shakes, IsHandshake op
  attempts : dials.length ≤ 18 ∧ shakes.length ≤ 9
  opened : Opened network → List.Forall₂ Chunk log chunks
  unopened : ¬ Opened network →
    chunks = [] ∧ log = [(pingRequest, none)] ∧ finished.ending = .error .nullDeref
  closes : Closes network finished log → closing = [.close]
  leaves : ¬ Closes network finished log → closing = []
  closed : destroysClient finished.ending = true → finished.session.usable = false

structure Closing (played : Did (Outcome Ending)) (finished : Finished) (closing : List Op)
    : Prop where
  ending : finished.ending = played.result
  closes : closing
    = if destroysClient played.result = true ∧ played.session.usable = true then [.close] else []
  closed : destroysClient played.result = true → finished.session.usable = false

theorem program_closing (state : σ) (update : σ → Observation → Agent.Program σ)
    (rounds : Nat) (network : Network)
    : ∃ closing, (program state update rounds network).ops
        =
      (start .new network.net).ops ++
        ((start .new network.net).session.carry network.wire (main state update rounds)).ops ++
        closing ∧
      Closing
        ((start .new network.net).session.carry network.wire (main state update rounds))
        (program state update rounds network) closing := by
  unfold program
  simp only
  split
  . next hdestroys =>
    refine ⟨_, rfl, rfl, ?_, ?_⟩
    . rw [close_ops]
      simp [hdestroys]
    . intro _
      apply close_session
  . next hdestroys =>
    refine ⟨[], (List.append_nil _).symm, rfl, ?_, ?_⟩
    . simp [hdestroys]
    . intro h
      exact absurd h hdestroys

structure Passes (network : Network) (played : Did (Outcome Ending)) (log : Exchanges)
    (chunks : List (List Op)) : Prop where
  ops : played.ops = chunks.flatten
  usable : played.session.usable = true ↔ Upgraded network ∧ ∀ e ∈ log, e.2 ≠ none
  opened : Opened network → List.Forall₂ Chunk log chunks
  unopened : ¬ Opened network →
    chunks = [] ∧ log = [(pingRequest, none)] ∧ played.result = .error .nullDeref

theorem main_passes (state : σ) (update : σ → Observation → Agent.Program σ) (rounds : Nat)
    {network : Network} {did : Did PUnit} (hstart : Dialled network.net 9 did)
    : ∃ log chunks,
        Dialogue.Runs (main state update rounds) log
          (did.session.carry network.wire (main state update rounds)).result ∧
        Passes network (did.session.carry network.wire (main state update rounds)) log chunks := by
  rcases carry_carried did.session network.wire (main state update rounds)
    with ⟨log, hruns, hcarried⟩
  by_cases hopened : Opened network
  . have hconnected : did.session.connected = true := hstart.connected.mpr hopened
    rcases carried_chunks hconnected hcarried with ⟨chunks, hchunks, hlog⟩
    refine ⟨log, chunks, hruns, hchunks, ?_, fun _ => hlog, fun h => absurd hopened h⟩
    exact (carried_usable hconnected hcarried).trans (and_congr_left' hstart.usable)
  . have hconnected : did.session.connected = false := by
      rw [Bool.eq_false_iff]
      intro h
      exact hopened (hstart.connected.mp h)
    have hupgraded : ¬ Upgraded network := fun h => hopened h.opened
    rcases carried_disconnected hconnected hcarried with ⟨hnone, hsession, hlost⟩
    refine ⟨log, [], hruns, hnone, ?_, fun h => absurd h hopened,
      fun _ => ⟨rfl, main_unanswered hruns hlost⟩⟩
    rw [hsession]
    apply iff_of_false
    . intro h
      exact hupgraded (hstart.usable.mp h)
    . intro h
      exact hupgraded h.1

theorem program_transcript (state : σ) (update : σ → Observation → Agent.Program σ)
    (rounds : Nat) (network : Network)
    : ∃ log dials shakes chunks closing,
        Dialogue.Runs (main state update rounds) log
          (program state update rounds network).ending ∧
        Transcript network (program state update rounds network) log dials shakes chunks
          closing := by
  have hstart := @retry_disconnected .new rfl rfl network.net 9
  rcases hstart.ops with ⟨dials, shakes, hops, hdials, hshakes, hattempts⟩
  rcases main_passes state update rounds hstart with ⟨log, chunks, hruns, hpasses⟩
  rcases program_closing state update rounds network with ⟨closing, hfinished, hclosing⟩
  refine ⟨log, dials, shakes, chunks, closing, ?_, ?_⟩
  . rw [hclosing.ending]
    exact hruns
  . constructor
    . rw [hfinished, ← hpasses.ops, ← hops]
      rfl
    . exact hdials
    . exact hshakes
    . exact hattempts
    . exact hpasses.opened
    . rw [hclosing.ending]
      exact hpasses.unopened
    . intro h
      rw [hclosing.closes, if_pos ⟨hclosing.ending ▸ h.1, hpasses.usable.mpr h.2⟩]
    . intro h
      rw [hclosing.closes, if_neg]
      intro h'
      exact h ⟨hclosing.ending ▸ h'.1, hpasses.usable.mp h'.2⟩
    . rw [hclosing.ending]
      exact hclosing.closed

end Main

end Sc2
