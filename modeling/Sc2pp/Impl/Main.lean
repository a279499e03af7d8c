import Sc2pp.Impl.SC2Client

/-!
This module contains the program of the tests: it pings the game, creates and joins one and updates
the client until there is a result. The loop may go on for ever, so it is given the number of rounds
it runs for. The program returns -1 for `notCreated` and `joinFailed` and 0 for the endings that are
left, also after an exception was caught. What it prints, the thread that runs the `io_context` and
the pause between two rounds are left out.

`m_prev_loop` is not initialised by the source, nothing reads it.
-/

namespace Sc2

inductive Ending where
  | notCreated
  | joinFailed
  | finished (result : Proto.PlayerResult)
  | caught (what : String)
  | playing

variable {σ : Type}

namespace SC2Client

def new : SC2Client σ where
  agent := none
  prevLoop := 0

def play (client : SC2Client σ) : Nat → Talk (Option Proto.PlayerResult × SC2Client σ)
  | 0 => return (none, client)
  | rounds + 1 => do
    let (res, client) ← client.update
    if res.isSome then
      return (res, client)
    else
      client.play rounds

end SC2Client

namespace Main

open SC2Client

def tryMain (state : σ) (update : σ → Observation → Agent.Program σ) (rounds : Nat)
    : Talk Ending := do
  let client : SC2Client σ := .new
  let _ ← ping
  let created ← createGame
  if !created then
    return .notCreated
  let (joined, client) ← client.joinGameAs state update
  if !joined then
    return .joinFailed
  let (res, _) ← client.play rounds
  match res with
  | some res => return .finished res
  | none => return .playing

def main (state : σ) (update : σ → Observation → Agent.Program σ) (rounds : Nat)
    : Talk Ending := do
  match ← (tryMain state update rounds).attempt with
  | .ok ending => return ending
  | .error (.exception what) => return .caught what
  | .error fault => Dialogue.fail fault

end Main

end Sc2
