import Sc2pp.Impl.Main
import Sc2pp.Impl.SC2Session

/-!
This module contains the program of the tests on top of a session: connecting to the game, carrying
the requests of the client over the stream and closing it. The outcomes of the connection attempts
and of the sends are given in the order they are made. Launching the game and the pause between two
attempts are left out.

The client, and with it the session, is destroyed when the program ends by itself or an exception
leaves the block the client lives in. The game is terminated before that.
-/

namespace Sc2

open SC2Session

variable {σ α : Type}

def SC2Session.carry (session : SC2Session) (wire : Nat → SendOutcome)
    : Talk α → Did (Outcome α)
  | .done result => { session := session, ops := [], result := result }
  | .ask request k =>
    let sent := session.send request (wire 0)
    let rest := sent.session.carry (fun i => wire (i + 1)) (k sent.result)
    { rest with ops := sent.ops ++ rest.ops }

namespace SC2Client

def retry (session : SC2Session) (net : Nat → ConnectOutcome) : Nat → Did PUnit
  | 0 => { session := session, ops := [], result := ⟨⟩ }
  | attempts + 1 =>
    let connected := session.connect "127.0.0.1" "8167" (net 0)
    if connected.result.isNone then
      { connected with result := ⟨⟩ }
    else
      let rest := retry connected.session (fun i => net (i + 1)) attempts
      { rest with ops := connected.ops ++ rest.ops }

def start (session : SC2Session) (net : Nat → ConnectOutcome) : Did PUnit :=
  retry session net 9

end SC2Client

namespace Main

structure Network where
  net : Nat → ConnectOutcome
  wire : Nat → SendOutcome
  closes : Bool

structure Finished where
  session : SC2Session
  ops : List Op
  ending : Outcome Ending
  closed : Option (Outcome PUnit)

def destroysClient : Outcome Ending → Bool
  | .ok .playing => false
  | .ok _ => true
  | .error _ => false

def program (state : σ) (update : σ → Observation → Agent.Program σ) (rounds : Nat)
    (network : Network) : Finished :=
  let started := SC2Client.start .new network.net
  let played := started.session.carry network.wire (main state update rounds)
  if destroysClient played.result then
    let closed := played.session.close network.closes
    {
      session := closed.session
      ops := started.ops ++ played.ops ++ closed.ops
      ending := played.result
      closed := some closed.result
    }
  else
    {
      session := played.session
      ops := started.ops ++ played.ops
      ending := played.result
      closed := none
    }

end Main

end Sc2
