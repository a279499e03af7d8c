import Sc2pp.Util.Fault
import Sc2pp.Proto.Sc2api

/-!
This module contains the session, which carries the requests of a client over a websocket stream.
What the network does is an argument of the functions that use it, and what a function did to the
stream is part of its result.

`usable` is the state of the stream itself: it is set by a successful handshake and reset by closing
the stream and by a write or read that fails. The result of `ParseFromArray` is not looked at, so for
bytes that do not decode `received` holds the message as far as it was filled.
-/

namespace Sc2

structure SC2Session where
  host : String
  connected : Bool
  usable : Bool
  deriving DecidableEq, Repr

namespace SC2Session

inductive Op where
  | resolve (host port : String)
  | tcpConnect
  | handshake (host : String)
  | write (request : Proto.Request)
  | read
  | close
  deriving DecidableEq, Repr

inductive ErrorCode where
  | resolve
  | connect
  | handshake
  deriving DecidableEq, Repr

structure ConnectOutcome where
  resolve : Bool
  tcpConnect : Bool
  handshake : Bool
  deriving DecidableEq, Repr

inductive SendOutcome where
  | writeFails
  | readFails
  | received (response : Proto.Response)
  deriving Repr

structure Did (α : Type) where
  session : SC2Session
  ops : List Op
  result : α

def new : SC2Session where
  host := ""
  connected := false
  usable := false

def send (session : SC2Session) (request : Proto.Request) (wire : SendOutcome)
    : Did (Option Proto.Response) :=
  if !session.connected then
    { session := session, ops := [], result := none }
  else
    match wire with
    | .writeFails =>
      { session := { session with usable := false }, ops := [.write request], result := none }
    | .readFails =>
      {
        session := { session with usable := false }
        ops := [.write request, .read]
        result := none
      }
    | .received response =>
      { session := session, ops := [.write request, .read], result := some response }

def handshake (session : SC2Session) (ops : List Op) (succeeds : Bool) : Did (Option ErrorCode) where
  session := { session with usable := session.usable || succeeds }
  ops := ops ++ [.handshake session.host]
  result := if succeeds then none else some .handshake

def connect (session : SC2Session) (host port : String) (net : ConnectOutcome)
    : Did (Option ErrorCode) :=
  if !session.connected then
    if !net.resolve then
      { session := session, ops := [.resolve host port], result := some .resolve }
    else
      let session := { session with host := host }
      if !net.tcpConnect then
        { session := session, ops := [.resolve host port, .tcpConnect], result := some .connect }
      else
        let session := { session with host := session.host ++ ":" ++ port }
        -- The flag is set here, before the handshake has had a chance to fail.
        let session := { session with connected := true }
        session.handshake [.resolve host port, .tcpConnect] net.handshake
  else
    session.handshake [] net.handshake

def close (session : SC2Session) (succeeds : Bool) : Did (Outcome PUnit) :=
  if session.usable then
    {
      session := { session with usable := false }
      ops := [.close]
      result := if succeeds then pure () else throw (.exception "close")
    }
  else
    { session := session, ops := [], result := pure () }

end SC2Session

end Sc2
