import Netboot.Failure

/-! Opening sockets, as a sequence of calls on the system that may each fail. -/

set_option autoImplicit false

namespace Netboot.Socket

inductive Transport where
  | udp
  | tcp
  deriving DecidableEq, Repr

inductive Call where
  | create (transport : Transport)
  | reuseAddress
  | broadcast
  | bindToDevice (device : String)
  | bind (host : String) (port : Int)
  | listen (backlog : Nat)
  | setNonBlocking
  | close
  | detach
  deriving DecidableEq, Repr

/-- Which calls fail, and how. -/
abbrev Weather := Call → Option Failure

def attempt (weather : Weather) : List Call → List Call × Option Failure
  | [] => ([], none)
  | call :: rest =>
    match weather call with
    | some failure => ([call], some failure)
    | none =>
      let (made, failure) := attempt weather rest
      (call :: made, failure)

/-- Open a socket and set it up. When the system refuses a call of the setup the socket is closed
again, and a failure to close it counts for the other one; any other failure of the setup, and one
after it, leaves the socket open. -/
def openWith (weather : Weather) (transport : Transport) (setup : List Call) :
    List Call × Option Failure :=
  match weather (.create transport) with
  | some failure => ([.create transport], some failure)
  | none =>
    match attempt weather setup with
    | (made, some failure) =>
      if failure.system then
        (.create transport :: made ++ [.close], (weather .close).or (some failure))
      else (.create transport :: made, some failure)
    | (made, none) => (.create transport :: made ++ [.setNonBlocking], weather .setNonBlocking)

def backlog : Nat := 128

def udpSetup (host : String) (port : Int) (broadcast : Bool) (device : Option String) :
    List Call :=
  [.reuseAddress] ++ (if broadcast then [.broadcast] else []) ++
    (device.map Call.bindToDevice).toList ++ [.bind host port]

def tcpSetup (host : String) (port : Int) : List Call :=
  [.reuseAddress, .bind host port, .listen backlog]

/-- Whether a call opens a socket. -/
def opens (weather : Weather) : Call → Bool
  | .create transport => (weather (.create transport)).isNone
  | _ => false

/-- How many sockets calls leave open. A socket is given up even where closing it fails. -/
def openAfter (weather : Weather) (made : List Call) : Nat :=
  made.countP (opens weather) - made.count .close

end Netboot.Socket
