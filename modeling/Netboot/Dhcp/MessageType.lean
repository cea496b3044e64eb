/-! The kinds of message in a lease's life. -/

set_option autoImplicit false

namespace Netboot.Dhcp

inductive MessageType where
  | discover
  | offer
  | request
  | decline
  | ack
  | nak
  | release
  | inform
  deriving DecidableEq, Repr

namespace MessageType

def all : List MessageType := [.discover, .offer, .request, .decline, .ack, .nak, .release, .inform]

def code : MessageType → Nat
  | .discover => 1
  | .offer => 2
  | .request => 3
  | .decline => 4
  | .ack => 5
  | .nak => 6
  | .release => 7
  | .inform => 8

def name : MessageType → String
  | .discover => "discover"
  | .offer => "offer"
  | .request => "request"
  | .decline => "decline"
  | .ack => "ack"
  | .nak => "nak"
  | .release => "release"
  | .inform => "inform"

def ofName? (name : String) : Option MessageType := all.find? (·.name == name)

def ofCode? (code : Int) : Option MessageType := all.find? (·.code == code)

end MessageType

end Netboot.Dhcp
