import Netboot.Service
import Netboot.Supervisor

/-! Binding the services of a host: each meets its own weather, and the calls it makes are kept. -/

set_option autoImplicit false

namespace Netboot.Supervisor

structure Station where
  listener : Listener
  weather : Socket.Weather
  calls : List Socket.Call := []

namespace Station

def fresh (member : Service × Socket.Weather) : Station :=
  { listener := { service := member.1 }, weather := member.2 }

def name (station : Station) : String := station.listener.service.name

def openSockets (station : Station) : Nat := Socket.openAfter station.weather station.calls

def bind (host : Host) (restrictable : Bool) (station : Station) : Station × Option Failure :=
  let (listener, calls, failure) := station.listener.bind host restrictable station.weather
  ({ station with listener, calls := station.calls ++ calls }, failure)

def close (station : Station) : Station × Option Failure :=
  let (listener, calls, failure) := station.listener.close station.weather
  ({ station with listener, calls := station.calls ++ calls }, failure)

def handle (host : Host) (restrictable : Bool) : Handle Station where
  name := name
  bind := bind host restrictable
  close := close

end Station

end Netboot.Supervisor
