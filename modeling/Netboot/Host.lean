import Netboot.Address.Pool

/-! What the bootstrap decides about this machine. The services only read it. -/

set_option autoImplicit false

namespace Netboot

/-- A proxy leaves addressing to another server on the network; an authoritative host leases the
addresses of its own range. -/
inductive Mode where
  | proxy (network : Prefix)
  | authoritative (network : Prefix) (pool : Pool)

structure Ports where
  dns : Int := 53
  dhcp : Int := 67
  tftp : Int := 69
  http : Int := 8080
  pxe : Int := 4011
  deriving DecidableEq, Repr

structure Host where
  ip : V4
  gateway : V4
  forwarders : List String
  mode : Mode
  interface : String
  serverRoot : String
  tftpRoot : String
  controlplane : String
  ports : Ports := {}
  leaseTime : Int := 3600
  dnsTtl : Int := 60

namespace Mode

def network : Mode → Prefix
  | .proxy network => network
  | .authoritative network _ => network

def isProxy : Mode → Bool
  | .proxy _ => true
  | .authoritative _ _ => false

def ofNetwork (network : Prefix) (host : V4) : Except Range.Fault Mode :=
  (Range.plan network host).map fun range =>
    .authoritative network (Pool.ofReserved range [host])

end Mode

def Host.bootUrl (host : Host) : String := s!"http://{host.ip}:{host.ports.http}"

end Netboot
