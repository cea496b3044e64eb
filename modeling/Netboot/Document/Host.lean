import Netboot.Bootstrap
import Netboot.Json.Fields

/-! Settings, hosts and leases as documents. -/

set_option autoImplicit false

namespace Netboot

def V4.toJson (a : V4) : Json := .str a.text

def Json.ofOption {α : Type} (toJson : α → Json) (value : Option α) : Json :=
  (value.map toJson).getD .null

def Json.ofList {α : Type} (toJson : α → Json) (values : List α) : Json := .arr (values.map toJson)

def Json.ofStrings (values : List String) : Json := Json.ofList (fun value => .str (CodePoints.ofString value)) values

def Settings.toJson (settings : Settings) : Json := .record [
  ("server_root", .str settings.serverRoot),
  ("interface", .str settings.interface),
  ("static_cidr", .str settings.staticCidr),
  ("controlplane", .str settings.controlplane),
  ("gateway_override", Json.ofOption (fun text => .str (CodePoints.ofString text)) settings.gateway),
  ("dns_override", Json.ofOption (fun text => .str (CodePoints.ofString text)) settings.forwarder),
  ("tftp_root", Json.ofOption (fun text => .str (CodePoints.ofString text)) settings.tftpRoot),
  ("dhcp_client_timeout", .str (Decimal.text settings.clientTimeout)),
  ("dhcp_lease_time", .int settings.leaseTime),
  ("dns_ttl", .int settings.dnsTtl),
  ("dns_port", .int settings.dnsPort),
  ("dhcp_port", .int settings.dhcpPort),
  ("tftp_port", .int settings.tftpPort),
  ("http_port", .int settings.httpPort),
  ("pxe_port", .int settings.pxePort),
  ("log_level", .str settings.logLevel),
  ("metrics_enabled", .bool settings.metricsEnabled),
  ("metrics_port", .int settings.metricsPort)]

def Settings.ofJson (json : Json) : Settings where
  serverRoot := json.strAt "server_root" "root"
  interface := json.strAt "interface" "eth0"
  staticCidr := json.strAt "static_cidr" "192.168.123.1/24"
  controlplane := json.strAt "controlplane" "controlplane.talos."
  gateway := json.strAt? "gateway_override"
  forwarder := json.strAt? "dns_override"
  tftpRoot := json.strAt? "tftp_root"
  clientTimeout :=
    if json.has "dhcp_client_timeout" then (json.get "dhcp_client_timeout").number else 10
  leaseTime := json.intAt "dhcp_lease_time" 3600
  dnsTtl := json.intAt "dns_ttl" 60
  dnsPort := json.intAt "dns_port" 53
  dhcpPort := json.intAt "dhcp_port" 67
  tftpPort := json.intAt "tftp_port" 69
  httpPort := json.intAt "http_port" 8080
  pxePort := json.intAt "pxe_port" 4011

def Range.toFields (range : Range) : List (String × Json) := [
  ("first", range.first.toJson),
  ("last", range.last.toJson),
  ("len", .int range.size),
  ("text", .str range.text)]

def Mode.toJson : Mode → Json
  | .proxy network => .record [("kind", .str "proxy"), ("network", .str network.text)]
  | .authoritative network pool => .record [
      ("kind", .str "authoritative"),
      ("network", .str network.text),
      ("range", .str pool.range.text),
      ("size", .int pool.size),
      ("available", .int pool.available)]

def Ports.toList (ports : Ports) : List Int :=
  [ports.dns, ports.dhcp, ports.tftp, ports.http, ports.pxe]

def Host.toJson (host : Host) : Json := .record [
  ("ip", host.ip.toJson),
  ("gateway", host.gateway.toJson),
  ("forwarders", Json.ofStrings host.forwarders),
  ("mode", host.mode.toJson),
  ("proxy", .bool host.mode.isProxy),
  ("boot_url", .str host.bootUrl),
  ("interface", .str host.interface),
  ("server_root", .str host.serverRoot),
  ("tftp_root", .str host.tftpRoot),
  ("controlplane", .str host.controlplane),
  ("ports", Json.ofList .int host.ports.toList),
  ("lease_time", .int host.leaseTime),
  ("dns_ttl", .int host.dnsTtl)]

def Dhcp.ObtainedLease.ofJson (json : Json) : Except V4.Fault Dhcp.ObtainedLease := do
  let address ← V4.parse (json.strAt "address")
  let netmask ← V4.parse (json.strAt "netmask")
  let routers ← (json.strsAt "routers").mapM V4.parse
  let nameServers ← (json.strsAt "dns").mapM V4.parse
  return { address, netmask, routers, nameServers }

def Bootstrap.Trace.toFields (trace : Bootstrap.Trace) : List (String × Json) := [
  ("commands", Json.ofList Json.ofStrings trace.commands),
  ("asked", Json.ofList (fun (interface, timeout) =>
    .arr [.str interface, .str (Decimal.text timeout)]) trace.asked)]

end Netboot
