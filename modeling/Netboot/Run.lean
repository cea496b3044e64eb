import Netboot.Bootstrap
import Netboot.Dhcp.Server
import Netboot.Dns.Responder
import Netboot.Json
import Netboot.Service
import Netboot.Supervisor

/-! A whole run: settings, bootstrap, the services, and the end. -/

set_option autoImplicit false

namespace Netboot.Run

inductive Level where
  | info
  | error
  deriving DecidableEq, Repr

def Level.name : Level → String
  | .info => "info"
  | .error => "error"

def Level.rank : Level → Nat
  | .info => 20
  | .error => 40

structure Entry where
  level : Level
  event : String
  fields : List (String × Json) := []

def Entry.toJson (entry : Entry) : Json :=
  .record (("level", .str entry.level.name) :: ("event", .str entry.event) :: entry.fields)

def thresholds : List (String × Nat) := [
  ("NOTSET", 0), ("DEBUG", 10), ("INFO", 20), ("WARN", 30), ("WARNING", 30), ("ERROR", 40),
  ("CRITICAL", 50), ("FATAL", 50)]

inductive LevelFault where
  /-- It names a format of entries. -/
  | format
  /-- It names a table of formats. -/
  | formats
  deriving DecidableEq, Repr

/-- The names of the log that belong to something else than a level. -/
def otherNames : List (String × LevelFault) := [("BASIC_FORMAT", .format), ("_STYLES", .formats)]

/-- The least rank that a level lets through. An unknown level counts as INFO. -/
def threshold (level : String) : Except LevelFault Nat :=
  let name := String.ofList (level.toList.flatMap Text.upperAscii)
  match otherNames.lookup name with
  | some fault => .error fault
  | none => .ok ((thresholds.lookup name).getD Level.info.rank)

/-- The services of a host. Without a store for leases the address service is a proxy. -/
structure Services where
  host : Host
  addresses : Dhcp.Server
  names : Dns.Responder

inductive BuildFault where
  | leaseTime
  | forwarder (fault : Text.IntegerFault)
  deriving DecidableEq, Repr

def Services.build (host : Host) : Except BuildFault Services :=
  match Dhcp.Server.ofHost? host with
  | none => .error .leaseTime
  | some addresses =>
    ((Dns.Responder.ofForwarders host.forwarders host.dnsTtl).mapError .forwarder).map fun names =>
      ⟨host, addresses, names⟩

inductive Serving where
  | returns
  | signalled
  | fails (fault : Supervisor.Fault)

structure Surroundings where
  environment : Settings.Variables
  links : List Interface.Link
  negotiation : Bootstrap.Negotiation
  outcomes : List Interface.Outcome
  serving : Serving

inductive Crash where
  | level (name : String) (fault : LevelFault)
  | bootstrap (fault : Bootstrap.Fault)
  | build (fault : BuildFault)
  | serving (failure : Failure)
  deriving DecidableEq, Repr

def Crash.message : Crash → String
  | .level name _ => s!"{name} is not a level"
  | .bootstrap fault => fault.message
  | .build .leaseTime => "the lease time is out of range"
  | .build (.forwarder fault) => fault.message
  | .serving failure => failure.text

/-- What is left of a run. `log` holds everything that was said, and `threshold` the least rank
that the settings let through. -/
structure Report where
  exitCode : Nat
  log : List Entry := []
  threshold : Nat := Level.info.rank
  metricsPort : Option Int := none
  started : List Service := []
  shutdown : Option Supervisor.Outcome := none
  trace : Bootstrap.Trace := {}

def fatalKind? : Bootstrap.Fault → Option String
  | .range _ => some "InvalidPrefixError"
  | .interface (.address _) => none
  | .interface _ => some "InterfaceError"
  | .cidr _ | .gateway _ | .negotiation _ => none

def fatal (kind message : String) : Entry :=
  ⟨.error, "talospxe_fatal_error", [("error", .str message), ("error_type", .str kind)]⟩

def configured (host : Host) : Entry :=
  ⟨.info, "host_configured", [
    ("ip", .str host.ip.text),
    ("gateway", .str host.gateway.text),
    ("forwarders", .arr (host.forwarders.map fun (forwarder : String) => .str forwarder)),
    ("proxy_dhcp", .bool host.mode.isProxy),
    ("controlplane", .str host.controlplane)]⟩

def stopped : Entry := ⟨.info, "talospxe_stopped", []⟩

def conclude (report : Report) : Serving → Except Crash Report
  | .returns => .ok { report with log := report.log ++ [stopped] }
  | .signalled =>
    let state := Supervisor.State.shutdown { listeners := report.started.map (·.name) }
    .ok { report with
      log := report.log ++ [⟨.info, "shutdown_signal_received", []⟩, stopped]
      shutdown := state.finish.result? }
  | .fails (.bind (.broke failure)) => .error (.serving failure)
  | .fails (.bind (.refused name failure)) =>
    .ok { report with
      exitCode := 1
      log := report.log ++ [fatal "ListenerBindError" (Supervisor.BindFault.refused name failure).message] }
  | .fails (.listener name failure) =>
    .ok { report with
      exitCode := 1
      log := report.log ++ [fatal "ListenerError" (Supervisor.Fault.listener name failure).message] }

def serve (report : Report) (host : Host) (serving : Serving) : Except Crash Report := do
  let report := { report with log := report.log ++ [configured host] }
  let _ ← (Services.build host).mapError .build
  conclude { report with started := Service.all } serving

def withSettings (settings : Settings) (around : Surroundings) : Except Crash Report := do
  let threshold ← (threshold settings.logLevel).mapError (.level settings.logLevel)
  let port := if settings.metricsEnabled then some settings.metricsPort else none
  let announced := port.toList.map fun port =>
    (⟨.info, "prometheus_metrics_enabled", [("port", .int port)]⟩ : Entry)
  let (trace, result) :=
    (Bootstrap.select settings around.links).follow around.outcomes around.negotiation {}
  let report : Report := {
    exitCode := 0, log := announced, threshold
    metricsPort := port, trace := trace }
  match result with
  | .ok host => serve report host around.serving
  | .error fault =>
    match fatalKind? fault with
    | some kind =>
      return { report with exitCode := 1, log := report.log ++ [fatal kind fault.message] }
    | none => throw (.bootstrap fault)

def Report.audible (report : Report) : List Entry :=
  report.log.filter (report.threshold ≤ ·.level.rank)

def run (around : Surroundings) : Except Crash Report :=
  match Settings.ofVariables around.environment with
  | .error fault =>
    .ok { exitCode := 1, log := [⟨.error, "configuration_error", [("error", .str fault.message)]⟩] }
  | .ok settings => withSettings settings around

end Netboot.Run
