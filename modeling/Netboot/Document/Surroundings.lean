import Netboot.Document.Host
import Netboot.Run

/-! What a run finds around it, from a document. -/

set_option autoImplicit false

namespace Netboot

def Interface.Link.ofJson (json : Json) : Interface.Link :=
  let addresses (family : String) := (json.listAt family).filterMap (·.strAt? "addr")
  ⟨json.strAt "name", addresses "inet", addresses "link"⟩

def Interface.Outcome.ofJson (json : Json) : Interface.Outcome :=
  if json.flagAt "missing" then .missing
  else .exited (json.intAt "returncode") (json.bytesAt "stderr")

def Bootstrap.Negotiation.ofJson (json : Json) : Except V4.Fault Bootstrap.Negotiation :=
  match json with
  | .null => .ok (.settled none)
  | .str word => .ok (if word = CodePoints.ofString "value" then .broken "unexpected" else .unusable)
  | json => (Dhcp.ObtainedLease.ofJson json).map fun lease => .settled (some lease)

def Interface.linksOfJson (json : Json) : List Interface.Link :=
  let names := if json.has "interfaces" then json.strsAt "interfaces" else ["eth0"]
  names.map fun name => ⟨name, [], ["52:54:00:11:22:33"]⟩

def Run.Serving.ofJson (json : Json) : Run.Serving :=
  match json with
  | .null => .returns
  | .str word =>
    if word = CodePoints.ofString "bind" then
      .fails (.bind (.refused "dhcp" ⟨"denied", "[Errno 13] Permission denied", true⟩))
    else .signalled
  | json => .fails (.listener (json.strAt "listener")
      ⟨"failed", json.strAt "message", false⟩)

def Run.Surroundings.ofJson (environment : Settings.Variables) (json : Json) :
    Except V4.Fault Run.Surroundings := do
  return {
    environment := environment
    links := Interface.linksOfJson json
    negotiation := ← Bootstrap.Negotiation.ofJson (json.get "lease")
    outcomes := (json.listAt "ip").map Interface.Outcome.ofJson
    serving := Run.Serving.ofJson (json.get "serve") }

namespace Run.Report

def served (report : Run.Report) : List Json :=
  (report.metricsPort.map Json.int).toList ++
  (if report.started.isEmpty then [] else [Json.ofStrings (report.started.map (·.name))]) ++
  (report.shutdown.map fun outcome => Json.arr [.str outcome.source, .null]).toList

def toJson (report : Run.Report) : Json := .record ([
  ("exit", .int report.exitCode),
  ("log", Json.ofList Run.Entry.toJson report.log),
  ("served", .arr report.served)] ++ report.trace.toFields)

end Run.Report

end Netboot
