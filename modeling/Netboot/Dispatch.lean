import Netboot.Names
import Netboot.Script
import Netboot.Selection

/-! The filter in front of the boot application.

It holds back the application's answer to a boot request and then relays it, registering the
machine under the control plane's name when it took a role there, or serves the boot menu instead.
-/

set_option autoImplicit false

namespace Netboot.Dispatch

/-- A message from an application to its client. Fields that were left out stay left out when the
message is passed on. -/
inductive Message where
  | start (status : Int) (headers : Option (List (Bytes × Bytes)))
  | body (content : Option Bytes) (more : Option Bool)
  | other (kind : String) (fields : List (String × Json))

structure Request where
  kind : String
  path : Option String
  query : Option Bytes

structure Run (ε : Type) where
  messages : List Message
  failure : Option ε

abbrev App (σ ε : Type) := σ → Request → Run ε × σ

structure Captured where
  status : Int
  headers : List (Bytes × Bytes)
  body : Bytes
  deriving DecidableEq, Repr

def Captured.none : Captured := ⟨500, [], []⟩

def Captured.add (captured : Captured) : Message → Captured
  | .start status headers => { captured with status := status, headers := headers.getD [] }
  | .body content _ => { captured with body := captured.body ++ content.getD [] }
  | .other _ _ => captured

def capture (messages : List Message) : Captured := messages.foldl Captured.add .none

inductive Decision where
  | relay (captured : Captured) (register : Option V4)
  | menu
  deriving DecidableEq, Repr

def decide (captured : Captured) (selection : Selection) : Decision :=
  if captured.status = 404 then .menu
  else if captured.status = 200 && selection.role.elects then .relay captured selection.address
  else .relay captured none

inductive Outcome where
  | menu
  | relay
  | rejected
  | error
  deriving DecidableEq, Repr

def Outcome.name : Outcome → String
  | .menu => "menu"
  | .relay => "relay"
  | .rejected => "rejected"
  | .error => "error"

structure Config where
  controlplane : String
  serverIp : String
  httpPort : String

inductive Act where
  | register (address : V4)
  | send (message : Message)

def Act.carryOut (config : Config) (names : NameStore) : Act → NameStore
  | .register a => (names.registerAddress config.controlplane (.v4 a)).1
  | .send _ => names

/-- Everything a request leads to. `outcome` is none for requests that are only passed on. -/
structure Result (ε : Type) where
  acts : List Act
  failure : Option ε
  names : NameStore
  outcome : Option Outcome

def Result.sent {ε : Type} (result : Result ε) : List Message :=
  result.acts.filterMap fun
    | .send message => some message
    | .register _ => none

def Result.ofActs (ε : Type) (config : Config) (names : NameStore) (acts : List Act)
    (outcome : Outcome) : Result ε :=
  ⟨acts, none, acts.foldl (Act.carryOut config) names, some outcome⟩

def answer (status : Int) (headers : List (Bytes × Bytes)) (body : Bytes) : List Message :=
  [.start status (some headers), .body (some body) (some false)]

def textHeaders (body : Bytes) : List (Bytes × Bytes) := [
  (Bytes.ofString "content-type", Bytes.ofString "text/plain; charset=utf-8"),
  (Bytes.ofString "content-length", Bytes.ofString body.length.repr)]

def isBootPath (path : String) : Bool := path == "/ipxe" || path == "ipxe"

def applies (request : Request) : Bool :=
  request.kind == "http" && request.path.any isBootPath

/-- Carry out a decision; a machine is registered before it is answered. `menu` is the text of the
boot menu, none when it cannot be rendered. -/
def perform (ε : Type) (config : Config) (menu : Option String) (names : NameStore) :
    Decision → Result ε
  | .menu =>
    match menu with
    | some text =>
      let body := Bytes.ofString text
      .ofActs ε config names ((answer 200 (textHeaders body) body).map .send) .menu
    | none => .ofActs ε config names ((answer 500 (textHeaders []) []).map .send) .error
  | .relay captured address =>
    .ofActs ε config names (address.toList.map .register ++
      (answer captured.status captured.headers captured.body).map .send) .relay

/-- Answer a boot request with the application's held-back answer at hand. A query that does not
decode is rejected where the menu would be served, and counts as empty otherwise. -/
def respond (ε : Type) (config : Config) (menu : Option String) (names : NameStore)
    (query : Bytes) (captured : Captured) : Result ε :=
  match Selection.ofQuery query with
  | .ok selection => perform ε config menu names (decide captured selection)
  | .error _ =>
    if captured.status = 404 then
      .ofActs ε config names ((answer 400 (textHeaders []) []).map .send) .rejected
    else perform ε config menu names (decide captured {})

def handle {σ ε : Type} (config : Config) (menu : Option String) (app : App σ ε)
    (state : σ) (names : NameStore) (request : Request) : Result ε × σ :=
  let (run, state) := app state request
  if !applies request then (⟨run.messages.map .send, run.failure, names, none⟩, state)
  else match run.failure with
    | some failure => (⟨[], some failure, names, none⟩, state)
    | none =>
      (respond ε config menu names (request.query.getD []) (capture run.messages), state)

def Config.menu (config : Config) : String := Script.menu config.serverIp config.httpPort

end Netboot.Dispatch
