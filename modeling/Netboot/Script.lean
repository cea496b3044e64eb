import Netboot.Json

/-! iPXE scripts: the boot menu, the entry script that chains to it, the script of a profile and
the script that shows an error.
-/

set_option autoImplicit false

namespace Netboot.Script

def setting (name : String) : String := "$\x7b" ++ name ++ "\x7d"

def ofLines (lines : List String) : String := String.join (lines.map (· ++ "\n"))

/-- The fields of the query a machine identifies itself with, and the settings they hold. -/
def identityFields : List (String × String) := [
  ("uuid", "uuid"), ("ip", "ip"), ("mac", "mac:hexhyp"),
  ("domain", "domain"), ("hostname", "hostname"), ("serial", "serial")]

def identityQuery (value : String → String) : String :=
  "&".intercalate (identityFields.map fun (key, name) => key ++ "=" ++ value name)

def roles : List String := ["init", "controlplane", "worker"]

def roleUrl (value : String → String) (ip port role : String) : String :=
  "http://" ++ ip ++ ":" ++ port ++ "/ipxe?" ++ identityQuery value ++ "&type=" ++ role

def menu (ip port : String) : String :=
  ofLines ([
    "#!ipxe",
    "isset " ++ setting "proxydhcp/next-server" ++ " || goto start",
    "set next-server " ++ setting "proxydhcp/next-server",
    "set filename " ++ setting "proxydhcp/filename",
    "",
    ":start",
    "menu iPXE boot menu for Talos",
    "item --gap                      Talos Nodes",
    "item --key i init               Bootstrap Node",
    "item --key c controlplane       Master Node",
    "item --key w worker             Worker Node",
    "item --gap                      Other",
    "item --key s shell              iPXE Shell",
    "item --key r reboot             Reboot",
    "item --key e exit               Exit",
    "choose --timeout 0 --default worker selected || goto cancel",
    "set menu-timeout 0",
    "goto " ++ setting "selected"] ++
    roles.flatMap (fun role => ["", ":" ++ role, "chain " ++ roleUrl setting ip port role]) ++
    ["", ":reboot", "reboot", "", ":shell", "shell", "", ":cancel", ":exit", "exit"])

def chain : String := ofLines ["#!ipxe", "chain ipxe?" ++ identityQuery setting]

def ofPoints (lines : List CodePoints) : CodePoints := lines.flatMap (· ++ [.char '\n'])

def error (message : CodePoints) : CodePoints :=
  ofPoints [
    "#!ipxe",
    "echo ======================================",
    "echo Talos PXE - Error",
    "echo ======================================",
    CodePoints.ofString "echo " ++ message,
    "echo.",
    "echo Dropping to iPXE shell.",
    "echo Type 'reboot' to restart.",
    "shell"]

inductive Fault where
  | notObject
  | noKernel
  | notIterable
  deriving DecidableEq, Repr

def Fault.message : Fault → String
  | .notObject => "the boot section is not an object"
  | .noKernel => "'kernel' is undefined"
  | .notIterable => "the value is not iterable"

/-- The items of a value in the order they are written: characters of a string, names of an
object, nothing for a value that counts as false. -/
def items (value : Json) : Except Fault (List CodePoints) :=
  if !value.truthy then .ok []
  else match value with
    | .arr items => .ok (items.map (·.plain))
    | .str text => .ok (text.map fun point => [point])
    | .obj fields => .ok (fields.map (·.1))
    | _ => .error .notIterable

def profile (boot : Json) : Except Fault CodePoints := do
  match boot with
  | .obj _ =>
    let kernel := (boot.field? "kernel").getD .null
    if !kernel.truthy then .error .noKernel
    let args ← items ((boot.field? "args").getD .null)
    let initrd ← items ((boot.field? "initrd").getD .null)
    let arguments := args.flatMap (CodePoint.char ' ' :: ·)
    return ofPoints (CodePoints.ofString "#!ipxe" ::
      (CodePoints.ofString "kernel " ++ kernel.plain ++ arguments) ::
      initrd.map (CodePoints.ofString "initrd " ++ ·) ++ [CodePoints.ofString "boot"])
  | _ => .error .notObject

end Netboot.Script
