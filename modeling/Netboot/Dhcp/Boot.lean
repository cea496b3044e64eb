import Netboot.Dhcp.Option

/-! What a client is and which file it loads next. -/

set_option autoImplicit false

namespace Netboot.Dhcp

def pxeVendorClass : Bytes := Bytes.ofString "PXEClient"
def ipxeUserClass : Bytes := Bytes.ofString "iPXE"

def efiFile : String := "ipxe.efi"
def biosFile : String := "undionly.kpxe"

namespace Options

def isPxe (options : Options) : Except Value.Fault Bool :=
  (options.firstBytes [.named "vendor_class_id", .code 60]).map (pxeVendorClass.isPrefixOf ·)

def isIpxe (options : Options) : Except Value.Fault Bool :=
  (options.firstBytes [.named "user_class", .code 77]).map (Text.occurs ipxeUserClass ·)

/-- The architecture: a number as it stands, else the first two bytes, and zero without any. -/
def arch (options : Options) : Except Value.Fault Int :=
  match options.first? [.named "pxe_client_architecture", .named "client_arch", .code 93] with
  | some (.number value) => .ok value
  | value => (value.getD .none).toBytes.map fun bytes => (Bytes.toNat (bytes.take 2) : Int)

def isEfi (arch : Int) : Bool := arch == 7 || arch == 9

def bootFile (options : Options) (bootUrl : String) : Except Value.Fault String := do
  if ← options.isIpxe then return bootUrl ++ "/boot.ipxe"
  return if isEfi (← options.arch) then efiFile else biosFile

end Options

end Netboot.Dhcp
