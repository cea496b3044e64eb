import Netboot.Address.V6
import Netboot.Text.Blank
import Netboot.Text.Quoted

/-! What a request asks for: a path from the root, or a URL of which only the path counts. -/

set_option autoImplicit false

namespace Netboot.Web.Target

inductive Fault where
  | missing
  | brackets
  | futureAddress
  | notAddress (text : String)
  | bracketedV4
  deriving DecidableEq, Repr

def Fault.message : Fault → String
  | .missing => "no target"
  | .brackets => "Invalid IPv6 URL"
  | .futureAddress => "IPvFuture address is invalid"
  | .notAddress text => s!"{Text.quoted text} does not appear to be an IPv4 or IPv6 address"
  | .bracketedV4 => "An IPv4 address cannot be in brackets"

def isSchemeChar (c : Char) : Bool := c.isAlphanum || c == '+' || c == '-' || c == '.'

/-- The scheme in lower case, empty where there is none, and what follows it. -/
def cutScheme (url : List Char) : List Char × List Char :=
  match Text.cut? ':' url with
  | some (scheme, rest) =>
    if scheme.head?.any Char.isAlpha && scheme.all isSchemeChar then (scheme.map Char.toLower, rest)
    else ([], url)
  | none => ([], url)

def endsHost (c : Char) : Bool := c == '/' || c == '?' || c == '#'

def isFutureAddress (text : List Char) : Bool :=
  match Text.cut? '.' text.tail with
  | some (version, rest) =>
    !version.isEmpty && version.all (fun c => (Text.hexValue? c).isSome) && !rest.isEmpty &&
      !rest.contains '\n'
  | none => false

def checkBracketed (text : List Char) : Except Fault Unit :=
  if text.head? = some 'v' then if isFutureAddress text then .ok () else .error .futureAddress
  else match Address.parse? (.ofList text) with
    | some (.v6 _) => .ok ()
    | some (.v4 _) => .error .bracketedV4
    | none => .error (.notAddress (.ofList text))

def checkHost (host : List Char) : Except Fault Unit :=
  match Text.cut? '[' host with
  | none => if host.contains ']' then .error .brackets else .ok ()
  | some (_, rest) =>
    if host.contains ']' then checkBracketed (rest.takeWhile (· != ']')) else .error .brackets

def dropHost : List Char → Except Fault (List Char)
  | '/' :: '/' :: rest => do
    checkHost (rest.takeWhile (!endsHost ·))
    return rest.dropWhile (!endsHost ·)
  | url => .ok url

def parameterSchemes : List String := ["", "ftp", "hdl", "prospero", "http", "imap", "https",
  "shttp", "rtsp", "rtspu", "sip", "sips", "mms", "sftp", "tel"]

/-- Leave out the parameters of the last segment, which a semicolon introduces. -/
def dropParameters (path : List Char) : List Char :=
  match Text.cutLast? '/' path with
  | some (before, last) => before ++ '/' :: last.takeWhile (· != ';')
  | none => path.takeWhile (· != ';')

/-- The path of a URL, in which tabs and line breaks do not count. -/
def ofUrl (text : List Char) : Except Fault (List Char) := do
  let url := (text.dropWhile (·.toNat ≤ 0x20)).filter fun c => !"\t\r\n".toList.contains c
  let (scheme, rest) := cutScheme url
  let path := (← dropHost rest).takeWhile fun c => c != '?' && c != '#'
  return if parameterSchemes.contains (.ofList scheme) then dropParameters path else path

def path (target : String) : Except Fault (List Char) :=
  match target.toList with
  | [] => .error .missing
  | '/' :: rest => .ok ('/' :: rest)
  | url => ofUrl url

end Netboot.Web.Target
