import Netboot.Text.Utf8

/-! Parameters of service bindings: numbered keys with values in bytes. -/

set_option autoImplicit false

namespace Netboot.Dns

structure ServiceParameter where
  key : Nat
  value : Bytes
  deriving DecidableEq, Repr

namespace ServiceParameter

def mandatory : Nat := 0
def protocols : Nat := 1
def noDefaultProtocol : Nat := 2
def port : Nat := 3
def v4Hints : Nat := 4
def encryption : Nat := 5
def v6Hints : Nat := 6
def oblivious : Nat := 8

def keyNames : List (String × Nat) := [("MANDATORY", 0), ("ALPN", 1), ("NO_DEFAULT_ALPN", 2),
  ("PORT", 3), ("IPV4HINT", 4), ("ECH", 5), ("IPV6HINT", 6), ("DOHPATH", 7), ("OHTTP", 8)]

def isFlag (key : Nat) : Bool := key == noDefaultProtocol || key == oblivious

def needsValue (key : Nat) : Bool :=
  [mandatory, protocols, port, v4Hints, encryption, v6Hints].contains key

def words? : Bytes → Option (List Nat)
  | [] => some []
  | high :: low :: rest => (words? rest).map (Bytes.toNat [high, low] :: ·)
  | [_] => none

def isAscending : List Nat → Bool
  | a :: b :: rest => a < b && isAscending (b :: rest)
  | _ => true

/-- The keys that have to be understood: each once, in order, and not that of the list. -/
def mandatoryKeys? (value : Bytes) : Option (List Nat) :=
  (words? value).filter fun keys => isAscending keys && !keys.contains mandatory

def namesProtocols : Bytes → Bool
  | [] => true
  | count :: rest =>
    count != 0 && count.toNat ≤ rest.length && namesProtocols (rest.drop count.toNat)
termination_by value => value.length
decreasing_by simp only [List.length_drop, List.length_cons]; omega

/-- Whether a value is one that its key takes. -/
def isValid (parameter : ServiceParameter) : Bool :=
  let { key, value } := parameter
  if key = mandatory then (mandatoryKeys? value).isSome
  else if key = protocols then namesProtocols value
  else if isFlag key then value.isEmpty
  else if key = port then value.length == 2
  else if key = v4Hints then value.length % 4 == 0
  else if key = v6Hints then value.length % 16 == 0
  else true

def toBytes (parameter : ServiceParameter) : Bytes :=
  Bytes.ofNat 2 parameter.key ++ Bytes.ofNat 2 parameter.value.length ++ parameter.value

def insert (parameter : ServiceParameter) : List ServiceParameter → List ServiceParameter
  | [] => [parameter]
  | first :: rest =>
    if parameter.key < first.key then parameter :: first :: rest
    else if parameter.key = first.key then parameter :: rest
    else first :: insert parameter rest

/-- Whether the parameters of a binding go together: those that have to be understood are there,
and so are protocols where there is no default one. -/
def areSound (parameters : List ServiceParameter) : Bool :=
  let has (key : Nat) : Bool := parameters.any (·.key == key)
  (!has noDefaultProtocol || has protocols) &&
    (parameters.filter (·.key == mandatory)).all fun parameter =>
      ((mandatoryKeys? parameter.value).getD []).all has

/-- Read parameters whose keys are not below `least`; of several with one key the last counts. -/
def listOfBytes? (least : Nat) (done : List ServiceParameter) (bytes : Bytes) :
    Option (List ServiceParameter) :=
  match bytes with
  | [] => some done
  | a :: b :: c :: d :: rest =>
    let key := Bytes.toNat [a, b]
    let count := Bytes.toNat [c, d]
    let parameter : ServiceParameter := ⟨key, rest.take count⟩
    if least ≤ key && count ≤ rest.length && parameter.isValid then
      listOfBytes? key (insert parameter done) (rest.drop count)
    else none
  | _ => none
termination_by bytes.length
decreasing_by simp only [List.length_drop, List.length_cons]; omega

end ServiceParameter

end Netboot.Dns
