import Netboot.Dns.Layout

/-! Digests in records: each kind of digest has its size. -/

set_option autoImplicit false

namespace Netboot.Dns

/-- Where in a record its digest is: behind a byte that tells its kind. Kinds without a size may have
any, unless they are reserved. -/
structure DigestRule where
  place : Nat
  sizes : List (Nat × Nat)
  reserved : List Nat := []
  deriving DecidableEq, Repr

namespace DigestRule

def delegation : DigestRule where
  place := 3
  sizes := [(1, 20), (2, 32), (3, 32), (4, 48)]
  reserved := [0]

def childDelegation : DigestRule := { delegation with sizes := (0, 1) :: delegation.sizes }

def fingerprint : DigestRule where
  place := 1
  sizes := [(1, 20), (2, 32)]

def association : DigestRule where
  place := 2
  sizes := [(1, 32), (2, 64)]

def zone : DigestRule where
  place := 5
  sizes := [(1, 48), (2, 64)]
  reserved := [0]

def ofType? (type : Nat) : Option DigestRule :=
  match type with
  | 43 | 32769 => some delegation
  | 59 => some childDelegation
  | 44 => some fingerprint
  | 52 | 53 => some association
  | 63 => some zone
  | _ => none

def accepts (rule : DigestRule) (content : Bytes) : Bool :=
  let kind := (content.getD rule.place 0).toNat
  match rule.sizes.lookup kind with
  | some size => content.length == rule.place + 1 + size
  | none => !rule.reserved.contains kind

end DigestRule

def hasScheme (type : Nat) (content : Bytes) : Bool := type != 63 || content.getD 4 0 != 0

def Rdata.isSound (type : Nat) (data : Rdata) : Bool :=
  let content := data.plainBytes
  (DigestRule.ofType? type).all (·.accepts content) && hasScheme type content

end Netboot.Dns
