/-! Calendar time, and the spans of whole seconds that can be added to it. -/

set_option autoImplicit false

namespace Netboot

/-- Microseconds since the first day of year 1. A numeral, and a number added, counts seconds. -/
structure Instant where
  micros : Int
  deriving DecidableEq, Repr

namespace Instant

instance : LE Instant := ⟨fun t u => t.micros ≤ u.micros⟩
instance : LT Instant := ⟨fun t u => t.micros < u.micros⟩
instance (t u : Instant) : Decidable (t ≤ u) := inferInstanceAs (Decidable (t.micros ≤ u.micros))
instance (t u : Instant) : Decidable (t < u) := inferInstanceAs (Decidable (t.micros < u.micros))

def microsPerSecond : Int := 1000000

instance (seconds : Nat) : OfNat Instant seconds := ⟨⟨seconds * microsPerSecond⟩⟩
instance : HAdd Instant Int Instant := ⟨fun t seconds => ⟨t.micros + seconds * microsPerSecond⟩⟩

instance : HSub Instant Instant Int := ⟨fun t u => (t.micros - u.micros) / microsPerSecond⟩

/-- The calendar ends with year 9999. -/
def calendarEnd : Instant := 315537897600

def representable (t : Instant) : Bool := 0 ≤ t && t < calendarEnd

def after? (t : Instant) (span : Int) : Option Instant :=
  if representable (t + span) then some (t + span) else none

end Instant

/-- A length of time in seconds; the number of its whole days has at most nine digits. -/
structure Span where
  seconds : Int
  bounded : -86399999913600 ≤ seconds ∧ seconds ≤ 86399999999999
  deriving DecidableEq, Repr

def Span.ofSeconds? (seconds : Int) : Option Span :=
  if h : -86399999913600 ≤ seconds ∧ seconds ≤ 86399999999999 then some ⟨seconds, h⟩ else none

end Netboot
