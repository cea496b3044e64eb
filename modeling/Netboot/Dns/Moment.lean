import Netboot.Text.Integer

/-! Times of signatures: seconds since 1970, written as such or as a date and a time of day. -/

set_option autoImplicit false

namespace Netboot.Dns.Moment

-- Sums of numbers start from the core's zero, whatever algebra a module imports.
attribute [local instance (high)] Zero.ofOfNat0

def isLeap (year : Int) : Bool := year % 4 = 0 && (year % 100 ≠ 0 || year % 400 = 0)

def daysBeforeYear (year : Int) : Int :=
  let past := year - 1
  past * 365 + past / 4 - past / 100 + past / 400

def monthLengths (year : Int) : List Int :=
  [31, if isLeap year then 29 else 28, 31, 30, 31, 30, 31, 31, 30, 31, 30, 31]

def daysBefore (year month : Int) : Int :=
  daysBeforeYear year + ((monthLengths year).take (month - 1).toNat).sum

/-- The seconds of a date and a time. A day, hour, minute or second past its range counts on. -/
def seconds? (year month day hour minute second : Int) : Option Int :=
  if 1 ≤ year ∧ year ≤ 9999 ∧ 1 ≤ month ∧ month ≤ 12 then
    let days := daysBefore year month - daysBefore 1970 1 + (day - 1)
    some (((days * 24 + hour) * 60 + minute) * 60 + second)
  else none

def plainLength : Nat := 10

/-- The seconds that a text stands for: up to ten digits, or four for the year and two each for the
month, the day, the hour, the minute and the second. -/
def ofText? (text : List Char) : Option Int :=
  let piece (start count : Nat) : Option Int :=
    (Text.integer (.ofList ((text.drop start).take count))).toOption
  if !text.isEmpty && text.length ≤ plainLength && text.all Text.isAsciiDigit then
    some (Text.asciiValue text)
  else if text.length = 14 then do
    seconds? (← piece 0 4) (← piece 4 2) (← piece 6 2) (← piece 8 2) (← piece 10 2) (← piece 12 2)
  else none

end Netboot.Dns.Moment
