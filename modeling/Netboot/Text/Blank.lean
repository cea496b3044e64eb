/-! White space, and text cut at its blank ends.

Text is a list of characters here; domain modules wrap it in `String`.
-/

set_option autoImplicit false

namespace Netboot.Text

/-- The white space of Unicode together with the four information separators. -/
def isBlank (c : Char) : Bool :=
  let n := c.toNat
  n == 0x20 || (0x09 ≤ n && n ≤ 0x0d) || (0x1c ≤ n && n ≤ 0x1f) || n == 0x85 || n == 0xa0 ||
  n == 0x1680 || (0x2000 ≤ n && n ≤ 0x200a) || n == 0x2028 || n == 0x2029 || n == 0x202f ||
  n == 0x205f || n == 0x3000

def dropEndWhile {α : Type} (drop : α → Bool) (text : List α) : List α :=
  (text.reverse.dropWhile drop).reverse

def strip (text : List Char) : List Char :=
  dropEndWhile isBlank (text.dropWhile isBlank)

/-- The two parts around the first `mark`; none when it does not occur. -/
def cut? {α : Type} [DecidableEq α] (mark : α) : List α → Option (List α × List α)
  | [] => none
  | c :: rest => if c = mark then some ([], rest) else (cut? mark rest).map fun (a, b) => (c :: a, b)

def cutLast? {α : Type} [DecidableEq α] (mark : α) (text : List α) : Option (List α × List α) :=
  (cut? mark text.reverse).map fun (after, before) => (before.reverse, after.reverse)

/-- The fields between every occurrence of `mark`: one more than there are marks. -/
def fields (mark : Char) : List Char → List (List Char)
  | [] => [[]]
  | c :: rest =>
    if c = mark then [] :: fields mark rest
    else match fields mark rest with
      | [] => [[c]]
      | field :: others => (c :: field) :: others

/-- Whether `part` occurs in `text`. -/
def occurs {α : Type} [BEq α] (part : List α) : List α → Bool
  | [] => part.isEmpty
  | c :: rest => part.isPrefixOf (c :: rest) || occurs part rest

end Netboot.Text
