import Mathlib.Data.List.TakeWhile
import Netboot.Text.Integer

/-! Numerals that are made of digits alone. -/

set_option autoImplicit false

namespace Netboot.Text

variable {c : Char} {text : List Char} {n : Nat}

/-- Decimal digits of any script, no more of them than are read, that spell a number. -/
def Spells (text : List Char) (n : Nat) : Prop :=
  ∃ values : List Nat, text.map digitValue? = values.map some ∧ values ≠ [] ∧
    values.length ≤ integerDigitLimit ∧ n = ofDigits values

theorem bounds_of_isDigit (digit : isDigit c = true) :
    0x30 ≤ c.toNat ∧ c.toNat ≤ 0x39 ∨ 0xa0 < c.toNat ∧ c.toNat < 0x1680 ∨
      0x1680 < c.toNat ∧ c.toNat < 0x2000 ∨ 0x205f < c.toNat ∧ c.toNat < 0x3000 ∨
      0x3000 < c.toNat := by
  have apart : ∀ range ∈ decimalRanges ++ lonelyDigitRanges,
      0x30 ≤ range.1 ∧ range.2 ≤ 0x39 ∨ 0xa0 < range.1 ∧ range.2 < 0x1680 ∨
        0x1680 < range.1 ∧ range.2 < 0x2000 ∨ 0x205f < range.1 ∧ range.2 < 0x3000 ∨
        0x3000 < range.1 := by
    decide
  rw [isDigit, inRanges, inRanges, ← List.any_append, List.any_eq_true] at digit
  obtain ⟨range, listed, inside⟩ := digit
  simp only [Bool.and_eq_true, decide_eq_true_eq] at inside
  have placed := apart range listed
  omega

theorem isBlank_of_isDigit (digit : isDigit c = true) : isBlank c = false := by
  have bounds := bounds_of_isDigit digit
  rw [Bool.eq_false_iff]
  intro blank
  simp only [isBlank, Bool.or_eq_true, Bool.and_eq_true, beq_iff_eq, decide_eq_true_eq] at blank
  omega

theorem isDigit_of_ascii (digit : c.isDigit = true) : isDigit c = true := by
  rw [isDigit, inRanges, Bool.or_eq_true, List.any_eq_true]
  exact .inl ⟨(0x30, 0x39), List.mem_cons_self, digit⟩

theorem ne_of_isDigit {mark : Char} (plain : isDigit mark = false) (digit : isDigit c = true) :
    c ≠ mark := by
  rintro rfl
  cases plain.symm.trans digit

theorem isNumeralBlank_of_isDigit (digit : isDigit c = true) : isNumeralBlank c = false := by
  rw [isNumeralBlank, isBlank_of_isDigit digit, Bool.false_and]

theorem isDigit_of_digitValue? (value : digitValue? c = some n) : isDigit c = true := by
  rw [digitValue?, Option.map_eq_some_iff] at value
  obtain ⟨range, found, -⟩ := value
  have inside := List.find?_some found
  rw [isDigit, inRanges, Bool.or_eq_true, List.any_eq_true]
  exact .inl ⟨range, List.mem_of_find?_eq_some found, inside⟩

theorem exists_digitValue {values : List Nat} (read : text.map digitValue? = values.map some)
    (member : c ∈ text) : ∃ n, digitValue? c = some n := by
  obtain ⟨n, -, found⟩ := List.mem_map.mp (read ▸ List.mem_map_of_mem (f := digitValue?) member)
  exact ⟨n, found.symm⟩

theorem Spells.isDigits (spells : Spells text n) : isDigits text = true := by
  obtain ⟨values, read, filled, -⟩ := spells
  have given : text ≠ [] := by
    rintro rfl
    exact filled (List.map_eq_nil_iff.mp read.symm)
  rw [Text.isDigits, Bool.and_eq_true, Bool.not_eq_true', List.isEmpty_eq_false_iff,
    List.all_eq_true]
  refine ⟨given, fun c member => ?_⟩
  obtain ⟨value, found⟩ := exists_digitValue read member
  exact isDigit_of_digitValue? found

theorem Spells.unique {m : Nat} (first : Spells text m) (second : Spells text n) : m = n := by
  obtain ⟨values, read, -, -, rfl⟩ := first
  obtain ⟨others, same, -, -, rfl⟩ := second
  rw [(List.map_inj_right fun _ _ => Option.some.inj).mp (read.symm.trans same)]

theorem digitIn?_ten (c : Char) : digitIn? 10 c = digitValue? c := by
  cases value : digitValue? c with
  | some n =>
    have small : n < 10 := by
      obtain ⟨range, -, rfl⟩ := Option.map_eq_some_iff.mp value
      exact Nat.mod_lt _ (by decide)
    rw [digitIn?, value, Option.some_or, Option.filter_some, if_pos (decide_eq_true small)]
  | none =>
    rw [digitIn?, value, Option.none_or, Option.filter_eq_none_iff]
    intro n letter
    rw [digitValue?, Option.map_eq_none_iff, List.find?_eq_none] at value
    have beyond : ¬ ('0' ≤ c ∧ c ≤ '9') := fun ⟨low, high⟩ => value (0x30, 0x39) (by decide)
      (Bool.and_eq_true_iff.mpr ⟨decide_eq_true low, decide_eq_true high⟩)
    rw [hexValue?, if_neg beyond] at letter
    split at letter
    · cases letter
      simp
    · split at letter
      · cases letter
        simp
      · cases letter

theorem numeralDigits?_of_map {base : Nat} {values : List Nat} (plain : '_' ∉ text)
    (given : values ≠ []) (read : text.map (digitIn? base) = values.map some) :
    numeralDigits? base text = some values := by
  -- The reader looks one character ahead for an underscore, of which there is none.
  induction text generalizing values with
  | nil =>
    cases values with
    | nil => exact absurd rfl given
    | cons => cases read
  | cons c rest ih =>
    obtain ⟨d, others, rfl⟩ := List.exists_cons_of_ne_nil given
    obtain ⟨first, later⟩ := List.cons.inj read
    rw [List.mem_cons, not_or] at plain
    cases rest with
    | nil =>
      obtain rfl := List.map_eq_nil_iff.mp later.symm
      unfold numeralDigits?
      simp only [first]
    | cons next more =>
      have further : others ≠ [] := by
        rintro rfl
        cases later
      have rest := ih plain.2 further later
      unfold numeralDigits?
      split
      next empty => cases empty
      next _ underscored =>
        cases underscored
        exact absurd List.mem_cons_self plain.2
      next found _ _ =>
        rw [rest, Option.map_some, Option.some.inj (found.symm.trans first)]
      next missing => cases missing.symm.trans first

theorem values_or_stop {α β : Type} (value? : α → Option β) (list : List α) :
    (∃ values : List β, list.map value? = values.map some) ∨
      ∃ front stop back, list = front ++ stop :: back ∧ (∀ a ∈ front, (value? a).isSome = true) ∧
        value? stop = none := by
  induction list with
  | nil => exact .inl ⟨[], rfl⟩
  | cons a rest ih =>
    cases found : value? a with
    | none => exact .inr ⟨[], a, rest, rfl, nofun, found⟩
    | some b =>
      obtain ⟨values, read⟩ | ⟨front, stop, back, rfl, filled, missing⟩ := ih
      · exact .inl ⟨b :: values, by rw [List.map_cons, List.map_cons, found, read]⟩
      · refine .inr ⟨a :: front, stop, back, rfl, ?_, missing⟩
        exact List.forall_mem_cons.mpr ⟨found ▸ rfl, filled⟩

section Digits

variable (digits : isDigits text = true)

include digits

theorem digits_all (member : c ∈ text) : isDigit c = true :=
  List.all_eq_true.mp (Bool.and_eq_true_iff.mp digits).2 c member

theorem values_ne_nil {values : List Nat} (read : text.map digitValue? = values.map some) :
    values ≠ [] := by
  rintro rfl
  rw [List.map_eq_nil_iff.mp read] at digits
  cases digits

theorem integer_of_isDigits :
    integer (.ofList text) =
      let inNumeral (c : Char) : Bool := c = '_' || (digitValue? c).isSome
      match numeralDigits? 10 (text.takeWhile inNumeral) with
      | none => .error (.malformed 10 (.ofList text))
      | some values =>
        if integerDigitLimit < values.length then .error (.tooLong values.length)
        else if (text.dropWhile inNumeral).all isNumeralBlank then .ok (ofDigits values : Nat)
        else .error (.malformed 10 (.ofList text)) := by
  cases text with
  | nil => cases digits
  | cons c rest =>
    have digit := digits_all digits List.mem_cons_self
    -- A digit in front: no blanks, sign or mark of the base come before it.
    have solid : (c :: rest).dropWhile isNumeralBlank = c :: rest := by
      rw [List.dropWhile_cons, isNumeralBlank_of_isDigit digit, if_neg Bool.false_ne_true]
    have unsigned : takeSign (c :: rest) = (false, c :: rest) := by
      unfold takeSign
      split
      next same => exact absurd (List.cons.inj same).1 (ne_of_isDigit (by decide) digit)
      next same => exact absurd (List.cons.inj same).1 (ne_of_isDigit (by decide) digit)
      · rfl
    have unmarked : dropBaseMark 10 (c :: rest) = c :: rest := by
      unfold dropBaseMark
      split
      next same => rw [if_neg (fun marked => absurd marked.1 (by decide)), same]
      · rfl
    have limited : isLimited 10 = true := rfl
    unfold integer integerIn
    simp only [String.toList_ofList, solid, unsigned, unmarked, digitIn?_ten]
    generalize numeralDigits? 10 _ = read
    cases read with
    | none => rfl
    | some values =>
      simp only [limited, ofDigits, Bool.true_and, decide_eq_true_eq, Bool.false_eq_true, if_false]

theorem integer_of_values {values : List Nat} (read : text.map digitValue? = values.map some) :
    integer (.ofList text) =
      if integerDigitLimit < values.length then .error (.tooLong values.length)
      else .ok (ofDigits values : Nat) := by
  have filled := values_ne_nil digits read
  have plain : '_' ∉ text := fun member => absurd (digits_all digits member) (by decide)
  have inside : ∀ c ∈ text, (decide (c = '_') || (digitValue? c).isSome) = true := by
    intro c member
    obtain ⟨n, found⟩ := exists_digitValue read member
    rw [found, Option.isSome_some, Bool.or_true]
  have numeral : numeralDigits? 10 text = some values :=
    numeralDigits?_of_map plain filled (by rw [funext digitIn?_ten, read])
  rw [integer_of_isDigits digits]
  dsimp only
  rw [List.takeWhile_eq_self_iff.mpr inside, List.dropWhile_eq_nil_iff.mpr inside, numeral]
  rfl

omit digits in
/-- Digits that no numeral is written with stop the reading. -/
theorem integer_of_stop {front back : List Char} {stop : Char}
    (digits : isDigits (front ++ stop :: back) = true)
    (filled : ∀ c ∈ front, (digitValue? c).isSome = true) (missing : digitValue? stop = none)
    (value : Int) : integer (.ofList (front ++ stop :: back)) ≠ .ok value := by
  have digit := digits_all digits (List.mem_append_right front List.mem_cons_self)
  have stops : ¬ (decide (stop = '_') || (digitValue? stop).isSome) = true := by
    rw [missing, Option.isSome_none, Bool.or_false, decide_eq_true_eq]
    exact ne_of_isDigit (by decide) digit
  have left : ((front ++ stop :: back).dropWhile fun c => c = '_' || (digitValue? c).isSome) =
      stop :: back := by
    rw [List.dropWhile_append_of_pos fun c member => by rw [filled c member, Bool.or_true]]
    exact List.dropWhile_cons_of_neg stops
  rw [integer_of_isDigits digits]
  dsimp only
  rw [left, List.all_cons, isNumeralBlank_of_isDigit digit, Bool.false_and]
  split
  · exact nofun
  · split <;> exact nofun

theorem integer_eq_ok_iff {value : Int} :
    integer (.ofList text) = .ok value ↔ ∃ n : Nat, Spells text n ∧ value = n := by
  obtain ⟨values, read⟩ | ⟨front, stop, back, rfl, filled, missing⟩ :=
    values_or_stop digitValue? text
  · rw [integer_of_values digits read]
    constructor
    · intro ok
      split at ok
      · cases ok
      next short =>
        exact ⟨ofDigits values, ⟨values, read, values_ne_nil digits read,
          Nat.le_of_not_lt short, rfl⟩, (Except.ok.inj ok).symm⟩
    · rintro ⟨n, ⟨others, same, -, short, rfl⟩, rfl⟩
      obtain rfl := (List.map_inj_right fun _ _ => Option.some.inj).mp (read.symm.trans same)
      rw [if_neg (Nat.not_lt.mpr short)]
  · refine iff_of_false (integer_of_stop digits filled missing value) ?_
    rintro ⟨n, ⟨others, same, -⟩, -⟩
    obtain ⟨n, found⟩ := exists_digitValue same (List.mem_append_right front List.mem_cons_self)
    cases found.symm.trans missing

end Digits

end Netboot.Text
