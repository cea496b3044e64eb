import Mathlib.Tactic.SplitIfs
import Netboot.Text.Utf8

/-! Text is written as UTF-8 in one way only, and read back from it. What can be read is what is written
for some text, and is ordered as that text is.
-/

set_option autoImplicit false

namespace Netboot.Text

variable {a b d e : UInt8} {rest bytes : Bytes} {c : Char} {n : Nat} {text : List Char}

/-! ## The bytes of a character -/

theorem valid_toNat (c : Char) : c.toNat < 0xd800 ∨ 0xdfff < c.toNat ∧ c.toNat < 0x110000 := c.valid

theorem toNat_charOfNat (valid : n < 0xd800 ∨ 0xdfff < n ∧ n < 0x110000) :
    (Char.ofNat n).toNat = n := by
  have isValid : n.isValidChar := valid
  rw [Char.ofNat, dif_pos isValid]
  rfl

theorem charOfNat_eq (same : n = c.toNat) : Char.ofNat n = c := same ▸ Char.ofNat_toNat c

theorem byteOfNat_eq (same : n = b.toNat) : UInt8.ofNat n = b := same ▸ UInt8.ofNat_toNat

theorem encodeChar_one (small : c.toNat < 0x80) : encodeChar c = [.ofNat c.toNat] :=
  if_pos (Nat.le_of_lt_succ small)

theorem encodeChar_two (large : 0x80 ≤ c.toNat) (small : c.toNat < 0x800) :
    encodeChar c = [.ofNat (c.toNat / 64 + 0xc0), .ofNat (c.toNat % 64 + 0x80)] := by
  have lead : c.toNat / 64 % 0x20 = c.toNat / 64 := Nat.mod_eq_of_lt (by omega)
  have notOne : ¬ c.val.toNat ≤ 0x7f := Nat.not_le.mpr large
  have two : c.val.toNat ≤ 0x7ff := Nat.le_of_lt_succ small
  rw [encodeChar, String.utf8EncodeChar, if_neg notOne, if_pos two, ← lead]
  rfl

theorem encodeChar_three (large : 0x800 ≤ c.toNat) (small : c.toNat < 0x10000) :
    encodeChar c = [.ofNat (c.toNat / 4096 + 0xe0), .ofNat (c.toNat / 64 % 64 + 0x80),
      .ofNat (c.toNat % 64 + 0x80)] := by
  have lead : c.toNat / 4096 % 0x10 = c.toNat / 4096 := Nat.mod_eq_of_lt (by omega)
  have notOne : ¬ c.val.toNat ≤ 0x7f := Nat.not_le.mpr (Nat.lt_of_lt_of_le (by decide) large)
  have notTwo : ¬ c.val.toNat ≤ 0x7ff := Nat.not_le.mpr large
  have three : c.val.toNat ≤ 0xffff := Nat.le_of_lt_succ small
  rw [encodeChar, String.utf8EncodeChar, if_neg notOne, if_neg notTwo, if_pos three, ← lead]
  rfl

theorem encodeChar_four (large : 0x10000 ≤ c.toNat) :
    encodeChar c = [.ofNat (c.toNat / 262144 + 0xf0), .ofNat (c.toNat / 4096 % 64 + 0x80),
      .ofNat (c.toNat / 64 % 64 + 0x80), .ofNat (c.toNat % 64 + 0x80)] := by
  have lead : c.toNat / 262144 % 0x08 = c.toNat / 262144 := by
    have := valid_toNat c
    exact Nat.mod_eq_of_lt (by omega)
  have notOne : ¬ c.val.toNat ≤ 0x7f := Nat.not_le.mpr (Nat.lt_of_lt_of_le (by decide) large)
  have notTwo : ¬ c.val.toNat ≤ 0x7ff := Nat.not_le.mpr (Nat.lt_of_lt_of_le (by decide) large)
  have notThree : ¬ c.val.toNat ≤ 0xffff := Nat.not_le.mpr large
  rw [encodeChar, String.utf8EncodeChar, if_neg notOne, if_neg notTwo, if_neg notThree, ← lead]
  rfl

/-! ## The character at the head of some bytes -/

theorem isContinuation_iff : isContinuation b = true ↔ 0x80 ≤ b.toNat ∧ b.toNat ≤ 0xbf := by
  simp only [isContinuation, Bool.and_eq_true, decide_eq_true_eq, UInt8.le_iff_toNat_le,
    UInt8.reduceToNat]

theorem follows_iff : follows a b = true ↔ (0x80 ≤ b.toNat ∧ b.toNat ≤ 0xbf) ∧
    (a.toNat = 0xe0 → 0xa0 ≤ b.toNat) ∧ (a.toNat = 0xed → b.toNat ≤ 0x9f) ∧
    (a.toNat = 0xf0 → 0x90 ≤ b.toNat) ∧ (a.toNat = 0xf4 → b.toNat ≤ 0x8f) := by
  simp only [follows, ← UInt8.toNat_inj, UInt8.reduceToNat]
  split_ifs <;>
    simp only [isContinuation_iff, Bool.and_eq_true, decide_eq_true_eq, UInt8.le_iff_toNat_le,
      UInt8.reduceToNat] <;> omega

theorem joinBits_one (lead : Nat) (b : UInt8) :
    joinBits lead [b] = Char.ofNat (lead * 64 + (b.toNat - 0x80)) := rfl

theorem joinBits_two (lead : Nat) (b d : UInt8) : joinBits lead [b, d] =
    Char.ofNat ((lead * 64 + (b.toNat - 0x80)) * 64 + (d.toNat - 0x80)) := rfl

theorem joinBits_three (lead : Nat) (b d e : UInt8) : joinBits lead [b, d, e] =
    Char.ofNat (((lead * 64 + (b.toNat - 0x80)) * 64 + (d.toNat - 0x80)) * 64 + (e.toNat - 0x80)) :=
  rfl

theorem encodeChar_ascii (small : a.toNat < 0x80) : encodeChar (.ofNat a.toNat) = [a] := by
  have number := toNat_charOfNat (n := a.toNat) (by omega)
  rw [encodeChar_one (by omega), number, UInt8.ofNat_toNat]

theorem encodeChar_joinBits_one (lead : 0xc2 ≤ a.toNat ∧ a.toNat ≤ 0xdf)
    (next : follows a b = true) : encodeChar (joinBits (a.toNat - 0xc0) [b]) = [a, b] := by
  obtain ⟨⟨low, high⟩, -⟩ := follows_iff.mp next
  have number := toNat_charOfNat (n := (a.toNat - 0xc0) * 64 + (b.toNat - 0x80)) (by omega)
  rw [joinBits_one, encodeChar_two (by omega) (by omega), number, byteOfNat_eq (b := a) (by omega),
    byteOfNat_eq (b := b) (by omega)]

theorem encodeChar_joinBits_two (lead : 0xe0 ≤ a.toNat ∧ a.toNat ≤ 0xef)
    (next : follows a b = true) (last : isContinuation d = true) :
    encodeChar (joinBits (a.toNat - 0xe0) [b, d]) = [a, b, d] := by
  obtain ⟨⟨low, high⟩, long, surrogate, -⟩ := follows_iff.mp next
  obtain ⟨low', high'⟩ := isContinuation_iff.mp last
  have number := toNat_charOfNat
    (n := ((a.toNat - 0xe0) * 64 + (b.toNat - 0x80)) * 64 + (d.toNat - 0x80)) (by omega)
  rw [joinBits_two, encodeChar_three (by omega) (by omega), number,
    byteOfNat_eq (b := a) (by omega), byteOfNat_eq (b := b) (by omega),
    byteOfNat_eq (b := d) (by omega)]

theorem encodeChar_joinBits_three (lead : 0xf0 ≤ a.toNat ∧ a.toNat ≤ 0xf4)
    (next : follows a b = true) (middle : isContinuation d = true) (last : isContinuation e = true) :
    encodeChar (joinBits (a.toNat - 0xf0) [b, d, e]) = [a, b, d, e] := by
  obtain ⟨⟨low, high⟩, -, -, long, past⟩ := follows_iff.mp next
  obtain ⟨low', high'⟩ := isContinuation_iff.mp middle
  obtain ⟨low'', high''⟩ := isContinuation_iff.mp last
  have number := toNat_charOfNat (n := (((a.toNat - 0xf0) * 64 + (b.toNat - 0x80)) * 64 +
    (d.toNat - 0x80)) * 64 + (e.toNat - 0x80)) (by omega)
  rw [joinBits_three, encodeChar_four (by omega), number, byteOfNat_eq (b := a) (by omega),
    byteOfNat_eq (b := b) (by omega), byteOfNat_eq (b := d) (by omega),
    byteOfNat_eq (b := e) (by omega)]

theorem encodeChar_of_charAt (found : charAt a rest = some (c, n)) :
    ∃ tail, encodeChar c = a :: tail ∧ tail <+: rest ∧ n = tail.length := by
  unfold charAt at found
  simp only [UInt8.lt_iff_toNat_lt, UInt8.le_iff_toNat_le, UInt8.reduceToNat, Bool.and_eq_true,
    decide_eq_true_eq] at found
  -- By the number of bytes that the first one announces.
  split at found
  next small =>
    cases found
    exact ⟨[], encodeChar_ascii small, List.nil_prefix, rfl⟩
  split at found
  next lead =>
    split at found
    · split at found
      next next =>
        obtain ⟨rfl, rfl⟩ := Prod.mk.inj (Option.some.inj found)
        exact ⟨_, encodeChar_joinBits_one lead next, ⟨_, rfl⟩, rfl⟩
      · cases found
    · cases found
  split at found
  next lead =>
    split at found
    · split at found
      next next =>
        obtain ⟨rfl, rfl⟩ := Prod.mk.inj (Option.some.inj found)
        exact ⟨_, encodeChar_joinBits_two lead next.1 next.2, ⟨_, rfl⟩, rfl⟩
      · cases found
    · cases found
  split at found
  next lead =>
    split at found
    · split at found
      next next =>
        obtain ⟨rfl, rfl⟩ := Prod.mk.inj (Option.some.inj found)
        exact ⟨_, encodeChar_joinBits_three lead next.1.1 next.1.2 next.2, ⟨_, rfl⟩, rfl⟩
      · cases found
    · cases found
  · cases found

theorem charAt_one (small : a.toNat < 0x80) : charAt a rest = some (Char.ofNat a.toNat, 0) :=
  if_pos (UInt8.lt_iff_toNat_lt.mpr small)

theorem charAt_two (lead : 0xc2 ≤ a.toNat ∧ a.toNat ≤ 0xdf) (next : follows a b = true) :
    charAt a (b :: rest) = some (joinBits (a.toNat - 0xc0) [b], 1) := by
  simp only [charAt, UInt8.lt_iff_toNat_lt, UInt8.le_iff_toNat_le, UInt8.reduceToNat,
    Bool.and_eq_true, decide_eq_true_eq, next]
  rw [if_neg (by omega), if_pos lead, if_pos trivial]

theorem charAt_three (lead : 0xe0 ≤ a.toNat ∧ a.toNat ≤ 0xef) (next : follows a b = true)
    (last : isContinuation d = true) :
    charAt a (b :: d :: rest) = some (joinBits (a.toNat - 0xe0) [b, d], 2) := by
  simp only [charAt, UInt8.lt_iff_toNat_lt, UInt8.le_iff_toNat_le, UInt8.reduceToNat,
    Bool.and_eq_true, decide_eq_true_eq, next, last]
  rw [if_neg (by omega), if_neg (by omega), if_pos lead, if_pos ⟨trivial, trivial⟩]

theorem charAt_four (lead : 0xf0 ≤ a.toNat ∧ a.toNat ≤ 0xf4) (next : follows a b = true)
    (middle : isContinuation d = true) (last : isContinuation e = true) :
    charAt a (b :: d :: e :: rest) = some (joinBits (a.toNat - 0xf0) [b, d, e], 3) := by
  simp only [charAt, UInt8.lt_iff_toNat_lt, UInt8.le_iff_toNat_le, UInt8.reduceToNat,
    Bool.and_eq_true, decide_eq_true_eq, next, middle, last]
  rw [if_neg (by omega), if_neg (by omega), if_neg (by omega), if_pos lead,
    if_pos ⟨⟨trivial, trivial⟩, trivial⟩]

theorem toNat_byteOfNat (small : n < 0x100) : (UInt8.ofNat n).toNat = n :=
  UInt8.toNat_ofNat_of_lt' small

theorem charAt_encodeChar (c : Char) (rest : Bytes) :
    ∃ a tail, encodeChar c = a :: tail ∧ charAt a (tail ++ rest) = some (c, tail.length) := by
  have valid := valid_toNat c
  -- By the number of bytes; their bits put together are the number of the character again.
  by_cases one : c.toNat < 0x80
  · have lead := toNat_byteOfNat (n := c.toNat) (by omega)
    refine ⟨_, _, encodeChar_one one, ?_⟩
    rw [charAt_one (by omega), lead, Char.ofNat_toNat]
    rfl
  have last := toNat_byteOfNat (n := c.toNat % 64 + 0x80) (by omega)
  by_cases two : c.toNat < 0x800
  · have lead := toNat_byteOfNat (n := c.toNat / 64 + 0xc0) (by omega)
    refine ⟨_, _, encodeChar_two (by omega) two, ?_⟩
    rw [List.singleton_append, charAt_two (by omega) (follows_iff.mpr (by omega)), joinBits_one,
      charOfNat_eq (c := c) (by omega)]
    rfl
  have middle := toNat_byteOfNat (n := c.toNat / 64 % 64 + 0x80) (by omega)
  by_cases three : c.toNat < 0x10000
  · have lead := toNat_byteOfNat (n := c.toNat / 4096 + 0xe0) (by omega)
    refine ⟨_, _, encodeChar_three (by omega) three, ?_⟩
    change charAt _ (_ :: _ :: rest) = _
    rw [charAt_three (by omega) (follows_iff.mpr (by omega)) (isContinuation_iff.mpr (by omega)),
      joinBits_two, charOfNat_eq (c := c) (by omega)]
    rfl
  · have lead := toNat_byteOfNat (n := c.toNat / 262144 + 0xf0) (by omega)
    have next := toNat_byteOfNat (n := c.toNat / 4096 % 64 + 0x80) (by omega)
    refine ⟨_, _, encodeChar_four (by omega), ?_⟩
    change charAt _ (_ :: _ :: _ :: rest) = _
    rw [charAt_four (by omega) (follows_iff.mpr (by omega)) (isContinuation_iff.mpr (by omega))
      (isContinuation_iff.mpr (by omega)), joinBits_three, charOfNat_eq (c := c) (by omega)]
    rfl

/-! ## Whole texts -/

theorem encodeChar_cases (c : Char) :
    c.toNat < 0x80 ∧ encodeChar c = [.ofNat c.toNat] ∨
    (0x80 ≤ c.toNat ∧ c.toNat < 0x800) ∧
      encodeChar c = [.ofNat (c.toNat / 64 + 0xc0), .ofNat (c.toNat % 64 + 0x80)] ∨
    (0x800 ≤ c.toNat ∧ c.toNat < 0x10000) ∧
      encodeChar c = [.ofNat (c.toNat / 4096 + 0xe0), .ofNat (c.toNat / 64 % 64 + 0x80),
        .ofNat (c.toNat % 64 + 0x80)] ∨
    (0x10000 ≤ c.toNat ∧ c.toNat < 0x110000) ∧
      encodeChar c = [.ofNat (c.toNat / 262144 + 0xf0), .ofNat (c.toNat / 4096 % 64 + 0x80),
        .ofNat (c.toNat / 64 % 64 + 0x80), .ofNat (c.toNat % 64 + 0x80)] := by
  have valid := valid_toNat c
  rcases Nat.lt_or_ge c.toNat 0x80 with short | large
  · exact .inl ⟨short, encodeChar_one short⟩
  rcases Nat.lt_or_ge c.toNat 0x800 with two | larger
  · exact .inr (.inl ⟨⟨large, two⟩, encodeChar_two large two⟩)
  rcases Nat.lt_or_ge c.toNat 0x10000 with three | largest
  · exact .inr (.inr (.inl ⟨⟨larger, three⟩, encodeChar_three larger three⟩))
  · exact .inr (.inr (.inr ⟨⟨largest, by omega⟩, encodeChar_four largest⟩))

theorem le_of_mem_encodeChar (large : 0x80 ≤ c.toNat) (member : b ∈ encodeChar c) :
    0x80 ≤ b.toNat := by
  obtain ⟨size, bytes⟩ | ⟨size, bytes⟩ | ⟨size, bytes⟩ | ⟨size, bytes⟩ := encodeChar_cases c
  · omega
  all_goals
    simp only [bytes, List.mem_cons, List.not_mem_nil, or_false] at member
  · obtain rfl | rfl := member <;> rw [toNat_byteOfNat (by omega)] <;> omega
  · obtain rfl | rfl | rfl := member <;> rw [toNat_byteOfNat (by omega)] <;> omega
  · obtain rfl | rfl | rfl | rfl := member <;> rw [toNat_byteOfNat (by omega)] <;> omega

theorem encode_cons (c : Char) (text : List Char) : encode (c :: text) = encodeChar c ++ encode text :=
  List.flatMap_cons

theorem decode?_encodeChar_append (c : Char) (rest : Bytes) :
    decode? (encodeChar c ++ rest) = (decode? rest).map (c :: ·) := by
  obtain ⟨a, tail, bytes, read⟩ := charAt_encodeChar c rest
  rw [bytes, List.cons_append, decode?, read]
  dsimp only
  rw [List.drop_left]

theorem decode?_encode_append (text : List Char) (rest : Bytes) :
    decode? (encode text ++ rest) = (decode? rest).map (text ++ ·) := by
  induction text with
  | nil => exact Option.map_id'.symm
  | cons c text ih =>
    rw [encode_cons, List.append_assoc, decode?_encodeChar_append, ih, Option.map_map]
    rfl

theorem decode?_encode (text : List Char) : decode? (encode text) = some text := by
  have read := decode?_encode_append text []
  rw [List.append_nil, decode?] at read
  rw [read, Option.map_some, List.append_nil]

theorem encode_of_decode? (read : decode? bytes = some text) : encode text = bytes := by
  fun_induction decode? bytes generalizing text with
  | case1 =>
    cases read
    rfl
  | case2 a rest c n found ih =>
    obtain ⟨others, later, rfl⟩ := Option.map_eq_some_iff.mp read
    obtain ⟨tail, bytes, front, rfl⟩ := encodeChar_of_charAt found
    rw [encode_cons, ih later, bytes, List.cons_append, List.prefix_iff_eq_append.mp front]
  | case3 => cases read

/-- The bytes that can be read are those that some text is written with. -/
theorem decode?_eq_some_iff : decode? bytes = some text ↔ bytes = encode text :=
  ⟨fun read => (encode_of_decode? read).symm, fun same => same ▸ decode?_encode text⟩

end Netboot.Text
