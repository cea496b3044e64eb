import Mathlib.Data.List.Forall2
import Netboot.Profile
import Netboot.Proofs.Text.Fields
import Netboot.Proofs.Text.Lower

/-! Hardware addresses in their many spellings. Twelve hexadecimal digits, however they are set apart,
become pairs with colons between them; any other text only loses its blank ends and its capitals.

What a text spells is read off the text as it is given, with its blanks and capitals.
-/

set_option autoImplicit false

namespace Netboot.Profile

variable {c : Char} {chars digits before : List Char} {text out : String}

/-! ## Digits -/

theorem toNat_of_isLowerHex (hex : isLowerHex c = true) : c.toNat < 0x80 := by
  simp only [isLowerHex, Bool.or_eq_true, Bool.and_eq_true, decide_eq_true_eq] at hex
  obtain ⟨-, below⟩ | ⟨-, below⟩ := hex
  · exact Nat.lt_of_le_of_lt below (by decide)
  · exact Nat.lt_of_le_of_lt below (by decide)

/-- A character that normalisation leaves alone in every place. -/
structure Still (c : Char) : Prop where
  solid : Text.isBlank c = false
  settled : Text.Settled c

theorem still_colon : Still ':' := ⟨by decide, by decide, by decide⟩

theorem still_of_isLowerHex (hex : isLowerHex c = true) : Still c := by
  have all : ∀ n ∈ List.range 0x80, isLowerHex (Char.ofNat n) = true →
      Text.isBlank (Char.ofNat n) = false ∧ Text.lowerChar (Char.ofNat n) = [Char.ofNat n] := by
    decide +kernel
  obtain ⟨solid, alone⟩ := Text.forall_ascii
    (P := fun c => isLowerHex c = true → Text.isBlank c = false ∧ Text.lowerChar c = [c]) all
    (toNat_of_isLowerHex hex) hex
  refine ⟨solid, alone, ?_⟩
  rintro rfl
  exact absurd hex (by decide)

theorem not_isMacSeparator_of_isLowerHex (hex : isLowerHex c = true) : isMacSeparator c = false := by
  rw [Bool.eq_false_iff]
  intro separator
  simp only [isMacSeparator, Bool.or_eq_true, beq_iff_eq] at separator
  obtain (rfl | rfl) | rfl := separator <;> exact absurd hex (by decide)

def AreDigits (chars : List Char) : Prop := chars.length = 12 ∧ chars.all isLowerHex = true

instance (chars : List Char) : Decidable (AreDigits chars) := inferInstanceAs (Decidable (_ ∧ _))

theorem AreDigits.isLowerHex (given : AreDigits digits) (member : c ∈ digits) :
    isLowerHex c = true :=
  List.all_eq_true.mp given.2 c member

/-! ## Pairs -/

theorem flatten_pairUp (even : 2 ∣ chars.length) : (pairUp chars).flatten = chars := by
  induction chars using pairUp.induct with
  | case1 a b rest ih =>
    have less : 2 ∣ rest.length := (Nat.dvd_add_left (Nat.dvd_refl 2)).mp even
    rw [pairUp, List.flatten_cons, ih less]
    rfl
  | case2 chars short =>
    match chars, short with
    | [], _ => rfl
    | [_], _ => exact absurd even (by decide : ¬ 2 ∣ 1)
    | a :: b :: rest, short => exact absurd rfl (short a b rest)

theorem length_of_mem_pairUp {pair : List Char} (member : pair ∈ pairUp chars) : pair.length = 2 := by
  induction chars using pairUp.induct with
  | case1 a b rest ih =>
    obtain rfl | later := List.mem_cons.mp member
    · rfl
    · exact ih later
  | case2 chars short =>
    rw [pairUp] at member
    · cases member
    · exact short

def InPairs (digits : List Char) (text : String) : Prop :=
  ∃ pairs : List (List Char), (∀ pair ∈ pairs, pair.length = 2) ∧ pairs.flatten = digits ∧
    text = .ofList ([':'].intercalate pairs)

theorem pairUp_flatten {pairs : List (List Char)} (two : ∀ pair ∈ pairs, pair.length = 2) :
    pairUp pairs.flatten = pairs := by
  induction pairs with
  | nil => rfl
  | cons pair rest ih =>
    have rest := ih fun pair member => two pair (.tail _ member)
    match pair, two pair List.mem_cons_self with
    | [a, b], _ => exact congrArg ([a, b] :: ·) rest

theorem eq_of_inPairs (pairs : InPairs digits text) :
    text = .ofList ([':'].intercalate (pairUp digits)) := by
  obtain ⟨parts, two, rfl, rfl⟩ := pairs
  rw [pairUp_flatten two]

theorem inPairs_pairUp (given : AreDigits digits) :
    InPairs digits (.ofList ([':'].intercalate (pairUp digits))) :=
  ⟨pairUp digits, fun _ => length_of_mem_pairUp,
    flatten_pairUp (given.1 ▸ by decide), rfl⟩

/-- Leaving out the mark undoes the join. -/
theorem filter_intercalate {keep : Char → Bool} {mark : Char} {parts : List (List Char)}
    (dropped : keep mark = false) (kept : ∀ c ∈ parts.flatten, keep c = true) :
    ([mark].intercalate parts).filter keep = parts.flatten := by
  induction parts with
  | nil => rfl
  | cons first rest ih =>
    rw [List.flatten_cons] at kept ⊢
    have here : first.filter keep = first :=
      List.filter_eq_self.mpr fun c member => kept c (List.mem_append_left _ member)
    by_cases last : rest = []
    · simp [last, here]
    · have gone : [mark].filter keep = [] := by simp [dropped]
      rw [List.intercalate_cons_of_ne_nil last, List.filter_append, List.filter_append, here, gone,
        List.append_nil, ih fun c member => kept c (List.mem_append_right _ member)]

/-! ## Texts without separators -/

def plain (text : String) : List Char := Text.lower (Text.strip text.toList)

def bare (text : String) : List Char := (plain text).filter (!isMacSeparator ·)

/-- The text is a hardware address. -/
def IsMac (text : String) : Prop := AreDigits (bare text)

instance (text : String) : Decidable (IsMac text) := inferInstanceAs (Decidable (AreDigits _))

theorem normalizeMac_of_digits (given : AreDigits (dropFinalNewline (bare text))) :
    normalizeMac text = .ofList ([':'].intercalate (pairUp (dropFinalNewline (bare text)))) := by
  refine if_pos ?_
  rw [Bool.and_eq_true, decide_eq_true_eq]
  exact given

theorem normalizeMac_of_other (given : ¬ AreDigits (dropFinalNewline (bare text))) :
    normalizeMac text = .ofList (plain text) := by
  refine if_neg ?_
  rw [Bool.and_eq_true, decide_eq_true_eq]
  exact given

theorem newline_not_mem (given : AreDigits digits) : '\n' ∉ digits := fun member =>
  absurd (given.isLowerHex member) (by decide)

theorem dropFinalNewline_of_digits (given : AreDigits digits) : dropFinalNewline digits = digits :=
  if_neg fun last => newline_not_mem given (List.mem_of_getLast? last)

theorem normalizeMac_of_isMac (mac : IsMac text) :
    normalizeMac text = .ofList ([':'].intercalate (pairUp (bare text))) := by
  have same := dropFinalNewline_of_digits mac
  have given : AreDigits (dropFinalNewline (bare text)) := same.symm ▸ mac
  rw [normalizeMac_of_digits given, same]

theorem plain_plain (text : String) : plain (.ofList (plain text)) = plain text := by
  rw [plain, String.toList_ofList, plain, Text.strip_lower_strip, Text.lower_lower]

theorem plain_of_inPairs (given : AreDigits digits) (pairs : InPairs digits text) :
    plain text = text.toList := by
  obtain ⟨parts, -, rfl, rfl⟩ := pairs
  have still : ∀ c ∈ [':'].intercalate parts, Still c := by
    intro c member
    obtain rfl | ⟨part, among, within⟩ := Text.mem_intercalate member
    · exact still_colon
    · exact still_of_isLowerHex (given.isLowerHex (List.mem_flatten.mpr ⟨part, among, within⟩))
  rw [plain, String.toList_ofList, Text.strip_solid fun c member => (still c member).solid]
  exact Text.lowerFrom_of_settled fun c member => (still c member).settled

theorem bare_of_inPairs (given : AreDigits digits) (pairs : InPairs digits text) :
    bare text = digits := by
  rw [bare, plain_of_inPairs given pairs]
  obtain ⟨parts, -, rfl, rfl⟩ := pairs
  rw [String.toList_ofList]
  refine filter_intercalate rfl fun c member => ?_
  rw [not_isMacSeparator_of_isLowerHex (given.isLowerHex member), Bool.not_false]

/-! ## What a text spells -/

def spelled (text : String) : List Nat := text.toList.filterMap Text.hexValue?

theorem hexValue?_of_isBlank (blank : Text.isBlank c = true) : Text.hexValue? c = none := by
  have all : ∀ n ∈ List.range 0x80, Text.isBlank (Char.ofNat n) = true →
      Text.hexValue? (Char.ofNat n) = none := by
    decide +kernel
  cases digit : Text.hexValue? c with
  | none => rfl
  | some value =>
    exact digit.symm.trans (Text.forall_ascii
      (P := fun c => Text.isBlank c = true → Text.hexValue? c = none) all
      (Text.toNat_of_hexValue? digit) blank)

theorem filterMap_hexValue?_strip (chars : List Char) :
    (Text.strip chars).filterMap Text.hexValue? = chars.filterMap Text.hexValue? := by
  have nothing {ends : List Char} (blank : ∀ c ∈ ends, Text.isBlank c = true) :
      ends.filterMap Text.hexValue? = [] :=
    List.filterMap_eq_nil_iff.mpr fun c member => hexValue?_of_isBlank (blank c member)
  obtain ⟨front, back, same, blank, blank'⟩ := Text.exists_strip chars
  conv => rhs; rw [same]
  rw [List.filterMap_append, List.filterMap_append, nothing blank, nothing blank', List.nil_append,
    List.append_nil]

def isWritten (c : Char) : Bool := isMacSeparator c || isLowerHex c

theorem ascii_of_isWritten (written : isWritten c = true) :
    c.toNat < 0x80 ∧ c ≠ 'i' ∧ c ≠ 'k' := by
  refine ⟨?_, ?_, ?_⟩
  · rw [isWritten, Bool.or_eq_true] at written
    obtain separator | hex := written
    · simp only [isMacSeparator, Bool.or_eq_true, beq_iff_eq] at separator
      obtain (rfl | rfl) | rfl := separator <;> decide
    · exact toNat_of_isLowerHex hex
  · rintro rfl
    exact absurd written (by decide)
  · rintro rfl
    exact absurd written (by decide)

theorem filter_lowerAscii (ascii : c.toNat < 0x80) (written : isWritten (Text.lowerAscii c) = true) :
    [Text.lowerAscii c].filter (!isMacSeparator ·) =
      ([c].filterMap Text.hexValue?).map Text.hexDigit := by
  have all : ∀ n ∈ List.range 0x80, isWritten (Text.lowerAscii (Char.ofNat n)) = true →
      [Text.lowerAscii (Char.ofNat n)].filter (!isMacSeparator ·) =
        ([Char.ofNat n].filterMap Text.hexValue?).map Text.hexDigit := by
    decide +kernel
  exact Text.forall_ascii (P := fun c => isWritten (Text.lowerAscii c) = true →
    [Text.lowerAscii c].filter (!isMacSeparator ·) =
      ([c].filterMap Text.hexValue?).map Text.hexDigit) all ascii written

theorem filter_lowerFrom (written : ∀ d ∈ Text.lowerFrom before chars, isWritten d = true) :
    (Text.lowerFrom before chars).filter (!isMacSeparator ·) =
      (chars.filterMap Text.hexValue?).map Text.hexDigit := by
  induction chars generalizing before with
  | nil => rfl
  | cons c after ih =>
    obtain ⟨out, lowers, same⟩ := Text.lowerFrom_cons before c after
    rw [same] at written ⊢
    -- Whatever the character becomes may stand in an address, so it is one of ASCII itself.
    obtain ⟨d, member⟩ := List.exists_mem_of_ne_nil out lowers.ne_nil
    obtain ⟨seven, dotless, other⟩ := ascii_of_isWritten (written d (List.mem_append_left _ member))
    obtain ⟨ascii, rfl⟩ := lowers.ascii member seven dotless other
    have here := filter_lowerAscii ascii (written _ List.mem_cons_self)
    rw [List.filter_append, here, ih fun d member => written d (List.mem_append_right _ member),
      ← List.map_append, ← List.filterMap_append, List.singleton_append]

theorem bare_eq_spelled (mac : IsMac text) : bare text = (spelled text).map Text.hexDigit := by
  rw [spelled, ← filterMap_hexValue?_strip]
  refine filter_lowerFrom fun d member => ?_
  rw [isWritten, Bool.or_eq_true]
  cases separator : isMacSeparator d with
  | true => exact .inl rfl
  | false =>
    refine .inr (mac.isLowerHex (List.mem_filter.mpr ⟨member, ?_⟩))
    rw [separator, Bool.not_false]

theorem filterMap_hexDigit {values : List Nat} (small : ∀ n ∈ values, n < 16) :
    (values.map Text.hexDigit).filterMap Text.hexValue? = values := by
  induction values with
  | nil => rfl
  | cons n rest ih =>
    rw [List.map_cons, List.filterMap_cons, Text.hexValue?_hexDigit (small n List.mem_cons_self),
      ih fun m member => small m (.tail _ member)]

theorem lt_of_mem_spelled {n : Nat} (member : n ∈ spelled text) : n < 16 := by
  obtain ⟨c, -, digit⟩ := List.mem_filterMap.mp member
  exact Text.hexValue?_lt digit

theorem bare_eq_iff {other : String} (mac : IsMac text) (mac' : IsMac other) :
    bare text = bare other ↔ spelled text = spelled other := by
  rw [bare_eq_spelled mac, bare_eq_spelled mac']
  refine ⟨fun same => ?_, congrArg (List.map Text.hexDigit)⟩
  have values := congrArg (List.filterMap Text.hexValue?) same
  rwa [filterMap_hexDigit fun _ => lt_of_mem_spelled,
    filterMap_hexDigit fun _ => lt_of_mem_spelled] at values

/-! ## The normal form -/

/-- The normal form that is due to a text. -/
structure Normal (text out : String) : Prop where
  mac : IsMac text → InPairs (bare text) out
  other : ¬ IsMac text → out = .ofList (plain text)

/-- Twelve digits and a line end, which only a separator behind it keeps from being stripped. -/
def EndsInNewline (text : String) : Prop := ∃ digits, AreDigits digits ∧ bare text = digits ++ ['\n']

theorem dropFinalNewline_concat (chars : List Char) : dropFinalNewline (chars ++ ['\n']) = chars := by
  rw [dropFinalNewline, if_pos List.getLast?_concat, List.dropLast_concat]

theorem inPairs_of_endsInNewline (ends : EndsInNewline text) :
    InPairs (bare text).dropLast (normalizeMac text) := by
  obtain ⟨digits, given, same⟩ := ends
  have dropped : dropFinalNewline (bare text) = digits := same ▸ dropFinalNewline_concat digits
  have taken : AreDigits (dropFinalNewline (bare text)) := dropped.symm ▸ given
  rw [normalizeMac_of_digits taken, dropped, same, List.dropLast_concat]
  exact inPairs_pairUp given

/-- Digits that are taken for an address are one, or have a line end behind them. -/
theorem isMac_or_endsInNewline (given : AreDigits (dropFinalNewline (bare text))) :
    IsMac text ∨ EndsInNewline text := by
  by_cases last : (bare text).getLast? = some '\n'
  · obtain ⟨digits, same⟩ := List.getLast?_eq_some_iff.mp last
    rw [same, dropFinalNewline_concat] at given
    exact .inr ⟨digits, given, same⟩
  · rw [dropFinalNewline, if_neg last] at given
    exact .inl given

theorem normal_iff : Normal text (normalizeMac text) ↔ ¬ EndsInNewline text := by
  constructor
  · rintro normal ⟨digits, given, same⟩
    have line : '\n' ∈ bare text := same ▸ List.mem_concat_self
    have pairs := inPairs_of_endsInNewline ⟨digits, given, same⟩
    rw [normal.other fun mac => newline_not_mem mac line, same, List.dropLast_concat] at pairs
    -- In pairs there is no line end, but the text in lower case has one.
    have left := bare_of_inPairs given pairs
    rw [bare, plain_plain, ← bare] at left
    exact newline_not_mem given (left ▸ line)
  · intro ended
    refine ⟨fun mac => ?_, fun mac => normalizeMac_of_other fun given => ?_⟩
    · rw [normalizeMac_of_isMac mac]
      exact inPairs_pairUp mac
    · exact (isMac_or_endsInNewline given).elim mac ended

theorem normalizeMac_of_inPairs (given : AreDigits digits) (pairs : InPairs digits text) :
    normalizeMac text = text := by
  have same := bare_of_inPairs given pairs
  have mac : IsMac text := by rwa [IsMac, same]
  rw [normalizeMac_of_isMac mac, same]
  exact (eq_of_inPairs pairs).symm

theorem normalizeMac_normalizeMac (text : String) :
    normalizeMac (normalizeMac text) = normalizeMac text := by
  by_cases given : AreDigits (dropFinalNewline (bare text))
  · refine normalizeMac_of_inPairs given ?_
    rw [normalizeMac_of_digits given]
    exact inPairs_pairUp given
  · have same : bare (normalizeMac text) = bare text := by
      rw [normalizeMac_of_other given, bare, plain_plain, bare]
    have other : ¬ AreDigits (dropFinalNewline (bare (normalizeMac text))) := by rwa [same]
    rw [normalizeMac_of_other other, normalizeMac_of_other given, plain_plain]

theorem normalizeMac_eq_iff {other : String} (mac : IsMac text) (mac' : IsMac other) :
    normalizeMac text = normalizeMac other ↔ spelled text = spelled other := by
  rw [← bare_eq_iff mac mac', normalizeMac_of_isMac mac, normalizeMac_of_isMac mac']
  refine ⟨fun same => ?_, fun same => same ▸ rfl⟩
  have pairs := inPairs_pairUp mac
  rw [same] at pairs
  rw [← bare_of_inPairs mac pairs, bare_of_inPairs mac' (inPairs_pairUp mac')]

/-- A text has its normal form unless a line end stands behind twelve digits; then it is taken for an
address. What is in normal form stays so, and addresses have the same normal form when they spell the
same digits. -/
theorem normalizeMac_normal_iff (text : String) :
    (Normal text (normalizeMac text) ↔ ¬ EndsInNewline text) ∧
    (EndsInNewline text → InPairs (bare text).dropLast (normalizeMac text)) ∧
    normalizeMac (normalizeMac text) = normalizeMac text ∧
    ∀ other, IsMac text → IsMac other →
      (normalizeMac text = normalizeMac other ↔ spelled text = spelled other) :=
  ⟨normal_iff, inPairs_of_endsInNewline, normalizeMac_normalizeMac text, fun _ => normalizeMac_eq_iff⟩

theorem normalizeMac_normal_of_two_spellings :
    Normal "00-11-22-AA-BB-CC" "00:11:22:aa:bb:cc" ∧
      normalizeMac "00-11-22-AA-BB-CC" = normalizeMac " 0011.22aa.bbcc" ∧
      InPairs "001122aabbcc".toList (normalizeMac "001122aabbcc\n-") := by
  have mac : IsMac "00-11-22-AA-BB-CC" := by decide
  have mac' : IsMac " 0011.22aa.bbcc" := by decide
  have form : normalizeMac "00-11-22-AA-BB-CC" = "00:11:22:aa:bb:cc" := by decide
  have line : bare "001122aabbcc\n-" = "001122aabbcc".toList ++ ['\n'] := by decide
  obtain ⟨normal, -, -, alike⟩ := normalizeMac_normal_iff "00-11-22-AA-BB-CC"
  obtain ⟨-, ended, -, -⟩ := normalizeMac_normal_iff "001122aabbcc\n-"
  refine ⟨?_, (alike _ mac mac').mpr (by decide), ?_⟩
  · rw [← form]
    refine normal.mpr fun ⟨digits, given, same⟩ => ?_
    exact newline_not_mem mac (same ▸ List.mem_concat_self)
  · have pairs := ended ⟨_, by decide, line⟩
    rwa [line, List.dropLast_concat] at pairs

/-- Twelve digits, a line end and a hyphen are thirteen characters without the hyphen. -/
theorem newline_taken_for_mac :
    ¬ Normal "52:54:00:aa:bb:cc\n-" (normalizeMac "52:54:00:aa:bb:cc\n-") := by
  intro normal
  have other := normal.other (by decide +kernel)
  exact absurd other (by decide)

/-! ## Bytes with hyphens -/

def SpellsByte (byte : UInt8) (pair : List Char) : Prop :=
  ∃ high low, pair = [high, low] ∧ Text.hexValue? high = some (byte.toNat / 16) ∧
    Text.hexValue? low = some (byte.toNat % 16)

/-- Bytes in hexadecimal of either case, with hyphens between them. -/
def Hyphenated (bytes : Bytes) (text : String) : Prop :=
  ∃ pairs, List.Forall₂ SpellsByte bytes pairs ∧ text = .ofList (['-'].intercalate pairs)

def hexPairs (bytes : Bytes) : List (List Char) := bytes.map fun byte => Text.hex 2 byte.toNat

def colonForm (bytes : Bytes) : String := .ofList ([':'].intercalate (hexPairs bytes))

theorem hex_two (byte : UInt8) :
    Text.hex 2 byte.toNat = [Text.hexDigit (byte.toNat / 16), Text.hexDigit (byte.toNat % 16)] := by
  have all : ∀ n ∈ List.range 256, Text.hex 2 n = [Text.hexDigit (n / 16), Text.hexDigit (n % 16)] := by
    decide +kernel
  exact all _ (List.mem_range.mpr (UInt8.toNat_lt byte))

theorem isLowerHex_hexDigit {n : Nat} (small : n < 16) : isLowerHex (Text.hexDigit n) = true := by
  have all : ∀ n ∈ List.range 16, isLowerHex (Text.hexDigit n) = true := by decide
  exact all n (List.mem_range.mpr small)

theorem lowerAscii_of_hexValue? {n : Nat} (digit : Text.hexValue? c = some n) :
    Text.lowerAscii c = Text.hexDigit n := by
  have all : ∀ n ∈ List.range 0x80, ∀ v ∈ Text.hexValue? (Char.ofNat n),
      Text.lowerAscii (Char.ofNat n) = Text.hexDigit v := by
    decide +kernel
  exact Text.forall_ascii
    (P := fun c => ∀ v ∈ Text.hexValue? c, Text.lowerAscii c = Text.hexDigit v) all
    (Text.toNat_of_hexValue? digit) n digit

theorem SpellsByte.digit {byte : UInt8} {pair : List Char} (spells : SpellsByte byte pair)
    (member : c ∈ pair) : ∃ n, Text.hexValue? c = some n := by
  obtain ⟨high, low, rfl, first, second⟩ := spells
  obtain rfl | last := List.mem_cons.mp member
  · exact ⟨_, first⟩
  · exact ⟨_, List.mem_singleton.mp last ▸ second⟩

theorem map_lowerAscii {bytes : Bytes} {pairs : List (List Char)}
    (spells : List.Forall₂ SpellsByte bytes pairs) :
    pairs.map (·.map Text.lowerAscii) = hexPairs bytes := by
  induction spells with
  | nil => rfl
  | @cons byte pair _ _ here _ ih =>
    obtain ⟨high, low, rfl, first, second⟩ := here
    rw [List.map_cons, ih, List.map_cons, List.map_cons, lowerAscii_of_hexValue? first,
      lowerAscii_of_hexValue? second, List.map_nil, ← hex_two]
    rfl

theorem mem_of_forall₂ {bytes : Bytes} {pairs : List (List Char)} {pair : List Char}
    (spells : List.Forall₂ SpellsByte bytes pairs) (member : pair ∈ pairs) :
    ∃ byte, SpellsByte byte pair := by
  induction spells with
  | nil => cases member
  | @cons byte first _ _ here _ ih =>
    obtain rfl | later := List.mem_cons.mp member
    · exact ⟨byte, here⟩
    · exact ih later

theorem plain_of_hyphenated {bytes : Bytes} (hyphens : Hyphenated bytes text) :
    plain text = ['-'].intercalate (hexPairs bytes) := by
  obtain ⟨pairs, spells, rfl⟩ := hyphens
  have simple : ∀ c ∈ ['-'].intercalate pairs, c.toNat < 0x80 ∧ Text.isBlank c = false := by
    intro c member
    obtain rfl | ⟨pair, among, within⟩ := Text.mem_intercalate member
    · decide
    · obtain ⟨byte, here⟩ := mem_of_forall₂ spells among
      obtain ⟨n, digit⟩ := here.digit within
      refine ⟨Text.toNat_of_hexValue? digit, Bool.eq_false_iff.mpr fun blank => ?_⟩
      cases digit.symm.trans (hexValue?_of_isBlank blank)
  rw [plain, String.toList_ofList, Text.strip_solid fun c member => (simple c member).2,
    Text.lower_ascii fun c member => (simple c member).1, Text.map_intercalate, map_lowerAscii spells]
  rfl

theorem length_of_mem_hexPairs {bytes : Bytes} {pair : List Char} (member : pair ∈ hexPairs bytes) :
    pair.length = 2 := by
  obtain ⟨byte, -, rfl⟩ := List.mem_map.mp member
  rw [hex_two]
  rfl

theorem areDigits_hexPairs {bytes : Bytes} (six : bytes.length = 6) :
    AreDigits (hexPairs bytes).flatten := by
  constructor
  · have two : (hexPairs bytes).map List.length = List.replicate bytes.length 2 := by
      rw [List.eq_replicate_iff, List.length_map, hexPairs, List.length_map]
      refine ⟨rfl, fun n member => ?_⟩
      obtain ⟨pair, among, rfl⟩ := List.mem_map.mp member
      exact length_of_mem_hexPairs among
    rw [List.length_flatten, two, List.sum_replicate_nat, six]
  · refine List.all_eq_true.mpr fun c member => ?_
    obtain ⟨pair, among, within⟩ := List.mem_flatten.mp member
    obtain ⟨byte, -, rfl⟩ := List.mem_map.mp among
    have small : byte.toNat < 256 := UInt8.toNat_lt byte
    rw [hex_two] at within
    obtain rfl | last := List.mem_cons.mp within
    · exact isLowerHex_hexDigit (by omega)
    · rw [List.mem_singleton.mp last]
      exact isLowerHex_hexDigit (by omega)

theorem normalizeMac_of_hyphenated {bytes : Bytes} (six : bytes.length = 6)
    (hyphens : Hyphenated bytes text) : normalizeMac text = colonForm bytes := by
  have digits := areDigits_hexPairs six
  have same : bare text = (hexPairs bytes).flatten := by
    rw [bare, plain_of_hyphenated hyphens]
    refine filter_intercalate rfl fun c member => ?_
    rw [not_isMacSeparator_of_isLowerHex (digits.isLowerHex member), Bool.not_false]
  have mac : IsMac text := by rwa [IsMac, same]
  rw [normalizeMac_of_isMac mac, same, pairUp_flatten fun _ => length_of_mem_hexPairs, colonForm]

end Netboot.Profile
