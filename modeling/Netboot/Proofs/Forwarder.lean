import Netboot.Forwarder
import Netboot.Proofs.Address.Text
import Netboot.Proofs.Text.Case
import Netboot.Proofs.Text.Integer

/-! The endpoint that the text of a forwarder names, and what is left of it when the text is
written out and split again. -/

set_option autoImplicit false

namespace Netboot.Forwarder

/-- An address and a port, of which the second may be missing. Without it the port is 53. -/
inductive Names : List Char → V4 → Nat → Prop
  | address (a : V4) : Names a.text.toList a 53
  | marked (a : V4) : Names (':' :: a.text.toList) a 53
  | port (a : V4) {digits : List Char} {n : Nat} (spells : Text.Spells digits n) :
      Names (a.text.toList ++ ':' :: digits) a n

/-- The endpoint that a text names, blanks around it aside, with a port that there is. -/
def Endpoint (text : String) (a : V4) (n : Nat) : Prop :=
  Names (Text.strip text.toList) a n ∧ 0 < n ∧ n < 65536

/-- The digits of a port. -/
def portText (port : Option (List Char)) : List Char := port.getD ['5', '3']

variable {core host digits : List Char} {text written : String} {a : V4} {n : Nat}

/-! ## The parts -/

theorem colon_not_mem_address (a : V4) : ':' ∉ a.text.toList := fun member =>
  absurd (V4.isDigit_or_eq_of_mem_text member) (by decide)

theorem colon_not_mem_digits (numeral : Text.isDigits digits = true) : ':' ∉ digits := fun member =>
  absurd (Text.digits_all numeral member) (by decide)

theorem toList_address_ne_nil (a : V4) : a.text.toList ≠ [] := by
  intro empty
  have filled := V4.text_isEmpty a
  rw [String.toList_eq_nil_iff.mp empty] at filled
  cases filled

theorem parts_of_none (split : parts core = (host, none)) : core = host ∨ core = ':' :: host := by
  unfold parts at split
  split at split
  · exact .inl (congrArg Prod.fst split)
  next found =>
    obtain rfl := congrArg Prod.fst split
    exact .inr (Text.cutLast?_eq_some_iff.mp found).1
  · cases split

theorem parts_of_some (split : parts core = (host, some digits)) : core = host ++ ':' :: digits := by
  unfold parts at split
  split at split
  · cases split
  · cases split
  next found =>
    cases split
    exact (Text.cutLast?_eq_some_iff.mp found).1

theorem parts_of_plain (plain : ':' ∉ host) : parts host = (host, none) := by
  rw [parts, Text.cutLast?_eq_none_iff.mpr plain]

theorem parts_of_marked (plain : ':' ∉ host) : parts (':' :: host) = (host, none) := by
  have cut : Text.cutLast? ':' (':' :: host) = some ([], host) :=
    Text.cutLast?_eq_some_iff.mpr ⟨rfl, plain⟩
  rw [parts, cut]

theorem parts_append (given : host ≠ []) (plain : ':' ∉ digits) :
    parts (host ++ ':' :: digits) = (host, some digits) := by
  have cut : Text.cutLast? ':' (host ++ ':' :: digits) = some (host, digits) :=
    Text.cutLast?_eq_some_iff.mpr ⟨rfl, plain⟩
  rw [parts, cut]
  cases host with
  | nil => exact absurd rfl given
  | cons => rfl

theorem spells_default : Text.Spells ['5', '3'] 53 := ⟨[5, 3], by decide, by decide, by decide, rfl⟩

theorem names_iff : Names core a n ↔
    ∃ port, parts core = (a.text.toList, port) ∧ Text.Spells (portText port) n := by
  constructor
  · intro names
    cases names with
    | address => exact ⟨none, parts_of_plain (colon_not_mem_address a), spells_default⟩
    | marked => exact ⟨none, parts_of_marked (colon_not_mem_address a), spells_default⟩
    | port _ spells =>
      exact ⟨_, parts_append (toList_address_ne_nil a) (colon_not_mem_digits spells.isDigits), spells⟩
  · rintro ⟨_ | digits, split, spells⟩
    · obtain rfl := spells.unique spells_default
      obtain rfl | rfl := parts_of_none split
      · exact .address a
      · exact .marked a
    · rw [parts_of_some split]
      exact .port a spells

theorem Names.unique {b : V4} {m : Nat} (first : Names core a n) (second : Names core b m) :
    b = a ∧ m = n := by
  obtain ⟨port, split, spells⟩ := names_iff.mp first
  obtain ⟨other, same, spelled⟩ := names_iff.mp second
  obtain ⟨text, rfl⟩ := Prod.mk.inj (split.symm.trans same)
  -- An address is read back from its own text, so one text names one address.
  have parsed : V4.parse a.text = .ok b := V4.parse_eq_ok_iff.mpr (String.toList_inj.mp text)
  have itself : V4.parse a.text = .ok a := V4.parse_eq_ok_iff.mpr rfl
  exact ⟨Except.ok.inj (parsed.symm.trans itself), spelled.unique spells⟩

/-! ## Writing -/

theorem normalize_eq_ok_iff : normalize text = .ok written ↔
    ∃ (a : V4) (port : Option (List Char)) (n : Nat),
      parts (Text.strip text.toList) = (a.text.toList, port) ∧ Text.Spells (portText port) n ∧
        0 < n ∧ n < 65536 ∧ written = .ofList (a.text.toList ++ ':' :: portText port) := by
  unfold normalize
  cases found : parts (Text.strip text.toList) with | mk host port
  dsimp only
  rw [← portText]
  constructor
  · intro ok
    obtain ⟨a, parsed, ok⟩ := ok_of_bind ok
    -- Only the canonical text of an address parses, so the host part is written as it was given.
    have same : host = a.text.toList := by
      rw [← V4.parse_eq_ok_iff.mp (ok_of_mapError parsed), String.toList_ofList]
    split at ok
    · cases ok
    next numeral =>
      obtain ⟨number, read, ok⟩ := ok_of_bind ok
      have digits : Text.isDigits (portText port) = true := by simpa using numeral
      obtain ⟨n, spells, rfl⟩ := (Text.integer_eq_ok_iff digits).mp (ok_of_mapError read)
      split at ok
      next inside =>
        simp only [Bool.and_eq_true, decide_eq_true_eq] at inside
        exact ⟨a, port, n, same ▸ rfl, spells, by omega, by omega,
          same ▸ (Except.ok.inj ok).symm⟩
      · cases ok
  · rintro ⟨a, _, n, same, spells, low, high, rfl⟩
    obtain ⟨rfl, rfl⟩ := Prod.mk.inj same
    have parsed : V4.parse (.ofList a.text.toList) = .ok a :=
      V4.parse_eq_ok_iff.mpr String.ofList_toList
    have read := (Text.integer_eq_ok_iff spells.isDigits).mpr ⟨n, spells, rfl⟩
    have inside : (0 < (n : Int) && (n : Int) < 65536) = true := by
      rw [Bool.and_eq_true, decide_eq_true_eq, decide_eq_true_eq]
      omega
    simp only [parsed, spells.isDigits, read, inside, Except.mapError, bind, Except.bind, pure,
      Except.pure, Bool.not_true, Bool.false_eq_true, if_false, if_true]

/-! ## Reading it again -/

theorem strip_endpoint (a : V4) (numeral : Text.isDigits digits = true) :
    Text.strip (a.text.toList ++ ':' :: digits) = a.text.toList ++ ':' :: digits := by
  refine Text.strip_solid fun c member => ?_
  obtain within | rfl | within := List.mem_append.mp member |>.imp_right List.mem_cons.mp
  · obtain digit | rfl := V4.isDigit_or_eq_of_mem_text within
    · exact Text.isBlank_of_isDigit (Text.isDigit_of_ascii digit)
    · decide
  · decide
  · exact Text.isBlank_of_isDigit (Text.digits_all numeral within)

theorem split_endpoint (a : V4) (spells : Text.Spells digits n) :
    split (.ofList (a.text.toList ++ ':' :: digits)) = .ok ⟨a.text, n⟩ := by
  have plain := colon_not_mem_digits spells.isDigits
  unfold split
  rw [String.toList_ofList, parts_append (toList_address_ne_nil a) plain]
  dsimp only
  rw [(Text.integer_eq_ok_iff spells.isDigits).mpr ⟨n, spells, rfl⟩, String.ofList_toList]
  rfl

theorem split_written (a : V4) : split s!"{a}:53" = .ok ⟨a.text, 53⟩ := by
  have text : s!"{a}:53" = .ofList (a.text.toList ++ ':' :: ['5', '3']) := by
    rw [← String.toList_inj, String.toList_ofList]
    exact String.toList_append
  rw [text, split_endpoint a spells_default]
  rfl

theorem mapM_split_written (addresses : List V4) :
    (addresses.map fun a => s!"{a}:53").mapM split = .ok (addresses.map fun a => ⟨a.text, 53⟩) := by
  induction addresses with
  | nil => rfl
  | cons a rest ih =>
    rw [List.map_cons, List.map_cons]
    exact mapM_cons_ok_iff.mpr ⟨_, _, split_written a, ih, rfl⟩

theorem normalize_endpoint (a : V4) (spells : Text.Spells digits n) (low : 0 < n)
    (high : n < 65536) :
    normalize (.ofList (a.text.toList ++ ':' :: digits)) =
      .ok (.ofList (a.text.toList ++ ':' :: digits)) := by
  refine normalize_eq_ok_iff.mpr ⟨a, some digits, n, ?_, spells, low, high, rfl⟩
  rw [String.toList_ofList, strip_endpoint a spells.isDigits]
  exact parts_append (toList_address_ne_nil a) (colon_not_mem_digits spells.isDigits)

theorem not_endpoint_of_normalize {fault : Fault} (refused : normalize text = .error fault) :
    ¬ Endpoint text a n := by
  rintro ⟨names, low, high⟩
  obtain ⟨port, split, spells⟩ := names_iff.mp names
  cases refused.symm.trans (normalize_eq_ok_iff.mpr ⟨a, port, n, split, spells, low, high, rfl⟩)

/-- A text that is written out names one endpoint. What is written is split into it, and is written
out as it is. -/
theorem endpoint_of_normalize (ok : normalize text = .ok written) :
    ∃ a n, (∀ b m, Endpoint text b m ↔ b = a ∧ m = n) ∧ split written = .ok ⟨a.text, n⟩ ∧
      normalize written = .ok written := by
  obtain ⟨a, port, n, found, spells, low, high, rfl⟩ := normalize_eq_ok_iff.mp ok
  have names := names_iff.mpr ⟨port, found, spells⟩
  refine ⟨a, n, fun b m => ⟨fun endpoint => names.unique endpoint.1, ?_⟩,
    split_endpoint a spells, normalize_endpoint a spells low high⟩
  rintro ⟨rfl, rfl⟩
  exact ⟨names, low, high⟩

end Netboot.Forwarder
