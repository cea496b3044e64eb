import Netboot.Proofs.Keyed
import Netboot.Proofs.Result
import Netboot.Proofs.Text.Fields
import Netboot.Proofs.Text.Utf8
import Netboot.Selection

/-! What a query says: the fields that it is read as, and every way to write them. -/

set_option autoImplicit false

namespace Netboot

namespace Query

variable {bytes rest out : Bytes} {side text : List Char} {value : String}
  {pairs : List (String × String)} {key : String}

/-! ## Percent signs -/

/-- The bytes that a byte string with escapes stands for. A percent sign that no two hexadecimal
digits follow stands for itself. -/
inductive Unescapes : Bytes → Bytes → Prop
  | nil : Unescapes [] []
  | escape {a b byte : UInt8} {rest out : Bytes} (digits : hexByte? a b = some byte)
      (later : Unescapes rest out) : Unescapes (0x25 :: a :: b :: rest) (byte :: out)
  | stray {rest out : Bytes} (alone : ∀ a b more, rest = a :: b :: more → hexByte? a b = none)
      (later : Unescapes rest out) : Unescapes (0x25 :: rest) (0x25 :: out)
  | literal {byte : UInt8} {rest out : Bytes} (plain : byte ≠ 0x25) (later : Unescapes rest out) :
      Unescapes (byte :: rest) (byte :: out)

theorem unescape_of_short {byte : UInt8}
    (short : ∀ a b more, byte = 0x25 → rest = a :: b :: more → False) :
    unescape (byte :: rest) = byte :: unescape rest := by
  rw [unescape]
  exact short

theorem unescape_stray (alone : ∀ a b more, rest = a :: b :: more → hexByte? a b = none) :
    unescape (0x25 :: rest) = 0x25 :: unescape rest := by
  match rest with
  | a :: b :: more => rw [unescape, alone a b more rfl]
  | [_] => exact unescape_of_short nofun
  | [] => exact unescape_of_short nofun

theorem unescapes_iff : Unescapes bytes out ↔ unescape bytes = out := by
  constructor
  · intro unescapes
    induction unescapes with
    | nil => rw [unescape]
    | escape digits _ ih => simp only [unescape, digits, ih]
    | stray alone _ ih => rw [unescape_stray alone, ih]
    | literal plain _ ih => rw [unescape_of_short fun _ _ _ same _ => plain same, ih]
  · rintro rfl
    induction bytes using unescape.induct with
    | case1 a b rest byte digits ih =>
      simp only [unescape, digits]
      exact .escape digits ih
    | case2 a b rest none_there ih =>
      simp only [unescape, none_there]
      refine .stray (fun c d more same => ?_) ih
      cases same
      exact none_there
    | case3 byte rest short ih =>
      rw [unescape_of_short short]
      by_cases percent : byte = 0x25
      · subst percent
        exact .stray (fun a b more same => (short a b more rfl same).elim) ih
      · exact .literal percent ih
    | case4 => exact .nil

/-! ## Fields -/

/-- One side of a field is read as the text that its bytes, with their escapes replaced, encode. A
plus sign is a space. -/
def Decodes (side : List Char) (value : String) : Prop :=
  Unescapes (Text.encode (spaced side)) (Text.encode value.toList)

/-- A field is read as the two sides of its first equals sign. -/
def DecodesField (field : List Char) (pair : String × String) : Prop :=
  ∃ key value, field = key ++ '=' :: value ∧ '=' ∉ key ∧ Decodes key pair.1 ∧ Decodes value pair.2

/-- The text of a query is empty, or made of fields between ampersands. -/
def ReadsText (text : List Char) (pairs : List (String × String)) : Prop :=
  text = [] ∧ pairs = [] ∨
    ∃ fields, fields ≠ [] ∧ (∀ field ∈ fields, '&' ∉ field) ∧ text = ['&'].intercalate fields ∧
      List.Forall₂ DecodesField fields pairs

def Reads (query : Bytes) (pairs : List (String × String)) : Prop :=
  ∃ text, query = Text.encode text ∧ ReadsText text pairs

theorem component_eq_ok_iff : component side = .ok value ↔ Decodes side value := by
  rw [Decodes, unescapes_iff, ← Text.decode?_eq_some_iff]
  unfold component
  split
  next decoded found =>
    rw [found, Except.ok.injEq, Option.some.injEq, ← String.toList_inj, String.toList_ofList]
  next missing =>
    rw [missing]
    exact iff_of_false nofun nofun

theorem field_eq_ok_iff {pair : String × String} : field text = .ok pair ↔ DecodesField text pair := by
  obtain ⟨key, value⟩ := pair
  unfold field DecodesField
  cases cut : Text.cut? '=' text with
  | none =>
    refine iff_of_false nofun ?_
    rintro ⟨before, after, rfl, -⟩
    exact Text.cut?_eq_none_iff.mp cut (List.mem_append_right _ List.mem_cons_self)
  | some sides =>
    obtain ⟨before, after⟩ := sides
    dsimp only
    constructor
    · intro read
      obtain ⟨k, first, read⟩ := ok_of_bind read
      obtain ⟨v, second, read⟩ := ok_of_bind read
      cases read
      obtain ⟨same, absent⟩ := Text.cut?_eq_some_iff.mp cut
      exact ⟨before, after, same, absent, component_eq_ok_iff.mp first,
        component_eq_ok_iff.mp second⟩
    · rintro ⟨front, back, same, absent, first, second⟩
      cases cut.symm.trans (Text.cut?_eq_some_iff.mpr ⟨same, absent⟩)
      rw [component_eq_ok_iff.mpr first, component_eq_ok_iff.mpr second]
      rfl

theorem not_decodesField_nil {pair : String × String} : ¬ DecodesField [] pair := by
  rintro ⟨key, value, same, -⟩
  exact List.append_ne_nil_of_right_ne_nil key (List.cons_ne_nil _ _) same.symm

theorem pairsOfChars_eq_ok_iff : pairsOfChars text = .ok pairs ↔ ReadsText text pairs := by
  have split : (Text.fields '&' text).mapM field = .ok pairs ↔
      List.Forall₂ DecodesField (Text.fields '&' text) pairs := by
    simp only [mapM_eq_ok_iff, field_eq_ok_iff]
  unfold pairsOfChars ReadsText
  constructor
  · intro read
    split at read
    next empty => exact .inl ⟨List.isEmpty_iff.mp empty, (Except.ok.inj read).symm⟩
    next =>
      exact .inr ⟨Text.fields '&' text, Text.fields_ne_nil text,
        fun field => Text.not_mem_of_mem_fields, (Text.intercalate_fields '&' text).symm,
        split.mp read⟩
  · rintro (⟨rfl, rfl⟩ | ⟨parts, given, absent, same, each⟩)
    · rfl
    · have fields : Text.fields '&' text = parts := same ▸ Text.fields_intercalate given absent
      have filled : ¬ text.isEmpty = true := by
        intro empty
        rw [List.isEmpty_iff.mp empty] at fields
        rw [← fields] at each
        cases each with
        | cons first => exact not_decodesField_nil first
      rw [if_neg filled]
      exact split.mpr (fields ▸ each)

theorem pairs_eq_ok_iff {query : Bytes} : Query.pairs query = .ok pairs ↔ Reads query pairs := by
  unfold Query.pairs Reads
  simp only [← Text.decode?_eq_some_iff, ← pairsOfChars_eq_ok_iff]
  cases Text.decode? query with
  | some text => simp only [Option.some.injEq, exists_eq_left']
  | none => exact iff_of_false nofun nofun

/-! ## Values -/

/-- The value of the last pair with the key, or none. -/
def IsLast (pairs : List (String × String)) (key value : String) : Prop :=
  (∃ front back, pairs = front ++ (key, value) :: back ∧ ∀ pair ∈ back, pair.1 ≠ key) ∨
    value = "" ∧ ∀ pair ∈ pairs, pair.1 ≠ key

theorem isLast_iff : IsLast pairs key value ↔ lastValue pairs key = value := by
  have last (v : String) : pairs.reverse.lookup key = some v ↔
      ∃ front back, pairs = front ++ (key, v) :: back ∧ ∀ pair ∈ back, pair.1 ≠ key := by
    rw [List.lookup_eq_some_iff]
    constructor
    · rintro ⟨back, front, same, absent⟩
      refine ⟨front.reverse, back.reverse, ?_, fun pair member => ?_⟩
      · rw [← List.reverse_inj, same]
        simp
      · exact (bne_iff_ne.mp (absent pair (List.mem_reverse.mp member))).symm
    · rintro ⟨front, back, rfl, absent⟩
      refine ⟨back.reverse, front.reverse, by simp, fun pair member => ?_⟩
      exact bne_iff_ne.mpr (absent pair (List.mem_reverse.mp member)).symm
  have missing : pairs.reverse.lookup key = none ↔ ∀ pair ∈ pairs, pair.1 ≠ key := by
    rw [List.lookup_eq_none_iff]
    simp only [List.mem_reverse, bne_iff_ne, ne_comm]
  rw [IsLast, ← last, ← missing, lastValue]
  cases pairs.reverse.lookup key with
  | some v => simp
  | none => simp [eq_comm]

/-! ## Writing -/

inductive Escapes : Bytes → List Char → Prop
  | nil : Escapes [] []
  | cons {byte : UInt8} {bytes : Bytes} {high low : Char} {code : List Char}
      (first : Text.hexValue? high = some (byte.toNat / 16))
      (second : Text.hexValue? low = some (byte.toNat % 16)) (later : Escapes bytes code) :
      Escapes (byte :: bytes) ('%' :: high :: low :: code)

/-- The characters that a query gives a meaning of its own. No unreserved one is among them. -/
def marks : List Char := ['%', '+', '&', '=']

/-- A way to write a text: each character as it is, as a plus sign for a space, or as the escapes of
its bytes. -/
inductive Writes : List Char → List Char → Prop
  | nil : Writes [] []
  | literal {c : Char} {text code : List Char} (plain : c ∉ marks) (later : Writes text code) :
      Writes (c :: text) (c :: code)
  | space {text code : List Char} (later : Writes text code) : Writes (' ' :: text) ('+' :: code)
  | escaped {c : Char} {text front code : List Char} (escapes : Escapes (Text.encodeChar c) front)
      (later : Writes text code) : Writes (c :: text) (front ++ code)

def WritesField (pair : String × String) (field : List Char) : Prop :=
  ∃ key value, Writes pair.1.toList key ∧ Writes pair.2.toList value ∧ field = key ++ '=' :: value

theorem writes_self (plain : text.all (· ∉ marks)) : Writes text text := by
  induction text with
  | nil => exact .nil
  | cons c rest ih =>
    rw [List.all_cons, Bool.and_eq_true, decide_eq_true_eq] at plain
    exact .literal plain.1 (ih plain.2)

theorem hexValue?_ne {c mark : Char} {n : Nat} (digit : Text.hexValue? c = some n)
    (other : Text.hexValue? mark = none) : c ≠ mark := by
  rintro rfl
  cases digit.symm.trans other

theorem encode_of_hexValue? {c : Char} {n : Nat} (digit : Text.hexValue? c = some n) :
    ∃ byte, Text.encodeChar c = [byte] ∧ Text.hexValue? (Char.ofNat byte.toNat) = some n := by
  have ascii := Text.toNat_of_hexValue? digit
  refine ⟨.ofNat c.toNat, Text.encodeChar_one ascii, ?_⟩
  rw [Text.toNat_byteOfNat (by omega), Char.ofNat_toNat, digit]

theorem spaced_cons {c : Char} (other : c ≠ '+') (rest : List Char) :
    spaced (c :: rest) = c :: spaced rest := by
  rw [spaced, List.map_cons, if_neg other]
  rfl

theorem Escapes.unescapes {code rest : List Char} (escapes : Escapes bytes code)
    (later : Unescapes (Text.encode (spaced rest)) out) :
    Unescapes (Text.encode (spaced (code ++ rest))) (bytes ++ out) := by
  induction escapes with
  | nil => exact later
  | @cons byte bytes high low code first second _ ih =>
    obtain ⟨a, firstByte, firstValue⟩ := encode_of_hexValue? first
    obtain ⟨b, secondByte, secondValue⟩ := encode_of_hexValue? second
    have digits : hexByte? a b = some byte := by
      rw [hexByte?, firstValue, secondValue]
      exact congrArg some (Text.byteOfNat_eq (by omega))
    have coded : Text.encode (spaced ('%' :: high :: low :: code ++ rest)) =
        0x25 :: a :: b :: Text.encode (spaced (code ++ rest)) := by
      rw [List.cons_append, List.cons_append, List.cons_append, spaced_cons (by decide),
        spaced_cons (hexValue?_ne first (by decide)), spaced_cons (hexValue?_ne second (by decide)),
        Text.encode_cons, Text.encode_cons, Text.encode_cons, firstByte, secondByte]
      rfl
    rw [coded]
    exact .escape digits ih

theorem unescapes_literal {front : Bytes} (plain : ∀ byte ∈ front, byte ≠ 0x25)
    (later : Unescapes rest out) : Unescapes (front ++ rest) (front ++ out) := by
  induction front with
  | nil => exact later
  | cons byte front ih =>
    exact .literal (plain byte List.mem_cons_self) (ih fun b member => plain b (.tail _ member))

theorem percent_not_mem_encodeChar {c : Char} (other : c ≠ '%') :
    ∀ byte ∈ Text.encodeChar c, byte ≠ 0x25 := by
  rintro _ member rfl
  by_cases ascii : c.toNat < 0x80
  · rw [Text.encodeChar_one ascii, List.mem_singleton] at member
    have value := congrArg UInt8.toNat member
    rw [Text.toNat_byteOfNat (by omega)] at value
    exact other (Char.toNat_inj.mp value.symm)
  · exact absurd (Text.le_of_mem_encodeChar (Nat.le_of_not_lt ascii) member) (by decide)

theorem Writes.unescapes {code : List Char} (writes : Writes text code) :
    Unescapes (Text.encode (spaced code)) (Text.encode text) := by
  induction writes with
  | nil => exact .nil
  | @literal c text code plain _ ih =>
    have percent : c ≠ '%' := fun same => plain (same ▸ by decide)
    have plus : c ≠ '+' := fun same => plain (same ▸ by decide)
    rw [spaced_cons plus, Text.encode_cons, Text.encode_cons]
    exact unescapes_literal (percent_not_mem_encodeChar percent) ih
  | space _ ih => exact unescapes_literal (percent_not_mem_encodeChar (by decide)) ih
  | escaped escapes _ ih =>
    rw [Text.encode_cons]
    exact escapes.unescapes ih

theorem Escapes.not_mem {code : List Char} {mark : Char} (escapes : Escapes bytes code)
    (percent : mark ≠ '%') (other : Text.hexValue? mark = none) : mark ∉ code := by
  induction escapes with
  | nil => exact List.not_mem_nil
  | cons first second _ ih =>
    simp only [List.mem_cons, not_or]
    exact ⟨percent, (hexValue?_ne first other).symm, (hexValue?_ne second other).symm, ih⟩

/-- What is written holds no mark between sides or fields. -/
theorem Writes.not_mem {code : List Char} {mark : Char} (writes : Writes text code)
    (between : mark = '&' ∨ mark = '=') : mark ∉ code := by
  have known : mark ∈ marks ∧ mark ≠ '+' ∧ mark ≠ '%' ∧ Text.hexValue? mark = none := by
    obtain rfl | rfl := between <;> decide
  obtain ⟨listed, plus, percent, other⟩ := known
  induction writes with
  | nil => exact List.not_mem_nil
  | literal plain _ ih =>
    rw [List.mem_cons, not_or]
    exact ⟨fun same => plain (same ▸ listed), ih⟩
  | space _ ih =>
    rw [List.mem_cons, not_or]
    exact ⟨plus, ih⟩
  | escaped escapes _ ih =>
    rw [List.mem_append, not_or]
    exact ⟨escapes.not_mem percent other, ih⟩

theorem WritesField.decodesField {pair : String × String} {code : List Char}
    (writes : WritesField pair code) : '&' ∉ code ∧ DecodesField code pair := by
  obtain ⟨key, value, first, second, rfl⟩ := writes
  refine ⟨?_, key, value, rfl, first.not_mem (.inr rfl), first.unescapes, second.unescapes⟩
  rw [List.mem_append, List.mem_cons, not_or, not_or]
  exact ⟨first.not_mem (.inl rfl), by decide, second.not_mem (.inl rfl)⟩

theorem reads_of_writes {codes : List (List Char)} (writes : List.Forall₂ WritesField pairs codes) :
    Reads (Text.encode (['&'].intercalate codes)) pairs := by
  have each : List.Forall₂ (fun code pair => '&' ∉ code ∧ DecodesField code pair) codes pairs :=
    List.Forall₂.flip (writes.imp fun _ _ => WritesField.decodesField)
  obtain ⟨absent, decodes⟩ := (List.forall₂_and_left codes pairs).mp each
  refine ⟨_, rfl, ?_⟩
  cases codes with
  | nil =>
    cases writes
    exact .inl ⟨rfl, rfl⟩
  | cons code more => exact .inr ⟨code :: more, List.cons_ne_nil _ _, absent, rfl, decodes⟩

def IsPlain (text : String) : Prop := text.toList.all (· ∉ marks)

instance (text : String) : Decidable (IsPlain text) := inferInstanceAs (Decidable (_ = true))

def plainField (pair : String × String) : List Char := pair.1.toList ++ '=' :: pair.2.toList

theorem reads_plain (plain : ∀ pair ∈ pairs, IsPlain pair.1 ∧ IsPlain pair.2) :
    Reads (Text.encode (['&'].intercalate (pairs.map plainField))) pairs := by
  refine reads_of_writes (List.forall₂_map_right_iff.mpr (List.forall₂_same.mpr ?_))
  intro pair member
  obtain ⟨key, value⟩ := plain pair member
  exact ⟨_, _, writes_self key, writes_self value, rfl⟩

theorem pairs_encode (text : List Char) : Query.pairs (Text.encode text) = pairsOfChars text := by
  rw [Query.pairs, Text.decode?_eq_some_iff.mpr rfl]

end Query

namespace Selection

variable {pairs : List (String × String)}

/-- What the pairs of a query say about a machine. -/
structure Describes (pairs : List (String × String)) (selection : Selection) : Prop where
  uuid : Query.IsLast pairs "uuid" selection.uuid
  mac : Query.IsLast pairs "mac" selection.mac
  ip : Query.IsLast pairs "ip" selection.ip
  hostname : Query.IsLast pairs "hostname" selection.hostname
  serial : Query.IsLast pairs "serial" selection.serial
  domain : Query.IsLast pairs "domain" selection.domain
  role : ∃ named, Query.IsLast pairs "type" named ∧ ∀ role ≠ .unknown,
    selection.role = role ↔ Text.lower (Text.strip named.toList) = role.name.toList

theorem role_of_parse (named : String) {role : Role} (known : role ≠ .unknown) :
    Role.parse named = role ↔ Text.lower (Text.strip named.toList) = role.name.toList := by
  have folded : Text.lower (Text.strip named.toList) = role.name.toList ↔
      String.ofList (Text.lower (Text.strip named.toList)) = role.name := by
    rw [← String.toList_inj, String.toList_ofList]
  rw [folded, Role.parse]
  split
  case h_4 init controlplane worker =>
    refine iff_of_false known.symm fun same => ?_
    cases role
    · exact init same
    · exact controlplane same
    · exact worker same
    · exact known rfl
  all_goals
    next same =>
      rw [same]
      cases role <;> decide

theorem parse_name (role : Role) : Role.parse role.name = role := by
  cases role <;> decide

theorem role_ofPairs (pairs : List (String × String)) :
    (ofPairs pairs).role = Role.parse (Query.lastValue pairs "type") := by
  simp only [ofPairs]

theorem describes_ofPairs (pairs : List (String × String)) : Describes pairs (ofPairs pairs) where
  uuid := Query.isLast_iff.mpr rfl
  mac := Query.isLast_iff.mpr rfl
  ip := Query.isLast_iff.mpr rfl
  hostname := Query.isLast_iff.mpr rfl
  serial := Query.isLast_iff.mpr rfl
  domain := Query.isLast_iff.mpr rfl
  role := by
    refine ⟨Query.lastValue pairs "type", Query.isLast_iff.mpr rfl, fun role known => ?_⟩
    rw [role_ofPairs]
    exact role_of_parse _ known

theorem ofQuery_eq_ok_iff {query : Bytes} {selection : Selection} :
    ofQuery query = .ok selection ↔
      ∃ pairs, Query.Reads query pairs ∧ selection = ofPairs pairs := by
  unfold ofQuery
  simp only [← Query.pairs_eq_ok_iff]
  cases Query.pairs query with
  | error fault => exact iff_of_false nofun nofun
  | ok pairs => simp [Except.map, eq_comm]

/-- A query is accepted exactly where it is read as a list of pairs, and the selection is what the
last pair of each key says. However a list of pairs is written, with any escapes, that is the list
that the query is read as. -/
theorem ofQuery_decodes :
    (∀ query, match ofQuery query with
      | .ok selection => ∃ pairs, Query.Reads query pairs ∧ Describes pairs selection
      | .error _ => ∀ pairs, ¬ Query.Reads query pairs) ∧
    ∀ pairs codes, List.Forall₂ Query.WritesField pairs codes →
      ∃ selection, ofQuery (Text.encode (['&'].intercalate codes)) = .ok selection ∧
        Describes pairs selection := by
  refine ⟨fun query => ?_, fun pairs codes writes => ?_⟩
  · split
    next selection read =>
      obtain ⟨pairs, reads, rfl⟩ := ofQuery_eq_ok_iff.mp read
      exact ⟨pairs, reads, describes_ofPairs pairs⟩
    next fault refused =>
      intro pairs reads
      cases refused.symm.trans (ofQuery_eq_ok_iff.mpr ⟨pairs, reads, rfl⟩)
  · exact ⟨_, ofQuery_eq_ok_iff.mpr ⟨pairs, Query.reads_of_writes writes, rfl⟩,
      describes_ofPairs pairs⟩

/-- Two fields with escapes in either case, a plus sign, and characters as they are. -/
theorem ofQuery_decodes_of_escapes :
    List.Forall₂ Query.WritesField [("hostname", "é b"), ("type", "init")]
      ["hostname=%c3%A9+b".toList, "t%79pe=init".toList] ∧
    ∃ selection, ofQuery (.ofString "hostname=%c3%A9+b&t%79pe=init") = .ok selection ∧
      selection.hostname = "é b" ∧ selection.role = .init := by
  have accent : Query.Escapes (Text.encodeChar 'é') ['%', 'c', '3', '%', 'A', '9'] :=
    .cons (by decide) (by decide) (.cons (by decide) (by decide) .nil)
  have letter : Query.Escapes (Text.encodeChar 'y') ['%', '7', '9'] :=
    .cons (by decide) (by decide) .nil
  have hostname : Query.Writes "é b".toList "%c3%A9+b".toList :=
    .escaped accent (.space (.literal (by decide) .nil))
  have type : Query.Writes "type".toList "t%79pe".toList :=
    .literal (by decide) (.escaped letter (.literal (by decide) (.literal (by decide) .nil)))
  have writes : List.Forall₂ Query.WritesField [("hostname", "é b"), ("type", "init")]
      ["hostname=%c3%A9+b".toList, "t%79pe=init".toList] :=
    .cons ⟨_, _, Query.writes_self (by decide), hostname, rfl⟩
      (.cons ⟨_, _, type, Query.writes_self (by decide), rfl⟩ .nil)
  obtain ⟨selection, read, describes⟩ := ofQuery_decodes.2 _ _ writes
  refine ⟨writes, selection, read, (Query.isLast_iff.mp describes.hostname).symm, ?_⟩
  obtain ⟨named, last, role⟩ := describes.role
  obtain rfl : "init" = named := Query.isLast_iff.mp last
  exact (role .init (by decide)).mpr (by decide)

end Selection

end Netboot
