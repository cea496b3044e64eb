import Netboot.Proofs.Address.Text
import Netboot.Proofs.Address.V6
import Netboot.Proofs.Dns.Gathering
import Netboot.Proofs.Text.Bytes

/-! Addresses as the data of records: what the store lists is read back from its texts. -/

set_option autoImplicit false

namespace Netboot.Dns

namespace ZoneText

def IsPlain (c : Char) : Prop := isDelimiter c = false ∧ c ≠ '\\'

theorem enter_of_isPlain {setting : Setting} {c : Char} (plain : IsPlain c) :
    enter setting c = .ok (setting, .word [c]) := by
  obtain ⟨depth, glued⟩ := setting
  obtain ⟨delimits, escapes⟩ := plain
  obtain ⟨space, mark⟩ := Bool.or_eq_false_iff.mp delimits
  have unbroken : isLineBreak c = false := (Bool.or_eq_false_iff.mp space).2
  have marks : c ≠ ';' ∧ c ≠ '(' ∧ c ≠ ')' ∧ c ≠ '"' := by simpa using mark
  unfold enter
  dsimp only
  split
  case h_6 => simp [unbroken, space]
  all_goals simp_all

theorem lex_word_append {done front : List Char} (plain : ∀ c ∈ front, IsPlain c)
    (rest : List Char) :
    lex {} (.word done) (front ++ rest) = lex {} (.word (front.reverse ++ done)) rest := by
  induction front generalizing done with
  | nil => rfl
  | cons c others ih =>
    obtain ⟨delimits, escapes⟩ := plain c List.mem_cons_self
    rw [List.cons_append, lex, if_neg escapes, delimits, if_neg Bool.false_ne_true,
      ih fun d member => plain d (.tail _ member), List.reverse_cons, List.append_assoc]
    rfl

theorem tokens_append {text : String} {front rest : List Char} (chars : text.toList = front ++ rest)
    (given : front ≠ []) (plain : ∀ c ∈ front, IsPlain c) :
    tokens text = lex {} (.word front.reverse) rest := by
  cases front with
  | nil => contradiction
  | cons c others =>
    rw [tokens, chars, List.cons_append, lex, enter_of_isPlain (plain c List.mem_cons_self)]
    dsimp only
    rw [lex_word_append fun d member => plain d (.tail _ member), List.reverse_cons]

theorem tokens_of_isPlain {text : String} (given : text.isEmpty = false)
    (plain : ∀ c ∈ text.toList, IsPlain c) : tokens text = [.word text.toList, .stop] := by
  have some : text.toList ≠ [] := fun none => by
    simp [String.toList_eq_nil_iff.mp none] at given
  rw [tokens_append (List.append_nil _).symm some plain]
  simp [lex, Setting.finish]

theorem unescapeChars_append {front : List Char} (plain : ∀ c ∈ front, IsPlain c)
    (rest : List Char) : unescapeChars (front ++ rest) = (unescapeChars rest).map (front ++ ·) := by
  induction front with
  | nil =>
    rw [List.nil_append]
    cases unescapeChars rest <;> rfl
  | cons c others ih =>
    have escapes := (plain c List.mem_cons_self).2
    have later := ih fun d member => plain d (.tail _ member)
    rw [unescapeChars] at later ⊢
    rw [List.cons_append, unescape, later]
    · cases unescape _ _ rest <;> rfl
    · exact fun same => absurd same escapes
    · exact fun _ _ same => absurd same escapes

theorem unescapeChars_of_isPlain {text : List Char} (plain : ∀ c ∈ text, IsPlain c) :
    unescapeChars text = .ok text := by
  have whole := unescapeChars_append plain []
  rw [List.append_nil] at whole
  rw [whole, unescapeChars, unescape]
  exact congrArg Except.ok (List.append_nil text)

def Opens (tokens : List Token) (front : List Char) : Prop :=
  ∃ token others, tokens = token :: others ∧
    ((∃ cause, token = .fault cause) ∨ ∃ more, token = .word (front ++ more))

theorem Opens.shorter {tokens : List Token} {front more : List Char}
    (opens : Opens tokens (front ++ more)) : Opens tokens front := by
  obtain ⟨token, others, same, kind⟩ := opens
  refine ⟨token, others, same, kind.imp_right ?_⟩
  rintro ⟨further, rfl⟩
  exact ⟨more ++ further, by rw [List.append_assoc]⟩

theorem opens_lex (setting : Setting) (done rest : List Char) :
    Opens (lex setting (.word done) rest) done.reverse ∧
      Opens (lex setting (.wordEscape done) rest) done.reverse := by
  -- The word goes on as long as its characters are neither delimiters nor the end.
  induction rest generalizing done with
  | nil =>
    rw [lex, lex]
    exact ⟨⟨_, _, rfl, .inr ⟨[], by rw [List.append_nil]⟩⟩, _, _, rfl, .inl ⟨_, rfl⟩⟩
  | cons c rest ih =>
    obtain ⟨word, escape⟩ := ih (c :: done)
    rw [List.reverse_cons] at word escape
    rw [lex, lex]
    constructor
    · split
      · exact escape.shorter
      · split
        · exact ⟨_, _, rfl, .inr ⟨[], by rw [List.append_nil]⟩⟩
        · exact word.shorter
    · split
      · exact ⟨_, _, rfl, .inl ⟨_, rfl⟩⟩
      · exact word.shorter

theorem isPlain_of_isDigit {c : Char} (digit : c.isDigit = true) : IsPlain c := by
  have other : ∀ d : Char, d.isDigit = false → c ≠ d := by
    rintro d outside rfl
    rw [digit] at outside
    cases outside
  constructor
  · simp [isDelimiter, isSpace, isLineBreak, other]
  · exact other _ (by decide)

theorem isPlain_of_mem_v4 {a : V4} {c : Char} (member : c ∈ a.text.toList) : IsPlain c := by
  obtain digit | rfl := V4.isDigit_or_eq_of_mem_text member
  · exact isPlain_of_isDigit digit
  · exact ⟨by decide, by decide⟩

theorem isPlain_of_isHex {c : Char} (hex : V6.IsHex c) : IsPlain c := by
  have all : ∀ n : Fin 16, isDelimiter (Nat.digitChar n) = false ∧ Nat.digitChar n ≠ '\\' := by
    decide
  obtain ⟨n, rfl⟩ := hex
  exact all n

theorem isPlain_of_mem_v6 {groups : List Nat} {c : Char} (member : c ∈ V6.shortened groups) :
    IsPlain c := by
  obtain hex | rfl := V6.isHex_or_eq_of_mem_shortened member
  · exact isPlain_of_isHex hex
  · exact ⟨by decide, by decide⟩

theorem identifier_word {text chars : List Char} {rest : List Token} {sound : Bool}
    (read : unescapeChars text = .ok chars) :
    identifier ⟨.word text :: rest, sound⟩ = .ok (chars, ⟨rest, sound⟩) := by
  change (do let chars ← unescapeChars text; pure (chars, (⟨rest, sound⟩ : State))) = _
  rw [read]
  rfl

theorem identifier_of_opens {tokens : List Token} {front : List Char} (opens : Opens tokens front)
    (plain : ∀ c ∈ front, IsPlain c) (sound : Bool) :
    (∃ cause, identifier ⟨tokens, sound⟩ = .error cause) ∨
      ∃ more state, identifier ⟨tokens, sound⟩ = .ok (front ++ more, state) := by
  obtain ⟨token, others, rfl, ⟨cause, rfl⟩ | ⟨more, rfl⟩⟩ := opens
  · exact .inl ⟨cause, rfl⟩
  · have read := unescapeChars_append plain more
    cases unescaped : unescapeChars more with
    | error cause =>
      rw [unescaped] at read
      refine .inl ⟨cause, ?_⟩
      change (do let chars ← unescapeChars (front ++ more); pure (chars, (⟨others, sound⟩ : State)))
        = _
      rw [read]
      rfl
    | ok chars =>
      rw [unescaped] at read
      exact .inr ⟨chars, _, identifier_word read⟩

theorem append_ne_opaqueMark {front : List Char} (given : front ≠ [])
    (plain : ∀ c ∈ front, IsPlain c) (rest : List Char) : front ++ rest ≠ opaqueMark := by
  cases front with
  | nil => contradiction
  | cons c others =>
    intro same
    exact (plain c List.mem_cons_self).2 (List.cons.inj same).1

theorem address4_v4 (a : V4) : address4 a.text.toList = .ok a.toBytes := by
  rw [address4, String.ofList_toList, V4.parse?_text]
  rfl

theorem address6_v6 {a : V6} (unzoned : a.zone = none) :
    address6 a.text.toList = .ok a.toBytes := by
  rw [address6, String.ofList_toList, V6.parse?_text unzoned, Option.filter_some, unzoned]
  rfl

/-- No address with a zone is the data of a record. -/
theorem address6_of_marked {text : List Char} (marked : '%' ∈ text) :
    address6 text = .error .malformed := by
  have none : (V6.parse? (.ofList text)).filter (·.zone.isNone) = none := by
    rw [Option.filter_eq_none_iff]
    intro a parsed unzoned
    have zoned := V6.zone_of_parse? (by simpa using marked) parsed
    rw [Option.isNone_iff_eq_none.mp unzoned] at zoned
    cases zoned
  rw [address6, none]
  rfl

end ZoneText

namespace Rdata

def ofContent (content : Bytes) : Rdata := [.bytes content]

theorem same_ofContent {a b : Bytes} : (ofContent a).same (ofContent b) = true ↔ a = b := by
  simp [same, ofContent, Part.key]

def ofV4 (a : V4) : Rdata := [.bytes a.toBytes]

def ofV6 (a : V6) : Rdata := [.bytes a.toBytes]

theorem ofText_word {type : Nat} {f : Field} {text : String} {content : Bytes}
    (layout : layout? internet type = some [f]) (given : text.isEmpty = false)
    (plain : ∀ c ∈ text.toList, ZoneText.IsPlain c)
    (fielded : ∀ rest, ZoneText.field f ⟨.word text.toList :: rest, true⟩ =
      .ok (ofContent content, ⟨rest, true⟩))
    (sound : isSound type (ofContent content) = true) :
    ofText type text = .ok (ofContent content) := by
  have some : text.toList ≠ [] := fun none => by
    simp [String.toList_eq_nil_iff.mp none] at given
  have unmarked := ZoneText.append_ne_opaqueMark some plain []
  rw [List.append_nil] at unmarked
  have recorded (rest : List ZoneText.Token) :
      ZoneText.record type [f] ⟨.word text.toList :: rest, true⟩ =
        .ok (ofContent content, ⟨rest, true⟩) := by
    have flat : [ofContent content].flatten = ofContent content := rfl
    have whole : [f].mapM ZoneText.field ⟨.word text.toList :: rest, true⟩ =
        .ok ([ofContent content], ⟨rest, true⟩) := by
      rw [List.mapM_cons]
      simp only [bind, StateT.bind, fielded, Except.bind]
      rfl
    rw [ZoneText.record]
    simp only [bind, StateT.bind, whole, Except.bind, flat, sound]
    rfl
  rw [ofText, ZoneText.tokens_of_isPlain given plain, layout]
  simp only [List.head?_cons, Option.some.injEq, ZoneText.Token.word.injEq, if_neg unmarked, bind,
    StateT.bind, recorded]
  rfl

theorem ofText_v4 (a : V4) : ofText RecordType.a a.text = .ok (ofV4 a) := by
  have plain : ∀ c ∈ a.text.toList, ZoneText.IsPlain c := fun _ => ZoneText.isPlain_of_mem_v4
  refine ofText_word (f := .address4) rfl (V4.text_isEmpty a) plain (fun rest => ?_) rfl
  simp only [ZoneText.field, ZoneText.bytesField, bind, StateT.bind,
    ZoneText.identifier_word (ZoneText.unescapeChars_of_isPlain plain), Except.bind,
    ZoneText.address4_v4]
  rfl

theorem ofText_v6 {a : V6} (unzoned : a.zone = none) :
    ofText RecordType.aaaa a.text = .ok (ofV6 a) := by
  have chars : a.text.toList = V6.shortened a.groups := by simp [V6.toList_text, unzoned]
  have plain : ∀ c ∈ a.text.toList, ZoneText.IsPlain c := fun c member =>
    ZoneText.isPlain_of_mem_v6 (chars ▸ member)
  have given : a.text.isEmpty = false := by
    rw [Bool.eq_false_iff, ne_eq, String.isEmpty_iff]
    intro empty
    have read := V6.parse?_text unzoned
    rw [empty] at read
    have unread : V6.parse? "" = none := by decide
    cases read.symm.trans unread
  refine ofText_word (f := .address6) rfl given plain (fun rest => ?_) rfl
  simp only [ZoneText.field, ZoneText.bytesField, bind, StateT.bind,
    ZoneText.identifier_word (ZoneText.unescapeChars_of_isPlain plain), Except.bind,
    ZoneText.address6_v6 unzoned]
  rfl

section
variable {text : String} {tokens : List ZoneText.Token} {front rest : List Char}

theorem record_of_marked (opens : ZoneText.Opens tokens front)
    (plain : ∀ c ∈ front, ZoneText.IsPlain c) (marked : '%' ∈ front) :
    ∃ fault, ZoneText.record RecordType.aaaa [.address6] ⟨tokens, true⟩ = .error fault := by
  obtain ⟨cause, unread⟩ | ⟨more, state, read⟩ := ZoneText.identifier_of_opens opens plain true
  · refine ⟨cause, ?_⟩
    simp only [ZoneText.record, List.mapM_cons, ZoneText.field, ZoneText.bytesField, bind,
      StateT.bind, unread, Except.bind]
  · have refused := ZoneText.address6_of_marked (List.mem_append_left more marked)
    refine ⟨.malformed, ?_⟩
    simp only [ZoneText.record, List.mapM_cons, ZoneText.field, ZoneText.bytesField, bind,
      StateT.bind, read, Except.bind, refused]
    rfl

theorem ofText_of_marked (chars : text.toList = front ++ rest)
    (plain : ∀ c ∈ front, ZoneText.IsPlain c) (marked : '%' ∈ front) :
    ∃ fault, ofText RecordType.aaaa text = .error fault := by
  have given : front ≠ [] := List.ne_nil_of_mem marked
  have opens : ZoneText.Opens (ZoneText.tokens text) front := by
    have opened := (ZoneText.opens_lex {} front.reverse rest).1
    rw [List.reverse_reverse] at opened
    rwa [ZoneText.tokens_append chars given plain]
  have unmarked : (ZoneText.tokens text).head? ≠ some (.word ZoneText.opaqueMark) := by
    obtain ⟨token, others, same, ⟨cause, rfl⟩ | ⟨more, rfl⟩⟩ := opens
    · rw [same]
      exact nofun
    · rw [same]
      exact fun word => ZoneText.append_ne_opaqueMark given plain more
        (ZoneText.Token.word.inj (Option.some.inj word))
  obtain ⟨fault, refused⟩ := record_of_marked opens plain marked
  have layout : layout? internet RecordType.aaaa = some [.address6] := rfl
  refine ⟨fault, ?_⟩
  rw [ofText, layout]
  simp only [if_neg unmarked, bind, StateT.bind, refused]
  rfl

end

/-- An address with a zone has a text that is not read as the data of a record. -/
theorem ofText_zoned {a : V6} {zone : String} (zoned : a.zone = some zone) :
    ∃ fault, ofText RecordType.aaaa a.text = .error fault := by
  have chars : a.text.toList = (V6.shortened a.groups ++ ['%']) ++ zone.toList := by
    simp [V6.toList_text, zoned, String.toList_append]
  refine ofText_of_marked chars (fun c member => ?_) (List.mem_append_right _ List.mem_cons_self)
  obtain early | last := List.mem_append.mp member
  · exact ZoneText.isPlain_of_mem_v6 early
  · rw [List.mem_singleton.mp last]
    exact ⟨by decide, by decide⟩

end Rdata

def RecordSet.ofContents (name : Name) (type : Nat) (ttl : Int) (contents : List Bytes) :
    RecordSet where
  name := name
  type := type
  rdclass := internet
  ttl := ttl
  data := contents.map Rdata.ofContent

def RecordSet.ofV4s (name : Name) (ttl : Int) (addresses : List V4) : RecordSet where
  name := name
  type := RecordType.a
  rdclass := internet
  ttl := ttl
  data := addresses.map Rdata.ofV4

theorem RecordSet.ofV4s_eq (name : Name) (ttl : Int) (addresses : List V4) :
    ofV4s name ttl addresses = ofContents name RecordType.a ttl (addresses.map V4.toBytes) := by
  rw [ofV4s, ofContents, List.map_map]
  rfl

def RecordType.IsAddress (type : Nat) : Prop := type = a ∨ type = aaaa

instance (type : Nat) : Decidable (RecordType.IsAddress type) := inferInstanceAs (Decidable (_ ∨ _))

theorem RecordSet.gathered_contents {type : Nat} (addressed : RecordType.IsAddress type)
    {contents : List Bytes} (distinct : contents.Nodup) :
    gathered type (contents.map Rdata.ofContent) = contents.map Rdata.ofContent := by
  have several : RecordType.singletons.contains type = false := by
    obtain rfl | rfl := addressed <;> rfl
  induction contents using List.reverseRecOn with
  | nil => rfl
  | append_singleton earlier last ih =>
    obtain ⟨before, -, apart⟩ := List.nodup_append.mp distinct
    have fresh : (earlier.map Rdata.ofContent).any (·.same (.ofContent last)) = false := by
      rw [List.any_eq_false]
      intro data member same
      obtain ⟨content, listed, rfl⟩ := List.mem_map.mp member
      exact apart content listed last List.mem_cons_self (Rdata.same_ofContent.mp same)
    have step := ih before
    rw [gathered] at step ⊢
    rw [List.map_append, List.foldl_append, step, List.map_singleton, List.foldl_cons,
      List.foldl_nil, gather, several, if_neg Bool.false_ne_true, fresh, if_neg Bool.false_ne_true]

namespace Responder

section
variable {α : Type} {text : α → String} {bytes : α → Bytes} {values : List α}

theorem recordsOf_contents (responder : Responder) (question : Question)
    (addressed : RecordType.IsAddress question.type)
    (read : ∀ v ∈ values, Rdata.ofText question.type (text v) = .ok (.ofContent (bytes v)))
    (distinct : (values.map bytes).Nodup) :
    responder.recordsOf question (values.map text) =
      .ok (.ofContents question.name question.type responder.ttl (values.map bytes)) := by
  by_cases none : values = []
  · rw [none]
    rfl
  have some : values.map text ≠ [] := by simpa using none
  have whole : (values.map text).mapM (Rdata.ofText question.type) =
      .ok ((values.map bytes).map Rdata.ofContent) := by
    rw [List.mapM_map, List.map_map]
    exact mapM_of_ok read
  -- Addresses cover no other type.
  have covers : ∀ data ∈ (values.map bytes).map Rdata.ofContent, data.covers question.type = 0 := by
    intro data member
    obtain ⟨content, -, rfl⟩ := List.mem_map.mp member
    obtain type | type := addressed <;> rw [type] <;> rfl
  refine (recordsOf_ok_iff responder question some).mpr ⟨_, 0, whole, covers, ?_⟩
  rw [RecordSet.gathered_contents addressed distinct]
  rfl

theorem recordsOf_of_unread (responder : Responder) (question : Question) {v : α}
    (member : v ∈ values) {cause : ZoneText.Fault}
    (unread : Rdata.ofText question.type (text v) = .error cause) :
    ∃ fault, responder.recordsOf question (values.map text) = .error fault := by
  have listed := List.mem_map_of_mem member (f := text)
  cases made : responder.recordsOf question (values.map text) with
  | error fault => exact ⟨fault, rfl⟩
  | ok records =>
    obtain ⟨list, -, read, -⟩ :=
      (recordsOf_ok_iff responder question (List.ne_nil_of_mem listed)).mp made
    obtain ⟨data, -, same⟩ := ok_of_mapM read listed
    cases unread.symm.trans same

end

theorem nodup_toBytes_v4 {addresses : List V4} (distinct : addresses.Nodup) :
    (addresses.map V4.toBytes).Nodup := by
  refine distinct.map fun a b same => ?_
  rw [← V4.ofBytes_toBytes a, same, V4.ofBytes_toBytes]

theorem nodup_toBytes_v6 {addresses : List V6} (distinct : addresses.Nodup)
    (unzoned : ∀ a ∈ addresses, a.zone = none) : (addresses.map V6.toBytes).Nodup := by
  refine distinct.map_on fun a here b there same => ?_
  have number (a : V6) : Bytes.toNat a.toBytes = a.toNat := by
    have small : a.toNat < 256 ^ 16 := a.bounded
    exact Bytes.toNat_ofNat small
  have equal : a.toNat = b.toNat := by rw [← number a, same, number b]
  have zones : a.zone = b.zone := (unzoned a here).trans (unzoned b there).symm
  cases a
  cases b
  exact (V6.mk.injEq ..).mpr ⟨equal, zones⟩

end Responder

end Netboot.Dns
