import Netboot.Dhcp.Writer
import Netboot.Proofs.Keyed
import Netboot.Proofs.Text.Bytes

/-! Options read back as they were written, and what the values of options read from any bytes are. -/

set_option autoImplicit false

namespace Netboot.Dhcp

/-! ## Written options -/

theorem framed_eq {code : Nat} {content : Bytes} (small : code < 256) (short : content.length < 256) :
    framed code content = .ok (UInt8.ofNat code :: UInt8.ofNat content.length :: content) := by
  have allowed : ¬ ((code : Int) < 0 ∨ 255 < (code : Int) ∨ 255 < content.length) := by omega
  rw [framed, if_neg allowed, Int.toNat_natCast]

/-- The reader takes an option off the front and goes on behind its content. -/
theorem entries_framed {code : UInt8} {content : Bytes} {entry : Entry}
    (unmarked : ¬ (code = padCode ∨ code = endCode)) (short : content.length < 256)
    (known : entry? code content = some entry) (rest : Bytes) :
    entries (code :: UInt8.ofNat content.length :: content ++ rest) = entry :: entries rest := by
  have length : (UInt8.ofNat content.length).toNat = content.length := UInt8.toNat_ofNat_of_lt' short
  -- The length octet tells the content from what follows it.
  have enough : ¬ (content ++ rest).length < content.length := by
    rw [List.length_append]
    omega
  simp only [List.cons_append]
  rw [entries, if_neg unmarked]
  simp only [length, if_neg enough, List.take_left, List.drop_left, known]

def Form.Repeats (form : Form) : Prop :=
  form = .address ∨ form = .word32 ∨ form = .word16 ∨ form = .word8

theorem chunks?_self {size : Nat} (pos : 0 < size) {bytes : Bytes} (filled : bytes.length = size) :
    chunks? size bytes = some [bytes] := by
  have whole : bytes.length % size = 0 := by rw [filled, Nat.mod_self]
  rw [chunks?, if_pos whole, filled, Nat.div_self pos]
  simp [← filled]

theorem Form.values?_item {form : Form} (repeats : form.Repeats) {content : Bytes}
    (filled : content.length = form.itemSize) : form.values? content = some [form.item content] := by
  have pos : 0 < form.itemSize := by
    obtain rfl | rfl | rfl | rfl := repeats <;> decide
  have present : content.isEmpty = false := by
    rw [List.isEmpty_eq_false_iff, ← List.length_pos_iff, filled]
    exact pos
  have one : chunks? form.itemSize content = some [content] := chunks?_self pos filled
  obtain rfl | rfl | rfl | rfl := repeats
  all_goals simp only [values?, present, one, Bool.false_eq_true, if_false, Option.map_some,
    List.map_cons, List.map_nil]

/-- The name is assigned, and its code stands for it on the wire. -/
structure Assigned (name : String) (assigned : Assignment) : Prop where
  named : assignmentNamed? name = some assigned
  coded : assignment? assigned.code = some assigned
  same : assigned.name = name
  inner : 0 < assigned.code ∧ assigned.code < 255

namespace Entry

/-- The entry can be written, and is read back wherever its bytes stand. -/
def Kept (entry : Entry) : Prop :=
  ∃ bytes, entry.toBytes = .ok bytes ∧ ∀ rest, entries (bytes ++ rest) = entry :: entries rest

variable {name : String} {assigned : Assignment}

theorem kept_of_content (known : Assigned name assigned) {value : Value} {content : Bytes}
    (short : content.length < 256) (written : valueBytes assigned value = .ok content)
    (read : assigned.form.values? content = some [value]) : Kept (.named name, [value]) := by
  have small : assigned.code < 256 := Nat.lt_succ_of_lt known.inner.2
  have code : (UInt8.ofNat assigned.code).toNat = assigned.code := UInt8.toNat_ofNat_of_lt' small
  have unmarked : ¬ (UInt8.ofNat assigned.code = padCode ∨ UInt8.ofNat assigned.code = endCode) := by
    have inner := known.inner
    rw [← UInt8.toNat_inj, ← UInt8.toNat_inj, code]
    change ¬ (assigned.code = 0 ∨ assigned.code = 255)
    omega
  have back : entry? (UInt8.ofNat assigned.code) content = some (.named name, [value]) := by
    rw [ entry?, code, known.coded]
    simp only [read, known.same, Option.map_some]
  have concatenated : concatBytes (valueBytes assigned) [value] = .ok content := by
    simp only [concatBytes, List.foldlM, written]
    rfl
  refine ⟨_, ?_, entries_framed unmarked short back⟩
  simp only [toBytes, known.named, concatenated, List.isEmpty_cons, Bool.false_eq_true, if_false]
  exact framed_eq small short

theorem kept_address (known : Assigned name assigned) (form : assigned.form = .address) (a : V4) :
    Kept (.named name, [.address a]) := by
  have short : a.toBytes.length < 256 := by
    rw [V4.length_toBytes]
    decide
  have written : valueBytes assigned (.address a) = .ok a.toBytes := by
    simp only [valueBytes, form, addressBytes]
  refine kept_of_content known short written ?_
  rw [form, Form.values?_item (.inl rfl) a.length_toBytes, Form.item, V4.ofBytes_toBytes]

theorem optionWord_number (assigned : Assignment) (n : Int) :
    optionWord assigned (.number n) = word assigned.form.itemSize n := by
  rw [optionWord]
  split
  · rfl
  · rfl

theorem kept_word (known : Assigned name assigned)
    (form : assigned.form = .word32 ∨ assigned.form = .word16 ∨ assigned.form = .word8) {n : Int}
    (inside : 0 ≤ n ∧ n < 256 ^ assigned.form.itemSize) : Kept (.named name, [.number n]) := by
  have repeats : assigned.form.Repeats := .inr form
  have length := Bytes.length_ofNat assigned.form.itemSize n.toNat
  have small : n.toNat < 256 ^ assigned.form.itemSize := by
    rw [← Int.ofNat_lt, Int.toNat_of_nonneg inside.1, Int.natCast_pow]
    exact inside.2
  have written : valueBytes assigned (.number n) =
      .ok (Bytes.ofNat assigned.form.itemSize n.toNat) := by
    have worded : word assigned.form.itemSize n = .ok _ := if_pos inside
    rw [← worded, ← optionWord_number]
    obtain form | form | form := form <;> simp only [valueBytes, form]
  have item : assigned.form.item (Bytes.ofNat assigned.form.itemSize n.toNat) = .number n := by
    have value : ((Bytes.ofNat assigned.form.itemSize n.toNat).toNat : Int) = n := by
      rw [Bytes.toNat_ofNat small, Int.toNat_of_nonneg inside.1]
    obtain form | form | form := form <;> rw [form] at value ⊢ <;> rw [Form.item, value] <;> nofun
  refine kept_of_content known ?_ written ?_
  · rw [length]
    obtain form | form | form := form <;> rw [form] <;> decide
  · rw [Form.values?_item repeats length, item]

theorem kept_bytes (known : Assigned name assigned) (form : assigned.form = .string)
    {content : Bytes} (short : content.length < 256) : Kept (.named name, [.bytes content]) := by
  refine kept_of_content known short ?_ ?_
  · simp only [valueBytes, form, rawBytes]
  · rw [form, Form.values?]

theorem word_of_written (known : Assigned name assigned) (form : assigned.form = .word32) {n : Int}
    {bytes : Bytes} (written : Entry.toBytes (.named name, [.number n]) = .ok bytes) :
    0 ≤ n ∧ n < 2 ^ 32 := by
  refine Decidable.byContradiction fun outside => ?_
  have refused : word 4 n = .error .valueMismatch := if_neg outside
  have failed : valueBytes assigned (.number n) = .error .valueMismatch := by
    rw [← refused]
    simp only [valueBytes, form, optionWord_number, Form.itemSize]
  simp only [toBytes, List.isEmpty_cons, Bool.false_eq_true, if_false, known.named, concatBytes,
    List.foldlM, failed] at written
  cases written

end Entry

theorem written_of_entriesBytes {list : List Entry} {bytes : Bytes}
    (written : entriesBytes list = .ok bytes) {entry : Entry} (member : entry ∈ list) :
    ∃ part, entry.toBytes = .ok part := by
  induction list generalizing bytes with
  | nil => cases member
  | cons first rest ih =>
    rw [entriesBytes] at written
    cases front : first.toBytes with
    | error fault =>
      rw [front] at written
      cases written
    | ok part =>
      cases back : entriesBytes rest with
      | error fault =>
        rw [front, back] at written
        cases written
      | ok parts =>
        obtain rfl | later := List.mem_cons.mp member
        · exact ⟨part, front⟩
        · exact ih back later

theorem entriesBytes_of_kept {list : List Entry} (kept : ∀ entry ∈ list, Entry.Kept entry) :
    ∃ bytes, entriesBytes list = .ok bytes ∧ bytes ≠ [] ∧ entries bytes = list := by
  induction list with
  | nil =>
    refine ⟨[endCode], rfl, List.cons_ne_nil _ _, ?_⟩
    rw [entries, if_pos (.inr rfl), entries]
  | cons entry rest ih =>
    obtain ⟨front, written, read⟩ := kept entry List.mem_cons_self
    obtain ⟨back, writtenRest, present, readRest⟩ := ih fun entry member => kept entry (.tail _ member)
    refine ⟨front ++ back, ?_, ?_, ?_⟩
    · rw [entriesBytes, written, writtenRest]
      rfl
    · exact List.append_ne_nil_of_right_ne_nil _ present
    · rw [read, readRest]

/-! ## Options in order -/

namespace Options

theorem set_fresh {options : Options} {key : Key} (fresh : key ∉ options.map (·.1))
    (values : List Value) : options.set key values = options ++ [(key, values)] := by
  have absent : options.lookup key = none := List.lookup_eq_none_iff.mpr fun entry member =>
    bne_iff_ne.mpr fun same => fresh (List.mem_map.mpr ⟨entry, member, same.symm⟩)
  rw [set, absent]
  rfl

theorem ofList_of_nodup {list : List Entry} (distinct : (list.map (·.1)).Nodup) :
    ofList list = list := by
  -- By induction on the entries still to come, for any that are already in place.
  suffices build : ∀ front : Options, ((front ++ list).map (·.1)).Nodup →
      list.foldl (fun options entry => options.set entry.1 entry.2) front = front ++ list by
    exact build [] distinct
  clear distinct
  intro front
  induction list generalizing front with
  | nil =>
    intro _
    exact (List.append_nil _).symm
  | cons entry rest ih =>
    intro distinct
    have joined : front ++ entry :: rest = front ++ [entry] ++ rest := by
      rw [List.append_assoc, List.singleton_append]
    have fresh : entry.1 ∉ front.map (·.1) := by
      rw [List.map_append, List.nodup_append] at distinct
      exact fun member => distinct.2.2 _ member _ List.mem_cons_self rfl
    rw [List.foldl_cons, set_fresh fresh, joined]
    rw [joined] at distinct
    exact ih (front ++ [entry]) distinct

theorem lookup_set (options : Options) (key : Key) (values : List Value) (other : Key) :
    (options.set key values).lookup other =
      if other = key then some values else options.lookup other := by
  rw [set]
  split
  next known =>
    obtain ⟨old, found⟩ := Option.isSome_iff_exists.mp known
    have keeps (entry : Entry) : (if entry.1 == key then (key, values) else entry).1 = entry.1 := by
      split
      next same => exact (eq_of_beq same).symm
      next => rfl
    rw [lookup_map keeps]
    by_cases same : other = key
    · simp [same, found]
    · simp [same]
  next fresh =>
    have absent : options.lookup key = none := Option.not_isSome_iff_eq_none.mp fresh
    rw [List.lookup_append]
    by_cases same : other = key
    · rw [same, absent]
      simp
    · simp [same, beq_false_of_ne same, List.lookup_cons]

/-- The last of the entries under a key counts. -/
theorem lookup_ofList (list : List Entry) (key : Key) :
    (ofList list).lookup key = list.reverse.lookup key := by
  induction list using List.reverseRecOn with
  | nil => rfl
  | append_singleton front entry ih =>
    have last : ofList (front ++ [entry]) = (ofList front).set entry.1 entry.2 := by
      rw [ofList, List.foldl_append]
      rfl
    rw [last, lookup_set, ih, List.reverse_append, List.reverse_singleton, List.singleton_append,
      List.lookup_cons]
    by_cases same : key = entry.1
    · simp [same]
    · simp [same, beq_false_of_ne same]

end Options

/-! ## Options read from any bytes -/

theorem read_of_mem_entries {bytes : Bytes} {entry : Entry} (member : entry ∈ entries bytes) :
    ∃ code content, entry? code content = some entry := by
  fun_induction entries bytes with
  | case1 => cases member
  | case2 code rest marked ih => exact ih member
  | case3 => cases member
  | case4 => cases member
  | case5 => cases member
  | case6 code _ length rest _ first read ih =>
    obtain rfl | later := List.mem_cons.mp member
    · exact ⟨code, _, read⟩
    · exact ih later

/-- The key stands for options that packets can have: an assigned code goes by its name only. -/
def Key.IsRead : Key → Prop
  | .code number => 0 ≤ number ∧ number < 256 ∧ (assignment? number.toNat).isNone = true
  | .named name => ∃ assigned ∈ assignments, assigned.name = name

instance (key : Key) : Decidable key.IsRead :=
  match key with
  | .code number => inferInstanceAs
      (Decidable (0 ≤ number ∧ number < 256 ∧ (assignment? number.toNat).isNone = true))
  | .named name => inferInstanceAs (Decidable (∃ assigned ∈ assignments, assigned.name = name))

theorem isRead_of_read {code : UInt8} {content : Bytes} {entry : Entry}
    (read : entry? code content = some entry) : entry.1.IsRead := by
  unfold entry? at read
  split at read
  next assigned found =>
    obtain ⟨values, -, rfl⟩ := Option.map_eq_some_iff.mp read
    exact ⟨assigned, List.mem_of_find?_eq_some found, rfl⟩
  next unassigned =>
    cases read
    have small : code.toNat < 256 := code.toNat_lt
    refine ⟨Int.natCast_nonneg _, Int.ofNat_lt.mpr small, ?_⟩
    rw [Int.toNat_natCast, unassigned]
    rfl

/-- The options whose value is read as the bytes that stand there. -/
def Key.IsPlain : Key → Prop
  | .code _ => True
  | .named name => ∀ assigned ∈ assignments, assigned.name = name →
      assigned.form = .raw ∨ assigned.form = .string

instance (key : Key) : Decidable key.IsPlain :=
  match key with
  | .code _ => inferInstanceAs (Decidable True)
  | .named name => inferInstanceAs (Decidable (∀ assigned ∈ assignments, assigned.name = name →
      assigned.form = .raw ∨ assigned.form = .string))

theorem plain_of_read {code : UInt8} {content : Bytes} {entry : Entry}
    (read : entry? code content = some entry) (plain : entry.1.IsPlain) :
    entry.2 = [.bytes content] := by
  unfold entry? at read
  split at read
  next assigned found =>
    obtain ⟨values, written, rfl⟩ := Option.map_eq_some_iff.mp read
    have form := plain assigned (List.mem_of_find?_eq_some found) rfl
    obtain form | form := form
    · simp only [form, Form.values?, Option.some.injEq] at written
      exact written.symm
    · simp only [form, Form.values?, Option.some.injEq] at written
      exact written.symm
  next =>
    cases read
    rfl

theorem words_of_read {code : UInt8} {content : Bytes} {entry : Entry} {name : String}
    (read : entry? code content = some entry) (named : entry.1 = .named name)
    (worded : ∀ assigned ∈ assignments, assigned.name = name → assigned.form = .word8) :
    ∃ (n : Nat) (rest : List Value), entry.2 = .number n :: rest := by
  unfold entry? at read
  split at read
  next assigned found =>
    obtain ⟨values, written, rfl⟩ := Option.map_eq_some_iff.mp read
    have form := worded assigned (List.mem_of_find?_eq_some found) (Key.named.inj named)
    simp only [form, Form.values?] at written
    split at written
    · cases written
    next present =>
      obtain ⟨parts, cut, rfl⟩ := Option.map_eq_some_iff.mp written
      cases content with
      | nil => exact absurd rfl present
      | cons b more =>
        -- Each byte is an item of its own, and there is a first one.
        have single : Form.word8.itemSize = 1 := rfl
        rw [chunks?, single, if_pos (Nat.mod_one _), Nat.div_one, List.length_cons,
          List.range_succ_eq_map] at cut
        cases cut
        exact ⟨_, _, rfl⟩
  next =>
    cases read
    cases named

/-! ### The last option of a name -/

def lastValues? (bytes : Bytes) (name : String) : Option (List Value) :=
  (entries bytes).reverse.lookup (.named name)

def lastContent (bytes : Bytes) (name : String) : Bytes :=
  match lastValues? bytes name with
  | some [.bytes content] => content
  | _ => []

theorem read_of_lookup {bytes : Bytes} {key : Key} {values : List Value}
    (found : (entries bytes).reverse.lookup key = some values) :
    ∃ code content, entry? code content = some (key, values) :=
  read_of_mem_entries (List.mem_reverse.mp (mem_of_lookup found))

namespace Options

variable (bytes : Bytes) {name : String}

theorem first?_named {others : List Key} (unread : ∀ key ∈ others, ¬ key.IsRead) :
    (ofBytes bytes).first? (.named name :: others) = ((lastValues? bytes name).getD []).head? := by
  -- Had one of the other keys a value, it would have been read under that key.
  have absent : ∀ key ∈ others, (((ofBytes bytes).lookup key).getD []).head? = none := by
    intro key member
    rw [ofBytes, lookup_ofList]
    cases found : (entries bytes).reverse.lookup key with
    | none => rfl
    | some values =>
      obtain ⟨code, content, read⟩ := read_of_lookup found
      exact absurd (isRead_of_read read) (unread key member)
  rw [first?, List.findSome?_cons, List.findSome?_eq_none_iff.mpr absent, ofBytes, lookup_ofList,
    lastValues?]
  cases (((entries bytes).reverse.lookup (.named name)).getD []).head? <;> rfl

theorem lastValues?_plain (plain : (Key.named name).IsPlain) :
    lastValues? bytes name = some [.bytes (lastContent bytes name)] ∨
      lastValues? bytes name = none ∧ lastContent bytes name = [] := by
  cases found : lastValues? bytes name with
  | none => exact .inr ⟨rfl, by rw [lastContent, found]⟩
  | some values =>
    obtain ⟨code, content, read⟩ := read_of_lookup found
    have only : values = [.bytes content] := plain_of_read read plain
    exact .inl (by rw [lastContent, found, only])

theorem first?_plain {others : List Key} (plain : (Key.named name).IsPlain)
    (unread : ∀ key ∈ others, ¬ key.IsRead) :
    (ofBytes bytes).first? (.named name :: others) = some (.bytes (lastContent bytes name)) ∨
      (ofBytes bytes).first? (.named name :: others) = none ∧ lastContent bytes name = [] := by
  rw [first?_named bytes unread]
  obtain found | ⟨found, empty⟩ := lastValues?_plain bytes plain
  · rw [found]
    exact .inl rfl
  · rw [found]
    exact .inr ⟨rfl, empty⟩

theorem firstBytes_plain {others : List Key} (plain : (Key.named name).IsPlain)
    (unread : ∀ key ∈ others, ¬ key.IsRead) :
    (ofBytes bytes).firstBytes (.named name :: others) = .ok (lastContent bytes name) := by
  rw [firstBytes]
  obtain found | ⟨found, empty⟩ := first?_plain bytes plain unread
  · rw [found]
    rfl
  · rw [found, empty]
    rfl

end Options

end Netboot.Dhcp
