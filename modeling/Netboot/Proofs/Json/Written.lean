import Netboot.Proofs.Json
import Netboot.Proofs.Text.Hex
import Netboot.Proofs.Text.Utf8

/-! Documents that are written and read again. Without numbers a document comes back as it was, unless
more is open in it than the reader keeps track of. Two surrogates that make a character together come
back as that character, so they are left out too.
-/

set_option autoImplicit false

namespace Netboot

/-- No two surrogates side by side make a character. -/
def CodePoints.Unpaired (text : CodePoints) : Prop :=
  text.IsChain fun first second => ¬ (first.isHigh = true ∧ second.isLow = true)

theorem CodePoints.unpaired_ofString (text : String) : (ofString text).Unpaired := by
  have each (chars : List Char) : (ofChars chars).Unpaired := by
    induction chars with
    | nil => exact .nil
    | cons c rest ih =>
      cases rest with
      | nil => exact .singleton _
      | cons d rest => exact .cons_cons (fun pair => nomatch pair.1) ih
  exact each text.toList

theorem CodePoint.isLow_of_toNat {point : CodePoint} (low : 0xdc00 ≤ point.toNat ∧ point.toNat < 0xe000) :
    point.isLow = true := by
  cases point with
  | char c =>
    have valid := Text.valid_toNat c
    simp only [toNat] at low
    omega
  | surrogate offset =>
    simp only [toNat] at low
    exact decide_eq_true (by omega)

namespace Json

inductive IsPlain : Json → Prop where
  | null : IsPlain .null
  | bool (value : Bool) : IsPlain (.bool value)
  | str {text : CodePoints} (unpaired : text.Unpaired) : IsPlain (.str text)
  | arr {items : List Json} (each : ∀ item ∈ items, IsPlain item) : IsPlain (.arr items)
  | record {fields : List (String × Json)} (distinct : (fields.map (·.1)).Nodup)
      (each : ∀ field ∈ fields, IsPlain field.2) : IsPlain (.record fields)

theorem isPlain_string (text : String) : (Json.str (CodePoints.ofString text)).IsPlain :=
  .str (CodePoints.unpaired_ofString text)

variable {json : Json} {items : List Json} {text read : CodePoints} {rest more : List Char} {c : Char}
  {fuel limit : Nat}

/-! ## Escapes -/

theorem hex4?_hex {n : Nat} (small : n < 0x10000) (rest : List Char) :
    hex4? (Text.hex 4 n ++ rest) = some (n, rest) := by
  have value := Text.value_hex 4 n
  have four : (Text.hex 4 n).length = 4 := Text.length_hex (by decide) small
  generalize Text.hex 4 n = digits at value four ⊢
  match digits, four with
  | [a, b, c, d], _ =>
    simp only [List.foldlM_cons, List.foldlM_nil, Option.bind_eq_bind, Option.bind_eq_some_iff,
      Option.map_eq_some_iff, Option.pure_def, Option.some.injEq] at value
    obtain ⟨_, ⟨va, first, rfl⟩, _, ⟨vb, second, rfl⟩, _, ⟨vc, third, rfl⟩, _, ⟨vd, fourth, rfl⟩, rfl⟩ :=
      value
    simp [hex4?, first, second, third, fourth]

theorem unicodeEscape?_char (ascii : c.toNat < 0x80) (rest : List Char) :
    unicodeEscape? (Text.hex 4 c.toNat ++ rest) = some (.char c, rest) := by
  have below : c.toNat < 0xd800 ∨ 0xe000 ≤ c.toNat := .inl (by omega)
  simp only [unicodeEscape?, hex4?_hex (n := c.toNat) (by omega), Option.bind_eq_bind,
    Option.bind_some, if_pos below, Char.ofNat_toNat]
  rfl

/-- A surrogate stands alone unless the other half of a character is behind it. -/
theorem unicodeEscape?_surrogate (offset : Fin 0x800)
    (alone : ∀ more, rest = '\\' :: 'u' :: more → ∃ low after, hex4? more = some (low, after) ∧
      (offset.val < 0x400 → ¬ (0xdc00 ≤ low ∧ low < 0xe000))) :
    unicodeEscape? (Text.hex 4 (0xd800 + offset) ++ rest) = some (.surrogate offset, rest) := by
  have small := offset.isLt
  have inside : ¬ (0xd800 + offset.val < 0xd800 ∨ 0xe000 ≤ 0xd800 + offset.val) := by omega
  have same : Fin.ofNat 0x800 (0xd800 + offset.val - 0xd800) = offset :=
    Fin.ext (by simp only [Fin.ofNat, Nat.add_sub_cancel_left]; omega)
  simp only [unicodeEscape?, hex4?_hex (n := 0xd800 + offset.val) (by omega), Option.bind_eq_bind,
    Option.bind_some, if_neg inside, same]
  split
  next more =>
    obtain ⟨low, after, read, apart⟩ := alone more rfl
    split
    · rfl
    next high =>
      rw [read, Option.bind_some]
      dsimp only
      rw [if_neg (apart (by omega))]
      rfl
  next => rfl

theorem exists_of_escape
    (same : text.flatMap escapedPoint ++ '"' :: rest = '\\' :: 'u' :: more) :
    ∃ point others after, text = point :: others ∧ hex4? more = some (point.toNat, after) := by
  cases text with
  | nil => cases same
  | cons point others =>
    refine ⟨point, others, ?_⟩
    rw [List.flatMap_cons] at same
    cases point with
    | char c =>
      rw [escapedPoint, escapedChar] at same
      split at same
      next marked =>
        obtain rfl | rfl := marked
        · cases same
        · cases same
      next ordinary =>
        split at same
        · cases same
        split at same
        next control =>
          simp only [List.cons_append, List.cons.injEq, true_and, List.append_assoc] at same
          subst same
          exact ⟨_, rfl, hex4?_hex (n := c.toNat) (by omega) _⟩
        next =>
          rw [List.singleton_append] at same
          exact absurd (List.head_eq_of_cons_eq same) fun backslash => ordinary (.inr backslash)
    | surrogate offset =>
      have small := offset.isLt
      simp only [escapedPoint, List.cons_append, List.cons.injEq, true_and, List.append_assoc] at same
      subst same
      exact ⟨_, rfl, hex4?_hex (n := 0xd800 + offset.val) (by omega) _⟩

/-! ## Texts -/

theorem stringRest?_escapedChar (read : CodePoints) (fuel : Nat) (c : Char) (rest : List Char) :
    stringRest? read (fuel + 1) (escapedChar c ++ rest) = stringRest? (.char c :: read) fuel rest := by
  unfold escapedChar
  split
  next same =>
    obtain rfl | rfl := same <;> rfl
  next ordinary =>
    obtain ⟨quote, backslash⟩ := not_or.mp ordinary
    split
    next same =>
      subst same
      rfl
    split
    next control =>
      have ascii : c.toNat < 0x80 := by omega
      simp [stringRest?, escape?, unicodeEscape?_char ascii]
    next visible =>
      have large : ¬ c.toNat < 0x20 := (not_or.mp visible).1
      rw [List.singleton_append, stringRest?, if_neg large]
      · exact quote
      · exact backslash

theorem stringRest?_escapedPoints (unpaired : text.Unpaired) (enough : text.length < fuel)
    (rest : List Char) :
    stringRest? read fuel (text.flatMap escapedPoint ++ '"' :: rest) = some (read.reverse ++ text, rest) := by
  induction text generalizing read fuel with
  | nil =>
    obtain _ | fuel := fuel
    · cases enough
    · simp [stringRest?]
  | cons point text ih =>
    obtain _ | fuel := fuel
    · cases enough
    have later := @ih (point :: read) _ unpaired.of_cons (Nat.lt_of_succ_lt_succ enough)
    rw [List.reverse_cons, List.append_assoc, List.singleton_append] at later
    rw [List.flatMap_cons, List.append_assoc]
    cases point with
    | char c => rw [escapedPoint, stringRest?_escapedChar, later]
    | surrogate offset =>
      have alone : unicodeEscape? (Text.hex 4 (0xd800 + offset) ++
          (text.flatMap escapedPoint ++ '"' :: rest)) =
          some (.surrogate offset, text.flatMap escapedPoint ++ '"' :: rest) := by
        refine unicodeEscape?_surrogate offset fun more same => ?_
        obtain ⟨next, others, after, rfl, value⟩ := exists_of_escape same
        refine ⟨next.toNat, after, value, fun high low => ?_⟩
        exact (List.isChain_cons_cons.mp unpaired).1
          ⟨decide_eq_true high, CodePoint.isLow_of_toNat low⟩
      rw [escapedPoint, List.cons_append, List.cons_append, stringRest?, escape?, alone]
      exact later

theorem literal_eq (text : CodePoints) :
    literal text = '"' :: (text.flatMap escapedPoint ++ ['"']) := by
  simp [literal]

theorem length_le_escapedPoints (text : CodePoints) : text.length ≤ (text.flatMap escapedPoint).length := by
  induction text with
  | nil => exact Nat.le_refl 0
  | cons point text ih =>
    have one : 1 ≤ (escapedPoint point).length := by
      cases point with
      | surrogate offset => simp [escapedPoint]
      | char c =>
        rw [escapedPoint, escapedChar]
        split
        · simp
        split
        · simp
        split <;> simp
    rw [List.flatMap_cons, List.length_append, List.length_cons]
    omega

theorem stringRest?_literal (unpaired : text.Unpaired) (enough : (literal text).length ≤ fuel + 1)
    (rest : List Char) : stringRest? [] fuel ((literal text).tail ++ rest) = some (text, rest) := by
  have length := length_le_escapedPoints text
  rw [literal_eq] at enough ⊢
  simp only [List.length_cons, List.length_append, List.length_nil] at enough
  rw [List.tail_cons, List.append_assoc, List.singleton_append,
    stringRest?_escapedPoints unpaired (by omega)]
  rfl

theorem literal_cons_tail (text : CodePoints) : literal text = '"' :: (literal text).tail := rfl

/-! ## Values -/

theorem skipSpace_cons (solid : c ∉ [' ', '\t', '\n', '\r']) : skipSpace (c :: rest) = c :: rest := by
  simp only [List.mem_cons, List.not_mem_nil, not_or, or_false] at solid
  simp [skipSpace, solid]

theorem exists_chars_cons (plain : json.IsPlain) :
    ∃ c tail, json.chars = c :: tail ∧ c ∉ [' ', '\t', '\n', '\r'] ∧ c ≠ ']' := by
  cases plain with
  | null => exact ⟨'n', _, rfl, by decide⟩
  | bool value => cases value with
    | true => exact ⟨'t', _, rfl, by decide⟩
    | false => exact ⟨'f', _, rfl, by decide⟩
  | str unpaired => exact ⟨'"', _, rfl, by decide⟩
  | arr each => exact ⟨'[', _, rfl, by decide⟩
  | record distinct each => exact ⟨'{', _, rfl, by decide⟩

theorem skipSpace_chars (plain : json.IsPlain) (rest : List Char) :
    skipSpace (json.chars ++ rest) = json.chars ++ rest := by
  obtain ⟨c, tail, same, solid, -⟩ := exists_chars_cons plain
  rw [same, List.cons_append, skipSpace_cons solid]

/-- The value is read from what is written for it, whatever stands behind, if it is shallow enough. -/
def ReadsBack (json : Json) : Prop :=
  ∀ fuel limit rest, json.chars.length ≤ fuel → readValue fuel limit (json.chars ++ rest) =
    if json.depth ≤ limit then .ok (json, rest) else .error .tooDeep

theorem readsBack_null : ReadsBack .null := by
  intro fuel limit rest enough
  obtain _ | fuel := fuel
  · cases enough
  · rfl

theorem readsBack_bool (value : Bool) : ReadsBack (.bool value) := by
  intro fuel limit rest enough
  obtain _ | fuel := fuel
  · cases value <;> cases enough
  · cases value <;> rfl

theorem readsBack_str (unpaired : text.Unpaired) : ReadsBack (.str text) := by
  intro fuel limit rest enough
  obtain _ | fuel := fuel
  · cases enough
  · rw [chars, literal_cons_tail, List.cons_append, readValue, stringRest?_literal unpaired enough]
    rfl

/-! ## Arrays -/

section Item

variable {item : Json} (reads : item.ReadsBack) (enough : item.chars.length ≤ fuel)
include reads enough

theorem readItems_last (shallow : item.depth ≤ limit) (read : List Json) (rest : List Char) :
    readItems read (fuel + 1) limit (item.chars ++ ']' :: rest) =
      .ok (.arr (read.reverse ++ [item]), rest) := by
  rw [readItems, reads fuel limit _ enough, if_pos shallow]
  simp [bind, Except.bind, pure, Except.pure, skipSpace_cons]

theorem readItems_more (shallow : item.depth ≤ limit) (read : List Json) (rest : List Char) :
    readItems read (fuel + 1) limit (item.chars ++ ',' :: rest) =
      readItems (item :: read) fuel limit (skipSpace rest) := by
  rw [readItems, reads fuel limit _ enough, if_pos shallow]
  simp only [bind, Except.bind, skipSpace_cons (c := ',') (by decide)]

theorem readItems_tooDeep (deep : ¬ item.depth ≤ limit) (read : List Json) (rest : List Char) :
    readItems read (fuel + 1) limit (item.chars ++ rest) = .error .tooDeep := by
  rw [readItems, reads fuel limit _ enough, if_neg deep]
  rfl

end Item

theorem itemChars_cons {item next : Json} (others : List Json) : chars.itemChars (item :: next :: others) =
    item.chars ++ ',' :: chars.itemChars (next :: others) := by
  rw [chars.itemChars]
  simp

theorem exists_itemChars (item : Json) (others : List Json) :
    ∃ more, chars.itemChars (item :: others) = item.chars ++ more := by
  cases others with
  | nil => exact ⟨[], (List.append_nil _).symm⟩
  | cons next others => exact ⟨_, itemChars_cons others⟩

theorem skipSpace_itemChars {item : Json} {others : List Json} (plain : item.IsPlain) (rest : List Char) :
    skipSpace (chars.itemChars (item :: others) ++ rest) = chars.itemChars (item :: others) ++ rest := by
  obtain ⟨more, same⟩ := exists_itemChars item others
  rw [same, List.append_assoc, skipSpace_chars plain]

theorem readItems_itemChars (given : items ≠ []) (plain : ∀ item ∈ items, item.IsPlain)
    (each : ∀ item ∈ items, item.ReadsBack) (read : List Json)
    (enough : (chars.itemChars items).length < fuel) (rest : List Char) :
    readItems read fuel limit (chars.itemChars items ++ ']' :: rest) =
      if itemsDepth items ≤ limit then .ok (.arr (read.reverse ++ items), rest)
      else .error .tooDeep := by
  -- On the items yet to come; the last is followed by the bracket and not by a comma.
  induction items generalizing read fuel with
  | nil => exact absurd rfl given
  | cons item others ih =>
    obtain ⟨reads, later⟩ := List.forall_mem_cons.mp each
    obtain _ | fuel := fuel
    · cases enough
    simp only [itemsDepth, Nat.max_le]
    cases others with
    | nil =>
      have shorter : item.chars.length ≤ fuel := Nat.le_of_lt_succ enough
      by_cases shallow : item.depth ≤ limit
      · simp only [shallow, itemsDepth, Nat.zero_le, and_self, if_true]
        exact readItems_last reads shorter shallow read rest
      · simp only [shallow, false_and, if_false]
        exact readItems_tooDeep reads shorter shallow read _
    | cons next others =>
      obtain ⟨-, plain⟩ := List.forall_mem_cons.mp plain
      rw [itemChars_cons, List.length_append, List.length_cons] at enough
      rw [itemChars_cons, List.append_assoc, List.cons_append]
      by_cases shallow : item.depth ≤ limit
      · rw [readItems_more reads (by omega) shallow,
          skipSpace_itemChars (plain next List.mem_cons_self),
          ih (List.cons_ne_nil next others) plain later (item :: read) (by omega)]
        simp [shallow]
      · simp only [shallow, false_and, if_false]
        exact readItems_tooDeep reads (by omega) shallow read _

theorem readValue_array {text : List Char} (given : ∀ tail, skipSpace text ≠ ']' :: tail) :
    readValue (fuel + 1) (limit + 1) ('[' :: text) = readItems [] fuel limit (skipSpace text) := by
  rw [readValue]
  split
  next same => exact absurd same (given _)
  next => rfl

theorem readsBack_arr (plain : ∀ item ∈ items, item.IsPlain) (each : ∀ item ∈ items, item.ReadsBack) :
    ReadsBack (.arr items) := by
  intro fuel limit rest enough
  have written : (Json.arr items).chars ++ rest = '[' :: (chars.itemChars items ++ ']' :: rest) := by
    simp [chars]
  rw [chars, List.cons_append, List.length_cons, List.length_append, List.length_singleton] at enough
  obtain _ | fuel := fuel
  · omega
  rw [written, depth]
  obtain _ | limit := limit
  · rfl
  simp only [Nat.add_le_add_iff_right]
  cases items with
  | nil => simp [readValue, chars.itemChars, skipSpace_cons, itemsDepth]
  | cons item others =>
    have first := plain item List.mem_cons_self
    have skipped := @skipSpace_itemChars _ others first (']' :: rest)
    rw [readValue_array, skipped,
      readItems_itemChars (List.cons_ne_nil item others) plain each [] (by omega)]
    · rfl
    · intro tail closed
      obtain ⟨c, front, same, -, other⟩ := exists_chars_cons first
      obtain ⟨more, begins⟩ := exists_itemChars item others
      rw [skipped, begins, same] at closed
      exact other (List.head_eq_of_cons_eq closed)

/-! ## Objects -/

section Field

variable {name : String} {value : Json} (reads : value.ReadsBack) (plain : value.IsPlain)
  (enough : (literal (CodePoints.ofString name)).length + value.chars.length ≤ fuel)
include reads plain enough

theorem readFields_last (shallow : value.depth ≤ limit) (read : List (CodePoints × Json))
    (rest : List Char) :
    readFields read (fuel + 1) limit
        (literal (CodePoints.ofString name) ++ ':' :: (value.chars ++ '}' :: rest)) =
      .ok (.obj (setField read (CodePoints.ofString name) value), rest) := by
  rw [literal_cons_tail, List.cons_append, readFields,
    stringRest?_literal (CodePoints.unpaired_ofString name) (by omega)]
  simp only [wellFormed, bind, Except.bind, skipSpace_cons (c := ':') (by decide),
    skipSpace_chars plain]
  rw [reads fuel limit _ (by omega), if_pos shallow]
  simp only [pure, Except.pure, skipSpace_cons (c := '}') (by decide)]

theorem readFields_more (shallow : value.depth ≤ limit) (read : List (CodePoints × Json))
    (rest : List Char) :
    readFields read (fuel + 1) limit
        (literal (CodePoints.ofString name) ++ ':' :: (value.chars ++ ',' :: rest)) =
      readFields (setField read (CodePoints.ofString name) value) fuel limit (skipSpace rest) := by
  rw [literal_cons_tail, List.cons_append, readFields,
    stringRest?_literal (CodePoints.unpaired_ofString name) (by omega)]
  simp only [wellFormed, bind, Except.bind, skipSpace_cons (c := ':') (by decide),
    skipSpace_chars plain]
  rw [reads fuel limit _ (by omega), if_pos shallow]
  simp only [skipSpace_cons (c := ',') (by decide)]

theorem readFields_tooDeep (deep : ¬ value.depth ≤ limit) (read : List (CodePoints × Json))
    (rest : List Char) :
    readFields read (fuel + 1) limit
        (literal (CodePoints.ofString name) ++ ':' :: (value.chars ++ rest)) = .error .tooDeep := by
  rw [literal_cons_tail, List.cons_append, readFields,
    stringRest?_literal (CodePoints.unpaired_ofString name) (by omega)]
  simp only [wellFormed, bind, Except.bind, skipSpace_cons (c := ':') (by decide),
    skipSpace_chars plain]
  rw [reads fuel limit _ (by omega), if_neg deep]

end Field

theorem fieldChars_cons {name : String} {value : Json} {others : List (CodePoints × Json)}
    (given : others ≠ []) : chars.fieldChars ((CodePoints.ofString name, value) :: others) =
      literal (CodePoints.ofString name) ++ ':' :: (value.chars ++ ',' :: chars.fieldChars others) := by
  rw [chars.fieldChars]
  · simp
  · exact given

theorem exists_fieldChars (field : String × Json) (others : List (String × Json)) :
    ∃ tail, chars.fieldChars (named (field :: others)) = '"' :: tail := by
  cases others with
  | nil => exact ⟨_, rfl⟩
  | cons next others => exact ⟨_, rfl⟩

theorem skipSpace_fieldChars (field : String × Json) (others : List (String × Json)) (rest : List Char) :
    skipSpace (chars.fieldChars (named (field :: others)) ++ rest) =
      chars.fieldChars (named (field :: others)) ++ rest := by
  obtain ⟨tail, opened⟩ := exists_fieldChars field others
  rw [opened, List.cons_append, skipSpace_cons (by decide)]

theorem setField_of_new {read : List (CodePoints × Json)} {name : CodePoints}
    (new : name ∉ read.map (·.1)) (value : Json) :
    setField read name value = read ++ [(name, value)] := by
  have missing : read.lookup name = none := by
    refine List.lookup_eq_none_iff.mpr fun field member => bne_iff_ne.mpr ?_
    rintro rfl
    exact new (List.mem_map_of_mem member)
  rw [setField, missing]
  rfl

theorem readFields_fieldChars {fields : List (String × Json)} (given : fields ≠ [])
    (plain : ∀ field ∈ fields, field.2.IsPlain) (each : ∀ field ∈ fields, field.2.ReadsBack)
    {read : List (CodePoints × Json)} (distinct : ((read ++ named fields).map (·.1)).Nodup)
    (enough : (chars.fieldChars (named fields)).length < fuel) (rest : List Char) :
    readFields read fuel limit (chars.fieldChars (named fields) ++ '}' :: rest) =
      if fieldsDepth (named fields) ≤ limit then .ok (.obj (read ++ named fields), rest)
      else .error .tooDeep := by
  induction fields generalizing read fuel with
  | nil => exact absurd rfl given
  | cons field others ih =>
    obtain ⟨name, value⟩ := field
    obtain ⟨(reads : value.ReadsBack), later⟩ := List.forall_mem_cons.mp each
    obtain ⟨(first : value.IsPlain), plain⟩ := List.forall_mem_cons.mp plain
    have shape : named ((name, value) :: others) = (CodePoints.ofString name, value) :: named others := rfl
    rw [shape] at distinct enough ⊢
    -- A new name is put behind the fields read so far, which is where it was written.
    have new : CodePoints.ofString name ∉ read.map (·.1) := by
      rw [List.map_append] at distinct
      exact fun known => (List.nodup_append.mp distinct).2.2 _ known _ List.mem_cons_self rfl
    have grown := setField_of_new new value
    obtain _ | fuel := fuel
    · cases enough
    simp only [fieldsDepth, Nat.max_le]
    cases others with
    | nil =>
      have alone : chars.fieldChars ((CodePoints.ofString name, value) :: named []) =
        literal (CodePoints.ofString name) ++ ':' :: value.chars := rfl
      rw [alone, List.length_append, List.length_cons] at enough
      rw [alone, List.append_assoc, List.cons_append]
      by_cases shallow : value.depth ≤ limit
      · rw [readFields_last reads first (by omega) shallow, grown]
        simp [shallow, named, fieldsDepth]
      · simp only [shallow, false_and, if_false]
        exact readFields_tooDeep reads first (by omega) shallow read _
    | cons next others =>
      have more : named (next :: others) ≠ [] := List.cons_ne_nil _ _
      rw [fieldChars_cons more, List.length_append, List.length_cons, List.length_append,
        List.length_cons] at enough
      rw [fieldChars_cons more, List.append_assoc, List.cons_append, List.append_assoc, List.cons_append]
      by_cases shallow : value.depth ≤ limit
      · rw [readFields_more reads first (by omega) shallow, skipSpace_fieldChars, grown,
          ih (List.cons_ne_nil next others) plain later (by rwa [List.append_assoc]) (by omega),
          List.append_assoc]
        simp [shallow]
      · simp only [shallow, false_and, if_false]
        exact readFields_tooDeep reads first (by omega) shallow read _

theorem readValue_object {text : List Char} (given : ∀ tail, skipSpace text ≠ '}' :: tail) :
    readValue (fuel + 1) (limit + 1) ('{' :: text) = readFields [] fuel limit (skipSpace text) := by
  rw [readValue]
  split
  next same => exact absurd same (given _)
  next => rfl

theorem nodup_named {fields : List (String × Json)} (distinct : (fields.map (·.1)).Nodup) :
    ((named fields).map (·.1)).Nodup := by
  have names : (named fields).map (·.1) = (fields.map (·.1)).map CodePoints.ofString := by
    simp [named]
  rw [names]
  exact distinct.map fun _ _ => CodePoints.ofString_inj.mp

theorem readsBack_record {fields : List (String × Json)} (distinct : (fields.map (·.1)).Nodup)
    (plain : ∀ field ∈ fields, field.2.IsPlain) (each : ∀ field ∈ fields, field.2.ReadsBack) :
    ReadsBack (.record fields) := by
  intro fuel limit rest enough
  have written : (Json.record fields).chars ++ rest =
      '{' :: (chars.fieldChars (named fields) ++ '}' :: rest) := by
    simp [record, chars]
  rw [record, chars, List.cons_append, List.length_cons, List.length_append,
    List.length_singleton] at enough
  obtain _ | fuel := fuel
  · omega
  rw [written, record, depth]
  obtain _ | limit := limit
  · rfl
  simp only [Nat.add_le_add_iff_right]
  cases fields with
  | nil => simp [readValue, chars.fieldChars, skipSpace_cons, fieldsDepth, named]
  | cons field others =>
    have skipped := skipSpace_fieldChars field others ('}' :: rest)
    rw [readValue_object, skipped, readFields_fieldChars (List.cons_ne_nil field others) plain each
      (nodup_named distinct) (by omega)]
    · rfl
    · intro tail closed
      obtain ⟨front, opened⟩ := exists_fieldChars field others
      rw [skipped, opened] at closed
      exact absurd (List.head_eq_of_cons_eq closed) (by decide)

/-! ## Documents -/

theorem field?_record (fields : List (String × Json)) (name : String) :
    (Json.record fields).field? name = fields.lookup name := by
  rw [record, field?]
  induction fields with
  | nil => rfl
  | cons field rest ih =>
    have same : (CodePoints.ofString name == CodePoints.ofString field.1) = (name == field.1) := by
      rw [Bool.eq_iff_iff, beq_iff_eq, beq_iff_eq, CodePoints.ofString_inj]
    rw [named, List.map_cons, List.lookup_cons, List.lookup_cons, same, ← named, ih]

theorem IsPlain.readsBack (plain : json.IsPlain) : json.ReadsBack := by
  induction plain with
  | null => exact readsBack_null
  | bool value => exact readsBack_bool value
  | str unpaired => exact readsBack_str unpaired
  | arr plain each => exact readsBack_arr plain each
  | record distinct plain each => exact readsBack_record distinct plain each

/-- A document that was written is read just when no more is open in it than the reader keeps track of;
otherwise the reader says so. -/
theorem ofChars_chars (plain : json.IsPlain) (limit : Nat) : ofChars limit json.chars =
    if json.depth ≤ limit then .ok json else .error .tooDeep := by
  have skipped := skipSpace_chars plain []
  have read := plain.readsBack (json.chars.length + 1) limit [] (Nat.le_succ _)
  rw [List.append_nil] at skipped read
  rw [ofChars, skipped, read]
  split <;> rfl

theorem decode?_text (json : Json) : Text.decode? (Bytes.ofString json.text) = some json.chars := by
  rw [Bytes.ofString, text, String.toList_ofList, Text.decode?_encode]

end Json

end Netboot
