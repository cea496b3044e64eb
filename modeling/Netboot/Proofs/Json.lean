import Mathlib.Data.List.Nodup
import Netboot.Json.Reader
import Netboot.Proofs.Keyed
import Netboot.Proofs.Result

/-! Documents that are read. However often a name is written in an object, the object has one field of
that name; and no more arrays and objects are open in one another than the reader keeps track of.
-/

set_option autoImplicit false

namespace Netboot.Json

/-- No object in the value has two fields of one name. -/
inductive IsKeyed : Json → Prop where
  | null : IsKeyed .null
  | bool (value : Bool) : IsKeyed (.bool value)
  | int (value : Int) : IsKeyed (.int value)
  | float (value : Float) : IsKeyed (.float value)
  | str (value : CodePoints) : IsKeyed (.str value)
  | arr {items : List Json} (each : ∀ item ∈ items, IsKeyed item) : IsKeyed (.arr items)
  | obj {fields : List (CodePoints × Json)} (distinct : (fields.map (·.1)).Nodup)
      (each : ∀ field ∈ fields, IsKeyed field.2) : IsKeyed (.obj fields)

mutual

/-- How many arrays and objects are open in one another. -/
def depth : Json → Nat
  | .arr items => itemsDepth items + 1
  | .obj fields => fieldsDepth fields + 1
  | _ => 0

def itemsDepth : List Json → Nat
  | [] => 0
  | item :: rest => max item.depth (itemsDepth rest)

def fieldsDepth : List (CodePoints × Json) → Nat
  | [] => 0
  | (_, value) :: rest => max value.depth (fieldsDepth rest)

end

variable {fields : List (CodePoints × Json)} {items : List Json} {name : CodePoints} {value : Json}
  {text rest : List Char} {limit : Nat}

theorem itemsDepth_le_iff : itemsDepth items ≤ limit ↔ ∀ item ∈ items, item.depth ≤ limit := by
  induction items with
  | nil => simp [itemsDepth]
  | cons item rest ih => rw [itemsDepth, Nat.max_le, ih, List.forall_mem_cons]

theorem fieldsDepth_le_iff :
    fieldsDepth fields ≤ limit ↔ ∀ field ∈ fields, field.2.depth ≤ limit := by
  induction fields with
  | nil => simp [fieldsDepth]
  | cons field rest ih => rw [fieldsDepth, Nat.max_le, ih, List.forall_mem_cons]

theorem isKeyed_arr_iff :
    (arr items).IsKeyed ↔ ∀ item ∈ items, item.IsKeyed := by
  constructor
  · intro keyed
    cases keyed with
    | arr each => exact each
  · exact .arr

theorem isKeyed_obj_iff : (obj fields).IsKeyed ↔
    (fields.map (·.1)).Nodup ∧ ∀ field ∈ fields, field.2.IsKeyed := by
  constructor
  · intro keyed
    cases keyed with
    | obj distinct each => exact ⟨distinct, each⟩
  · exact fun ⟨distinct, each⟩ => .obj distinct each

theorem isKeyed_of_field? {json : Json} {name : String} (keyed : json.IsKeyed)
    (found : json.field? name = some value) : value.IsKeyed := by
  cases keyed with
  | obj _ each => exact each (name, value) (mem_of_lookup found)
  | _ => cases found

/-- A field is set in its place, or behind the fields of other names. -/
theorem names_setField (fields : List (CodePoints × Json)) (name : CodePoints) (value : Json) :
    (setField fields name value).map (·.1) =
      if (fields.lookup name).isSome then fields.map (·.1) else fields.map (·.1) ++ [name] := by
  unfold setField
  split
  · rw [List.map_map]
    refine List.map_congr_left fun field _ => ?_
    simp only [Function.comp_apply]
    split
    next same => exact (eq_of_beq same).symm
    next => rfl
  · rw [List.map_append, List.map_singleton]

theorem mem_setField {field : CodePoints × Json} (member : field ∈ setField fields name value) :
    field = (name, value) ∨ field ∈ fields := by
  unfold setField at member
  split at member
  · obtain ⟨before, among, same⟩ := List.mem_map.mp member
    split at same
    · exact .inl same.symm
    · exact .inr (same ▸ among)
  · obtain among | last := List.mem_append.mp member
    · exact .inr among
    · exact .inl (List.mem_singleton.mp last)

theorem isKeyed_setField (keyed : (obj fields).IsKeyed) (new : value.IsKeyed) (name : CodePoints) :
    (obj (setField fields name value)).IsKeyed := by
  obtain ⟨distinct, each⟩ := isKeyed_obj_iff.mp keyed
  refine .obj ?_ fun field member => ?_
  · rw [names_setField]
    split
    · exact distinct
    next unused =>
      refine List.nodup_append.mpr ⟨distinct, List.nodup_singleton name, ?_⟩
      rintro other listed _ last rfl
      rw [List.mem_singleton] at last
      obtain ⟨field, among, rfl⟩ := List.mem_map.mp listed
      exact unused (List.lookup_isSome_iff.mpr ⟨field, among, by simp [last]⟩)
  · obtain rfl | among := mem_setField member
    · exact new
    · exact each field among

theorem eq_some_of_orElse {α : Type} {first second : Option α} {result : α}
    (read : (first <|> second) = some result) : first = some result ∨ second = some result := by
  cases first with
  | none => exact .inr read
  | some found => exact .inl read

theorem eq_of_word? {word : String} {meant : Json} (read : word? word meant text = some (value, rest)) :
    value = meant := by
  unfold word? at read
  split at read
  · exact (Prod.mk.inj (Option.some.inj read)).1.symm
  · cases read

def IsLeaf (json : Json) : Prop := json.IsKeyed ∧ json.depth = 0

theorem isLeaf_of_number? (read : number? text = some (value, rest)) : value.IsLeaf := by
  unfold number? at read
  split at read
  split at read
  split at read
  · cases read
  split at read
  split at read
  split at read
  · split at read
    · cases read
    · cases read
      exact ⟨.int _, rfl⟩
  · cases read
    exact ⟨.float _, rfl⟩

theorem isLeaf_of_scalar? (read : scalar? text = some (value, rest)) : value.IsLeaf := by
  obtain word | read := eq_some_of_orElse read
  · exact eq_of_word? word ▸ ⟨.null, rfl⟩
  obtain word | read := eq_some_of_orElse read
  · exact eq_of_word? word ▸ ⟨.bool true, rfl⟩
  obtain word | read := eq_some_of_orElse read
  · exact eq_of_word? word ▸ ⟨.bool false, rfl⟩
  obtain word | read := eq_some_of_orElse read
  · exact eq_of_word? word ▸ ⟨.float _, rfl⟩
  obtain word | read := eq_some_of_orElse read
  · exact eq_of_word? word ▸ ⟨.float _, rfl⟩
  obtain word | read := eq_some_of_orElse read
  · exact eq_of_word? word ▸ ⟨.float _, rfl⟩
  · exact isLeaf_of_number? read

theorem some_of_wellFormed {α : Type} {found? : Option α} {found : α}
    (read : wellFormed found? = .ok found) : found? = some found := by
  cases found? with
  | none => cases read
  | some other => exact congrArg some (Except.ok.inj read)

/-- What a reader may leave that keeps track of `limit` arrays and objects. -/
structure Sound (limit : Nat) (json : Json) : Prop where
  keyed : json.IsKeyed
  shallow : json.depth ≤ limit

theorem sound_arr_iff : (arr items).Sound (limit + 1) ↔ ∀ item ∈ items, item.Sound limit := by
  constructor
  · intro sound item member
    have shallow : itemsDepth items ≤ limit := Nat.le_of_succ_le_succ sound.shallow
    exact ⟨isKeyed_arr_iff.mp sound.keyed item member, itemsDepth_le_iff.mp shallow item member⟩
  · intro each
    refine ⟨isKeyed_arr_iff.mpr fun item member => (each item member).keyed, ?_⟩
    exact Nat.succ_le_succ (itemsDepth_le_iff.mpr fun item member => (each item member).shallow)

theorem sound_empty_arr : (arr []).Sound (limit + 1) := sound_arr_iff.mpr (by simp)

theorem sound_empty_obj : (obj []).Sound (limit + 1) :=
  ⟨.obj List.nodup_nil (by simp), Nat.succ_le_succ (Nat.zero_le limit)⟩

theorem sound_setField (sound : (obj fields).Sound (limit + 1)) (new : value.Sound limit)
    (name : CodePoints) : (obj (setField fields name value)).Sound (limit + 1) := by
  have shallow : fieldsDepth fields ≤ limit := Nat.le_of_succ_le_succ sound.shallow
  refine ⟨isKeyed_setField sound.keyed new.keyed name, Nat.succ_le_succ ?_⟩
  refine fieldsDepth_le_iff.mpr fun field member => ?_
  obtain rfl | among := mem_setField member
  · exact new.shallow
  · exact fieldsDepth_le_iff.mp shallow field among

structure ReadsSound (fuel : Nat) : Prop where
  value : ∀ {limit text value rest}, readValue fuel limit text = .ok (value, rest) → value.Sound limit
  items : ∀ {read limit text value rest}, (arr read).Sound (limit + 1) →
    readItems read fuel limit text = .ok (value, rest) → value.Sound (limit + 1)
  fields : ∀ {read limit text value rest}, (obj read).Sound (limit + 1) →
    readFields read fuel limit text = .ok (value, rest) → value.Sound (limit + 1)

theorem readsSound (fuel : Nat) : ReadsSound fuel := by
  -- Values, items and fields read one another, so all three go through one induction on the fuel.
  induction fuel with
  | zero =>
    refine ⟨fun read => ?_, fun _ read => ?_, fun _ read => ?_⟩
    all_goals cases read
  | succ fuel ih =>
    refine ⟨fun read => ?_, fun sound read => ?_, fun sound read => ?_⟩
    · unfold readValue at read
      split at read
      · cases read
      next same =>
        obtain ⟨⟨text, rest⟩, -, same⟩ := ok_of_bind read
        cases same
        exact ⟨.str text, Nat.zero_le _⟩
      · cases read
      · cases read
      next same =>
        cases same
        split at read
        · cases read
          exact sound_empty_arr
        · exact ih.items sound_empty_arr read
      next same =>
        cases same
        split at read
        · cases read
          exact sound_empty_obj
        · exact ih.fields sound_empty_obj read
      · obtain ⟨keyed, leaf⟩ := isLeaf_of_scalar? (some_of_wellFormed read)
        exact ⟨keyed, leaf ▸ Nat.zero_le _⟩
    · unfold readItems at read
      obtain ⟨⟨item, rest⟩, first, read⟩ := ok_of_bind read
      -- The items read so far are sound, as an array of their own.
      have grown := List.forall_mem_cons.mpr ⟨ih.value first, sound_arr_iff.mp sound⟩
      dsimp only at read
      split at read
      · exact ih.items (sound_arr_iff.mpr grown) read
      · cases read
        exact sound_arr_iff.mpr fun item member => grown item (List.mem_reverse.mp member)
      · cases read
    · unfold readFields at read
      split at read
      · cases read
      next same =>
        cases same
        obtain ⟨⟨name, rest⟩, -, read⟩ := ok_of_bind read
        dsimp only at read
        split at read
        · obtain ⟨⟨value, rest⟩, given, read⟩ := ok_of_bind read
          -- A name given twice replaces the field before, so names stay distinct.
          have grown := sound_setField sound (ih.value given)
          dsimp only at read
          split at read
          · exact ih.fields (grown _) read
          · cases read
            exact grown _
          · cases read
        · cases read
      · cases read

/-- Every document that is read has distinct names in each of its objects, and is as shallow as the
reader demands. -/
theorem sound_of_ofChars (read : ofChars limit text = .ok value) : value.Sound limit := by
  obtain ⟨⟨found, rest⟩, given, read⟩ := ok_of_bind read
  dsimp only at read
  split at read
  · cases read
    exact (readsSound _).value given
  · cases read

end Netboot.Json
