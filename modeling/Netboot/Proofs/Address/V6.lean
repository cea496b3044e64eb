import Mathlib.Data.List.Nodup
import Netboot.Address.V6
import Netboot.Proofs.Text.Fields
import Netboot.Proofs.Text.Hex

/-! The text of an IPv6 address without a zone reads back as the address.

The longest run of zero groups is left out between two colons, and is filled up again.
-/

set_option autoImplicit false

namespace Netboot

namespace V6

/-! ## Groups -/

def IsHex (c : Char) : Prop := ∃ n : Fin 16, c = Nat.digitChar n

theorem isHex_of_mem_toDigits {c : Char} {n : Nat} (member : c ∈ Nat.toDigits 16 n) : IsHex c := by
  induction n using Nat.strongRecOn with
  | _ n ih =>
    by_cases small : n < 16
    · rw [Nat.toDigits_of_lt_base small, List.mem_singleton] at member
      exact ⟨⟨n, small⟩, member⟩
    · rw [Text.toDigits_split small, List.mem_append, List.mem_singleton] at member
      obtain early | last := member
      · exact ih (n / 16) (by omega) early
      · exact ⟨⟨n % 16, Nat.mod_lt _ (by decide)⟩, last⟩

theorem IsHex.ne {c d : Char} (hex : IsHex c) (other : ∀ n : Fin 16, Nat.digitChar n ≠ d) : c ≠ d := by
  obtain ⟨n, rfl⟩ := hex
  exact other n

theorem toDigits_ne_nil (n : Nat) : Nat.toDigits 16 n ≠ [] := by
  by_cases small : n < 16
  · rw [Nat.toDigits_of_lt_base small]
    exact List.cons_ne_nil _ _
  · rw [Text.toDigits_split small]
    exact List.append_ne_nil_of_right_ne_nil _ (List.cons_ne_nil _ _)

theorem hex_eq (n : Nat) : Text.hex 1 n = Nat.toDigits 16 n := by
  have present := List.length_pos_iff.mpr (toDigits_ne_nil n)
  rw [Text.hex, Nat.sub_eq_zero_of_le present, List.replicate_zero, List.nil_append]

theorem group?_hex {n : Nat} (small : n < 2 ^ 16) : group? (Text.hex 1 n) = some n := by
  have present : (Nat.toDigits 16 n).isEmpty = false :=
    List.isEmpty_eq_false_iff.mpr (toDigits_ne_nil n)
  have short : decide (4 < (Nat.toDigits 16 n).length) = false := by
    have count := (Nat.length_toDigits_le_iff (b := 16) (k := 4) (by decide) (by decide)).mpr small
    exact decide_eq_false (Nat.not_lt.mpr count)
  rw [group?, hex_eq, present, short, Bool.false_or, if_neg Bool.false_ne_true, Text.value_toDigits]

theorem mapM_group? {groups : List Nat} (small : ∀ g ∈ groups, g < 2 ^ 16) :
    (groups.map (Text.hex 1)).mapM group? = some groups := by
  induction groups with
  | nil => rfl
  | cons g rest ih =>
    rw [List.map_cons, List.mapM_cons, group?_hex (small g List.mem_cons_self),
      ih fun g member => small g (.tail _ member)]
    rfl

theorem foldl_groups (n count : Nat) :
    ((List.range count).map fun i => n / 2 ^ (16 * (count - 1 - i)) % 2 ^ 16).foldl
      (fun n g => n * 2 ^ 16 + g) 0 = n % 2 ^ (16 * count) := by
  induction count generalizing n with
  | zero => rw [Nat.mul_zero, Nat.pow_zero, Nat.mod_one]; rfl
  | succ count ih =>
    -- All groups but the last are those of the number without its last group.
    have upper : ((List.range count).map fun i => n / 2 ^ (16 * (count + 1 - 1 - i)) % 2 ^ 16) =
        (List.range count).map fun i => n / 2 ^ 16 / 2 ^ (16 * (count - 1 - i)) % 2 ^ 16 := by
      refine List.map_congr_left fun i member => ?_
      have inside := List.mem_range.mp member
      rw [Nat.div_div_eq_div_mul, ← Nat.pow_add]
      congr 3
      omega
    have last : n / 2 ^ (16 * (count + 1 - 1 - count)) % 2 ^ 16 = n % 2 ^ 16 := by
      rw [Nat.add_sub_cancel, Nat.sub_self, Nat.mul_zero, Nat.pow_zero, Nat.div_one]
    have power : 2 ^ (16 * (count + 1)) = 2 ^ 16 * 2 ^ (16 * count) := by
      rw [← Nat.pow_add, Nat.mul_succ, Nat.add_comm]
    rw [List.range_succ, List.map_append, List.foldl_append, upper, ih, List.map_singleton, last,
      List.foldl_cons, List.foldl_nil, power, Nat.mod_mul, Nat.add_comm, Nat.mul_comm]

theorem length_groups (a : V6) : a.groups.length = 8 := rfl

theorem groups_small (a : V6) : ∀ g ∈ a.groups, g < 2 ^ 16 := by
  intro g member
  obtain ⟨i, -, rfl⟩ := List.mem_map.mp member
  exact Nat.mod_lt _ (by decide)

theorem ofGroups_groups (a : V6) : ofGroups a.groups a.zone = a := by
  have value : a.groups.foldl (fun n g => n * 2 ^ 16 + g) 0 = a.toNat := by
    have whole : a.toNat % 2 ^ (16 * 8) = a.toNat := Nat.mod_eq_of_lt a.bounded
    rw [← whole, ← foldl_groups]
    rfl
  obtain ⟨n, bounded, zone⟩ := a
  simp only [ofGroups, value, Nat.mod_eq_of_lt bounded]

/-! ## Runs of zero groups -/

theorem length_zeroRun_le (groups : List Nat) : zeroRun groups ≤ groups.length :=
  (List.takeWhile_prefix _).length_le

theorem take_zeroRun (groups : List Nat) :
    groups.take (zeroRun groups) = List.replicate (zeroRun groups) 0 := by
  refine List.eq_replicate_iff.mpr ⟨?_, fun g member => ?_⟩
  · rw [List.length_take, Nat.min_eq_left (length_zeroRun_le groups)]
  · have front : groups.take (zeroRun groups) = groups.takeWhile (· == 0) :=
      (List.prefix_iff_eq_take.mp (List.takeWhile_prefix _)).symm
    rw [front] at member
    exact eq_of_beq (List.all_eq_true.mp List.all_takeWhile g member)

theorem longestZeroRun_spec (groups : List Nat) :
    let run := longestZeroRun groups
    run.1 ≤ groups.length ∧ run.2 ≤ zeroRun (groups.drop run.1) := by
  have steps : ∀ (places : List Nat) (best : Nat × Nat), (∀ i ∈ places, i ≤ groups.length) →
      best.1 ≤ groups.length ∧ best.2 ≤ zeroRun (groups.drop best.1) →
      let run := places.foldl (fun best i =>
        let run := zeroRun (groups.drop i); if best.2 < run then (i, run) else best) best
      run.1 ≤ groups.length ∧ run.2 ≤ zeroRun (groups.drop run.1) := by
    intro places
    induction places with
    | nil => exact fun best _ holds => holds
    | cons i rest ih =>
      intro best inside holds
      refine ih _ (fun j member => inside j (.tail _ member)) ?_
      dsimp only
      split
      · exact ⟨inside i List.mem_cons_self, Nat.le_refl _⟩
      · exact holds
  exact steps _ (0, 0) (fun i member => Nat.le_of_lt (List.mem_range.mp member))
    ⟨Nat.zero_le _, Nat.zero_le _⟩

theorem fill_longestZeroRun (groups : List Nat) :
    let run := longestZeroRun groups
    groups.take run.1 ++ List.replicate run.2 0 ++ groups.drop (run.1 + run.2) = groups ∧
      run.1 + run.2 ≤ groups.length := by
  generalize seen : longestZeroRun groups = run
  have spec := longestZeroRun_spec groups
  rw [seen] at spec
  obtain ⟨inside, within⟩ := spec
  have zeros : (groups.drop run.1).take run.2 = List.replicate run.2 0 := by
    have shorter := congrArg (List.take run.2) (take_zeroRun (groups.drop run.1))
    rwa [List.take_take, Nat.min_eq_left within, List.take_replicate, Nat.min_eq_left within]
      at shorter
  have bound := Nat.le_trans within (length_zeroRun_le _)
  rw [List.length_drop] at bound
  refine ⟨?_, by omega⟩
  rw [← zeros, ← List.drop_drop, List.append_assoc, List.take_append_drop, List.take_append_drop]

/-! ## Texts -/

def spell (groups : List Nat) : List Char := [':'].intercalate (groups.map (Text.hex 1))

def edge (groups : List Nat) : List (List Char) :=
  if groups = [] then [[]] else groups.map (Text.hex 1)

variable {groups high low : List Nat}

theorem fields_spell (groups : List Nat) : Text.fields ':' (spell groups) = edge groups := by
  unfold edge spell
  split
  next none => rw [none]; rfl
  next some =>
    refine Text.fields_intercalate (by simpa using some) fun part member colon => ?_
    obtain ⟨g, -, rfl⟩ := List.mem_map.mp member
    rw [hex_eq] at colon
    exact (isHex_of_mem_toDigits colon).ne (by decide) rfl

theorem edge_of_nil_mem (empty : [] ∈ edge groups) : groups = [] := by
  unfold edge at empty
  split at empty
  next none => exact none
  next =>
    obtain ⟨g, -, blank⟩ := List.mem_map.mp empty
    rw [hex_eq] at blank
    exact absurd blank (toDigits_ne_nil g)

theorem edge_ne_nil (groups : List Nat) : edge groups ≠ [] := by
  unfold edge
  split
  · exact List.cons_ne_nil _ _
  next some => simpa using some

theorem length_edge (groups : List Nat) : (edge groups).length = max 1 groups.length := by
  unfold edge
  split
  next none => rw [none]; rfl
  next some =>
    have present := List.length_pos_iff.mpr some
    rw [List.length_map]
    omega

theorem spellQuad?_of_plain {parts : List (List Char)} (given : parts ≠ [])
    (plain : ∀ part ∈ parts, '.' ∉ part) : spellQuad? parts = some parts := by
  unfold spellQuad?
  cases last : parts.getLast? with
  | none => exact absurd (List.getLast?_eq_none_iff.mp last) given
  | some part =>
    have undotted : part.contains '.' = false := by
      simpa using plain part (List.mem_of_getLast? last)
    simp only [undotted, Bool.false_eq_true, if_false]

theorem not_mem_of_mem_edge {part : List Char} (member : part ∈ edge groups) : '.' ∉ part := by
  unfold edge at member
  split at member
  · rw [List.mem_singleton] at member
    simp [member]
  · obtain ⟨g, -, rfl⟩ := List.mem_map.mp member
    intro dot
    rw [hex_eq] at dot
    exact (isHex_of_mem_toDigits dot).ne (by decide) rfl

theorem filter_range_eq {count k : Nat} {p : Nat → Bool} (inside : k < count)
    (only : ∀ i < count, p i = true ↔ i = k) : (List.range count).filter p = [k] := by
  have same : (List.range count).filter p = (List.range count).filter (· == k) :=
    List.filter_congr fun i member => by
      rw [Bool.eq_iff_iff, beq_iff_eq]
      exact only i (List.mem_range.mp member)
  rw [same, List.filter_beq,
    List.count_eq_one_of_mem List.nodup_range (List.mem_range.mpr inside), List.replicate_one]

theorem groups?_spell (count : groups.length = 8) (small : ∀ g ∈ groups, g < 2 ^ 16) :
    groups? (spell groups) = some groups := by
  have some : groups ≠ [] := by
    rintro rfl
    cases count
  have parts : Text.fields ':' (spell groups) = groups.map (Text.hex 1) := by
    rw [fields_spell, edge, if_neg some]
  have whole : (groups.map (Text.hex 1)).length = 8 := by rw [List.length_map, count]
  have plain : spellQuad? (groups.map (Text.hex 1)) = Option.some (groups.map (Text.hex 1)) := by
    refine spellQuad?_of_plain (by simpa using some) fun part member => ?_
    refine @not_mem_of_mem_edge groups part ?_
    rwa [edge, if_neg some]
  have inner : ((List.range (groups.map (Text.hex 1)).length).filter fun i =>
      0 < i && i + 1 < (groups.map (Text.hex 1)).length &&
        (groups.map (Text.hex 1))[i]? == Option.some []) = [] := by
    rw [List.filter_eq_nil_iff]
    intro i _ held
    have blank := eq_of_beq (Bool.and_eq_true_iff.mp held).2
    refine some (edge_of_nil_mem ?_)
    rw [edge, if_neg some]
    exact List.mem_of_getElem? blank
  unfold groups?
  simp only [parts, whole, bind, Option.bind, plain] at inner ⊢
  rw [inner]
  simp [mapM_group? small]

theorem sides?_edge (short : high.length + low.length < 8) :
    sides? (edge high ++ [] :: edge low) (edge high).length =
      some (high.map (Text.hex 1), low.map (Text.hex 1)) := by
  have front : (edge high ++ [] :: edge low).take (edge high).length = edge high :=
    List.take_left
  have back : (edge high ++ [] :: edge low).drop ((edge high).length + 1) = edge low := by
    rw [← List.drop_drop, List.drop_left, List.drop_one, List.tail_cons]
  have first : (if (edge high).head? = some [] then
      (if (edge high).length = 1 then some [] else none) else some (edge high)) =
      some (high.map (Text.hex 1)) := by
    by_cases none : high = []
    · simp [edge, none]
    have solid : (edge high).head? ≠ some [] := fun blank =>
      none (edge_of_nil_mem (List.mem_of_mem_head? blank))
    rw [if_neg solid, edge, if_neg none]
  have last : (if (edge low).getLast? = some [] then
      (if (edge low).length = 1 then some [] else none) else some (edge low)) =
      some (low.map (Text.hex 1)) := by
    by_cases none : low = []
    · simp [edge, none]
    have solid : (edge low).getLast? ≠ some [] := fun blank =>
      none (edge_of_nil_mem (List.mem_of_getLast? blank))
    rw [if_neg solid, edge, if_neg none]
  have fits : (high.map (Text.hex 1)).length + (low.map (Text.hex 1)).length < 8 := by
    rwa [List.length_map, List.length_map]
  unfold sides?
  simp only [front, back, first, last, if_pos fits]

theorem blank_iff {i : Nat} (inside : i < (edge high ++ [] :: edge low).length) :
    (0 < i && i + 1 < (edge high ++ [] :: edge low).length &&
      (edge high ++ [] :: edge low)[i]? == some []) = true ↔ i = (edge high).length := by
  have front := List.length_pos_iff.mpr (edge_ne_nil high)
  have back := List.length_pos_iff.mpr (edge_ne_nil low)
  simp only [Bool.and_eq_true, decide_eq_true_eq, beq_iff_eq]
  rw [List.length_append, List.length_cons] at inside ⊢
  constructor
  · rintro ⟨⟨after, before⟩, blank⟩
    -- A side has a blank part only if it is nothing else: then that part is the first or the last.
    rcases Nat.lt_trichotomy i (edge high).length with left | here | right
    · rw [List.getElem?_append_left left] at blank
      have none := edge_of_nil_mem (List.mem_of_getElem? blank)
      have single := length_edge high
      rw [none] at left single
      simp only [List.length_nil] at single
      omega
    · exact here
    · obtain ⟨j, rfl⟩ := Nat.exists_eq_add_of_lt right
      have place : (edge high).length + j + 1 - (edge high).length = j + 1 := by omega
      rw [List.getElem?_append_right (Nat.le_of_lt right), place,
        List.getElem?_cons_succ] at blank
      have none := edge_of_nil_mem (List.mem_of_getElem? blank)
      have single := length_edge low
      rw [none] at before single
      simp only [List.length_nil] at single
      omega
  · rintro rfl
    refine ⟨⟨front, by omega⟩, ?_⟩
    rw [List.getElem?_append_right (Nat.le_refl _), Nat.sub_self, List.getElem?_cons_zero]

theorem groups?_abbreviated (short : high.length + low.length < 7)
    (small : ∀ g ∈ high ++ low, g < 2 ^ 16) :
    groups? (spell high ++ [':', ':'] ++ spell low) =
      some (high ++ List.replicate (8 - (high.length + low.length)) 0 ++ low) := by
  have parts : Text.fields ':' (spell high ++ [':', ':'] ++ spell low) =
      edge high ++ [] :: edge low := by
    have joined : spell high ++ [':', ':'] ++ spell low =
        spell high ++ ':' :: ([] ++ ':' :: spell low) := by simp
    rw [joined, Text.fields_append_mark, Text.fields_append_mark, fields_spell, fields_spell]
    rfl
  have plain : spellQuad? (edge high ++ [] :: edge low) = some (edge high ++ [] :: edge low) := by
    refine spellQuad?_of_plain (List.append_ne_nil_of_left_ne_nil (edge_ne_nil high) _) ?_
    intro part member
    rw [List.mem_append, List.mem_cons] at member
    rcases member with front | rfl | back
    · exact not_mem_of_mem_edge front
    · exact List.not_mem_nil
    · exact not_mem_of_mem_edge back
  -- A side without groups still makes one part, the blank one.
  have count : (edge high ++ [] :: edge low).length = max 1 high.length + (max 1 low.length + 1) := by
    rw [List.length_append, List.length_cons, length_edge, length_edge]
  have many : ¬ (edge high ++ [] :: edge low).length < 3 := by omega
  have few : ¬ 9 < (edge high ++ [] :: edge low).length := by omega
  have place : (edge high).length < (edge high ++ [] :: edge low).length := by
    rw [List.length_append, List.length_cons]
    omega
  have inner := filter_range_eq place fun i inside => blank_iff inside
  have upper := mapM_group? fun g member => small g (List.mem_append_left low member)
  have lower := mapM_group? fun g member => small g (List.mem_append_right high member)
  unfold groups?
  simp only [parts, if_neg many, if_neg few, bind, Option.bind, plain, inner,
    sides?_edge (Nat.lt_succ_of_lt short), upper, lower, pure]

def shortened (groups : List Nat) : List Char :=
  let run := longestZeroRun groups
  if run.2 < 2 then spell groups
  else spell (groups.take run.1) ++ [':', ':'] ++ spell (groups.drop (run.1 + run.2))

theorem toList_text (a : V6) :
    a.text.toList = shortened a.groups ++ ((a.zone.map ("%" ++ ·)).getD "").toList := by
  have chars := @String.toList_ofList (shortened a.groups)
  rw [← chars, ← String.toList_append]
  obtain ⟨_, _, _ | zone⟩ := a <;> rfl

theorem groups?_shortened (count : groups.length = 8) (small : ∀ g ∈ groups, g < 2 ^ 16) :
    groups? (shortened groups) = some groups := by
  obtain ⟨filled, inside⟩ := fill_longestZeroRun groups
  unfold shortened
  dsimp only
  split
  next => exact groups?_spell count small
  next long =>
    generalize longestZeroRun groups = run at filled inside long
    have high : (groups.take run.1).length = run.1 := by
      rw [List.length_take]
      omega
    have low : (groups.drop (run.1 + run.2)).length = 8 - (run.1 + run.2) := by
      rw [List.length_drop, count]
    have zeros : 8 - ((groups.take run.1).length + (groups.drop (run.1 + run.2)).length) = run.2 := by
      omega
    rw [groups?_abbreviated (by omega), zeros, filled]
    intro g member
    rw [List.mem_append] at member
    exact small g (member.elim List.mem_of_mem_take List.mem_of_mem_drop)

theorem isHex_or_eq_of_mem_shortened {c : Char} (member : c ∈ shortened groups) :
    IsHex c ∨ c = ':' := by
  have spelled (groups : List Nat) (member : c ∈ spell groups) : IsHex c ∨ c = ':' := by
    obtain rfl | ⟨part, among, within⟩ := Text.mem_intercalate member
    · exact .inr rfl
    · obtain ⟨g, -, rfl⟩ := List.mem_map.mp among
      rw [hex_eq] at within
      exact .inl (isHex_of_mem_toDigits within)
  unfold shortened at member
  dsimp only at member
  split at member
  · exact spelled groups member
  · rw [List.mem_append, List.mem_append] at member
    rcases member with (front | colon) | back
    · exact spelled _ front
    · exact .inr (by simpa using colon)
    · exact spelled _ back

theorem parse?_text {a : V6} (unzoned : a.zone = none) : parse? a.text = some a := by
  have chars : a.text.toList = shortened a.groups := by
    rw [toList_text, unzoned]
    simp
  have absent (d : Char) (other : ∀ n : Fin 16, Nat.digitChar n ≠ d) (solid : ':' ≠ d) :
      d ∉ shortened a.groups := by
    intro member
    obtain hex | colon := isHex_or_eq_of_mem_shortened member
    · exact hex.ne other rfl
    · exact solid colon.symm
  have whole : (shortened a.groups).contains '/' = false := by
    simpa using absent '/' (by decide) (by decide)
  have uncut : Text.cut? '%' (shortened a.groups) = none :=
    Text.cut?_eq_none_iff.mpr (absent '%' (by decide) (by decide))
  rw [parse?, chars, whole, if_neg Bool.false_ne_true, uncut,
    groups?_shortened a.length_groups a.groups_small]
  exact congrArg some (unzoned ▸ ofGroups_groups a)

theorem zone_of_parse? {text : String} {a : V6} (marked : '%' ∈ text.toList)
    (parsed : parse? text = some a) : a.zone.isSome = true := by
  unfold parse? at parsed
  split at parsed
  · cases parsed
  split at parsed
  next uncut => exact absurd marked (Text.cut?_eq_none_iff.mp uncut)
  next =>
    split at parsed
    · cases parsed
    · obtain ⟨groups, -, rfl⟩ := Option.map_eq_some_iff.mp parsed
      rfl

end V6

end Netboot
