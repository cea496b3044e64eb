import Netboot.Proofs.Keyed
import Netboot.Query

/-! The two readings of a query.

The strict reading refuses a field that does not decode; the lenient one refuses none and keeps the
first of several fields with one key. Where the strict reading succeeds the two see the same fields.
-/

set_option autoImplicit false

namespace Netboot

theorem Text.decodeEscaping_of_decode? {bytes : Bytes} {text : List Char}
    (decoded : Text.decode? bytes = some text) : Query.decodeEscaping bytes = text := by
  induction bytes using Query.decodeEscaping.induct generalizing text with
  | case1 =>
    rw [Text.decode?] at decoded
    cases decoded
    rw [Query.decodeEscaping]
  | case2 a rest c n found ih =>
    simp only [Text.decode?, found, Option.map_eq_some_iff] at decoded
    obtain ⟨others, read, rfl⟩ := decoded
    simp only [Query.decodeEscaping, found, ih read]
  | case3 a rest unknown =>
    simp only [Text.decode?, unknown] at decoded
    cases decoded

namespace Query

variable {text : List Char} {pairs : List (String × String)} {key : String}

/-! ## The same fields -/

theorem lenientComponent_of_component {side : String} (read : component text = .ok side) :
    lenientComponent text = side := by
  unfold component at read
  split at read
  next decoded found =>
    cases read
    rw [lenientComponent, Text.decodeEscaping_of_decode? found]
  · cases read

theorem lenientField_of_field {pair : String × String} (read : field text = .ok pair) :
    lenientField text = pair ∧ text ≠ [] := by
  unfold field at read
  cases cut : Text.cut? '=' text with
  | none =>
    rw [cut] at read
    cases read
  | some sides =>
    obtain ⟨before, after⟩ := sides
    simp only [cut] at read
    cases key : component before with
    | error fault =>
      rw [key] at read
      cases read
    | ok k =>
      cases value : component after with
      | error fault =>
        rw [key, value] at read
        cases read
      | ok v =>
        rw [key, value] at read
        cases read
        refine ⟨?_, ?_⟩
        · simp only [lenientField, cut, lenientComponent_of_component key,
            lenientComponent_of_component value]
        · rintro rfl
          cases cut

theorem lenientFields_of_fields {texts : List (List Char)} (read : texts.mapM field = .ok pairs) :
    (texts.filter (!·.isEmpty)).map lenientField = pairs := by
  induction texts generalizing pairs with
  | nil =>
    cases read
    rfl
  | cons text texts ih =>
    rw [List.mapM_cons] at read
    cases first : field text with
    | error fault =>
      rw [first] at read
      cases read
    | ok pair =>
      cases rest : texts.mapM field with
      | error fault =>
        rw [first, rest] at read
        cases read
      | ok others =>
        rw [first, rest] at read
        cases read
        obtain ⟨same, nonempty⟩ := lenientField_of_field first
        rw [List.filter_cons_of_pos (by simpa using nonempty), List.map_cons, same, ih rest]

theorem labels?_of_pairs {query : Bytes} (read : Query.pairs query = .ok pairs) :
    labels? query = some (firstOfEach pairs) := by
  unfold Query.pairs at read
  split at read
  next text decoded =>
    rw [labels?, decoded, Option.map_some]
    unfold pairsOfChars at read
    split at read
    next empty =>
      cases read
      rw [List.isEmpty_iff.mp empty]
      rfl
    · rw [lenientFields_of_fields read]
  · cases read

/-! ## Keys that occur more than once -/

theorem lookup_firstOfEach (pairs : List (String × String)) (key : String) :
    (firstOfEach pairs).lookup key = pairs.lookup key := by
  -- By induction on the pairs still to come, for any that are kept already.
  have steps : ∀ kept : List (String × String),
      (pairs.foldl (fun kept pair =>
        if (kept.lookup pair.1).isSome then kept else kept ++ [pair]) kept).lookup key =
        (kept ++ pairs).lookup key := by
    induction pairs with
    | nil => simp
    | cons pair pairs ih =>
      intro kept
      rw [List.foldl_cons, ih]
      split
      next known =>
        rw [List.lookup_append, List.lookup_append, List.lookup_cons]
        split
        next same =>
          obtain ⟨value, found⟩ := Option.isSome_iff_exists.mp known
          rw [eq_of_beq same, found]
          rfl
        · rfl
      · rw [List.append_assoc]
        rfl
  exact steps []

theorem firstOfEach_of_nodup (once : (pairs.map (·.1)).Nodup) : firstOfEach pairs = pairs := by
  -- By induction on the pairs still to come, for any that are kept already.
  have steps : ∀ kept : List (String × String), ((kept ++ pairs).map (·.1)).Nodup →
      pairs.foldl (fun kept pair =>
        if (kept.lookup pair.1).isSome then kept else kept ++ [pair]) kept = kept ++ pairs := by
    clear once
    induction pairs with
    | nil => simp
    | cons pair pairs ih =>
      intro kept once
      have new : kept.lookup pair.1 = none := by
        rw [List.lookup_eq_none_iff]
        intro other member
        rw [List.map_append, List.nodup_append] at once
        rw [bne_iff_ne]
        exact fun same => once.2.2 other.1 (List.mem_map_of_mem member) pair.1
          (List.mem_map_of_mem List.mem_cons_self) same.symm
      rw [List.foldl_cons, new, Option.isSome_none, if_neg Bool.false_ne_true, ih _ (by simpa using once),
        List.append_assoc, List.singleton_append]
  exact steps [] once

theorem lastValue_of_mem (once : (pairs.map (·.1)).Nodup) {pair : String × String}
    (member : pair ∈ pairs) : lastValue pairs pair.1 = pair.2 := by
  rw [lastValue, ← lookup_of_perm once (List.reverse_perm pairs).symm, lookup_of_mem once member,
    Option.getD_some]

def Agrees (pairs : List (String × String)) (key : String) : Prop :=
  ∀ p ∈ pairs, ∀ q ∈ pairs, p.1 = key → q.1 = key → p.2 = q.2

instance (pairs : List (String × String)) (key : String) : Decidable (Agrees pairs key) :=
  inferInstanceAs (Decidable (∀ p ∈ pairs, ∀ q ∈ pairs, p.1 = key → q.1 = key → p.2 = q.2))

theorem lookup_of_lastValue (agrees : Agrees pairs key) (given : lastValue pairs key ≠ "") :
    pairs.lookup key = some (lastValue pairs key) := by
  cases last : pairs.reverse.lookup key with
  | none =>
    rw [lastValue, last] at given
    exact absurd rfl given
  | some value =>
    rw [lastValue, last, Option.getD_some]
    have inPairs := List.mem_reverse.mp (mem_of_lookup last)
    cases first : pairs.lookup key with
    | none => exact absurd (List.lookup_eq_none_iff.mp first _ inPairs) (by simp)
    | some other => exact congrArg some (agrees _ (mem_of_lookup first) _ inPairs rfl rfl)

end Query

end Netboot
