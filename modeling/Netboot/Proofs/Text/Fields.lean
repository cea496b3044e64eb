import Netboot.Text.Blank

/-! Texts within texts: joined with a mark and told apart at it again, or found there. -/

set_option autoImplicit false

namespace Netboot.Text

variable {mark c : Char} {field before after text : List Char} {parts : List (List Char)}

theorem mem_intercalate (member : c ∈ [mark].intercalate parts) :
    c = mark ∨ ∃ part ∈ parts, c ∈ part := by
  induction parts with
  | nil => cases member
  | cons first rest ih =>
    by_cases last : rest = []
    · rw [last, List.intercalate_singleton] at member
      exact .inr ⟨first, List.mem_cons_self, member⟩
    rw [List.intercalate_cons_of_ne_nil last, List.append_assoc, List.mem_append,
      List.singleton_append, List.mem_cons] at member
    rcases member with here | rfl | later
    · exact .inr ⟨first, List.mem_cons_self, here⟩
    · exact .inl rfl
    · exact (ih later).imp_right fun ⟨part, among, within⟩ => ⟨part, .tail _ among, within⟩

theorem map_intercalate (f : Char → Char) :
    ([mark].intercalate parts).map f = [f mark].intercalate (parts.map (·.map f)) := by
  induction parts with
  | nil => rfl
  | cons first rest ih =>
    by_cases last : rest = []
    · simp [last]
    · have others : rest.map (·.map f) ≠ [] := by simpa using last
      rw [List.map_cons, List.intercalate_cons_of_ne_nil last,
        List.intercalate_cons_of_ne_nil others, List.map_append, List.map_append, ih]
      rfl

theorem intercalate_concat (given : parts ≠ []) (last : List Char) :
    [mark].intercalate (parts ++ [last]) = [mark].intercalate parts ++ mark :: last := by
  induction parts with
  | nil => contradiction
  | cons first rest ih =>
    have more : rest ++ [last] ≠ [] := List.append_ne_nil_of_right_ne_nil rest (List.cons_ne_nil _ _)
    rw [List.cons_append, List.intercalate_cons_of_ne_nil more]
    by_cases only : rest = []
    · simp [only]
    · rw [ih only, List.intercalate_cons_of_ne_nil only, List.append_assoc _ _ (mark :: last)]

theorem getLast?_intercalate (given : parts ≠ []) (filled : ∀ part ∈ parts, part ≠ []) :
    ∃ part ∈ parts, ([mark].intercalate parts).getLast? = part.getLast? := by
  induction parts with
  | nil => contradiction
  | cons first rest ih =>
    by_cases last : rest = []
    · exact ⟨first, List.mem_cons_self, by simp [last]⟩
    obtain ⟨part, member, same⟩ := ih last fun part member => filled part (.tail _ member)
    refine ⟨part, .tail _ member, ?_⟩
    have shown : part.getLast? ≠ none := by simpa using filled part (.tail _ member)
    rw [List.intercalate_cons_of_ne_nil last, List.getLast?_append, same]
    exact Option.or_of_isSome (Option.isSome_iff_ne_none.mpr shown)

theorem fields_of_not_mem (absent : mark ∉ field) : fields mark field = [field] := by
  induction field with
  | nil => rfl
  | cons c rest ih =>
    rw [List.mem_cons, not_or] at absent
    rw [fields, if_neg (Ne.symm absent.1), ih absent.2]

theorem fields_ne_nil (text : List Char) : fields mark text ≠ [] := by
  cases text with
  | nil => exact List.cons_ne_nil _ _
  | cons c rest =>
    rw [fields]
    split
    · exact List.cons_ne_nil _ _
    · split <;> exact List.cons_ne_nil _ _

theorem fields_append_mark (front back : List Char) :
    fields mark (front ++ mark :: back) = fields mark front ++ fields mark back := by
  induction front with
  | nil => simp [fields]
  | cons c rest ih =>
    rw [List.cons_append, fields, fields]
    by_cases marked : c = mark
    · rw [if_pos marked, if_pos marked, ih, List.cons_append]
    rw [if_neg marked, if_neg marked, ih]
    cases first : fields mark rest with
    | nil => exact absurd first (fields_ne_nil rest)
    | cons field others => rfl

theorem fields_append (absent : mark ∉ field) (text : List Char) :
    fields mark (field ++ mark :: text) = field :: fields mark text := by
  rw [fields_append_mark, fields_of_not_mem absent, List.singleton_append]

theorem fields_intercalate (given : parts ≠ []) (absent : ∀ part ∈ parts, mark ∉ part) :
    fields mark ([mark].intercalate parts) = parts := by
  induction parts with
  | nil => contradiction
  | cons first rest ih =>
    have here := absent first List.mem_cons_self
    by_cases last : rest = []
    · rw [last, List.intercalate_singleton]
      exact fields_of_not_mem here
    have others := ih last fun part member => absent part (.tail _ member)
    rw [List.intercalate_cons_of_ne_nil last, List.append_assoc, List.singleton_append,
      fields_append here, others]

theorem intercalate_fields (mark : Char) (text : List Char) :
    [mark].intercalate (fields mark text) = text := by
  induction text with
  | nil => rfl
  | cons c rest ih =>
    rw [fields]
    cases split : fields mark rest with
    | nil => exact absurd split (fields_ne_nil rest)
    | cons field others =>
      rw [split] at ih
      by_cases marked : c = mark
      · rw [if_pos marked, List.intercalate_cons_of_ne_nil (List.cons_ne_nil _ _), ih, marked]
        rfl
      · rw [if_neg marked]
        by_cases last : others = []
        · simpa [last] using ih
        · dsimp only
          rw [List.intercalate_cons_of_ne_nil last] at ih ⊢
          rw [List.cons_append, List.cons_append, ih]

theorem not_mem_of_mem_fields (member : field ∈ fields mark text) : mark ∉ field := by
  induction text generalizing field with
  | nil =>
    rw [List.mem_singleton.mp member]
    exact List.not_mem_nil
  | cons c rest ih =>
    rw [fields] at member
    cases split : fields mark rest with
    | nil => exact absurd split (fields_ne_nil rest)
    | cons first others =>
      rw [split] at ih member
      by_cases marked : c = mark
      · rw [if_pos marked] at member
        obtain rfl | later := List.mem_cons.mp member
        · exact List.not_mem_nil
        · exact ih later
      · rw [if_neg marked] at member
        obtain rfl | later := List.mem_cons.mp member
        · rw [List.mem_cons, not_or]
          exact ⟨Ne.symm marked, ih List.mem_cons_self⟩
        · exact ih (.tail _ later)

theorem cut?_eq_none_iff : cut? mark text = none ↔ mark ∉ text := by
  induction text with
  | nil => exact iff_of_true rfl List.not_mem_nil
  | cons c rest ih =>
    rw [cut?, List.mem_cons, not_or]
    by_cases marked : c = mark
    · rw [if_pos marked]
      exact iff_of_false nofun fun apart => apart.1 marked.symm
    · rw [if_neg marked, Option.map_eq_none_iff, ih]
      exact ⟨fun absent => ⟨Ne.symm marked, absent⟩, And.right⟩

theorem cut?_append (absent : mark ∉ before) (after : List Char) :
    cut? mark (before ++ mark :: after) = some (before, after) := by
  induction before with
  | nil => exact if_pos rfl
  | cons c rest ih =>
    rw [List.mem_cons, not_or] at absent
    rw [List.cons_append, cut?, if_neg (Ne.symm absent.1), ih absent.2]
    rfl

theorem of_cut? (cut : cut? mark text = some (before, after)) :
    text = before ++ mark :: after ∧ mark ∉ before := by
  induction text generalizing before with
  | nil => cases cut
  | cons c rest ih =>
    rw [cut?] at cut
    by_cases marked : c = mark
    · rw [if_pos marked] at cut
      cases cut
      exact ⟨marked ▸ rfl, List.not_mem_nil⟩
    · rw [if_neg marked] at cut
      obtain ⟨⟨front, back⟩, found, same⟩ := Option.map_eq_some_iff.mp cut
      cases same
      obtain ⟨rfl, absent⟩ := ih found
      refine ⟨rfl, ?_⟩
      rw [List.mem_cons, not_or]
      exact ⟨Ne.symm marked, absent⟩

theorem cut?_eq_some_iff : cut? mark text = some (before, after) ↔
    text = before ++ mark :: after ∧ mark ∉ before :=
  ⟨of_cut?, fun ⟨same, absent⟩ => same ▸ cut?_append absent after⟩

theorem cutLast?_eq_some_iff : cutLast? mark text = some (before, after) ↔
    text = before ++ mark :: after ∧ mark ∉ after := by
  have turned : text = before ++ mark :: after ↔
      text.reverse = after.reverse ++ mark :: before.reverse := by
    rw [← List.reverse_inj]
    simp
  rw [turned, ← List.mem_reverse, ← cut?_eq_some_iff, cutLast?, Option.map_eq_some_iff]
  constructor
  · rintro ⟨⟨back, front⟩, cut, same⟩
    cases same
    simpa using cut
  · intro cut
    exact ⟨_, cut, by simp⟩

theorem cutLast?_eq_none_iff : cutLast? mark text = none ↔ mark ∉ text := by
  rw [cutLast?, Option.map_eq_none_iff, cut?_eq_none_iff, List.mem_reverse]

theorem occurs_iff {α : Type} [BEq α] [LawfulBEq α] {part text : List α} :
    occurs part text = true ↔ part <:+: text := by
  induction text with
  | nil => simp [occurs]
  | cons c rest ih =>
    rw [occurs, Bool.or_eq_true, List.isPrefixOf_iff_prefix, ih, List.infix_cons_iff]

end Netboot.Text
