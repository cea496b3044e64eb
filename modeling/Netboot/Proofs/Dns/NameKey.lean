import Mathlib.Data.List.Forall2
import Netboot.Dns.Name
import Netboot.Names
import Netboot.Proofs.Text.Case

/-! Keys of names. The text of a name can be taken apart again byte by byte, and the key under which a
name is kept is the text of the name in lower case. So two names have one key just when they have the
same labels up to the case of ASCII letters.
-/

set_option autoImplicit false

namespace Netboot.Dns.Name

/-! ## Bytes as text -/

def numeral (b : UInt8) : List Char :=
  [b.toNat / 100, b.toNat / 10 % 10, b.toNat % 10].map fun d => Char.ofNat (48 + d)

-- A check of every byte; the lemmas below put it to use.
theorem byteText_facts : ∀ n : Fin 256,
    let b := UInt8.ofNat n
    ((byteText b).all fun c => !Text.isBlank c && c.toNat < 0x80) ∧
      (byteText b).map Text.lowerAscii = byteText (lowerByte b) ∧
      UInt8.ofNat (Char.ofNat n).toNat = b ∧
      (isSpecial (Char.ofNat n) = true → Text.isAsciiDigit (Char.ofNat n) = false) ∧
      Text.isAsciiDigit (Char.ofNat (48 + n / 100)) = true ∧
      UInt8.ofNat (Text.asciiValue (numeral b)) = b := by
  decide +kernel

structure Spelled (b : UInt8) : Prop where
  solid : ∀ c ∈ byteText b, Text.isBlank c = false
  ascii : ∀ c ∈ byteText b, c.toNat < 0x80
  lower : (byteText b).map Text.lowerAscii = byteText (lowerByte b)
  char : UInt8.ofNat (Char.ofNat b.toNat).toNat = b
  mark : isSpecial (Char.ofNat b.toNat) = true → Text.isAsciiDigit (Char.ofNat b.toNat) = false
  digit : Text.isAsciiDigit (Char.ofNat (48 + b.toNat / 100)) = true
  number : UInt8.ofNat (Text.asciiValue (numeral b)) = b

theorem spelled (b : UInt8) : Spelled b := by
  have facts := byteText_facts ⟨b.toNat, b.toNat_lt⟩
  simp only [UInt8.ofNat_toNat] at facts
  obtain ⟨chars, lower, char, mark, digit, number⟩ := facts
  have each := List.all_eq_true.mp chars
  simp only [Bool.and_eq_true, Bool.not_eq_true', decide_eq_true_eq] at each
  exact ⟨fun c member => (each c member).1, fun c member => (each c member).2, lower, char, mark,
    digit, number⟩

def leadingByte? : List Char → Option (UInt8 × List Char)
  | '\\' :: c :: rest =>
    if Text.isAsciiDigit c then
      match rest with
      | d :: e :: rest => some (UInt8.ofNat (Text.asciiValue [c, d, e]), rest)
      | _ => none
    else some (UInt8.ofNat c.toNat, rest)
  | c :: rest => some (UInt8.ofNat c.toNat, rest)
  | [] => none

theorem ne_of_not_isSpecial {c : Char} (plain : ¬ isSpecial c = true) : c ≠ '.' ∧ c ≠ '\\' := by
  constructor <;> rintro rfl <;> exact plain (by decide)

/-- No byte's text is the beginning of another's. -/
theorem leadingByte?_byteText (b : UInt8) (rest : List Char) :
    leadingByte? (byteText b ++ rest) = some (b, rest) := by
  have facts := spelled b
  -- A mark and the character, the character alone, or a mark and three digits.
  unfold byteText
  dsimp only
  split
  next special => simp [leadingByte?, facts.mark special, facts.char]
  next plain =>
    have escape := (ne_of_not_isSpecial plain).2
    split
    · rw [List.singleton_append, leadingByte?, facts.char]
      exact fun _ _ same => absurd same escape
    · have number := facts.number
      simp only [numeral, List.map_cons, List.map_nil] at number
      simp [leadingByte?, facts.digit, number]

theorem byteText_append_inj {b c : UInt8} {front back : List Char}
    (same : byteText b ++ front = byteText c ++ back) : b = c ∧ front = back := by
  have taken := congrArg leadingByte? same
  rw [leadingByte?_byteText, leadingByte?_byteText] at taken
  exact Prod.mk.inj (Option.some.inj taken)

/-- A dot that belongs to a label has a mark in front. -/
theorem byteText_append_ne_dot (b : UInt8) (front back : List Char) :
    byteText b ++ front ≠ '.' :: back := by
  unfold byteText
  dsimp only
  split
  · simp
  next plain =>
    have undotted := (ne_of_not_isSpecial plain).1
    split <;> simp [undotted]

/-! ## Labels as text -/

theorem mem_labelText {c : Char} {label : Label} (member : c ∈ labelText label) :
    Text.isBlank c = false ∧ c.toNat < 0x80 := by
  obtain ⟨b, -, within⟩ := List.mem_flatMap.mp member
  exact ⟨(spelled b).solid c within, (spelled b).ascii c within⟩

theorem labelText_lower (label : Label) :
    (labelText label).map Text.lowerAscii = labelText (label.map lowerByte) := by
  induction label with
  | nil => rfl
  | cons b rest ih =>
    simp only [labelText, List.flatMap_cons, List.map_append, List.map_cons] at ih ⊢
    rw [(spelled b).lower, ih]

theorem labelText_append_inj {x y : Label} {front back : List Char}
    (same : labelText x ++ '.' :: front = labelText y ++ '.' :: back) : x = y ∧ front = back := by
  -- Where one label has come to its end and the other has not, a byte's text would begin with a dot.
  induction x generalizing y with
  | nil =>
    cases y with
    | nil => exact ⟨rfl, (List.cons.inj same).2⟩
    | cons c y =>
      simp only [labelText, List.flatMap_cons, List.append_assoc] at same
      exact absurd same.symm (byteText_append_ne_dot c _ _)
  | cons b x ih =>
    cases y with
    | nil =>
      simp only [labelText, List.flatMap_cons, List.append_assoc] at same
      exact absurd same (byteText_append_ne_dot b _ _)
    | cons c y =>
      simp only [labelText, List.flatMap_cons, List.append_assoc] at same
      obtain ⟨rfl, others⟩ := byteText_append_inj same
      obtain ⟨rfl, rest⟩ := ih others
      exact ⟨rfl, rest⟩

/-! ## Names as text -/

def dottedText (labels : List Label) : List Char :=
  labels.flatMap fun label => labelText label ++ ['.']

theorem dottedText_injective {x y : List Label} (same : dottedText x = dottedText y) : x = y := by
  induction x generalizing y with
  | nil =>
    cases y with
    | nil => rfl
    | cons label y => simp [dottedText] at same
  | cons label x ih =>
    cases y with
    | nil => simp [dottedText] at same
    | cons other y =>
      simp only [dottedText, List.flatMap_cons, List.append_assoc, List.singleton_append] at same
      obtain ⟨rfl, rest⟩ := labelText_append_inj same
      rw [ih rest]

theorem intercalate_labelText {labels : List Label} (given : labels ≠ []) :
    ['.'].intercalate (labels.map labelText) ++ ['.'] = dottedText labels := by
  induction labels with
  | nil => contradiction
  | cons label rest ih =>
    by_cases last : rest = []
    · simp [last, dottedText]
    · have more : rest.map labelText ≠ [] := by simpa using last
      rw [List.map_cons, List.intercalate_cons_of_ne_nil more, List.append_assoc, ih last]
      simp [dottedText]

theorem dottedText_lower (labels : List Label) :
    (dottedText labels).map Text.lowerAscii = dottedText (labels.map (·.map lowerByte)) := by
  have dot : Text.lowerAscii '.' = '.' := by decide
  induction labels with
  | nil => rfl
  | cons label rest ih =>
    simp only [dottedText, List.flatMap_cons, List.map_append, List.map_cons] at ih ⊢
    rw [labelText_lower, ih, List.map_nil, dot]

theorem mem_dottedText {c : Char} {labels : List Label} (member : c ∈ dottedText labels) :
    Text.isBlank c = false ∧ c.toNat < 0x80 := by
  obtain ⟨label, -, within⟩ := List.mem_flatMap.mp member
  rcases List.mem_append.mp within with inside | dot
  · exact mem_labelText inside
  · obtain rfl := List.mem_singleton.mp dot
    decide

theorem getLast?_dottedText {labels : List Label} (given : labels ≠ []) :
    (dottedText labels).getLast? = some '.' := by
  rw [← intercalate_labelText given]
  exact List.getLast?_concat

theorem text_of_labels {labels : List Label} (given : labels ≠ []) :
    text ⟨labels, true⟩ = .ofList (dottedText labels) := by
  have some : labels.isEmpty = false := by simpa using given
  rw [text, some, ← intercalate_labelText given]
  rfl

theorem canonicalName_text (labels : List Label) :
    canonicalName (text ⟨labels, true⟩) = text ⟨labels.map (·.map lowerByte), true⟩ := by
  by_cases root : labels = []
  · subst root
    decide
  · have given : labels.map (·.map lowerByte) ≠ [] := by simpa using root
    rw [text_of_labels root, text_of_labels given, canonicalName, String.toList_ofList,
      Text.strip_solid fun c member => (mem_dottedText member).1,
      Text.lower_ascii fun c member => (mem_dottedText member).2, dottedText_lower,
      if_pos (getLast?_dottedText given)]

/-- The root has the text of an empty label, but of no other. -/
theorem dottedText_ne_dot {labels : List Label} (filled : ∀ label ∈ labels, label ≠ []) :
    dottedText labels ≠ ['.'] := by
  cases labels with
  | nil => simp [dottedText]
  | cons label rest =>
    cases label with
    | nil => exact absurd rfl (filled [] List.mem_cons_self)
    | cons b label =>
      simp only [dottedText, labelText, List.flatMap_cons, List.append_assoc]
      exact byteText_append_ne_dot b _ _

theorem text_injective {x y : List Label} (first : ∀ label ∈ x, label ≠ [])
    (second : ∀ label ∈ y, label ≠ []) (same : text ⟨x, true⟩ = text ⟨y, true⟩) : x = y := by
  -- The text of the root is not that of its labels, so it is told apart from the others by itself.
  have root : text ⟨[], true⟩ = .ofList ['.'] := rfl
  by_cases none : x = [] <;> by_cases none' : y = []
  · rw [none, none']
  · rw [none, root, text_of_labels none'] at same
    exact absurd (String.ofList_injective same).symm (dottedText_ne_dot second)
  · rw [none', root, text_of_labels none] at same
    exact absurd (String.ofList_injective same) (dottedText_ne_dot first)
  · rw [text_of_labels none, text_of_labels none'] at same
    exact dottedText_injective (String.ofList_injective same)

/-- Labels that differ in the case of ASCII letters alone. -/
def Alike (x y : Label) : Prop := x.map lowerByte = y.map lowerByte

/-- A name that ends at the root, with no label empty before. -/
structure IsRooted (name : Name) : Prop where
  absolute : name.absolute = true
  filled : ∀ label ∈ name.labels, label ≠ []

theorem forall₂_alike_iff {x y : List Label} :
    List.Forall₂ Alike x y ↔ x.map (·.map lowerByte) = y.map (·.map lowerByte) := by
  rw [← List.forall₂_eq_eq_eq, List.forall₂_map_left_iff, List.forall₂_map_right_iff]
  rfl

theorem filled_lower {labels : List Label} (filled : ∀ label ∈ labels, label ≠ []) :
    ∀ label ∈ labels.map (·.map lowerByte), label ≠ [] := by
  intro label member
  obtain ⟨before, among, rfl⟩ := List.mem_map.mp member
  simpa using filled before among

/-- Two names are kept under one key just when they have the same number of labels and, label by
label, differ in the case of ASCII letters alone, whatever bytes the labels hold. -/
theorem same_key_iff {a b : Name} (first : a.IsRooted) (second : b.IsRooted) :
    canonicalName a.text = canonicalName b.text ↔ List.Forall₂ Alike a.labels b.labels := by
  obtain ⟨x, _⟩ := a
  obtain ⟨y, _⟩ := b
  obtain ⟨rfl, firstFilled⟩ := first
  obtain ⟨rfl, secondFilled⟩ := second
  rw [canonicalName_text, canonicalName_text, forall₂_alike_iff]
  constructor
  · exact text_injective (filled_lower firstFilled) (filled_lower secondFilled)
  · intro same
    rw [same]

/-- A dot, a blank and a foreign letter within labels: letter case makes no difference, the place of the
dot does. -/
theorem same_key_iff_of_dotted_label :
    let dotted : Name := ⟨[[0x41, 0x2e, 0x62], [0x20, 0xc4]], true⟩
    let folded : Name := ⟨[[0x61, 0x2e, 0x42], [0x20, 0xc4]], true⟩
    let parted : Name := ⟨[[0x61], [0x62], [0x20, 0xc4]], true⟩
    canonicalName dotted.text = canonicalName folded.text ∧
      canonicalName dotted.text ≠ canonicalName parted.text := by
  intro dotted folded parted
  have first : dotted.IsRooted := ⟨rfl, by decide⟩
  have second : folded.IsRooted := ⟨rfl, by decide⟩
  have third : parted.IsRooted := ⟨rfl, by decide⟩
  refine ⟨(same_key_iff first second).mpr ?_, fun same => ?_⟩
  · exact forall₂_alike_iff.mpr (by decide)
  · have count := ((same_key_iff first third).mp same).length_eq
    cases count

end Netboot.Dns.Name
