import Netboot.Proofs.Text.Case
import Netboot.Proofs.Text.Utf8

/-! Lower case of any text. What is in lower case stays as it is; blanks stay blanks and nothing else
becomes one; and a full stop at the end is out of the way of what stands before it.

The table of capitals is checked run against run, once. The rest follows from what becomes of one
character.
-/

set_option autoImplicit false

namespace Netboot.Text

/-! ## The table -/

def blankRanges : List (Nat × Nat) := [
  (0x09, 0x0d), (0x1c, 0x20), (0x85, 0x85), (0xa0, 0xa0), (0x1680, 0x1680), (0x2000, 0x200a),
  (0x2028, 0x2029), (0x202f, 0x202f), (0x205f, 0x205f), (0x3000, 0x3000)]

theorem inRanges_iff {ranges : List (Nat × Nat)} {n : Nat} :
    inRanges ranges n = true ↔ ∃ range ∈ ranges, range.1 ≤ n ∧ n ≤ range.2 := by
  simp only [inRanges, List.any_eq_true, Bool.and_eq_true, decide_eq_true_eq]

theorem isBlank_iff {c : Char} : isBlank c = true ↔ inRanges blankRanges c.toNat = true := by
  simp only [isBlank, inRanges, blankRanges, List.any_cons, List.any_nil, Bool.or_eq_true,
    Bool.and_eq_true, beq_iff_eq, decide_eq_true_eq, Bool.false_eq_true, or_false]
  omega

namespace CaseRun

variable {run other : CaseRun} {first last n : Nat}

def image (run : CaseRun) (n : Nat) : Nat := ((n : Int) + run.shift).toNat

def avoids (run : CaseRun) (first last : Nat) : Bool :=
  Nat.blt (run.image run.last) first || Nat.blt last (run.image run.first)

/-- No lower case in one run is a capital of the other: the ranges lie apart, or the one holds odd
numbers where the other holds even ones. -/
def apart (run other : CaseRun) : Bool :=
  run.avoids other.first other.last ||
    other.stride % 2 == 0 && (run.first == run.last || run.stride % 2 == 0) &&
      (run.image run.first + other.first) % 2 == 1

/-- What the lower case in a run is not: no code point at all, a blank, a capital. The dotted I is a
capital that the table leaves out; the small K is the one letter of ASCII that has a capital beyond. -/
def isSound (run : CaseRun) : Bool :=
  decide (0 ≤ (run.first : Int) + run.shift) &&
    (Nat.blt (run.image run.last) 0x110000 && run.avoids 0xd800 0xdfff) &&
    blankRanges.all (fun range => run.avoids range.1 range.2) &&
    run.avoids 0x130 0x130 && caseRuns.all run.apart &&
    (Nat.blt run.last 0x80 || run.avoids 0 0x6a && run.avoids 0x6c 0x7f)

theorem isSound_of_mem : ∀ run ∈ caseRuns, run.isSound = true := by decide +kernel

theorem covers_iff : run.covers n = true ↔
    run.first ≤ n ∧ n ≤ run.last ∧ run.stride ∣ n - run.first := by
  simp only [covers, Bool.and_eq_true, decide_eq_true_eq, beq_iff_eq, and_assoc,
    Nat.dvd_iff_mod_eq_zero]

structure Small (run : CaseRun) (n : Nat) : Prop where
  valid : (run.image n).isValidChar
  solid : inRanges blankRanges (run.image n) = false
  undotted : run.image n ≠ 0x130
  uncovered : ∀ other ∈ caseRuns, other.covers (run.image n) = false
  ascii : run.image n < 0x80 → n < 0x80 ∨ run.image n = 0x6b

theorem small_of_covers (listed : run ∈ caseRuns) (covers : run.covers n = true) :
    run.Small n := by
  have sound := isSound_of_mem run listed
  simp only [isSound, Bool.and_eq_true, Bool.or_eq_true, decide_eq_true_eq, List.all_eq_true,
    Nat.blt_eq] at sound
  obtain ⟨⟨⟨⟨⟨positive, coded, surrogate⟩, solid⟩, undotted⟩, apart⟩, ascii⟩ := sound
  obtain ⟨above, below, step⟩ := covers_iff.mp covers
  -- Between the images of the two ends lie the images of all that is covered.
  have place : (run.image n : Int) = n + run.shift := by
    rw [image]
    omega
  have lower : (run.image run.first : Int) = run.first + run.shift := by
    rw [image]
    omega
  have upper : (run.image run.last : Int) = run.last + run.shift := by
    rw [image]
    omega
  have misses {first last : Nat} (avoided : run.avoids first last = true) :
      run.image n < first ∨ last < run.image n := by
    simp only [avoids, Bool.or_eq_true, Nat.blt_eq] at avoided
    omega
  refine ⟨?_, ?_, ?_, ?_, ?_⟩
  · have apart := misses surrogate
    rw [Nat.isValidChar]
    omega
  · rw [Bool.eq_false_iff]
    intro blank
    obtain ⟨range, among, inside⟩ := inRanges_iff.mp blank
    have apart := misses (solid range among)
    omega
  · have apart := misses undotted
    omega
  · intro other member
    rw [Bool.eq_false_iff]
    intro capital
    obtain ⟨from_first, to_last, step'⟩ := covers_iff.mp capital
    have clear := apart other member
    simp only [CaseRun.apart, Bool.or_eq_true, Bool.and_eq_true, beq_iff_eq] at clear
    obtain away | ⟨⟨even, single⟩, odd⟩ := clear
    · have between := misses away
      omega
    · -- A capital of the other run is an even distance from its first, the image an odd one.
      have two : 2 ∣ run.image n - other.first := Nat.dvd_trans (Nat.dvd_of_mod_eq_zero even) step'
      have two' : 2 ∣ n - run.first := by
        obtain same | even' := single
        · have none : n - run.first = 0 := by omega
          rw [none]
          exact Nat.dvd_zero 2
        · exact Nat.dvd_trans (Nat.dvd_of_mod_eq_zero even') step
      omega
  · intro seven
    obtain here | ⟨low, high⟩ := ascii
    · exact .inl (by omega)
    · have first := misses low
      have second := misses high
      omega

end CaseRun

/-! ## Characters -/

variable {c d : Char} {out text before after : List Char}

def asciiRun : CaseRun := ⟨0x41, 0x5a, 1, 32⟩

theorem asciiRun_mem : asciiRun ∈ caseRuns := List.mem_cons_self

theorem covers_asciiRun (capital : 'A' ≤ c ∧ c ≤ 'Z') : asciiRun.covers c.toNat = true :=
  CaseRun.covers_iff.mpr ⟨capital.1, capital.2, Nat.one_dvd _⟩

structure Settled (c : Char) : Prop where
  alone : lowerChar c = [c]
  other : c ≠ 'Σ'

theorem settled_of_uncovered (uncovered : ∀ run ∈ caseRuns, run.covers c.toNat = false)
    (undotted : c ≠ 'İ') : Settled c := by
  refine ⟨?_, ?_⟩
  · unfold lowerChar
    by_cases ascii : c.toNat < 0x80
    · have small : ¬ ('A' ≤ c ∧ c ≤ 'Z') := by
        intro capital
        cases (uncovered asciiRun asciiRun_mem).symm.trans (covers_asciiRun capital)
      rw [if_pos ascii, lowerAscii, if_neg small]
    · have missing : caseRuns.find? (·.covers c.toNat) = none :=
        List.find?_eq_none.mpr fun run member => Bool.eq_false_iff.mp (uncovered run member)
      rw [if_neg ascii, if_neg undotted, missing]
  · rintro rfl
    have covered : caseRuns.any (·.covers 0x3a3) = true := by decide
    obtain ⟨run, member, covers⟩ := List.any_eq_true.mp covered
    cases (uncovered run member).symm.trans covers

theorem lowerChar_form (c : Char) : Settled c ∨
    (∃ run : CaseRun, run.Small c.toNat ∧ lowerChar c = [Char.ofNat (run.image c.toNat)]) ∨
    c = 'İ' := by
  by_cases ascii : c.toNat < 0x80
  · by_cases capital : 'A' ≤ c ∧ c ≤ 'Z'
    · refine .inr (.inl ⟨asciiRun, CaseRun.small_of_covers asciiRun_mem (covers_asciiRun capital), ?_⟩)
      rw [lowerChar, if_pos ascii, lowerAscii, if_pos capital]
      rfl
    · refine .inl ⟨?_, ?_⟩
      · rw [lowerChar, if_pos ascii, lowerAscii, if_neg capital]
      · rintro rfl
        exact absurd ascii (by decide)
  by_cases dotted : c = 'İ'
  · exact .inr (.inr dotted)
  cases found : caseRuns.find? (·.covers c.toNat) with
  | some run =>
    have covers : run.covers c.toNat = true :=
      List.find?_some (p := fun run : CaseRun => run.covers c.toNat) found
    have small := CaseRun.small_of_covers (List.mem_of_find?_eq_some found) covers
    refine .inr (.inl ⟨run, small, ?_⟩)
    rw [lowerChar, if_neg ascii, if_neg dotted, found]
    rfl
  | none =>
    have uncovered := List.find?_eq_none.mp found
    exact .inl (settled_of_uncovered
      (fun run member => Bool.eq_false_iff.mpr (uncovered run member)) dotted)

theorem toNat_image {run : CaseRun} (small : run.Small c.toNat) :
    (Char.ofNat (run.image c.toNat)).toNat = run.image c.toNat :=
  toNat_charOfNat small.valid

inductive Lowers : Char → List Char → Prop
  | alone (c : Char) : Lowers c (lowerChar c)
  | finalSigma : Lowers 'Σ' ['ς']

namespace Lowers

theorem length (lowers : Lowers c out) : out.length = (lowerChar c).length := by
  cases lowers with
  | alone => rfl
  | finalSigma => decide

theorem ne_nil (lowers : Lowers c out) : out ≠ [] := by
  rw [← List.length_pos_iff, lowers.length]
  obtain settled | ⟨run, -, same⟩ | rfl := lowerChar_form c
  · rw [settled.alone]
    exact Nat.one_pos
  · rw [same]
    exact Nat.one_pos
  · decide

theorem head?_append (lowers : Lowers c out) (rest : List Char) : (out ++ rest).head? = out.head? := by
  rw [List.head?_append]
  exact Option.or_of_isSome (List.isSome_head?.mpr lowers.ne_nil)

theorem getLast?_append (lowers : Lowers c out) (front : List Char) :
    (front ++ out).getLast? = out.getLast? := by
  rw [List.getLast?_append]
  exact Option.or_of_isSome (List.getLast?_isSome.mpr lowers.ne_nil)

theorem settled (lowers : Lowers c out) : ∀ d ∈ out, Settled d := by
  cases lowers with
  | finalSigma => exact List.forall_mem_singleton.mpr ⟨by decide, by decide⟩
  | alone =>
    obtain settled | ⟨run, small, same⟩ | rfl := lowerChar_form c
    · rw [settled.alone]
      exact List.forall_mem_singleton.mpr settled
    · rw [same]
      refine List.forall_mem_singleton.mpr (settled_of_uncovered ?_ ?_)
      · rw [toNat_image small]
        exact small.uncovered
      · intro dotted
        have code := toNat_image small
        rw [dotted] at code
        exact small.undotted code.symm
    · refine List.forall_mem_cons.mpr ⟨⟨by decide, by decide⟩, ?_⟩
      exact List.forall_mem_singleton.mpr ⟨by decide, by decide⟩

theorem solid (lowers : Lowers c out) (before : isBlank c = false) : ∀ d ∈ out, isBlank d = false := by
  cases lowers with
  | finalSigma => exact List.forall_mem_singleton.mpr (by decide)
  | alone =>
    obtain settled | ⟨run, small, same⟩ | rfl := lowerChar_form c
    · rw [settled.alone]
      exact List.forall_mem_singleton.mpr before
    · rw [same]
      refine List.forall_mem_singleton.mpr (Bool.eq_false_iff.mpr fun blank => ?_)
      rw [isBlank_iff, toNat_image small, small.solid] at blank
      cases blank
    · exact List.forall_mem_cons.mpr ⟨by decide, List.forall_mem_singleton.mpr (by decide)⟩

theorem ascii (lowers : Lowers c out) (member : d ∈ out) (seven : d.toNat < 0x80) (dotless : d ≠ 'i')
    (other : d ≠ 'k') : c.toNat < 0x80 ∧ out = [lowerAscii c] := by
  cases lowers with
  | finalSigma =>
    rw [List.mem_singleton.mp member] at seven
    exact absurd seven (by decide)
  | alone =>
    have low : c.toNat < 0x80 := by
      obtain settled | ⟨run, small, same⟩ | rfl := lowerChar_form c
      · rw [settled.alone] at member
        rwa [← List.mem_singleton.mp member]
      · rw [same] at member
        have here := List.mem_singleton.mp member
        rw [here, toNat_image small] at seven
        refine (small.ascii seven).resolve_right fun letter => other ?_
        rw [here, letter]
      · have parts : d ∈ ['i', '\u0307'] := member
        obtain rfl | mark := List.mem_cons.mp parts
        · exact absurd rfl dotless
        · rw [List.mem_singleton.mp mark] at seven
          exact absurd seven (by decide)
    exact ⟨low, if_pos low⟩

end Lowers

/-! ## Texts -/

theorem lowerFrom_cons (before : List Char) (c : Char) (after : List Char) :
    ∃ out, Lowers c out ∧ lowerFrom before (c :: after) = out ++ lowerFrom (c :: before) after := by
  rw [lowerFrom]
  by_cases sigma : c = 'Σ'
  · subst sigma
    cases isFinalSigma before after with
    | true => exact ⟨_, .finalSigma, rfl⟩
    | false => exact ⟨_, .alone 'Σ', rfl⟩
  · rw [if_neg sigma]
    exact ⟨_, .alone c, rfl⟩

theorem exists_of_mem_lowerFrom (member : d ∈ lowerFrom before text) :
    ∃ c ∈ text, ∃ out, Lowers c out ∧ d ∈ out := by
  induction text generalizing before with
  | nil => cases member
  | cons c after ih =>
    obtain ⟨out, lowers, same⟩ := lowerFrom_cons before c after
    rw [same, List.mem_append] at member
    obtain here | later := member
    · exact ⟨c, List.mem_cons_self, out, lowers, here⟩
    · obtain ⟨e, among, result⟩ := ih later
      exact ⟨e, .tail _ among, result⟩

theorem lowerFrom_of_settled (settled : ∀ c ∈ text, Settled c) : lowerFrom before text = text := by
  induction text generalizing before with
  | nil => rfl
  | cons c after ih =>
    have here := settled c List.mem_cons_self
    rw [lowerFrom, if_neg here.other, here.alone, ih fun d member => settled d (.tail _ member)]
    rfl

theorem lower_lower (text : List Char) : lower (lower text) = lower text := by
  refine lowerFrom_of_settled fun d member => ?_
  obtain ⟨c, -, out, lowers, inside⟩ := exists_of_mem_lowerFrom member
  exact lowers.settled d inside

theorem lowerFrom_concat (before text : List Char) (c : Char) :
    ∃ front out, Lowers c out ∧ lowerFrom before (text ++ [c]) = front ++ out := by
  induction text generalizing before with
  | nil =>
    obtain ⟨out, lowers, same⟩ := lowerFrom_cons before c []
    exact ⟨[], out, lowers, by simpa [lowerFrom] using same⟩
  | cons d rest ih =>
    obtain ⟨first, -, same⟩ := lowerFrom_cons before d (rest ++ [c])
    obtain ⟨front, out, lowers, later⟩ := ih (d :: before)
    refine ⟨first ++ front, out, lowers, ?_⟩
    rw [List.cons_append, same, later, List.append_assoc]

theorem length_lowerFrom (before text : List Char) :
    (lowerFrom before text).length = (text.flatMap lowerChar).length := by
  induction text generalizing before with
  | nil => rfl
  | cons c after ih =>
    obtain ⟨out, lowers, same⟩ := lowerFrom_cons before c after
    rw [same, List.flatMap_cons, List.length_append, List.length_append, ih, lowers.length]

theorem length_lower_append (text after : List Char) :
    (lower (text ++ after)).length = (lower text).length + (lower after).length := by
  rw [lower, lower, lower, length_lowerFrom, length_lowerFrom, length_lowerFrom,
    List.flatMap_append, List.length_append]

/-! ## Blanks in front, a full stop behind -/

def casedBefore (before : List Char) : Bool := (before.dropWhile isCaseIgnorable).head?.any isCased

/-- Of what stands before a text only that much tells in its lower case. -/
theorem lowerFrom_congr {other : List Char} (same : casedBefore before = casedBefore other) :
    lowerFrom before text = lowerFrom other text := by
  induction text generalizing before other with
  | nil => rfl
  | cons c after ih =>
    have sigma : isFinalSigma before after = isFinalSigma other after := by
      rw [isFinalSigma, isFinalSigma]
      exact congrArg (· && _) same
    have next : casedBefore (c :: before) = casedBefore (c :: other) := by
      rw [casedBefore, casedBefore, List.dropWhile_cons, List.dropWhile_cons]
      split
      · exact same
      · rfl
    rw [lowerFrom, lowerFrom, sigma, ih next]

def disjoint (ranges others : List (Nat × Nat)) : Bool :=
  ranges.all fun range => others.all fun other => Nat.blt range.2 other.1 || Nat.blt other.2 range.1

theorem not_inRanges_of_disjoint {ranges others : List (Nat × Nat)} {n : Nat}
    (apart : disjoint ranges others = true) (inside : inRanges ranges n = true) :
    inRanges others n = false := by
  rw [Bool.eq_false_iff]
  intro both
  obtain ⟨range, among, above, below⟩ := inRanges_iff.mp inside
  obtain ⟨other, among', above', below'⟩ := inRanges_iff.mp both
  have clear := List.all_eq_true.mp (List.all_eq_true.mp apart range among) other among'
  simp only [Bool.or_eq_true, Nat.blt_eq] at clear
  omega

theorem blanks_disjoint :
    disjoint blankRanges casedRanges = true ∧ disjoint blankRanges caseIgnorableRanges = true ∧
      disjoint blankRanges (caseRuns.map fun run => (run.first, run.last)) = true := by
  decide +kernel

structure Blank (c : Char) : Prop where
  uncased : isCased c = false
  counted : isCaseIgnorable c = false
  settled : Settled c

theorem blank_of_isBlank (blank : isBlank c = true) : Blank c := by
  have inside := isBlank_iff.mp blank
  obtain ⟨cased, ignorable, capitals⟩ := blanks_disjoint
  refine ⟨not_inRanges_of_disjoint cased inside, not_inRanges_of_disjoint ignorable inside, ?_⟩
  have uncovered := not_inRanges_of_disjoint capitals inside
  refine settled_of_uncovered (fun run member => ?_) ?_
  · rw [Bool.eq_false_iff]
    intro covers
    obtain ⟨above, below, -⟩ := CaseRun.covers_iff.mp covers
    have both : inRanges (caseRuns.map fun run => (run.first, run.last)) c.toNat = true :=
      inRanges_iff.mpr ⟨_, List.mem_map_of_mem member, above, below⟩
    cases uncovered.symm.trans both
  · rintro rfl
    exact absurd blank (by decide)

/-- Blanks in front of a text stay, and the text is lowered as if they were not there. -/
theorem lower_blanks_append {front : List Char} (blank : ∀ c ∈ front, isBlank c = true)
    (text : List Char) : lower (front ++ text) = front ++ lower text := by
  induction front with
  | nil => rfl
  | cons c rest ih =>
    have here := blank_of_isBlank (blank c List.mem_cons_self)
    have unseen : casedBefore [c] = casedBefore [] := by
      rw [casedBefore, List.dropWhile_cons, if_neg (Bool.eq_false_iff.mp here.counted), casedBefore]
      exact here.uncased
    rw [List.cons_append, lower, lowerFrom, if_neg here.settled.other, here.settled.alone,
      lowerFrom_congr unseen]
    exact congrArg (c :: ·) (ih fun d member => blank d (.tail _ member))

theorem lowerFrom_concat_stop (before text : List Char) :
    lowerFrom before (text ++ ['.']) = lowerFrom before text ++ ['.'] := by
  induction text generalizing before with
  | nil => rfl
  | cons c after ih =>
    have skipped : isCaseIgnorable '.' = true := by decide
    have sigma : isFinalSigma before (after ++ ['.']) = isFinalSigma before after := by
      rw [isFinalSigma, isFinalSigma, List.dropWhile_append]
      cases rest : after.dropWhile isCaseIgnorable with
      | nil => simp [skipped]
      | cons d others => simp
    rw [List.cons_append, lowerFrom, lowerFrom, sigma, ih, List.append_assoc]

theorem lowerAscii_eq_stop_iff : lowerAscii c = '.' ↔ c = '.' := by
  constructor
  · intro stop
    rw [lowerAscii] at stop
    split at stop
    next capital =>
      have above : 0x41 ≤ c.toNat := capital.1
      have below : c.toNat ≤ 0x5a := capital.2
      have code := congrArg Char.toNat stop
      rw [toNat_charOfNat (by omega)] at code
      have stop_code : '.'.toNat = 0x2e := rfl
      omega
    next => exact stop
  · rintro rfl
    decide

/-- A text ends in a full stop just when it does in lower case. -/
theorem getLast?_lower_eq_stop_iff :
    (lower text).getLast? = some '.' ↔ text.getLast? = some '.' := by
  obtain rfl | ⟨front, c, rfl⟩ := List.eq_nil_or_concat text
  · exact Iff.rfl
  rw [List.concat_eq_append, List.getLast?_concat, Option.some.injEq]
  constructor
  · intro last
    obtain ⟨start, out, lowers, same⟩ := lowerFrom_concat [] front c
    rw [lower, same, lowers.getLast?_append] at last
    obtain ⟨-, single⟩ :=
      lowers.ascii (List.mem_of_getLast? last) (by decide) (by decide) (by decide)
    rw [single, List.getLast?_singleton, Option.some.injEq] at last
    exact lowerAscii_eq_stop_iff.mp last
  · rintro rfl
    rw [lower, lowerFrom_concat_stop]
    exact List.getLast?_concat

/-! ## Blank ends -/

structure Trimmed (text : List Char) : Prop where
  first : ∀ c ∈ text.head?, isBlank c = false
  last : ∀ c ∈ text.getLast?, isBlank c = false

theorem dropWhile_of_head? (first : ∀ c ∈ text.head?, isBlank c = false) :
    text.dropWhile isBlank = text := by
  cases text with
  | nil => rfl
  | cons c rest => rw [List.dropWhile_cons, first c rfl, if_neg Bool.false_ne_true]

theorem head?_dropWhile_isBlank (text : List Char) :
    ∀ c ∈ (text.dropWhile isBlank).head?, isBlank c = false := by
  intro c first
  have solid := List.head?_dropWhile_not isBlank text
  rw [Option.mem_def.mp first] at solid
  exact solid

theorem dropEndWhile_of_getLast? (last : ∀ c ∈ text.getLast?, isBlank c = false) :
    dropEndWhile isBlank text = text := by
  rw [← List.head?_reverse] at last
  rw [dropEndWhile, dropWhile_of_head? last, List.reverse_reverse]

theorem getLast?_dropEndWhile (text : List Char) :
    ∀ c ∈ (dropEndWhile isBlank text).getLast?, isBlank c = false := by
  rw [dropEndWhile, List.getLast?_reverse]
  exact head?_dropWhile_isBlank text.reverse

theorem exists_dropEndWhile (text : List Char) :
    ∃ back, text = dropEndWhile isBlank text ++ back ∧ ∀ c ∈ back, isBlank c = true := by
  refine ⟨(text.reverse.takeWhile isBlank).reverse, ?_, fun c member => ?_⟩
  · rw [dropEndWhile, ← List.reverse_append, List.takeWhile_append_dropWhile, List.reverse_reverse]
  · exact List.all_eq_true.mp List.all_takeWhile c (List.mem_reverse.mp member)

theorem trimmed_strip (text : List Char) : Trimmed (strip text) := by
  refine ⟨fun c first => ?_, getLast?_dropEndWhile _⟩
  obtain ⟨back, same, -⟩ := exists_dropEndWhile (text.dropWhile isBlank)
  refine head?_dropWhile_isBlank text c ?_
  rw [same]
  exact List.head?_append.trans (congrArg (Option.or · back.head?) first)

theorem Trimmed.strip (trimmed : Trimmed text) : Text.strip text = text := by
  rw [Text.strip, dropWhile_of_head? trimmed.first, dropEndWhile_of_getLast? trimmed.last]

theorem strip_blanks_append {front : List Char} (blank : ∀ c ∈ front, isBlank c = true)
    (text : List Char) : strip (front ++ text) = strip text := by
  rw [strip, strip, List.dropWhile_append_of_pos blank]

theorem exists_strip (text : List Char) :
    ∃ front back, text = front ++ strip text ++ back ∧ (∀ c ∈ front, isBlank c = true) ∧
      ∀ c ∈ back, isBlank c = true := by
  obtain ⟨back, same, blank⟩ := exists_dropEndWhile (text.dropWhile isBlank)
  refine ⟨text.takeWhile isBlank, back, ?_, List.all_eq_true.mp List.all_takeWhile, blank⟩
  rw [List.append_assoc, strip, ← same, List.takeWhile_append_dropWhile]

theorem Trimmed.lower (trimmed : Trimmed text) : Trimmed (Text.lower text) := by
  constructor
  · intro d first
    cases text with
    | nil => cases first
    | cons c after =>
      obtain ⟨out, lowers, same⟩ := lowerFrom_cons [] c after
      rw [Text.lower, same, lowers.head?_append] at first
      exact lowers.solid (trimmed.first c rfl) d (List.mem_of_mem_head? first)
  · intro d last
    obtain rfl | ⟨front, c, rfl⟩ := List.eq_nil_or_concat text
    · cases last
    rw [List.concat_eq_append] at last trimmed
    obtain ⟨start, out, lowers, same⟩ := lowerFrom_concat [] front c
    rw [Text.lower, same, lowers.getLast?_append] at last
    have solid := trimmed.last c List.getLast?_concat
    exact lowers.solid solid d (List.mem_of_getLast? last)

theorem strip_lower_strip (text : List Char) : strip (lower (strip text)) = lower (strip text) :=
  (trimmed_strip text).lower.strip

end Netboot.Text
