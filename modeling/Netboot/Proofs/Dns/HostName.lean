import Netboot.Dns.Name
import Netboot.Names
import Netboot.Proofs.Text.Case
import Netboot.Proofs.Text.Fields
import Netboot.Settings

/-! Host names: what is configured, what the store keeps and what a query asks for come to one key.
-/

set_option autoImplicit false

namespace Netboot.Dns

def isHostChar (c : Char) : Bool :=
  ('A' ≤ c && c ≤ 'Z') || ('a' ≤ c && c ≤ 'z') || ('0' ≤ c && c ≤ '9') || c == '-'

def written (labels : List (List Char)) (dotted : Bool) : List Char :=
  ['.'].intercalate labels ++ if dotted then ['.'] else []

structure AreHost (labels : List (List Char)) : Prop where
  given : labels ≠ []
  filled : ∀ label ∈ labels, label ≠ []
  chars : ∀ label ∈ labels, ∀ c ∈ label, isHostChar c = true

def lowered (labels : List (List Char)) : List (List Char) :=
  labels.map fun label => label.map Text.lowerAscii

def hostKey (labels : List (List Char)) : String := .ofList (written (lowered labels) true)

-- A check of every byte; the lemmas below put it to use.
theorem hostByte_facts : ∀ n : Fin 256,
    let c := Char.ofNat n
    (isHostChar c = true →
      (Text.isBlank c = false ∧ c ≠ '.' ∧ c.toNat < 0x80) ∧
      (isHostChar (Text.lowerAscii c) = true ∧
        Text.lowerAscii (Text.lowerAscii c) = Text.lowerAscii c) ∧
      Char.ofNat (Name.lowerByte (UInt8.ofNat c.toNat)).toNat = Text.lowerAscii c) ∧
    (isHostChar (Char.ofNat (Name.lowerByte (UInt8.ofNat n)).toNat) = true →
      isHostChar c = true ∧ Name.byteText (UInt8.ofNat n) = [c] ∧
        Text.lowerAscii c = Char.ofNat (Name.lowerByte (UInt8.ofNat n)).toNat) := by
  decide +kernel

theorem toNat_of_isHostChar {c : Char} (host : isHostChar c = true) : c.toNat < 256 := by
  simp only [isHostChar, Bool.or_eq_true, Bool.and_eq_true, decide_eq_true_eq, beq_iff_eq] at host
  rcases host with ((upper | lower) | digit) | rfl
  · exact Nat.lt_of_le_of_lt upper.2 (by decide)
  · exact Nat.lt_of_le_of_lt lower.2 (by decide)
  · exact Nat.lt_of_le_of_lt digit.2 (by decide)
  · decide

structure HostChar (c : Char) : Prop where
  solid : Text.isBlank c = false
  undotted : c ≠ '.'
  ascii : c.toNat < 0x80
  lower : isHostChar (Text.lowerAscii c) = true
  again : Text.lowerAscii (Text.lowerAscii c) = Text.lowerAscii c
  byte : Char.ofNat (Name.lowerByte (UInt8.ofNat c.toNat)).toNat = Text.lowerAscii c

theorem hostChar {c : Char} (host : isHostChar c = true) : HostChar c := by
  have facts := (hostByte_facts ⟨c.toNat, toNat_of_isHostChar host⟩).1
  simp only [Char.ofNat_toNat] at facts
  obtain ⟨⟨solid, undotted, ascii⟩, ⟨lower, again⟩, byte⟩ := facts host
  exact ⟨solid, undotted, ascii, lower, again, byte⟩

/-- A byte that stands for a host character once it is in lower case stands for one as it is. -/
theorem hostByte_of_lower {b : UInt8} {c : Char}
    (lower : Char.ofNat (Name.lowerByte b).toNat = c) (host : isHostChar c = true) :
    isHostChar (Char.ofNat b.toNat) = true ∧ Name.byteText b = [Char.ofNat b.toNat] ∧
      Text.lowerAscii (Char.ofNat b.toNat) = c := by
  have facts := (hostByte_facts ⟨b.toNat, b.toNat_lt⟩).2
  simp only [UInt8.ofNat_toNat, lower] at facts
  exact facts host

namespace AreHost

variable {labels : List (List Char)} (host : AreHost labels)
include host

theorem mem_written {c : Char} {dotted : Bool} (member : c ∈ written labels dotted) :
    c = '.' ∨ isHostChar c = true := by
  obtain inside | root := List.mem_append.mp member
  · obtain rfl | ⟨label, among, within⟩ := Text.mem_intercalate inside
    · exact .inl rfl
    · exact .inr (host.chars label among c within)
  · cases dotted with
    | true => exact .inl (List.mem_singleton.mp root)
    | false => cases root

theorem getLast?_ne : (['.'].intercalate labels).getLast? ≠ some '.' := by
  obtain ⟨label, among, same⟩ : ∃ label ∈ labels,
      (['.'].intercalate labels).getLast? = label.getLast? :=
    Text.getLast?_intercalate host.given host.filled
  rw [same]
  intro dot
  have char := host.chars label among '.' (List.mem_of_getLast? dot)
  exact (hostChar char).undotted rfl

theorem rooted (dotted : Bool) :
    (if (written labels dotted).getLast? = some '.' then written labels dotted
      else written labels dotted ++ ['.']) = written labels true := by
  cases dotted with
  | true =>
    rw [if_pos]
    exact List.getLast?_concat
  | false =>
    have undotted : written labels false = ['.'].intercalate labels := List.append_nil _
    rw [undotted, if_neg host.getLast?_ne]
    rfl

theorem lower_written (dotted : Bool) :
    Text.lower (written labels dotted) = written (lowered labels) dotted := by
  rw [Text.lower_ascii, written, List.map_append, Text.map_intercalate]
  · cases dotted <;> rfl
  · intro c member
    obtain rfl | char := host.mem_written member
    · decide
    · exact (hostChar char).ascii

theorem strip_written (dotted : Bool) :
    Text.strip (written labels dotted) = written labels dotted := by
  refine Text.strip_solid fun c member => ?_
  obtain rfl | char := host.mem_written member
  · decide
  · exact (hostChar char).solid

theorem lowered : AreHost (lowered labels) where
  given := by simpa [Dns.lowered] using host.given
  filled := by
    intro label among
    obtain ⟨before, member, rfl⟩ := List.mem_map.mp among
    simpa using host.filled before member
  chars := by
    intro label among c within
    obtain ⟨before, member, rfl⟩ := List.mem_map.mp among
    obtain ⟨d, inside, rfl⟩ := List.mem_map.mp within
    exact (hostChar (host.chars before member d inside)).lower

theorem lowered_lowered : Dns.lowered (Dns.lowered labels) = Dns.lowered labels := by
  rw [Dns.lowered, Dns.lowered, List.map_map]
  refine List.map_congr_left fun label among => ?_
  rw [Function.comp_apply, List.map_map]
  refine List.map_congr_left fun c within => ?_
  exact (hostChar (host.chars label among c within)).again

theorem canonicalName_written (dotted : Bool) :
    canonicalName (.ofList (written labels dotted)) = hostKey labels := by
  rw [canonicalName, String.toList_ofList, host.strip_written, host.lower_written]
  exact congrArg String.ofList (host.lowered.rooted dotted)

theorem absoluteName_written (dotted : Bool) :
    Settings.absoluteName (.ofList (written labels dotted)) = hostKey labels := by
  rw [Settings.absoluteName, String.toList_ofList]
  exact congrArg String.ofList ((congrArg Text.lower (host.rooted dotted)).trans
    (host.lower_written true))

theorem canonicalName_hostKey : canonicalName (hostKey labels) = hostKey labels := by
  have again := host.lowered.canonicalName_written true
  rwa [hostKey, host.lowered_lowered] at again

end AreHost

theorem labelText_of_same {label : Label} {chars : List Char}
    (host : ∀ c ∈ chars, isHostChar c = true)
    (same : label.map Name.lowerByte =
      (chars.map fun c => UInt8.ofNat c.toNat).map Name.lowerByte) :
    (Name.labelText label).map Text.lowerAscii = chars.map Text.lowerAscii ∧
      ∀ c ∈ Name.labelText label, isHostChar c = true := by
  induction label generalizing chars with
  | nil =>
    cases chars with
    | nil => exact ⟨rfl, by simp [Name.labelText]⟩
    | cons c rest => cases same
  | cons b label ih =>
    cases chars with
    | nil => cases same
    | cons c rest =>
      obtain ⟨first, others⟩ := List.cons.inj same
      obtain ⟨folded, inside⟩ := ih (fun d member => host d (.tail _ member)) others
      -- In lower case the byte stands for a host character, so it is written as it is.
      have facts := hostChar (host c List.mem_cons_self)
      have byte := facts.byte
      rw [← first] at byte
      obtain ⟨char, text, again⟩ := hostByte_of_lower byte facts.lower
      have split : Name.labelText (b :: label) = Char.ofNat b.toNat :: Name.labelText label := by
        rw [Name.labelText, List.flatMap_cons, text]
        rfl
      rw [split]
      constructor
      · rw [List.map_cons, List.map_cons, again, folded]
      · intro d member
        obtain rfl | later := List.mem_cons.mp member
        · exact char
        · exact inside d later

/-- A name of letters, digits and hyphens, with or without the root written at its end. -/
structure HostName where
  labels : List (List Char)
  dotted : Bool
  given : labels ≠ []
  sound : ∀ label ∈ labels, label ≠ [] ∧ label.length ≤ 63 ∧ ∀ c ∈ label, isHostChar c = true
  short : (['.'].intercalate labels).length ≤ 253

namespace HostName

variable (host : HostName)

def text : String := .ofList (written host.labels host.dotted)

def labelsOf (labels : List (List Char)) : List Label :=
  labels.map fun label => label.map fun c => UInt8.ofNat c.toNat

def name : Name := ⟨labelsOf host.labels, true⟩

def key : String := hostKey host.labels

theorem areHost : AreHost host.labels where
  given := host.given
  filled label among := (host.sound label among).1
  chars label among := (host.sound label among).2.2

theorem canonicalName_text : canonicalName host.text = host.key :=
  host.areHost.canonicalName_written host.dotted

theorem canonicalName_absoluteName :
    canonicalName (Settings.absoluteName host.text) = host.key := by
  rw [text, host.areHost.absoluteName_written]
  exact host.areHost.canonicalName_hostKey

theorem labelsText_of_same {labels : List Label} {parts : List (List Char)}
    (host : ∀ part ∈ parts, part ≠ [] ∧ ∀ c ∈ part, isHostChar c = true)
    (same : labels.map (·.map Name.lowerByte) = (labelsOf parts).map (·.map Name.lowerByte)) :
    lowered (labels.map Name.labelText) = lowered parts ∧
      ∀ part ∈ labels.map Name.labelText, part ≠ [] ∧ ∀ c ∈ part, isHostChar c = true := by
  induction labels generalizing parts with
  | nil =>
    cases parts with
    | nil => exact ⟨rfl, by simp⟩
    | cons part rest => cases same
  | cons label labels ih =>
    cases parts with
    | nil => cases same
    | cons part rest =>
      obtain ⟨first, others⟩ := List.cons.inj same
      obtain ⟨folded, inside⟩ := ih (fun next member => host next (.tail _ member)) others
      obtain ⟨filled, chars⟩ := host part List.mem_cons_self
      obtain ⟨here, plain⟩ := labelText_of_same chars first
      constructor
      · change (Name.labelText label).map Text.lowerAscii :: lowered (labels.map Name.labelText) =
          part.map Text.lowerAscii :: lowered rest
        rw [folded, here]
      · intro next member
        obtain rfl | later := List.mem_cons.mp member
        · refine ⟨fun empty => filled ?_, plain⟩
          rw [empty] at here
          exact List.map_eq_nil_iff.mp here.symm
        · exact inside next later

theorem text_of_absolute {name : Name} (given : name.labels ≠ []) (absolute : name.absolute = true) :
    name.text = .ofList (written (name.labels.map Name.labelText) true) := by
  have some : name.labels.isEmpty = false := by simpa using given
  rw [Name.text, some, absolute]
  rfl

theorem labels_ne_nil_of_same {name : Name} (same : name.same host.name = true) :
    name.labels ≠ [] := by
  simp only [Name.same, Bool.and_eq_true, beq_iff_eq] at same
  intro empty
  have count := congrArg List.length same.2
  rw [Name.key, Name.key, List.length_map, List.length_map, empty, HostName.name, labelsOf,
    List.length_map] at count
  exact host.given (List.length_eq_zero_iff.mp count.symm)

theorem canonicalName_of_same {name : Name} (same : name.same host.name = true) :
    canonicalName name.text = host.key := by
  have given := host.labels_ne_nil_of_same same
  simp only [Name.same, Bool.and_eq_true, beq_iff_eq] at same
  obtain ⟨absolute, labels⟩ := same
  have sound : ∀ part ∈ host.labels, part ≠ [] ∧ ∀ c ∈ part, isHostChar c = true := fun part among =>
    ⟨host.areHost.filled part among, host.areHost.chars part among⟩
  obtain ⟨folded, parts⟩ := labelsText_of_same sound labels
  have named : AreHost (name.labels.map Name.labelText) :=
    ⟨by simpa using given, fun part among => (parts part among).1,
      fun part among => (parts part among).2⟩
  rw [text_of_absolute given absolute, named.canonicalName_written, key, hostKey, hostKey, folded]

end HostName

end Netboot.Dns
