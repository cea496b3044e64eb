import Mathlib.Data.List.TakeWhile
import Netboot.Proofs.Names
import Netboot.Proofs.Settings
import Netboot.Proofs.Text.Lower

/-! The name that is configured for the control plane, and the key that the store makes of it. Both put
names in lower case and a dot at their end, but only the store strips blanks: a name that ends in some is
configured with a dot behind them, where they are no longer stripped.
-/

set_option autoImplicit false

namespace Netboot

namespace Text

variable {text : List Char}

def rooted (text : List Char) : List Char :=
  if text.getLast? = some '.' then text else text ++ ['.']

theorem rooted_of_getLast? (dotted : text.getLast? = some '.') : rooted text = text :=
  if_pos dotted

theorem rooted_of_ne (undotted : text.getLast? ≠ some '.') : rooted text = text ++ ['.'] :=
  if_neg undotted

theorem getLast?_rooted (text : List Char) : (rooted text).getLast? = some '.' := by
  by_cases dotted : text.getLast? = some '.'
  · rwa [rooted_of_getLast? dotted]
  · rw [rooted_of_ne dotted, List.getLast?_concat]

/-- The dot may be put there before or after the text is lowered. -/
theorem lower_rooted (text : List Char) : lower (rooted text) = rooted (lower text) := by
  by_cases dotted : text.getLast? = some '.'
  · rw [rooted_of_getLast? dotted, rooted_of_getLast? (getLast?_lower_eq_stop_iff.mpr dotted)]
  · have undotted : (lower text).getLast? ≠ some '.' := fun stop =>
      dotted (getLast?_lower_eq_stop_iff.mp stop)
    rw [rooted_of_ne dotted, rooted_of_ne undotted]
    exact lowerFrom_concat_stop [] text

theorem length_rooted_le (text : List Char) : (rooted text).length ≤ text.length + 1 := by
  by_cases dotted : text.getLast? = some '.'
  · rw [rooted_of_getLast? dotted]
    exact Nat.le_succ _
  · rw [rooted_of_ne dotted, List.length_append]
    exact Nat.le_refl _

theorem getLast?_ne_of_blank {back : List Char} (blank : ∀ c ∈ back, isBlank c = true) :
    back.getLast? ≠ some '.' := fun stop =>
  absurd (blank '.' (List.mem_of_getLast? stop)) (by decide)

theorem rooted_blanks_append {front : List Char} (blank : ∀ c ∈ front, isBlank c = true)
    (text : List Char) : rooted (front ++ text) = front ++ rooted text := by
  by_cases empty : text = []
  · subst empty
    rw [List.append_nil, rooted_of_ne (getLast?_ne_of_blank blank)]
    rfl
  · have last : (front ++ text).getLast? = text.getLast? := by
      rw [List.getLast?_append]
      exact Option.or_of_isSome (List.getLast?_isSome.mpr empty)
    by_cases dotted : text.getLast? = some '.'
    · rw [rooted_of_getLast? dotted, rooted_of_getLast? (last.trans dotted)]
    · rw [rooted_of_ne dotted, rooted_of_ne (last ▸ dotted), List.append_assoc]

theorem trimmed_rooted (first : ∀ c ∈ text.head?, isBlank c = false) : Trimmed (rooted text) := by
  constructor
  · by_cases dotted : text.getLast? = some '.'
    · rwa [rooted_of_getLast? dotted]
    · rw [rooted_of_ne dotted]
      cases text with
      | nil =>
        intro c stop
        obtain rfl : '.' = c := Option.some.inj stop
        decide
      | cons c rest => exact first
  · rw [getLast?_rooted]
    intro c stop
    obtain rfl : '.' = c := Option.some.inj stop
    decide

theorem strip_lower_rooted (text : List Char) :
    strip (lower (rooted text)) = lower (rooted (text.dropWhile isBlank)) := by
  have blank : ∀ c ∈ text.takeWhile isBlank, isBlank c = true :=
    List.all_eq_true.mp List.all_takeWhile
  have trimmed := (trimmed_rooted (head?_dropWhile_isBlank text)).lower
  calc strip (lower (rooted text))
      = strip (lower (rooted (text.takeWhile isBlank ++ text.dropWhile isBlank))) := by
        rw [List.takeWhile_append_dropWhile]
    _ = strip (text.takeWhile isBlank ++ lower (rooted (text.dropWhile isBlank))) := by
        rw [rooted_blanks_append blank, lower_blanks_append blank]
    _ = lower (rooted (text.dropWhile isBlank)) := by
        rw [strip_blanks_append blank, trimmed.strip]

theorem strip_eq_dropWhile_iff : strip text = text.dropWhile isBlank ↔
    (∀ c ∈ text.getLast?, isBlank c = false) ∨ ∀ c ∈ text, isBlank c = true := by
  have last (given : text.dropWhile isBlank ≠ []) :
      text.getLast? = (text.dropWhile isBlank).getLast? := by
    conv_lhs => rw [← List.takeWhile_append_dropWhile (p := isBlank) (l := text)]
    rw [List.getLast?_append]
    exact Option.or_of_isSome (List.getLast?_isSome.mpr given)
  by_cases empty : text.dropWhile isBlank = []
  · refine iff_of_true ?_ (.inr (List.dropWhile_eq_nil_iff.mp empty))
    rw [strip, empty]
    rfl
  · have solid : ¬ ∀ c ∈ text, isBlank c = true := fun blank =>
      empty (List.dropWhile_eq_nil_iff.mpr blank)
    rw [or_iff_left solid, last empty]
    constructor
    · intro same
      rw [← same]
      exact (trimmed_strip text).last
    · exact dropEndWhile_of_getLast?

/-- Blanks that are left at the end of a name make it longer, also in lower case. -/
theorem lower_rooted_dropWhile_eq_iff :
    lower (rooted (text.dropWhile isBlank)) = lower (rooted (strip text)) ↔
      strip text = text.dropWhile isBlank := by
  refine ⟨fun same => ?_, fun same => by rw [same]⟩
  obtain ⟨back, split, blank⟩ := exists_dropEndWhile (text.dropWhile isBlank)
  change text.dropWhile isBlank = strip text ++ back at split
  by_cases none : back = []
  · rw [split, none, List.append_nil]
  · have undotted : (text.dropWhile isBlank).getLast? ≠ some '.' := by
      rw [split, List.getLast?_append, Option.or_of_isSome (List.getLast?_isSome.mpr none)]
      exact getLast?_ne_of_blank blank
    have kept : lower back = back := by
      have alone := lower_blanks_append blank []
      rwa [List.append_nil, show lower [] = [] from rfl, List.append_nil] at alone
    have long : (lower (rooted (text.dropWhile isBlank))).length =
        (lower (strip text)).length + back.length + 1 := by
      rw [rooted_of_ne undotted, split, length_lower_append, length_lower_append, kept]
      rfl
    have short := length_rooted_le (lower (strip text))
    rw [← lower_rooted, ← same, long] at short
    have some : 0 < back.length := List.length_pos_iff.mpr none
    omega

end Text

theorem canonicalName_eq (name : String) :
    canonicalName name = .ofList (Text.lower (Text.rooted (Text.strip name.toList))) := by
  rw [Text.lower_rooted]
  rfl

/-- The key of a configured name: only the blanks in front of the name are left out. -/
theorem canonicalName_absoluteName (name : String) :
    canonicalName (Settings.absoluteName name) =
      .ofList (Text.lower (Text.rooted (name.toList.dropWhile Text.isBlank))) := by
  have configured : (Settings.absoluteName name).toList = Text.lower (Text.rooted name.toList) :=
    String.toList_ofList
  have dotted : (Text.lower (Text.rooted (name.toList.dropWhile Text.isBlank))).getLast? = some '.' :=
    Text.getLast?_lower_eq_stop_iff.mpr (Text.getLast?_rooted _)
  rw [canonicalName_eq, configured, Text.strip_lower_rooted, Text.rooted_of_getLast? dotted,
    Text.lower_lower]

namespace NameStore

def listed (store : NameStore) (key : String) : List Address :=
  (store.v4.values key).map .v4 ++ (store.v6.values key).map .v6

/-- Whatever address is registered under the name is listed under the key, and nothing changes under any
other. -/
def RegistersUnder (name key : String) : Prop :=
  ∀ (store : NameStore) (address : Address),
    address ∈ (store.registerAddress name address).1.listed key ∧
      ∀ other ≠ key, (store.registerAddress name address).1.listed other = store.listed other

theorem registersUnder_canonicalName (name : String) : RegistersUnder name (canonicalName name) := by
  intro store address
  constructor
  · cases address with
    | v4 a =>
      exact List.mem_append_left _ (List.mem_map_of_mem (Table.mem_values_add store.v4 _ a))
    | v6 a =>
      exact List.mem_append_right _ (List.mem_map_of_mem (Table.mem_values_add store.v6 _ a))
  · intro other apart
    cases address <;> simp [listed, registerAddress, Table.values_add, apart]

theorem registersUnder_iff {name key : String} :
    RegistersUnder name key ↔ key = canonicalName name := by
  constructor
  · intro registers
    refine Decidable.byContradiction fun apart => ?_
    obtain ⟨inside, -⟩ := registers {} (.v4 default)
    rw [(registersUnder_canonicalName name {} (.v4 default)).2 key apart] at inside
    cases inside
  · rintro rfl
    exact registersUnder_canonicalName name

end NameStore

theorem ofVariables_controlplane (name : String) :
    Settings.ofVariables [("CONTROLPLANE", name)] = .ok {
      serverRoot := "."
      interface := "eth0"
      staticCidr := "192.168.123.1/24"
      controlplane := Settings.absoluteName name
      tftpRoot := some "./tftp" } := by
  have cidr : Cidr.parse
      (Settings.textOr [("CONTROLPLANE", name)] "STATIC_CIDR" "192.168.123.1/24") =
      .ok ⟨.ofNat 0xc0a87b01, 24, by decide⟩ := by
    change Cidr.parse "192.168.123.1/24" = _
    decide
  have unset : ∀ other ∈ Settings.plainDefaults, [("CONTROLPLANE", name)].lookup other = none := by
    simp [Settings.plainDefaults, List.lookup_cons]
  rw [Settings.ofVariables_of_unset cidr rfl rfl rfl unset]
  simp [Settings.textOr, Settings.joinPath, List.lookup_cons]

/-- The name of the control plane is registered under the key of the configured name without the blanks in
front of it. That is the key of the configured name itself just when the name does not end in a blank, or
is made of blanks alone. -/
theorem configured_key_iff {vars : Settings.Variables} {settings : Settings} {name : String}
    (configured : vars.lookup "CONTROLPLANE" = some name)
    (read : Settings.ofVariables vars = .ok settings) :
    NameStore.RegistersUnder settings.controlplane
        (.ofList (Text.lower (Text.rooted (name.toList.dropWhile Text.isBlank)))) ∧
      (NameStore.RegistersUnder settings.controlplane (canonicalName name) ↔
        (∀ c ∈ name.toList.getLast?, Text.isBlank c = false) ∨
          ∀ c ∈ name.toList, Text.isBlank c = true) := by
  have set : settings.controlplane = Settings.absoluteName name := by
    rw [Settings.controlplane_of_ofVariables read, Settings.textOr, configured]
    rfl
  rw [NameStore.registersUnder_iff, NameStore.registersUnder_iff, set, canonicalName_absoluteName]
  refine ⟨rfl, ?_⟩
  rw [canonicalName_eq, eq_comm, String.ofList_inj, Text.lower_rooted_dropWhile_eq_iff,
    Text.strip_eq_dropWhile_iff]

/-- Blanks in front and a final sigma are no obstacle. -/
theorem configured_key_iff_of_greek : ∃ settings,
    Settings.ofVariables [("CONTROLPLANE", "\u00a0\t ΚΟΣΜΟΣ")] = .ok settings ∧
      canonicalName "\u00a0\t ΚΟΣΜΟΣ" = "κοσμος." ∧
      NameStore.RegistersUnder settings.controlplane "κοσμος." := by
  have key : canonicalName "\u00a0\t ΚΟΣΜΟΣ" = "κοσμος." := by decide +kernel
  have read := ofVariables_controlplane "\u00a0\t ΚΟΣΜΟΣ"
  have last : "\u00a0\t ΚΟΣΜΟΣ".toList.getLast? = some 'Σ' := by decide
  refine ⟨_, read, key, ?_⟩
  rw [← key]
  refine (configured_key_iff rfl read).2.mpr (.inl fun c sigma => ?_)
  obtain rfl : 'Σ' = c := Option.some.inj (last.symm.trans sigma)
  decide

/-- A blank at the end stands before the dot that is put behind it, and so in the key. -/
theorem trailing_blank_changes_key : ∃ settings,
    Settings.ofVariables [("CONTROLPLANE", "cp ")] = .ok settings ∧
      canonicalName "cp " = "cp." ∧ NameStore.RegistersUnder settings.controlplane "cp ." ∧
      ¬ NameStore.RegistersUnder settings.controlplane (canonicalName "cp ") := by
  refine ⟨_, ofVariables_controlplane "cp ", by decide, ?_, ?_⟩
  · exact NameStore.registersUnder_iff.mpr (by decide)
  · rw [NameStore.registersUnder_iff]
    decide

end Netboot
