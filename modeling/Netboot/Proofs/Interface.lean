import Netboot.Interface
import Netboot.Proofs.Address.Text

/-! Which interfaces serve: those without a loopback address and with a hardware address. -/

set_option autoImplicit false

namespace Netboot

section Filter

variable {ε α : Type} {p : α → Except ε Bool} {keep : α → Bool} {before after : List α}

theorem filterAuxM_append (each : ∀ x ∈ before, p x = .ok (keep x)) (rest kept : List α) :
    List.filterAuxM p (before ++ rest) kept =
      List.filterAuxM p rest ((before.filter keep).reverse ++ kept) := by
  induction before generalizing kept with
  | nil => rfl
  | cons x others ih =>
    have later := ih (fun y member => each y (.tail _ member))
    change (p x >>= fun b => List.filterAuxM p (others ++ rest) (cond b (x :: kept) kept)) = _
    rw [each x List.mem_cons_self]
    change List.filterAuxM p (others ++ rest) (cond (keep x) (x :: kept) kept) = _
    rw [later]
    cases kept : keep x <;> simp [kept]

theorem filterM_of_ok {list : List α} (each : ∀ x ∈ list, p x = .ok (keep x)) :
    list.filterM p = .ok (list.filter keep) := by
  have whole := filterAuxM_append each [] []
  rw [List.append_nil, List.append_nil] at whole
  change (List.filterAuxM p list [] >>= fun kept => pure kept.reverse) = _
  rw [whole]
  exact congrArg Except.ok (List.reverse_reverse _)

theorem filterM_of_error {x : α} {fault : ε} (each : ∀ y ∈ before, p y = .ok (keep y))
    (failed : p x = .error fault) : (before ++ x :: after).filterM p = .error fault := by
  change (List.filterAuxM p (before ++ x :: after) [] >>= fun kept => pure kept.reverse) = _
  rw [filterAuxM_append each]
  change (p x >>= _) >>= _ = _
  rw [failed]
  rfl

end Filter

namespace Interface

/-- The text of an address in 127.0.0.0/8. -/
def IsLoopback (text : String) : Prop := ∃ a ∈ V4.parse? text, a.octets.head? = some 127

instance (text : String) : Decidable (IsLoopback text) := Option.decidableExistsMem _

structure Link.Valid (link : Link) : Prop where
  notLoopback : ∀ text ∈ link.inet, ¬ IsLoopback text
  hardware : ∃ address ∈ link.hardware, address ≠ "" ∧ address ≠ "00:00:00:00:00:00"

instance (link : Link) : Decidable link.Valid :=
  decidable_of_iff
    ((∀ text ∈ link.inet, ¬ IsLoopback text) ∧
      ∃ address ∈ link.hardware, address ≠ "" ∧ address ≠ "00:00:00:00:00:00")
    ⟨fun ⟨first, second⟩ => ⟨first, second⟩, fun ⟨first, second⟩ => ⟨first, second⟩⟩

/-- A text that is no address comes before every loopback address, and why it is none. -/
def Link.Unreadable (link : Link) (fault : V4.Fault) : Prop :=
  ∃ before text after, link.inet = before ++ text :: after ∧
    (∀ other ∈ before, (V4.parse? other).isSome ∧ ¬ IsLoopback other) ∧
    V4.parse text = .error fault

def Link.Readable (link : Link) : Prop := ∀ fault, ¬ link.Unreadable fault

inductive Listing (links : List Link) : Except Fault (List String) → Prop where
  | unreadable {before after : List Link} {link : Link} {fault : V4.Fault} :
    links = before ++ link :: after → (∀ other ∈ before, other.Readable) →
    link.Unreadable fault → Listing links (.error (.address fault))
  | none : (∀ link ∈ links, link.Readable) → (∀ link ∈ links, ¬ link.Valid) →
    Listing links (.error .noneUsable)
  | some : (∀ link ∈ links, link.Readable) → (∃ link ∈ links, link.Valid) →
    Listing links (.ok ((links.filter (·.Valid)).map (·.name)))

variable {link : Link} {fault : V4.Fault} {texts before after : List String} {text : String}
  {a : V4}

theorem isLoopback_iff (read : V4.parse text = .ok a) :
    IsLoopback text ↔ a.isLoopback = true := by
  have given := V4.parse?_eq_some_iff.mpr read
  simp only [IsLoopback, given, Option.mem_some_iff, exists_eq_left', V4.octets, List.head?_cons,
    Option.some.injEq, V4.isLoopback, beq_iff_eq]

theorem anyLoopback_append
    (passed : ∀ other ∈ before, (V4.parse? other).isSome ∧ ¬ IsLoopback other)
    (rest : List String) : anyLoopback (before ++ rest) = anyLoopback rest := by
  induction before with
  | nil => rfl
  | cons first others ih =>
    obtain ⟨given, outside⟩ := passed first List.mem_cons_self
    obtain ⟨a, read⟩ := Option.isSome_iff_exists.mp given
    have read := V4.parse?_eq_some_iff.mp read
    rw [isLoopback_iff read, Bool.not_eq_true] at outside
    rw [List.cons_append, anyLoopback, read]
    change (if a.isLoopback then _ else _) = _
    rw [outside]
    exact ih fun other member => passed other (.tail _ member)

theorem anyLoopback_of_unreadable (unreadable : link.Unreadable fault) :
    anyLoopback link.inet = .error fault := by
  obtain ⟨before, text, after, same, passed, failed⟩ := unreadable
  rw [same, anyLoopback_append passed, anyLoopback, failed]
  rfl

theorem anyLoopback_of_readable (readable : link.Readable) :
    anyLoopback link.inet = .ok (decide (∃ text ∈ link.inet, IsLoopback text)) := by
  -- The first text that does not pass, if there is one, decides.
  let stops (text : String) : Bool := ¬ ((V4.parse? text).isSome ∧ ¬ IsLoopback text)
  cases first : link.inet.find? stops with
  | none =>
    have passed : ∀ other ∈ link.inet, (V4.parse? other).isSome ∧ ¬ IsLoopback other := by
      simpa [stops, Option.isSome_iff_ne_none] using List.find?_eq_none.mp first
    have none : ¬ ∃ text ∈ link.inet, IsLoopback text := fun ⟨text, member, inside⟩ =>
      (passed text member).2 inside
    have whole := anyLoopback_append passed []
    rw [List.append_nil] at whole
    rw [whole, decide_eq_false none]
    rfl
  | some text =>
    obtain ⟨stopped, before, after, same, earlier⟩ := List.find?_eq_some_iff_append.mp first
    have passed : ∀ other ∈ before, (V4.parse? other).isSome ∧ ¬ IsLoopback other := by
      simpa [stops] using earlier
    cases read : V4.parse text with
    | error fault => exact absurd ⟨before, text, after, same, passed, read⟩ (readable fault)
    | ok a =>
      have inside : IsLoopback text := by
        simpa [stops, V4.parse?_eq_some_iff.mpr read] using stopped
      have found : ∃ text ∈ link.inet, IsLoopback text := ⟨text, by simp [same], inside⟩
      rw [decide_eq_true found, same, anyLoopback_append passed, anyLoopback, read]
      change (if a.isLoopback then _ else _) = _
      rw [(isLoopback_iff read).mp inside]
      rfl

theorem Link.usable_of_unreadable (unreadable : link.Unreadable fault) :
    link.usable = .error fault := by
  rw [Link.usable, anyLoopback_of_unreadable unreadable]
  rfl

theorem Link.usable_of_readable (readable : link.Readable) :
    link.usable = .ok (decide link.Valid) := by
  have hardware : link.hardware.any isHardware = true ↔
      ∃ address ∈ link.hardware, address ≠ "" ∧ address ≠ "00:00:00:00:00:00" := by
    simp [isHardware]
  rw [Link.usable, anyLoopback_of_readable readable]
  by_cases loopback : ∃ text ∈ link.inet, IsLoopback text
  · have invalid : ¬ link.Valid := fun valid => loopback.elim fun text ⟨member, inside⟩ =>
      valid.notLoopback text member inside
    rw [decide_eq_true loopback, decide_eq_false invalid]
    rfl
  · rw [decide_eq_false loopback]
    refine congrArg Except.ok (Bool.eq_iff_iff.mpr (hardware.trans ?_))
    rw [decide_eq_true_iff]
    exact ⟨fun given => ⟨fun text member inside => loopback ⟨text, member, inside⟩, given⟩,
      Link.Valid.hardware⟩

section Listing

variable {links linksBefore linksAfter : List Link}

theorem usable_of_unreadable (readable : ∀ other ∈ linksBefore, other.Readable)
    (unreadable : link.Unreadable fault) :
    usable (linksBefore ++ link :: linksAfter) = .error (.address fault) := by
  have earlier : ∀ other ∈ linksBefore, other.usable = .ok (decide other.Valid) :=
    fun other member => Link.usable_of_readable (readable other member)
  rw [usable, filterM_of_error earlier (Link.usable_of_unreadable unreadable)]
  rfl

theorem filterM_usable (readable : ∀ link ∈ links, link.Readable) :
    links.filterM Link.usable = .ok (links.filter (·.Valid)) :=
  filterM_of_ok fun link member => Link.usable_of_readable (readable link member)

theorem usable_of_not_valid (readable : ∀ link ∈ links, link.Readable)
    (invalid : ∀ link ∈ links, ¬ link.Valid) : usable links = .error .noneUsable := by
  have empty : links.filter (·.Valid) = [] := by simpa using invalid
  rw [usable, filterM_usable readable, empty]
  rfl

theorem usable_of_valid (readable : ∀ link ∈ links, link.Readable)
    (served : ∃ link ∈ links, link.Valid) :
    usable links = .ok ((links.filter (·.Valid)).map (·.name)) := by
  have filled : (links.filter (·.Valid)).isEmpty = false := by simpa using served
  rw [usable, filterM_usable readable]
  change (if (links.filter (·.Valid)).isEmpty then _ else _) = _
  rw [filled]
  rfl

theorem usable_listing (links : List Link) : Listing links (usable links) := by
  classical
  cases first : links.find? (fun link => ¬ link.Readable) with
  | some link =>
    obtain ⟨faulty, before, after, rfl, earlier⟩ := List.find?_eq_some_iff_append.mp first
    have readable : ∀ other ∈ before, other.Readable := by simpa using earlier
    obtain ⟨fault, unreadable⟩ : ∃ fault, link.Unreadable fault := by
      simpa [Link.Readable] using faulty
    rw [usable_of_unreadable readable unreadable]
    exact .unreadable rfl readable unreadable
  | none =>
    have readable : ∀ link ∈ links, link.Readable := by simpa using List.find?_eq_none.mp first
    by_cases served : ∃ link ∈ links, link.Valid
    · rw [usable_of_valid readable served]
      exact .some readable served
    · have invalid : ∀ link ∈ links, ¬ link.Valid := fun link member valid =>
        served ⟨link, member, valid⟩
      rw [usable_of_not_valid readable invalid]
      exact .none readable invalid

theorem exists_error_of_not_valid (invalid : ∀ link ∈ links, ¬ link.Valid) :
    ∃ fault, usable links = .error fault := by
  have listing := usable_listing links
  cases same : usable links with
  | error fault => exact ⟨fault, rfl⟩
  | ok names =>
    rw [same] at listing
    cases listing with
    | some _ served =>
      obtain ⟨link, member, valid⟩ := served
      exact absurd valid (invalid link member)

end Listing

end Interface

end Netboot
