import Mathlib.Data.List.Induction
import Netboot.Dns.Responder
import Netboot.Proofs.Result

/-! Record sets gathered from texts: every text is read as data of the type, and all of them are
about one type.
-/

set_option autoImplicit false

namespace Netboot.Dns

theorem Rdata.same_iff {a b : Rdata} : a.same b = true ↔ a.map Part.key = b.map Part.key :=
  beq_iff_eq

namespace RecordSet

def gather (type : Nat) (known : List Rdata) (data : Rdata) : List Rdata :=
  if RecordType.singletons.contains type then [data]
  else if known.any (·.same data) then known
  else known ++ [data]

def gathered (type : Nat) (list : List Rdata) : List Rdata := list.foldl (gather type) []

theorem addData_eq (records : RecordSet) (data : Rdata) :
    records.addData data = { records with data := gather records.type records.data data } := by
  unfold addData gather
  split
  · rfl
  · split <;> rfl

variable {type : Nat} {known list : List Rdata} {data : Rdata}

theorem gather_ne_nil : gather type known data ≠ [] := by
  unfold gather
  split
  · exact List.cons_ne_nil _ _
  split
  next seen =>
    rintro rfl
    cases seen
  next => exact List.append_ne_nil_of_right_ne_nil _ (List.cons_ne_nil _ _)

theorem gathered_ne_nil (given : list ≠ []) : gathered type list ≠ [] := by
  -- The last record is in the set, or one that is the same.
  cases list using List.reverseRecOn with
  | nil => contradiction
  | append_singleton earlier last =>
    rw [gathered, List.foldl_append, List.foldl_cons, List.foldl_nil]
    exact gather_ne_nil

theorem gathered_of_singleton (single : RecordType.singletons.contains type = true) :
    gathered type list = list.getLast?.toList := by
  induction list using List.reverseRecOn with
  | nil => rfl
  | append_singleton earlier last _ =>
    rw [gathered, List.foldl_append, List.foldl_cons, List.foldl_nil, gather, if_pos single,
      List.getLast?_concat]
    rfl

theorem any_same_gather (several : RecordType.singletons.contains type = false) (other : Rdata) :
    (gather type known other).any (·.same data) = true ↔
      known.any (·.same data) = true ∨ other.same data = true := by
  rw [gather, several, if_neg Bool.false_ne_true]
  split
  next seen =>
    refine ⟨.inl, fun either => either.elim id fun same => ?_⟩
    obtain ⟨first, member, before⟩ := List.any_eq_true.mp seen
    exact List.any_eq_true.mpr ⟨first, member,
      Rdata.same_iff.mpr ((Rdata.same_iff.mp before).trans (Rdata.same_iff.mp same))⟩
  next => simp

/-- Of any other type, all records stay, up to those that are the same. -/
theorem any_same_gathered (several : RecordType.singletons.contains type = false) :
    (gathered type list).any (·.same data) = true ↔ list.any (·.same data) = true := by
  -- For any records known before, as these grow on the way.
  have steps : ∀ known, (list.foldl (gather type) known).any (·.same data) = true ↔
      known.any (·.same data) = true ∨ list.any (·.same data) = true := by
    induction list with
    | nil => simp
    | cons first rest ih =>
      intro known
      rw [List.foldl_cons, ih, any_same_gather several, List.any_cons, Bool.or_eq_true, or_assoc]
  rw [gathered, steps, List.any_nil, Bool.false_eq_true, false_or]

end RecordSet

namespace Responder

variable {records next : RecordSet} {value : String} {values : List String}

def grown (records : RecordSet) (data : Rdata) : RecordSet :=
  { records with
    covers := data.covers records.type
    data := RecordSet.gather records.type records.data data }

theorem addValue_ok_iff : addValue records value = .ok next ↔
    ∃ data, Rdata.ofText records.type value = .ok data ∧
      (records.data = [] ∨ records.covers = data.covers records.type) ∧
      next = grown records data := by
  unfold addValue
  cases read : Rdata.ofText records.type value with
  | error fault => exact iff_of_false nofun fun ⟨_, same, _⟩ => nomatch same
  | ok data =>
    have only (P : Rdata → Prop) : (∃ found, (.ok data : Except ZoneText.Fault Rdata) = .ok found ∧
        P found) ↔ P data :=
      ⟨fun ⟨_, same, holds⟩ => Except.ok.inj same ▸ holds, fun holds => ⟨data, rfl, holds⟩⟩
    rw [only]
    simp only [Except.mapError, bind, Except.bind]
    by_cases empty : records.data = []
    · have first : records.data.isEmpty = true := List.isEmpty_iff.mpr empty
      rw [if_pos first, if_pos rfl, RecordSet.addData_eq]
      exact ⟨fun same => ⟨.inl empty, (Except.ok.inj same).symm⟩, fun ⟨_, same⟩ => same ▸ rfl⟩
    · have more : ¬ records.data.isEmpty = true := mt List.isEmpty_iff.mp empty
      rw [if_neg more]
      by_cases agree : records.covers = data.covers records.type
      · rw [if_pos agree, RecordSet.addData_eq]
        have same : grown records data =
            { records with data := RecordSet.gather records.type records.data data } := by
          rw [grown, ← agree]
        rw [same]
        exact ⟨fun same => ⟨.inr agree, (Except.ok.inj same).symm⟩, fun ⟨_, same⟩ => same ▸ rfl⟩
      · rw [if_neg agree]
        exact iff_of_false nofun fun ⟨either, _⟩ => either.elim empty agree

theorem foldlM_addValue_ok_iff (some : records.data ≠ []) :
    values.foldlM addValue records = .ok next ↔
      ∃ list, values.mapM (Rdata.ofText records.type) = .ok list ∧
        (∀ data ∈ list, data.covers records.type = records.covers) ∧
        next = { records with data := list.foldl (RecordSet.gather records.type) records.data } := by
  induction values generalizing records with
  | nil =>
    constructor
    · intro same
      exact ⟨[], rfl, nofun, (Except.ok.inj same).symm⟩
    · rintro ⟨list, read, -, rfl⟩
      cases read
      rfl
  | cons value rest ih =>
    rw [List.foldlM_cons]
    constructor
    · intro folded
      obtain ⟨middle, added, later⟩ := ok_of_bind folded
      obtain ⟨data, read, either, rfl⟩ := addValue_ok_iff.mp added
      -- The set is not empty, so the record has to cover what the set does.
      have agree := either.resolve_left some
      obtain ⟨list, others, covers, rfl⟩ := (ih RecordSet.gather_ne_nil).mp later
      refine ⟨data :: list, mapM_cons_ok_iff.mpr ⟨data, list, read, others, rfl⟩, ?_, ?_⟩
      · rw [List.forall_mem_cons]
        exact ⟨agree.symm, fun other member => (covers other member).trans agree.symm⟩
      · rw [List.foldl_cons, grown, ← agree]
    · rintro ⟨list, read, covers, rfl⟩
      obtain ⟨data, others, first, later, rfl⟩ := mapM_cons_ok_iff.mp read
      rw [List.forall_mem_cons] at covers
      have added : addValue records value = .ok (grown records data) :=
        addValue_ok_iff.mpr ⟨data, first, .inr covers.1.symm, rfl⟩
      rw [added]
      refine (ih RecordSet.gather_ne_nil).mpr ⟨others, later, fun other member => ?_, ?_⟩
      · exact (covers.2 other member).trans covers.1.symm
      · rw [List.foldl_cons, grown, covers.1]

theorem recordsOf_ok_iff (responder : Responder) (question : Question) (some : values ≠ []) :
    responder.recordsOf question values = .ok records ↔
      ∃ list covers, values.mapM (Rdata.ofText question.type) = .ok list ∧
        (∀ data ∈ list, data.covers question.type = covers) ∧
        records = {
          name := question.name, type := question.type, rdclass := internet, covers := covers
          ttl := responder.ttl, data := RecordSet.gathered question.type list } := by
  cases values with
  | nil => contradiction
  | cons value rest =>
    rw [recordsOf, List.foldlM_cons]
    constructor
    · intro folded
      obtain ⟨middle, added, later⟩ := ok_of_bind folded
      obtain ⟨data, read, -, rfl⟩ := addValue_ok_iff.mp added
      obtain ⟨list, others, covers, rfl⟩ := (foldlM_addValue_ok_iff RecordSet.gather_ne_nil).mp later
      have whole := mapM_cons_ok_iff.mpr ⟨data, list, read, others, rfl⟩
      exact ⟨data :: list, data.covers question.type, whole,
        List.forall_mem_cons.mpr ⟨rfl, covers⟩, rfl⟩
    · rintro ⟨list, covers, read, agree, rfl⟩
      obtain ⟨data, others, first, later, rfl⟩ := mapM_cons_ok_iff.mp read
      rw [List.forall_mem_cons] at agree
      obtain ⟨rfl, agree⟩ := agree
      rw [addValue_ok_iff.mpr ⟨data, first, .inl rfl, rfl⟩]
      exact (foldlM_addValue_ok_iff RecordSet.gather_ne_nil).mpr ⟨others, later, agree, rfl⟩

end Responder

end Netboot.Dns
