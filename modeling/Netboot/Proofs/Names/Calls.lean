import Netboot.Proofs.Names

/-! Runs of a name store: any registrations in any order.

Under every name the store lists the values that were registered under it, each once and in the order
in which they came first. What happens under another name never shows there.
-/

set_option autoImplicit false

namespace Netboot

namespace Table

variable {α : Type} [BEq α]

def offer (table : Table α) (key : String) : Option α → Table α
  | some value => (table.add key value).1
  | none => table

end Table

namespace NameStore

inductive Call where
  | register (name text : String)
  | registerAddress (name : String) (address : Address)
  | registerRaw (name line : String)
  deriving DecidableEq, Repr

namespace Call

def name : Call → String
  | .register name _ | .registerAddress name _ | .registerRaw name _ => name

def key (call : Call) : String := canonicalName call.name

def address? : Call → Option Address
  | .register _ text => Address.parse? text
  | .registerAddress _ address => some address
  | .registerRaw _ _ => none

def v4? (call : Call) : Option V4 :=
  match call.address? with
  | some (.v4 a) => some a
  | _ => none

def v6? (call : Call) : Option V6 :=
  match call.address? with
  | some (.v6 a) => some a
  | _ => none

def line? : Call → Option String
  | .registerRaw _ line => some line
  | _ => none

def run (store : NameStore) : Call → NameStore × Except NotAddress Bool
  | .register name text => store.register name text
  | .registerAddress name address =>
    let (next, added) := store.registerAddress name address
    (next, .ok added)
  | .registerRaw name line =>
    let (next, added) := store.registerRaw name line
    (next, .ok added)

end Call

def after (store : NameStore) (calls : List Call) : NameStore :=
  calls.foldl (fun store call => (call.run store).1) store

/-- The values that calls gave under a name, each once and in the order in which they came first. -/
def given {α : Type} [BEq α] (value? : Call → Option α) (calls : List Call) (name : String) : List α :=
  ((calls.filter (·.key = canonicalName name)).filterMap value?).eraseDups

def entryCount (store : NameStore) (name : String) : Nat :=
  (store.resolveV4 name).length + (store.resolveV6 name).length + (store.rawRecords name).length

variable {store : NameStore} {call : Call} {name : String}

theorem after_concat (store : NameStore) (calls : List Call) (call : Call) :
    store.after (calls ++ [call]) = (call.run (store.after calls)).1 := by
  rw [after, List.foldl_append]
  rfl

theorem knows_of_mem_rawRecords {line : String} (member : line ∈ store.rawRecords name) :
    store.knows name = true := by
  rw [knows, Table.has_of_mem member, Bool.or_true]

/-! ## One call -/

theorem register_of_parse {text : String} {address : Address}
    (parsed : Address.parse? text = some address) :
    (Call.register name text).run store = (Call.registerAddress name address).run store := by
  simp only [Call.run, register, parsed]

theorem register_of_unparsed {text : String} (unparsed : Address.parse? text = none) :
    (Call.register name text).run store = (store, .error ⟨text⟩) := by
  simp only [Call.run, register, unparsed]

theorem tables_run (store : NameStore) (call : Call) :
    (call.run store).1.v4 = store.v4.offer call.key call.v4? ∧
    (call.run store).1.v6 = store.v6.offer call.key call.v6? ∧
    (call.run store).1.raw = store.raw.offer call.key call.line? := by
  cases call with
  | registerAddress name address => cases address <;> exact ⟨rfl, rfl, rfl⟩
  | registerRaw name line => exact ⟨rfl, rfl, rfl⟩
  | register name text =>
    -- A text that is an address registers as the address does, and any other offers nothing.
    simp only [Call.v4?, Call.v6?, Call.address?]
    cases parsed : Address.parse? text with
    | none =>
      rw [register_of_unparsed parsed]
      exact ⟨rfl, rfl, rfl⟩
    | some address =>
      rw [register_of_parse parsed]
      cases address <;> exact ⟨rfl, rfl, rfl⟩

/-- The call adds one entry under its name and tells so, or it changes nothing. -/
def Call.TellsChange (store : NameStore) (call : Call) : Prop :=
  (call.run store).2 = .ok true ∧
      (call.run store).1.entryCount call.name = store.entryCount call.name + 1 ∨
    (call.run store).2 ≠ .ok true ∧ (call.run store).1 = store

theorem tells_of_add {α : Type} [BEq α] [LawfulBEq α] {table : Table α} {key : String} {value : α}
    (put : Table α × Bool → NameStore)
    (runs : call.run store = (put (table.add key value), .ok (table.add key value).2))
    (keeps : put (table, false) = store)
    (counts : ∀ outcome, (put outcome).entryCount call.name + (table.values key).length =
      store.entryCount call.name + (outcome.1.values key).length) : call.TellsChange store := by
  rw [Call.TellsChange, runs]
  obtain ⟨told, longer⟩ | known := Table.add_told table key value
  · have count := counts (table.add key value)
    refine .inl ⟨congrArg Except.ok told, ?_⟩
    change (put (table.add key value)).entryCount call.name = store.entryCount call.name + 1
    omega
  · rw [known]
    exact .inr ⟨nofun, keeps⟩

theorem registerAddress_tells (store : NameStore) (name : String) (address : Address) :
    (Call.registerAddress name address).TellsChange store := by
  cases address with
  | v4 a =>
    refine tells_of_add (fun outcome => { store with
      v4 := outcome.1, registrations := store.registrations + outcome.2.toNat }) rfl rfl ?_
    intro outcome
    simp only [entryCount, resolveV4, resolveV6, rawRecords, Call.name]
    omega
  | v6 a =>
    refine tells_of_add (fun outcome => { store with
      v6 := outcome.1, registrations := store.registrations + outcome.2.toNat }) rfl rfl ?_
    intro outcome
    simp only [entryCount, resolveV4, resolveV6, rawRecords, Call.name]
    omega

theorem run_tells (store : NameStore) (call : Call) : call.TellsChange store := by
  cases call with
  | registerAddress name address => exact registerAddress_tells store name address
  | registerRaw name line =>
    refine tells_of_add (fun outcome => { store with raw := outcome.1 }) rfl rfl ?_
    intro outcome
    simp only [entryCount, resolveV4, resolveV6, rawRecords, Call.name]
    omega
  | register name text =>
    cases parsed : Address.parse? text with
    | none => exact .inr (by simp [register_of_unparsed parsed])
    | some address =>
      rw [Call.TellsChange, register_of_parse parsed]
      exact registerAddress_tells store name address

/-- A call fails for a text that is no address, and for nothing else. -/
theorem run_error_iff {fault : NotAddress} :
    (call.run store).2 = .error fault ↔
      ∃ name, call = .register name fault.text ∧ Address.parse? fault.text = none := by
  constructor
  · intro failed
    cases call with
    | registerAddress name address => cases failed
    | registerRaw name line => cases failed
    | register name text =>
      cases parsed : Address.parse? text with
      | some address =>
        rw [register_of_parse parsed] at failed
        cases failed
      | none =>
        rw [register_of_unparsed parsed] at failed
        cases failed
        exact ⟨name, rfl, parsed⟩
  · rintro ⟨name, rfl, unparsed⟩
    rw [register_of_unparsed unparsed]

/-! ## Runs -/

section
variable {α : Type} [DecidableEq α] {value? : Call → Option α} {calls : List Call}

theorem given_concat_of_value {value : α} (same : call.key = canonicalName name)
    (gives : value? call = some value) :
    given value? (calls ++ [call]) name =
      if value ∈ given value? calls name then given value? calls name
      else given value? calls name ++ [value] := by
  have gave : (calls ++ [call]).filter (·.key = canonicalName name) =
      calls.filter (·.key = canonicalName name) ++ [call] := by
    simp [same]
  rw [given, gave, List.filterMap_append, List.filterMap_cons_some gives, List.filterMap_nil,
    eraseDups_concat]
  simp only [given, List.mem_eraseDups]

theorem given_concat_of_none (gives : value? call = none) :
    given value? (calls ++ [call]) name = given value? calls name := by
  by_cases same : call.key = canonicalName name <;> simp [given, same, gives]

theorem given_concat_of_other (other : call.key ≠ canonicalName name) :
    given value? (calls ++ [call]) name = given value? calls name := by
  simp [given, other]

theorem values_after (view : NameStore → Table α) (fresh : view empty = [])
    (offers : ∀ store call, view (call.run store).1 = (view store).offer call.key (value? call))
    (calls : List Call) :
    (∀ name, (view (empty.after calls)).values (canonicalName name) = given value? calls name) ∧
      (view (empty.after calls)).Filled := by
  induction calls using List.reverseRecOn with
  | nil =>
    rw [after, List.foldl_nil, fresh]
    exact ⟨fun name => rfl, Table.filled_nil⟩
  | append_singleton earlier call ih =>
    obtain ⟨lists, filled⟩ := ih
    rw [after_concat, offers]
    -- Only a call with a value of this kind touches the table, and only under its own key.
    cases gives : value? call with
    | none => exact ⟨fun name => (lists name).trans (given_concat_of_none gives).symm, filled⟩
    | some value =>
      refine ⟨fun name => ?_, filled.add _ _⟩
      rw [Table.offer, Table.values_add]
      by_cases same : call.key = canonicalName name
      · rw [given_concat_of_value same gives, same, lists name]
        by_cases listed : value ∈ given value? earlier name <;> simp [listed]
      · rw [given_concat_of_other same, if_neg fun both => same both.1.symm, lists name]

theorem values_after_others (view : NameStore → Table α)
    (offers : ∀ store call, view (call.run store).1 = (view store).offer call.key (value? call))
    {others : List Call} {key : String} (elsewhere : ∀ call ∈ others, call.key ≠ key)
    (store : NameStore) : (view (store.after others)).values key = (view store).values key := by
  induction others using List.reverseRecOn with
  | nil => rfl
  | append_singleton earlier call ih =>
    have before := ih fun call member => elsewhere call (List.mem_append_left _ member)
    have other : call.key ≠ key := elsewhere call (List.mem_append_right _ List.mem_cons_self)
    rw [after_concat, offers]
    cases value? call with
    | none => exact before
    | some value => rw [Table.offer, Table.values_add, if_neg fun both => other both.1.symm, before]

end

section
variable (calls : List Call) (name : String)

theorem resolveV4_after : (empty.after calls).resolveV4 name = given Call.v4? calls name :=
  (values_after NameStore.v4 rfl (fun store call => (tables_run store call).1) calls).1 name

theorem resolveV6_after : (empty.after calls).resolveV6 name = given Call.v6? calls name :=
  (values_after NameStore.v6 rfl (fun store call => (tables_run store call).2.1) calls).1 name

theorem rawRecords_after : (empty.after calls).rawRecords name = given Call.line? calls name :=
  (values_after NameStore.raw rfl (fun store call => (tables_run store call).2.2) calls).1 name

variable {calls name} in
theorem mem_rawRecords_after {other line : String} (registered : .registerRaw other line ∈ calls)
    (named : canonicalName other = canonicalName name) :
    line ∈ (empty.after calls).rawRecords name := by
  rw [rawRecords_after, given, List.mem_eraseDups, List.mem_filterMap]
  exact ⟨_, List.mem_filter.mpr ⟨registered, decide_eq_true named⟩, rfl⟩

theorem nodup_resolveV4_after : ((empty.after calls).resolveV4 name).Nodup := by
  rw [resolveV4_after]
  exact nodup_eraseDups _

theorem nodup_resolveV6_after : ((empty.after calls).resolveV6 name).Nodup := by
  rw [resolveV6_after]
  exact nodup_eraseDups _

end

/-- Under every name a store answers what was registered under it, whatever else was registered and
whichever calls failed. A call tells of a new entry just when it adds one, and fails just for a text
that is no address; in all other cases it changes nothing. -/
theorem answers_registrations (calls : List Call) (name : String) :
    (empty.after calls).resolveV4 name = given Call.v4? calls name ∧
    (empty.after calls).resolveV6 name = given Call.v6? calls name ∧
    (empty.after calls).rawRecords name = given Call.line? calls name ∧
    (empty.after calls).resolve name =
      (given Call.v4? calls name).map .v4 ++ (given Call.v6? calls name).map .v6 ∧
    ((empty.after calls).knows name = true ↔
      given Call.v4? calls name ≠ [] ∨ given Call.v6? calls name ≠ [] ∨
        given Call.line? calls name ≠ []) ∧
    (∀ call : Call,
      ((call.run (empty.after calls)).2 = .ok true ↔
        (call.run (empty.after calls)).1.entryCount call.name =
          (empty.after calls).entryCount call.name + 1) ∧
      ((call.run (empty.after calls)).2 ≠ .ok true →
        (call.run (empty.after calls)).1 = empty.after calls) ∧
      ∀ fault, (call.run (empty.after calls)).2 = .error fault ↔
        ∃ name, call = .register name fault.text ∧ Address.parse? fault.text = none) ∧
    ∀ others : List Call, (∀ call ∈ others, call.key ≠ canonicalName name) →
      ((empty.after calls).after others).resolveV4 name = (empty.after calls).resolveV4 name ∧
      ((empty.after calls).after others).resolveV6 name = (empty.after calls).resolveV6 name ∧
      ((empty.after calls).after others).rawRecords name = (empty.after calls).rawRecords name := by
  -- The three tables are three views of one store, and a call offers its value to all of them.
  have offersV4 (store : NameStore) (call : Call) := (tables_run store call).1
  have offersV6 (store : NameStore) (call : Call) := (tables_run store call).2.1
  have offersRaw (store : NameStore) (call : Call) := (tables_run store call).2.2
  obtain ⟨listsV4, filledV4⟩ := values_after NameStore.v4 rfl offersV4 calls
  obtain ⟨listsV6, filledV6⟩ := values_after NameStore.v6 rfl offersV6 calls
  obtain ⟨listsRaw, filledRaw⟩ := values_after NameStore.raw rfl offersRaw calls
  refine ⟨listsV4 name, listsV6 name, listsRaw name, ?_, ?_, fun call => ⟨?_, ?_, ?_⟩,
    fun others elsewhere => ⟨?_, ?_, ?_⟩⟩
  · rw [resolve, resolveV4, resolveV6, listsV4, listsV6]
  · rw [knows, Bool.or_eq_true, Bool.or_eq_true, filledV4, filledV6, filledRaw, listsV4, listsV6,
      listsRaw, or_assoc]
  · obtain ⟨told, longer⟩ | ⟨quiet, same⟩ := run_tells (empty.after calls) call
    · exact ⟨fun _ => longer, fun _ => told⟩
    · rw [same]
      exact ⟨fun told => absurd told quiet, fun longer => absurd longer (by omega)⟩
  · obtain ⟨told, -⟩ | ⟨-, same⟩ := run_tells (empty.after calls) call
    · exact fun quiet => absurd told quiet
    · exact fun _ => same
  · exact fun fault => run_error_iff
  · exact values_after_others NameStore.v4 offersV4 elsewhere _
  · exact values_after_others NameStore.v6 offersV6 elsewhere _
  · exact values_after_others NameStore.raw offersRaw elsewhere _

def controlPlaneCalls : List Call := [
  .register "CP.talos" "10.0.0.7",
  .register "cp.talos." "10.0.0",
  .registerAddress " cp.talos" (.v4 (.ofNat 0x0a000005)),
  .register "cp.TALOS" "10.0.0.7",
  .registerRaw "cp.talos." "TXT talos"]

theorem answers_registrations_of_spellings :
    (empty.after controlPlaneCalls).resolveV4 "cp.talos" =
      [.ofNat 0x0a000007, .ofNat 0x0a000005] ∧
    (empty.after controlPlaneCalls).knows "cp.talos" = true ∧
    ((Call.register "cp.talos" "10.0.0").run (empty.after controlPlaneCalls)).1 =
      empty.after controlPlaneCalls ∧
    ((empty.after controlPlaneCalls).after [.register "worker.talos" "10.0.0.9"]).resolveV4
      "cp.talos" = (empty.after controlPlaneCalls).resolveV4 "cp.talos" := by
  obtain ⟨lists, -, -, -, known, changes, others⟩ :=
    answers_registrations controlPlaneCalls "cp.talos"
  obtain ⟨-, unchanged, fails⟩ := changes (.register "cp.talos" "10.0.0")
  have listed : given Call.v4? controlPlaneCalls "cp.talos" =
      [.ofNat 0x0a000007, .ofNat 0x0a000005] := by
    decide
  have failed := (fails ⟨"10.0.0"⟩).mpr ⟨"cp.talos", rfl, by decide +kernel⟩
  have apart : ∀ call ∈ [Call.register "worker.talos" "10.0.0.9"],
      call.key ≠ canonicalName "cp.talos" := by
    decide
  refine ⟨lists.trans listed, known.mpr (.inl ?_), unchanged ?_, (others _ apart).1⟩
  · rw [listed]
    exact List.cons_ne_nil _ _
  · rw [failed]
    exact nofun

end NameStore

end Netboot
