import Netboot.Proofs.Names
import Netboot.Proofs.Web.Exchange

/-! The names after a run of requests: the addresses that were announced, each once and in the order
in which they were announced first.
-/

set_option autoImplicit false

namespace Netboot

namespace NameStore

variable {before : Nat} {name key : String} {nodes : List V4}

/-- The names when addresses are registered under one key alone; `before` counts what was registered
elsewhere. -/
def ofNodes (before : Nat) (key : String) (nodes : List V4) : NameStore where
  v4 := if nodes.isEmpty then [] else [(key, nodes)]
  registrations := before + nodes.length

theorem values_ofNodes : (ofNodes before key nodes).v4.values key = nodes := by
  cases nodes with
  | nil => rfl
  | cons a rest => simp [ofNodes, Table.values]

theorem resolveV4_ofNodes (under : canonicalName name = key) :
    (ofNodes before key nodes).resolveV4 name = nodes := by
  rw [resolveV4, under, values_ofNodes]

theorem knows_ofNodes (under : canonicalName name = key) :
    (ofNodes before key nodes).knows name = !nodes.isEmpty := by
  cases nodes with
  | nil => rfl
  | cons a rest => simp [knows, under, ofNodes, Table.has]

theorem registerAddress_ofNodes (under : canonicalName name = key) (a : V4) :
    ((ofNodes before key nodes).registerAddress name (.v4 a)).1 =
      ofNodes before key (if a ∈ nodes then nodes else nodes ++ [a]) := by
  rw [registerAddress, under]
  simp only [Table.add, values_ofNodes, List.contains_iff_mem]
  split
  next known => simp [ofNodes]
  next new =>
    cases nodes with
    | nil => simp [ofNodes, Table.has]
    | cons b rest => simp [ofNodes, Table.has, Nat.add_assoc]

end NameStore

namespace Dispatch

variable {σ ε : Type}

instance (request : Request) : Decidable request.Boots :=
  decidable_of_iff (request.kind = "http" ∧ (request.path = some "/ipxe" ∨ request.path = some "ipxe"))
    ⟨fun both => ⟨both.1, both.2⟩, fun boots => ⟨boots.http, boots.path⟩⟩

/-- The address that the query announces for a machine that takes part in the control plane. -/
def Request.announced? (request : Request) : Option V4 :=
  match Selection.ofQuery (request.query.getD []) with
  | .error _ => none
  | .ok selection =>
    if selection.role = .init ∨ selection.role = .controlplane then V4.parse? selection.ip else none

/-- The announced address counts where the application answers a boot request with status 200. -/
def Run.announced? (run : Run ε) (request : Request) : Option V4 :=
  if request.Boots ∧ run.failure.isNone ∧ run.status = 200 then request.announced? else none

/-- The addresses that requests announce one after another. -/
def announcements (app : App σ ε) : σ → List Request → List V4
  | _, [] => []
  | state, request :: rest =>
    let (run, after) := app state request
    (run.announced? request).toList ++ announcements app after rest

def serve (config : Config) (menu : Option String) (app : App σ ε) :
    σ → NameStore → List Request → NameStore
  | _, names, [] => names
  | state, names, request :: rest =>
    let (result, after) := handle config menu app state names request
    serve config menu app after result.names rest

theorem elects_iff (role : Role) : role.elects = true ↔ role = .init ∨ role = .controlplane := by
  cases role <;> decide

theorem announced?_eq_some {request : Request} {a : V4} :
    request.announced? = some a ↔ request.Announces a := by
  unfold Request.announced?
  split
  next fault unread => simp [Request.Announces, unread]
  next selection read =>
    rw [announces_of_read read, elects_iff, ← Selection.address]
    split
    next elects => simp [elects]
    next unelected => simp [unelected]

theorem Run.announced?_eq_some {run : Run ε} {request : Request} {a : V4} :
    run.announced? request = some a ↔ Registers run request a := by
  rw [registers_iff, ← Dispatch.announced?_eq_some, Run.announced?]
  split
  next answered =>
    obtain ⟨boots, completed, found⟩ := answered
    simp [boots, Option.isNone_iff_eq_none.mp completed, found]
  next other =>
    constructor
    · intro none
      cases none
    · rintro ⟨boots, completed, found, -⟩
      exact absurd ⟨boots, Option.isNone_iff_eq_none.mpr completed, found⟩ other

theorem names_handle (config : Config) (menu : Option String) (app : App σ ε) (state : σ)
    (before : Nat) {key : String} (under : canonicalName config.controlplane = key)
    (earlier : List V4) (request : Request) :
    (handle config menu app state (.ofNodes before key earlier.eraseDups) request).1.names =
      .ofNodes before key
        (earlier ++ ((app state request).1.announced? request).toList).eraseDups := by
  cases announced : (app state request).1.announced? request with
  | some a =>
    have registers := Run.announced?_eq_some.mp announced
    have handled := handle_of_registers config menu (.ofNodes before key earlier.eraseDups) registers
    rw [handled, Option.toList_some, eraseDups_concat]
    dsimp only
    rw [NameStore.registerAddress_ofNodes under]
    simp only [List.mem_eraseDups, apply_ite (NameStore.ofNodes before key)]
  | none =>
    -- The names change with a registration only, and that would have been announced.
    obtain same | ⟨a, registers, -⟩ :=
      handle_names config menu app state (.ofNodes before key earlier.eraseDups) request
    · simpa using same
    · rw [Run.announced?_eq_some.mpr registers] at announced
      cases announced

theorem serve_ofNodes (config : Config) (menu : Option String) (app : App σ ε) (before : Nat)
    {key : String} (under : canonicalName config.controlplane = key) (state : σ) (earlier : List V4)
    (requests : List Request) :
    serve config menu app state (.ofNodes before key earlier.eraseDups) requests =
      .ofNodes before key (earlier ++ announcements app state requests).eraseDups := by
  induction requests generalizing state earlier with
  | nil => simp [serve, announcements]
  | cons request rest ih =>
    have step := names_handle config menu app state before under earlier request
    have ran := handle_state config menu app state (.ofNodes before key earlier.eraseDups) request
    rw [serve, announcements]
    simp only [step, ran, ih, List.append_assoc]

end Dispatch

end Netboot
