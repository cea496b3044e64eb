import Netboot.Proofs.Address.Pool
import Netboot.Proofs.Address.Text
import Netboot.Proofs.Bootstrap
import Netboot.Proofs.Bootstrap.Commands
import Netboot.Proofs.Interface
import Netboot.Proofs.Settings

/-! What the bootstrap makes of this machine, and the commands that it gives on the way. -/

set_option autoImplicit false

namespace Netboot

theorem Cidr.network_contains (cidr : Cidr) : cidr.network.contains cidr.address = true := by
  have count : 0 < hostCount cidr.length := Nat.two_pow_pos _
  have split := Nat.div_add_mod cidr.address.toNat (hostCount cidr.length)
  have small := Nat.mod_lt cidr.address.toNat count
  have base : cidr.network.base.toNat =
      cidr.address.toNat - cidr.address.toNat % hostCount cidr.length := rfl
  have size : cidr.network.size = hostCount cidr.length := rfl
  have lower : cidr.network.base ≤ cidr.address := Nat.sub_le _ _
  have upper : cidr.network.base.toNat + (cidr.network.size - 1) ≥ cidr.address.toNat := by
    rw [base, size]
    omega
  exact Bool.and_eq_true_iff.mpr ⟨decide_eq_true lower, decide_eq_true upper⟩

theorem Dhcp.ObtainedLease.address_of_cidr {lease : Dhcp.ObtainedLease} {cidr : Cidr}
    (made : lease.cidr = .ok cidr) : cidr.address = lease.address := by
  unfold Dhcp.ObtainedLease.cidr Cidr.ofParts at made
  obtain ⟨a, parsed, made⟩ := ok_of_bind made
  have same : a = lease.address := by
    have read := V4.parse?_eq_some_iff.mp (V4.parse?_text lease.address)
    exact Except.ok.inj ((ok_of_mapError parsed).symm.trans read)
  split at made
  · split at made
    · exact Except.ok.inj made ▸ same
    · cases made
  · cases made

namespace Bootstrap

open Interface (Command Outcome Link)

variable {settings : Settings} {leased : Option Dhcp.ObtainedLease} {cidr : Cidr} {fault : Fault}

def Negotiation.lease? : Negotiation → Option Dhcp.ObtainedLease
  | .settled leased => leased
  | .unusable | .broken _ => none

/-- The address that this machine is given: the leased one, or the static one when its network can
be planned. -/
def address (settings : Settings) : Option Dhcp.ObtainedLease → Except Fault Cidr
  | some lease => lease.cidr.mapError .cidr
  | none => do
    let cidr ← (Cidr.parse settings.staticCidr).mapError .cidr
    let _ ← (Range.plan cidr.network cidr.address).mapError .range
    return cidr

def leasedRouters (leased : Option Dhcp.ObtainedLease) : List V4 := leased.elim [] (·.routers)

def assignment (settings : Settings) (leased : Option Dhcp.ObtainedLease) (cidr : Cidr) :
    List Command :=
  .address settings.interface cidr ::
    (leasedRouters leased).map (Command.gateway settings.interface)

def settle (settings : Settings) : Option Dhcp.ObtainedLease → Plan Base
  | some lease => proxy settings lease
  | none => authoritative settings

def leasedForwarders (leased : Option Dhcp.ObtainedLease) : List String :=
  (leased.elim [] (·.nameServers)).map fun server => s!"{server}:53"

/-- The address and the mode that come of a lease, or of the static address where there is none. -/
structure Placed (staticCidr : String) (leased : Option Dhcp.ObtainedLease) (ip : V4)
    (mode : Mode) : Prop where
  proxies : mode.isProxy = leased.isSome
  lease : ∀ lease, leased = some lease →
    ip = lease.address ∧ ∃ cidr, lease.cidr = .ok cidr ∧ mode.network = cidr.network
  static : leased = none →
    ∃ cidr, Cidr.parse staticCidr = .ok cidr ∧ ip = cidr.address ∧ mode.network = cidr.network
  inNetwork : mode.network.contains ip = true
  pool : ∀ network pool, mode = .authoritative network pool →
    Range.plan network ip = .ok pool.range ∧
      ∀ a, pool.isAllocated a = true ↔ a = ip ∧ pool.range.contains a = true

structure Fits (settings : Settings) (leased : Option Dhcp.ObtainedLease) (base : Base) : Prop where
  placed : Placed settings.staticCidr leased base.ip base.mode
  gateway : base.gateway = (leasedRouters leased).head?.getD base.ip
  forwarders : base.forwarders = leasedForwarders leased

/-- The one address of a planned pool that is taken from the start is the host's own. -/
theorem Planned.pool {mode : Mode} {ip : V4} {network : Prefix} {pool : Pool}
    (planned : Planned mode ip) (same : mode = .authoritative network pool) :
    Range.plan network ip = .ok pool.range ∧
      ∀ a, pool.isAllocated a = true ↔ a = ip ∧ pool.range.contains a = true := by
  obtain ⟨range, plan, rfl⟩ := planned network pool same
  refine ⟨by rw [plan, Pool.range_ofReserved], fun a => ?_⟩
  rw [← Pool.mem_taken_iff_isAllocated, Pool.taken_ofReserved, Pool.range_ofReserved,
    Finset.mem_inter, Range.mem_addresses, List.mem_toFinset, List.mem_singleton]

theorem setGateways_eq (interface : String) (routers : List V4) :
    setGateways interface routers = Plan.commands (routers.map (Command.gateway interface)) := by
  induction routers with
  | nil => rfl
  | cons router rest ih => rw [setGateways, ih]; rfl

theorem proxy_eq (settings : Settings) (lease : Dhcp.ObtainedLease) :
    proxy settings lease = do
      let cidr ← Plan.ofExcept (address settings (some lease))
      Plan.commands (assignment settings (some lease) cidr)
      return {
        ip := lease.address
        gateway := lease.routers.head?.getD lease.address
        forwarders := lease.nameServers.map fun server => s!"{server}:53"
        mode := .proxy cidr.network } := by
  unfold proxy
  refine congrArg (bind _) (funext fun cidr => ?_)
  rw [assignment, Plan.commands, Plan.bind_assoc, setGateways_eq]
  rfl

theorem authoritative_eq (settings : Settings) :
    authoritative settings = do
      let cidr ← Plan.ofExcept ((Cidr.parse settings.staticCidr).mapError .cidr)
      let mode ← Plan.ofExcept ((Mode.ofNetwork cidr.network cidr.address).mapError .range)
      Plan.commands (assignment settings none cidr)
      return { ip := cidr.address, gateway := cidr.address, forwarders := [], mode := mode } := by
  unfold authoritative
  refine congrArg (bind _) (funext fun cidr => congrArg (bind _) (funext fun mode => ?_))
  rw [assignment, Plan.commands, Plan.bind_assoc]
  rfl

theorem settle_of_error (failed : address settings leased = .error fault) :
    settle settings leased = .fail fault := by
  cases leased with
  | some lease =>
    rw [settle, proxy_eq, failed]
    rfl
  | none =>
    rw [settle, authoritative_eq]
    unfold address at failed
    cases parsed : Cidr.parse settings.staticCidr with
    | error cause =>
      rw [parsed] at failed
      obtain rfl := Except.error.inj failed
      rfl
    | ok cidr =>
      cases plan : Range.plan cidr.network cidr.address with
      | error cause =>
        simp only [parsed, plan, Except.mapError, bind, Except.bind] at failed
        obtain rfl := Except.error.inj failed
        have mode : Mode.ofNetwork cidr.network cidr.address = .error cause := by
          rw [Mode.ofNetwork, plan]
          rfl
        change (Plan.ofExcept ((Mode.ofNetwork cidr.network cidr.address).mapError _)).bind _ = _
        rw [mode]
        rfl
      | ok range =>
        simp only [parsed, plan, Except.mapError, bind, Except.bind] at failed
        cases failed

theorem settle_of_address (given : address settings leased = .ok cidr) :
    ∃ base, Fits settings leased base ∧
      settle settings leased =
        Plan.commands (assignment settings leased cidr) >>= fun _ => .done base := by
  cases leased with
  | some lease =>
    have wrapped : lease.cidr.mapError Fault.cidr = .ok cidr := given
    have made := ok_of_mapError wrapped
    refine ⟨⟨lease.address, lease.routers.head?.getD lease.address,
      lease.nameServers.map fun server => s!"{server}:53", .proxy cidr.network⟩, ?fits, ?same⟩
    case same =>
      rw [settle, proxy_eq, given]
      rfl
    case fits => exact {
      placed := {
        proxies := rfl
        lease := fun _ same => Option.some.inj same ▸ ⟨rfl, cidr, made, rfl⟩
        static := nofun
        inNetwork := Dhcp.ObtainedLease.address_of_cidr made ▸ Cidr.network_contains cidr
        pool := nofun }
      gateway := rfl
      forwarders := rfl }
  | none =>
    obtain ⟨cidr', parsed, given⟩ := ok_of_bind given
    obtain ⟨range, planned, given⟩ := ok_of_bind given
    -- The range that was planned for the address is the one that the pool is made of.
    obtain rfl := Except.ok.inj given
    have mode : Mode.ofNetwork cidr'.network cidr'.address =
        .ok (.authoritative cidr'.network (Pool.ofReserved range [cidr'.address])) := by
      rw [Mode.ofNetwork, ok_of_mapError planned]
      rfl
    refine ⟨⟨cidr'.address, cidr'.address, [], .authoritative cidr'.network
      (Pool.ofReserved range [cidr'.address])⟩, ?fits, ?same⟩
    case same =>
      rw [settle, authoritative_eq, parsed]
      change (Plan.ofExcept ((Mode.ofNetwork cidr'.network cidr'.address).mapError _)).bind _ = _
      rw [mode]
      rfl
    case fits => exact {
      placed := {
        proxies := rfl
        lease := nofun
        static := fun _ => ⟨cidr', ok_of_mapError parsed, rfl, rfl⟩
        inNetwork := Cidr.network_contains cidr'
        pool := fun _ _ same => (planned_ofNetwork mode).pool same }
      gateway := rfl
      forwarders := rfl }

/-! ## The host -/

/-- The host that the variables and the lease decide on. -/
structure Decided (vars : Settings.Variables) (leased : Option Dhcp.ObtainedLease)
    (host : Host) : Prop where
  placed : Placed (Settings.textOr vars "STATIC_CIDR" "192.168.123.1/24") leased host.ip host.mode
  gateway : match Settings.nonEmpty? vars "GATEWAY" with
    | some text => V4.parse text = .ok host.gateway
    | none => host.gateway = (leasedRouters leased).head?.getD host.ip
  forwarders : match Settings.nonEmpty? vars "DNS" with
    | some text => ∃ forwarder, Forwarder.normalize text = .ok forwarder ∧
        host.forwarders = [forwarder]
    | none => host.forwarders =
        if leasedForwarders leased = [] then [defaultForwarder] else leasedForwarders leased
  forwarders_ne_nil : host.forwarders ≠ []

variable {vars : Settings.Variables} {base : Base}

theorem nonEmpty?_of_filled {text : String} (filled : text.isEmpty = false) :
    nonEmpty? (some text) = some text := by
  rw [nonEmpty?, Option.filter_some, filled]
  rfl

theorem gateway_of_checked (checked : Settings.checkedGateway vars = .ok settings.gateway)
    (other : V4) : ∃ chosen, gateway settings other = .ok chosen ∧
      match Settings.nonEmpty? vars "GATEWAY" with
      | some text => V4.parse text = .ok chosen
      | none => chosen = other := by
  unfold Settings.checkedGateway at checked
  cases given : Settings.nonEmpty? vars "GATEWAY" with
  | none =>
    rw [given] at checked
    refine ⟨other, ?_, rfl⟩
    rw [gateway, ← Except.ok.inj checked]
    rfl
  | some text =>
    simp only [given] at checked
    split at checked
    next valid =>
      cases parsed : V4.parse text with
      | error fault =>
        rw [V4.parse?, parsed] at valid
        cases valid
      | ok chosen =>
        refine ⟨chosen, ?_, parsed⟩
        rw [gateway, ← Except.ok.inj checked,
          nonEmpty?_of_filled (Settings.isEmpty_of_nonEmpty? given)]
        simp only [parsed, Except.mapError]
    next => cases checked

theorem forwarder_of_checked (checked : Settings.checkedForwarder vars = .ok settings.forwarder) :
    match Settings.nonEmpty? vars "DNS" with
    | some text => ∃ forwarder, Forwarder.normalize text = .ok forwarder ∧
        nonEmpty? settings.forwarder = some forwarder
    | none => nonEmpty? settings.forwarder = none := by
  unfold Settings.checkedForwarder at checked
  cases given : Settings.nonEmpty? vars "DNS" with
  | none =>
    rw [given] at checked
    rw [← Except.ok.inj checked]
    rfl
  | some text =>
    simp only [given] at checked
    cases normalized : Forwarder.normalize text with
    | error fault =>
      simp only [normalized] at checked
      cases checked
    | ok forwarder =>
      simp only [normalized] at checked
      refine ⟨forwarder, normalized, ?_⟩
      rw [← Except.ok.inj checked]
      exact nonEmpty?_of_filled (Forwarder.isEmpty_of_normalize normalized)

theorem host_decided (read : Settings.ofVariables vars = .ok settings)
    (fits : Fits settings leased base) :
    ∃ made, host settings base = .ok made ∧ Decided vars leased made := by
  obtain ⟨checkedGateway, checkedForwarder⟩ := Settings.checked_of_ofVariables read
  obtain ⟨chosen, gateway, overrides⟩ := gateway_of_checked checkedGateway base.gateway
  have forwards := forwarder_of_checked checkedForwarder
  refine ⟨_, by rw [host, gateway]; rfl, ?_⟩
  have placed := (Settings.staticCidr_of_ofVariables read).1 ▸ fits.placed
  refine ⟨placed, ?gateway, ?forwarders, ?filled⟩
  case gateway =>
    cases given : Settings.nonEmpty? vars "GATEWAY" with
    | some text => simpa only [given] using overrides
    | none =>
      simp only [given] at overrides
      exact overrides.trans fits.gateway
  case forwarders =>
    cases given : Settings.nonEmpty? vars "DNS" with
    | some text =>
      simp only [given] at forwards
      obtain ⟨forwarder, normalized, set⟩ := forwards
      refine ⟨forwarder, normalized, ?_⟩
      simp only [set, List.isEmpty_cons, Bool.false_eq_true, if_false]
    | none =>
      simp only [given] at forwards
      simp only [forwards, fits.forwarders, List.isEmpty_iff]
  case filled =>
    split_ifs with empty
    · exact List.cons_ne_nil _ _
    · exact fun same => empty (List.isEmpty_iff.mpr same)

/-! ## The commands -/

open Plan (outcomeAt line FirstRefused)

variable {outcomes : List Outcome} {negotiation : Negotiation} {trace : Trace}
  {links : List Link} {names : List String}

/-- All the commands, where each of them is carried out. Without an address there is only the
first. -/
def intended (settings : Settings) (leased : Option Dhcp.ObtainedLease) : List Command :=
  .up settings.interface :: match address settings leased with
    | .ok cidr => assignment settings leased cidr
    | .error _ => []

theorem follow_lease {α : Type} {interface : String} {timeout : Float}
    {rest : Option Dhcp.ObtainedLease → Plan α}
    (whole : ∀ reason, negotiation ≠ .broken reason) :
    (Plan.lease interface timeout >>= rest).follow outcomes negotiation trace =
      (rest negotiation.lease?).follow outcomes negotiation
        { trace with asked := trace.asked ++ [(interface, timeout)] } := by
  cases negotiation with
  | settled | unusable => rfl
  | broken reason => exact absurd rfl (whole reason)

theorem select_of_usable (usable : Interface.usable links = .ok names) :
    select settings links = (do
      Plan.commands [.up settings.interface]
      let leased ← Plan.lease settings.interface settings.clientTimeout
      let base ← settle settings leased
      Plan.ofExcept (host settings base)) := by
  unfold select
  rw [usable, Plan.commands, Plan.bind_assoc]
  refine congrArg (bind (Plan.command _)) (funext fun _ =>
    congrArg (bind (Plan.lease _ _)) (funext fun leased => ?_))
  cases leased <;> rfl

theorem follow_select_of_unusable {fault : Interface.Fault}
    (unusable : Interface.usable links = .error fault) :
    (select settings links).follow outcomes negotiation trace =
      (trace, .error (.interface fault)) := by
  unfold select
  rw [unusable]
  rfl

theorem address_of_unplanned {fault : Range.Fault}
    (parsed : Cidr.parse settings.staticCidr = .ok cidr)
    (unplanned : Range.plan cidr.network cidr.address = .error fault) :
    address settings none = .error (.range fault) := by
  simp only [address, parsed, unplanned, Except.mapError, bind, Except.bind]

theorem up_length_le (settings : Settings) (leased : Option Dhcp.ObtainedLease) :
    [Command.up settings.interface].length ≤ (intended settings leased).length :=
  Nat.succ_le_succ (Nat.zero_le _)

section Run

variable (usable : Interface.usable links = .ok names)
  (whole : ∀ reason, negotiation ≠ .broken reason)

include usable whole

theorem follow_select_of_up (up : (outcomeAt outcomes 0).Accepted) :
    (select settings links).follow outcomes negotiation {} =
      (settle settings negotiation.lease? >>= fun base => Plan.ofExcept (host settings base)).follow
        outcomes.tail negotiation
        ⟨[line (.up settings.interface)], [(settings.interface, settings.clientTimeout)]⟩ := by
  have first : ∀ i < [Command.up settings.interface].length, (outcomeAt outcomes i).Accepted :=
    fun i inside => Nat.lt_one_iff.mp inside ▸ up
  rw [select_of_usable usable, Plan.follow_commands first, follow_lease whole,
    List.length_singleton, List.drop_one]
  rfl

theorem follow_select_of_accepted (read : Settings.ofVariables vars = .ok settings)
    (accepted : ∀ i < (intended settings negotiation.lease?).length,
      (outcomeAt outcomes i).Accepted) :
    let run := (select settings links).follow outcomes negotiation {}
    run.1.commands = (intended settings negotiation.lease?).map line ∧
      match address settings negotiation.lease? with
      | .ok _ => ∃ host, run.2 = .ok host ∧ Decided vars negotiation.lease? host
      | .error fault => run.2 = .error fault := by
  have up := accepted 0 (up_length_le settings negotiation.lease?)
  rw [follow_select_of_up usable whole up]
  cases given : address settings negotiation.lease? with
  | error fault =>
    rw [settle_of_error given, intended, given]
    exact ⟨rfl, rfl⟩
  | ok cidr =>
    obtain ⟨base, fits, settled⟩ := settle_of_address given
    obtain ⟨host, made, decided⟩ := host_decided read fits
    -- The first outcome is used up, so those of the assignment are counted from the second.
    have later : ∀ i < (assignment settings negotiation.lease? cidr).length,
        (outcomeAt outcomes.tail i).Accepted := by
      intro i inside
      rw [Plan.outcomeAt_tail]
      refine accepted (i + 1) ?_
      rw [intended, given]
      exact Nat.succ_lt_succ inside
    have finished (left : List Outcome) (trace : Trace) :
        (Plan.ofExcept (Bootstrap.host settings base)).follow left negotiation trace =
          (trace, .ok host) := by
      rw [made]
      rfl
    rw [settled, Plan.bind_assoc, Plan.follow_commands later, intended, given]
    dsimp only
    exact ⟨congrArg (·.1.commands) (finished _ _), host, congrArg (·.2) (finished _ _), decided⟩

theorem follow_select_of_refused {i : Nat}
    (inside : i < (intended settings negotiation.lease?).length) (first : FirstRefused outcomes i) :
    let run := (select settings links).follow outcomes negotiation {}
    run.1.commands = ((intended settings negotiation.lease?).take (i + 1)).map line ∧
      ∃ fault, run.2 = .error (.interface fault) := by
  cases i with
  | zero =>
    rw [select_of_usable usable]
    have inside : 0 < [Command.up settings.interface].length := Nat.zero_lt_one
    exact Plan.follow_commands_refused inside first
  | succ i =>
    rw [follow_select_of_up usable whole (first.before 0 (Nat.zero_lt_succ i))]
    cases given : address settings negotiation.lease? with
    | error fault =>
      rw [intended, given] at inside
      exact absurd (Nat.lt_of_succ_lt_succ inside) (Nat.not_lt_zero i)
    | ok cidr =>
      rw [intended, given] at inside
      obtain ⟨base, -, settled⟩ := settle_of_address given
      rw [settled, Plan.bind_assoc, intended, given]
      exact Plan.follow_commands_refused (Nat.lt_of_succ_lt_succ inside) first.tail

theorem follow_select_of_unplanned {fault : Range.Fault} (alone : negotiation.lease? = none)
    (parsed : Cidr.parse settings.staticCidr = .ok cidr)
    (unplanned : Range.plan cidr.network cidr.address = .error fault) :
    let run := (select settings links).follow outcomes negotiation {}
    run.1.commands = [line (.up settings.interface)] ∧
      ((outcomeAt outcomes 0).Accepted → run.2 = .error (.range fault)) := by
  have failed : address settings negotiation.lease? = .error (.range fault) :=
    alone ▸ address_of_unplanned parsed unplanned
  have only : intended settings negotiation.lease? = [.up settings.interface] := by
    rw [intended, failed]
  by_cases up : (outcomeAt outcomes 0).Accepted
  · rw [follow_select_of_up usable whole up, settle_of_error failed]
    exact ⟨rfl, fun _ => rfl⟩
  · have inside : 0 < (intended settings negotiation.lease?).length := up_length_le _ _
    obtain ⟨given, -⟩ := follow_select_of_refused usable whole inside ⟨up, nofun⟩
    rw [only] at given
    exact ⟨given, fun accepted => absurd accepted up⟩

omit usable in
theorem decided_of_follow_select (read : Settings.ofVariables vars = .ok settings) {host : Host}
    (settled : ((select settings links).follow outcomes negotiation {}).2 = .ok host) :
    Decided vars negotiation.lease? host := by
  cases usable : Interface.usable links with
  | error fault =>
    rw [follow_select_of_unusable usable] at settled
    cases settled
  | ok names =>
    rcases Plan.accepted_or_firstRefused outcomes (intended settings negotiation.lease?).length with
      accepted | ⟨i, inside, first⟩
    · have ended := (follow_select_of_accepted usable whole read accepted).2
      cases placed : address settings negotiation.lease? with
      | error fault =>
        simp only [placed] at ended
        cases settled.symm.trans ended
      | ok cidr =>
        simp only [placed] at ended
        obtain ⟨made, same, decided⟩ := ended
        exact Except.ok.inj (same.symm.trans settled) ▸ decided
    · obtain ⟨-, fault, ended⟩ := follow_select_of_refused usable whole inside first
      cases settled.symm.trans ended

end Run

def overridingSettings : Settings where
  serverRoot := "."
  interface := "eth0"
  staticCidr := "192.168.123.1/24"
  gateway := some "10.0.0.254"
  forwarder := some "9.9.9.9:53"
  tftpRoot := some "./tftp"

def routedLease : Dhcp.ObtainedLease where
  address := .ofNat 0x0a000032
  netmask := .ofNat 0xffffff00
  routers := [.ofNat 0x0a000001]
  nameServers := [.ofNat 0x0a000002]

def overrides : Settings.Variables := [("GATEWAY", "10.0.0.254"), ("DNS", "9.9.9.9")]

theorem overridingSettings_read : Settings.ofVariables overrides = .ok overridingSettings := by
  have cidr : Cidr.parse (Settings.textOr overrides "STATIC_CIDR" "192.168.123.1/24") =
      .ok ⟨.ofNat 0xc0a87b01, 24, by decide⟩ := by
    decide
  have gateway : Settings.checkedGateway overrides = .ok (some "10.0.0.254") := by decide
  have forwarder : Settings.checkedForwarder overrides = .ok (some "9.9.9.9:53") := by
    decide
  rw [Settings.ofVariables_of_unset cidr gateway forwarder rfl (by decide), overridingSettings,
    ← Settings.absoluteName_controlplane]
  rfl

def homeLink : Link := ⟨"eth0", [], ["02:00:00:00:00:fe"]⟩

def inPlace : List Outcome := [.success, .exited 2 "File exists".toUTF8.toList, .success]

end Bootstrap

end Netboot
