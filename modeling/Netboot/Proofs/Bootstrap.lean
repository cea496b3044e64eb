import Netboot.Bootstrap

/-! What the bootstrap can settle on, whatever its acts on the machine lead to. -/

set_option autoImplicit false

namespace Netboot.Bootstrap

namespace Plan

variable {α β : Type} {P : α → Prop} {Q : β → Prop}

/-- Every value that the plan can end with has the property. -/
inductive Ends (P : α → Prop) : Plan α → Prop
  | done {value : α} : P value → Ends P (.done value)
  | fail {fault : Fault} : Ends P (.fail fault)
  | run {command : Interface.Command} {next : Interface.Outcome → Plan α} :
      (∀ outcome, Ends P (next outcome)) → Ends P (.run command next)
  | negotiate {interface : String} {timeout : Float} {next : Negotiation → Plan α} :
      (∀ outcome, Ends P (next outcome)) → Ends P (.negotiate interface timeout next)

theorem ends_any (plan : Plan α) : plan.Ends fun _ => True := by
  induction plan with
  | done value => exact .done trivial
  | fail fault => exact .fail
  | run command next ih => exact .run ih
  | negotiate interface timeout next ih => exact .negotiate ih

theorem ends_ofExcept {result : Except Fault α} (ends : ∀ value, result = .ok value → P value) :
    (ofExcept result).Ends P := by
  cases result with
  | ok value => exact .done (ends value rfl)
  | error fault => exact .fail

theorem Ends.bind {plan : Plan α} {rest : α → Plan β} (ends : plan.Ends P)
    (goesOn : ∀ value, P value → (rest value).Ends Q) : (plan >>= rest).Ends Q := by
  induction ends with
  | done holds => exact goesOn _ holds
  | fail => exact .fail
  | run _ ih => exact .run ih
  | negotiate _ ih => exact .negotiate ih

theorem Ends.follow {plan : Plan α} (ends : plan.Ends P) {outcomes : List Interface.Outcome}
    {negotiation : Negotiation} {trace last : Trace} {value : α}
    (followed : plan.follow outcomes negotiation trace = (last, .ok value)) : P value := by
  induction ends generalizing outcomes trace with
  | done holds =>
    cases followed
    exact holds
  | fail => cases followed
  | run _ ih => exact ih _ followed
  | negotiate _ ih => exact ih _ followed

end Plan

/-- An authority leases the range that is planned for its network, less its own address. -/
def Planned (mode : Mode) (ip : V4) : Prop :=
  ∀ network pool, mode = .authoritative network pool →
    ∃ range, Range.plan network ip = .ok range ∧ pool = Pool.ofReserved range [ip]

theorem planned_ofNetwork {network : Prefix} {ip : V4} {mode : Mode}
    (made : Mode.ofNetwork network ip = .ok mode) : Planned mode ip := by
  unfold Mode.ofNetwork at made
  cases plan : Range.plan network ip with
  | error fault =>
    rw [plan] at made
    cases made
  | ok range =>
    rw [plan] at made
    cases made
    rintro network pool ⟨⟩
    exact ⟨range, plan, rfl⟩

theorem proxy_ends (settings : Settings) (lease : Dhcp.ObtainedLease) :
    (proxy settings lease).Ends fun base => Planned base.mode base.ip := by
  unfold proxy
  refine (Plan.ends_any _).bind fun cidr _ => ?_
  refine (Plan.ends_any _).bind fun _ _ => ?_
  refine (Plan.ends_any _).bind fun _ _ => ?_
  refine .done ?_
  rintro network pool ⟨⟩

theorem authoritative_ends (settings : Settings) :
    (authoritative settings).Ends fun base => Planned base.mode base.ip := by
  unfold authoritative
  refine (Plan.ends_any _).bind fun cidr _ => ?_
  have modes : (Plan.ofExcept ((Mode.ofNetwork cidr.network cidr.address).mapError
      .range)).Ends (Planned · cidr.address) := by
    refine Plan.ends_ofExcept fun mode made => ?_
    cases result : Mode.ofNetwork cidr.network cidr.address with
    | error fault =>
      rw [result] at made
      cases made
    | ok mode =>
      rw [result] at made
      cases made
      exact planned_ofNetwork result
  refine modes.bind fun mode planned => ?_
  refine (Plan.ends_any _).bind fun _ _ => ?_
  exact .done planned

theorem host_ok {settings : Settings} {base : Base} {made : Host}
    (ok : host settings base = .ok made) :
    made.ip = base.ip ∧ made.mode = base.mode ∧ made.leaseTime = settings.leaseTime := by
  unfold host at ok
  cases chosen : gateway settings base.gateway with
  | error fault =>
    rw [chosen] at ok
    cases ok
  | ok address =>
    rw [chosen] at ok
    cases ok
    exact ⟨rfl, rfl, rfl⟩

theorem select_ends (settings : Settings) (links : List Interface.Link) :
    (select settings links).Ends fun host =>
      Planned host.mode host.ip ∧ host.leaseTime = settings.leaseTime := by
  unfold select
  refine (Plan.ends_any _).bind fun _ _ => ?_
  refine (Plan.ends_any _).bind fun _ _ => ?_
  refine (Plan.ends_any _).bind fun lease _ => ?_
  have settles : ∀ base, Planned base.mode base.ip → (Plan.ofExcept (host settings base)).Ends
      fun host => Planned host.mode host.ip ∧ host.leaseTime = settings.leaseTime := by
    refine fun base planned => Plan.ends_ofExcept fun made ok => ?_
    obtain ⟨ip, mode, leaseTime⟩ := host_ok ok
    rw [ip, mode]
    exact ⟨planned, leaseTime⟩
  cases lease with
  | some lease => exact (proxy_ends settings lease).bind settles
  | none => exact (authoritative_ends settings).bind settles

end Netboot.Bootstrap
