import Netboot.Proofs.Bootstrap.Decision
import Netboot.Proofs.Dhcp.Client
import Netboot.Run

/-! The faults that the bootstrap can end with, and what becomes of the program.

A fault of its own kinds is said and the program exits. There are two others: an address in the list
of interfaces that is none, and a lease whose mask is none.
-/

set_option autoImplicit false

namespace Netboot.Bootstrap

open Interface (Command Outcome Link)
open Plan (outcomeAt line FirstRefused)

namespace Plan

variable {α β : Type} {negotiation : Negotiation} {allowed : Fault → Prop} {P : α → Prop}
  {Q : β → Prop}

/-- With this outcome of the negotiation, and whatever its commands end with, the plan leads to a
value with the property or to an allowed fault. -/
inductive Leads (negotiation : Negotiation) (allowed : Fault → Prop) (P : α → Prop) : Plan α → Prop
  | done {value : α} : P value → Leads negotiation allowed P (.done value)
  | fail {fault : Fault} : allowed fault → Leads negotiation allowed P (.fail fault)
  | run {command : Command} {next : Outcome → Plan α} :
      (∀ outcome, Leads negotiation allowed P (next outcome)) →
      Leads negotiation allowed P (.run command next)
  | negotiate {interface : String} {timeout : Float} {next : Negotiation → Plan α} :
      Leads negotiation allowed P (next negotiation) →
      Leads negotiation allowed P (.negotiate interface timeout next)

theorem Leads.bind {plan : Plan α} {rest : α → Plan β} (leads : plan.Leads negotiation allowed P)
    (goesOn : ∀ value, P value → (rest value).Leads negotiation allowed Q) :
    (plan >>= rest).Leads negotiation allowed Q := by
  induction leads with
  | done holds => exact goesOn _ holds
  | fail excused => exact .fail excused
  | run _ ih => exact .run ih
  | negotiate _ ih => exact .negotiate ih

theorem Leads.follow {plan : Plan α} (leads : plan.Leads negotiation allowed P)
    {outcomes : List Outcome} {trace : Trace} {fault : Fault}
    (followed : (plan.follow outcomes negotiation trace).2 = .error fault) : allowed fault := by
  induction leads generalizing outcomes trace with
  | done => cases followed
  | fail excused => exact Except.error.inj followed ▸ excused
  | run _ ih => exact ih _ followed
  | negotiate _ ih => exact ih followed

theorem leads_ofExcept {result : Except Fault α} (value : ∀ value, result = .ok value → P value)
    (fault : ∀ fault, result = .error fault → allowed fault) :
    (ofExcept result).Leads negotiation allowed P := by
  cases result with
  | ok found => exact .done (value found rfl)
  | error cause => exact .fail (fault cause rfl)

theorem leads_done {value : α} : (Plan.done value).Leads negotiation allowed fun _ => True :=
  .done trivial

end Plan

variable {vars : Settings.Variables} {settings : Settings} {links : List Link}
  {names : List String} {outcomes : List Outcome} {negotiation : Negotiation} {fault : Fault}

theorem error_of_mapError {ε ε' α : Type} {f : ε → ε'} {result : Except ε α} {fault : ε'}
    (mapped : result.mapError f = .error fault) : ∃ cause, result = .error cause ∧ fault = f cause := by
  cases result with
  | ok value => cases mapped
  | error cause => exact ⟨cause, rfl, (Except.error.inj mapped).symm⟩

/-! ## Faults in good order -/

/-- The fault ends a run in good order, or it is that of the mask of the lease. -/
def Foreseen (negotiation : Negotiation) (fault : Fault) : Prop :=
  (Run.fatalKind? fault).isSome = true ∨
    ∃ lease, negotiation = .settled (some lease) ∧ ¬ lease.netmask.IsMask ∧
      fault = .cidr (.netmask lease.netmask.text)

theorem fatalKind?_of_result {command : Command} {outcome : Outcome} {cause : Interface.Fault}
    (judged : command.result outcome = .error cause) :
    (Run.fatalKind? (.interface cause)).isSome = true := by
  cases outcome with
  | missing =>
    cases judged
    rfl
  | exited code stderr =>
    unfold Command.result at judged
    dsimp only at judged
    split at judged
    · cases judged
    · cases judged
      rfl

theorem command_leads (command : Command) :
    (Plan.command command).Leads negotiation (Foreseen negotiation) fun _ => True := by
  refine .run fun outcome => Plan.leads_ofExcept (fun _ _ => trivial) fun fault failed => ?_
  obtain ⟨cause, judged, rfl⟩ := error_of_mapError failed
  exact .inl (fatalKind?_of_result judged)

theorem setGateways_leads (interface : String) (routers : List V4) :
    (setGateways interface routers).Leads negotiation (Foreseen negotiation) fun _ => True := by
  induction routers with
  | nil => exact Plan.leads_done
  | cons router rest ih => exact (command_leads _).bind fun _ _ => ih

theorem lease_leads (whole : ∀ reason, negotiation ≠ .broken reason) (interface : String)
    (timeout : Float) : (Plan.lease interface timeout).Leads negotiation (Foreseen negotiation)
      fun leased => ∀ lease, leased = some lease → negotiation = .settled (some lease) := by
  refine .negotiate ?_
  cases negotiation with
  | settled leased => exact .done fun lease same => congrArg _ same
  | unusable => exact .done nofun
  | broken reason => exact absurd rfl (whole reason)

theorem proxy_leads {lease : Dhcp.ObtainedLease} (leased : negotiation = .settled (some lease)) :
    (proxy settings lease).Leads negotiation (Foreseen negotiation) fun _ => True := by
  unfold proxy
  refine (Plan.leads_ofExcept (fun _ _ => trivial) fun fault failed => ?_).bind fun cidr _ => ?_
  · obtain ⟨cause, refused, rfl⟩ := error_of_mapError failed
    by_cases masks : lease.netmask.IsMask
    · obtain ⟨cidr, made⟩ := Dhcp.ObtainedLease.cidr_of_isMask masks
      cases refused.symm.trans made
    · cases refused.symm.trans (Dhcp.ObtainedLease.cidr_of_not_isMask masks)
      exact .inr ⟨lease, leased, masks, rfl⟩
  · refine (command_leads _).bind fun _ _ => ?_
    exact (setGateways_leads _ _).bind fun _ _ => Plan.leads_done

theorem authoritative_leads (read : Settings.ofVariables vars = .ok settings) :
    (authoritative settings).Leads negotiation (Foreseen negotiation) fun _ => True := by
  obtain ⟨-, static, parsed⟩ := Settings.staticCidr_of_ofVariables read
  unfold authoritative
  rw [parsed]
  refine (Plan.leads_ofExcept (fun _ _ => trivial) nofun).bind fun cidr _ => ?_
  refine (Plan.leads_ofExcept (fun _ _ => trivial) fun fault failed => ?_).bind fun mode _ => ?_
  · obtain ⟨cause, -, rfl⟩ := error_of_mapError failed
    exact .inl rfl
  · exact (command_leads _).bind fun _ _ => Plan.leads_done

theorem host_leads (read : Settings.ofVariables vars = .ok settings) (base : Base) :
    (Plan.ofExcept (host settings base)).Leads negotiation (Foreseen negotiation)
      fun _ => True := by
  obtain ⟨chosen, given, -⟩ :=
    gateway_of_checked (Settings.checked_of_ofVariables read).1 base.gateway
  rw [host, given]
  exact Plan.leads_done

theorem select_leads (read : Settings.ofVariables vars = .ok settings)
    (whole : ∀ reason, negotiation ≠ .broken reason)
    (usable : Interface.usable links = .ok names) :
    (select settings links).Leads negotiation (Foreseen negotiation) fun _ => True := by
  unfold select
  rw [usable]
  refine (command_leads _).bind fun _ _ => (lease_leads whole _ _).bind fun leased same => ?_
  cases leased with
  | some lease => exact (proxy_leads (same lease rfl)).bind fun base _ => host_leads read base
  | none => exact (authoritative_leads read).bind fun base _ => host_leads read base

/-! ## Faults that escape -/

/-- The faults that the program does not answer for: of an interface that is listed with an address
which is none, and of a lease, once the interface is up, whose mask is none. -/
inductive Escapes (links : List Link) (outcomes : List Outcome) (negotiation : Negotiation) :
    Fault → Prop
  | listing {cause : V4.Fault} : Interface.usable links = .error (.address cause) →
      Escapes links outcomes negotiation (.interface (.address cause))
  | mask {names : List String} {lease : Dhcp.ObtainedLease} :
      Interface.usable links = .ok names → (outcomeAt outcomes 0).Accepted →
      negotiation = .settled (some lease) → ¬ lease.netmask.IsMask →
      Escapes links outcomes negotiation (.cidr (.netmask lease.netmask.text))

theorem Escapes.fatalKind? (escapes : Escapes links outcomes negotiation fault) :
    Run.fatalKind? fault = none := by
  cases escapes <;> rfl

theorem Escapes.follow_select (escapes : Escapes links outcomes negotiation fault) :
    ((select settings links).follow outcomes negotiation {}).2 = .error fault := by
  cases escapes with
  | listing unusable => rw [follow_select_of_unusable unusable]
  | @mask names lease usable up leased strange =>
    subst leased
    have whole : ∀ reason, Negotiation.settled (some lease) ≠ .broken reason := nofun
    rw [follow_select_of_up usable whole up]
    have failed : address settings (some lease) = .error (.cidr (.netmask lease.netmask.text)) :=
      congrArg (·.mapError Fault.cidr) (Dhcp.ObtainedLease.cidr_of_not_isMask strange)
    rw [Negotiation.lease?, settle_of_error failed]
    rfl

theorem escapes_of_follow_select (read : Settings.ofVariables vars = .ok settings)
    (whole : ∀ reason, negotiation ≠ .broken reason)
    (failed : ((select settings links).follow outcomes negotiation {}).2 = .error fault)
    (stray : Run.fatalKind? fault = none) : Escapes links outcomes negotiation fault := by
  cases usable : Interface.usable links with
  | error cause =>
    rw [follow_select_of_unusable usable] at failed
    obtain rfl := Except.error.inj failed
    cases cause with
    | address cause => exact .listing usable
    | noneUsable | commandMissing | commandFailed => cases stray
  | ok names =>
    obtain orderly | ⟨lease, leased, strange, rfl⟩ := (select_leads read whole usable).follow failed
    · rw [stray] at orderly
      cases orderly
    · refine .mask usable ?_ leased strange
      by_contra refused
      obtain ⟨-, cause, ended⟩ := follow_select_of_refused usable whole
        (up_length_le settings negotiation.lease?) ⟨refused, nofun⟩
      cases failed.symm.trans ended

/-! ## The whole program -/

theorem run_of_follow_select (read : Settings.ofVariables vars = .ok settings)
    {serving : Run.Serving} {rank : Nat} (level : Run.threshold settings.logLevel = .ok rank)
    (failed : ((select settings links).follow outcomes negotiation {}).2 = .error fault) :
    match Run.fatalKind? fault with
    | some kind => ∃ report, Run.run ⟨vars, links, negotiation, outcomes, serving⟩ = .ok report ∧
        report.exitCode = 1 ∧ report.log.getLast? = some (Run.fatal kind fault.message)
    | none => Run.run ⟨vars, links, negotiation, outcomes, serving⟩ = .error (.bootstrap fault) := by
  rw [Run.run, read]
  dsimp only
  rw [Run.withSettings, level]
  simp only [Except.mapError, bind, Except.bind, failed]
  cases Run.fatalKind? fault with
  | none => rfl
  | some kind => exact ⟨_, rfl, rfl, List.getLast?_concat⟩

/-- How the search for another server can end: with its exchanges, or without a network to search. -/
inductive Searched (client : Dhcp.Client.Identity) (timeout : Float)
    (meeting : Dhcp.Client.Meeting) : Negotiation → Prop
  | settled {leased : Option Dhcp.ObtainedLease} :
      (Dhcp.Client.negotiate client timeout meeting).2 = .ok leased →
      Searched client timeout meeting (.settled leased)
  | unusable : Searched client timeout meeting .unusable
  | broken {cause : Dhcp.Client.Fault} (reason : String) :
      (Dhcp.Client.negotiate client timeout meeting).2 = .error cause →
      Searched client timeout meeting (.broken reason)

section Search

variable {client : Dhcp.Client.Identity} {timeout : Float} {meeting : Dhcp.Client.Meeting}
  (sayable : client.Sayable) (offered : Dhcp.Client.Readable meeting.offer)
  (answered : Dhcp.Client.Readable meeting.ack)

include sayable offered answered

theorem Searched.whole (searched : Searched client timeout meeting negotiation) (reason : String) :
    negotiation ≠ .broken reason := by
  rintro rfl
  obtain ⟨leased, settles, -⟩ := Dhcp.Client.negotiate_ok sayable timeout offered answered
  cases searched with
  | broken _ breaks => cases breaks.symm.trans settles

theorem Searched.acknowledged (searched : Searched client timeout meeting negotiation)
    {lease : Dhcp.ObtainedLease} (leased : negotiation = .settled (some lease)) :
    ∃ ack, Dhcp.Client.received meeting.ack = .ok (some ack) ∧ ack.options.kind? = some .ack ∧
      lease = .ofAck ack := by
  subst leased
  obtain ⟨found, settles, taken⟩ := Dhcp.Client.negotiate_ok sayable timeout offered answered
  cases searched with
  | settled ends => exact taken lease (Except.ok.inj (settles.symm.trans ends))

end Search

/-- The bootstrap on settings that are read from variables, with any interfaces, any outcomes of its
commands, and whatever messages a server sends. It ends with a fault that the program does not
answer for exactly if an interface is listed with an address that is none, or if the mask of the
acknowledged lease is neither a netmask nor the complement of one. With any other fault the program
says what it was and exits with 1. -/
theorem select_fails_in_order (read : Settings.ofVariables vars = .ok settings)
    (links : List Link) (outcomes : List Outcome) {client : Dhcp.Client.Identity}
    {meeting : Dhcp.Client.Meeting} (sayable : client.Sayable)
    (offered : Dhcp.Client.Readable meeting.offer) (answered : Dhcp.Client.Readable meeting.ack)
    (searched : Searched client settings.clientTimeout meeting negotiation) :
    let run := (select settings links).follow outcomes negotiation {}
    (∀ lease, negotiation = .settled (some lease) → ∃ ack,
      Dhcp.Client.received meeting.ack = .ok (some ack) ∧ ack.options.kind? = some .ack ∧
        lease = .ofAck ack) ∧
    (∀ fault, run.2 = .error fault ∧ Run.fatalKind? fault = none ↔
      Escapes links outcomes negotiation fault) ∧
    ∀ serving rank fault, Run.threshold settings.logLevel = .ok rank → run.2 = .error fault →
      match Run.fatalKind? fault with
      | some kind => ∃ report, Run.run ⟨vars, links, negotiation, outcomes, serving⟩ = .ok report ∧
          report.exitCode = 1 ∧ report.log.getLast? = some (Run.fatal kind fault.message)
      | none =>
        Run.run ⟨vars, links, negotiation, outcomes, serving⟩ = .error (.bootstrap fault) := by
  have whole := searched.whole sayable offered answered
  refine ⟨fun lease => searched.acknowledged sayable offered answered, fun fault => ?_,
    fun serving rank fault => run_of_follow_select read⟩
  exact ⟨fun ⟨failed, stray⟩ => escapes_of_follow_select read whole failed stray,
    fun escapes => ⟨escapes.follow_select, escapes.fatalKind?⟩⟩

def leaseMessage (kind : UInt8) (mask : Bytes) : Bytes :=
  ({ Dhcp.Header.blank with op := Dhcp.replyOp, yiaddr := .ofNat 0x0a000032 } :
    Dhcp.Header).toBytes ++ Dhcp.magic ++ [53, 1, kind, 1, 4] ++ mask ++ [Dhcp.endCode]

def homeMeeting : Dhcp.Client.Meeting where
  started := 0
  answered := 1
  offer := some (leaseMessage 2 [255, 255, 255, 0])
  ack := some (leaseMessage 5 [255, 255, 255, 0])

def homeClient : Dhcp.Client.Identity := ⟨[2, 0, 0, 0, 0, 0xfe], 1, "talospxe"⟩

/-- With a mask that is one, no fault escapes, even if the `ip` command is missing. -/
theorem select_fails_in_order_of_netmask :
    ∃ leased, (Dhcp.Client.negotiate homeClient overridingSettings.clientTimeout homeMeeting).2 =
        .ok leased ∧
      ∀ outcomes ∈ [[], [.missing]], ∀ fault,
        ((select overridingSettings [homeLink]).follow outcomes (.settled leased) {}).2 =
          .error fault → (Run.fatalKind? fault).isSome = true := by
  have read (kind : UInt8) (known : kind = 2 ∨ kind = 5) :
      (Dhcp.Message.ofBytes? (leaseMessage kind [255, 255, 255, 0])).isSome = true := by
    obtain rfl | rfl := known <;> decide +kernel
  have offered : Dhcp.Client.Readable homeMeeting.offer :=
    fun data same => Option.some.inj same ▸ read 2 (.inl rfl)
  have answered : Dhcp.Client.Readable homeMeeting.ack :=
    fun data same => Option.some.inj same ▸ read 5 (.inr rfl)
  have sayable : homeClient.Sayable := by decide
  obtain ⟨leased, settles, -⟩ := Dhcp.Client.negotiate_ok sayable overridingSettings.clientTimeout
    offered answered
  refine ⟨leased, settles, fun outcomes _ fault failed => ?_⟩
  obtain ⟨taken, orderly, -⟩ := select_fails_in_order overridingSettings_read [homeLink] outcomes
    sayable offered answered (.settled settles)
  by_contra stray
  cases (orderly fault).mp ⟨failed, Option.not_isSome_iff_eq_none.mp stray⟩ with
  | listing unusable =>
    have usable : Interface.usable [homeLink] = .ok ["eth0"] := by decide
    cases unusable.symm.trans usable
  | @mask _ lease _ _ same strange =>
    obtain ⟨ack, received, -, rfl⟩ := taken lease same
    have masks : (Dhcp.Message.ofBytes? (leaseMessage 5 [255, 255, 255, 0])).all fun ack =>
        (Dhcp.ObtainedLease.ofAck ack).netmask.IsMask := by
      decide +kernel
    obtain ⟨data, sent, parsed⟩ := Dhcp.Client.read_of_received received
    obtain rfl := Option.some.inj sent
    rw [parsed, Option.all_some, decide_eq_true_eq] at masks
    exact strange masks

/-- A server acknowledges the mask 255.0.255.0. -/
theorem strange_mask_escapes :
    ∃ ack, Dhcp.Message.ofBytes? (leaseMessage 5 [255, 0, 255, 0]) = some ack ∧
      ack.options.kind? = some .ack ∧
      let negotiation := Negotiation.settled (some (.ofAck ack))
      let fault := Fault.cidr (.netmask "255.0.255.0")
      ((select overridingSettings [homeLink]).follow [] negotiation {}).2 = .error fault ∧
        Run.fatalKind? fault = none ∧
        Run.run ⟨overrides, [homeLink], negotiation, [], .returns⟩ = .error (.bootstrap fault) := by
  have read : (Dhcp.Message.ofBytes? (leaseMessage 5 [255, 0, 255, 0])).any fun ack =>
      ack.options.kind? = some .ack ∧
        (Dhcp.ObtainedLease.ofAck ack).netmask = .ofNat 0xff00ff00 := by
    decide +kernel
  obtain ⟨ack, parsed, states⟩ := (Option.any_eq_true _ _).mp read
  obtain ⟨kind, mask⟩ := of_decide_eq_true states
  have usable : Interface.usable [homeLink] = .ok ["eth0"] := by rfl
  have up : (outcomeAt [] 0).Accepted := ⟨0, [], rfl, .inl rfl⟩
  have strange : ¬ (Dhcp.ObtainedLease.ofAck ack).netmask.IsMask := by
    rw [mask]
    decide +kernel
  have text : (Dhcp.ObtainedLease.ofAck ack).netmask.text = "255.0.255.0" := by
    rw [mask]
    rfl
  have escapes : Escapes [homeLink] [] (.settled (some (.ofAck ack)))
      (.cidr (.netmask "255.0.255.0")) := text ▸ .mask usable up rfl strange
  have level : Run.threshold overridingSettings.logLevel = .ok 20 := by rfl
  exact ⟨ack, parsed, kind, escapes.follow_select, rfl,
    run_of_follow_select overridingSettings_read level escapes.follow_select⟩

end Netboot.Bootstrap
