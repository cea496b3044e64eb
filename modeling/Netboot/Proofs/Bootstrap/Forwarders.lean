import Netboot.Proofs.Bootstrap.Decision
import Netboot.Proofs.Dns.Forwarding
import Netboot.Proofs.Forwarder
import Netboot.Run

/-! The endpoints that queries are passed on to, from the settings and the lease to the sockets. -/

set_option autoImplicit false

namespace Netboot

open Forwarder (Endpoint)

theorem Run.build_of_run {around : Surroundings} {fault : BuildFault}
    (failed : run around = .error (.build fault)) :
    ∃ settings host, Settings.ofVariables around.environment = .ok settings ∧
      ((Bootstrap.select settings around.links).follow around.outcomes around.negotiation {}).2 =
        .ok host ∧ Services.build host = .error fault := by
  unfold run at failed
  cases read : Settings.ofVariables around.environment with
  | error fault =>
    rw [read] at failed
    cases failed
  | ok settings =>
    rw [read] at failed
    refine ⟨settings, ?_⟩
    change withSettings settings around = _ at failed
    unfold withSettings at failed
    cases level : threshold settings.logLevel with
    | error fault =>
      rw [level] at failed
      cases failed
    | ok rank =>
      rw [level] at failed
      simp only [Except.mapError, bind, Except.bind] at failed
      split at failed
      next host settled =>
        refine ⟨host, rfl, settled, ?_⟩
        unfold serve at failed
        cases built : Services.build host with
        | error fault =>
          rw [built] at failed
          cases failed
          rfl
        | ok services =>
          rw [built] at failed
          dsimp only [Except.mapError, bind, Except.bind] at failed
          -- Once the services are built a run ends otherwise.
          unfold conclude at failed
          split at failed <;> cases failed
      next =>
        split at failed <;> cases failed

theorem Run.build_of_ofForwarders {host : Host} {responder : Dns.Responder}
    (made : Dns.Responder.ofForwarders host.forwarders host.dnsTtl = .ok responder)
    (fault : Text.IntegerFault) : Services.build host ≠ .error (.forwarder fault) := by
  unfold Services.build
  split
  · exact nofun
  · rw [made]
    exact nofun

namespace Bootstrap

open Interface (Command Outcome Link)

variable {vars : Settings.Variables} {settings : Settings} {leased : Option Dhcp.ObtainedLease}
  {host : Host} {links : List Link} {outcomes : List Outcome} {negotiation : Negotiation}

/-- The endpoint of the settings, or else those of the leased name servers, or else the default. -/
def Configured (vars : Settings.Variables) (leased : Option Dhcp.ObtainedLease)
    (endpoints : List Forwarder) : Prop :=
  match Settings.nonEmpty? vars "DNS" with
  | some text => ∃ a n, Endpoint text a n ∧ endpoints = [⟨a.text, n⟩]
  | none =>
    let servers := leased.elim [] (·.nameServers)
    endpoints = if servers = [] then [⟨"1.1.1.1", 53⟩] else servers.map fun server => ⟨server.text, 53⟩

theorem ofForwarders_of_decided (decided : Decided vars leased host) (ttl : Int) :
    ∃ responder, Dns.Responder.ofForwarders host.forwarders ttl = .ok responder ∧
      Configured vars leased responder.forwarders := by
  have forwards := decided.forwarders
  unfold Configured
  cases given : Settings.nonEmpty? vars "DNS" with
  | some text =>
    rw [given] at forwards
    obtain ⟨forwarder, normalized, only⟩ := forwards
    obtain ⟨a, n, names, split, -⟩ := Forwarder.endpoint_of_normalize normalized
    refine ⟨⟨[⟨a.text, n⟩], ttl⟩, ?_, a, n, (names a n).mpr ⟨rfl, rfl⟩, rfl⟩
    rw [Dns.Responder.ofForwarders, only, List.mapM_cons, split]
    rfl
  | none =>
    rw [given] at forwards
    dsimp only at forwards ⊢
    generalize same : leased.elim [] (·.nameServers) = servers
    have written : leasedForwarders leased = servers.map fun server => s!"{server}:53" := by
      rw [leasedForwarders, same]
    rw [written] at forwards
    by_cases alone : servers = []
    · rw [if_pos (List.map_eq_nil_iff.mpr alone)] at forwards
      refine ⟨⟨[⟨"1.1.1.1", 53⟩], ttl⟩, ?_, (if_pos alone).symm⟩
      have split : [defaultForwarder].mapM Forwarder.split = .ok [⟨"1.1.1.1", 53⟩] := by
        decide
      rw [Dns.Responder.ofForwarders, forwards, split]
      rfl
    · rw [if_neg (alone ∘ List.map_eq_nil_iff.mp)] at forwards
      refine ⟨⟨servers.map fun server => ⟨server.text, 53⟩, ttl⟩, ?_, (if_neg alone).symm⟩
      rw [Dns.Responder.ofForwarders, forwards, Forwarder.mapM_split_written]
      rfl

theorem follow_lease_of_broken {α : Type} {interface reason : String} {timeout : Float}
    {rest : Option Dhcp.ObtainedLease → Plan α} {trace : Trace} :
    ((Plan.lease interface timeout >>= rest).follow outcomes (.broken reason) trace).2 =
      .error (.negotiation reason) :=
  rfl

theorem whole_of_follow_select
    (settled : ((select settings links).follow outcomes negotiation {}).2 = .ok host)
    (reason : String) : negotiation ≠ .broken reason := by
  rintro rfl
  cases usable : Interface.usable links with
  | error fault =>
    rw [follow_select_of_unusable usable] at settled
    cases settled
  | ok names =>
    rw [select_of_usable usable] at settled
    obtain accepted | ⟨i, inside, first⟩ :=
      Plan.accepted_or_firstRefused outcomes [Command.up settings.interface].length
    · rw [Plan.follow_commands accepted, follow_lease_of_broken] at settled
      cases settled
    · obtain ⟨-, fault, ended⟩ := Plan.follow_commands_refused inside first
      cases settled.symm.trans ended

/-- Whatever is accepted as a forwarder is the endpoint that queries go to. A text is written out
exactly where it names one, as what the responder splits into that endpoint and what is written out
as it is; and so is a leased name server. The responder of a settled host is always made, asks the
configured endpoints in their order and nobody else, and never is the reason why a run fails. -/
theorem forwarders_survive :
    (∀ text, match Forwarder.normalize text with
      | .error _ => ∀ a n, ¬ Endpoint text a n
      | .ok written => ∃ a n, (∀ b m, Endpoint text b m ↔ b = a ∧ m = n) ∧
          Forwarder.split written = .ok ⟨a.text, n⟩ ∧ Forwarder.normalize written = .ok written) ∧
    (∀ server : V4, Forwarder.split s!"{server}:53" = .ok ⟨server.text, 53⟩) ∧
    (∀ vars settings links outcomes negotiation host, Settings.ofVariables vars = .ok settings →
      ((select settings links).follow outcomes negotiation {}).2 = .ok host →
      ∃ responder, Dns.Responder.ofForwarders host.forwarders host.dnsTtl = .ok responder ∧
        Configured vars negotiation.lease? responder.forwarders ∧
        ∀ names fates data,
          (responder.resolve names fates data).asked <+: responder.forwarders) ∧
    ∀ around fault, Run.run around ≠ .error (.build (.forwarder fault)) := by
  refine ⟨fun text => ?_, Forwarder.split_written, ?_, fun around fault failed => ?_⟩
  · split
    next refused => exact fun a n => Forwarder.not_endpoint_of_normalize refused
    next ok => exact Forwarder.endpoint_of_normalize ok
  · intro vars settings links outcomes negotiation host read settled
    have decided := decided_of_follow_select (whole_of_follow_select settled) read settled
    obtain ⟨responder, made, configured⟩ := ofForwarders_of_decided decided host.dnsTtl
    exact ⟨responder, made, configured, responder.asked_prefix⟩
  · obtain ⟨settings, host, read, settled, built⟩ := Run.build_of_run failed
    have decided := decided_of_follow_select (whole_of_follow_select settled) read settled
    obtain ⟨responder, made, -⟩ := ofForwarders_of_decided decided host.dnsTtl
    exact Run.build_of_ofForwarders made fault built

/-- Settings that name a forwarder, next to a lease that names a server. -/
theorem forwarders_survive_of_overrides :
    Settings.ofVariables overrides = .ok overridingSettings ∧ ∃ host responder,
      ((select overridingSettings [homeLink]).follow inPlace (.settled (some routedLease)) {}).2 =
        .ok host ∧
      Dns.Responder.ofForwarders host.forwarders host.dnsTtl = .ok responder ∧
      responder.forwarders = [⟨"9.9.9.9", 53⟩] := by
  obtain ⟨-, -, services, -⟩ := forwarders_survive
  have settles : ((select overridingSettings [homeLink]).follow inPlace
      (.settled (some routedLease)) {}).2.toOption.isSome = true := by
    decide +kernel
  cases settled : ((select overridingSettings [homeLink]).follow inPlace
      (.settled (some routedLease)) {}).2 with
  | error fault =>
    rw [settled] at settles
    cases settles
  | ok host =>
    obtain ⟨responder, made, configured, -⟩ := services _ _ _ _ _ host overridingSettings_read settled
    refine ⟨overridingSettings_read, host, responder, rfl, made, ?_⟩
    obtain ⟨a, n, endpoint, only⟩ :
        ∃ a n, Endpoint "9.9.9.9" a n ∧ responder.forwarders = [⟨a.text, n⟩] := configured
    have normal : Forwarder.normalize "9.9.9.9" = .ok "9.9.9.9:53" := by decide
    have parts : Forwarder.split "9.9.9.9:53" = .ok ⟨"9.9.9.9", 53⟩ := by decide
    obtain ⟨b, m, names, split, -⟩ := Forwarder.endpoint_of_normalize normal
    obtain ⟨rfl, rfl⟩ := (names a n).mp endpoint
    rw [only, Except.ok.inj (split.symm.trans parts)]

end Bootstrap

end Netboot
