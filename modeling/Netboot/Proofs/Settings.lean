import Netboot.Proofs.Result
import Netboot.Settings

/-! What settings are read from variables. -/

set_option autoImplicit false

namespace Netboot

theorem Forwarder.isEmpty_of_normalize {text forwarder : String}
    (normalized : Forwarder.normalize text = .ok forwarder) : forwarder.isEmpty = false := by
  unfold Forwarder.normalize at normalized
  dsimp only at normalized
  obtain ⟨_, -, normalized⟩ := ok_of_bind normalized
  split at normalized
  · cases normalized
  obtain ⟨_, -, normalized⟩ := ok_of_bind normalized
  split at normalized
  · rw [← Except.ok.inj normalized]
    simp
  · cases normalized

namespace Settings

variable {vars : Variables} {settings : Settings}

theorem staticCidr_of_ofVariables (read : ofVariables vars = .ok settings) :
    settings.staticCidr = textOr vars "STATIC_CIDR" "192.168.123.1/24" ∧
      ∃ cidr, Cidr.parse settings.staticCidr = .ok cidr := by
  obtain ⟨cidr, parsed, read⟩ := ok_of_bind read
  iterate 12 obtain ⟨_, -, read⟩ := ok_of_bind read
  rw [← Except.ok.inj read]
  exact ⟨rfl, cidr, ok_of_mapError parsed⟩

theorem checked_of_ofVariables (read : ofVariables vars = .ok settings) :
    checkedGateway vars = .ok settings.gateway ∧
      checkedForwarder vars = .ok settings.forwarder := by
  obtain ⟨_, -, read⟩ := ok_of_bind read
  obtain ⟨gateway, checkedGateway, read⟩ := ok_of_bind read
  obtain ⟨forwarder, checkedForwarder, read⟩ := ok_of_bind read
  iterate 10 obtain ⟨_, -, read⟩ := ok_of_bind read
  rw [← Except.ok.inj read]
  exact ⟨checkedGateway, checkedForwarder⟩

theorem controlplane_of_ofVariables (read : ofVariables vars = .ok settings) :
    settings.controlplane = absoluteName (textOr vars "CONTROLPLANE" "controlplane.talos.") := by
  -- Whatever else may be refused, it decides nothing about the name.
  iterate 13 obtain ⟨_, -, read⟩ := ok_of_bind read
  rw [← Except.ok.inj read]

theorem absoluteName_controlplane :
    absoluteName "controlplane.talos." = "controlplane.talos." := by
  decide

theorem isEmpty_of_nonEmpty? {name text : String} (given : nonEmpty? vars name = some text) :
    text.isEmpty = false := by
  simpa using (Option.filter_eq_some_iff.mp given).2

theorem integerOr_of_unset {name : String} (fallback : Int) (unset : vars.lookup name = none) :
    integerOr vars name fallback = .ok fallback := by
  rw [integerOr, unset]

/-- The variables that are read as numbers and the like, the lease time aside. -/
def plainDefaults : List String := [
  "DHCP_CLIENT_TIMEOUT", "DNS_TTL", "DNS_PORT", "DHCP_PORT", "TFTP_PORT", "HTTP_PORT", "PXE_PORT",
  "METRICS_ENABLED", "METRICS_PORT"]

theorem ofVariables_of_unset {cidr : Cidr} {gateway forwarder : Option String} {leaseTime : Int}
    (parsed : Cidr.parse (textOr vars "STATIC_CIDR" "192.168.123.1/24") = .ok cidr)
    (routed : checkedGateway vars = .ok gateway) (forwarded : checkedForwarder vars = .ok forwarder)
    (term : integerOr vars "DHCP_LEASE_TIME" 3600 = .ok leaseTime)
    (unset : ∀ name ∈ plainDefaults, vars.lookup name = none) :
    ofVariables vars = .ok {
      serverRoot := textOr vars "SERVER_ROOT" "."
      interface := textOr vars "INTERFACE" "eth0"
      staticCidr := textOr vars "STATIC_CIDR" "192.168.123.1/24"
      controlplane := absoluteName (textOr vars "CONTROLPLANE" "controlplane.talos.")
      gateway, forwarder, leaseTime
      tftpRoot := some (textOr vars "TFTP_ROOT" (joinPath (textOr vars "SERVER_ROOT" ".") "tftp"))
      logLevel := textOr vars "LOG_LEVEL" "INFO" } := by
  simp only [plainDefaults, List.forall_mem_cons] at unset
  obtain ⟨timeout, ttl, dns, dhcp, tftp, http, pxe, enabled, metrics, -⟩ := unset
  simp only [ofVariables, parsed, routed, forwarded, term, numberOr, timeout,
    integerOr_of_unset _ ttl, integerOr_of_unset _ dns, integerOr_of_unset _ dhcp,
    integerOr_of_unset _ tftp, integerOr_of_unset _ http, integerOr_of_unset _ pxe, truthOr, enabled,
    integerOr_of_unset _ metrics]
  rfl

end Settings

end Netboot
