import Netboot.Lock
import Netboot.Main
import Netboot.Proofs.Address.Calls
import Netboot.Proofs.Address.Plan
import Netboot.Proofs.Bootstrap.Faults
import Netboot.Proofs.Bootstrap.Forwarders
import Netboot.Proofs.Dhcp.BootClients
import Netboot.Proofs.Dhcp.Request
import Netboot.Proofs.Dhcp.Silence
import Netboot.Proofs.Dns.Capacity
import Netboot.Proofs.Dns.Election
import Netboot.Proofs.Dns.Matching
import Netboot.Proofs.Dns.NameKey
import Netboot.Proofs.Dns.RawRecords
import Netboot.Proofs.Dns.Resolution
import Netboot.Proofs.Lease.Reserved
import Netboot.Proofs.Lock.Waiting
import Netboot.Proofs.Names.Calls
import Netboot.Proofs.Script
import Netboot.Proofs.Supervisor.Binding
import Netboot.Proofs.Supervisor.Cancellation
import Netboot.Proofs.Supervisor.Outcomes
import Netboot.Proofs.Supervisor.Shutdown
import Netboot.Proofs.Tftp
import Netboot.Proofs.Web.Boot
import Netboot.Proofs.Web.Choice
import Netboot.Proofs.Web.Groups
import Netboot.Proofs.Web.Labels
import Netboot.Proofs.Web.Selectors
import Netboot.Supervisor.Launch
import Netboot.Supervisor.Thread
import Netboot.Tftp
import Netboot.Web
