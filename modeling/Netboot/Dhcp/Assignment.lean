/-! The assigned option codes, with the name of each and the form of its value. -/

set_option autoImplicit false

namespace Netboot.Dhcp

/-- How the value of an option is laid out. `raw` takes the bytes as they are, and so does `string`,
whose value is there even when it is empty; the words and addresses repeat to the option's end. -/
inductive Form where
  | raw
  | string
  | address
  | word32
  | word16
  | word8
  | byteList
  | routes
  deriving DecidableEq, Repr

structure Assignment where
  code : Nat
  name : String
  form : Form
  deriving Repr

def assignments : List Assignment := [
  ⟨0, "pad", .raw⟩, ⟨255, "end", .raw⟩, ⟨1, "subnet_mask", .address⟩, ⟨2, "time_zone", .word32⟩, ⟨3, "router", .address⟩,
  ⟨4, "time_server", .address⟩, ⟨5, "IEN_name_server", .address⟩, ⟨6, "name_server", .address⟩,
  ⟨7, "log_server", .address⟩, ⟨8, "cookie_server", .address⟩, ⟨9, "lpr_server", .address⟩,
  ⟨10, "impress-servers", .address⟩, ⟨11, "resource-location-servers", .address⟩,
  ⟨12, "hostname", .raw⟩, ⟨13, "boot-size", .word16⟩, ⟨14, "dump_path", .raw⟩,
  ⟨15, "domain", .raw⟩, ⟨16, "swap-server", .address⟩, ⟨17, "root_disk_path", .raw⟩,
  ⟨18, "extensions-path", .raw⟩, ⟨19, "ip-forwarding", .word8⟩,
  ⟨20, "non-local-source-routing", .word8⟩, ⟨21, "policy-filter", .address⟩,
  ⟨22, "max_dgram_reass_size", .word16⟩, ⟨23, "default_ttl", .word8⟩,
  ⟨24, "pmtu_timeout", .word32⟩, ⟨25, "path-mtu-plateau-table", .word16⟩,
  ⟨26, "interface-mtu", .word16⟩, ⟨27, "all-subnets-local", .word8⟩,
  ⟨28, "broadcast_address", .address⟩, ⟨29, "perform-mask-discovery", .word8⟩,
  ⟨30, "mask-supplier", .word8⟩, ⟨31, "router-discovery", .word8⟩,
  ⟨32, "router-solicitation-address", .address⟩, ⟨33, "static-routes", .address⟩,
  ⟨34, "trailer-encapsulation", .word8⟩, ⟨35, "arp_cache_timeout", .word32⟩,
  ⟨36, "ieee802-3-encapsulation", .word8⟩, ⟨37, "tcp_ttl", .word8⟩,
  ⟨38, "tcp_keepalive_interval", .word32⟩, ⟨39, "tcp_keepalive_garbage", .word8⟩,
  ⟨40, "NIS_domain", .string⟩, ⟨41, "NIS_server", .address⟩, ⟨42, "NTP_server", .address⟩,
  ⟨43, "vendor_specific", .raw⟩, ⟨44, "NetBIOS_server", .address⟩,
  ⟨45, "NetBIOS_dist_server", .address⟩, ⟨46, "NetBIOS_node_type", .word8⟩,
  ⟨47, "netbios-scope", .raw⟩, ⟨48, "font-servers", .address⟩,
  ⟨49, "x-display-manager", .address⟩, ⟨50, "requested_addr", .address⟩,
  ⟨51, "lease_time", .word32⟩, ⟨52, "dhcp-option-overload", .word8⟩,
  ⟨53, "message-type", .word8⟩, ⟨54, "server_id", .address⟩, ⟨55, "param_req_list", .byteList⟩,
  ⟨56, "error_message", .raw⟩, ⟨57, "max_dhcp_size", .word16⟩, ⟨58, "renewal_time", .word32⟩,
  ⟨59, "rebinding_time", .word32⟩, ⟨60, "vendor_class_id", .string⟩, ⟨61, "client_id", .string⟩,
  ⟨62, "nwip-domain-name", .raw⟩, ⟨64, "NISplus_domain", .raw⟩, ⟨65, "NISplus_server", .address⟩,
  ⟨66, "tftp_server_name", .raw⟩, ⟨67, "boot-file-name", .string⟩,
  ⟨68, "mobile-ip-home-agent", .address⟩, ⟨69, "SMTP_server", .address⟩,
  ⟨70, "POP3_server", .address⟩, ⟨71, "NNTP_server", .address⟩, ⟨72, "WWW_server", .address⟩,
  ⟨73, "Finger_server", .address⟩, ⟨74, "IRC_server", .address⟩,
  ⟨75, "StreetTalk_server", .address⟩, ⟨76, "StreetTalk_Dir_Assistance", .address⟩,
  ⟨77, "user_class", .raw⟩, ⟨78, "slp_service_agent", .raw⟩, ⟨79, "slp_service_scope", .raw⟩,
  ⟨80, "rapid_commit", .raw⟩, ⟨81, "client_FQDN", .raw⟩, ⟨82, "relay_agent_information", .raw⟩,
  ⟨85, "nds-server", .address⟩, ⟨86, "nds-tree-name", .string⟩, ⟨87, "nds-context", .string⟩,
  ⟨88, "bcms-controller-namesi", .raw⟩, ⟨89, "bcms-controller-address", .address⟩,
  ⟨91, "client-last-transaction-time", .word32⟩, ⟨92, "associated-ip", .address⟩,
  ⟨93, "pxe_client_architecture", .raw⟩, ⟨94, "pxe_client_network_interface", .raw⟩,
  ⟨97, "pxe_client_machine_identifier", .raw⟩, ⟨98, "uap-servers", .string⟩,
  ⟨100, "pcode", .string⟩, ⟨101, "tcode", .string⟩, ⟨108, "ipv6-only-preferred", .word32⟩,
  ⟨112, "netinfo-server-address", .address⟩, ⟨113, "netinfo-server-tag", .string⟩,
  ⟨114, "captive-portal", .string⟩, ⟨116, "auto-config", .word8⟩,
  ⟨117, "name-service-search", .word16⟩, ⟨118, "subnet-selection", .address⟩,
  ⟨121, "classless_static_routes", .routes⟩, ⟨124, "vendor_class", .raw⟩,
  ⟨125, "vendor_specific_information", .raw⟩, ⟨128, "tftp_server_ip_address", .address⟩,
  ⟨136, "pana-agent", .address⟩, ⟨137, "v4-lost", .raw⟩, ⟨138, "capwap-ac-v4", .address⟩,
  ⟨141, "sip_ua_service_domains", .raw⟩, ⟨145, "forcerenew_nonce_capable", .byteList⟩,
  ⟨146, "rdnss-selection", .raw⟩, ⟨150, "tftp_server_address", .address⟩,
  ⟨159, "v4-portparams", .raw⟩, ⟨160, "v4-captive-portal", .string⟩, ⟨161, "mud-url", .string⟩,
  ⟨208, "pxelinux_magic", .raw⟩, ⟨209, "pxelinux_configuration_file", .raw⟩,
  ⟨210, "pxelinux_path_prefix", .raw⟩, ⟨211, "pxelinux_reboot_time", .raw⟩,
  ⟨212, "option-6rd", .raw⟩, ⟨213, "v4-access-domain", .raw⟩]

def assignment? (code : Nat) : Option Assignment := assignments.find? (·.code == code)

def assignmentNamed? (name : String) : Option Assignment := assignments.find? (·.name == name)

end Netboot.Dhcp
