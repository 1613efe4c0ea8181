/-
The catalog that comes with the program.
-/
import NetDraft.Catalog

namespace NetDraft.Catalog

/-- A device model with its category and its description. -/
def device (key category description : String) : String × Descriptor :=
  (key, ⟨some category, some description⟩)

/-- A module model or a cable with its description. -/
def described (key description : String) : String × Descriptor := (key, ⟨none, some description⟩)

/-- The device models of the simulator. -/
def builtinDevices : List (String × Descriptor) := [
  device "1841" "router" "Cisco 1841 Integrated Services Router",
  device "1941" "router" "Cisco 1941 Integrated Services Router G2",
  device "2620XM" "router" "Cisco 2620XM Multiservice Router",
  device "2621XM" "router" "Cisco 2621XM Multiservice Router",
  device "2811" "router" "Cisco 2811 Integrated Services Router",
  device "2901" "router" "Cisco 2901 Integrated Services Router G2",
  device "2911" "router" "Cisco 2911 Integrated Services Router G2",
  device "4321" "router" "Cisco ISR 4321",
  device "4331" "router" "Cisco ISR 4331",
  device "819HGW" "router" "Cisco 819 Hardened Router with Wi-Fi",
  device "829" "router" "Cisco 829 Industrial Router",
  device "Router-PT" "router" "Generic router",
  device "2950-24" "switch" "Cisco Catalyst 2950-24",
  device "2950T-24" "switch" "Cisco Catalyst 2950T-24",
  device "2960-24TT" "switch" "Cisco Catalyst 2960-24TT",
  device "3560-24PS" "switch" "Cisco Catalyst 3560-24PS multilayer switch",
  device "3650-24PS" "switch" "Cisco Catalyst 3650-24PS multilayer switch",
  device "Switch-PT" "switch" "Generic switch",
  device "Bridge-PT" "switch" "Generic bridge",
  device "Hub-PT" "hub" "Generic hub",
  device "Repeater-PT" "hub" "Generic repeater",
  device "AccessPoint-PT" "wireless" "Generic access point",
  device "WRT300N" "wireless" "Linksys WRT300N wireless router",
  device "5505" "security" "Cisco ASA 5505",
  device "5506-X" "security" "Cisco ASA 5506-X",
  device "Cloud-PT" "wan" "WAN emulation cloud",
  device "DSL-Modem-PT" "wan" "DSL modem",
  device "Cable-Modem-PT" "wan" "Cable modem",
  device "PC-PT" "end-device" "Desktop PC",
  device "Laptop-PT" "end-device" "Laptop",
  device "Server-PT" "end-device" "Server",
  device "Printer-PT" "end-device" "Network printer",
  device "TabletPC-PT" "end-device" "Tablet",
  device "SMARTPHONE-PT" "end-device" "Smartphone",
  device "7960" "end-device" "Cisco 7960 IP phone",
  device "Home-VoIP-PT" "end-device" "Home VoIP adapter",
  device "Analog-Phone-PT" "end-device" "Analog phone"]

/-- The module models of the simulator. -/
def builtinModules : List (String × Descriptor) := [
  described "HWIC-1GE-SFP" "1-port Gigabit Ethernet SFP HWIC",
  described "HWIC-2T" "2-port serial WAN interface card",
  described "HWIC-4ESW" "4-port Ethernet switch HWIC",
  described "HWIC-8A" "8-port asynchronous serial HWIC",
  described "HWIC-AP-AG-B" "Wireless access point HWIC",
  described "WIC-1AM" "1-port analog modem WIC",
  described "WIC-1ENET" "1-port Ethernet WIC",
  described "WIC-1T" "1-port serial WIC",
  described "WIC-2AM" "2-port analog modem WIC",
  described "WIC-2T" "2-port serial WIC",
  described "WIC-Cover" "Blank WIC slot cover",
  described "NM-1E" "1-port Ethernet network module",
  described "NM-1FE-TX" "1-port Fast Ethernet network module",
  described "NM-2FE2W" "2-port Fast Ethernet network module with 2 WIC slots",
  described "NM-4A/S" "4-port async/sync serial network module",
  described "NM-4E" "4-port Ethernet network module",
  described "NM-8A/S" "8-port async/sync serial network module",
  described "NM-16ESW" "16-port Ethernet switch network module",
  described "NM-Cover" "Blank network module slot cover",
  described "NIM-2T" "2-port serial network interface module",
  described "NIM-ES2-4" "4-port Gigabit Ethernet switch NIM",
  described "GLC-LH-SMD" "1000BASE-LX/LH SFP transceiver",
  described "GLC-T" "1000BASE-T SFP transceiver",
  described "PT-ROUTER-NM-1CFE" "Generic router copper Fast Ethernet module",
  described "PT-ROUTER-NM-1FFE" "Generic router fiber Fast Ethernet module",
  described "PT-ROUTER-NM-1S" "Generic router serial module",
  described "PT-SWITCH-NM-1CFE" "Generic switch copper Fast Ethernet module",
  described "PT-SWITCH-NM-1FFE" "Generic switch fiber Fast Ethernet module",
  described "PT-HOST-NM-1CFE" "Host copper Fast Ethernet NIC",
  described "PT-HOST-NM-1W" "Host wireless NIC",
  described "WMP300N" "Linksys WMP300N wireless NIC"]

/-- The cables of the simulator. -/
def builtinLinks : List (String × Descriptor) := [
  described "Automatic" "Let the simulator pick the cable type",
  described "Console" "Console (rollover) cable",
  described "Copper Straight-Through" "Straight-through twisted pair",
  described "Copper Cross-Over" "Crossover twisted pair",
  described "Fiber" "Fiber optic cable",
  described "Phone" "Telephone cable",
  described "Coaxial" "Coaxial cable",
  described "Serial DCE" "Serial cable, DCE end first",
  described "Serial DTE" "Serial cable, DTE end first",
  described "Octal" "Octal cable",
  described "USB" "USB cable"]

/-- The catalog that comes with the program. -/
def builtin : Catalog where
  devices := .ofList builtinDevices
  modules := .ofList builtinModules
  links := .ofList builtinLinks

end NetDraft.Catalog
