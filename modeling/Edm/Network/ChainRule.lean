import Edm.Network.DomainChainRule
import Edm.Network.FirewallRule

/-! The parameters of an iptables command for a rule. -/

set_option autoImplicit false

namespace Edm.IPTABLES

open Library (ascii)

def ACCEPT_TARGET : List UInt8 := ascii "ACCEPT"
def REJECT_TARGET : List UInt8 := ascii "REJECT"
def DROP_TARGET : List UInt8 := ascii "DROP"

def PROTOCOL_ALL : List UInt8 := ascii "all"
def PROTOCOL_TCP : List UInt8 := ascii "tcp"
def PROTOCOL_UDP : List UInt8 := ascii "udp"
def PROTOCOL_ICMP : List UInt8 := ascii "icmp"
def PROTOCOL_ICMPV6 : List UInt8 := ascii "ipv6-icmp"

def SPACE_OPTION : List UInt8 := ascii " "

/-- `RuleUtils::EnumToString(Action)`. -/
def actionToString : Action → List UInt8
  | .invalid => []
  | .allow => ACCEPT_TARGET
  | .deny => DROP_TARGET
  | .reject => REJECT_TARGET

/-- `RuleUtils::EnumToString(Protocol)`. -/
def protocolToString : Protocol → List UInt8
  | .invalid => []
  | .all => PROTOCOL_ALL
  | .tcp => PROTOCOL_TCP
  | .udp => PROTOCOL_UDP
  | .icmp => PROTOCOL_ICMP

/-- What an executer asks a `ChainRule` for. -/
structure ChainRule where
  /-- `Parameter(isRemove)`. -/
  parameter : Bool → List UInt8
  target : List UInt8

/-! ### Firewall rules -/

structure FirewallChainRule where
  target : List UInt8
  prot : List UInt8
  srcAddr : List UInt8
  destAddr : List UInt8
  srcPort : List UInt8
  destPort : List UInt8
  appUid : List UInt8
  state : List UInt8

namespace FirewallChainRule

/-- The rule that accepts packets of known connections. -/
def established : FirewallChainRule :=
  ⟨ACCEPT_TARGET, [], [], [], [], [], [], ascii "RELATED,ESTABLISHED"⟩

def ofRule (rule : FirewallRule) : FirewallChainRule where
  target := actionToString rule.action
  prot :=
    if rule.family = .ipv6 && protocolToString rule.protocol == PROTOCOL_ICMP then PROTOCOL_ICMPV6
    else protocolToString rule.protocol
  srcAddr := rule.srcAddr
  destAddr := rule.destAddr
  srcPort := rule.srcPort
  destPort := rule.destPort
  appUid := rule.appUid
  state := []

/-- `IpToParameter`, with the option for one address and the one for a range. -/
def ipToParameter (ip : List UInt8) (ipType range : String) : List UInt8 :=
  if ip.isEmpty then []
  else if ip.contains RANGE then ascii range ++ ip
  else SPACE_OPTION ++ ascii ipType ++ SPACE_OPTION ++ ip

def portToParameter (port : List UInt8) (portType : String) (portOption : List UInt8) :
    List UInt8 :=
  if port.isEmpty then [] else portOption ++ ascii portType ++ SPACE_OPTION ++ port

def protocolParameter (rule : FirewallChainRule) : List UInt8 :=
  ascii " -p " ++ (if rule.prot.isEmpty then PROTOCOL_ALL else rule.prot)

def portsParameter (rule : FirewallChainRule) : List UInt8 :=
  if rule.prot = PROTOCOL_TCP ∨ rule.prot = PROTOCOL_UDP then
    let portOption :=
      if rule.srcPort.contains ','.toUInt8 || rule.destPort.contains ','.toUInt8 then
        ascii " -m multiport "
      else SPACE_OPTION
    portToParameter rule.srcPort "--sport" portOption ++
      portToParameter rule.destPort "--dport" portOption
  else []

/-- An option with its value, where there is one. -/
def optionParameter (option : String) (value : List UInt8) : List UInt8 :=
  if value.isEmpty then [] else ascii option ++ value

def parameter (rule : FirewallChainRule) (isRemove : Bool) : List UInt8 :=
  (if isRemove then [] else rule.protocolParameter) ++
    ipToParameter rule.srcAddr "-s" " -m iprange --src-range " ++
    ipToParameter rule.destAddr "-d" " -m iprange --dst-range " ++
    rule.portsParameter ++
    optionParameter " -m owner --uid-owner " rule.appUid ++
    optionParameter " -m state --state " rule.state

def toChainRule (rule : FirewallChainRule) : ChainRule := ⟨rule.parameter, rule.target⟩

end FirewallChainRule

/-! ### Domain rules -/

structure DomainChainRule where
  target : List UInt8
  appUid : List UInt8
  domainName : List UInt8

namespace DomainChainRule

def ofRule (rule : DomainFilterRule) : DomainChainRule :=
  ⟨actionToString rule.action, rule.appUid, rule.domainName⟩

def parameter (rule : DomainChainRule) (isRemove : Bool) : List UInt8 :=
  (if isRemove then [] else ascii " -p udp --dport 53") ++
    (if rule.appUid.isEmpty then [] else ascii " -m owner --uid-owner " ++ rule.appUid) ++
    (if rule.domainName.isEmpty then []
    else ascii " -m string --hex-string " ++ domainToFormatData rule.domainName ++
      ascii " --algo bm")

def toChainRule (rule : DomainChainRule) : ChainRule := ⟨rule.parameter, rule.target⟩

end DomainChainRule

end Edm.IPTABLES
