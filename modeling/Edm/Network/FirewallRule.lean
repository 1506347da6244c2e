import Edm.Network.DomainFilterRule
import Mathlib.Computability.RegularExpressions

/-! The firewall rules that an administrator sets, and the checks made on them before they become
iptables rules. -/

set_option autoImplicit false

namespace Edm.IPTABLES

open Library (ascii)

inductive Protocol where
  | invalid | all | tcp | udp | icmp
  deriving DecidableEq, Repr

/-- `FirewallRule`, with its strings as bytes. -/
structure FirewallRule where
  direction : Direction
  action : Action
  protocol : Protocol
  srcAddr : List UInt8
  destAddr : List UInt8
  srcPort : List UInt8
  destPort : List UInt8
  appUid : List UInt8
  family : Family
  logType : LogType
  deriving DecidableEq, Repr

/-! ### Patterns of addresses -/

/-- A bracket expression. -/
def oneOf (chars : String) : RegularExpression UInt8 :=
  (ascii chars).foldr (fun c rest => .char c + rest) 0

/-- `{0,n}`. -/
def upTo (n : Nat) (pattern : RegularExpression UInt8) : RegularExpression UInt8 :=
  (1 + pattern) ^ n

def digit : RegularExpression UInt8 := oneOf "0123456789"

/-- `2([0-4]\d|5[0-5])|1\d\d|[1-9]\d|\d`. -/
def octet : RegularExpression UInt8 :=
  oneOf "2" * (oneOf "01234" * digit + oneOf "5" * oneOf "012345") + oneOf "1" * digit * digit +
    oneOf "123456789" * digit + digit

def IP_PATTERN : RegularExpression UInt8 := (octet * oneOf ".") ^ 3 * octet

def IP_MASK_PATTERN : RegularExpression UInt8 :=
  IP_PATTERN * oneOf "/" * (oneOf "3" * oneOf "012" + oneOf "12" * digit + digit)

/-- `[\da-fA-F]{0,4}`. -/
def hexGroup : RegularExpression UInt8 := upTo 4 (oneOf "0123456789abcdefABCDEF")

def IPV6_PATTERN : RegularExpression UInt8 :=
  (hexGroup * oneOf ":") ^ 2 * upTo 5 (hexGroup * oneOf ":") * hexGroup

def IPV6_MASK_PATTERN : RegularExpression UInt8 :=
  IPV6_PATTERN * oneOf "/" * (oneOf "1" * oneOf "012" * oneOf "012345678" +
    oneOf "123456789" * digit + oneOf "123456789")

/-! ### Checks -/

def ipIsLegal (ip : List UInt8) (family : Family) (notIpSegment : Bool) : Bool :=
  if family = .ipv4 &&
      (IP_PATTERN.rmatch ip || (notIpSegment && IP_MASK_PATTERN.rmatch ip)) then true
  else if family = .ipv6 &&
      (IPV6_PATTERN.rmatch ip || (notIpSegment && IPV6_MASK_PATTERN.rmatch ip)) then true
  else false

/-- What separates the ends of a range of addresses. -/
def RANGE : UInt8 := '-'.toUInt8

def ipAddressIsLegal (ip : List UInt8) (family : Family) : Bool :=
  if ip.contains RANGE then
    ipIsLegal (ip.takeWhile (· != RANGE)) family false &&
      ipIsLegal (ip.dropWhile (· != RANGE)).tail family false
  else ipIsLegal ip family true

def checkFirewallParams (rule : FirewallRule) : Bool :=
  if (rule.direction = .input || rule.direction = .forward) && !rule.appUid.isEmpty then false
  else if !rule.srcAddr.isEmpty && !ipAddressIsLegal rule.srcAddr rule.family then false
  else if !rule.destAddr.isEmpty && !ipAddressIsLegal rule.destAddr rule.family then false
  else true

end Edm.IPTABLES
