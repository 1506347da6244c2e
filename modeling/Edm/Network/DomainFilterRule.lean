import Edm.Library.ByteText

/-! The rules on domain names that an administrator sets, and the checks made on them before they
become iptables rules. -/

set_option autoImplicit false

namespace Edm.IPTABLES

open Library (ascii)

inductive Direction where
  | invalid | input | output | forward
  deriving DecidableEq, Repr

inductive Action where
  | invalid | allow | deny | reject
  deriving DecidableEq, Repr

inductive Family where
  | ipv4 | ipv6
  deriving DecidableEq, Repr

inductive LogType where
  | invalid | nflog
  deriving DecidableEq, Repr

/-- `DomainFilterRule`, with its strings as bytes. -/
structure DomainFilterRule where
  action : Action
  appUid : List UInt8
  domainName : List UInt8
  direction : Direction
  family : Family
  logType : LogType
  deriving DecidableEq, Repr

def MAX_DOMAIN_LENGTH : Nat := 255

/-- `domainName.find_first_of("|/") != std::string::npos`. -/
def hasIllegalChar (domainName : List UInt8) : Bool := domainName.any (ascii "|/").contains

def checkAddDomainParams (rule : DomainFilterRule) : Bool :=
  if rule.direction = .forward && !rule.appUid.isEmpty then false
  else if rule.domainName.isEmpty || rule.domainName.length > MAX_DOMAIN_LENGTH then false
  else if hasIllegalChar rule.domainName then false
  else true

def checkRemoveDomainParams (rule : DomainFilterRule) : Bool :=
  if rule.direction = .forward && !rule.appUid.isEmpty then false
  else if rule.domainName.isEmpty && !rule.appUid.isEmpty then false
  else if !rule.domainName.isEmpty && rule.domainName.length > MAX_DOMAIN_LENGTH then false
  else if hasIllegalChar rule.domainName then false
  else if rule.action = .invalid && (!rule.appUid.isEmpty || !rule.domainName.isEmpty) then false
  else true

/-- A domain name that the check of one of the requests lets through. -/
def Accepted (domainName : List UInt8) : Prop :=
  ∃ rule : DomainFilterRule, rule.domainName = domainName ∧
    (checkAddDomainParams rule = true ∨ checkRemoveDomainParams rule = true)

theorem not_mem_of_legal {domainName : List UInt8} (h : hasIllegalChar domainName = false) :
    '|'.toUInt8 ∉ domainName := by
  intro hmem
  have hfound : hasIllegalChar domainName = true := List.any_eq_true.mpr ⟨_, hmem, rfl⟩
  rw [h] at hfound
  contradiction

theorem legal_of_checkAdd {rule : DomainFilterRule} (h : checkAddDomainParams rule = true) :
    rule.domainName.length ≤ MAX_DOMAIN_LENGTH ∧ hasIllegalChar rule.domainName = false := by
  unfold checkAddDomainParams at h
  split at h
  · contradiction
  split at h
  · contradiction
  rename_i hlength
  split at h
  · contradiction
  rename_i hchar
  simp only [Bool.or_eq_true, decide_eq_true_eq, not_or] at hlength
  exact ⟨by omega, Bool.eq_false_iff.mpr hchar⟩

theorem legal_of_checkRemove {rule : DomainFilterRule} (h : checkRemoveDomainParams rule = true) :
    rule.domainName.length ≤ MAX_DOMAIN_LENGTH ∧ hasIllegalChar rule.domainName = false := by
  unfold checkRemoveDomainParams at h
  split at h
  · contradiction
  split at h
  · contradiction
  split at h
  · contradiction
  rename_i hlength
  split at h
  · contradiction
  rename_i hchar
  refine ⟨?_, Bool.eq_false_iff.mpr hchar⟩
  cases hname : rule.domainName with
  | nil => exact Nat.zero_le _
  | cons c name =>
    simp only [hname, List.isEmpty_cons, Bool.not_false, Bool.true_and,
      decide_eq_true_eq] at hlength
    omega

theorem Accepted.legal {domainName : List UInt8} (h : Accepted domainName) :
    domainName.length ≤ MAX_DOMAIN_LENGTH ∧ '|'.toUInt8 ∉ domainName := by
  obtain ⟨rule, rfl, hadd | hremove⟩ := h
  · exact (legal_of_checkAdd hadd).imp_right not_mem_of_legal
  · exact (legal_of_checkRemove hremove).imp_right not_mem_of_legal

end Edm.IPTABLES
