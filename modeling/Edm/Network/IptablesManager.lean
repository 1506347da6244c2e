import Edm.Network.Executer

/-! The requests that add and remove firewall and domain rules.  The first rule that allows
something brings a default chain that denies everything else, and the chain is cleared once no such
rule is left. -/

set_option autoImplicit false

namespace Edm.IPTABLES

open Library (ascii)

/-- The chains that deny by default. -/
inductive DefaultDeny where
  | firewallOutput | firewallForward | domainOutput | domainForward
  deriving DecidableEq, Repr

namespace DefaultDeny

def chain : DefaultDeny → ChainName
  | firewallOutput => .defaultDenyOutput
  | firewallForward => .defaultDenyForward
  | domainOutput => .defaultDnsDenyOutput
  | domainForward => .defaultDnsDenyForward

/-- The chains that `ExistOutputAllowFirewallRule` and its like look at. -/
def allowChains : DefaultDeny → List ChainName
  | firewallOutput => [.allowInput, .allowOutput]
  | firewallForward => [.allowForward]
  | domainOutput => [.dnsAllowOutput]
  | domainForward => [.dnsAllowForward]

/-- The directions for which `SetDefaultOutputDenyChain` and `SetDefaultForwardDenyChain` of the
chain's executer set the rules. -/
def covers (deny : DefaultDeny) (direction : Direction) : Bool :=
  match deny with
  | firewallOutput => direction = .output || direction = .input
  | domainOutput => direction = .output || direction = .input || direction = .invalid
  | firewallForward | domainForward => direction = .forward

/-- A firewall rule that drops all packets of a protocol. -/
def dropProtocol (direction : Direction) (protocol : Protocol) (family : Family) : ChainRule :=
  (FirewallChainRule.ofRule
    ⟨direction, .deny, protocol, [], [], [], [], [], family, .invalid⟩).toChainRule

def dropDomains (direction : Direction) (family : Family) : ChainRule :=
  (DomainChainRule.ofRule ⟨.deny, [], [], direction, family, .invalid⟩).toChainRule

/-- The rules of the chain, in the order in which they are set. -/
def rules (deny : DefaultDeny) (family : Family) : List ChainRule :=
  match deny with
  | firewallOutput => [FirewallChainRule.established.toChainRule,
      dropProtocol .output .udp family, dropProtocol .output .tcp family]
  | firewallForward => [FirewallChainRule.established.toChainRule,
      dropProtocol .forward .udp family, dropProtocol .forward .tcp family]
  | domainOutput => [dropDomains .output family]
  | domainForward => [dropDomains .forward family]

end DefaultDeny

/-- An `IptablesManager` with the chains of its family.  `inits` are its flags
`g_defaultFirewallOutputChainInit`, `g_defaultFirewallForwardChainInit`,
`g_defaultDomainOutputChainInit` and `g_defaultDomainForwardChainInit`. -/
structure IptablesManager where
  chains : Chains
  inits : DefaultDeny → Bool

/-! ### Names of chains -/

def getFirewallChainName (direction : Direction) (action : Action) : Option ChainName :=
  match action, direction with
  | .allow, .input => some .allowInput
  | .allow, .output => some .allowOutput
  | .allow, .forward => some .allowForward
  | .deny, .input => some .denyInput
  | .deny, .output => some .denyOutput
  | .deny, .forward => some .denyForward
  | .reject, .input => some .rejectInput
  | .reject, .output => some .rejectOutput
  | .reject, .forward => some .rejectForward
  | _, _ => none

/-- The one chain of an action, or those of all actions. -/
def chainsOfAction (allow deny reject : ChainName) : Action → List ChainName
  | .allow => [allow]
  | .deny => [deny]
  | .reject => [reject]
  | .invalid => [allow, deny, reject]

def getRemoveInputChainName : Action → List ChainName :=
  chainsOfAction .allowInput .denyInput .rejectInput

def getRemoveOutputChainName : Action → List ChainName :=
  chainsOfAction .allowOutput .denyOutput .rejectOutput

def getRemoveForwardChainName : Action → List ChainName :=
  chainsOfAction .allowForward .denyForward .rejectForward

def getRemoveChainName (direction : Direction) (action : Action) :
    Except ErrCode (List ChainName) :=
  match direction with
  | .input => .ok (getRemoveInputChainName action)
  | .output => .ok (getRemoveOutputChainName action)
  | .forward => .ok (getRemoveForwardChainName action)
  | .invalid =>
    if action = .invalid then
      .ok [.allowInput, .allowOutput, .allowForward, .denyInput, .denyOutput, .denyForward,
        .rejectInput, .rejectOutput, .rejectForward]
    else .error EdmReturnErrCode.PARAM_ERROR

theorem covers_of_firewall {direction : Direction} {action : Action} {c : ChainName}
    (h : getFirewallChainName direction action = some c) :
    (∀ deny : DefaultDeny, c ≠ deny.chain) ∧
      (∀ deny : DefaultDeny, c ∈ deny.allowChains →
        action = .allow ∧ (deny = .firewallOutput ∨ deny = .firewallForward)) ∧
      (action = .allow → ∀ deny : DefaultDeny, deny = .firewallOutput ∨ deny = .firewallForward →
        deny.covers direction = true → c ∈ deny.allowChains) := by
  cases action <;> cases direction <;> cases h <;>
    exact ⟨fun deny => by cases deny <;> decide, fun deny => by cases deny <;> decide,
      fun haction deny => by cases haction <;> cases deny <;> decide⟩

theorem getRemoveChainName_of_firewall {direction : Direction} {action : Action} {c : ChainName}
    (h : getFirewallChainName direction action = some c) :
    getRemoveChainName direction action = .ok [c] := by
  cases action <;> cases direction <;> cases h <;> rfl

theorem getRemoveChainName_names {direction : Direction} {action : Action}
    {chainNameList : List ChainName}
    (h : getRemoveChainName direction action = .ok chainNameList) :
    chainNameList.Nodup ∧ (∀ deny : DefaultDeny, deny.chain ∉ chainNameList) ∧
      (chainNameList.length > 1 ∨ ∃ c, chainNameList = [c]) := by
  cases direction <;> cases action <;> cases h <;>
    exact ⟨by decide, fun deny => by cases deny <;> decide,
      by first | exact .inl (by decide) | exact .inr ⟨_, rfl⟩⟩

/-! ### Default rules -/

section Requests

variable (host : Host) (outcomes : Outcomes)

def chainExistRule (chains : Chains) (chainNames : List ChainName) : Bool :=
  chainNames.any fun chainName => !(getAll host outcomes chains chainName).2.isEmpty

/-- `SetDefaultOutputDenyChain` and `SetDefaultForwardDenyChain` for a direction that they cover. -/
def setDefaultDenyChain (chains : Chains) (deny : DefaultDeny) (family : Family) : Chains :=
  (deny.rules family).foldl
    (fun chains rule => (add host outcomes chains deny.chain rule family .invalid).2) chains

/-- What a request that allows something does first, for each chain that denies by default. -/
def ensureDefaultDeny (m : IptablesManager) (deny : DefaultDeny) (direction : Direction)
    (family : Family) : IptablesManager :=
  if !m.inits deny && !chainExistRule host outcomes m.chains [deny.chain] then
    if deny.covers direction then
      { chains := setDefaultDenyChain host outcomes m.chains deny family
        inits := Function.update m.inits deny true }
    else m
  else m

/-- What a removal does last, for each chain that denies by default. -/
def clearDefaultDeny (m : IptablesManager) (deny : DefaultDeny) (family : Family) :
    IptablesManager :=
  if !chainExistRule host outcomes m.chains deny.allowChains then
    { chains := (remove host outcomes m.chains deny.chain none family .invalid).2
      inits := Function.update m.inits deny false }
  else m

/-! ### Firewall rules -/

def addFirewallRule (m : IptablesManager) (rule : FirewallRule) (family : Family) :
    ErrCode × IptablesManager :=
  if checkFirewallParams rule then
    match getFirewallChainName rule.direction rule.action with
    | none => (EdmReturnErrCode.PARAM_ERROR, m)
    | some chainName =>
      let m :=
        if rule.action = .allow then
          let m := ensureDefaultDeny host outcomes m .firewallOutput rule.direction family
          ensureDefaultDeny host outcomes m .firewallForward rule.direction family
        else m
      let added := add host outcomes m.chains chainName (FirewallChainRule.ofRule rule).toChainRule
        family rule.logType
      (added.1, { m with chains := added.2 })
  else (EdmReturnErrCode.PARAM_ERROR, m)

/-- The condition under which a request for several chains is refused. -/
def tooManyParameters (rule : FirewallRule) : Bool :=
  rule.protocol ≠ .invalid ||
    (!rule.srcAddr.isEmpty || !rule.destAddr.isEmpty || !rule.srcPort.isEmpty ||
      !rule.destPort.isEmpty || !rule.appUid.isEmpty)

/-- `executer->Remove` for each chain, with `none` for a null rule. -/
def removeFromChains (chains : Chains) (chainNameList : List ChainName) (rule : Option ChainRule)
    (family : Family) (logType : LogType) : Chains :=
  chainNameList.foldl
    (fun chains chainName => (remove host outcomes chains chainName rule family logType).2) chains

def removeFirewallRule (m : IptablesManager) (rule : FirewallRule) (family : Family) :
    ErrCode × IptablesManager :=
  if checkFirewallParams rule then
    match getRemoveChainName rule.direction rule.action with
    | .error err => (err, m)
    | .ok chainNameList =>
      if chainNameList.length > 1 && tooManyParameters rule then (EdmReturnErrCode.PARAM_ERROR, m)
      else
        let chainRule :=
          if chainNameList.length > 1 then none
          else some (FirewallChainRule.ofRule rule).toChainRule
        let chains :=
          removeFromChains host outcomes m.chains chainNameList chainRule family rule.logType
        let m := clearDefaultDeny host outcomes { m with chains } .firewallOutput family
        (ERR_OK, clearDefaultDeny host outcomes m .firewallForward family)
  else (EdmReturnErrCode.PARAM_ERROR, m)

/-! ### Domain rules -/

end Requests

end Edm.IPTABLES
