import Edm.Library.AppendErase
import Edm.Network.DefaultDeny

/-! Removal of firewall rules.  What a removal deletes is decided by the parameters of its command
without the protocol, and its code says nothing about the commands. -/

set_option autoImplicit false

namespace Edm.IPTABLES

open Library (ascii EndsInCopies)

/-! ### The entries of a rule -/

section Entries

variable {host : Host} {outcomes : Outcomes} {chains : Chains} {chain : ChainName}
  {rule : ChainRule} {ipType : Family} {logType : LogType}

/-- The entries of a rule in its chain. -/
def ruleEntries (host : Host) (rule : ChainRule) (ipType : Family) (logType : LogType) :
    List Entry :=
  logEntries host rule ipType logType ++ [targetEntry rule]

theorem nodup_ruleEntries : (ruleEntries host rule ipType logType).Nodup := by
  unfold ruleEntries logEntries
  split
  · by_cases hnflog : (host.featurePcOnly && logType = .nflog : Bool) = true
    · simp only [hnflog, if_true]
      simp [targetEntry]
    · simp only [hnflog, Bool.false_eq_true, if_false]
      simp [targetEntry]
  · exact List.nodup_singleton _

theorem parameter_of_mem_ruleEntries {entry : Entry}
    (h : entry ∈ ruleEntries host rule ipType logType) :
    entry.parameter = rule.parameter false := by
  rcases List.mem_append.mp h with hlog | htarget
  · unfold logEntries at hlog
    split at hlog
    · rcases List.mem_cons.mp hlog with rfl | hnflog
      · rfl
      · split at hnflog
        · rw [List.mem_singleton.mp hnflog]
        · exact absurd hnflog List.not_mem_nil
    · exact absurd hlog List.not_mem_nil
  · rw [List.mem_singleton.mp htarget]
    rfl

/-- The commands of a removal on a chain. -/
def removalCommands (host : Host) (rule : Option ChainRule) (ipType : Family) (logType : LogType)
    (chain : ChainName) : List Command :=
  match rule with
  | none => [.flush chain]
  | some rule =>
    if (rule.parameter true).isEmpty then [.flush chain]
    else (ruleEntries host rule ipType logType).map (.delete chain)

theorem executeAll_append (commands commands' : List Command) :
    executeAll host outcomes chains (commands ++ commands') =
      executeAll host outcomes (executeAll host outcomes chains commands) commands' :=
  List.foldl_append

theorem remove_commands (rule : Option ChainRule) :
    (remove host outcomes chains chain rule ipType logType).2 =
      executeAll host outcomes chains (removalCommands host rule ipType logType chain) := by
  cases rule with
  | none => rfl
  | some rule =>
    by_cases hempty : (rule.parameter true).isEmpty = true
    · rw [remove_empty hempty, removalCommands, if_pos hempty]
      rfl
    · rw [remove_nonempty hempty, removalCommands, if_neg hempty, ruleEntries, List.map_append,
        executeAll_append]
      rfl

/-- All commands are done. -/
def allDone : Outcomes := fun _ => ERR_OK

theorem add_allDone :
    (add host allDone chains chain rule ipType logType).2 chain =
      chains chain ++ ruleEntries host rule ipType logType := by
  rw [add_chain]
  exact congrArg _ (List.filter_eq_self.mpr fun _ _ => rfl)

theorem deletes_allDone (entries : List Entry) :
    executeAll host allDone chains (entries.map (.delete chain)) chain =
      (chains chain).diff entries := by
  induction entries generalizing chains with
  | nil => rfl
  | cons entry entries ih =>
    show executeAll host allDone (execute host allDone chains (.delete chain entry)).2 _ chain = _
    rw [ih, execute_delete, List.diff_cons]
    rfl

theorem remove_allDone (rule : Option ChainRule) :
    (remove host allDone chains chain rule ipType logType).2 chain =
      match rule with
      | none => []
      | some rule =>
        if (rule.parameter true).isEmpty then []
        else (chains chain).diff (ruleEntries host rule ipType logType) := by
  rw [remove_commands]
  cases rule with
  | none => exact execute_flush chains chain
  | some rule =>
    by_cases hempty : (rule.parameter true).isEmpty = true
    · rw [removalCommands, if_pos hempty]
      show _ = if _ then _ else _
      rw [if_pos hempty]
      exact execute_flush chains chain
    · rw [removalCommands, if_neg hempty]
      show _ = if _ then _ else _
      rw [if_neg hempty]
      exact deletes_allDone _

/-! ### Success of commands -/

/-- Every command succeeds, each on the chains that the ones before it leave. -/
def Succeed (host : Host) (outcomes : Outcomes) : Chains → List Command → Prop
  | _, [] => True
  | chains, command :: commands =>
    (execute host outcomes chains command).1 = ERR_OK ∧
      Succeed host outcomes (execute host outcomes chains command).2 commands

theorem execute_delete_ok {entry : Entry} :
    (execute host outcomes chains (.delete chain entry)).1 = ERR_OK ↔
      outcomes (.delete chain entry) = ERR_OK ∧ entry ∈ chains chain := by
  unfold execute
  by_cases hok : outcomes (.delete chain entry) = ERR_OK
  · rw [if_pos hok, and_iff_right hok]
    by_cases hmem : entry ∈ chains chain
    · simp [hmem]
    · simp [hmem, host.noRule_ne]
  · rw [if_neg hok]
    exact iff_of_false hok fun h => hok h.1

theorem execute_flush_ok :
    (execute host outcomes chains (.flush chain)).1 = ERR_OK ↔
      outcomes (.flush chain) = ERR_OK := by
  unfold execute
  by_cases hok : outcomes (.flush chain) = ERR_OK
  · rw [if_pos hok]
    exact iff_of_true rfl hok
  · rw [if_neg hok]

theorem succeed_flushes (names : List ChainName) :
    Succeed host outcomes chains (names.map .flush) ↔
      ∀ name ∈ names, outcomes (.flush name) = ERR_OK := by
  induction names generalizing chains with
  | nil => exact iff_of_true trivial fun _ h => absurd h List.not_mem_nil
  | cons name names ih =>
    show _ ∧ Succeed host outcomes _ (names.map .flush) ↔ _
    rw [ih, execute_flush_ok, List.forall_mem_cons]

theorem succeed_deletes {entries : List Entry} (hnodup : entries.Nodup) :
    Succeed host outcomes chains (entries.map (.delete chain)) ↔
      ∀ entry ∈ entries, outcomes (.delete chain entry) = ERR_OK ∧ entry ∈ chains chain := by
  induction entries generalizing chains with
  | nil => exact iff_of_true trivial fun _ h => absurd h List.not_mem_nil
  | cons entry entries ih =>
    obtain ⟨hentry, hentries⟩ := List.nodup_cons.mp hnodup
    show _ ∧ Succeed host outcomes _ (entries.map (.delete chain)) ↔ _
    rw [ih hentries, execute_delete_ok, List.forall_mem_cons]
    refine and_congr_right fun hfirst => forall₂_congr fun other hother => ?_
    have hne : other ≠ entry := fun heq => hentry (heq ▸ hother)
    rw [execute_delete, if_pos hfirst.1, List.mem_erase_of_ne hne]

end Entries

/-! ### Parameters without the protocol -/

/-- The rule has an address, an application's uid, or ports of a protocol that has ports. -/
def Rendered (rule : FirewallRule) : Prop :=
  rule.srcAddr ≠ [] ∨ rule.destAddr ≠ [] ∨ rule.appUid ≠ [] ∨
    (rule.protocol = .tcp ∨ rule.protocol = .udp) ∧ (rule.srcPort ≠ [] ∨ rule.destPort ≠ [])

/-- The rule of a request as executers see it. -/
def chainRuleOf (rule : FirewallRule) : ChainRule := (FirewallChainRule.ofRule rule).toChainRule

theorem ipToParameter_eq_nil {ip : List UInt8} {ipType range : String} (hrange : ascii range ≠ []) :
    FirewallChainRule.ipToParameter ip ipType range = [] ↔ ip = [] := by
  unfold FirewallChainRule.ipToParameter
  cases ip with
  | nil => exact iff_of_true rfl rfl
  | cons c ip =>
    refine iff_of_false ?_ (List.cons_ne_nil _ _)
    split
    · contradiction
    · split
      · exact fun h => hrange (List.append_eq_nil_iff.mp h).1
      · exact fun h => nomatch h

theorem portToParameter_eq_nil {port : List UInt8} {portType : String} {portOption : List UInt8} :
    FirewallChainRule.portToParameter port portType portOption = [] ↔ port = [] := by
  unfold FirewallChainRule.portToParameter
  cases port with
  | nil => exact iff_of_true rfl rfl
  | cons c port =>
    refine iff_of_false (fun h => ?_) (List.cons_ne_nil _ _)
    exact nomatch (List.append_eq_nil_iff.mp h).2

theorem optionParameter_eq_nil {option : String} {value : List UInt8} :
    FirewallChainRule.optionParameter option value = [] ↔ value = [] := by
  unfold FirewallChainRule.optionParameter
  cases value with
  | nil => exact iff_of_true rfl rfl
  | cons c value =>
    refine iff_of_false (fun h => ?_) (List.cons_ne_nil _ _)
    exact nomatch (List.append_eq_nil_iff.mp h).2

theorem ports_iff (rule : FirewallRule) :
    ((FirewallChainRule.ofRule rule).prot = PROTOCOL_TCP ∨
      (FirewallChainRule.ofRule rule).prot = PROTOCOL_UDP) ↔
      rule.protocol = .tcp ∨ rule.protocol = .udp := by
  obtain ⟨direction, action, protocol, srcAddr, destAddr, srcPort, destPort, appUid, family,
    logType⟩ := rule
  cases protocol <;> cases family <;> simp [FirewallChainRule.ofRule, protocolToString] <;> decide

theorem portsParameter_eq_nil (rule : FirewallRule) :
    (FirewallChainRule.ofRule rule).portsParameter = [] ↔
      ¬ ((rule.protocol = .tcp ∨ rule.protocol = .udp) ∧
        (rule.srcPort ≠ [] ∨ rule.destPort ≠ [])) := by
  unfold FirewallChainRule.portsParameter
  by_cases hports : rule.protocol = .tcp ∨ rule.protocol = .udp
  · rw [if_pos ((ports_iff rule).mpr hports), List.append_eq_nil_iff, portToParameter_eq_nil,
      portToParameter_eq_nil, and_iff_right hports, not_or, not_not, not_not]
    rfl
  · rw [if_neg (mt (ports_iff rule).mp hports)]
    exact iff_of_true rfl fun h => hports h.1

theorem parameter_isEmpty_iff (rule : FirewallRule) :
    ((chainRuleOf rule).parameter true).isEmpty = true ↔ ¬ Rendered rule := by
  show ((FirewallChainRule.ofRule rule).parameter true).isEmpty = true ↔ _
  rw [List.isEmpty_iff, FirewallChainRule.parameter, Rendered]
  simp only [if_true, List.nil_append, List.append_eq_nil_iff, optionParameter_eq_nil,
    portsParameter_eq_nil, not_or, not_not]
  rw [ipToParameter_eq_nil (by decide), ipToParameter_eq_nil (by decide)]
  show (((rule.srcAddr = [] ∧ rule.destAddr = []) ∧ _) ∧ rule.appUid = []) ∧ [] = [] ↔ _
  tauto

/-! ### Requests -/

section Requests

variable {host : Host} {outcomes : Outcomes} {m : IptablesManager} {rule : FirewallRule}
  {family : Family} {c : ChainName}

theorem addFirewallRule_chain (hcheck : checkFirewallParams rule = true)
    (hname : getFirewallChainName rule.direction rule.action = some c) :
    (addFirewallRule host allDone m rule family).2.chains c =
      m.chains c ++ ruleEntries host (chainRuleOf rule) family rule.logType := by
  have hchain := (covers_of_firewall hname).1
  unfold addFirewallRule
  simp only [hcheck, if_true, hname]
  show (add host allDone _ c (chainRuleOf rule) family rule.logType).2 c = _
  rw [add_allDone]
  split
  · rw [ensureDefaultDeny_of_ne (hchain _), ensureDefaultDeny_of_ne (hchain _)]
  · rfl

/-- A removal that is not refused. -/
structure Removing (rule : FirewallRule) (chainNameList : List ChainName) : Prop where
  check : checkFirewallParams rule = true
  names : getRemoveChainName rule.direction rule.action = .ok chainNameList
  many : (chainNameList.length > 1 && tooManyParameters rule) = false

theorem Removing.chain {chainNameList : List ChainName} (h : Removing rule chainNameList)
    (hc : c ∈ chainNameList) :
    (removeFirewallRule host outcomes m rule family).2.chains c =
      (remove host outcomes m.chains c (removedRule chainNameList (chainRuleOf rule)) family
        rule.logType).2 c := by
  obtain ⟨hnodup, hdefault, _⟩ := getRemoveChainName_names h.names
  have hne : ∀ deny : DefaultDeny, c ≠ deny.chain := fun deny heq => hdefault deny (heq ▸ hc)
  unfold removeFirewallRule
  simp only [h.check, if_true, h.names, h.many, Bool.false_eq_true, if_false]
  exact (cleared_of_ne (hne _) (hne _)).trans
    (removeFromChains_of_mem hnodup hc)

theorem Removing.code {chainNameList : List ChainName} (h : Removing rule chainNameList) :
    (removeFirewallRule host outcomes m rule family).1 = ERR_OK := by
  unfold removeFirewallRule
  simp only [h.check, if_true, h.names, h.many, Bool.false_eq_true, if_false]

theorem removing_of_firewall (hcheck : checkFirewallParams rule = true)
    (hname : getFirewallChainName rule.direction rule.action = some c) : Removing rule [c] :=
  ⟨hcheck, getRemoveChainName_of_firewall hname, rfl⟩

theorem removeFirewallRule_chain (hcheck : checkFirewallParams rule = true)
    (hname : getFirewallChainName rule.direction rule.action = some c) [Decidable (Rendered rule)] :
    (removeFirewallRule host allDone m rule family).2.chains c =
      if Rendered rule then
        (m.chains c).diff (ruleEntries host (chainRuleOf rule) family rule.logType)
      else [] := by
  rw [(removing_of_firewall hcheck hname).chain List.mem_cons_self, remove_allDone]
  show (if ((chainRuleOf rule).parameter true).isEmpty then _ else _) = _
  by_cases hrendered : Rendered rule
  · rw [if_pos hrendered, if_neg (mt (parameter_isEmpty_iff rule).mp (not_not.mpr hrendered))]
  · rw [if_neg hrendered, if_pos ((parameter_isEmpty_iff rule).mpr hrendered)]

/-- The commands of a removal. -/
def requestCommands (host : Host) (rule : FirewallRule) (family : Family)
    (chainNameList : List ChainName) : List Command :=
  chainNameList.flatMap
    (removalCommands host (removedRule chainNameList (chainRuleOf rule)) family rule.logType)

/-- A command that iptables carries out: it does not fail, and a deletion finds its rule. -/
def CarriedOut (outcomes : Outcomes) (chains : Chains) (command : Command) : Prop :=
  outcomes command = ERR_OK ∧ ∀ chain entry, command = .delete chain entry → entry ∈ chains chain

theorem Removing.succeed_iff {chainNameList : List ChainName} (h : Removing rule chainNameList)
    (chains : Chains) :
    Succeed host outcomes chains (requestCommands host rule family chainNameList) ↔
      ∀ command ∈ requestCommands host rule family chainNameList,
        CarriedOut outcomes chains command := by
  have hflushes : ∀ names : List ChainName,
      Succeed host outcomes chains (names.map .flush) ↔
        ∀ command ∈ names.map Command.flush, CarriedOut outcomes chains command := by
    intro names
    rw [succeed_flushes, List.forall_mem_map]
    exact forall₂_congr fun name _ => (and_iff_left nofun).symm
  unfold requestCommands
  by_cases hlength : chainNameList.length > 1
  · rw [removedRule, if_pos hlength]
    have hmap : chainNameList.flatMap (removalCommands host none family rule.logType) =
        chainNameList.map .flush := List.map_eq_flatMap.symm
    rw [hmap]
    exact hflushes chainNameList
  · obtain ⟨c, rfl⟩ := (getRemoveChainName_names h.names).2.2.resolve_left hlength
    rw [removedRule, if_neg hlength, List.flatMap_singleton]
    have hcommands : removalCommands host (some (chainRuleOf rule)) family rule.logType c =
        if ((chainRuleOf rule).parameter true).isEmpty then [.flush c]
        else (ruleEntries host (chainRuleOf rule) family rule.logType).map (.delete c) := rfl
    rw [hcommands]
    by_cases hempty : ((chainRuleOf rule).parameter true).isEmpty = true
    · rw [if_pos hempty]
      exact hflushes [c]
    · rw [if_neg hempty, succeed_deletes nodup_ruleEntries, List.forall_mem_map]
      refine forall₂_congr fun entry _ => and_congr_right fun _ => ?_
      constructor
      · rintro hmem _ _ ⟨⟩
        exact hmem
      · exact fun h => h c entry rfl

/-! ### Exactness -/

/-- A removal empties the chain whatever it has. -/
def Flushes (host : Host) (family : Family) (rule : FirewallRule) (c : ChainName) : Prop :=
  ∀ m, (removeFirewallRule host allDone m rule family).2.chains c = []

instance (rule : FirewallRule) : Decidable (Rendered rule) :=
  inferInstanceAs (Decidable (_ ∨ _ ∨ _ ∨ _ ∧ _))

theorem flushes_iff (hcheck : checkFirewallParams rule = true)
    (hname : getFirewallChainName rule.direction rule.action = some c) :
    Flushes host family rule c ↔ ¬ Rendered rule := by
  constructor
  · intro h hrendered
    -- An entry with other parameters is none of the rule's.
    have hother : ∃ entry, entry ∉ ruleEntries host (chainRuleOf rule) family rule.logType := by
      refine ⟨⟨(chainRuleOf rule).parameter false ++ [0], .target []⟩, fun hmem => ?_⟩
      have hlength := congrArg List.length (parameter_of_mem_ruleEntries hmem)
      rw [List.length_append, List.length_singleton] at hlength
      omega
    obtain ⟨entry, hentry⟩ := hother
    have hempty := h ⟨fun _ => [entry], fun _ => false⟩
    rw [removeFirewallRule_chain hcheck hname, if_pos hrendered] at hempty
    have hkept := List.mem_diff_of_mem (List.mem_singleton_self entry) hentry
    change [entry].diff _ = [] at hempty
    rw [hempty] at hkept
    exact absurd hkept List.not_mem_nil
  · intro hrendered m
    rw [removeFirewallRule_chain hcheck hname, if_neg hrendered]

/-- Adding a rule and removing it gives the chain back exactly when the rule's entries stand in the
chain at its end only or, for a rule whose removal flushes, when the chain is empty.  A removal with
a constraint deletes nothing else, and flushes no chain, exactly when the constraint is not left out
of its command's parameters.  The commands of a removal succeed when it returns `ERR_OK` exactly
when each is carried out. -/
theorem firewallRemoval_exact (host : Host) (family : Family) (rule : FirewallRule)
    (hcheck : checkFirewallParams rule = true) :
    (∀ m c, getFirewallChainName rule.direction rule.action = some c →
      ((removeFirewallRule host allDone (addFirewallRule host allDone m rule family).2 rule
          family).2.chains c = m.chains c ↔
        if Rendered rule then
          EndsInCopies (ruleEntries host (chainRuleOf rule) family rule.logType) (m.chains c)
        else m.chains c = [])) ∧
    (∀ m c, getFirewallChainName rule.direction rule.action = some c →
      tooManyParameters rule = true →
      (((removeFirewallRule host allDone m rule family).2.chains c).filter
            (· ∉ ruleEntries host (chainRuleOf rule) family rule.logType) =
          (m.chains c).filter
            (· ∉ ruleEntries host (chainRuleOf rule) family rule.logType) ↔
        Rendered rule ∨ ∀ entry ∈ m.chains c,
          entry ∈ ruleEntries host (chainRuleOf rule) family rule.logType)) ∧
    (∀ chainNameList c, getRemoveChainName rule.direction rule.action = .ok chainNameList →
      (chainNameList.length > 1 && tooManyParameters rule) = false → c ∈ chainNameList →
      ((Flushes host family rule c → tooManyParameters rule = false) ↔
        tooManyParameters rule = false ∨ Rendered rule)) ∧
    ∀ outcomes m chainNameList,
      getRemoveChainName rule.direction rule.action = .ok chainNameList →
      (chainNameList.length > 1 && tooManyParameters rule) = false →
      (((removeFirewallRule host outcomes m rule family).1 = ERR_OK →
          Succeed host outcomes m.chains (requestCommands host rule family chainNameList)) ↔
        ∀ command ∈ requestCommands host rule family chainNameList,
          CarriedOut outcomes m.chains command) := by
  refine ⟨fun m c hname => ?_, fun m c hname hconstraint => ?_,
    fun chainNameList c hnames hmany hc => ?_, fun outcomes m chainNameList hnames hmany => ?_⟩
  · rw [removeFirewallRule_chain hcheck hname, addFirewallRule_chain hcheck hname]
    by_cases hrendered : Rendered rule
    · rw [if_pos hrendered, if_pos hrendered]
      exact Library.append_diff_eq_iff nodup_ruleEntries
    · rw [if_neg hrendered, if_neg hrendered]
      exact eq_comm
  · rw [removeFirewallRule_chain hcheck hname]
    by_cases hrendered : Rendered rule
    · rw [if_pos hrendered]
      exact iff_of_true (Library.filter_notMem_diff _ _) (.inl hrendered)
    · rw [if_neg hrendered, or_iff_right hrendered, List.filter_nil, eq_comm,
        List.filter_eq_nil_iff]
      simp only [decide_eq_true_eq, not_not]
  · by_cases hlength : chainNameList.length > 1
    · have hfree : tooManyParameters rule = false := by
        simpa only [hlength, decide_true, Bool.true_and] using hmany
      exact iff_of_true (fun _ => hfree) (.inl hfree)
    · obtain ⟨other, rfl⟩ := (getRemoveChainName_names hnames).2.2.resolve_left hlength
      obtain rfl := List.mem_singleton.mp hc
      have hname : getFirewallChainName rule.direction rule.action = some c := by
        revert hnames
        cases rule.direction <;> cases rule.action <;>
          simp [getRemoveChainName, getRemoveInputChainName, getRemoveOutputChainName,
            getRemoveForwardChainName, chainsOfAction, getFirewallChainName]
      rw [flushes_iff hcheck hname]
      by_cases hrendered : Rendered rule <;> simp [hrendered]
  · have hremoving : Removing rule chainNameList := ⟨hcheck, hnames, hmany⟩
    rw [hremoving.code, forall_prop_of_true rfl]
    exact hremoving.succeed_iff m.chains

end Requests

/-! ### Two rules -/

/-- A rule that denies what an application sends. -/
def denyUid : FirewallRule :=
  ⟨.output, .deny, .invalid, [], [], [], [], ascii "1000", .ipv4, .nflog⟩

/-- A rule that denies a protocol. -/
def denyTcp : FirewallRule := ⟨.output, .deny, .tcp, [], [], [], [], [], .ipv4, .invalid⟩

theorem firewallRemoval_exact_denyUid :
    (removeFirewallRule sampleHost allDone
      (addFirewallRule sampleHost allDone ⟨fun _ => [], fun _ => false⟩ denyUid .ipv4).2
      denyUid .ipv4).2.chains .denyOutput = [] :=
  ((firewallRemoval_exact sampleHost .ipv4 denyUid (by decide +kernel)).1
    ⟨fun _ => [], fun _ => false⟩ .denyOutput rfl).mpr
    ((if_pos (.inr (.inr (.inl (by decide +kernel))))).mpr
      (.absent fun _ _ => List.not_mem_nil))

/-- The removal of a rule for a protocol flushes the chain, and the removal of a rule that is not
there returns `ERR_OK`. -/
theorem firewallRemoval_flushes :
    ¬ (∀ rule, checkFirewallParams rule = true → tooManyParameters rule = true →
      ∀ m c, getFirewallChainName rule.direction rule.action = some c →
        ((removeFirewallRule sampleHost allDone m rule .ipv4).2.chains c).filter
            (· ∉ ruleEntries sampleHost (chainRuleOf rule) .ipv4 rule.logType) =
          (m.chains c).filter
            (· ∉ ruleEntries sampleHost (chainRuleOf rule) .ipv4 rule.logType)) ∧
    ¬ ∀ rule, checkFirewallParams rule = true → ∀ m chainNameList,
      getRemoveChainName rule.direction rule.action = .ok chainNameList →
        (removeFirewallRule sampleHost allDone m rule .ipv4).1 = ERR_OK →
          Succeed sampleHost allDone m.chains
            (requestCommands sampleHost rule .ipv4 chainNameList) := by
  constructor
  · intro h
    have hkept := h denyTcp (by decide +kernel) (by decide +kernel)
      ⟨fun _ => [targetEntry (chainRuleOf denyUid)], fun _ => false⟩ .denyOutput rfl
    revert hkept
    decide +kernel
  · intro h
    have hdone := h denyUid (by decide +kernel) ⟨fun _ => [], fun _ => false⟩ [.denyOutput] rfl rfl
    exact absurd hdone.1 (by decide +kernel)

end Edm.IPTABLES
