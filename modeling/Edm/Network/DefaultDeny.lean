import Edm.Network.IptablesManager

/-! The chains that deny by default and the rules that allow something.  A request that adds or
removes a rule keeps the two in step unless commands for them have different outcomes. -/

set_option autoImplicit false

namespace Edm.IPTABLES

/-! ### Chains -/

namespace DefaultDeny

end DefaultDeny

/-- A rule that allows something is there. -/
def DefaultDeny.Allowed (deny : DefaultDeny) (chains : Chains) : Prop :=
  ∃ c ∈ deny.allowChains, chains c ≠ []

/-- The rules of a chain that denies by default, without the one that accepts known connections. -/
def DefaultDeny.denyRules (deny : DefaultDeny) (family : Family) : List ChainRule :=
  (deny.rules family).filter fun rule => rule.target = DROP_TARGET

section Steps

variable {host : Host} {outcomes : Outcomes} {m : IptablesManager} {deny : DefaultDeny}
  {family : Family} {direction : Direction}

theorem setDefaultDenyChain_of_ne {chains : Chains} {c : ChainName} (h : c ≠ deny.chain) :
    setDefaultDenyChain host outcomes chains deny family c = chains c := by
  have hall : ∀ (rules : List ChainRule) (chains : Chains),
      rules.foldl (fun chains rule => (add host outcomes chains deny.chain rule family .invalid).2)
        chains c = chains c := by
    intro rules
    induction rules with
    | nil => exact fun _ => rfl
    | cons rule rules ih => exact fun chains => (ih _).trans (add_of_ne h)
  exact hall _ _

theorem ensureDefaultDeny_of_ne {c : ChainName} (h : c ≠ deny.chain) :
    (ensureDefaultDeny host outcomes m deny direction family).chains c = m.chains c := by
  unfold ensureDefaultDeny
  split
  · split
    · exact setDefaultDenyChain_of_ne h
    · rfl
  · rfl

/-- The commands for the default rules and for the rule that allows something agree, unless there is
such a rule already. -/
def AddKeeps (outcomes : Outcomes) (family : Family) (sets : DefaultDeny → Prop)
    (m : IptablesManager) (c : ChainName) (rule : ChainRule) : Prop :=
  ∀ deny : DefaultDeny, c ∈ deny.allowChains → deny.Allowed m.chains ∨
    ∀ dropping ∈ deny.denyRules family,
      (sets deny ∧ outcomes (.append deny.chain (targetEntry dropping)) = ERR_OK ↔
        outcomes (.append c (targetEntry rule)) = ERR_OK)

section Addition

variable {c : ChainName} {sets : DefaultDeny → Prop} {m₁ : IptablesManager} {rule : ChainRule}
  {logType : LogType}

end Addition

/-! ### Removals -/

section Removal

variable {chainNameList : List ChainName} {rule : Option ChainRule} {logType : LogType}

theorem removeFromChains_of_notMem {chains : Chains} {c : ChainName} (h : c ∉ chainNameList) :
    removeFromChains host outcomes chains chainNameList rule family logType c = chains c := by
  induction chainNameList generalizing chains with
  | nil => rfl
  | cons first rest ih =>
    obtain ⟨hfirst, hrest⟩ := not_or.mp (mt List.mem_cons.mpr h)
    exact (ih hrest).trans (remove_of_ne hfirst)

theorem removeFromChains_congr {chains chains' : Chains} {c : ChainName}
    (h : chains c = chains' c) :
    removeFromChains host outcomes chains chainNameList rule family logType c =
      removeFromChains host outcomes chains' chainNameList rule family logType c := by
  induction chainNameList generalizing chains chains' with
  | nil => exact h
  | cons first rest ih => exact ih (remove_congr h)

theorem removeFromChains_of_mem {chains : Chains} {c : ChainName} (hnodup : chainNameList.Nodup)
    (h : c ∈ chainNameList) :
    removeFromChains host outcomes chains chainNameList rule family logType c =
      (remove host outcomes chains c rule family logType).2 c := by
  induction chainNameList generalizing chains with
  | nil => exact absurd h List.not_mem_nil
  | cons first rest ih =>
    obtain ⟨hfirst, hrest⟩ := List.nodup_cons.mp hnodup
    by_cases heq : c = first
    · subst heq
      exact removeFromChains_of_notMem hfirst
    · have hin : c ∈ rest := (List.mem_cons.mp h).resolve_left heq
      exact (ih hrest hin).trans (remove_congr (remove_of_ne heq))

/-- The request's command takes all rules of the chain. -/
def Empties (outcomes : Outcomes) (rule : Option ChainRule) (c : ChainName) (entries : List Entry) :
    Prop :=
  match rule with
  | none => outcomes (.flush c) = ERR_OK
  | some rule =>
    if (rule.parameter true).isEmpty then outcomes (.flush c) = ERR_OK
    else outcomes (.delete c (targetEntry rule)) = ERR_OK ∧ entries = [targetEntry rule]

/-- A rule of the chain is still there after the request's commands. -/
def Remains (outcomes : Outcomes) (m : IptablesManager) (chainNameList : List ChainName)
    (rule : Option ChainRule) (c : ChainName) : Prop :=
  m.chains c ≠ [] ∧ ¬ (c ∈ chainNameList ∧ Empties outcomes rule c (m.chains c))

/-- The request lifts the default rules exactly when no rule of theirs that allows something is
left: while there is one, some chain with such a rule can be listed or the flush fails, and
otherwise the flush succeeds. -/
def RemoveKeeps (outcomes : Outcomes) (m : IptablesManager) (chainNameList : List ChainName)
    (rule : Option ChainRule) (deny : DefaultDeny) : Prop :=
  deny.Allowed m.chains →
    ((∃ c ∈ deny.allowChains, Remains outcomes m chainNameList rule c) ↔
      (∃ c ∈ deny.allowChains, Remains outcomes m chainNameList rule c ∧
        outcomes (.list c) = ERR_OK) ∨ outcomes (.flush deny.chain) ≠ ERR_OK)

theorem remove_accept {chains : Chains} {c : ChainName}
    (haccept : ∀ other, rule = some other → other.target = ACCEPT_TARGET) :
    (remove host outcomes chains c rule family logType).2 c =
      match rule with
      | none => if outcomes (.flush c) = ERR_OK then [] else chains c
      | some rule =>
        if (rule.parameter true).isEmpty then
          if outcomes (.flush c) = ERR_OK then [] else chains c
        else if outcomes (.delete c (targetEntry rule)) = ERR_OK then
          (chains c).erase (targetEntry rule)
        else chains c := by
  cases rule with
  | none => exact @execute_flush host outcomes chains c
  | some rule =>
    by_cases hempty : (rule.parameter true).isEmpty = true
    · rw [remove_empty hempty]
      show _ = if _ then _ else _
      rw [if_pos hempty]
      exact execute_flush chains c
    · rw [remove_nonempty hempty, execWithOption, logEntries_of_accept (haccept rule rfl)]
      show _ = if _ then _ else _
      rw [if_neg hempty]
      exact execute_delete chains c (targetEntry rule)

theorem remove_accept_sublist {chains : Chains} {c : ChainName}
    (haccept : ∀ other, rule = some other → other.target = ACCEPT_TARGET) :
    ((remove host outcomes chains c rule family logType).2 c).Sublist (chains c) := by
  rw [remove_accept haccept]
  split
  · split
    · exact List.nil_sublist _
    · exact List.Sublist.refl _
  · split
    · split
      · exact List.nil_sublist _
      · exact List.Sublist.refl _
    · split
      · exact List.erase_sublist
      · exact List.Sublist.refl _

theorem clearDefaultDeny_of_ne {c : ChainName} (h : c ≠ deny.chain) :
    (clearDefaultDeny host outcomes m deny family).chains c = m.chains c := by
  unfold clearDefaultDeny
  split
  · exact remove_of_ne h
  · rfl

variable {deny₁ deny₂ : DefaultDeny}

/-- The chains after a removal. -/
def cleared (host : Host) (outcomes : Outcomes) (m : IptablesManager) (deny₁ deny₂ : DefaultDeny)
    (family : Family) : IptablesManager :=
  clearDefaultDeny host outcomes (clearDefaultDeny host outcomes m deny₁ family) deny₂ family

theorem cleared_of_ne {c : ChainName} (h₁ : c ≠ deny₁.chain) (h₂ : c ≠ deny₂.chain) :
    (cleared host outcomes m deny₁ deny₂ family).chains c = m.chains c :=
  (clearDefaultDeny_of_ne h₂).trans (clearDefaultDeny_of_ne h₁)

/-- What a removal asks of its chains: they are different, none is a default chain, and a rule that
is deleted from a chain of rules that allow something allows something itself. -/
structure Removes (chainNameList : List ChainName) (rule : Option ChainRule)
    (deny₁ deny₂ : DefaultDeny) : Prop where
  ne : deny₁ ≠ deny₂
  nodup : chainNameList.Nodup
  chain : ∀ deny : DefaultDeny, deny.chain ∉ chainNameList
  accept : ∀ other, rule = some other → ∀ deny : DefaultDeny, ∀ c ∈ deny.allowChains,
    c ∈ chainNameList → other.target = ACCEPT_TARGET
  others : ∀ deny, deny ≠ deny₁ → deny ≠ deny₂ → ∀ c ∈ deny.allowChains, c ∉ chainNameList

variable (h : Removes chainNameList rule deny₁ deny₂)

include h

theorem Removes.sublist {c : ChainName} (hc : c ∈ deny.allowChains) (chains : Chains) :
    (removeFromChains host outcomes chains chainNameList rule family logType c).Sublist
      (chains c) := by
  by_cases hin : c ∈ chainNameList
  · rw [removeFromChains_of_mem h.nodup hin]
    exact remove_accept_sublist fun other hother => h.accept other hother deny c hc hin
  · rw [removeFromChains_of_notMem hin]

end Removal

/-! ### Chains of removals -/

/-- The rule of a removal, with `none` where its chains are flushed without one. -/
def removedRule (chainNameList : List ChainName) (rule : ChainRule) : Option ChainRule :=
  if chainNameList.length > 1 then none else some rule

end Steps

end Edm.IPTABLES
