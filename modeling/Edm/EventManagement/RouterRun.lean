import Edm.EventManagement.PluginEventRouter

/-! Runs of the router.  Next to the router stands the history of what the plugins asked for: which
plugin is registered for which event.  The indexes of the router hold exactly that, and an event
reaches every plugin registered for it once. -/

set_option autoImplicit false

namespace Edm

open Library Library.UnorderedMap

/-- The plugin of a policy that is registered for an event. -/
abbrev Registrations := String → EventId → Option PluginEntry

/-- A registration that was accepted.  An earlier one of the same policy and event stays. -/
def Registrations.add (registered : Registrations) (args : PluginSubscription) : Registrations :=
  fun policyName eventId =>
    if policyName = args.policyName ∧ eventId = args.eventCode then
      (registered policyName eventId).or (some args.entry)
    else registered policyName eventId

def Registrations.remove (registered : Registrations) (policyName : String) (eventCode : EventId) :
    Registrations :=
  fun other eventId =>
    if other = policyName ∧ eventId = eventCode then none else registered other eventId

/-- The router, with what was accepted and not taken back since. -/
structure RouterHistory where
  router : PluginEventRouter
  registered : Registrations

inductive RouterOp where
  | subscribeEvent (args : PluginSubscription) (handle : Option UInt32)
  | unsubscribeEvent (policyName : String) (eventCode : EventId)
  | restorePluginSubscriptions (policyValue : String → String)
      (subscribePluginEvent : UInt32 → List (PluginSubscription × Option UInt32))

namespace RouterHistory

def new : RouterHistory := ⟨.new, fun _ _ => none⟩

variable (h : RouterHistory)

def subscribeEvent (call : PluginSubscription × Option UInt32) : RouterHistory :=
  let (accepted, router) := h.router.subscribeEvent call.1 call.2
  { router, registered := if accepted then h.registered.add call.1 else h.registered }

def unsubscribeEvent (policyName : String) (eventCode : EventId) : RouterHistory where
  router := (h.router.unsubscribeEvent policyName eventCode).2
  registered := h.registered.remove policyName eventCode

def subscribeAll (calls : List (PluginSubscription × Option UInt32)) : RouterHistory :=
  calls.foldl subscribeEvent h

def restorePluginSubscriptions (policyValue : String → String)
    (subscribePluginEvent : UInt32 → List (PluginSubscription × Option UInt32)) : RouterHistory :=
  subscribingPlugins.foldl (fun h info =>
    if policyValue info.2 = "" then h else h.subscribeAll (subscribePluginEvent info.1)) h

end RouterHistory

def routerStep (h : RouterHistory) : RouterOp → RouterHistory
  | .subscribeEvent args handle => h.subscribeEvent (args, handle)
  | .unsubscribeEvent policyName eventCode => h.unsubscribeEvent policyName eventCode
  | .restorePluginSubscriptions policyValue subscribePluginEvent =>
    h.restorePluginSubscriptions policyValue subscribePluginEvent

namespace RouterHistory

/-- The history follows the router through a restore. -/
theorem subscribeAll_router (h : RouterHistory)
    (calls : List (PluginSubscription × Option UInt32)) :
    (h.subscribeAll calls).router = h.router.subscribeAll calls := by
  induction calls generalizing h with
  | nil => rfl
  | cons call calls ih => exact ih (h.subscribeEvent call)

theorem restorePluginSubscriptions_router (h : RouterHistory) (policyValue : String → String)
    (subscribePluginEvent : UInt32 → List (PluginSubscription × Option UInt32)) :
    (h.restorePluginSubscriptions policyValue subscribePluginEvent).router =
      h.router.restorePluginSubscriptions policyValue subscribePluginEvent := by
  unfold restorePluginSubscriptions PluginEventRouter.restorePluginSubscriptions
  generalize subscribingPlugins = plugins
  induction plugins generalizing h with
  | nil => rfl
  | cons info plugins ih =>
    rw [List.foldl_cons, List.foldl_cons, ih]
    split
    · rfl
    · rw [subscribeAll_router]

/-- What holds of the router in every state. -/
structure Consistent (h : RouterHistory) : Prop where
  keys : ∀ key, (h.router.entries.lookup key).isSome = true ↔
    ∃ eventId group, h.router.eventGroupStates.lookup eventId = some group ∧
      key ∈ group.registeredKeys
  one_group : ∀ key eventId eventId' group group',
    h.router.eventGroupStates.lookup eventId = some group →
    h.router.eventGroupStates.lookup eventId' = some group' →
    key ∈ group.registeredKeys → key ∈ group'.registeredKeys → eventId = eventId'
  nodup : ∀ eventId group, h.router.eventGroupStates.lookup eventId = some group →
    group.registeredKeys.Nodup
  groups : ∀ eventId group, h.router.eventGroupStates.lookup eventId = some group →
    group.registeredKeys ≠ [] ∧ group.handle.isSome = true
  dispatch : ∀ eventId, ∃ policyNames : List String, policyNames.Nodup ∧
    (∀ policyName, policyName ∈ policyNames ↔ (h.registered policyName eventId).isSome = true) ∧
    h.router.onEventDispatch eventId =
      policyNames.filterMap fun policyName => h.registered policyName eventId

end RouterHistory

namespace PluginEventRouter

theorem makeKey_inj {policyName policyName' : String} {eventId eventId' : EventId} :
    makeKey policyName eventId = makeKey policyName' eventId' ↔
      policyName = policyName' ∧ eventId = eventId' := by
  unfold makeKey
  rw [append_separator_inj (c := ':') (by decide) (notMem_repr (by decide) _)
    (notMem_repr (by decide) _), Nat.repr_inj, UInt32.toNat_inj]

/-- The keys of an event. -/
def groupKeys (r : PluginEventRouter) (eventId : EventId) : List String :=
  (r.eventGroupStates.lookup eventId).elim [] RouterGroup.registeredKeys

end PluginEventRouter

namespace RouterHistory

open PluginEventRouter

/-- The invariant: both indexes hold the keys of the registrations and nothing else. -/
structure Indexed (h : RouterHistory) : Prop where
  entries : ∀ policyName eventId,
    h.router.entries.lookup (makeKey policyName eventId) = h.registered policyName eventId
  owned : ∀ key, (h.router.entries.lookup key).isSome = true →
    ∃ policyName eventId, key = makeKey policyName eventId
  keys : ∀ eventId key, key ∈ h.router.groupKeys eventId ↔
    ∃ policyName, key = makeKey policyName eventId ∧ (h.registered policyName eventId).isSome = true
  nodup : ∀ eventId, (h.router.groupKeys eventId).Nodup
  groups : ∀ eventId group, h.router.eventGroupStates.lookup eventId = some group →
    group.registeredKeys ≠ [] ∧ group.handle.isSome = true
  custom : h.router.customEventGroupStates = ∅

variable {h : RouterHistory}

theorem groupKeys_of_lookup {r : PluginEventRouter} {eventId : EventId} {group : RouterGroup}
    (hgroup : r.eventGroupStates.lookup eventId = some group) :
    r.groupKeys eventId = group.registeredKeys := by
  unfold groupKeys
  rw [hgroup]
  rfl

/-- The keys of an event, by the policies that they stand for. -/
theorem Indexed.policyNames (hindexed : h.Indexed) (eventId : EventId) :
    ∃ policyNames : List String, policyNames.Nodup ∧
      (∀ policyName, policyName ∈ policyNames ↔
        (h.registered policyName eventId).isSome = true) ∧
      policyNames.map (fun policyName => makeKey policyName eventId) =
        h.router.groupKeys eventId := by
  have hrange : h.router.groupKeys eventId ∈
      Set.range (List.map fun policyName => makeKey policyName eventId) := by
    rw [Set.range_list_map]
    intro key hkey
    obtain ⟨policyName, rfl, -⟩ := (hindexed.keys eventId key).mp hkey
    exact ⟨policyName, rfl⟩
  obtain ⟨policyNames, hnames⟩ := hrange
  refine ⟨policyNames, ?_, fun policyName => ?_, hnames⟩
  · exact List.Nodup.of_map _ (hnames ▸ hindexed.nodup eventId)
  · have hkeys := hindexed.keys eventId (makeKey policyName eventId)
    rw [← hnames, List.mem_map] at hkeys
    constructor
    · intro hmem
      obtain ⟨other, hother, hregistered⟩ := hkeys.mp ⟨policyName, hmem, rfl⟩
      rw [(makeKey_inj.mp hother).1]
      exact hregistered
    · intro hregistered
      obtain ⟨other, hmem, hother⟩ := hkeys.mpr ⟨policyName, rfl, hregistered⟩
      rw [← (makeKey_inj.mp hother).1]
      exact hmem

theorem Indexed.consistent (hindexed : h.Indexed) : h.Consistent where
  keys key := by
    constructor
    · intro hkey
      obtain ⟨policyName, eventId, rfl⟩ := hindexed.owned key hkey
      rw [hindexed.entries] at hkey
      have hmem := (hindexed.keys eventId _).mpr ⟨policyName, rfl, hkey⟩
      cases hgroup : h.router.eventGroupStates.lookup eventId with
      | none =>
        unfold groupKeys at hmem
        rw [hgroup] at hmem
        cases hmem
      | some group => exact ⟨eventId, group, hgroup, groupKeys_of_lookup hgroup ▸ hmem⟩
    · rintro ⟨eventId, group, hgroup, hmem⟩
      rw [← groupKeys_of_lookup hgroup] at hmem
      obtain ⟨policyName, rfl, hregistered⟩ := (hindexed.keys eventId key).mp hmem
      rw [hindexed.entries]
      exact hregistered
  one_group key eventId eventId' group group' hgroup hgroup' hkey hkey' := by
    rw [← groupKeys_of_lookup hgroup] at hkey
    rw [← groupKeys_of_lookup hgroup'] at hkey'
    obtain ⟨policyName, rfl, -⟩ := (hindexed.keys eventId key).mp hkey
    obtain ⟨policyName', hsame, -⟩ := (hindexed.keys eventId' _).mp hkey'
    exact (makeKey_inj.mp hsame).2
  nodup eventId group hgroup := by
    rw [← groupKeys_of_lookup hgroup]
    exact hindexed.nodup eventId
  groups := hindexed.groups
  dispatch eventId := by
    obtain ⟨policyNames, hnodup, hmem, hkeys⟩ := hindexed.policyNames eventId
    refine ⟨policyNames, hnodup, hmem, ?_⟩
    have hcustom : h.router.collectDispatchEntries eventId h.router.customEventGroupStates = [] := by
      unfold collectDispatchEntries
      rw [hindexed.custom, Finmap.lookup_empty]
    have hcollect : h.router.collectDispatchEntries eventId h.router.eventGroupStates =
        (h.router.groupKeys eventId).filterMap fun key => h.router.entries.lookup key := by
      unfold collectDispatchEntries groupKeys
      cases h.router.eventGroupStates.lookup eventId <;> rfl
    unfold onEventDispatch
    rw [hcustom, List.append_nil, hcollect, ← hkeys, List.filterMap_map]
    congr 1
    funext policyName
    exact hindexed.entries policyName eventId

theorem indexed_new : RouterHistory.new.Indexed where
  entries _ _ := rfl
  owned key hkey := nomatch hkey
  keys eventId key := by
    constructor
    · intro hmem
      cases hmem
    · rintro ⟨policyName, -, hregistered⟩
      cases hregistered
  nodup eventId := List.nodup_nil
  groups eventId group hgroup := nomatch hgroup
  custom := rfl

/-! ### The steps -/

theorem groupKeys_insert (r : PluginEventRouter) (eventCode eventId : EventId) (group : RouterGroup)
    (entries : UnorderedMap String PluginEntry) :
    groupKeys { r with entries, eventGroupStates := r.eventGroupStates.insert eventCode group }
        eventId =
      if eventId = eventCode then group.registeredKeys else r.groupKeys eventId := by
  unfold groupKeys
  rw [lookup_insert_eq]
  split <;> rfl

theorem groupKeys_erase (r : PluginEventRouter) (eventCode eventId : EventId)
    (entries : UnorderedMap String PluginEntry) :
    groupKeys { r with entries, eventGroupStates := r.eventGroupStates.erase eventCode } eventId =
      if eventId = eventCode then [] else r.groupKeys eventId := by
  unfold groupKeys
  rw [lookup_erase_eq]
  split <;> rfl

/-- The entries of a key that is added or taken away, in terms of policy and event. -/
theorem makeKey_ite {α : Type} (args : PluginSubscription) (policyName : String) (eventId : EventId)
    (a b : α) :
    (if makeKey policyName eventId = makeKey args.policyName args.eventCode then a else b) =
      if policyName = args.policyName ∧ eventId = args.eventCode then a else b := by
  simp only [makeKey_inj]

theorem add_eq_self {registered : Registrations} {args : PluginSubscription}
    (h : (registered args.policyName args.eventCode).isSome = true) :
    registered.add args = registered := by
  funext policyName eventId
  unfold Registrations.add
  split
  · rename_i heq
    obtain ⟨rfl, rfl⟩ := heq
    obtain ⟨entry, hentry⟩ := Option.isSome_iff_exists.mp h
    rw [hentry]
    rfl
  · rfl

theorem remove_eq_self {registered : Registrations} {policyName : String} {eventCode : EventId}
    (h : registered policyName eventCode = none) :
    registered.remove policyName eventCode = registered := by
  funext other eventId
  unfold Registrations.remove
  split
  · rename_i heq
    obtain ⟨rfl, rfl⟩ := heq
    exact h.symm
  · rfl

theorem Indexed.subscribeEvent (hindexed : h.Indexed)
    (call : PluginSubscription × Option UInt32) : (h.subscribeEvent call).Indexed := by
  obtain ⟨args, handle⟩ := call
  unfold RouterHistory.subscribeEvent PluginEventRouter.subscribeEvent
  have hentry := hindexed.entries args.policyName args.eventCode
  cases hlookup : h.router.entries.lookup (makeKey args.policyName args.eventCode) with
  | some entry =>
    -- the key is known, and what it stands for is registered
    simp only [hlookup, if_true]
    rw [hlookup] at hentry
    rw [add_eq_self (by rw [← hentry]; rfl)]
    exact hindexed
  | none =>
    rw [hlookup] at hentry
    simp only [hlookup]
    have hold : ((h.router.eventGroupStates.lookup args.eventCode).getD ⟨none, []⟩).registeredKeys =
        h.router.groupKeys args.eventCode := by
      unfold groupKeys
      cases h.router.eventGroupStates.lookup args.eventCode <;> rfl
    cases hhandle : ((h.router.eventGroupStates.lookup args.eventCode).getD ⟨none, []⟩).handle.or
        handle with
    | none =>
      -- the event has no group yet, so the group made for it goes again
      obtain ⟨hgroupHandle, -⟩ := Option.or_eq_none_iff.mp hhandle
      have hnone : h.router.eventGroupStates.lookup args.eventCode = none := by
        cases hgroup : h.router.eventGroupStates.lookup args.eventCode with
        | none => rfl
        | some group =>
          rw [hgroup] at hgroupHandle
          have hsome := (hindexed.groups args.eventCode group hgroup).2
          rw [show group.handle = none from hgroupHandle] at hsome
          cases hsome
      have herase : (h.router.entries.insert (makeKey args.policyName args.eventCode)
          args.entry).erase (makeKey args.policyName args.eventCode) = h.router.entries := by
        refine Finmap.ext_lookup fun key => ?_
        rw [lookup_erase_eq, lookup_insert_eq]
        split
        · rename_i heq
          rw [heq, hlookup]
        · rfl
      simp only [hnone, Option.getD_none, if_true, herase, erase_absent hnone, Bool.false_eq_true,
        if_false]
      exact hindexed
    | some shared =>
      simp only [if_true]
      rw [hold]
      have hadd : ∀ policyName eventId, h.registered.add args policyName eventId =
          if policyName = args.policyName ∧ eventId = args.eventCode then some args.entry
          else h.registered policyName eventId := by
        intro policyName eventId
        unfold Registrations.add
        split
        · rename_i heq
          rw [heq.1, heq.2, ← hentry]
          rfl
        · rfl
      refine ⟨?_, ?_, ?_, ?_, ?_, hindexed.custom⟩
      · intro policyName eventId
        rw [lookup_insert_eq, makeKey_ite, hindexed.entries]
        exact (hadd policyName eventId).symm
      · intro key hkey
        rw [lookup_insert_eq] at hkey
        split at hkey
        · rename_i heq
          exact ⟨args.policyName, args.eventCode, heq⟩
        · exact hindexed.owned key hkey
      · intro eventId key
        rw [groupKeys_insert]
        by_cases hevent : eventId = args.eventCode
        · subst hevent
          rw [if_pos rfl, List.mem_append, List.mem_singleton, hindexed.keys]
          constructor
          · rintro (⟨policyName, rfl, hregistered⟩ | rfl)
            · refine ⟨policyName, rfl, ?_⟩
              dsimp only
              rw [hadd]
              split
              · rfl
              · exact hregistered
            · refine ⟨args.policyName, rfl, ?_⟩
              dsimp only
              rw [hadd, if_pos ⟨rfl, rfl⟩]
              rfl
          · rintro ⟨policyName, rfl, hregistered⟩
            dsimp only at hregistered
            rw [hadd] at hregistered
            split at hregistered
            · rename_i heq
              exact .inr (by rw [heq.1])
            · exact .inl ⟨policyName, rfl, hregistered⟩
        · rw [if_neg hevent, hindexed.keys]
          refine exists_congr fun policyName => and_congr_right fun _ => ?_
          dsimp only
          rw [hadd, if_neg fun heq => hevent heq.2]
      · intro eventId
        rw [groupKeys_insert]
        split
        · refine List.nodup_append.mpr ⟨hindexed.nodup args.eventCode, List.nodup_singleton _, ?_⟩
          intro key hkey other hother heq
          rw [List.mem_singleton.mp hother] at heq
          obtain ⟨policyName, hname, hregistered⟩ := (hindexed.keys args.eventCode key).mp hkey
          rw [heq] at hname
          rw [← (makeKey_inj.mp hname).1, ← hentry] at hregistered
          cases hregistered
        · exact hindexed.nodup eventId
      · intro eventId group hgroup
        rw [lookup_insert_eq] at hgroup
        split at hgroup
        · cases hgroup
          exact ⟨List.append_ne_nil_of_right_ne_nil _ (List.cons_ne_nil _ _), rfl⟩
        · exact hindexed.groups eventId group hgroup

theorem Indexed.unsubscribeEvent (hindexed : h.Indexed) (policyName : String)
    (eventCode : EventId) : (h.unsubscribeEvent policyName eventCode).Indexed := by
  unfold RouterHistory.unsubscribeEvent PluginEventRouter.unsubscribeEvent
  have hentry := hindexed.entries policyName eventCode
  cases hlookup : h.router.entries.lookup (makeKey policyName eventCode) with
  | none =>
    rw [hlookup] at hentry
    simp only [hlookup]
    rw [remove_eq_self hentry.symm]
    exact hindexed
  | some entry =>
    rw [hlookup] at hentry
    simp only [hlookup]
    have hmem : makeKey policyName eventCode ∈ h.router.groupKeys eventCode :=
      (hindexed.keys eventCode _).mpr ⟨policyName, rfl, by rw [← hentry]; rfl⟩
    have hentries : ∀ other eventId,
        (h.router.entries.erase (makeKey policyName eventCode)).lookup (makeKey other eventId) =
          h.registered.remove policyName eventCode other eventId := by
      intro other eventId
      rw [lookup_erase_eq, hindexed.entries]
      simp only [makeKey_inj, Registrations.remove]
    have howned : ∀ key, ((h.router.entries.erase (makeKey policyName eventCode)).lookup
        key).isSome = true → ∃ other eventId, key = makeKey other eventId := by
      intro key hkey
      rw [lookup_erase_eq] at hkey
      split at hkey
      · cases hkey
      · exact hindexed.owned key hkey
    have hkeys : ∀ eventId key, (key ∈ if eventId = eventCode then
        (h.router.groupKeys eventCode).filter fun other => other != makeKey policyName eventCode
        else h.router.groupKeys eventId) ↔ ∃ other, key = makeKey other eventId ∧
          (h.registered.remove policyName eventCode other eventId).isSome = true := by
      intro eventId key
      by_cases hevent : eventId = eventCode
      · subst hevent
        rw [if_pos rfl, List.mem_filter, hindexed.keys, bne_iff_ne]
        constructor
        · rintro ⟨⟨other, rfl, hregistered⟩, hne⟩
          refine ⟨other, rfl, ?_⟩
          unfold Registrations.remove
          rw [if_neg fun heq => hne (by rw [heq.1])]
          exact hregistered
        · rintro ⟨other, rfl, hregistered⟩
          unfold Registrations.remove at hregistered
          split at hregistered
          · cases hregistered
          · rename_i hne
            exact ⟨⟨other, rfl, hregistered⟩, fun heq => hne (makeKey_inj.mp heq)⟩
      · rw [if_neg hevent, hindexed.keys]
        refine exists_congr fun other => and_congr_right fun _ => ?_
        unfold Registrations.remove
        rw [if_neg fun heq => hevent heq.2]
    have hnodup : ∀ eventId, (if eventId = eventCode then (h.router.groupKeys eventCode).filter
        fun other => other != makeKey policyName eventCode
        else h.router.groupKeys eventId).Nodup := by
      intro eventId
      split
      · exact (hindexed.nodup eventCode).filter _
      · exact hindexed.nodup eventId
    cases hgroup : h.router.eventGroupStates.lookup eventCode with
    | none =>
      unfold groupKeys at hmem
      rw [hgroup] at hmem
      cases hmem
    | some group =>
      dsimp only
      rw [← groupKeys_of_lookup hgroup]
      by_cases hempty : ((h.router.groupKeys eventCode).filter
          fun other => other != makeKey policyName eventCode) = []
      · rw [if_pos hempty]
        rw [hempty] at hkeys hnodup
        refine ⟨hentries, howned, fun eventId key => ?_, fun eventId => ?_, ?_, hindexed.custom⟩
        · rw [groupKeys_erase]
          exact hkeys eventId key
        · rw [groupKeys_erase]
          exact hnodup eventId
        · intro eventId other hother
          rw [lookup_erase_eq] at hother
          split at hother
          · cases hother
          · exact hindexed.groups eventId other hother
      · rw [if_neg hempty]
        refine ⟨hentries, howned, fun eventId key => ?_, fun eventId => ?_, ?_, hindexed.custom⟩
        · rw [groupKeys_insert]
          exact hkeys eventId key
        · rw [groupKeys_insert]
          exact hnodup eventId
        · intro eventId other hother
          rw [lookup_insert_eq] at hother
          split at hother
          · cases hother
            exact ⟨hempty, (hindexed.groups eventCode group hgroup).2⟩
          · exact hindexed.groups eventId other hother

theorem Indexed.subscribeAll (hindexed : h.Indexed)
    (calls : List (PluginSubscription × Option UInt32)) : (h.subscribeAll calls).Indexed := by
  induction calls generalizing h with
  | nil => exact hindexed
  | cons call calls ih => exact ih (hindexed.subscribeEvent call)

theorem Indexed.restorePluginSubscriptions (hindexed : h.Indexed) (policyValue : String → String)
    (subscribePluginEvent : UInt32 → List (PluginSubscription × Option UInt32)) :
    (h.restorePluginSubscriptions policyValue subscribePluginEvent).Indexed := by
  unfold RouterHistory.restorePluginSubscriptions
  generalize subscribingPlugins = plugins
  induction plugins generalizing h with
  | nil => exact hindexed
  | cons info plugins ih =>
    rw [List.foldl_cons]
    apply ih
    split
    · exact hindexed
    · exact hindexed.subscribeAll _

theorem Indexed.step (hindexed : h.Indexed) (op : RouterOp) : (routerStep h op).Indexed := by
  cases op with
  | subscribeEvent args handle => exact hindexed.subscribeEvent (args, handle)
  | unsubscribeEvent policyName eventCode =>
    exact hindexed.unsubscribeEvent policyName eventCode
  | restorePluginSubscriptions policyValue subscribePluginEvent =>
    exact hindexed.restorePluginSubscriptions policyValue subscribePluginEvent

end RouterHistory

/-- Keys tell policies and events apart, and the router is consistent in every state of a run. -/
theorem router_consistent (ops : List RouterOp) :
    (∀ policyName policyName' eventId eventId',
      PluginEventRouter.makeKey policyName eventId = PluginEventRouter.makeKey policyName' eventId' →
        policyName = policyName' ∧ eventId = eventId') ∧
      Always routerStep RouterHistory.Consistent .new ops :=
  ⟨fun _ _ _ _ h => PluginEventRouter.makeKey_inj.mp h,
    (always_of_step (fun _ op hindexed => hindexed.step op) RouterHistory.indexed_new ops).mono
      fun _ hindexed => hindexed.consistent⟩

/-- Two plugins of different codes subscribe to one event under one policy name: both calls succeed,
and only the first plugin is called. -/
theorem second_plugin_not_called :
    let first : PluginSubscription := ⟨"policy", ManagedEvent.APP_START, 1, false, false⟩
    let second : PluginSubscription := ⟨"policy", ManagedEvent.APP_START, 2, false, false⟩
    (PluginEventRouter.new.subscribeEvent first (some 1)).1 = true ∧
      ((PluginEventRouter.new.subscribeEvent first (some 1)).2.subscribeEvent second (some 2)).1 =
        true ∧
      ((PluginEventRouter.new.subscribeEvent first (some 1)).2.subscribeEvent second
        (some 2)).2.onEventDispatch ManagedEvent.APP_START = [first.entry] := by
  decide

end Edm
