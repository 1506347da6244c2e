import Edm.Ability.Device
import Edm.EventManagement.RouterRun

/-! The events of the plugins next to the policies that they serve.  A plugin asks `PluginEventRouter`
for its events when an update leaves a user a combined policy, and gives them up when an update, an
event or the removal of an admin leaves a user none. -/

set_option autoImplicit false

namespace Edm

open Library Library.UnorderedMap

/-- What becomes of the subscriptions of a plugin. -/
inductive EventCall where
  | keep
  | subscribeEvent
  | unsubscribeEvent
  deriving DecidableEq, Repr

/-- What the plugin of a policy subscribes to. -/
def policySubscriptions (policyName : String) : List PluginSubscription :=
  (subscribingPlugins.find? fun info => info.2 = policyName).elim [] fun info =>
    pluginSubscriptions info.1

namespace PluginManager

variable {Modules Req Reply Event : Type} (plugin : Plugin Modules Req Reply Event)
  (s : PluginState Modules)

/-- The subscriptions after `UpdateDevicePolicy`. -/
def updateDevicePolicyEvents (bundleName : String) (req : Req) : EventCall :=
  let (ret, _, handled) :=
    plugin.onHandlePolicy s.store.manager s.modules req (handlePolicyData plugin s bundleName)
  if failed ret then .keep
  else if plugin.needSave && handled.isChanged then
    if handled.mergePolicyData = "" then .unsubscribeEvent else .subscribeEvent
  else .keep

/-- The subscriptions after `RemoveAdminItem`. -/
def removeAdminItemEvents (writes : Writes) (reply : Reply) (adminName policyValue : String) :
    EventCall :=
  let (ret, s) := removeAdminItem plugin s writes reply adminName policyValue
  if failed ret then .keep
  else if s.store.manager.policyValue "" plugin.policyName = "" then .unsubscribeEvent
  else .keep

/-- The combined policy that an event leaves, from one entry of the snapshot. -/
def eventMerge (event : Event) (adminName adminValue : String) : String :=
  (plugin.onPluginEvent
    { policyData := adminValue
      mergePolicyData := plugin.getOthersMergePolicyData s.store.manager adminName
      isChanged := false } event).mergePolicyData

/-- The subscriptions after the step of `DispatchForAdmins` for one entry. -/
def dispatchForAdminEvents (event : Event) (adminName adminValue : String) : EventCall :=
  if plugin.needSave && eventMerge plugin s event adminName adminValue = "" then .unsubscribeEvent
  else .keep

section

variable {plugin s} {bundleName : String} {req : Req} {ret : ErrCode} {modules : Modules}
  {handled : HandlePolicyData}

theorem updateDevicePolicyEvents_changed
    (h : plugin.onHandlePolicy s.store.manager s.modules req
      (handlePolicyData plugin s bundleName) = (ERR_OK, modules, handled))
    (hchanged : (plugin.needSave && handled.isChanged) = true) :
    updateDevicePolicyEvents plugin s bundleName req =
      if handled.mergePolicyData = "" then .unsubscribeEvent else .subscribeEvent := by
  have hok : failed ERR_OK = false := by decide
  simp only [updateDevicePolicyEvents, h, hok, hchanged, Bool.false_eq_true, if_false, if_true]

theorem updateDevicePolicyEvents_unchanged
    (h : plugin.onHandlePolicy s.store.manager s.modules req
      (handlePolicyData plugin s bundleName) = (ret, modules, handled))
    (hunchanged : failed ret = true ∨ (plugin.needSave && handled.isChanged) = false) :
    updateDevicePolicyEvents plugin s bundleName req = .keep := by
  simp only [updateDevicePolicyEvents, h]
  rcases hunchanged with hret | hchanged
  · rw [if_pos hret]
  · rw [if_neg (Bool.eq_false_iff.mp hchanged), ite_self]

variable (plugin s)

theorem dispatchForAdmin_saved (writes : Writes) (event : Event) (adminName adminValue : String)
    (hsave : plugin.needSave = true) :
    ∃ v, (dispatchForAdmin plugin s writes event adminName adminValue).store =
      (s.store.setPolicy writes adminName plugin.policyName v
        (eventMerge plugin s event adminName adminValue)).2 := by
  unfold dispatchForAdmin
  dsimp only
  rw [if_pos hsave]
  exact ⟨_, rfl⟩

theorem dispatchForAdmin_unsaved (writes : Writes) (event : Event)
    (adminName adminValue : String) (hsave : plugin.needSave = false) :
    (dispatchForAdmin plugin s writes event adminName adminValue).store = s.store := by
  unfold dispatchForAdmin
  dsimp only
  rw [if_neg (Bool.eq_false_iff.mp hsave)]

/-- A removal, in terms of what becomes of its `SetPolicy`. -/
theorem removeAdminItem_of_setPolicy (writes : Writes) (reply : Reply)
    (adminName policyValue : String) {r : ErrCode × UserStore}
    (hr : (if plugin.needSave then
        if isEmpty (s.store.manager.adminValues plugin.policyName) then
          s.store.setPolicy writes "" plugin.policyName "" ""
        else s.store.setPolicy writes adminName plugin.policyName ""
          (plugin.getOthersMergePolicyData s.store.manager adminName)
      else (ERR_OK, s.store)) = r) :
    (removeAdminItem plugin s writes reply adminName policyValue).2.store = r.2 ∧
      removeAdminItemEvents plugin s writes reply adminName policyValue =
        if failed r.1 = false ∧ r.2.manager.policyValue "" plugin.policyName = "" then
          .unsubscribeEvent
        else .keep := by
  unfold removeAdminItemEvents removeAdminItem
  simp only [hr]
  cases hcode : failed r.1 with
  | true =>
    refine ⟨rfl, ?_⟩
    simp only [if_true, Bool.true_eq_false, false_and, if_false]
    rfl
  | false =>
    refine ⟨rfl, ?_⟩
    simp only [Bool.false_eq_true, if_false, true_and]
    rfl

end

end PluginManager

namespace PluginEventRouter

variable (r : PluginEventRouter)

def unsubscribeAll (args : List PluginSubscription) : PluginEventRouter :=
  args.foldl (fun r args => (r.unsubscribeEvent args.policyName args.eventCode).2) r

/-- `handles` tells what the `Subscribe` of each event gives, if it is called. -/
def eventCall (handles : PluginSubscription → Option UInt32) (policyName : String) :
    EventCall → PluginEventRouter
  | .keep => r
  | .subscribeEvent =>
    r.subscribeAll ((policySubscriptions policyName).map fun args => (args, handles args))
  | .unsubscribeEvent => r.unsubscribeAll (policySubscriptions policyName)

end PluginEventRouter

/-- The service with the router of its plugins. -/
structure EventDevice (Modules : Type) where
  device : Device Modules
  router : PluginEventRouter

/-- What the three calls of a plugin do, with what becomes of their statements and subscriptions.
`restart` builds the service anew from its tables: `reads` tells which of the queries of each user
succeed, `loads` which plugins can be loaded, `admins` and `modules` what else it starts from. -/
inductive EventOp (Modules Req Reply Event : Type) where
  | updateDevicePolicy (writes : Writes) (handles : PluginSubscription → Option UInt32)
      (code : UInt32) (bundleName : String) (request : Req) (userId : Int)
  | removeAdminItem (writes : Writes) (reply : Reply) (adminName policyName policyValue : String)
      (userId : Int)
  | dispatchForAdmins (writes : String → Writes) (code : UInt32) (event : Event) (userId : Int)
  | restart (reads : Int → Reads) (loads : UInt32 → Bool)
      (handles : PluginSubscription → Option UInt32) (admins : AdminState) (modules : Modules)

namespace EventDevice

variable {Modules Req Reply Event : Type}

def boot (modules : Modules) : EventDevice Modules := ⟨Device.boot modules, .new⟩

variable (plugins : PluginTable Modules Req Reply Event) (d : EventDevice Modules)

def updateDevicePolicy (writes : Writes) (handles : PluginSubscription → Option UInt32)
    (code : UInt32) (bundleName : String) (request : Req) (userId : Int) : EventDevice Modules where
  device := (plugins.updateDevicePolicy d.device writes code bundleName request userId).2
  router :=
    match plugins.getPluginByFuncCode code with
    | none => d.router
    | some plugin =>
      d.router.eventCall handles plugin.policyName (PluginManager.updateDevicePolicyEvents
        (plugin.forUser d.device.policies.manager userId)
        (d.device.pluginState plugin.policyName userId) bundleName request)

def removeAdminItem (writes : Writes) (reply : Reply) (adminName policyName policyValue : String)
    (userId : Int) : EventDevice Modules where
  device := (plugins.removeAdminItem d.device writes reply adminName policyName policyValue userId).2
  router :=
    match plugins.pluginsName policyName with
    | none => d.router
    | some plugin =>
      d.router.eventCall (fun _ => none) policyName (PluginManager.removeAdminItemEvents
        (plugin.forUser d.device.policies.manager userId) (d.device.pluginState policyName userId)
        writes reply adminName policyValue)

/-- The step of `DispatchForAdmins` for one entry of the snapshot. -/
def dispatchForAdmin (plugin : RegisteredPlugin Modules Req Reply Event)
    (writes : String → Writes) (event : Event) (userId : Int) (entry : String × String) :
    EventDevice Modules where
  device := d.device.setPluginState plugin.policyName userId
    (PluginManager.dispatchForAdmin (plugin.forUser d.device.policies.manager userId)
      (d.device.pluginState plugin.policyName userId) (writes entry.1) event entry.1 entry.2)
  router := d.router.eventCall (fun _ => none) plugin.policyName
    (PluginManager.dispatchForAdminEvents (plugin.forUser d.device.policies.manager userId)
      (d.device.pluginState plugin.policyName userId) event entry.1 entry.2)

/-- The entries that `DispatchForAdmins` goes through. -/
def dispatchEntries (order : HashOrder) (plugin : RegisteredPlugin Modules Req Reply Event)
    (userId : Int) : List (String × String) :=
  order.entries ((d.device.policies.manager userId).adminValues plugin.policyName)

def dispatchForAdmins (order : HashOrder) (writes : String → Writes) (code : UInt32)
    (event : Event) (userId : Int) : EventDevice Modules :=
  match plugins.pluginsCode code with
  | none => d
  | some plugin =>
    (d.dispatchEntries order plugin userId).foldl
      (fun d entry => d.dispatchForAdmin plugin writes event userId entry) d

/-- What a restart reads back of the policies. -/
def reloadPolicies (reads : Int → Reads) : Stores where
  tables := d.device.policies.tables
  manager userId :=
    ((⟨UserPolicyManager.new userId, d.device.policies.tables⟩ : UserStore).init (reads userId)).manager

def restart (reads : Int → Reads) (loads : UInt32 → Bool)
    (handles : PluginSubscription → Option UInt32) (admins : AdminState) (modules : Modules) :
    EventDevice Modules where
  device := { policies := d.reloadPolicies reads, admins, modules, subscribed := fun _ => false }
  router := PluginEventRouter.new.restorePluginSubscriptions
    (fun policyName =>
      ((d.reloadPolicies reads).manager DEFAULT_USER_ID).policyValue "" policyName)
    fun policyCode =>
      if loads policyCode then (pluginSubscriptions policyCode).map fun args => (args, handles args)
      else []

/-- The combined policy of a user. -/
def combined (userId : Int) (policyName : String) : String :=
  (d.device.policies.manager userId).policyValue "" policyName

/-- Some user has a combined policy. -/
def Held (policyName : String) : Prop := ∃ userId, d.combined userId policyName ≠ ""

/-- Some user other than `userId` has a combined policy. -/
def HeldElsewhere (policyName : String) (userId : Int) : Prop :=
  ∃ other, other ≠ userId ∧ d.combined other policyName ≠ ""

end EventDevice

/-- The router passes the event on to the plugin. -/
def PluginEventRouter.Registered (r : PluginEventRouter) (args : PluginSubscription) : Prop :=
  (r.entries.lookup (makeKey args.policyName args.eventCode)).isSome = true

/-- A plugin gets its events exactly while some user has a combined policy. -/
def EventDevice.EventsKept {Modules : Type} (d : EventDevice Modules) : Prop :=
  ∀ policyName args, args ∈ policySubscriptions policyName →
    (d.router.Registered args ↔ d.Held policyName)

def eventStep {Modules Req Reply Event : Type} (order : HashOrder)
    (plugins : PluginTable Modules Req Reply Event) (d : EventDevice Modules) :
    EventOp Modules Req Reply Event → EventDevice Modules
  | .updateDevicePolicy writes handles code bundleName request userId =>
    d.updateDevicePolicy plugins writes handles code bundleName request userId
  | .removeAdminItem writes reply adminName policyName policyValue userId =>
    d.removeAdminItem plugins writes reply adminName policyName policyValue userId
  | .dispatchForAdmins writes code event userId =>
    d.dispatchForAdmins plugins order writes code event userId
  | .restart reads loads handles admins modules => d.restart reads loads handles admins modules

/-- The device takes the steps that it takes without the router. -/
theorem EventDevice.dispatchForAdmins_device {Modules Req Reply Event : Type} (order : HashOrder)
    (plugins : PluginTable Modules Req Reply Event) (d : EventDevice Modules)
    (writes : String → Writes) (code : UInt32) (event : Event) (userId : Int) :
    (d.dispatchForAdmins plugins order writes code event userId).device =
      plugins.dispatchForAdmins d.device order writes code event userId := by
  unfold EventDevice.dispatchForAdmins PluginTable.dispatchForAdmins dispatchEntries
  cases plugins.pluginsCode code with
  | none => rfl
  | some plugin =>
    dsimp only
    generalize order.entries _ = entries
    induction entries generalizing d with
    | nil => rfl
    | cons entry entries ih =>
      exact ih (d.dispatchForAdmin plugin writes event userId entry)

/-! ### The subscriptions of a plugin -/

theorem subscribingPlugins_names : ∀ info ∈ subscribingPlugins,
    policySubscriptions info.2 = pluginSubscriptions info.1 ∧
      ∀ args ∈ pluginSubscriptions info.1, args.policyName = info.2 := by
  decide

theorem mem_policySubscriptions {policyName : String} {args : PluginSubscription}
    (h : args ∈ policySubscriptions policyName) :
    ∃ info, info ∈ subscribingPlugins ∧ info.2 = policyName ∧
      args ∈ pluginSubscriptions info.1 := by
  unfold policySubscriptions at h
  cases hfind : subscribingPlugins.find? fun info => info.2 = policyName with
  | none =>
    rw [hfind] at h
    cases h
  | some info =>
    rw [hfind] at h
    have hname := List.find?_some hfind
    exact ⟨info, List.mem_of_find?_eq_some hfind, of_decide_eq_true hname, h⟩

theorem policySubscriptions_policyName {policyName : String} {args : PluginSubscription}
    (h : args ∈ policySubscriptions policyName) : args.policyName = policyName := by
  obtain ⟨info, hinfo, rfl, hargs⟩ := mem_policySubscriptions h
  exact (subscribingPlugins_names info hinfo).2 args hargs

namespace PluginEventRouter

variable {r : PluginEventRouter} {args other : PluginSubscription}

/-- The handle of the group of an event. -/
def groupHandle (r : PluginEventRouter) (eventCode : EventId) : Option UInt32 :=
  ((r.eventGroupStates.lookup eventCode).getD ⟨none, []⟩).handle

/-- The event gets through to the router, now or when the plugin asks for it. -/
def Obtains (r : PluginEventRouter) (handles : PluginSubscription → Option UInt32)
    (args : PluginSubscription) : Prop :=
  r.Registered args ∨ ((r.groupHandle args.eventCode).or (handles args)).isSome = true

theorem not_registered_new : ¬PluginEventRouter.new.Registered args := by
  unfold Registered PluginEventRouter.new
  rw [Finmap.lookup_empty]
  exact Bool.false_ne_true

theorem registered_subscribeEvent (handle : Option UInt32) :
    (r.subscribeEvent args handle).2.Registered other ↔
      r.Registered other ∨
        (other.policyName = args.policyName ∧ other.eventCode = args.eventCode ∧
          ((r.groupHandle args.eventCode).or handle).isSome = true) := by
  unfold Registered subscribeEvent groupHandle
  cases hentry : r.entries.lookup (makeKey args.policyName args.eventCode) with
  | some entry =>
    simp only [hentry]
    refine ⟨.inl, ?_⟩
    rintro (h | ⟨hname, hevent, -⟩)
    · exact h
    · rw [hname, hevent, hentry]
      rfl
  | none =>
    simp only [hentry]
    cases hhandle : ((r.eventGroupStates.lookup args.eventCode).getD ⟨none, []⟩).handle.or
        handle with
    | some shared =>
      dsimp only
      rw [lookup_insert_eq]
      by_cases hkey : makeKey other.policyName other.eventCode =
          makeKey args.policyName args.eventCode
      · obtain ⟨hname, hevent⟩ := makeKey_inj.mp hkey
        rw [if_pos hkey]
        exact iff_of_true rfl (.inr ⟨hname, hevent, rfl⟩)
      · rw [if_neg hkey]
        refine ⟨.inl, ?_⟩
        rintro (h | ⟨hname, hevent, -⟩)
        · exact h
        · exact absurd (makeKey_inj.mpr ⟨hname, hevent⟩) hkey
    | none =>
      dsimp only
      rw [lookup_erase_eq, lookup_insert_eq]
      by_cases hkey : makeKey other.policyName other.eventCode =
          makeKey args.policyName args.eventCode
      · rw [if_pos hkey, hkey, hentry]
        simp
      · rw [if_neg hkey, if_neg hkey]
        simp

theorem groupHandle_subscribeEvent (handle : Option UInt32) {eventCode : EventId}
    (h : (r.groupHandle eventCode).isSome = true) :
    ((r.subscribeEvent args handle).2.groupHandle eventCode).isSome = true := by
  unfold subscribeEvent
  cases hentry : r.entries.lookup (makeKey args.policyName args.eventCode) with
  | some entry =>
    simp only [hentry]
    exact h
  | none =>
    simp only [hentry]
    cases hhandle : ((r.eventGroupStates.lookup args.eventCode).getD ⟨none, []⟩).handle.or
        handle with
    | some shared =>
      unfold groupHandle
      dsimp only
      rw [lookup_insert_eq]
      split
      · rfl
      · exact h
    | none =>
      have hgroup : r.groupHandle args.eventCode = none := (Option.or_eq_none_iff.mp hhandle).1
      have hne : eventCode ≠ args.eventCode := by
        rintro rfl
        rw [hgroup] at h
        cases h
      unfold groupHandle
      dsimp only
      split
      · rw [lookup_erase_eq, if_neg hne]
        exact h
      · rw [lookup_insert_eq, if_neg hne]
        exact h

theorem Registered.subscribeAll {calls : List (PluginSubscription × Option UInt32)}
    (h : r.Registered args) : (r.subscribeAll calls).Registered args := by
  induction calls generalizing r with
  | nil => exact h
  | cons call calls ih => exact ih ((registered_subscribeEvent call.2).mpr (.inl h))

/-- What a plugin can obtain it has when it has asked for it. -/
theorem registered_subscribeAll_of_obtains {handles : PluginSubscription → Option UInt32}
    {list : List PluginSubscription} (hargs : args ∈ list) (h : r.Obtains handles args) :
    (r.subscribeAll (list.map fun args => (args, handles args))).Registered args := by
  induction list generalizing r with
  | nil => cases hargs
  | cons first rest ih =>
    rw [List.map_cons]
    show ((r.subscribeEvent first (handles first)).2.subscribeAll _).Registered args
    by_cases hfirst : args = first
    · subst hfirst
      refine Registered.subscribeAll ((registered_subscribeEvent _).mpr ?_)
      rcases h with h | h
      · exact .inl h
      · exact .inr ⟨rfl, rfl, h⟩
    · refine ih ((List.mem_cons.mp hargs).resolve_left hfirst) ?_
      rcases h with h | h
      · exact .inl ((registered_subscribeEvent _).mpr (.inl h))
      · refine .inr ?_
        rw [Option.isSome_or, Bool.or_eq_true] at h ⊢
        exact h.imp (groupHandle_subscribeEvent _) id

/-- Nothing is registered but what was asked for. -/
theorem registered_subscribeAll {calls : List (PluginSubscription × Option UInt32)}
    (h : (r.subscribeAll calls).Registered other) :
    r.Registered other ∨ ∃ call, call ∈ calls ∧ other.policyName = call.1.policyName := by
  induction calls generalizing r with
  | nil => exact .inl h
  | cons call calls ih =>
    rcases ih (r := (r.subscribeEvent call.1 call.2).2) h with h | ⟨later, hlater, hname⟩
    · rcases (registered_subscribeEvent _).mp h with h | ⟨hname, -⟩
      · exact .inl h
      · exact .inr ⟨call, List.mem_cons_self, hname⟩
    · exact .inr ⟨later, List.mem_cons_of_mem _ hlater, hname⟩

theorem registered_unsubscribeEvent (policyName : String) (eventCode : EventId) :
    (r.unsubscribeEvent policyName eventCode).2.Registered other ↔
      r.Registered other ∧ ¬(other.policyName = policyName ∧ other.eventCode = eventCode) := by
  have hentries : (r.unsubscribeEvent policyName eventCode).2.entries =
      r.entries.erase (makeKey policyName eventCode) := by
    unfold unsubscribeEvent
    cases hentry : r.entries.lookup (makeKey policyName eventCode) with
    | none =>
      simp only [hentry]
      exact (erase_absent hentry).symm
    | some entry =>
      simp only [hentry]
      cases r.eventGroupStates.lookup eventCode with
      | none => rfl
      | some group =>
        dsimp only
        split <;> rfl
  unfold Registered
  rw [hentries, lookup_erase_eq, ← makeKey_inj]
  split
  · rename_i hkey
    simp [hkey]
  · rename_i hkey
    simp [hkey]

theorem registered_unsubscribeAll {list : List PluginSubscription} :
    (r.unsubscribeAll list).Registered other ↔
      r.Registered other ∧ ∀ args, args ∈ list →
        ¬(other.policyName = args.policyName ∧ other.eventCode = args.eventCode) := by
  induction list generalizing r with
  | nil =>
    refine ⟨fun h => ⟨h, fun args hargs => ?_⟩, And.left⟩
    cases hargs
  | cons first rest ih =>
    show ((r.unsubscribeEvent first.policyName first.eventCode).2.unsubscribeAll rest).Registered
      other ↔ _
    rw [ih, registered_unsubscribeEvent, List.forall_mem_cons, and_assoc]

/-- A call for one policy leaves the subscriptions of the others as they are. -/
theorem registered_eventCall_of_ne {policyName : String} (h : other.policyName ≠ policyName)
    (handles : PluginSubscription → Option UInt32) (call : EventCall) :
    (r.eventCall handles policyName call).Registered other ↔ r.Registered other := by
  cases call with
  | keep => exact Iff.rfl
  | subscribeEvent =>
    refine ⟨fun hregistered => ?_, Registered.subscribeAll⟩
    rcases registered_subscribeAll hregistered with hold | ⟨call, hcall, hname⟩
    · exact hold
    · obtain ⟨args, hargs, rfl⟩ := List.mem_map.mp hcall
      exact absurd (hname.trans (policySubscriptions_policyName hargs)) h
  | unsubscribeEvent =>
    refine registered_unsubscribeAll.trans ⟨And.left, fun hregistered => ⟨hregistered, ?_⟩⟩
    rintro args hargs ⟨hname, -⟩
    exact h (hname.trans (policySubscriptions_policyName hargs))

end PluginEventRouter

end Edm
