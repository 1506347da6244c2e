import Edm.Ability.DeviceRun
import Edm.Ability.PluginEvents
import Edm.Plugin.BasicBool
import Edm.Policy.Combined

/-! Runs of the plugins' calls.  Subscriptions are of the plugin and combined policies of a user: a
plugin has its events as long as no call takes them away, or leaves them out, on the view of one user
while another user has a combined policy, and a restart finds them when the default user has one. -/

set_option autoImplicit false

namespace Edm

open Library Library.UnorderedMap

section

variable {Modules Req Reply Event : Type}

namespace EventDevice

variable (d : EventDevice Modules)

/-- The combined policy that a user is left with when `merged` is to be written. -/
def left (writes : Writes) (policyName merged : String) (userId : Int) : String :=
  if writes.combined = .done then merged else d.combined userId policyName

/-- An update that saves: one without a combined policy finds no other user with one and deletes the
user's, and one with a combined policy writes it and gets the events of the plugin. -/
def UpdateKept (writes : Writes) (handles : PluginSubscription → Option UInt32)
    (policyName merged : String) (userId : Int) : Prop :=
  if merged = "" then
    d.left writes policyName merged userId = "" ∧ ¬d.HeldElsewhere policyName userId
  else
    (d.left writes policyName merged userId ≠ "" ∨ d.HeldElsewhere policyName userId) ∧
      ∀ args, args ∈ policySubscriptions policyName → d.router.Obtains handles args

/-- A removal.  `told` says that its `SetPolicy` does not fail, so that the plugin is told of a user
without a combined policy; `left` is the combined policy of the user then. -/
def RemovalKept (told : Bool) (policyName left : String) (userId : Int) : Prop :=
  if told = true ∧ left = "" then ¬d.HeldElsewhere policyName userId
  else (left ≠ "" ∨ d.HeldElsewhere policyName userId ↔ d.Held policyName)

/-- The step of an event for one entry: without a combined policy it finds no other user with one and
deletes the user's, and it brings no first combined policy. -/
def EntryKept (writes : Writes) (policyName merged : String) (userId : Int) : Prop :=
  if merged = "" then
    d.left writes policyName merged userId = "" ∧ ¬d.HeldElsewhere policyName userId
  else d.left writes policyName merged userId ≠ "" → d.Held policyName

/-- A restart whose queries succeed, and which finds a combined policy of the default user for each
policy that some user has one of, and gets the events of its plugin. -/
def RestartKept (reads : Int → Reads) (loads : UInt32 → Bool)
    (handles : PluginSubscription → Option UInt32) : Prop :=
  (∀ userId, reads userId = ⟨true, true, true⟩ ∨
    (d.device.policies.manager userId).combinedPolicies = ∅) ∧
  ∀ info, info ∈ subscribingPlugins → d.Held info.2 →
    d.combined DEFAULT_USER_ID info.2 ≠ "" ∧ loads info.1 = true ∧
      ∀ args, args ∈ pluginSubscriptions info.1 → (handles args).isSome = true

end EventDevice

variable (order : HashOrder) (plugins : PluginTable Modules Req Reply Event)

/-- The combined policy that `RemoveAdminItem` writes. -/
def RegisteredPlugin.removalMerge (plugin : RegisteredPlugin Modules Req Reply Event)
    (policies : Stores) (adminName : String) (userId : Int) : String :=
  if isEmpty ((policies.manager userId).adminValues plugin.policyName) then ""
  else plugin.getOthersMergePolicyData policies.manager userId adminName

/-- The statement that decides the code of the `SetPolicy` of `RemoveAdminItem`. -/
def RegisteredPlugin.removalWrite (plugin : RegisteredPlugin Modules Req Reply Event)
    (policies : Stores) (writes : Writes) (adminName : String) (userId : Int) : RdbOutcome :=
  if isEmpty ((policies.manager userId).adminValues plugin.policyName) ∨ adminName = "" then
    writes.combined
  else writes.admin

/-- The calls after which a plugin still has its events exactly while some user has a combined
policy, for the plugins that subscribe. -/
def EventOp.KeepsEvents (d : EventDevice Modules) : EventOp Modules Req Reply Event → Prop
  | .updateDevicePolicy writes handles code bundleName request userId =>
    ∀ plugin, plugins.getPluginByFuncCode code = some plugin →
      policySubscriptions plugin.policyName ≠ [] →
      ∀ modules handled,
        plugin.onHandlePolicy d.device.policies.manager userId d.device.modules request
            (PluginManager.handlePolicyData (plugin.forUser d.device.policies.manager userId)
              (d.device.pluginState plugin.policyName userId) bundleName) =
          (ERR_OK, modules, handled) →
        (plugin.needSave && handled.isChanged) = true →
        d.UpdateKept writes handles plugin.policyName handled.mergePolicyData userId
  | .removeAdminItem writes _ adminName policyName _ userId =>
    ∀ plugin, plugins.pluginsName policyName = some plugin → policySubscriptions policyName ≠ [] →
      if plugin.needSave then
        d.RemovalKept (plugin.removalWrite d.device.policies writes adminName userId == .done)
          policyName (d.left writes policyName
            (plugin.removalMerge d.device.policies adminName userId) userId) userId
      else d.RemovalKept true policyName (d.combined userId policyName) userId
  | .dispatchForAdmins writes code event userId =>
    ∀ plugin, plugins.pluginsCode code = some plugin →
      policySubscriptions plugin.policyName ≠ [] → plugin.needSave = true →
      Each (fun d entry => d.dispatchForAdmin plugin writes event userId entry)
        (fun d entry => d.EntryKept (writes entry.1) plugin.policyName
          (PluginManager.eventMerge (plugin.forUser d.device.policies.manager userId)
            (d.device.pluginState plugin.policyName userId) event entry.1 entry.2) userId)
        d (d.dispatchEntries order plugin userId)
  | .restart reads loads handles _ _ => d.RestartKept reads loads handles

/-! ### One call of a plugin -/

section Call

variable {d d' : EventDevice Modules} {policyName : String} {userId : Int}

/-- What a call of a plugin may change: the combined policy of one user, and the subscriptions of the
plugin. -/
structure Called (d d' : EventDevice Modules) (handles : PluginSubscription → Option UInt32)
    (policyName left : String) (userId : Int) (call : EventCall) : Prop where
  router : d'.router = d.router.eventCall handles policyName call
  combined : ∀ u p, d'.combined u p =
    if u = userId ∧ p = policyName then left else d.combined u p

variable {handles : PluginSubscription → Option UInt32} {left : String} {call : EventCall}

theorem Called.held (h : Called d d' handles policyName left userId call) :
    d'.Held policyName ↔ left ≠ "" ∨ d.HeldElsewhere policyName userId := by
  constructor
  · rintro ⟨u, hu⟩
    rw [h.combined] at hu
    by_cases hsame : u = userId
    · rw [if_pos ⟨hsame, rfl⟩] at hu
      exact .inl hu
    · rw [if_neg fun heq => hsame heq.1] at hu
      exact .inr ⟨u, hsame, hu⟩
  · rintro (hleft | ⟨u, hne, hu⟩)
    · refine ⟨userId, ?_⟩
      rw [h.combined, if_pos ⟨rfl, rfl⟩]
      exact hleft
    · refine ⟨u, ?_⟩
      rw [h.combined, if_neg fun heq => hne heq.1]
      exact hu

theorem Called.held_of_ne (h : Called d d' handles policyName left userId call) {other : String}
    (hne : other ≠ policyName) : d'.Held other ↔ d.Held other := by
  refine exists_congr fun u => ?_
  rw [h.combined, if_neg fun heq => hne heq.2]

/-- When a call of the plugin of a policy keeps the subscriptions in step with the combined policies
of all users. -/
def Called.Kept (d : EventDevice Modules) (handles : PluginSubscription → Option UInt32)
    (policyName left : String) (userId : Int) : EventCall → Prop
  | .keep => left ≠ "" ∨ d.HeldElsewhere policyName userId ↔ d.Held policyName
  | .subscribeEvent =>
    (left ≠ "" ∨ d.HeldElsewhere policyName userId) ∧
      ∀ args, args ∈ policySubscriptions policyName → d.router.Obtains handles args
  | .unsubscribeEvent => left = "" ∧ ¬d.HeldElsewhere policyName userId

theorem EventDevice.EventsKept.called (hkept : d.EventsKept)
    (h : Called d d' handles policyName left userId call)
    (hcall : policySubscriptions policyName ≠ [] →
      Called.Kept d handles policyName left userId call) : d'.EventsKept := by
  intro other args hargs
  have hname := policySubscriptions_policyName hargs
  rw [h.router]
  by_cases hother : other = policyName
  · subst hother
    have hcall := hcall (List.ne_nil_of_mem hargs)
    cases call with
    | keep => exact (hkept other args hargs).trans (hcall.symm.trans h.held.symm)
    | subscribeEvent =>
      exact iff_of_true
        (PluginEventRouter.registered_subscribeAll_of_obtains hargs (hcall.2 args hargs))
        (h.held.mpr hcall.1)
    | unsubscribeEvent =>
      refine iff_of_false (fun hregistered => ?_) fun hheld => ?_
      · exact (PluginEventRouter.registered_unsubscribeAll.mp hregistered).2 args hargs ⟨rfl, rfl⟩
      · exact (h.held.mp hheld).elim (fun hleft => hleft hcall.1) hcall.2
  · rw [PluginEventRouter.registered_eventCall_of_ne (by rw [hname]; exact hother),
      h.held_of_ne hother]
    exact hkept other args hargs

end Call

/-! ### The three calls -/

section Calls

variable {order plugins} {d : EventDevice Modules}
  {plugin : RegisteredPlugin Modules Req Reply Event} {userId : Int}

theorem EventDevice.combined_setPluginState (d : EventDevice Modules) (policyName : String)
    (userId : Int) (s : PluginState Modules) (router : PluginEventRouter) (u : Int) (p : String) :
    (EventDevice.mk (d.device.setPluginState policyName userId s) router).combined u p =
      if u = userId then s.store.manager.policyValue "" p else d.combined u p := by
  unfold EventDevice.combined Device.setPluginState
  by_cases hu : u = userId
  · subst hu
    rw [if_pos rfl, Stores.setUser_manager_self]
  · rw [if_neg hu, Stores.setUser_manager_of_ne _ hu]

/-- A call that sets the policy of one user. -/
theorem called_of_setPolicy {handles : PluginSubscription → Option UInt32} {call : EventCall}
    {s : PluginState Modules} {writes : Writes} {a v merged : String}
    (hstore : s.store = ((d.device.policies.user userId).setPolicy writes a plugin.policyName v
      merged).2) :
    Called d ⟨d.device.setPluginState plugin.policyName userId s,
        d.router.eventCall handles plugin.policyName call⟩ handles plugin.policyName
      (d.left writes plugin.policyName merged userId) userId call where
  router := rfl
  combined u p := by
    rw [EventDevice.combined_setPluginState, hstore,
      UserStore.policyValue_setPolicy _ _ _ _ _ plugin.policyName_ne]
    by_cases hu : u = userId
    · subst hu
      rw [if_pos rfl]
      by_cases hp : p = plugin.policyName
      · subst hp
        simp only [true_and, and_true, if_true]
        rfl
      · rw [if_neg fun h => hp h.1, if_neg fun h => hp h.2]
        rfl
    · rw [if_neg hu, if_neg fun h => hu h.1]

/-- A call that leaves the policies alone. -/
theorem called_of_same {handles : PluginSubscription → Option UInt32} {call : EventCall}
    {s : PluginState Modules} (hstore : s.store = d.device.policies.user userId) :
    Called d ⟨d.device.setPluginState plugin.policyName userId s,
        d.router.eventCall handles plugin.policyName call⟩ handles plugin.policyName
      (d.combined userId plugin.policyName) userId call where
  router := rfl
  combined u p := by
    rw [EventDevice.combined_setPluginState, hstore]
    by_cases hu : u = userId
    · subst hu
      rw [if_pos rfl]
      split
      · rename_i h
        rw [h.2]
        rfl
      · rfl
    · rw [if_neg hu, if_neg fun h => hu h.1]

/-- What a user has stays what it is. -/
theorem EventDevice.held_iff (d : EventDevice Modules) (policyName : String) (userId : Int) :
    d.combined userId policyName ≠ "" ∨ d.HeldElsewhere policyName userId ↔
      d.Held policyName := by
  constructor
  · rintro (h | ⟨u, -, h⟩)
    · exact ⟨userId, h⟩
    · exact ⟨u, h⟩
  · rintro ⟨u, h⟩
    by_cases hu : u = userId
    · exact .inl (hu ▸ h)
    · exact .inr ⟨u, hu, h⟩

section Update

variable {writes : Writes} {handles : PluginSubscription → Option UInt32} {code : UInt32}
  {bundleName : String} {request : Req} {ret : ErrCode} {modules : Modules}
  {handled : HandlePolicyData}

/-- An update that saves. -/
theorem called_of_changed (hplugin : plugins.getPluginByFuncCode code = some plugin)
    (hcall : plugin.onHandlePolicy d.device.policies.manager userId d.device.modules request
        (PluginManager.handlePolicyData (plugin.forUser d.device.policies.manager userId)
          (d.device.pluginState plugin.policyName userId) bundleName) = (ERR_OK, modules, handled))
    (hchanged : (plugin.needSave && handled.isChanged) = true) :
    Called d (d.updateDevicePolicy plugins writes handles code bundleName request userId) handles
      plugin.policyName (d.left writes plugin.policyName handled.mergePolicyData userId) userId
      (if handled.mergePolicyData = "" then .unsubscribeEvent else .subscribeEvent) := by
  have hevents : PluginManager.updateDevicePolicyEvents
      (plugin.forUser d.device.policies.manager userId)
      (d.device.pluginState plugin.policyName userId) bundleName request = _ :=
    PluginManager.updateDevicePolicyEvents_changed hcall hchanged
  unfold EventDevice.updateDevicePolicy PluginTable.updateDevicePolicy
  simp only [hplugin, hevents]
  have hupdate : PluginManager.updateDevicePolicy (plugin.forUser d.device.policies.manager userId)
      (d.device.pluginState plugin.policyName userId) writes bundleName request = _ :=
    PluginManager.updateDevicePolicy_changed hcall hchanged
  refine called_of_setPolicy (a := bundleName) (v := handled.policyData) ?_
  rw [hupdate]
  rfl

/-- An update that does not save. -/
theorem called_of_unchanged (hplugin : plugins.getPluginByFuncCode code = some plugin)
    (hcall : plugin.onHandlePolicy d.device.policies.manager userId d.device.modules request
        (PluginManager.handlePolicyData (plugin.forUser d.device.policies.manager userId)
          (d.device.pluginState plugin.policyName userId) bundleName) = (ret, modules, handled))
    (hunchanged : failed ret = true ∨ (plugin.needSave && handled.isChanged) = false) :
    Called d (d.updateDevicePolicy plugins writes handles code bundleName request userId) handles
      plugin.policyName (d.combined userId plugin.policyName) userId .keep := by
  have hevents : PluginManager.updateDevicePolicyEvents
      (plugin.forUser d.device.policies.manager userId)
      (d.device.pluginState plugin.policyName userId) bundleName request = .keep :=
    PluginManager.updateDevicePolicyEvents_unchanged hcall hunchanged
  unfold EventDevice.updateDevicePolicy PluginTable.updateDevicePolicy
  simp only [hplugin, hevents]
  refine called_of_same ?_
  cases hret : failed ret with
  | true =>
    have hupdate : PluginManager.updateDevicePolicy
        (plugin.forUser d.device.policies.manager userId)
        (d.device.pluginState plugin.policyName userId) writes bundleName request = _ :=
      PluginManager.updateDevicePolicy_failed hcall hret
    rw [hupdate]
    rfl
  | false =>
    obtain rfl : ret = ERR_OK := bne_eq_false_iff_eq.mp hret
    have hupdate : PluginManager.updateDevicePolicy
        (plugin.forUser d.device.policies.manager userId)
        (d.device.pluginState plugin.policyName userId) writes bundleName request = _ :=
      PluginManager.updateDevicePolicy_unchanged hcall
        (hunchanged.resolve_left (Bool.eq_false_iff.mp hret))
    rw [hupdate]
    rfl

theorem EventDevice.EventsKept.updateDevicePolicy (hkept : d.EventsKept)
    (hop : EventOp.KeepsEvents order plugins d
      (.updateDevicePolicy writes handles code bundleName request userId)) :
    (d.updateDevicePolicy plugins writes handles code bundleName request userId).EventsKept := by
  cases hplugin : plugins.getPluginByFuncCode code with
  | none =>
    unfold EventDevice.updateDevicePolicy PluginTable.updateDevicePolicy
    simp only [hplugin]
    exact hkept
  | some plugin =>
    have hop := hop plugin hplugin
    rcases hcall : plugin.onHandlePolicy d.device.policies.manager userId d.device.modules request
      (PluginManager.handlePolicyData (plugin.forUser d.device.policies.manager userId)
        (d.device.pluginState plugin.policyName userId) bundleName) with ⟨ret, modules, handled⟩
    by_cases hunchanged : failed ret = true ∨ (plugin.needSave && handled.isChanged) = false
    · exact hkept.called (called_of_unchanged hplugin hcall hunchanged)
        fun _ => d.held_iff plugin.policyName userId
    · obtain ⟨hret, hchanged⟩ := not_or.mp hunchanged
      obtain rfl : ret = ERR_OK := bne_eq_false_iff_eq.mp (Bool.eq_false_iff.mpr hret)
      have hchanged := Bool.of_not_eq_false hchanged
      refine hkept.called (called_of_changed hplugin hcall hchanged) fun hne => ?_
      have hop := hop hne modules handled hcall hchanged
      unfold EventDevice.UpdateKept at hop
      split
      · rename_i hempty
        rw [if_pos hempty] at hop
        exact hop
      · rename_i hnonempty
        rw [if_neg hnonempty] at hop
        exact hop

end Update

section Removal

variable {writes : Writes} {reply : Reply} {adminName policyName policyValue : String}

/-- The code of a `SetPolicy` that deletes a value. -/
theorem failed_setPolicy_deletion (s : UserStore) (writes : Writes) (a merged : String) {p : String}
    (hp : p ≠ "") :
    failed (s.setPolicy writes a p "" merged).1 =
      ((if a = "" then writes.combined else writes.admin) != .done) := by
  by_cases ha : a = ""
  · subst ha
    unfold UserStore.setPolicy UserStore.writeCombined UserStore.deleteCombinedPolicy
      UserStore.setCombinedPolicy
    rw [if_neg hp, if_pos rfl]
    dsimp only
    rw [if_pos rfl]
    split <;> cases writes.combined <;> rfl
  · rw [failed_setPolicy_empty s writes ha hp, if_neg ha]

/-- A removal that saves. -/
theorem called_of_removal_saved (hplugin : plugins.pluginsName policyName = some plugin)
    (hsave : plugin.needSave = true) :
    Called d (d.removeAdminItem plugins writes reply adminName policyName policyValue userId)
      (fun _ => none) policyName
      (d.left writes policyName (plugin.removalMerge d.device.policies adminName userId) userId)
      userId
      (if (plugin.removalWrite d.device.policies writes adminName userId == .done) = true ∧
          d.left writes policyName (plugin.removalMerge d.device.policies adminName userId) userId =
            "" then .unsubscribeEvent
        else .keep) := by
  obtain rfl := plugins.pluginsName_policyName policyName plugin hplugin
  set merged := plugin.removalMerge d.device.policies adminName userId with hmerged
  set a := if isEmpty ((d.device.policies.manager userId).adminValues plugin.policyName) then ""
    else adminName with ha
  set r := (d.device.policies.user userId).setPolicy writes a plugin.policyName "" merged with hr
  have hset : (if plugin.needSave then
      if isEmpty ((d.device.policies.manager userId).adminValues plugin.policyName) then
        (d.device.policies.user userId).setPolicy writes "" plugin.policyName "" ""
      else (d.device.policies.user userId).setPolicy writes adminName plugin.policyName ""
        (plugin.getOthersMergePolicyData d.device.policies.manager userId adminName)
      else (ERR_OK, d.device.policies.user userId)) = r := by
    rw [if_pos hsave, hr, ha, hmerged, RegisteredPlugin.removalMerge]
    split <;> rfl
  have hcode : failed r.1 = false ↔
      (plugin.removalWrite d.device.policies writes adminName userId == .done) = true := by
    rw [hr, failed_setPolicy_deletion _ _ _ _ plugin.policyName_ne, RegisteredPlugin.removalWrite,
      ha, bne_eq_false_iff_eq, beq_iff_eq]
    by_cases hempty : isEmpty ((d.device.policies.manager userId).adminValues plugin.policyName)
    · rw [if_pos hempty, if_pos rfl, if_pos (.inl hempty)]
    · rw [if_neg hempty]
      simp only [hempty, Bool.false_eq_true, false_or]
  have hleft : r.2.manager.policyValue "" plugin.policyName =
      d.left writes plugin.policyName merged userId := by
    rw [hr, UserStore.policyValue_setPolicy _ _ _ _ _ plugin.policyName_ne]
    simp only [true_and]
    rfl
  obtain ⟨hstore, hevents⟩ := PluginManager.removeAdminItem_of_setPolicy
    (plugin.forUser d.device.policies.manager userId)
    (d.device.pluginState plugin.policyName userId) writes reply adminName policyValue hset
  have hevents : PluginManager.removeAdminItemEvents
      (plugin.forUser d.device.policies.manager userId)
      (d.device.pluginState plugin.policyName userId) writes reply adminName policyValue = _ :=
    hevents.trans (if_congr (and_congr hcode (Eq.congr_left hleft)) rfl rfl)
  unfold EventDevice.removeAdminItem PluginTable.removeAdminItem
  simp only [hplugin, hevents]
  exact called_of_setPolicy hstore

/-- A removal that does not save. -/
theorem called_of_removal_unsaved (hplugin : plugins.pluginsName policyName = some plugin)
    (hsave : plugin.needSave = false) :
    Called d (d.removeAdminItem plugins writes reply adminName policyName policyValue userId)
      (fun _ => none) policyName (d.combined userId policyName) userId
      (if true = true ∧ d.combined userId policyName = "" then .unsubscribeEvent else .keep) := by
  obtain rfl := plugins.pluginsName_policyName policyName plugin hplugin
  have hset : (if plugin.needSave then
      if isEmpty ((d.device.policies.manager userId).adminValues plugin.policyName) then
        (d.device.policies.user userId).setPolicy writes "" plugin.policyName "" ""
      else (d.device.policies.user userId).setPolicy writes adminName plugin.policyName ""
        (plugin.getOthersMergePolicyData d.device.policies.manager userId adminName)
      else (ERR_OK, d.device.policies.user userId)) = (ERR_OK, d.device.policies.user userId) := by
    rw [hsave, if_neg Bool.false_ne_true]
  obtain ⟨hstore, hevents⟩ := PluginManager.removeAdminItem_of_setPolicy
    (plugin.forUser d.device.policies.manager userId)
    (d.device.pluginState plugin.policyName userId) writes reply adminName policyValue hset
  have hok : failed ERR_OK = false ↔ true = true := by decide
  have hevents : PluginManager.removeAdminItemEvents
      (plugin.forUser d.device.policies.manager userId)
      (d.device.pluginState plugin.policyName userId) writes reply adminName policyValue = _ :=
    hevents.trans (if_congr (and_congr hok Iff.rfl) rfl rfl)
  unfold EventDevice.removeAdminItem PluginTable.removeAdminItem
  simp only [hplugin, hevents]
  exact called_of_same hstore

theorem EventDevice.EventsKept.removal (hkept : d.EventsKept) {d' : EventDevice Modules}
    {told : Bool} {left : String}
    (h : Called d d' (fun _ => none) policyName left userId
      (if told = true ∧ left = "" then .unsubscribeEvent else .keep))
    (hremoval : policySubscriptions policyName ≠ [] → d.RemovalKept told policyName left userId) :
    d'.EventsKept := by
  refine hkept.called h fun hne => ?_
  have hremoval := hremoval hne
  unfold EventDevice.RemovalKept at hremoval
  split
  · rename_i htold
    rw [if_pos htold] at hremoval
    exact ⟨htold.2, hremoval⟩
  · rename_i hsilent
    rw [if_neg hsilent] at hremoval
    exact hremoval

theorem EventDevice.EventsKept.removeAdminItem (hkept : d.EventsKept)
    (hop : EventOp.KeepsEvents order plugins d
      (.removeAdminItem writes reply adminName policyName policyValue userId)) :
    (d.removeAdminItem plugins writes reply adminName policyName policyValue userId).EventsKept := by
  cases hplugin : plugins.pluginsName policyName with
  | none =>
    unfold EventDevice.removeAdminItem PluginTable.removeAdminItem
    simp only [hplugin]
    exact hkept
  | some plugin =>
    have hop := hop plugin hplugin
    by_cases hsave : plugin.needSave = true
    · rw [if_pos hsave] at hop
      exact hkept.removal (called_of_removal_saved hplugin hsave) hop
    · rw [if_neg hsave] at hop
      exact hkept.removal (called_of_removal_unsaved hplugin (Bool.eq_false_iff.mpr hsave)) hop

end Removal

section Dispatch

variable {writes : String → Writes} {code : UInt32} {event : Event}

theorem EventDevice.EventsKept.dispatchForAdmin (hkept : d.EventsKept) {entry : String × String}
    (hentry : policySubscriptions plugin.policyName ≠ [] → plugin.needSave = true →
      d.EntryKept (writes entry.1) plugin.policyName
        (PluginManager.eventMerge (plugin.forUser d.device.policies.manager userId)
          (d.device.pluginState plugin.policyName userId) event entry.1 entry.2) userId) :
    (d.dispatchForAdmin plugin writes event userId entry).EventsKept := by
  set merged := PluginManager.eventMerge (plugin.forUser d.device.policies.manager userId)
    (d.device.pluginState plugin.policyName userId) event entry.1 entry.2 with hmerged
  by_cases hsave : plugin.needSave = true
  · obtain ⟨v, hstore⟩ := PluginManager.dispatchForAdmin_saved
      (plugin.forUser d.device.policies.manager userId)
      (d.device.pluginState plugin.policyName userId) (writes entry.1) event entry.1 entry.2 hsave
    refine hkept.called (called_of_setPolicy hstore) fun hne => ?_
    have hentry := hentry hne hsave
    unfold PluginManager.dispatchForAdminEvents
    rw [← hmerged, show (plugin.forUser d.device.policies.manager userId).needSave = true from hsave,
      Bool.true_and]
    unfold EventDevice.EntryKept at hentry
    by_cases hempty : merged = ""
    · rw [if_pos hempty] at hentry
      rw [if_pos (decide_eq_true hempty)]
      exact hentry
    · rw [if_neg hempty] at hentry
      rw [if_neg (by rw [decide_eq_true_eq]; exact hempty)]
      constructor
      · rintro (hleft | ⟨u, -, hu⟩)
        · exact hentry hleft
        · exact ⟨u, hu⟩
      · intro hheld
        refine ((d.held_iff plugin.policyName userId).mpr hheld).imp_left fun hold => ?_
        unfold EventDevice.left
        split
        · exact hempty
        · exact hold
  · have hstore := PluginManager.dispatchForAdmin_unsaved
      (plugin.forUser d.device.policies.manager userId)
      (d.device.pluginState plugin.policyName userId) (writes entry.1) event entry.1 entry.2
      (Bool.eq_false_iff.mpr hsave)
    refine hkept.called (called_of_same hstore) fun _ => ?_
    unfold PluginManager.dispatchForAdminEvents
    rw [show (plugin.forUser d.device.policies.manager userId).needSave = false from
      Bool.eq_false_iff.mpr hsave]
    exact d.held_iff plugin.policyName userId

theorem EventDevice.EventsKept.dispatchForAdmins (hkept : d.EventsKept)
    (hop : EventOp.KeepsEvents order plugins d (.dispatchForAdmins writes code event userId)) :
    (d.dispatchForAdmins plugins order writes code event userId).EventsKept := by
  unfold EventDevice.dispatchForAdmins
  cases hplugin : plugins.pluginsCode code with
  | none => exact hkept
  | some plugin =>
    have hentries := hop plugin hplugin
    clear hop
    dsimp only
    generalize d.dispatchEntries order plugin userId = entries at hentries
    induction entries generalizing d with
    | nil => exact hkept
    | cons entry entries ih =>
      exact ih (hkept.dispatchForAdmin fun hne hsave => (hentries hne hsave).1)
        fun hne hsave => (hentries hne hsave).2

end Dispatch

/-! ### A restart -/

section Restart

variable {r : PluginEventRouter} {args : PluginSubscription} {policyValue : String → String}
  {subscribePluginEvent : UInt32 → List (PluginSubscription × Option UInt32)}

/-- Nothing is restored but the subscriptions of plugins whose policy has a value. -/
theorem registered_restore
    (h : (r.restorePluginSubscriptions policyValue subscribePluginEvent).Registered args) :
    r.Registered args ∨ ∃ info, info ∈ subscribingPlugins ∧ policyValue info.2 ≠ "" ∧
      ∃ call, call ∈ subscribePluginEvent info.1 ∧ args.policyName = call.1.policyName := by
  unfold PluginEventRouter.restorePluginSubscriptions at h
  generalize subscribingPlugins = list at h ⊢
  induction list generalizing r with
  | nil => exact .inl h
  | cons first rest ih =>
    rw [List.foldl_cons] at h
    rcases ih h with h | ⟨info, hinfo, hcall⟩
    · split at h
      · exact .inl h
      · rename_i hvalue
        rcases PluginEventRouter.registered_subscribeAll h with h | hcall
        · exact .inl h
        · exact .inr ⟨first, List.mem_cons_self, hvalue, hcall⟩
    · exact .inr ⟨info, List.mem_cons_of_mem first hinfo, hcall⟩

/-- A plugin that can be loaded gets the events whose subscriptions succeed. -/
theorem registered_restore_of_mem {info : UInt32 × String} (hinfo : info ∈ subscribingPlugins)
    (hvalue : policyValue info.2 ≠ "") {handles : PluginSubscription → Option UInt32}
    (hcalls : subscribePluginEvent info.1 =
      (pluginSubscriptions info.1).map fun args => (args, handles args))
    (hargs : args ∈ pluginSubscriptions info.1) (hhandle : (handles args).isSome = true) :
    (r.restorePluginSubscriptions policyValue subscribePluginEvent).Registered args := by
  unfold PluginEventRouter.restorePluginSubscriptions
  generalize subscribingPlugins = list at hinfo ⊢
  have hkeeps : ∀ (list : List (UInt32 × String)) (r : PluginEventRouter), r.Registered args →
      (list.foldl (fun r info => if policyValue info.2 = "" then r
        else r.subscribeAll (subscribePluginEvent info.1)) r).Registered args := by
    intro list
    induction list with
    | nil => exact fun _ h => h
    | cons first rest ih =>
      intro r h
      rw [List.foldl_cons]
      apply ih
      split
      · exact h
      · exact h.subscribeAll
  induction list generalizing r with
  | nil => cases hinfo
  | cons first rest ih =>
    rw [List.foldl_cons]
    rcases List.mem_cons.mp hinfo with rfl | hinfo
    · apply hkeeps
      rw [if_neg hvalue, hcalls]
      refine PluginEventRouter.registered_subscribeAll_of_obtains hargs (.inr ?_)
      rw [Option.isSome_or, hhandle, Bool.or_true]
    · exact ih hinfo

variable {reads : Int → Reads} {loads : UInt32 → Bool}
  {handles : PluginSubscription → Option UInt32} {admins : AdminState} {modules : Modules}

theorem EventDevice.combinedPolicies_reload (hmirrored : d.device.policies.CombinedMirrored)
    (hop : d.RestartKept reads loads handles) (u : Int) (p : String) :
    ((d.reloadPolicies reads).manager u).combinedPolicies.lookup p =
      (d.device.policies.manager u).combinedPolicies.lookup p := by
  rcases hop.1 u with hreads | hempty
  · rw [← hmirrored.lookup_reload u p]
    unfold EventDevice.reloadPolicies reload
    rw [← hreads]
  · have hnone : d.device.policies.tables.combinedValue u p = none := by
      rw [← hmirrored.combinedPolicies, hempty]
      rfl
    rw [hempty, Finmap.lookup_empty]
    unfold EventDevice.reloadPolicies UserStore.init
    dsimp only
    split
    · dsimp only
      split
      · refine (lookup_queryCombinedPolicy _ u ∅ p).trans ?_
        rw [hnone]
        rfl
      · rfl
    · rfl

theorem EventDevice.combinedMirrored_restart (hmirrored : d.device.policies.CombinedMirrored)
    (hop : d.RestartKept reads loads handles) :
    (d.restart reads loads handles admins modules).device.policies.CombinedMirrored where
  userIdState _ := UserStore.init_userIdState _ _
  combinedPolicies u p :=
    (EventDevice.combinedPolicies_reload hmirrored hop u p).trans (hmirrored.combinedPolicies u p)

theorem EventDevice.policyValue_reload (hmirrored : d.device.policies.CombinedMirrored)
    (hop : d.RestartKept reads loads handles) (u : Int) (p : String) :
    ((d.reloadPolicies reads).manager u).policyValue "" p = d.combined u p := by
  unfold EventDevice.combined
  rw [UserPolicyManager.policyValue_combined, UserPolicyManager.policyValue_combined,
    EventDevice.combinedPolicies_reload hmirrored hop]

/-- After a restart a plugin has its events exactly when some user has a combined policy. -/
theorem EventDevice.registered_restart (hmirrored : d.device.policies.CombinedMirrored)
    (hop : d.RestartKept reads loads handles) {policyName : String}
    (hargs : args ∈ policySubscriptions policyName) :
    (d.restart reads loads handles admins modules).router.Registered args ↔ d.Held policyName := by
  have hvalue := EventDevice.policyValue_reload hmirrored hop DEFAULT_USER_ID
  unfold EventDevice.restart
  dsimp only
  constructor
  · intro hregistered
    rcases registered_restore hregistered with hnew | ⟨info, hinfo, hne, call, hcall, hname⟩
    · exact absurd hnew PluginEventRouter.not_registered_new
    · have hinfoName : info.2 = policyName := by
        split at hcall
        · obtain ⟨other, hother, rfl⟩ := List.mem_map.mp hcall
          rw [← (subscribingPlugins_names info hinfo).2 other hother, ← hname]
          exact policySubscriptions_policyName hargs
        · cases hcall
      rw [hvalue, hinfoName] at hne
      exact ⟨DEFAULT_USER_ID, hne⟩
  · intro hheld
    obtain ⟨info, hinfo, rfl, hplugin⟩ := mem_policySubscriptions hargs
    obtain ⟨hdefault, hloads, hhandles⟩ := hop.2 info hinfo hheld
    exact registered_restore_of_mem hinfo (by rw [hvalue]; exact hdefault) (if_pos hloads) hplugin
      (hhandles args hplugin)

end Restart

/-! ### Runs -/

/-- What holds of the device in every state: the combined policies are those of the tables, and the
plugins have their events. -/
structure InStep (d : EventDevice Modules) : Prop where
  mirrored : d.device.policies.CombinedMirrored
  kept : d.EventsKept

theorem combinedMirrored_dispatch (h : d.device.policies.CombinedMirrored)
    (writes : String → Writes) (event : Event) (entries : List (String × String)) :
    (entries.foldl (fun d entry => d.dispatchForAdmin plugin writes event userId entry)
      d).device.policies.CombinedMirrored := by
  induction entries generalizing d with
  | nil => exact h
  | cons entry entries ih =>
    refine ih (h.of_store ?_)
    rcases PluginManager.dispatchForAdmin_store (plugin.forUser d.device.policies.manager userId)
      (d.device.pluginState plugin.policyName userId) (writes entry.1) event entry.1 entry.2 with
      hsame | ⟨v, merged, hset⟩
    · exact .inl hsame
    · exact .inr ⟨_, _, _, v, merged, hset⟩

theorem combinedMirrored_eventStep (h : d.device.policies.CombinedMirrored)
    (op : EventOp Modules Req Reply Event) (hop : op.KeepsEvents order plugins d) :
    (eventStep order plugins d op).device.policies.CombinedMirrored := by
  cases op with
  | updateDevicePolicy writes handles code bundleName request userId =>
    simp only [eventStep, EventDevice.updateDevicePolicy, PluginTable.updateDevicePolicy]
    cases plugins.getPluginByFuncCode code with
    | none => exact h
    | some plugin =>
      refine h.of_store ?_
      rcases PluginManager.updateDevicePolicy_store
        (plugin.forUser d.device.policies.manager userId)
        (d.device.pluginState plugin.policyName userId) writes bundleName request with
        hsame | ⟨v, merged, hset⟩
      · exact .inl hsame
      · exact .inr ⟨_, _, _, v, merged, hset⟩
  | removeAdminItem writes reply adminName policyName policyValue userId =>
    simp only [eventStep, EventDevice.removeAdminItem, PluginTable.removeAdminItem]
    cases plugins.pluginsName policyName with
    | none => exact h
    | some plugin =>
      refine h.of_store ?_
      rw [(PluginManager.removeAdminItem_of_setPolicy
        (plugin.forUser d.device.policies.manager userId) (d.device.pluginState policyName userId)
        writes reply adminName policyValue rfl).1]
      split
      · split
        · exact .inr ⟨_, _, _, _, _, rfl⟩
        · exact .inr ⟨_, _, _, _, _, rfl⟩
      · exact .inl rfl
  | dispatchForAdmins writes code event userId =>
    simp only [eventStep, EventDevice.dispatchForAdmins]
    cases plugins.pluginsCode code with
    | none => exact h
    | some plugin => exact combinedMirrored_dispatch h writes event _
  | restart reads loads handles admins modules =>
    exact EventDevice.combinedMirrored_restart h hop

theorem InStep.eventStep (h : InStep d) (op : EventOp Modules Req Reply Event)
    (hop : op.KeepsEvents order plugins d) : InStep (Edm.eventStep order plugins d op) := by
  refine ⟨combinedMirrored_eventStep h.mirrored op hop, ?_⟩
  cases op with
  | updateDevicePolicy writes handles code bundleName request userId =>
    exact h.kept.updateDevicePolicy hop
  | removeAdminItem writes reply adminName policyName policyValue userId =>
    exact h.kept.removeAdminItem hop
  | dispatchForAdmins writes code event userId => exact h.kept.dispatchForAdmins hop
  | restart reads loads handles admins modules =>
    intro policyName args hargs
    refine (EventDevice.registered_restart h.mirrored hop hargs).trans (exists_congr fun u => ?_)
    exact not_congr
      (Eq.congr_left (EventDevice.policyValue_reload h.mirrored hop u policyName).symm)

end Calls

end

/-! ### A policy of two users -/

namespace DisallowUInputPlugin

open BasicBoolPlugin

def config : Config := ⟨PolicyName.POLICY_DISALLOW_UINPUT, by decide, ""⟩

def registered (order : HashOrder) : RegisteredPlugin Switch Request Answers Unit :=
  (plugin config order).registered config.policyName_ne fun m m' hvalues _ => by
    funext adminName
    show getOthersMergePolicyData config order m adminName = _
    unfold getOthersMergePolicyData
    rw [show m.adminValues config.policyName = m'.adminValues config.policyName from hvalues]
    rfl

/-- The plugin on its own. -/
def plugins (order : HashOrder) : PluginTable Switch Request Answers Unit where
  pluginsCode code :=
    if code = EdmInterfaceCode.DISALLOWED_UINPUT then some (registered order) else none
  pluginsName name := if name = config.policyName then some (registered order) else none
  pluginsName_policyName policyName plugin h := by
    split at h
    · rename_i hname
      rw [← Option.some.inj h, hname]
      rfl
    · contradiction

/-- No other admin has a policy of the user. -/
structure OnlyAdmin (m : UserPolicyManager) : Prop where
  inverse : IndexesInverse m
  others : ∀ x q, x ≠ "com.admin" → lookup₂ m.adminPolicies x q = none

theorem OnlyAdmin.getOthersMergePolicyData (order : HashOrder) {m : UserPolicyManager}
    (h : OnlyAdmin m) :
    BasicBoolPlugin.getOthersMergePolicyData config order m "com.admin" = "" := by
  have hempty : (m.adminValues config.policyName).erase "com.admin" = ∅ := by
    refine (eq_empty_iff _).mpr fun x => ?_
    rw [lookup_erase_eq]
    split
    · rfl
    · rename_i hx
      rw [UserPolicyManager.lookup_adminValues, ← h.inverse.inverse, h.others x _ hx]
  unfold BasicBoolPlugin.getOthersMergePolicyData
  dsimp only
  rw [hempty]
  have hnone : order.entries ∅ = [] := by
    refine List.eq_nil_iff_forall_not_mem.mpr fun entry hentry => ?_
    have hlookup := ((order.enumerates ∅).mem_iff entry.1 entry.2).mp hentry
    rw [Finmap.lookup_empty] at hlookup
    cases hlookup
  rw [hnone]
  rfl

variable (order : HashOrder) {d : EventDevice Switch}

end DisallowUInputPlugin

end Edm
