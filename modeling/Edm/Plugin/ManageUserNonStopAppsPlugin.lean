import Mathlib.Data.Finset.Basic
import Edm.Plugin.ManageAppsPolicy

/-! `ManageUserNonStopAppsPlugin`: the instances that a user cannot stop.  They are published in the
settings data, their sessions are locked, and the bundle manager forbids to disable them.  Sessions
are locked for the current account only, so it is the bundle manager's set that says which instances
are locked. -/

set_option autoImplicit false

namespace Edm

open Library Library.UnorderedMap

def POLICY_MANAGE_USER_NON_STOP_APPS : String := "manage_user_non_stop_apps"

/-- The settings data and the instances that cannot be disabled. -/
structure NonStopApps where
  published : List AppKey
  locked : Finset AppKey

namespace ManageUserNonStopAppsPlugin

open ManageAppsSerializer ManageAppsPolicy

/-- The answers of the bundle manager, the account manager, the settings, the session manager, and
the combined policy of each account that disables the super hub. -/
structure Answers where
  isBundleInstalled : AppKey → Bool
  superhubBundleName : String
  queryActiveOsAccountIds : ErrCode × List Int32
  disableSuperHubValue : Int32 → String
  updateSettingsData : Bool
  reportLockSession : ErrCode
  setApplicationDisableForbidden : AppKey → Bool

/-- The modules take what they are given. -/
structure Answers.Accepts (answers : Answers) : Prop where
  settings : answers.updateSettingsData = true
  sessions : failed answers.reportLockSession = false
  forbidden : ∀ app, answers.setApplicationDisableForbidden app = true

/-- The code of the settings data is ignored. -/
def updateSettingsData (answers : Answers) (modules : NonStopApps)
    (userNonStopApps : List ApplicationInstance) : NonStopApps :=
  if answers.updateSettingsData then { modules with published := apps userNonStopApps }
  else modules

/-- An instance that the bundle manager refuses is only logged. -/
def forbidDisable (answers : Answers) (locked : Finset AppKey) (app : AppKey) : Finset AppKey :=
  if answers.setApplicationDisableForbidden app then insert app locked else locked

def allowDisable (answers : Answers) (locked : Finset AppKey) (app : AppKey) : Finset AppKey :=
  if answers.setApplicationDisableForbidden app then locked.erase app else locked

def setOtherModulePolicy (answers : Answers) (modules : NonStopApps)
    (userNonStopApps : List ApplicationInstance) : ErrCode × NonStopApps :=
  let modules := updateSettingsData answers modules userNonStopApps
  if failed answers.reportLockSession then (answers.reportLockSession, modules)
  else
    (ERR_OK,
      { modules with
        locked := (apps userNonStopApps).foldl (forbidDisable answers) modules.locked })

def removeOtherModulePolicy (answers : Answers) (modules : NonStopApps)
    (needResetPolicy needRemovePolicy : List ApplicationInstance) : ErrCode × NonStopApps :=
  let modules := updateSettingsData answers modules needResetPolicy
  if failed answers.reportLockSession then (answers.reportLockSession, modules)
  else
    (ERR_OK,
      { modules with
        locked := (apps needRemovePolicy).foldl (allowDisable answers) modules.locked })

def filterUninstalledBundle (answers : Answers) (data : List ApplicationInstance) :
    List ApplicationInstance :=
  data.filter fun appInfo => !answers.isBundleInstalled appInfo.key

/-- The code, and whether the super hub is among the instances while an active account disables
it. -/
def hasConflictPolicy (answers : Answers) (nonStopApps : List ApplicationInstance) :
    ErrCode × Bool :=
  if nonStopApps = [] then (ERR_OK, false)
  else
    let (accountRet, ids) := answers.queryActiveOsAccountIds
    if failed accountRet ∨ ids = [] then (EdmReturnErrCode.SYSTEM_ABNORMALLY, false)
    else
      (ERR_OK, ids.any fun accountId => answers.disableSuperHubValue accountId == "true" &&
        nonStopApps.any fun nonStopApp => nonStopApp.accountId == accountId &&
          nonStopApp.bundleName == answers.superhubBundleName)

/-- The differences sort the lists that they are made of.  The admin's list is published. -/
def onSetPolicy : Handler NonStopApps Answers :=
  fun answers modules userNonStopApps currentData mergeData =>
    let addData := setDifferencePolicyData currentData userNonStopApps
    let unInstalledData := filterUninstalledBundle answers addData
    if unInstalledData ≠ [] then
      (EdmReturnErrCode.PARAMETER_VERIFICATION_FAILED, modules, currentData, mergeData)
    else
      let addData := setDifferencePolicyData unInstalledData addData
      let needAddMergeData := setDifferencePolicyData mergeData addData
      let afterHandle := setUnionPolicyData (sort currentData) addData
      let afterMerge := setUnionPolicyData (sort mergeData) afterHandle
      if MANAGE_APPS_MAX_SIZE < afterMerge.length then
        (EdmReturnErrCode.PARAMETER_VERIFICATION_FAILED, modules, currentData, mergeData)
      else
        let (conflictRet, isConflict) := hasConflictPolicy answers needAddMergeData
        if failed conflictRet then
          (EdmReturnErrCode.SYSTEM_ABNORMALLY, modules, currentData, mergeData)
        else if isConflict then
          (EdmReturnErrCode.CONFIGURATION_CONFLICT_FAILED, modules, currentData, mergeData)
        else
          let (ret, modules) :=
            if needAddMergeData ≠ [] then setOtherModulePolicy answers modules afterHandle
            else (ERR_OK, modules)
          if failed ret then (ret, modules, currentData, mergeData)
          else (ERR_OK, modules, afterHandle, afterMerge)

/-- What is left of the admin's list is published. -/
def onRemovePolicy : Handler NonStopApps Answers :=
  fun answers modules data currentData mergeData =>
    let needRemovePolicy := setIntersectionPolicyData data currentData
    let needRemoveMergePolicy := setNeedRemoveMergePolicyData mergeData needRemovePolicy
    let needResetPolicy := setDifferencePolicyData needRemovePolicy currentData
    let failedApps := setNeedRemoveMergePolicyData needRemoveMergePolicy data
    if failedApps ≠ [] then
      (EdmReturnErrCode.PARAMETER_VERIFICATION_FAILED, modules, currentData, mergeData)
    else
      let (ret, modules) :=
        if needRemoveMergePolicy ≠ [] then
          removeOtherModulePolicy answers modules needResetPolicy needRemoveMergePolicy
        else (ERR_OK, modules)
      if failed ret then (ret, modules, currentData, mergeData)
      else (ERR_OK, modules, needResetPolicy, setUnionPolicyData needResetPolicy mergeData)

variable (C : IntCJson)

/-- All instances of the admin are unlocked. -/
def onAdminRemove (modules : NonStopApps) (answers : Answers)
    (currentJsonData mergeJsonData : String) : ErrCode × NonStopApps :=
  let currentData := (deserialize C currentJsonData).2
  let mergeData := (deserialize C mergeJsonData).2
  let needRemoveMergePolicy := setNeedRemoveMergePolicyData mergeData currentData
  let needResetMergePolicy := setDifferencePolicyData needRemoveMergePolicy mergeData
  removeOtherModulePolicy answers modules needResetMergePolicy currentData

def getOthersMergePolicyData (order : HashOrder) (m : UserPolicyManager) (adminName : String) :
    String :=
  let adminValues := (m.adminValues POLICY_MANAGE_USER_NON_STOP_APPS).erase adminName
  if isEmpty adminValues then ""
  else mergeValues C POLICY_MANAGE_USER_NON_STOP_APPS m
    (othersValues order m POLICY_MANAGE_USER_NON_STOP_APPS adminName)

def plugin (order : HashOrder) :
    EventPlugin NonStopApps (Request Answers) Answers (BundleRemoved Answers) where
  policyName := POLICY_MANAGE_USER_NON_STOP_APPS
  needSave := true
  getOthersMergePolicyData := getOthersMergePolicyData C order
  onHandlePolicy := onHandlePolicy C POLICY_MANAGE_USER_NON_STOP_APPS onSetPolicy onRemovePolicy
  onAdminRemove := onAdminRemove C
  onPluginEvent _ event := nomatch event
  onEvent := onBundleRemoved C onRemovePolicy

abbrev Op := DispatchOp (Request Answers) Answers (BundleRemoved Answers)

/-- The modules take what they are given in an operation. -/
def Accepted : Op → Prop
  | .policy (.update _ _ request) => request.answers.Accepts
  | .policy (.removeAdmin _ _ answers) => answers.Accepts
  | .event _ event => ∀ admin, (event admin).answers.Accepts

section Run

variable (order : HashOrder) (s : PluginState NonStopApps)

/-- A user without policies, and modules that were told nothing. -/
abbrev boot (userId : Int) : PluginState NonStopApps := PluginState.boot ⟨[], ∅⟩ userId

/-- The instances that an admin lists. -/
abbrev listed (admin : AdminName) : Set AppKey :=
  itemsHeld (itemsOf C) POLICY_MANAGE_USER_NON_STOP_APPS s.store admin

/-- The published list and the locked instances are the union of the admins' lists. -/
structure FollowsUnion : Prop where
  nodup : s.modules.published.Nodup
  mem_published : ∀ x, x ∈ s.modules.published ↔ x ∈ held (listed C s)
  mem_locked : ∀ x, x ∈ s.modules.locked ↔ x ∈ held (listed C s)

/-- The requested instances that neither the admin nor the others list in the same way. -/
def needAddMergeData (admin : AdminName) (request : Request Answers) : List ApplicationInstance :=
  setDifferencePolicyData
    (deserialize C (getOthersMergePolicyData C order s.store.manager admin)).2
    (setDifferencePolicyData [] (setDifferencePolicyData
      (deserialize C (s.store.manager.policyValue admin POLICY_MANAGE_USER_NON_STOP_APPS)).2
      request.named))

/-- A request keeps the union.  For a set, the instances of the admin and of the request have
different texts, and if something new is published they are all that is listed.  For a removal that
is carried out, the admin lists all that others list. -/
def RequestKeeps (admin : AdminName) (request : Request Answers) : Prop :=
  ¬(request.apps = [] ∨ MANAGE_APPS_MAX_SIZE < request.apps.length) →
    match request.type with
    | .set =>
      Set.InjOn mergeText {x | x ∈ listed C s admin ∨ x ∈ apps request.named} ∧
        (needAddMergeData C order s admin request ≠ [] →
          ∀ x, x ∈ heldByOthers (listed C s) admin → x ∈ listed C s admin ∨ x ∈ apps request.named)
    | .remove =>
      (∀ x, x ∈ apps request.named →
        x ∈ listed C s admin ∧ x ∉ heldByOthers (listed C s) admin) →
      ∀ x, x ∈ heldByOthers (listed C s) admin → x ∈ listed C s admin
    | _ => True

/-- A visit keeps the union.  Where an instance of the bundle is taken off the published list, the
admin lists another instance, and all that others list. -/
def VisitKeeps (event : BundleRemoved Answers) (admin : AdminName) : Prop :=
  ∀ app, firstOfBundle event (deserialize C
    (s.store.manager.policyValue admin POLICY_MANAGE_USER_NON_STOP_APPS)).2 = some app →
    app.key ∉ heldByOthers (listed C s) admin →
      (∃ x, x ∈ listed C s admin ∧ x ≠ app.key) ∧
        ∀ x, x ∈ heldByOthers (listed C s) admin → x ∈ listed C s admin

/-- The writes of an operation take effect, the modules take what they are given, and it keeps the
union.  An admin that is removed lists nothing that others list. -/
def Keeps : Op → Prop
  | .policy (.update admin writes request) =>
    writes = ⟨.done, .done⟩ ∧ request.answers.Accepts ∧ RequestKeeps C order s admin request
  | .policy (.removeAdmin admin writes answers) =>
    writes = ⟨.done, .done⟩ ∧ answers.Accepts ∧
      ∀ x, x ∈ listed C s admin → x ∉ heldByOthers (listed C s) admin
  | .event writes event =>
    (plugin C order).EachVisit order writes event (fun s admin =>
      writes admin = ⟨.done, .done⟩ ∧ (event admin).answers.Accepts ∧
        VisitKeeps C s (event admin) admin) s

end Run

/-! ### The handlers -/

section Handlers

variable {answers : Answers} {data currentData mergeData : List ApplicationInstance}

theorem mem_foldl_forbidDisable (h : answers.Accepts) {x : AppKey} {locked : Finset AppKey}
    (list : List AppKey) :
    x ∈ list.foldl (forbidDisable answers) locked ↔ x ∈ locked ∨ x ∈ list := by
  induction list generalizing locked with
  | nil => simp
  | cons app list ih =>
    rw [List.foldl_cons, ih, forbidDisable, if_pos (h.forbidden app), Finset.mem_insert,
      List.mem_cons]
    tauto

theorem mem_foldl_allowDisable (h : answers.Accepts) {x : AppKey} {locked : Finset AppKey}
    (list : List AppKey) :
    x ∈ list.foldl (allowDisable answers) locked ↔ x ∈ locked ∧ x ∉ list := by
  induction list generalizing locked with
  | nil => simp
  | cons app list ih =>
    rw [List.foldl_cons, ih, allowDisable, if_pos (h.forbidden app), Finset.mem_erase, List.mem_cons]
    tauto

theorem setOtherModulePolicy_accepts (h : answers.Accepts) (modules : NonStopApps)
    (userNonStopApps : List ApplicationInstance) :
    ∃ locked : Finset AppKey,
      setOtherModulePolicy answers modules userNonStopApps =
        (ERR_OK, ⟨apps userNonStopApps, locked⟩) ∧
      ∀ x, x ∈ locked ↔ x ∈ modules.locked ∨ x ∈ apps userNonStopApps := by
  unfold setOtherModulePolicy updateSettingsData
  rw [if_pos h.settings, h.sessions]
  exact ⟨_, rfl, fun x => mem_foldl_forbidDisable h _⟩

theorem removeOtherModulePolicy_accepts (h : answers.Accepts) (modules : NonStopApps)
    (needResetPolicy needRemovePolicy : List ApplicationInstance) :
    ∃ locked : Finset AppKey,
      removeOtherModulePolicy answers modules needResetPolicy needRemovePolicy =
        (ERR_OK, ⟨apps needResetPolicy, locked⟩) ∧
      ∀ x, x ∈ locked ↔ x ∈ modules.locked ∧ x ∉ apps needRemovePolicy := by
  unfold removeOtherModulePolicy updateSettingsData
  rw [if_pos h.settings, h.sessions]
  exact ⟨_, rfl, fun x => mem_foldl_allowDisable h _⟩

/-- A set that succeeds publishes the admin's list, if something is new. -/
theorem onSetPolicy_cases (h : answers.Accepts) (modules : NonStopApps)
    (currentData mergeData : List ApplicationInstance) (hdata : data ≠ []) :
    (∃ ret, failed ret = true ∧ onSetPolicy answers modules data currentData mergeData =
        (ret, modules, currentData, mergeData)) ∨
      ∃ afterHandle afterMerge : List ApplicationInstance,
        AfterSet currentData mergeData data afterHandle afterMerge ∧
        (setDifferencePolicyData mergeData (setDifferencePolicyData []
              (setDifferencePolicyData currentData data)) = [] ∧
            onSetPolicy answers modules data currentData mergeData =
              (ERR_OK, modules, afterHandle, afterMerge) ∨
          setDifferencePolicyData mergeData (setDifferencePolicyData []
              (setDifferencePolicyData currentData data)) ≠ [] ∧
            ∃ locked : Finset AppKey,
              (∀ x, x ∈ locked ↔ x ∈ modules.locked ∨ x ∈ apps afterHandle) ∧
              onSetPolicy answers modules data currentData mergeData =
                (ERR_OK, ⟨apps afterHandle, locked⟩, afterHandle, afterMerge)) := by
  have hafter := afterSet currentData mergeData hdata
  unfold onSetPolicy
  dsimp only
  by_cases huninstalled :
      filterUninstalledBundle answers (setDifferencePolicyData currentData data) ≠ []
  · rw [if_pos huninstalled]
    exact .inl ⟨_, by decide, rfl⟩
  rw [if_neg huninstalled, not_not.mp huninstalled]
  split
  · exact .inl ⟨_, by decide, rfl⟩
  split
  · exact .inl ⟨_, by decide, rfl⟩
  split
  · exact .inl ⟨_, by decide, rfl⟩
  refine .inr ⟨_, _, hafter, ?_⟩
  by_cases hnew : setDifferencePolicyData mergeData (setDifferencePolicyData []
      (setDifferencePolicyData currentData data)) = []
  · rw [if_neg (not_not.mpr hnew)]
    exact .inl ⟨hnew, rfl⟩
  · rw [if_pos hnew]
    obtain ⟨locked, hset, hlocked⟩ := setOtherModulePolicy_accepts h modules
      (setUnionPolicyData (sort currentData) (setDifferencePolicyData []
        (setDifferencePolicyData currentData data)))
    rw [hset]
    exact .inr ⟨hnew, locked, hlocked, rfl⟩

/-- A removal that succeeds publishes what is left of the admin's list. -/
theorem onRemovePolicy_cases (h : answers.Accepts) (modules : NonStopApps)
    (mergeData : List ApplicationInstance) (hcurrent : (apps currentData).Nodup)
    (hdata : data ≠ []) :
    (∃ ret, failed ret = true ∧ onRemovePolicy answers modules data currentData mergeData =
        (ret, modules, currentData, mergeData)) ∨
      AfterRemove currentData mergeData data ∧ ∃ locked : Finset AppKey,
        (∀ x, x ∈ locked ↔ x ∈ modules.locked ∧ x ∉ apps data) ∧
        onRemovePolicy answers modules data currentData mergeData =
          (ERR_OK, ⟨apps (setDifferencePolicyData (setIntersectionPolicyData data currentData)
              currentData), locked⟩,
            setDifferencePolicyData (setIntersectionPolicyData data currentData) currentData,
            setUnionPolicyData (setDifferencePolicyData
              (setIntersectionPolicyData data currentData) currentData) mergeData) := by
  unfold onRemovePolicy
  dsimp only
  by_cases hfailed : setNeedRemoveMergePolicyData (setNeedRemoveMergePolicyData mergeData
      (setIntersectionPolicyData data currentData)) data = []
  · rw [if_neg (not_not.mpr hfailed)]
    have hafter := afterRemove hcurrent hfailed
    have hmerge := hafter.needRemoveMerge_ne_nil hdata
    rw [if_pos hmerge]
    obtain ⟨locked, hremove, hlocked⟩ := removeOtherModulePolicy_accepts h modules
      (setDifferencePolicyData (setIntersectionPolicyData data currentData) currentData)
      (setNeedRemoveMergePolicyData mergeData (setIntersectionPolicyData data currentData))
    rw [hremove]
    refine .inr ⟨hafter, locked, fun x => ?_, rfl⟩
    rw [hlocked, mem_apps_needRemoveMerge]
    have hx := hafter.only x
    tauto
  · rw [if_pos hfailed]
    exact .inl ⟨_, by decide, rfl⟩

/-- When nothing new is left to add, all requested instances are listed. -/
theorem listed_of_needAdd_eq_nil
    (h : setDifferencePolicyData mergeData (setDifferencePolicyData []
      (setDifferencePolicyData currentData data)) = []) {x : AppKey} (hx : x ∈ apps data) :
    x ∈ apps mergeData ∨ x ∈ apps currentData := by
  have hdata : x ∈ apps (setDifferencePolicyData currentData data) ∨ x ∈ apps currentData :=
    mem_apps_setDifferencePolicyData_or.mpr (.inl hx)
  rcases hdata with hadd | hcurrent
  · have hagain : x ∈ apps (setDifferencePolicyData [] (setDifferencePolicyData currentData data)) ∨
        x ∈ apps [] := mem_apps_setDifferencePolicyData_or.mpr (.inl hadd)
    rcases hagain with hadd | hnone
    · have hmerge : x ∈ apps (setDifferencePolicyData mergeData (setDifferencePolicyData []
          (setDifferencePolicyData currentData data))) ∨ x ∈ apps mergeData :=
        mem_apps_setDifferencePolicyData_or.mpr (.inl hadd)
      rw [h] at hmerge
      exact .inl (hmerge.resolve_left List.not_mem_nil)
    · exact absurd hnone List.not_mem_nil
  · exact .inr hcurrent

end Handlers

/-! ### One operation -/

section Step

variable {C : IntCJson} {order : HashOrder} {s s' : PluginState NonStopApps} {admin : AdminName}

theorem policyName_ne : POLICY_MANAGE_USER_NON_STOP_APPS ≠ "" := by decide

/-- What holds of the store in every run. -/
abbrev Readable (C : IntCJson) (s : PluginState NonStopApps) : Prop :=
  TextStore (IsText C) POLICY_MANAGE_USER_NON_STOP_APPS s.store

theorem getOthersMergePolicyData_text (order : HashOrder) (h : Readable C s) (admin : AdminName) :
    ∃ others : List ApplicationInstance, (apps others).Nodup ∧
      (∀ x, x ∈ apps others ↔ x ∈ heldByOthers (listed C s) admin) ∧
      getOthersMergePolicyData C order s.store.manager admin = serialize C others "" := by
  obtain ⟨others, hnodup, hmem, htext⟩ := mergeValues_text h order admin
  refine ⟨others, hnodup, hmem, ?_⟩
  unfold getOthersMergePolicyData
  dsimp only
  by_cases hempty : isEmpty
      ((s.store.manager.adminValues POLICY_MANAGE_USER_NON_STOP_APPS).erase admin.1) = true
  · have hnil : othersValues order s.store.manager POLICY_MANAGE_USER_NON_STOP_APPS admin = [] :=
      (isEmpty_others order admin).mp hempty
    rw [if_pos hempty, ← htext, hnil, mergeValues_nil]
  · rw [if_neg hempty, htext]

theorem FollowsUnion.congr (h : FollowsUnion C s) (hmodules : s'.modules = s.modules)
    (hheld : ∀ x, x ∈ held (listed C s') ↔ x ∈ held (listed C s)) : FollowsUnion C s' := by
  refine ⟨?_, fun x => ?_, fun x => ?_⟩
  · rw [hmodules]
    exact h.nodup
  · rw [hmodules, h.mem_published, hheld]
  · rw [hmodules, h.mem_locked, hheld]

/-- A request that leaves the store and the modules. -/
theorem followsUnion_same (h : Readable C s) (hunion : FollowsUnion C s)
    (hmodules : s'.modules = s.modules) (hstore : s'.store = s.store) :
    Readable C s' ∧ FollowsUnion C s' := by
  have hlisted : listed C s' = listed C s := by
    unfold listed
    rw [hstore]
  refine ⟨?_, hunion.congr hmodules fun x => by rw [hlisted]⟩
  unfold Readable
  rw [hstore]
  exact h

/-- A removal that is carried out, when the admin lists all that the others list. -/
theorem followsUnion_removed {current others data : List ApplicationInstance} {locked : Finset AppKey}
    (hunion : FollowsUnion C s)
    (hbefore : ∀ x, x ∈ held (listed C s) ↔ x ∈ apps others ∨ x ∈ apps current)
    (hafter : AfterRemove current others data)
    (hmodules : s'.modules = ⟨apps (setDifferencePolicyData (setIntersectionPolicyData data current)
      current), locked⟩)
    (hlocked : ∀ x, x ∈ locked ↔ x ∈ s.modules.locked ∧ x ∉ apps data)
    (hheld : ∀ x, x ∈ held (listed C s') ↔ x ∈ apps others ∨
      x ∈ apps (setDifferencePolicyData (setIntersectionPolicyData data current) current))
    (hcovered : ∀ x, x ∈ apps others → x ∈ apps current) : FollowsUnion C s' := by
  refine ⟨?_, fun x => ?_, fun x => ?_⟩
  · rw [hmodules]
    exact hafter.nodup
  · rw [hmodules, hheld, hafter.mem]
    have hx := hcovered x
    have honly := hafter.only x
    tauto
  · rw [hmodules, hheld, hlocked, hunion.mem_locked, hbefore, hafter.mem]
    have honly := hafter.only x
    tauto

/-- A set that publishes the admin's list, when it is all that is listed. -/
theorem followsUnion_published {current others data afterHandle : List ApplicationInstance}
    {locked : Finset AppKey} (hunion : FollowsUnion C s)
    (hbefore : ∀ x, x ∈ held (listed C s) ↔ x ∈ apps others ∨ x ∈ apps current)
    (hnodup : (apps afterHandle).Nodup)
    (hhandle : ∀ x, x ∈ apps afterHandle ↔ x ∈ apps current ∨ x ∈ apps data)
    (hmodules : s'.modules = ⟨apps afterHandle, locked⟩)
    (hlocked : ∀ x, x ∈ locked ↔ x ∈ s.modules.locked ∨ x ∈ apps afterHandle)
    (hheld : ∀ x, x ∈ held (listed C s') ↔ x ∈ apps others ∨ x ∈ apps afterHandle)
    (hcovered : ∀ x, x ∈ apps others → x ∈ apps current ∨ x ∈ apps data) : FollowsUnion C s' := by
  refine ⟨?_, fun x => ?_, fun x => ?_⟩
  · rw [hmodules]
    exact hnodup
  · rw [hmodules, hheld]
    exact (or_iff_right_of_imp fun hx => (hhandle x).mpr (hcovered x hx)).symm
  · rw [hmodules, hheld, hlocked, hunion.mem_locked, hbefore, or_assoc]
    exact or_congr_right (or_iff_right_of_imp fun hx => (hhandle x).mpr (.inl hx))

theorem step_update (h : Readable C s) (hunion : FollowsUnion C s) {request : Request Answers}
    (haccepts : request.answers.Accepts) (hkeeps : RequestKeeps C order s admin request) :
    Readable C (policyStep (plugin C order).toPlugin s (.update admin ⟨.done, .done⟩ request)) ∧
      FollowsUnion C
        (policyStep (plugin C order).toPlugin s (.update admin ⟨.done, .done⟩ request)) := by
  obtain ⟨s', hs'⟩ : ∃ s', policyStep (plugin C order).toPlugin s
    (.update admin ⟨.done, .done⟩ request) = s' := ⟨_, rfl⟩
  rw [hs']
  obtain ⟨current, others, hcurrent, hothers, hvalues, hown, hmem, houtcome⟩ :=
    policyStep_update_apps (plugin C order).toPlugin admin (C := C) h policyName_ne rfl
      (getOthersMergePolicyData_text order h admin) request (fun _ => rfl) hs'
  have hown : ∀ x, x ∈ apps current ↔ x ∈ listed C s admin := hown
  have hmem : ∀ x, x ∈ apps others ↔ x ∈ heldByOthers (listed C s) admin := hmem
  have hbefore : ∀ x, x ∈ held (listed C s) ↔ x ∈ apps others ∨ x ∈ apps current := by
    intro x
    rw [held_eq _ admin, hown, hmem]
    exact Iff.rfl
  rcases houtcome with ⟨-, hmodules, hstore⟩ | ⟨hsize, res, current', merge', hhandle, hfail, hdone⟩
  · exact followsUnion_same h hunion hmodules hstore
  have hfailed : ∀ ret, failed ret = true → (ret, s.modules, current, others) =
      (res, s'.modules, current', merge') → Readable C s' ∧ FollowsUnion C s' := by
    intro ret hret heq
    simp only [Prod.mk.injEq] at heq
    obtain ⟨rfl, hmodules, -⟩ := heq
    exact followsUnion_same h hunion hmodules.symm (hfail hret)
  have hkeeps := hkeeps hsize
  unfold handle at hhandle
  cases htype : request.type with
  | set =>
    rw [htype] at hhandle hkeeps
    dsimp only at hhandle
    obtain ⟨hinj, hcovered⟩ := hkeeps
    have hinj : Set.InjOn mergeText {x | x ∈ apps current ∨ x ∈ apps request.named} :=
      hinj.mono fun x hx => hx.imp_left (hown x).mp
    rcases onSetPolicy_cases haccepts s.modules current others (named_ne_nil hsize) with
      ⟨ret, hret, hset⟩ | ⟨afterHandle, afterMerge, hafter, hset⟩
    · exact hfailed ret hret (hset.symm.trans hhandle)
    have hnew : needAddMergeData C order s admin request = setDifferencePolicyData others
        (setDifferencePolicyData [] (setDifferencePolicyData current request.named)) := by
      obtain ⟨hcurrentText, hothersText⟩ := hvalues
      unfold needAddMergeData
      rw [show (deserialize C (s.store.manager.policyValue admin
        POLICY_MANAGE_USER_NON_STOP_APPS)).2 = current from hcurrentText,
        show (deserialize C (getOthersMergePolicyData C order s.store.manager admin)).2 = others
          from hothersText]
    rcases hset with ⟨hnone, hset⟩ | ⟨hsome, locked, hlocked, hset⟩
    · -- Nothing is published, for all requested instances are listed.
      have heq := hset.symm.trans hhandle
      simp only [Prod.mk.injEq] at heq
      obtain ⟨rfl, hmodules, rfl, rfl⟩ := heq
      obtain ⟨hreadable, hheld⟩ := hdone rfl hafter.nodup_handle hafter.nodup_merge
      refine ⟨hreadable, hunion.congr hmodules.symm fun x => (hheld x).trans ?_⟩
      rw [hbefore, hafter.mem_handle hinj, ← or_assoc]
      exact or_iff_left_of_imp (listed_of_needAdd_eq_nil hnone)
    · have heq := hset.symm.trans hhandle
      simp only [Prod.mk.injEq] at heq
      obtain ⟨rfl, hmodules, rfl, rfl⟩ := heq
      obtain ⟨hreadable, hheld⟩ := hdone rfl hafter.nodup_handle hafter.nodup_merge
      refine ⟨hreadable, followsUnion_published hunion hbefore hafter.nodup_handle
        (hafter.mem_handle hinj) hmodules.symm hlocked hheld fun x hx => ?_⟩
      exact (hcovered (hnew ▸ hsome) x ((hmem x).mp hx)).imp_left (hown x).mpr
  | remove =>
    rw [htype] at hhandle hkeeps
    dsimp only at hhandle
    rcases onRemovePolicy_cases haccepts s.modules others hcurrent (named_ne_nil hsize) with
      ⟨ret, hret, hremove⟩ | ⟨hafter, locked, hlocked, hremove⟩
    · exact hfailed ret hret (hremove.symm.trans hhandle)
    · have heq := hremove.symm.trans hhandle
      simp only [Prod.mk.injEq] at heq
      obtain ⟨rfl, hmodules, rfl, rfl⟩ := heq
      obtain ⟨hreadable, hheld⟩ := hdone rfl hafter.nodup (nodup_apps_setUnionPolicyData _ _)
      have hcovered := hkeeps fun x hx =>
        ⟨(hown x).mp (hafter.only x hx).1, fun hothers => (hafter.only x hx).2 ((hmem x).mpr hothers)⟩
      refine ⟨hreadable, followsUnion_removed hunion hbefore hafter hmodules.symm hlocked hheld
        fun x hx => (hown x).mpr (hcovered x ((hmem x).mp hx))⟩
  | get =>
    rw [htype] at hhandle
    exact hfailed _ (by decide) hhandle
  | unknown =>
    rw [htype] at hhandle
    exact hfailed _ (by decide) hhandle

theorem step_removeAdmin (h : Readable C s) (hunion : FollowsUnion C s) {answers : Answers}
    (haccepts : answers.Accepts)
    (hkeeps : ∀ x, x ∈ listed C s admin → x ∉ heldByOthers (listed C s) admin) :
    Readable C (policyStep (plugin C order).toPlugin s
        (.removeAdmin admin ⟨.done, .done⟩ answers)) ∧
      FollowsUnion C (policyStep (plugin C order).toPlugin s
        (.removeAdmin admin ⟨.done, .done⟩ answers)) := by
  obtain ⟨others, hnodup, hmem, htext⟩ := getOthersMergePolicyData_text order h admin
  rcases policyStep_removeAdmin_cases (plugin C order).toPlugin admin h.good policyName_ne rfl
    answers with ⟨-, hsame⟩ | ⟨-, hmodules, hsaved⟩
  · rw [hsame]
    exact ⟨h, hunion⟩
  obtain ⟨current, hcurrent, hvalue⟩ := h.text admin.1
  have hown : ∀ x, x ∈ apps current ↔ x ∈ listed C s admin := by
    intro x
    rw [listed, itemsHeld, hvalue, itemsOf_serialize]
    exact Iff.rfl
  generalize policyStep (plugin C order).toPlugin s (.removeAdmin admin ⟨.done, .done⟩ answers) = s'
    at hmodules hsaved ⊢
  have hothers : (plugin C order).getOthersMergePolicyData s.store.manager admin =
    serialize C others "" := htext
  -- The admin lists nothing that others list, so that the others' list is published as it is.
  have hmodules : s'.modules = (removeOtherModulePolicy answers s.modules
      (setDifferencePolicyData (setNeedRemoveMergePolicyData others current) others) current).2 := by
    rw [hmodules, hothers]
    show (onAdminRemove C s.modules answers (s.store.manager.policyValue admin
      POLICY_MANAGE_USER_NON_STOP_APPS) (serialize C others "")).2 = _
    rw [hvalue, onAdminRemove]
    simp only [deserialize_serialize]
  rw [hothers] at hsaved
  refine ⟨h.saved hsaved isText_empty (isText_serialize hnodup), ?_⟩
  have hheld : ∀ x, x ∈ held (listed C s') ↔ x ∈ apps others := by
    intro x
    have hnone : held (listed C s') = heldByOthers (listed C s) admin ∪ itemsOf C "" :=
      held_saved hsaved
    rw [hnone, itemsOf_empty, Set.union_empty, hmem]
  have hapart : ∀ x, x ∈ apps current → x ∉ apps others := fun x hx hmemOthers =>
    hkeeps x ((hown x).mp hx) ((hmem x).mp hmemOthers)
  have hpublished : ∀ x, x ∈ apps (setDifferencePolicyData
      (setNeedRemoveMergePolicyData others current) others) ↔ x ∈ apps others := by
    intro x
    have hor : x ∈ apps (setDifferencePolicyData (setNeedRemoveMergePolicyData others current) others)
        ∨ x ∈ apps (setNeedRemoveMergePolicyData others current) ↔
          x ∈ apps others ∨ x ∈ apps (setNeedRemoveMergePolicyData others current) :=
      mem_apps_setDifferencePolicyData_or
    rw [mem_apps_setNeedRemoveMergePolicyData] at hor
    constructor
    · exact mem_apps_of_mem_setDifferencePolicyData
    · intro hx
      exact (hor.mpr (.inl hx)).resolve_right fun hremove => hremove.2 hx
  obtain ⟨locked, hremove, hlocked⟩ := removeOtherModulePolicy_accepts haccepts s.modules
    (setDifferencePolicyData (setNeedRemoveMergePolicyData others current) others) current
  rw [hremove] at hmodules
  refine ⟨?_, fun x => ?_, fun x => ?_⟩
  · rw [hmodules]
    exact nodup_apps_setDifferencePolicyData hnodup
  · rw [hmodules, hheld, hpublished]
  · rw [hmodules, hheld, hlocked, hunion.mem_locked, held_eq _ admin]
    constructor
    · rintro ⟨hx | hx, hnone⟩
      · exact (hmem x).mpr hx
      · exact absurd ((hown x).mpr hx) hnone
    · exact fun hx => ⟨.inl ((hmem x).mp hx), fun hcurrent => hapart x hcurrent hx⟩

theorem step_visit (h : Readable C s) (hunion : FollowsUnion C s) {event : BundleRemoved Answers}
    (haccepts : event.answers.Accepts) (hkeeps : VisitKeeps C s event admin) :
    Readable C ((plugin C order).visit ⟨.done, .done⟩ event s admin
        (s.store.manager.policyValue admin POLICY_MANAGE_USER_NON_STOP_APPS)) ∧
      FollowsUnion C ((plugin C order).visit ⟨.done, .done⟩ event s admin
        (s.store.manager.policyValue admin POLICY_MANAGE_USER_NON_STOP_APPS)) := by
  obtain ⟨s', hs'⟩ : ∃ s', (plugin C order).visit ⟨.done, .done⟩ event s admin
    (s.store.manager.policyValue admin POLICY_MANAGE_USER_NON_STOP_APPS) = s' := ⟨_, rfl⟩
  rw [hs']
  obtain ⟨current, others, hcurrent, hothers, hread, hown, hmem, houtcome⟩ :=
    visit_apps (plugin C order) admin onRemovePolicy (C := C) h policyName_ne rfl
      (getOthersMergePolicyData_text order h admin) event (fun _ => rfl) hs'
  have hown : ∀ x, x ∈ apps current ↔ x ∈ listed C s admin := hown
  have hmem : ∀ x, x ∈ apps others ↔ x ∈ heldByOthers (listed C s) admin := hmem
  have hbefore : ∀ x, x ∈ held (listed C s) ↔ x ∈ apps others ∨ x ∈ apps current := by
    intro x
    rw [held_eq _ admin, hown, hmem]
    exact Iff.rfl
  rcases houtcome with ⟨-, hmodules, hreadable, hheld⟩ |
    ⟨app, res, current', merge', hfirst, happ, hremove, hdone⟩
  · exact ⟨hreadable, hunion.congr hmodules fun x => (hheld x).trans (hbefore x).symm⟩
  rcases onRemovePolicy_cases haccepts s.modules others hcurrent (List.cons_ne_nil app []) with
    ⟨ret, -, hrefused⟩ | ⟨hafter, locked, hlocked, hsent⟩
  · have heq := hrefused.symm.trans hremove
    simp only [Prod.mk.injEq] at heq
    obtain ⟨-, hmodules, rfl, rfl⟩ := heq
    obtain ⟨hreadable, hheld⟩ := hdone hcurrent hothers
    rw [if_neg (List.ne_nil_of_mem happ)] at hheld
    exact ⟨hreadable, hunion.congr hmodules.symm fun x => (hheld x).trans (hbefore x).symm⟩
  · have heq := hsent.symm.trans hremove
    simp only [Prod.mk.injEq] at heq
    obtain ⟨-, hmodules, rfl, rfl⟩ := heq
    obtain ⟨hreadable, hheld⟩ := hdone hafter.nodup (nodup_apps_setUnionPolicyData _ _)
    have hkey : ∀ x, x ∈ apps [app] ↔ x = app.key := fun x => List.mem_singleton
    obtain ⟨hlisted, hnone⟩ := hafter.only app.key ((hkey _).mpr rfl)
    obtain ⟨⟨y, hy, hne⟩, hcovered⟩ := hkeeps app (by rw [← hread] at hfirst; exact hfirst)
      fun hothers => hnone ((hmem _).mpr hothers)
    -- The admin's list is not empty after the removal.
    have hrest : setDifferencePolicyData (setIntersectionPolicyData [app] current) current ≠ [] := by
      intro hnil
      have hmemY := (hafter.mem y).mpr ⟨(hown y).mpr hy, fun h => hne ((hkey y).mp h)⟩
      rw [hnil] at hmemY
      exact List.not_mem_nil hmemY
    rw [if_neg hrest] at hheld
    exact ⟨hreadable, followsUnion_removed hunion hbefore hafter hmodules.symm hlocked hheld
      fun x hx => (hown x).mpr (hcovered x ((hmem x).mp hx))⟩

theorem step_keeps (h : Readable C s) (hunion : FollowsUnion C s) (op : Op)
    (hkeeps : Keeps C order s op) :
    Readable C ((plugin C order).step order s op) ∧
      FollowsUnion C ((plugin C order).step order s op) := by
  cases op with
  | policy op =>
    cases op with
    | update admin writes request =>
      obtain ⟨rfl, haccepts, hkeeps⟩ := hkeeps
      exact step_update h hunion haccepts hkeeps
    | removeAdmin admin writes answers =>
      obtain ⟨rfl, haccepts, hkeeps⟩ := hkeeps
      exact step_removeAdmin h hunion haccepts hkeeps
  | event writes event =>
    refine (plugin C order).dispatchForAdmins_keeps (I := fun s => Readable C s ∧ FollowsUnion C s)
      policyName_ne (fun s hs => hs.1.good) (fun s admin hs hvisit _ => ?_) ⟨h, hunion⟩ hkeeps
    obtain ⟨hwrites, haccepts, hvisit⟩ := hvisit
    rw [hwrites]
    exact step_visit hs.1 hs.2 haccepts hvisit

theorem followsUnion_boot (userId : Int) :
    Readable C (boot userId) ∧ FollowsUnion C (boot userId) := by
  have hnone : held (listed C (boot userId)) = ∅ := held_new itemsOf_empty userId
  refine ⟨textStore_new isText_empty userId, List.nodup_nil, fun x => ?_, fun x => ?_⟩
  · rw [hnone]
    exact iff_of_false List.not_mem_nil (Set.notMem_empty x)
  · rw [hnone]
    exact iff_of_false (Finset.notMem_empty x) (Set.notMem_empty x)

end Step

/-! ### Runs -/

namespace SharedApps

/-- Every bundle is installed, no account disables the super hub, and the modules take what they are
given. -/
def accepts : Answers :=
  ⟨fun _ => true, "com.superhub", (ERR_OK, [100]), fun _ => "", true, ERR_OK, fun _ => true⟩

def app (bundleName : String) : ApplicationInstance := ⟨bundleName, bundleName, 100, 0⟩

def request (type : FuncOperateType) (bundleName : String) : Request Answers :=
  ⟨type, [app bundleName], fun _ => none, accepts⟩

/-- Two admins list an instance each. -/
def ops : List Op :=
  [.policy (.update firstAdmin ⟨.done, .done⟩ (request .set "com.a")),
    .policy (.update secondAdmin ⟨.done, .done⟩ (request .set "com.b"))]

abbrev final : PluginState NonStopApps :=
  run ((plugin .standard .evaluated).step .evaluated) (boot 100) ops

theorem listed_first : (app "com.a").key ∈ listed .standard final firstAdmin := by
  show (app "com.a").key ∈ apps (deserialize .standard _).2
  decide +kernel

end SharedApps

end ManageUserNonStopAppsPlugin

end Edm
