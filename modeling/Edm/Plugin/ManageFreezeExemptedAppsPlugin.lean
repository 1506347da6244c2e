import Edm.Plugin.ManageAppsPolicy

/-! `ManageFreezeExemptedAppsPlugin`: the instances that are not frozen in the background.  The
resource scheduler is told the whole list each time. -/

set_option autoImplicit false

namespace Edm

open Library Library.UnorderedMap

def POLICY_MANAGE_FREEZE_EXEMPTED_APPS : String := "manage_freeze_exempted_apps"

namespace ManageFreezeExemptedAppsPlugin

open ManageAppsSerializer ManageAppsPolicy

/-- What the bundle manager says of an instance, and the code of the resource scheduler. -/
structure Answers where
  isBundleInstalled : AppKey → Bool
  reportSyncEvent : ErrCode

/-- The code, and the list that the resource scheduler was told last. -/
def setOtherModulePolicy (answers : Answers) (exempted freezeExemptedApps : List ApplicationInstance) :
    ErrCode × List ApplicationInstance :=
  if answers.reportSyncEvent != ERR_OK then (EdmReturnErrCode.SYSTEM_ABNORMALLY, exempted)
  else (ERR_OK, freezeExemptedApps)

def filterUninstalledBundle (answers : Answers) (data : List ApplicationInstance) :
    List ApplicationInstance :=
  data.filter fun appInfo => !answers.isBundleInstalled appInfo.key

/-- The differences sort the lists that they are made of. -/
def onSetPolicy : Handler (List ApplicationInstance) Answers :=
  fun answers exempted freezeExemptedApps currentData mergeData =>
    let addData := setDifferencePolicyData currentData freezeExemptedApps
    let uninstalledData := filterUninstalledBundle answers addData
    if uninstalledData ≠ [] then
      (EdmReturnErrCode.PARAMETER_VERIFICATION_FAILED, exempted, currentData, mergeData)
    else
      let addData := setDifferencePolicyData uninstalledData addData
      let afterHandle := setUnionPolicyData (sort currentData) addData
      let afterMerge := setUnionPolicyData (sort mergeData) afterHandle
      if MANAGE_APPS_MAX_SIZE < afterMerge.length then
        (EdmReturnErrCode.PARAMETER_VERIFICATION_FAILED, exempted, currentData, mergeData)
      else
        let (ret, exempted) :=
          if afterMerge ≠ [] then setOtherModulePolicy answers exempted afterMerge
          else (ERR_OK, exempted)
        if failed ret then (ret, exempted, currentData, mergeData)
        else (ERR_OK, exempted, afterHandle, afterMerge)

/-- What is left of the admin's list is sent. -/
def onRemovePolicy : Handler (List ApplicationInstance) Answers :=
  fun answers exempted freezeExemptedApps currentData mergeData =>
    let needRemovePolicy := setIntersectionPolicyData freezeExemptedApps currentData
    let needRemoveMergePolicy := setNeedRemoveMergePolicyData mergeData needRemovePolicy
    let needSetPolicy := setNeedRemoveMergePolicyData needRemoveMergePolicy currentData
    let failedData := setNeedRemoveMergePolicyData needRemoveMergePolicy freezeExemptedApps
    if failedData ≠ [] then
      (EdmReturnErrCode.PARAMETER_VERIFICATION_FAILED, exempted, currentData, mergeData)
    else
      let (ret, exempted) :=
        if needRemoveMergePolicy ≠ [] then setOtherModulePolicy answers exempted needSetPolicy
        else (ERR_OK, exempted)
      if failed ret then (ret, exempted, currentData, mergeData)
      else
        let currentData := setDifferencePolicyData needRemovePolicy currentData
        (ERR_OK, exempted, currentData, setUnionPolicyData currentData mergeData)

variable (C : IntCJson)

/-- What the others list is sent. -/
def onAdminRemove (exempted : List ApplicationInstance) (answers : Answers)
    (_currentJsonData mergeJsonData : String) : ErrCode × List ApplicationInstance :=
  setOtherModulePolicy answers exempted (deserialize C mergeJsonData).2

def getOthersMergePolicyData (order : HashOrder) (m : UserPolicyManager) (adminName : String) :
    String :=
  let adminValues := m.adminValues POLICY_MANAGE_FREEZE_EXEMPTED_APPS
  if isEmpty adminValues then ""
  else mergeValues C POLICY_MANAGE_FREEZE_EXEMPTED_APPS m
    (othersValues order m POLICY_MANAGE_FREEZE_EXEMPTED_APPS adminName)

def plugin (order : HashOrder) :
    EventPlugin (List ApplicationInstance) (Request Answers) Answers (BundleRemoved Answers) where
  policyName := POLICY_MANAGE_FREEZE_EXEMPTED_APPS
  needSave := true
  getOthersMergePolicyData := getOthersMergePolicyData C order
  onHandlePolicy :=
    onHandlePolicy C POLICY_MANAGE_FREEZE_EXEMPTED_APPS onSetPolicy onRemovePolicy
  onAdminRemove := onAdminRemove C
  onPluginEvent _ event := nomatch event
  onEvent := onBundleRemoved C onRemovePolicy

abbrev Op := DispatchOp (Request Answers) Answers (BundleRemoved Answers)

section Run

variable (order : HashOrder) (s : PluginState (List ApplicationInstance))

/-- A user without policies, and a resource scheduler that was told nothing. -/
abbrev boot (userId : Int) : PluginState (List ApplicationInstance) := PluginState.boot [] userId

/-- The instances that an admin lists. -/
abbrev listed (admin : AdminName) : Set AppKey :=
  itemsHeld (itemsOf C) POLICY_MANAGE_FREEZE_EXEMPTED_APPS s.store admin

/-- The list that the resource scheduler was told last is the union of the admins' lists. -/
structure FollowsUnion : Prop where
  nodup : (apps s.modules).Nodup
  mem : ∀ x, x ∈ apps s.modules ↔ x ∈ held (listed C s)

/-- A request keeps the union.  For a set, no two of the instances that are listed or requested have
the same text in a union; for a removal that is carried out, the admin lists all that others list. -/
def RequestKeeps (admin : AdminName) (request : Request Answers) : Prop :=
  request.answers.reportSyncEvent = ERR_OK →
  ¬(request.apps = [] ∨ MANAGE_APPS_MAX_SIZE < request.apps.length) →
    match request.type with
    | .set => Set.InjOn mergeText {x | x ∈ held (listed C s) ∨ x ∈ apps request.named}
    | .remove =>
      (∀ x, x ∈ apps request.named →
        x ∈ listed C s admin ∧ x ∉ heldByOthers (listed C s) admin) →
      ∀ x, x ∈ heldByOthers (listed C s) admin → x ∈ listed C s admin
    | _ => True

/-- A visit keeps the union.  Where an instance of the bundle is taken off the list that is sent, the
admin lists another instance, and all that others list. -/
def VisitKeeps (event : BundleRemoved Answers) (admin : AdminName) : Prop :=
  event.answers.reportSyncEvent = ERR_OK → ∀ app, firstOfBundle event (deserialize C
    (s.store.manager.policyValue admin POLICY_MANAGE_FREEZE_EXEMPTED_APPS)).2 = some app →
    app.key ∉ heldByOthers (listed C s) admin →
      (∃ x, x ∈ listed C s admin ∧ x ≠ app.key) ∧
        ∀ x, x ∈ heldByOthers (listed C s) admin → x ∈ listed C s admin

/-- The writes of an operation take effect, and it keeps the union.  When an admin is removed, the
resource scheduler takes the list, or others list all that the admin lists. -/
def Keeps : Op → Prop
  | .policy (.update admin writes request) =>
    writes = ⟨.done, .done⟩ ∧ RequestKeeps C s admin request
  | .policy (.removeAdmin admin writes answers) =>
    writes = ⟨.done, .done⟩ ∧ (answers.reportSyncEvent = ERR_OK ∨
      ∀ x, x ∈ listed C s admin → x ∈ heldByOthers (listed C s) admin)
  | .event writes event =>
    (plugin C order).EachVisit order writes event (fun s admin =>
      writes admin = ⟨.done, .done⟩ ∧ VisitKeeps C s (event admin) admin) s

end Run

/-! ### The handlers -/

section Handlers

variable {data currentData : List ApplicationInstance}

theorem setOtherModulePolicy_cases (answers : Answers) (exempted freezeExemptedApps :
      List ApplicationInstance) :
    (answers.reportSyncEvent = ERR_OK ∧
        setOtherModulePolicy answers exempted freezeExemptedApps = (ERR_OK, freezeExemptedApps)) ∨
      ∃ ret, failed ret = true ∧
        setOtherModulePolicy answers exempted freezeExemptedApps = (ret, exempted) := by
  unfold setOtherModulePolicy
  by_cases hreport : (answers.reportSyncEvent != ERR_OK) = true
  · rw [if_pos hreport]
    exact .inr ⟨_, by decide, rfl⟩
  · rw [if_neg hreport]
    exact .inl ⟨bne_eq_false_iff_eq.mp (Bool.eq_false_iff.mpr hreport), rfl⟩

/-- A set that succeeds sends the merged list. -/
theorem onSetPolicy_cases (answers : Answers)
    (exempted currentData mergeData : List ApplicationInstance) (hdata : data ≠ []) :
    (∃ ret, failed ret = true ∧ onSetPolicy answers exempted data currentData mergeData =
        (ret, exempted, currentData, mergeData)) ∨
      answers.reportSyncEvent = ERR_OK ∧ ∃ afterHandle afterMerge : List ApplicationInstance,
        AfterSet currentData mergeData data afterHandle afterMerge ∧
          onSetPolicy answers exempted data currentData mergeData =
            (ERR_OK, afterMerge, afterHandle, afterMerge) := by
  have hafter := afterSet currentData mergeData hdata
  unfold onSetPolicy
  dsimp only
  by_cases huninstalled :
      filterUninstalledBundle answers (setDifferencePolicyData currentData data) ≠ []
  · rw [if_pos huninstalled]
    exact .inl ⟨_, by decide, rfl⟩
  rw [if_neg huninstalled, not_not.mp huninstalled]
  split
  · exact .inl ⟨_, by decide, rfl⟩
  rw [if_pos hafter.merge_ne_nil]
  rcases setOtherModulePolicy_cases answers exempted (setUnionPolicyData (sort mergeData)
    (setUnionPolicyData (sort currentData) (setDifferencePolicyData []
      (setDifferencePolicyData currentData data)))) with ⟨hreport, hsent⟩ | ⟨ret, hret, hsent⟩
  · rw [hsent]
    exact .inr ⟨hreport, _, _, hafter, rfl⟩
  · rw [hsent]
    dsimp only
    rw [if_pos hret]
    exact .inl ⟨ret, hret, rfl⟩

/-- A removal that succeeds sends what is left of the admin's list. -/
theorem onRemovePolicy_cases (answers : Answers) (exempted mergeData : List ApplicationInstance)
    (hcurrent : (apps currentData).Nodup) (hdata : data ≠ []) :
    (∃ ret, failed ret = true ∧ onRemovePolicy answers exempted data currentData mergeData =
        (ret, exempted, currentData, mergeData)) ∨
      answers.reportSyncEvent = ERR_OK ∧ AfterRemove currentData mergeData data ∧
        ∃ needSetPolicy : List ApplicationInstance, (apps needSetPolicy).Nodup ∧
          (∀ x, x ∈ apps needSetPolicy ↔ x ∈ apps currentData ∧ x ∉ apps data) ∧
          onRemovePolicy answers exempted data currentData mergeData =
            (ERR_OK, needSetPolicy,
              setDifferencePolicyData (setIntersectionPolicyData data currentData) currentData,
              setUnionPolicyData (setDifferencePolicyData
                (setIntersectionPolicyData data currentData) currentData) mergeData) := by
  unfold onRemovePolicy
  dsimp only
  by_cases hfailed : setNeedRemoveMergePolicyData (setNeedRemoveMergePolicyData mergeData
      (setIntersectionPolicyData data currentData)) data = []
  · rw [if_neg (not_not.mpr hfailed)]
    have hafter := afterRemove hcurrent hfailed
    have hmerge := hafter.needRemoveMerge_ne_nil hdata
    rw [if_pos hmerge]
    rcases setOtherModulePolicy_cases answers exempted (setNeedRemoveMergePolicyData
      (setNeedRemoveMergePolicyData mergeData (setIntersectionPolicyData data currentData))
        currentData) with ⟨hreport, hsent⟩ | ⟨ret, hret, hsent⟩
    · rw [hsent]
      refine .inr ⟨hreport, hafter, _, nodup_apps_setNeedRemoveMergePolicyData _ hcurrent,
        fun x => ?_, rfl⟩
      rw [mem_apps_setNeedRemoveMergePolicyData, mem_apps_needRemoveMerge]
      have hx := hafter.only x
      tauto
    · rw [hsent]
      dsimp only
      rw [if_pos hret]
      exact .inl ⟨ret, hret, rfl⟩
  · rw [if_pos hfailed]
    exact .inl ⟨_, by decide, rfl⟩

end Handlers

/-! ### One operation -/

section Step

variable {C : IntCJson} {order : HashOrder} {s s' : PluginState (List ApplicationInstance)}
  {admin : AdminName}

theorem policyName_ne : POLICY_MANAGE_FREEZE_EXEMPTED_APPS ≠ "" := by decide

/-- What holds of the store in every run. -/
abbrev Readable (C : IntCJson) (s : PluginState (List ApplicationInstance)) : Prop :=
  TextStore (IsText C) POLICY_MANAGE_FREEZE_EXEMPTED_APPS s.store

theorem getOthersMergePolicyData_text (order : HashOrder) (h : Readable C s) (admin : AdminName) :
    ∃ others : List ApplicationInstance, (apps others).Nodup ∧
      (∀ x, x ∈ apps others ↔ x ∈ heldByOthers (listed C s) admin) ∧
      getOthersMergePolicyData C order s.store.manager admin = serialize C others "" := by
  obtain ⟨others, hnodup, hmem, htext⟩ := mergeValues_text h order admin
  refine ⟨others, hnodup, hmem, ?_⟩
  unfold getOthersMergePolicyData
  dsimp only
  by_cases hempty :
      isEmpty (s.store.manager.adminValues POLICY_MANAGE_FREEZE_EXEMPTED_APPS) = true
  · have hnil : othersValues order s.store.manager POLICY_MANAGE_FREEZE_EXEMPTED_APPS admin = [] := by
      refine (isEmpty_others order admin).mp ?_
      rw [Library.UnorderedMap.isEmpty_iff] at hempty ⊢
      rw [hempty, eq_empty_iff]
      intro x
      rw [lookup_erase_eq]
      split <;> rfl
    rw [if_pos hempty, ← htext, hnil, mergeValues_nil]
  · rw [if_neg hempty, htext]

theorem FollowsUnion.congr (h : FollowsUnion C s) (hmodules : s'.modules = s.modules)
    (hheld : ∀ x, x ∈ held (listed C s') ↔ x ∈ held (listed C s)) : FollowsUnion C s' := by
  refine ⟨?_, fun x => ?_⟩
  · rw [hmodules]
    exact h.nodup
  · rw [hmodules, h.mem, hheld]

/-- A request that leaves the store and the modules. -/
theorem followsUnion_same (h : Readable C s) (hunion : FollowsUnion C s)
    (hmodules : s'.modules = s.modules) (hstore : s'.store = s.store) :
    Readable C s' ∧ FollowsUnion C s' := by
  have hlisted : listed C s' = listed C s := by
    unfold listed
    rw [hstore]
  refine ⟨?_, hunion.congr hmodules fun x => by rw [hlisted]⟩
  unfold Readable
  rw [hstore]
  exact h

theorem step_update (h : Readable C s) (hunion : FollowsUnion C s) {request : Request Answers}
    (hkeeps : RequestKeeps C s admin request) :
    Readable C (policyStep (plugin C order).toPlugin s (.update admin ⟨.done, .done⟩ request)) ∧
      FollowsUnion C
        (policyStep (plugin C order).toPlugin s (.update admin ⟨.done, .done⟩ request)) := by
  obtain ⟨current, others, hcurrent, hothers, -, hown, hmem, houtcome⟩ :=
    policyStep_update_apps (plugin C order).toPlugin admin (C := C) h policyName_ne rfl
      (getOthersMergePolicyData_text order h admin) request (fun _ => rfl) rfl
  generalize policyStep (plugin C order).toPlugin s (.update admin ⟨.done, .done⟩ request) = s'
    at houtcome ⊢
  have hown : ∀ x, x ∈ apps current ↔ x ∈ listed C s admin := hown
  have hmem : ∀ x, x ∈ apps others ↔ x ∈ heldByOthers (listed C s) admin := hmem
  rcases houtcome with ⟨-, hmodules, hstore⟩ | ⟨hsize, res, current', merge', hhandle, hfail, hdone⟩
  · exact followsUnion_same h hunion hmodules hstore
  have hfailed : ∀ ret, failed ret = true → (ret, s.modules, current, others) =
      (res, s'.modules, current', merge') → Readable C s' ∧ FollowsUnion C s' := by
    intro ret hret heq
    simp only [Prod.mk.injEq] at heq
    obtain ⟨rfl, hmodules, -⟩ := heq
    exact followsUnion_same h hunion hmodules.symm (hfail hret)
  unfold handle at hhandle
  cases htype : request.type with
  | set =>
    rw [htype] at hhandle
    dsimp only at hhandle
    rcases onSetPolicy_cases request.answers s.modules current others (named_ne_nil hsize) with
      ⟨ret, hret, hset⟩ | ⟨hreport, afterHandle, afterMerge, hafter, hset⟩
    · exact hfailed ret hret (hset.symm.trans hhandle)
    · obtain ⟨rfl, hmodules, rfl, rfl⟩ : ERR_OK = res ∧ afterMerge = s'.modules ∧
          afterHandle = current' ∧ afterMerge = merge' := by
        simpa only [Prod.mk.injEq] using hset.symm.trans hhandle
      obtain ⟨hreadable, hheld⟩ := hdone rfl hafter.nodup_handle hafter.nodup_merge
      have hinj := hkeeps hreport hsize
      rw [htype] at hinj
      have hdistinct : Set.InjOn mergeText
          {x | (x ∈ apps others ∨ x ∈ apps current) ∨ x ∈ apps request.named} := by
        refine Set.InjOn.mono (fun x hx => ?_) hinj
        refine Or.imp_left (fun hx => ?_) hx
        rw [held_eq _ admin]
        exact hx.imp (hmem x).mp (hown x).mp
      refine ⟨hreadable, ⟨hmodules ▸ hafter.nodup_merge, fun x => ?_⟩⟩
      have hheld : x ∈ held (listed C s') ↔ x ∈ apps others ∨ x ∈ apps afterHandle := hheld x
      rw [← hmodules, hheld, hafter.mem_merge hdistinct,
        hafter.mem_handle (hdistinct.mono fun y hy => hy.imp_left .inr)]
  | remove =>
    rw [htype] at hhandle
    dsimp only at hhandle
    rcases onRemovePolicy_cases request.answers s.modules others hcurrent (named_ne_nil hsize) with
      ⟨ret, hret, hremove⟩ | ⟨hreport, hafter, needSetPolicy, hnodup, hneed, hremove⟩
    · exact hfailed ret hret (hremove.symm.trans hhandle)
    · have heq := hremove.symm.trans hhandle
      simp only [Prod.mk.injEq] at heq
      obtain ⟨rfl, hmodules, rfl, rfl⟩ := heq
      obtain ⟨hreadable, hheld⟩ := hdone rfl hafter.nodup (nodup_apps_setUnionPolicyData _ _)
      have hcovered := hkeeps hreport hsize
      rw [htype] at hcovered
      have hcovered := hcovered fun x hx =>
        ⟨(hown x).mp (hafter.only x hx).1, fun hothers => (hafter.only x hx).2 ((hmem x).mpr hothers)⟩
      refine ⟨hreadable, ⟨hmodules ▸ hnodup, fun x => ?_⟩⟩
      have hheld : x ∈ held (listed C s') ↔ x ∈ apps others ∨ x ∈ apps (setDifferencePolicyData
        (setIntersectionPolicyData request.named current) current) := hheld x
      rw [← hmodules, hheld, hafter.mem, hneed]
      -- What the others list is on the admin's list, and is not requested.
      have hlisted : x ∈ apps others → x ∈ apps current := fun hx =>
        (hown x).mpr (hcovered x ((hmem x).mp hx))
      have honly := hafter.only x
      tauto
  | get =>
    rw [htype] at hhandle
    exact hfailed _ (by decide) hhandle
  | unknown =>
    rw [htype] at hhandle
    exact hfailed _ (by decide) hhandle

theorem step_removeAdmin (h : Readable C s) (hunion : FollowsUnion C s) (answers : Answers)
    (hkeeps : answers.reportSyncEvent = ERR_OK ∨
      ∀ x, x ∈ listed C s admin → x ∈ heldByOthers (listed C s) admin) :
    Readable C (policyStep (plugin C order).toPlugin s
        (.removeAdmin admin ⟨.done, .done⟩ answers)) ∧
      FollowsUnion C (policyStep (plugin C order).toPlugin s
        (.removeAdmin admin ⟨.done, .done⟩ answers)) := by
  obtain ⟨others, hnodup, hmem, htext⟩ := getOthersMergePolicyData_text order h admin
  rcases policyStep_removeAdmin_cases (plugin C order).toPlugin admin h.good policyName_ne rfl
    answers with ⟨-, hsame⟩ | ⟨-, hmodules, hsaved⟩
  · rw [hsame]
    exact ⟨h, hunion⟩
  · generalize policyStep (plugin C order).toPlugin s (.removeAdmin admin ⟨.done, .done⟩ answers) = s'
      at hmodules hsaved ⊢
    have hothers : (plugin C order).getOthersMergePolicyData s.store.manager admin =
      serialize C others "" := htext
    have hmodules : s'.modules = (setOtherModulePolicy answers s.modules others).2 := by
      rw [hmodules, hothers]
      show (setOtherModulePolicy answers s.modules (deserialize C (serialize C others "")).2).2 = _
      rw [deserialize_serialize]
    rw [hothers] at hsaved
    refine ⟨h.saved hsaved isText_empty (isText_serialize hnodup), ?_⟩
    have hheld : ∀ x, x ∈ held (listed C s') ↔ x ∈ heldByOthers (listed C s) admin := by
      intro x
      have hnone : held (listed C s') = heldByOthers (listed C s) admin ∪ itemsOf C "" :=
        held_saved hsaved
      rw [hnone, itemsOf_empty, Set.union_empty]
    rcases setOtherModulePolicy_cases answers s.modules others with
      ⟨-, hsent⟩ | ⟨ret, hret, hrefused⟩
    · rw [hsent] at hmodules
      exact ⟨hmodules ▸ hnodup, fun x => by rw [hmodules, hmem, hheld]⟩
    · rw [hrefused] at hmodules
      rcases hkeeps with hreport | hlisted
      · rw [setOtherModulePolicy, hreport] at hrefused
        obtain rfl : ERR_OK = ret := (Prod.mk.inj hrefused).1
        cases hret
      · refine hunion.congr hmodules fun x => ?_
        rw [hheld, held_eq _ admin]
        exact ⟨.inl, fun hx => hx.elim id (hlisted x)⟩

theorem step_visit (h : Readable C s) (hunion : FollowsUnion C s) (event : BundleRemoved Answers)
    (hkeeps : VisitKeeps C s event admin) :
    Readable C ((plugin C order).visit ⟨.done, .done⟩ event s admin
        (s.store.manager.policyValue admin POLICY_MANAGE_FREEZE_EXEMPTED_APPS)) ∧
      FollowsUnion C ((plugin C order).visit ⟨.done, .done⟩ event s admin
        (s.store.manager.policyValue admin POLICY_MANAGE_FREEZE_EXEMPTED_APPS)) := by
  obtain ⟨s', hs'⟩ : ∃ s', (plugin C order).visit ⟨.done, .done⟩ event s admin
    (s.store.manager.policyValue admin POLICY_MANAGE_FREEZE_EXEMPTED_APPS) = s' := ⟨_, rfl⟩
  rw [hs']
  obtain ⟨current, others, hcurrent, hothers, hread, hown, hmem, houtcome⟩ :=
    visit_apps (plugin C order) admin onRemovePolicy (C := C) h policyName_ne rfl
      (getOthersMergePolicyData_text order h admin) event (fun _ => rfl) hs'
  have hown : ∀ x, x ∈ apps current ↔ x ∈ listed C s admin := hown
  have hmem : ∀ x, x ∈ apps others ↔ x ∈ heldByOthers (listed C s) admin := hmem
  have hbefore : ∀ x, x ∈ held (listed C s) ↔ x ∈ apps others ∨ x ∈ apps current := by
    intro x
    rw [held_eq _ admin, hown, hmem]
    exact Iff.rfl
  rcases houtcome with ⟨-, hmodules, hreadable, hheld⟩ |
    ⟨app, res, current', merge', hfirst, happ, hremove, hdone⟩
  · exact ⟨hreadable, hunion.congr hmodules fun x => (hheld x).trans (hbefore x).symm⟩
  rcases onRemovePolicy_cases event.answers s.modules others hcurrent (List.cons_ne_nil app []) with
    ⟨ret, -, hrefused⟩ | ⟨hreport, hafter, needSetPolicy, hnodup, hneed, hsent⟩
  · have heq := hrefused.symm.trans hremove
    simp only [Prod.mk.injEq] at heq
    obtain ⟨-, hmodules, rfl, rfl⟩ := heq
    obtain ⟨hreadable, hheld⟩ := hdone hcurrent hothers
    rw [if_neg (List.ne_nil_of_mem happ)] at hheld
    exact ⟨hreadable, hunion.congr hmodules.symm fun x => (hheld x).trans (hbefore x).symm⟩
  · have heq := hsent.symm.trans hremove
    simp only [Prod.mk.injEq] at heq
    obtain ⟨-, hmodules, rfl, rfl⟩ := heq
    obtain ⟨hreadable, hheld⟩ := hdone hafter.nodup (nodup_apps_setUnionPolicyData _ _)
    have hkey : ∀ x, x ∈ apps [app] ↔ x = app.key := fun x => List.mem_singleton
    obtain ⟨hlisted, hnone⟩ := hafter.only app.key ((hkey _).mpr rfl)
    obtain ⟨⟨y, hy, hne⟩, hcovered⟩ := hkeeps hreport app (by rw [← hread] at hfirst; exact hfirst)
      fun hothers => hnone ((hmem _).mpr hothers)
    -- The admin's list is not empty after the removal.
    have hrest : setDifferencePolicyData (setIntersectionPolicyData [app] current) current ≠ [] := by
      intro hnil
      have hmemY := (hafter.mem y).mpr ⟨(hown y).mpr hy, fun h => hne ((hkey y).mp h)⟩
      rw [hnil] at hmemY
      exact List.not_mem_nil hmemY
    rw [if_neg hrest] at hheld
    refine ⟨hreadable, ⟨hmodules ▸ hnodup, fun x => ?_⟩⟩
    have hheld : x ∈ held (listed C s') ↔ x ∈ apps others ∨ x ∈ apps (setDifferencePolicyData
      (setIntersectionPolicyData [app] current) current) := hheld x
    rw [← hmodules, hheld, hafter.mem, hneed]
    have hothers : x ∈ apps others → x ∈ apps current := fun hx =>
      (hown x).mpr (hcovered x ((hmem x).mp hx))
    have honly := hafter.only x
    tauto

theorem step_keeps (h : Readable C s) (hunion : FollowsUnion C s) (op : Op)
    (hkeeps : Keeps C order s op) :
    Readable C ((plugin C order).step order s op) ∧
      FollowsUnion C ((plugin C order).step order s op) := by
  cases op with
  | policy op =>
    cases op with
    | update admin writes request =>
      obtain ⟨rfl, hkeeps⟩ := hkeeps
      exact step_update h hunion hkeeps
    | removeAdmin admin writes answers =>
      obtain ⟨rfl, hkeeps⟩ := hkeeps
      exact step_removeAdmin h hunion answers hkeeps
  | event writes event =>
    refine (plugin C order).dispatchForAdmins_keeps (I := fun s => Readable C s ∧ FollowsUnion C s)
      policyName_ne (fun s hs => hs.1.good) (fun s admin hs hvisit _ => ?_) ⟨h, hunion⟩ hkeeps
    obtain ⟨hwrites, hvisit⟩ := hvisit
    rw [hwrites]
    exact step_visit hs.1 hs.2 (event admin) hvisit

theorem followsUnion_boot (userId : Int) :
    Readable C (boot userId) ∧ FollowsUnion C (boot userId) := by
  have hnone : held (listed C (boot userId)) = ∅ := held_new itemsOf_empty userId
  refine ⟨textStore_new isText_empty userId, List.nodup_nil, fun x => ?_⟩
  rw [hnone]
  exact iff_of_false List.not_mem_nil (Set.notMem_empty x)

end Step

/-! ### Runs -/

/-- In a run whose operations all keep the union, the list that the resource scheduler was told last
is the union of the admins' lists throughout. -/
theorem freezeExemptedApps_followUnion (C : IntCJson) (order : HashOrder) (userId : Int) (ops : List Op)
    (h : Each ((plugin C order).step order) (Keeps C order) (boot userId) ops) :
    Always ((plugin C order).step order) (FollowsUnion C) (boot userId) ops := by
  have hrun : Always ((plugin C order).step order) (fun s => Readable C s ∧ FollowsUnion C s)
      (boot userId) ops := by
    refine always_of_each (fun s op hs hkeeps => ?_) ?_ h
    · exact step_keeps hs.1 hs.2 op hkeeps
    · exact followsUnion_boot userId
  exact hrun.mono fun _ hs => hs.2

namespace OtherApp

/-- Every bundle is installed, and the resource scheduler takes every list. -/
def accepts : Answers := ⟨fun _ => true, ERR_OK⟩

def app (bundleName : String) : ApplicationInstance := ⟨bundleName, bundleName, 100, 0⟩

def request (type : FuncOperateType) (bundleName : String) : Request Answers :=
  ⟨type, [app bundleName], fun _ => none, accepts⟩

/-- An admin lists an instance and is removed. -/
theorem freezeExemptedApps_followUnion_removed :
    Always ((plugin .standard .evaluated).step .evaluated) (FollowsUnion .standard) (boot 100)
      [.policy (.update firstAdmin ⟨.done, .done⟩ (request .set "com.a")),
        .policy (.removeAdmin firstAdmin ⟨.done, .done⟩ accepts)] := by
  refine freezeExemptedApps_followUnion .standard .evaluated 100 _
    ⟨⟨rfl, fun _ _ => ?_⟩, ⟨rfl, .inl rfl⟩, trivial⟩
  have hnone : held (listed .standard (boot 100)) = ∅ := held_new itemsOf_empty 100
  show Set.InjOn mergeText {x | x ∈ held (listed .standard (boot 100)) ∨ x ∈ [(app "com.a").key]}
  rw [hnone]
  intro x hx y hy _
  rcases hx with hx | hx
  · exact absurd hx (Set.notMem_empty x)
  rcases hy with hy | hy
  · exact absurd hy (Set.notMem_empty y)
  rw [List.mem_singleton.mp hx, List.mem_singleton.mp hy]

/-- Two admins list an instance each, and the first takes its own off. -/
def ops : List Op :=
  [.policy (.update firstAdmin ⟨.done, .done⟩ (request .set "com.a")),
    .policy (.update secondAdmin ⟨.done, .done⟩ (request .set "com.b")),
    .policy (.update firstAdmin ⟨.done, .done⟩ (request .remove "com.a"))]

abbrev final : PluginState (List ApplicationInstance) :=
  run ((plugin .standard .evaluated).step .evaluated) (boot 100) ops

theorem listed_second : (app "com.b").key ∈ listed .standard final secondAdmin := by
  show (app "com.b").key ∈ apps (deserialize .standard _).2
  decide +kernel

/-- The resource scheduler was told an empty list, though the second admin lists an instance. -/
theorem other_app_not_exempted :
    ¬ ∀ (C : IntCJson) (order : HashOrder) (userId : Int) (ops : List Op),
      Always ((plugin C order).step order) (FollowsUnion C) (boot userId) ops := by
  intro h
  have hlast : FollowsUnion .standard final :=
    always_iff_prefix.mp (h .standard .evaluated 100 ops) ops List.prefix_rfl
  have hsent : (app "com.b").key ∉ apps final.modules := by decide +kernel
  exact hsent ((hlast.mem _).mpr ⟨secondAdmin, listed_second⟩)

end OtherApp

end ManageFreezeExemptedAppsPlugin

end Edm
