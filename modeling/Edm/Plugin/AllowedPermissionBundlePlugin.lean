import Edm.Admin.Admin
import Edm.Plugin.AllowedPermissionBundleSerializer
import Edm.Plugin.ItemPolicy

/-! `AllowedPermissionBundlePlugin`: instances of applications that keep a permission which is
disallowed for the others.  The access token service has a whitelist of tokens for each permission;
a token stands for an instance, and the service takes every change of a whitelist. -/

set_option autoImplicit false

namespace Edm

open Library

def POLICY_ALLOWED_PERMISSION_BUNDLE : String := "allowed_permission_bundle"
def SCENE_APP_UNINSTALL : String := "app_uninstall"

namespace AllowedPermissionBundlePlugin

open AllowedPermissionBundleSerializer

inductive PolicyScene where
  | policyAdd
  | policyRemove
  | adminRemove
  | appUninstall
  deriving DecidableEq

/-- Whether an instance is in the whitelist of a permission. -/
abbrev Whitelist := AllowedEntry → Bool

/-- A request as the parcel has it. -/
structure Parcel where
  sceneTag : String
  permission : String
  appInstance : ApplicationInstance

/-- The bundle name that the bundle manager knows for the identifier, if any, whether the permission
is disallowed for the account, and whether there is a token for the instance. -/
structure Answers where
  getBundleNameByAppId : Option String
  permissionDisallowed : Bool
  getAccessTokenId : AllowedEntry → Bool

structure Request where
  type : FuncOperateType
  parcel : Option Parcel
  answers : Answers

structure PolicyOperationParams where
  scene : PolicyScene
  permission : String
  appInstance : ApplicationInstance

def readParameters (request : Request) : Except ErrCode PolicyOperationParams :=
  match request.parcel with
  | none => .error EdmReturnErrCode.PARAMETER_VERIFICATION_FAILED
  | some parcel =>
    let scene :=
      if parcel.sceneTag = SCENE_APP_UNINSTALL then PolicyScene.appUninstall
      else if request.type = .set then PolicyScene.policyAdd
      else PolicyScene.policyRemove
    if parcel.permission = "" ∨ parcel.appInstance.appIdentifier = "" then
      .error EdmReturnErrCode.PARAMETER_VERIFICATION_FAILED
    else if request.type = .set ∧ scene ≠ .appUninstall then
      match request.answers.getBundleNameByAppId with
      | none => .error EdmReturnErrCode.DOCK_APP_NOT_INSTALLED
      | some bundleName =>
        .ok ⟨scene, parcel.permission, { parcel.appInstance with bundleName }⟩
    else .ok ⟨scene, parcel.permission, parcel.appInstance⟩

/-- The loop over the entries.  Without a token an addition or a removal by request fails, and the
other removals go on. -/
def updatePolicyWhiteList (getAccessTokenId : AllowedEntry → Bool) (policyScene : PolicyScene) :
    List AllowedEntry → Whitelist → ErrCode × Whitelist
  | [], whitelist => (ERR_OK, whitelist)
  | item :: policyData, whitelist =>
    if getAccessTokenId item then
      updatePolicyWhiteList getAccessTokenId policyScene policyData
        (Function.update whitelist item (policyScene == .policyAdd))
    else if policyScene = .adminRemove ∨ policyScene = .appUninstall then
      updatePolicyWhiteList getAccessTokenId policyScene policyData whitelist
    else (EdmReturnErrCode.PARAMETER_VERIFICATION_FAILED, whitelist)

def setOtherModulePolicy (answers : Answers) (whitelist : Whitelist) (policyData : PermissionApps) :
    ErrCode × Whitelist :=
  let (ret, whitelist) :=
    updatePolicyWhiteList answers.getAccessTokenId .policyAdd (entries policyData) whitelist
  if failed ret then (EdmReturnErrCode.PARAMETER_VERIFICATION_FAILED, whitelist)
  else (ERR_OK, whitelist)

def removeOtherModulePolicy (getAccessTokenId : AllowedEntry → Bool) (whitelist : Whitelist)
    (needRemovePolicy : PermissionApps) (policyScene : PolicyScene) : ErrCode × Whitelist :=
  let (ret, whitelist) :=
    updatePolicyWhiteList getAccessTokenId policyScene (entries needRemovePolicy) whitelist
  if policyScene = .adminRemove ∨ policyScene = .appUninstall then (ERR_OK, whitelist)
  else if failed ret then (EdmReturnErrCode.PARAMETER_VERIFICATION_FAILED, whitelist)
  else (ERR_OK, whitelist)

def checkPermissionDisallowed (answers : Answers) : ErrCode :=
  if answers.permissionDisallowed then ERR_OK
  else EdmReturnErrCode.CANNOT_SET_ALLOWED_PERMISSION_BUNDLE

def onSetPolicy (answers : Answers) (whitelist : Whitelist) (permission : String)
    (appInstance : ApplicationInstance) (currentData mergeData : PermissionApps) :
    ErrCode × Whitelist × PermissionApps × PermissionApps :=
  let ret := checkPermissionDisallowed answers
  if failed ret then (ret, whitelist, currentData, mergeData)
  else
    let newData : PermissionApps := [(permission, [appInstance])]
    let afterHandle := setUnionPolicyData newData currentData
    let afterMerge := setUnionPolicyData newData mergeData
    let needToAddPolicy : PermissionApps :=
      if !hasKey Prod.fst permission mergeData then newData
      else
        let addedApps := getAppsNotInList [appInstance] (valuesAt permission mergeData)
        if addedApps = [] then [] else [(permission, addedApps)]
    let (ret, whitelist) :=
      if needToAddPolicy = [] then (ERR_OK, whitelist)
      else setOtherModulePolicy answers whitelist needToAddPolicy
    if failed ret then (ret, whitelist, currentData, mergeData)
    else (ERR_OK, whitelist, afterHandle, afterMerge)

/-- The removal of an instance that the admin's list does not have leaves the merged data as it
is. -/
def onRemovePolicy (answers : Answers) (whitelist : Whitelist) (permission : String)
    (appInstance : ApplicationInstance) (currentData mergeData : PermissionApps)
    (scene : PolicyScene) : ErrCode × Whitelist × PermissionApps × PermissionApps :=
  let checkRet := checkPermissionDisallowed answers
  if failed checkRet then (checkRet, whitelist, currentData, mergeData)
  else
    let dataToRemove : PermissionApps := [(permission, [appInstance])]
    let needRemovePolicy := setIntersectionPolicyData dataToRemove currentData
    if valuesAt permission needRemovePolicy = [] then (ERR_OK, whitelist, currentData, mergeData)
    else
      let needRemoveMergePolicy := setNeedRemoveMergePolicyData mergeData needRemovePolicy
      let needResetPolicy := setDifferencePolicyData dataToRemove currentData
      let (ret, whitelist) :=
        if needRemoveMergePolicy = [] then (ERR_OK, whitelist)
        else removeOtherModulePolicy answers.getAccessTokenId whitelist needRemoveMergePolicy scene
      if failed ret then (ret, whitelist, currentData, mergeData)
      else (ERR_OK, whitelist, needResetPolicy, setUnionPolicyData needResetPolicy mergeData)

variable (C : IntCJson) (order : HashOrder)

/-- The others' merged data has the admin's own data for a set only. -/
def preparePolicyData (policyDataStr mergePolicyDataStr : String) (type : FuncOperateType) :
    PermissionApps × PermissionApps :=
  let currentData := (deserialize C policyDataStr).2
  let mergeData := (deserialize C mergePolicyDataStr).2
  (currentData, if type = .set then setUnionPolicyData currentData mergeData else mergeData)

def executePolicyOperation (type : FuncOperateType) (params : PolicyOperationParams)
    (answers : Answers) (whitelist : Whitelist) (currentData mergeData : PermissionApps) :
    ErrCode × Whitelist × PermissionApps × PermissionApps :=
  match type with
  | .set =>
    onSetPolicy answers whitelist params.permission params.appInstance currentData mergeData
  | .remove =>
    onRemovePolicy answers whitelist params.permission params.appInstance currentData mergeData
      params.scene
  | _ => (EdmReturnErrCode.PARAMETER_VERIFICATION_FAILED, whitelist, currentData, mergeData)

def updatePolicyResult (policyData : HandlePolicyData) (currentData mergeData : PermissionApps)
    (mergePolicyStr : String) : HandlePolicyData :=
  let afterHandle := serialize C currentData
  let afterMerge := serialize C mergeData
  { policyData := afterHandle
    mergePolicyData := afterMerge
    isChanged := policyData.policyData != afterHandle || mergePolicyStr != afterMerge }

def onHandlePolicy (m : UserPolicyManager) (whitelist : Whitelist) (request : Request)
    (policyData : HandlePolicyData) : ErrCode × Whitelist × HandlePolicyData :=
  match readParameters request with
  | .error ret => (ret, whitelist, policyData)
  | .ok params =>
    let (currentData, mergeData) :=
      preparePolicyData C policyData.policyData policyData.mergePolicyData request.type
    let mergePolicyStr := m.policyValue "" POLICY_ALLOWED_PERMISSION_BUNDLE
    let (ret, whitelist, currentData, mergeData) :=
      executePolicyOperation request.type params request.answers whitelist currentData mergeData
    if failed ret then (ret, whitelist, policyData)
    else (ERR_OK, whitelist, updatePolicyResult C policyData currentData mergeData mergePolicyStr)

def onAdminRemove (whitelist : Whitelist) (getAccessTokenId : AllowedEntry → Bool)
    (currentJsonData mergeJsonData : String) : ErrCode × Whitelist :=
  let currentData := (deserialize C currentJsonData).2
  let mergeData := (deserialize C mergeJsonData).2
  let needRemovePolicy := setDifferencePolicyData mergeData currentData
  (ERR_OK, (removeOtherModulePolicy getAccessTokenId whitelist needRemovePolicy .adminRemove).2)

def serializer : PolicySerializer PermissionApps where
  initial := []
  serialize dataObj := some (serialize C dataObj)
  deserialize policy :=
    match deserialize C policy with
    | (true, dataObj) => some dataObj
    | (false, _) => none
  mergePolicy data := some (mergePolicy data)

def plugin : Plugin Whitelist Request (AllowedEntry → Bool) Empty where
  policyName := POLICY_ALLOWED_PERMISSION_BUNDLE
  needSave := true
  getOthersMergePolicyData := IPluginTemplate.getOthersMergePolicyData (serializer C) order
    POLICY_ALLOWED_PERMISSION_BUNDLE
  onHandlePolicy := onHandlePolicy C
  onAdminRemove := onAdminRemove C
  onPluginEvent _ event := nomatch event

abbrev Op := PolicyOp Request (AllowedEntry → Bool)

/-- A user without policies, and empty whitelists. -/
abbrev boot (userId : Int) : PluginState Whitelist := PluginState.boot (fun _ => false) userId

section Run

variable (s : PluginState Whitelist)

/-- The entries of the map that a text stands for. -/
def itemsOf (policy : String) : Set AllowedEntry := {x | x ∈ entries (deserialize C policy).2}

/-- The entries that an admin stores. -/
abbrev listed (admin : AdminName) : Set AllowedEntry :=
  itemsHeld (itemsOf C) POLICY_ALLOWED_PERMISSION_BUNDLE s.store admin

/-- The entries of the combined map. -/
abbrev combined : Set AllowedEntry :=
  itemsOf C (s.store.manager.policyValue "" POLICY_ALLOWED_PERMISSION_BUNDLE)

/-- The combined map has the entries of all admins, and so have the whitelists. -/
structure FollowsUnion : Prop where
  combined : ∀ x, x ∈ combined C s ↔ x ∈ held (listed C s)
  whitelisted : ∀ x, s.modules x = true ↔ x ∈ held (listed C s)

/-- A set of an entry: it is held, or no entry that is held is taken for it. -/
def SetKeeps (x : AllowedEntry) : Prop :=
  x ∈ held (listed C s) ∨ ∀ y, y ∈ held (listed C s) → ¬ Similar x y

/-- A removal of an entry.  When the admin has no entry that is taken for it, others have all entries
of the admin.  Otherwise, when others have such an entry, they have all those of the admin; and when
they have none, the entry is the admin's only one, and there is a token for it if the application is
uninstalled. -/
structure RemoveKeeps (admin : AdminName) (scene : PolicyScene) (answers : Answers)
    (x : AllowedEntry) : Prop where
  absent : (∀ y, y ∈ listed C s admin → ¬ Similar x y) →
    ∀ y, y ∈ listed C s admin → y ∈ heldByOthers (listed C s) admin
  last : ∀ y, y ∈ listed C s admin → Similar x y →
    (∀ z, z ∈ heldByOthers (listed C s) admin → ¬ Similar x z) →
      y = x ∧ (scene = .appUninstall → answers.getAccessTokenId x = true)
  shared : ∀ y, y ∈ listed C s admin → Similar x y →
    (∃ z, z ∈ heldByOthers (listed C s) admin ∧ Similar x z) →
      y ∈ heldByOthers (listed C s) admin

/-- The writes of an operation take effect, and it keeps the union.  When an admin is removed, each
of its entries is held by others, or there is a token for it and no entry of others is taken for
it. -/
def Keeps : Op → Prop
  | .update admin writes request =>
    writes = ⟨.done, .done⟩ ∧ ∀ params, readParameters request = .ok params →
      request.answers.permissionDisallowed = true →
        (request.type = .set → SetKeeps C s (entryOf params.permission params.appInstance)) ∧
        (request.type = .remove → RemoveKeeps C s admin params.scene request.answers
          (entryOf params.permission params.appInstance))
  | .removeAdmin admin writes getAccessTokenId =>
    writes = ⟨.done, .done⟩ ∧ ∀ x, x ∈ listed C s admin →
      x ∈ heldByOthers (listed C s) admin ∨ getAccessTokenId x = true ∧
        ∀ y, y ∈ heldByOthers (listed C s) admin → ¬ Similar x y

/-- The removal of an entry that the admin does not hold changes neither the combined map nor the
whitelists, and one that others hold stays whitelisted. -/
def RemovalRight : Op → Prop
  | .update admin writes request => ∀ params, readParameters request = .ok params →
      request.type = .remove →
        let x := entryOf params.permission params.appInstance
        let s' := policyStep (plugin C order) s (.update admin writes request)
        (x ∉ listed C s admin → (∀ y, y ∈ combined C s' ↔ y ∈ combined C s) ∧
          ∀ y, s'.modules y = s.modules y) ∧
        (x ∈ heldByOthers (listed C s) admin → s'.modules x = true)
  | .removeAdmin _ _ _ => True

end Run

/-! ### The handlers -/

theorem updatePolicyWhiteList_add {getAccessTokenId : AllowedEntry → Bool} {whitelist : Whitelist}
    {x : AllowedEntry} :
    updatePolicyWhiteList getAccessTokenId .policyAdd [x] whitelist =
      if getAccessTokenId x then (ERR_OK, Function.update whitelist x true)
      else (EdmReturnErrCode.PARAMETER_VERIFICATION_FAILED, whitelist) := rfl

section Handlers

variable (answers : Answers) (whitelist : Whitelist) (permission : String)
  (appInstance : ApplicationInstance) {currentData mergeData : PermissionApps}

theorem proper_single : Proper [(permission, [appInstance])] := by
  refine ⟨List.pairwise_singleton _ _, fun pair hpair => ?_⟩
  rw [List.mem_singleton.mp hpair]
  exact List.cons_ne_nil _ _

theorem mem_entries_single {x : AllowedEntry} :
    x ∈ entries [(permission, [appInstance])] ↔ x = entryOf permission appInstance := by
  rw [entries, List.flatMap_singleton]
  exact List.mem_singleton

theorem permissionDisallowed_of_ok {answers : Answers}
    (h : ¬ failed (checkPermissionDisallowed answers) = true) :
    answers.permissionDisallowed = true := by
  by_contra hnot
  rw [checkPermissionDisallowed, if_neg hnot] at h
  exact h rfl

/-- What a set makes of the maps and the whitelists. -/
theorem onSetPolicy_cases (hmerge : Proper mergeData) :
    (failed (onSetPolicy answers whitelist permission appInstance currentData mergeData).1 = true ∧
        (onSetPolicy answers whitelist permission appInstance currentData mergeData).2.1 =
          whitelist) ∨
      answers.permissionDisallowed = true ∧ ∃ whitelist' afterHandle afterMerge,
        onSetPolicy answers whitelist permission appInstance currentData mergeData =
          (ERR_OK, whitelist', afterHandle, afterMerge) ∧ Proper afterHandle ∧ Proper afterMerge ∧
        (∀ x, x ∈ entries afterHandle ↔
          x = entryOf permission appInstance ∨ x ∈ entries currentData) ∧
        (∀ x, x ∈ entries afterMerge ↔
          x = entryOf permission appInstance ∨ x ∈ entries mergeData) ∧
        ((∃ y, y ∈ entries mergeData ∧ Similar (entryOf permission appInstance) y) ∧
            whitelist' = whitelist ∨
          (∀ y, y ∈ entries mergeData → ¬ Similar (entryOf permission appInstance) y) ∧
            whitelist' = Function.update whitelist (entryOf permission appInstance) true) := by
  unfold onSetPolicy
  dsimp only
  by_cases hcheck : failed (checkPermissionDisallowed answers) = true
  · rw [if_pos hcheck]
    exact .inl ⟨hcheck, rfl⟩
  have hdisallowed := permissionDisallowed_of_ok hcheck
  rw [if_neg hcheck]
  obtain ⟨hproper, hmem⟩ := setUnionPolicyData_spec [(permission, [appInstance])] currentData
  obtain ⟨hproperMerge, hmemMerge⟩ := setUnionPolicyData_spec [(permission, [appInstance])] mergeData
  simp only [mem_entries_single] at hmem hmemMerge
  have hneed : (if (!hasKey Prod.fst permission mergeData) = true then [(permission, [appInstance])]
      else if getAppsNotInList [appInstance] (valuesAt permission mergeData) = [] then []
      else [(permission, getAppsNotInList [appInstance] (valuesAt permission mergeData))]) =
        if isAppInList appInstance (valuesAt permission mergeData) then []
        else [(permission, [appInstance])] := by
    by_cases hkey : (!hasKey Prod.fst permission mergeData) = true
    · rw [if_pos hkey, valuesAt_of_not_hasKey hkey]
      rfl
    · rw [if_neg hkey, getAppsNotInList]
      cases hin : isAppInList appInstance (valuesAt permission mergeData) <;> simp [hin]
  rw [hneed]
  have hsimilar := isAppInList_iff hmerge.ascend permission appInstance
  by_cases hin : isAppInList appInstance (valuesAt permission mergeData) = true
  · rw [if_pos hin, if_pos rfl]
    exact .inr ⟨hdisallowed, _, _, _, rfl, hproper, hproperMerge, hmem, hmemMerge,
      .inl ⟨hsimilar.mp hin, rfl⟩⟩
  · rw [if_neg hin, if_neg (List.cons_ne_nil _ _), setOtherModulePolicy]
    have hentries : entries [(permission, [appInstance])] = [entryOf permission appInstance] := rfl
    rw [hentries, updatePolicyWhiteList_add]
    by_cases htoken : answers.getAccessTokenId (entryOf permission appInstance) = true
    · rw [if_pos htoken]
      exact .inr ⟨hdisallowed, _, _, _, rfl, hproper, hproperMerge, hmem, hmemMerge,
        .inr ⟨fun y hy hxy => hin (hsimilar.mpr ⟨y, hy, hxy⟩), rfl⟩⟩
    · rw [if_neg htoken]
      exact .inl ⟨rfl, rfl⟩

theorem similar_comm {x y : AllowedEntry} : Similar x y ↔ Similar y x :=
  ⟨fun h => ⟨h.1.symm, h.2.1.symm, h.2.2.symm⟩, fun h => ⟨h.1.symm, h.2.1.symm, h.2.2.symm⟩⟩

/-- What a removal makes of the maps and the whitelists. -/
theorem onRemovePolicy_cases (hcurrent : Proper currentData) (hmerge : Proper mergeData)
    {scene : PolicyScene} (hscene : scene = .policyRemove ∨ scene = .appUninstall) :
    (failed (onRemovePolicy answers whitelist permission appInstance currentData mergeData scene).1 =
          true ∧
        (onRemovePolicy answers whitelist permission appInstance currentData mergeData scene).2.1 =
          whitelist) ∨
      answers.permissionDisallowed = true ∧
        ((∀ y, y ∈ entries currentData → ¬ Similar (entryOf permission appInstance) y) ∧
            onRemovePolicy answers whitelist permission appInstance currentData mergeData scene =
              (ERR_OK, whitelist, currentData, mergeData) ∨
          (∃ y, y ∈ entries currentData ∧ Similar (entryOf permission appInstance) y) ∧
            ∃ whitelist' afterHandle afterMerge,
              onRemovePolicy answers whitelist permission appInstance currentData mergeData scene =
                (ERR_OK, whitelist', afterHandle, afterMerge) ∧
              Proper afterHandle ∧ Proper afterMerge ∧
              (∀ x, x ∈ entries afterHandle ↔
                x ∈ entries currentData ∧ ¬ Similar (entryOf permission appInstance) x) ∧
              (∀ x, x ∈ entries afterMerge ↔ x ∈ entries afterHandle ∨ x ∈ entries mergeData) ∧
              ((∃ y, y ∈ entries mergeData ∧ Similar (entryOf permission appInstance) y) ∧
                  whitelist' = whitelist ∨
                (∀ y, y ∈ entries mergeData → ¬ Similar (entryOf permission appInstance) y) ∧
                  (answers.getAccessTokenId (entryOf permission appInstance) = true ∧
                      whitelist' =
                        Function.update whitelist (entryOf permission appInstance) false ∨
                    answers.getAccessTokenId (entryOf permission appInstance) = false ∧
                      scene = .appUninstall ∧ whitelist' = whitelist))) := by
  unfold onRemovePolicy
  dsimp only
  by_cases hcheck : failed (checkPermissionDisallowed answers) = true
  · rw [if_pos hcheck]
    exact .inl ⟨hcheck, rfl⟩
  have hdisallowed := permissionDisallowed_of_ok hcheck
  rw [if_neg hcheck, setIntersectionPolicyData_single]
  have hsimilar := isAppInList_iff hcurrent.ascend permission appInstance
  by_cases hin : isAppInList appInstance (valuesAt permission currentData) = true
  · have hvalues : valuesAt permission [(permission, [appInstance])] ≠ [] := by
      rw [valuesAt_cons, if_pos rfl]
      exact List.cons_ne_nil _ _
    rw [if_pos hin, if_neg hvalues, setNeedRemoveMergePolicyData_single]
    obtain ⟨hproper, hmem⟩ := setDifferencePolicyData_spec
      (proper_single permission appInstance).ascend hcurrent
    obtain ⟨hproperMerge, hmemMerge⟩ := setUnionPolicyData_spec
      (setDifferencePolicyData [(permission, [appInstance])] currentData) mergeData
    have hafter : ∀ x, x ∈ entries (setDifferencePolicyData [(permission, [appInstance])]
        currentData) ↔ x ∈ entries currentData ∧ ¬ Similar (entryOf permission appInstance) x := by
      intro x
      rw [hmem, similar_comm]
      simp only [mem_entries_single, exists_eq_left]
    have hsimilarMerge := isAppInList_iff hmerge.ascend permission appInstance
    by_cases hmerged : isAppInList appInstance (valuesAt permission mergeData) = true
    · rw [if_pos hmerged, if_pos rfl]
      exact .inr ⟨hdisallowed, .inr ⟨hsimilar.mp hin, _, _, _, rfl, hproper, hproperMerge, hafter,
        hmemMerge, .inl ⟨hsimilarMerge.mp hmerged, rfl⟩⟩⟩
    · have hnone : ∀ y, y ∈ entries mergeData → ¬ Similar (entryOf permission appInstance) y :=
        fun y hy hxy => hmerged (hsimilarMerge.mpr ⟨y, hy, hxy⟩)
      have hentries : entries [(permission, [appInstance])] = [entryOf permission appInstance] := rfl
      rw [if_neg hmerged, if_neg (List.cons_ne_nil _ _), removeOtherModulePolicy, hentries]
      cases htoken : answers.getAccessTokenId (entryOf permission appInstance) with
      | true =>
        rcases hscene with rfl | rfl <;> rw [updatePolicyWhiteList, if_pos htoken] <;>
          exact .inr ⟨hdisallowed, .inr ⟨hsimilar.mp hin, _, _, _, rfl, hproper, hproperMerge, hafter,
            hmemMerge, .inr ⟨hnone, .inl ⟨rfl, rfl⟩⟩⟩⟩
      | false =>
        have hnot : ¬ answers.getAccessTokenId (entryOf permission appInstance) = true :=
          Bool.eq_false_iff.mp htoken
        rcases hscene with rfl | rfl <;> rw [updatePolicyWhiteList, if_neg hnot]
        · exact .inl ⟨rfl, rfl⟩
        · exact .inr ⟨hdisallowed, .inr ⟨hsimilar.mp hin, _, _, _, rfl, hproper, hproperMerge, hafter,
            hmemMerge, .inr ⟨hnone, .inr ⟨rfl, rfl, rfl⟩⟩⟩⟩
  · rw [if_neg hin, if_pos valuesAt_nil]
    exact .inr ⟨hdisallowed, .inl ⟨fun y hy hxy => hin (hsimilar.mpr ⟨y, hy, hxy⟩), rfl⟩⟩

end Handlers

/-! ### One operation -/

section Step

variable {C : IntCJson} {order : HashOrder} {s s' : PluginState Whitelist} {admin : AdminName}

/-- A text of a map. -/
def IsText (C : IntCJson) (policy : String) : Prop := ∃ data, Proper data ∧ policy = serialize C data

abbrev Readable (C : IntCJson) (s : PluginState Whitelist) : Prop :=
  TextStore (IsText C) POLICY_ALLOWED_PERMISSION_BUNDLE s.store

theorem policyName_ne : POLICY_ALLOWED_PERMISSION_BUNDLE ≠ "" := by decide

theorem isText_empty : IsText C "" := ⟨[], proper_nil, rfl⟩

theorem itemsOf_serialize {data : PermissionApps} (h : Proper data) :
    itemsOf C (serialize C data) = {x | x ∈ entries data} := by
  rw [itemsOf, deserialize_serialize h]

theorem itemsOf_empty : itemsOf C "" = ∅ :=
  Set.eq_empty_iff_forall_notMem.mpr fun _ => List.not_mem_nil

/-- An admin's map. -/
theorem Readable.current (h : Readable C s) (admin : AdminName) :
    ∃ current, Proper current ∧
      s.store.manager.policyValue admin POLICY_ALLOWED_PERMISSION_BUNDLE = serialize C current ∧
      listed C s admin = {x | x ∈ entries current} := by
  obtain ⟨current, hproper, hvalue⟩ := h.text admin
  refine ⟨current, hproper, hvalue, ?_⟩
  rw [listed, itemsHeld, hvalue, itemsOf_serialize hproper]

theorem getOthersMergePolicyData_text (order : HashOrder) (h : Readable C s) (admin : AdminName) :
    ∃ others, Proper others ∧
      (plugin C order).getOthersMergePolicyData s.store.manager admin = serialize C others ∧
      ∀ x, x ∈ entries others ↔ x ∈ heldByOthers (listed C s) admin := by
  have hread : ∀ other : AdminName, (serializer C).deserialize
      (s.store.manager.policyValue other POLICY_ALLOWED_PERMISSION_BUNDLE) =
        some (deserialize C
          (s.store.manager.policyValue other POLICY_ALLOWED_PERMISSION_BUNDLE)).2 := by
    intro other
    obtain ⟨current, hproper, hvalue, -⟩ := h.current other
    show (match deserialize C _ with | (true, dataObj) => some dataObj | (false, _) => none) = _
    rw [hvalue, deserialize_serialize hproper]
  obtain ⟨htext, hmem⟩ := getOthersMergePolicyData_union (serializer C) h.good order admin
    (itemsOf C) (fun data => {x | x ∈ entries data}) (fun policy => (deserialize C policy).2)
    (fun _ => rfl) (fun _ => rfl) rfl itemsOf_empty (fun other => ⟨hread other, rfl⟩)
    fun lists x => (mergePolicy_spec lists).2 x
  exact ⟨_, (mergePolicy_spec _).1, htext, hmem⟩

/-- What a request that succeeds stores. -/
theorem stored_result (h : Readable C s) {request : Request} {whitelist : Whitelist}
    {after merged : PermissionApps} (hafter : Proper after) (hmerged : Proper merged)
    (hcall : (plugin C order).onHandlePolicy s.store.manager s.modules request
      (PluginManager.handlePolicyData (plugin C order) s admin) =
        (ERR_OK, whitelist, updatePolicyResult C
          (PluginManager.handlePolicyData (plugin C order) s admin) after merged
          (s.store.manager.policyValue "" POLICY_ALLOWED_PERMISSION_BUNDLE)))
    (hs' : policyStep (plugin C order) s (.update admin ⟨.done, .done⟩ request) = s') :
    Readable C s' ∧ s'.modules = whitelist ∧
      listed C s' = Function.update (listed C s) admin {x | x ∈ entries after} ∧
      ∀ x, x ∈ combined C s' ↔ x ∈ entries merged := by
  obtain ⟨hmodules, hstore⟩ :=
    policyStep_update_cases (plugin C order) admin h.good policyName_ne hcall
  rw [hs'] at hmodules hstore
  rcases hstore with ⟨hok | hchanged, hstore⟩ | ⟨-, -, hsaved⟩
  · cases hok
  · have hsame : (s.store.manager.policyValue admin POLICY_ALLOWED_PERMISSION_BUNDLE !=
          serialize C after || s.store.manager.policyValue "" POLICY_ALLOWED_PERMISSION_BUNDLE !=
          serialize C merged) = false := hchanged
    obtain ⟨hvalue, hcombined⟩ := Bool.or_eq_false_iff.mp hsame
    have hlisted : listed C s' = listed C s := congrArg (itemsHeld _ _) hstore
    refine ⟨?_, hmodules, ?_, fun x => ?_⟩
    · show TextStore _ _ s'.store
      rw [hstore]
      exact h
    · have hown : listed C s admin = {x | x ∈ entries after} := by
        rw [listed, itemsHeld, bne_eq_false_iff_eq.mp hvalue, itemsOf_serialize hafter]
      rw [← hown, Function.update_eq_self, hlisted]
    · rw [combined, hstore, bne_eq_false_iff_eq.mp hcombined, itemsOf_serialize hmerged]
      exact Iff.rfl
  · refine ⟨h.saved hsaved ⟨after, hafter, rfl⟩ ⟨merged, hmerged, rfl⟩, hmodules, ?_, fun x => ?_⟩
    · exact (itemsHeld_saved hsaved).trans (congrArg _ (itemsOf_serialize hafter))
    · have hcombined := congrArg (itemsOf C) hsaved.value_combined
      exact Set.ext_iff.mp (hcombined.trans (itemsOf_serialize hmerged)) x

theorem FollowsUnion.congr (h : FollowsUnion C s) (hmodules : s'.modules = s.modules)
    (hstore : s'.store = s.store) : FollowsUnion C s' := by
  obtain ⟨store, modules, subscribed⟩ := s
  obtain ⟨store', modules', subscribed'⟩ := s'
  obtain rfl : store' = store := hstore
  obtain rfl : modules' = modules := hmodules
  exact ⟨h.combined, h.whitelisted⟩

/-- A request that fails leaves the store and the whitelists. -/
theorem failed_result (h : Readable C s) {request : Request} {ret : ErrCode}
    {handled : HandlePolicyData} (hret : failed ret = true)
    (hcall : (plugin C order).onHandlePolicy s.store.manager s.modules request
      (PluginManager.handlePolicyData (plugin C order) s admin) = (ret, s.modules, handled))
    (hs' : policyStep (plugin C order) s (.update admin ⟨.done, .done⟩ request) = s') :
    s'.modules = s.modules ∧ s'.store = s.store := by
  obtain ⟨hmodules, hstore⟩ :=
    policyStep_update_cases (plugin C order) admin h.good policyName_ne hcall
  rw [hs'] at hmodules hstore
  rcases hstore with ⟨-, hstore⟩ | ⟨hok, -, -⟩
  · exact ⟨hmodules, hstore⟩
  · rw [hret] at hok
    cases hok

theorem failed_readParameters {request : Request} {ret : ErrCode}
    (h : readParameters request = .error ret) : failed ret = true := by
  unfold readParameters at h
  cases hparcel : request.parcel with
  | none =>
    rw [hparcel] at h
    cases h
    rfl
  | some parcel =>
    rw [hparcel] at h
    dsimp only at h
    generalize (if parcel.sceneTag = SCENE_APP_UNINSTALL then PolicyScene.appUninstall
      else if request.type = .set then .policyAdd else .policyRemove) = scene at h
    split at h
    · cases h
      rfl
    · split at h
      · split at h
        · cases h
          rfl
        · cases h
      · cases h

/-- A request for a removal has one of two scenes. -/
theorem scene_of_remove {request : Request} {params : PolicyOperationParams}
    (h : readParameters request = .ok params) (htype : request.type = .remove) :
    params.scene = .policyRemove ∨ params.scene = .appUninstall := by
  have hnot : request.type ≠ .set := by
    rw [htype]
    decide
  unfold readParameters at h
  split at h
  · cases h
  · dsimp only at h
    rw [if_neg hnot] at h
    split at h
    · cases h
    · rw [if_neg fun hset => hnot hset.1] at h
      rw [← Except.ok.inj h]
      dsimp only
      split
      · exact .inr rfl
      · exact .inl rfl

/-- What the handler is called with, and what becomes of its result. -/
theorem onHandlePolicy_ok {request : Request} {params : PolicyOperationParams}
    {current others : PermissionApps} (hcurrent : Proper current) (hothers : Proper others)
    (hparams : readParameters request = .ok params)
    (hvalue : s.store.manager.policyValue admin POLICY_ALLOWED_PERMISSION_BUNDLE =
      serialize C current)
    (htext : (plugin C order).getOthersMergePolicyData s.store.manager admin = serialize C others)
    {ret : ErrCode} {whitelist : Whitelist} {after merged : PermissionApps}
    (hexecute : executePolicyOperation request.type params request.answers s.modules current
      (if request.type = .set then setUnionPolicyData current others else others) =
        (ret, whitelist, after, merged)) :
    (plugin C order).onHandlePolicy s.store.manager s.modules request
        (PluginManager.handlePolicyData (plugin C order) s admin) =
      if failed ret then
        (ret, whitelist, PluginManager.handlePolicyData (plugin C order) s admin)
      else
        (ERR_OK, whitelist, updatePolicyResult C
          (PluginManager.handlePolicyData (plugin C order) s admin) after merged
          (s.store.manager.policyValue "" POLICY_ALLOWED_PERMISSION_BUNDLE)) := by
  obtain ⟨policyData, hpolicyData⟩ :
    ∃ d, PluginManager.handlePolicyData (plugin C order) s admin = d := ⟨_, rfl⟩
  have hown : policyData.policyData = serialize C current := by
    rw [← hpolicyData, ← hvalue]
    rfl
  have hmerge : policyData.mergePolicyData = serialize C others := by
    rw [← hpolicyData, ← htext]
    rfl
  rw [hpolicyData]
  show onHandlePolicy C _ _ _ _ = _
  unfold onHandlePolicy
  rw [hparams]
  dsimp only
  rw [preparePolicyData, hown, hmerge, deserialize_serialize hcurrent,
    deserialize_serialize hothers]
  dsimp only
  rw [hexecute]

/-- What a request makes of the maps: it fails, or sets an entry, or removes one that the admin does
not have, or removes one that it has. -/
inductive Outcome (C : IntCJson) (s s' : PluginState Whitelist) (admin : AdminName)
    (request : Request) : Prop where
  | failed (hmodules : s'.modules = s.modules) (hstore : s'.store = s.store)
  | set (params : PolicyOperationParams) (x : AllowedEntry)
      (hparams : readParameters request = .ok params) (htype : request.type = .set)
      (hdisallowed : request.answers.permissionDisallowed = true)
      (hentry : x = entryOf params.permission params.appInstance)
      (hlisted : listed C s' = Function.update (listed C s) admin
        {y | y = x ∨ y ∈ listed C s admin})
      (hcombined : ∀ y, y ∈ combined C s' ↔ y = x ∨ y ∈ held (listed C s))
      (hmodules : (∃ y, y ∈ held (listed C s) ∧ Similar x y) ∧ s'.modules = s.modules ∨
        (∀ y, y ∈ held (listed C s) → ¬ Similar x y) ∧
          s'.modules = Function.update s.modules x true)
  | absent (params : PolicyOperationParams) (x : AllowedEntry)
      (hparams : readParameters request = .ok params) (htype : request.type = .remove)
      (hdisallowed : request.answers.permissionDisallowed = true)
      (hentry : x = entryOf params.permission params.appInstance)
      (hnone : ∀ y, y ∈ listed C s admin → ¬ Similar x y)
      (hlisted : listed C s' = listed C s)
      (hcombined : ∀ y, y ∈ combined C s' ↔ y ∈ heldByOthers (listed C s) admin)
      (hmodules : s'.modules = s.modules)
  | removed (params : PolicyOperationParams) (x : AllowedEntry)
      (hparams : readParameters request = .ok params) (htype : request.type = .remove)
      (hdisallowed : request.answers.permissionDisallowed = true)
      (hentry : x = entryOf params.permission params.appInstance)
      (hsome : ∃ y, y ∈ listed C s admin ∧ Similar x y)
      (hlisted : listed C s' = Function.update (listed C s) admin
        {y | y ∈ listed C s admin ∧ ¬ Similar x y})
      (hcombined : ∀ y, y ∈ combined C s' ↔ (y ∈ listed C s admin ∧ ¬ Similar x y) ∨
        y ∈ heldByOthers (listed C s) admin)
      (hmodules : (∃ y, y ∈ heldByOthers (listed C s) admin ∧ Similar x y) ∧
          s'.modules = s.modules ∨
        (∀ y, y ∈ heldByOthers (listed C s) admin → ¬ Similar x y) ∧
          (s'.modules = Function.update s.modules x false ∨
            request.answers.getAccessTokenId x = false ∧ params.scene = .appUninstall ∧
              s'.modules = s.modules))

theorem outcome_update (order : HashOrder) (h : Readable C s) (request : Request)
    (hs' : policyStep (plugin C order) s (.update admin ⟨.done, .done⟩ request) = s') :
    Readable C s' ∧ Outcome C s s' admin request := by
  obtain ⟨current, hcurrent, hvalue, hown⟩ := h.current admin
  obtain ⟨others, hothers, htext, hmem⟩ := getOthersMergePolicyData_text order h admin
  have hown : ∀ y, y ∈ listed C s admin ↔ y ∈ entries current := Set.ext_iff.mp hown
  have hfails : s'.modules = s.modules ∧ s'.store = s.store →
      Readable C s' ∧ Outcome C s s' admin request := by
    rintro ⟨hmodules, hstore⟩
    refine ⟨?_, .failed hmodules hstore⟩
    show TextStore _ _ s'.store
    rw [hstore]
    exact h
  cases hparams : readParameters request with
  | error ret =>
    have hcall : (plugin C order).onHandlePolicy s.store.manager s.modules request
        (PluginManager.handlePolicyData (plugin C order) s admin) =
          (ret, s.modules, PluginManager.handlePolicyData (plugin C order) s admin) := by
      show onHandlePolicy C _ _ _ _ = _
      rw [onHandlePolicy, hparams]
    exact hfails (failed_result h (failed_readParameters hparams) hcall hs')
  | ok params =>
    obtain ⟨⟨ret, whitelist, after, merged⟩, hexecute⟩ : ∃ result,
      executePolicyOperation request.type params request.answers s.modules current
        (if request.type = .set then setUnionPolicyData current others else others) = result :=
      ⟨_, rfl⟩
    have hcall := onHandlePolicy_ok hcurrent hothers hparams hvalue htext hexecute
    have hfailed : failed ret = true → whitelist = s.modules →
        Readable C s' ∧ Outcome C s s' admin request := by
      intro hret hsame
      rw [if_pos hret, hsame] at hcall
      exact hfails (failed_result h hret hcall hs')
    have hheld : ∀ y, y ∈ entries (setUnionPolicyData current others) ↔ y ∈ held (listed C s) := by
      intro y
      rw [(setUnionPolicyData_spec current others).2, held_eq _ admin, hmem, ← hown]
      exact or_comm
    cases htype : request.type with
    | set =>
      rw [htype, if_pos rfl] at hexecute
      have hexecute : onSetPolicy request.answers s.modules params.permission params.appInstance
        current (setUnionPolicyData current others) = (ret, whitelist, after, merged) := hexecute
      rcases onSetPolicy_cases request.answers s.modules params.permission params.appInstance
        (setUnionPolicyData_spec current others).1 with ⟨hret, hsame⟩ |
        ⟨hdisallowed, whitelist', after', merged', hset, hafter, hmerged, hmemAfter, hmemMerged, hlist⟩
      · rw [hexecute] at hret hsame
        exact hfailed hret hsame
      · have heq := hexecute.symm.trans hset
        simp only [Prod.mk.injEq] at heq
        obtain ⟨rfl, rfl, rfl, rfl⟩ := heq
        rw [if_neg (show ¬ failed ERR_OK = true from Bool.false_ne_true)] at hcall
        obtain ⟨hreadable, hmodules, hlisted, hcombined⟩ :=
          stored_result h hafter hmerged hcall hs'
        refine ⟨hreadable, .set params _ hparams htype hdisallowed rfl ?_ (fun y => ?_) ?_⟩
        · rw [hlisted]
          refine congrArg _ (Set.ext fun y => ?_)
          exact (hmemAfter y).trans (or_congr_right (hown y).symm)
        · rw [hcombined, hmemMerged, hheld]
        · rw [hmodules]
          rcases hlist with ⟨⟨y, hy, hxy⟩, hsame⟩ | ⟨hnone, hupdate⟩
          · exact .inl ⟨⟨y, (hheld y).mp hy, hxy⟩, hsame⟩
          · exact .inr ⟨fun y hy => hnone y ((hheld y).mpr hy), hupdate⟩
    | remove =>
      rw [htype, if_neg (by decide)] at hexecute
      have hexecute : onRemovePolicy request.answers s.modules params.permission params.appInstance
        current others params.scene = (ret, whitelist, after, merged) := hexecute
      rcases onRemovePolicy_cases request.answers s.modules params.permission params.appInstance
        hcurrent hothers (scene_of_remove hparams htype) with ⟨hret, hsame⟩ |
        ⟨hdisallowed, ⟨hnone, hremove⟩ | ⟨⟨y, hy, hxy⟩, whitelist', after', merged', hremove, hafter,
          hmerged, hmemAfter, hmemMerged, hlist⟩⟩
      · rw [hexecute] at hret hsame
        exact hfailed hret hsame
      · have heq := hexecute.symm.trans hremove
        simp only [Prod.mk.injEq] at heq
        obtain ⟨rfl, rfl, rfl, rfl⟩ := heq
        rw [if_neg (show ¬ failed ERR_OK = true from Bool.false_ne_true)] at hcall
        obtain ⟨hreadable, hmodules, hlisted, hcombined⟩ :=
          stored_result h hcurrent hothers hcall hs'
        refine ⟨hreadable, .absent params _ hparams htype hdisallowed rfl
          (fun y hy => hnone y ((hown y).mp hy)) ?_ (fun y => ?_) hmodules⟩
        · have hsame : {y | y ∈ entries after} = listed C s admin := Set.ext fun y => (hown y).symm
          rw [hlisted, hsame, Function.update_eq_self]
        · rw [hcombined, hmem]
      · have heq := hexecute.symm.trans hremove
        simp only [Prod.mk.injEq] at heq
        obtain ⟨rfl, rfl, rfl, rfl⟩ := heq
        rw [if_neg (show ¬ failed ERR_OK = true from Bool.false_ne_true)] at hcall
        obtain ⟨hreadable, hmodules, hlisted, hcombined⟩ :=
          stored_result h hafter hmerged hcall hs'
        refine ⟨hreadable, .removed params _ hparams htype hdisallowed rfl ⟨y, (hown y).mpr hy, hxy⟩
          ?_ (fun z => ?_) ?_⟩
        · rw [hlisted]
          refine congrArg _ (Set.ext fun z => ?_)
          exact (hmemAfter z).trans (and_congr_left fun _ => (hown z).symm)
        · rw [hcombined, hmemMerged, hmemAfter, hown, hmem]
        · rw [hmodules]
          rcases hlist with ⟨⟨z, hz, hxz⟩, hsame⟩ | ⟨hother, htoken⟩
          · exact .inl ⟨⟨z, (hmem z).mp hz, hxz⟩, hsame⟩
          · refine .inr ⟨fun z hz => hother z ((hmem z).mpr hz), ?_⟩
            exact htoken.imp And.right id
    | get =>
      rw [htype] at hexecute
      have heq : (EdmReturnErrCode.PARAMETER_VERIFICATION_FAILED, s.modules, current, _) =
        (ret, whitelist, after, merged) := hexecute
      simp only [Prod.mk.injEq] at heq
      obtain ⟨rfl, rfl, -⟩ := heq
      exact hfailed rfl rfl
    | unknown =>
      rw [htype] at hexecute
      have heq : (EdmReturnErrCode.PARAMETER_VERIFICATION_FAILED, s.modules, current, _) =
        (ret, whitelist, after, merged) := hexecute
      simp only [Prod.mk.injEq] at heq
      obtain ⟨rfl, rfl, -⟩ := heq
      exact hfailed rfl rfl

theorem similar_refl (x : AllowedEntry) : Similar x x := ⟨rfl, rfl, rfl⟩

theorem held_before (admin : AdminName) (y : AllowedEntry) : y ∈ held (listed C s) ↔
    y ∈ heldByOthers (listed C s) admin ∨ y ∈ listed C s admin := by
  rw [held_eq _ admin]
  exact Iff.rfl

theorem held_after {items : Set AllowedEntry}
    (hlisted : listed C s' = Function.update (listed C s) admin items) (y : AllowedEntry) :
    y ∈ held (listed C s') ↔ y ∈ heldByOthers (listed C s) admin ∨ y ∈ items := by
  rw [hlisted, held_update]
  exact Iff.rfl

theorem followsUnion_outcome (hunion : FollowsUnion C s) {request : Request}
    (hkeeps : Keeps C s (.update admin ⟨.done, .done⟩ request))
    (houtcome : Outcome C s s' admin request) : FollowsUnion C s' := by
  cases houtcome with
  | failed hmodules hstore => exact hunion.congr hmodules hstore
  | set params x hparams htype hdisallowed hentry hlisted hcombined hmodules =>
    have hset : SetKeeps C s x := hentry ▸ (hkeeps.2 params hparams hdisallowed).1 htype
    have hheld : ∀ y, y ∈ held (listed C s') ↔ y = x ∨ y ∈ held (listed C s) := by
      intro y
      rw [held_after hlisted, held_before admin]
      exact or_left_comm
    refine ⟨fun y => (hcombined y).trans (hheld y).symm, fun y => ?_⟩
    rw [hheld]
    rcases hmodules with ⟨⟨z, hz, hxz⟩, hsame⟩ | ⟨-, hupdate⟩
    · -- An entry that is taken for the new one is held, so the new one has to be.
      have hx : x ∈ held (listed C s) := hset.resolve_right fun hnone => hnone z hz hxz
      rw [hsame, hunion.whitelisted]
      exact ⟨.inr, fun hy => hy.elim (fun heq => heq ▸ hx) id⟩
    · rw [hupdate]
      by_cases hy : y = x
      · rw [hy, Function.update_self]
        exact iff_of_true rfl (.inl rfl)
      · rw [Function.update_of_ne hy, hunion.whitelisted]
        exact (or_iff_right hy).symm
  | absent params x hparams htype hdisallowed hentry hnone hlisted hcombined hmodules =>
    have hremove : RemoveKeeps C s admin params.scene request.answers x :=
      hentry ▸ (hkeeps.2 params hparams hdisallowed).2 htype
    refine ⟨fun y => ?_, fun y => ?_⟩
    · rw [hcombined, hlisted, held_before admin]
      exact ⟨.inl, fun hy => hy.elim id (hremove.absent hnone y)⟩
    · rw [hmodules, hlisted]
      exact hunion.whitelisted y
  | removed params x hparams htype hdisallowed hentry hsome hlisted hcombined hmodules =>
    have hremove : RemoveKeeps C s admin params.scene request.answers x :=
      hentry ▸ (hkeeps.2 params hparams hdisallowed).2 htype
    refine ⟨fun y => (hcombined y).trans ((or_comm).trans (held_after hlisted y).symm), fun y => ?_⟩
    rw [held_after hlisted]
    rcases hmodules with ⟨hother, hsame⟩ | ⟨hother, hupdate⟩
    · rw [hsame, hunion.whitelisted, held_before admin]
      constructor
      · rintro (hy | hy)
        · exact .inl hy
        · by_cases hxy : Similar x y
          · exact .inl (hremove.shared y hy hxy hother)
          · exact .inr ⟨hy, hxy⟩
      · exact Or.imp_right And.left
    · obtain ⟨z, hz, hxz⟩ := hsome
      have hupdate : s'.modules = Function.update s.modules x false := by
        rcases hupdate with hupdate | ⟨htoken, hscene, -⟩
        · exact hupdate
        · rw [(hremove.last z hz hxz hother).2 hscene] at htoken
          cases htoken
      rw [hupdate]
      by_cases hy : y = x
      · rw [hy, Function.update_self]
        refine iff_of_false Bool.false_ne_true ?_
        rintro (hx | ⟨-, hx⟩)
        · exact hother x hx (similar_refl x)
        · exact hx (similar_refl x)
      · rw [Function.update_of_ne hy, hunion.whitelisted, held_before admin]
        refine or_congr_right ⟨fun hown => ⟨hown, fun hxy => ?_⟩, And.left⟩
        exact hy (hremove.last y hown hxy hother).1

theorem removalRight_outcome (hunion : FollowsUnion C s) {writes : Writes} {request : Request}
    (hkeeps : Keeps C s (.update admin writes request))
    (houtcome : Outcome C s (policyStep (plugin C order) s (.update admin writes request)) admin
      request) : RemovalRight C order s (.update admin writes request) := by
  intro params hparams htype
  dsimp only
  obtain ⟨s', hs'⟩ : ∃ s', policyStep (plugin C order) s (.update admin writes request) = s' :=
    ⟨_, rfl⟩
  rw [hs'] at houtcome ⊢
  obtain ⟨x, hx⟩ : ∃ x, entryOf params.permission params.appInstance = x := ⟨_, rfl⟩
  rw [hx]
  have hothers : ∀ y, y ∈ heldByOthers (listed C s) admin → s.modules y = true := fun y hy =>
    (hunion.whitelisted y).mpr ((held_before admin y).mpr (.inl hy))
  cases houtcome with
  | failed hmodules hstore =>
    rw [hmodules]
    refine ⟨fun _ => ⟨fun y => ?_, fun _ => rfl⟩, hothers x⟩
    rw [combined, hstore]
  | set _ _ _ hset =>
    rw [htype] at hset
    cases hset
  | absent params' x' hparams' _ hdisallowed hentry hnone hlisted hcombined hmodules =>
    obtain rfl := Except.ok.inj (hparams.symm.trans hparams')
    obtain rfl : x' = x := hentry.trans hx
    have hremove := hentry ▸ (hkeeps.2 params hparams hdisallowed).2 htype
    rw [hmodules]
    refine ⟨fun _ => ⟨fun y => ?_, fun _ => rfl⟩, hothers x'⟩
    rw [hcombined, hunion.combined, held_before admin]
    exact ⟨.inl, fun hy => hy.elim id (hremove.absent hnone y)⟩
  | removed params' x' hparams' _ hdisallowed hentry hsome hlisted hcombined hmodules =>
    obtain rfl := Except.ok.inj (hparams.symm.trans hparams')
    obtain rfl : x' = x := hentry.trans hx
    have hremove := hentry ▸ (hkeeps.2 params hparams hdisallowed).2 htype
    obtain ⟨z, hz, hxz⟩ := hsome
    refine ⟨fun hnot => ?_, fun hother => ?_⟩
    · rcases hmodules with ⟨hother, hsame⟩ | ⟨hother, -⟩
      · rw [hsame]
        refine ⟨fun y => ?_, fun _ => rfl⟩
        rw [hcombined, hunion.combined, held_before admin]
        constructor
        · rintro (⟨hy, -⟩ | hy)
          · exact .inr hy
          · exact .inl hy
        · rintro (hy | hy)
          · exact .inr hy
          · by_cases hxy : Similar x' y
            · exact .inr (hremove.shared y hy hxy hother)
            · exact .inl ⟨hy, hxy⟩
      · exact absurd ((hremove.last z hz hxz hother).1 ▸ hz) hnot
    · rcases hmodules with ⟨-, hsame⟩ | ⟨hnone, -⟩
      · rw [hsame]
        exact hothers x' hother
      · exact absurd (similar_refl x') (hnone x' hother)

/-- The entries with a token are taken off. -/
theorem updatePolicyWhiteList_adminRemove (getAccessTokenId : AllowedEntry → Bool)
    (policyData : List AllowedEntry) (whitelist : Whitelist) (x : AllowedEntry) :
    (updatePolicyWhiteList getAccessTokenId .adminRemove policyData whitelist).2 x =
      if x ∈ policyData ∧ getAccessTokenId x = true then false else whitelist x := by
  induction policyData generalizing whitelist with
  | nil => exact (if_neg fun h => List.not_mem_nil h.1).symm
  | cons item policyData ih =>
    rw [updatePolicyWhiteList]
    by_cases htoken : getAccessTokenId item = true
    · rw [if_pos htoken, ih]
      by_cases hmem : x ∈ policyData ∧ getAccessTokenId x = true
      · rw [if_pos hmem, if_pos ⟨List.mem_cons_of_mem item hmem.1, hmem.2⟩]
      · rw [if_neg hmem]
        by_cases hx : x = item
        · subst hx
          rw [Function.update_self, if_pos ⟨List.mem_cons_self, htoken⟩]
          rfl
        · rw [Function.update_of_ne hx, if_neg]
          exact fun h => hmem ⟨(List.mem_cons.mp h.1).resolve_left hx, h.2⟩
    · rw [if_neg htoken, if_pos (.inl rfl), ih]
      refine if_congr (and_congr_left fun hx => ?_) rfl rfl
      rw [List.mem_cons]
      refine (or_iff_right ?_).symm
      rintro rfl
      exact htoken hx

theorem step_removeAdmin (h : Readable C s) (hunion : FollowsUnion C s)
    (getAccessTokenId : AllowedEntry → Bool)
    (hkeeps : ∀ x, x ∈ listed C s admin →
      x ∈ heldByOthers (listed C s) admin ∨ getAccessTokenId x = true ∧
        ∀ y, y ∈ heldByOthers (listed C s) admin → ¬ Similar x y) :
    Readable C (policyStep (plugin C order) s (.removeAdmin admin ⟨.done, .done⟩ getAccessTokenId)) ∧
      FollowsUnion C
        (policyStep (plugin C order) s (.removeAdmin admin ⟨.done, .done⟩ getAccessTokenId)) := by
  obtain ⟨s', hs'⟩ : ∃ s',
    policyStep (plugin C order) s (.removeAdmin admin ⟨.done, .done⟩ getAccessTokenId) = s' := ⟨_, rfl⟩
  rw [hs']
  obtain ⟨current, hcurrent, hvalue, hown⟩ := h.current admin
  obtain ⟨others, hothers, htext, hmem⟩ := getOthersMergePolicyData_text order h admin
  have hown : ∀ y, y ∈ listed C s admin ↔ y ∈ entries current := Set.ext_iff.mp hown
  have hcases := policyStep_removeAdmin_cases (plugin C order) admin h.good policyName_ne rfl
    getAccessTokenId
  rw [hs', htext] at hcases
  rcases hcases with ⟨-, rfl⟩ | ⟨-, hmodules, hsaved⟩
  · exact ⟨h, hunion⟩
  have hlisted : listed C s' = Function.update (listed C s) admin ∅ :=
    (itemsHeld_saved hsaved).trans (congrArg _ itemsOf_empty)
  have hheld : ∀ x, x ∈ held (listed C s') ↔ x ∈ heldByOthers (listed C s) admin := by
    intro x
    rw [held_after hlisted]
    exact or_iff_left (Set.notMem_empty x)
  refine ⟨h.saved hsaved isText_empty ⟨others, hothers, rfl⟩, fun x => ?_, fun x => ?_⟩
  · rw [hheld, ← hmem]
    have hcombined := congrArg (itemsOf C) hsaved.value_combined
    exact Set.ext_iff.mp (hcombined.trans (itemsOf_serialize hothers)) x
  · have hcall : s'.modules = (updatePolicyWhiteList getAccessTokenId .adminRemove
        (entries (setDifferencePolicyData others current)) s.modules).2 := by
      rw [hmodules]
      show (onAdminRemove C s.modules getAccessTokenId
        (s.store.manager.policyValue admin POLICY_ALLOWED_PERMISSION_BUNDLE) _).2 = _
      rw [hvalue, onAdminRemove, deserialize_serialize hcurrent, deserialize_serialize hothers]
      rfl
    have hdifference := (setDifferencePolicyData_spec hothers.ascend hcurrent).2
    rw [hcall, updatePolicyWhiteList_adminRemove, hheld]
    by_cases hremoved : x ∈ entries (setDifferencePolicyData others current) ∧
      getAccessTokenId x = true
    · rw [if_pos hremoved]
      refine iff_of_false Bool.false_ne_true fun hx => ((hdifference x).mp hremoved.1).2 ?_
      exact ⟨x, (hmem x).mpr hx, similar_refl x⟩
    · rw [if_neg hremoved, hunion.whitelisted, held_before admin]
      refine or_iff_left_of_imp fun hx => ?_
      rcases hkeeps x hx with hother | ⟨htoken, hnone⟩
      · exact hother
      · refine absurd ⟨(hdifference x).mpr ⟨(hown x).mp hx, ?_⟩, htoken⟩ hremoved
        rintro ⟨y, hy, hxy⟩
        exact hnone y ((hmem y).mp hy) hxy

theorem step_keeps (h : Readable C s) (hunion : FollowsUnion C s) (op : Op) (hkeeps : Keeps C s op) :
    (Readable C (policyStep (plugin C order) s op) ∧
      FollowsUnion C (policyStep (plugin C order) s op)) ∧ RemovalRight C order s op := by
  cases op with
  | update admin writes request =>
    obtain ⟨rfl, hrequest⟩ := hkeeps
    obtain ⟨hreadable, houtcome⟩ := outcome_update order h request rfl
    exact ⟨⟨hreadable, followsUnion_outcome hunion ⟨rfl, hrequest⟩ houtcome⟩,
      removalRight_outcome hunion ⟨rfl, hrequest⟩ houtcome⟩
  | removeAdmin admin writes getAccessTokenId =>
    obtain ⟨rfl, hremove⟩ := hkeeps
    exact ⟨step_removeAdmin h hunion getAccessTokenId hremove, trivial⟩

theorem followsUnion_boot (userId : Int) : Readable C (boot userId) ∧ FollowsUnion C (boot userId) := by
  have hnone : held (listed C (boot userId)) = ∅ := held_new itemsOf_empty userId
  refine ⟨textStore_new isText_empty userId, fun x => ?_, fun x => ?_⟩
  · rw [hnone, combined]
    exact Set.ext_iff.mp ((congrArg (itemsOf C) (policyValue_new userId _ _)).trans itemsOf_empty) x
  · rw [hnone]
    exact iff_of_false Bool.false_ne_true (Set.notMem_empty x)

end Step

/-! ### Runs -/

/-- In a run whose operations all keep the union, the combined map and the whitelists have the
entries of the admins' maps throughout, and each removal is right. -/
theorem permissionBundles_followUnion (C : IntCJson) (order : HashOrder) (userId : Int) (ops : List Op)
    (h : Each (policyStep (plugin C order)) (Keeps C) (boot userId) ops) :
    Always (policyStep (plugin C order)) (FollowsUnion C) (boot userId) ops ∧
      Each (policyStep (plugin C order)) (RemovalRight C order) (boot userId) ops := by
  have hstep : ∀ s op, Readable C s ∧ FollowsUnion C s → Keeps C s op →
      Readable C (policyStep (plugin C order) s op) ∧
        FollowsUnion C (policyStep (plugin C order) s op) := fun s op hs hkeeps =>
    (step_keeps hs.1 hs.2 op hkeeps).1
  refine ⟨?_, ?_⟩
  · have hrun : Always (policyStep (plugin C order)) (fun s => Readable C s ∧ FollowsUnion C s)
        (boot userId) ops := always_of_each hstep (followsUnion_boot userId) h
    exact hrun.mono fun _ hs => hs.2
  · exact each_of_each hstep (fun s op hs hkeeps => (step_keeps hs.1 hs.2 op hkeeps).2)
      (followsUnion_boot userId) h

namespace OtherAccount

/-- Every application is installed, the permission is disallowed, and every instance has a token. -/
def accepts : Answers := ⟨some "com.app", true, fun _ => true⟩

def app (accountId : Int32) : ApplicationInstance := ⟨"app", "com.app", accountId, 0⟩

def request (type : FuncOperateType) (accountId : Int32) : Request :=
  ⟨type, some ⟨"", "camera", app accountId⟩, accepts⟩

/-- An admin allows an instance and is removed. -/
theorem permissionBundles_followUnion_removed :
    Always (policyStep (plugin .standard .evaluated)) (FollowsUnion .standard) (boot 100)
        [.update firstAdmin ⟨.done, .done⟩ (request .set 100),
          .removeAdmin firstAdmin ⟨.done, .done⟩ fun _ => true] ∧
      Each (policyStep (plugin .standard .evaluated)) (RemovalRight .standard .evaluated) (boot 100)
        [.update firstAdmin ⟨.done, .done⟩ (request .set 100),
          .removeAdmin firstAdmin ⟨.done, .done⟩ fun _ => true] := by
  refine permissionBundles_followUnion .standard .evaluated 100 _
    ⟨⟨rfl, fun params _ _ => ⟨fun _ => .inr fun y hy => ?_, fun htype => ?_⟩⟩,
      ⟨rfl, fun x _ => .inr ⟨rfl, fun y hy => ?_⟩⟩, trivial⟩
  · have hnone : held (listed .standard (boot 100)) = ∅ := held_new itemsOf_empty 100
    exact absurd (hnone ▸ hy) (Set.notMem_empty y)
  · cases htype
  · have hnone := heldByOthers_alone (plugin .standard .evaluated) policyName_ne
      (itemsOf_empty (C := .standard)) (fun _ => false) 100
      [.update firstAdmin ⟨.done, .done⟩ (request .set 100)] fun op hop => by
        rw [List.mem_singleton.mp hop, PolicyOp.admin]
    exact absurd (hnone ▸ hy) (Set.notMem_empty y)

/-- An admin allows an application for one account, and then for another. -/
def ops : List Op :=
  [.update firstAdmin ⟨.done, .done⟩ (request .set 100),
    .update firstAdmin ⟨.done, .done⟩ (request .set 101)]

abbrev final : PluginState Whitelist :=
  run (policyStep (plugin .standard .evaluated)) (boot 100) ops

theorem listed_other : entryOf "camera" (app 101) ∈ listed .standard final firstAdmin := by
  show entryOf "camera" (app 101) ∈ entries (deserialize .standard _).2
  decide +kernel

/-- The application of the other account is not in the whitelist. -/
theorem other_account_not_whitelisted :
    ¬ ∀ (C : IntCJson) (order : HashOrder) (userId : Int) (ops : List Op),
      Always (policyStep (plugin C order)) (FollowsUnion C) (boot userId) ops ∧
        Each (policyStep (plugin C order)) (RemovalRight C order) (boot userId) ops := by
  intro h
  have hlast : FollowsUnion .standard final :=
    always_iff_prefix.mp (h .standard .evaluated 100 ops).1 ops List.prefix_rfl
  have hlisted : final.modules (entryOf "camera" (app 101)) = false := by decide +kernel
  have hwhitelisted := (hlast.whitelisted _).mpr ⟨firstAdmin, listed_other⟩
  rw [hlisted] at hwhitelisted
  cases hwhitelisted

end OtherAccount

end AllowedPermissionBundlePlugin

end Edm
