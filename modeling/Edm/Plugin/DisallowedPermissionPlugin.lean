import Mathlib.Data.Set.Card
import Edm.Plugin.AllowedPermissionBundlePlugin
import Edm.Plugin.ArrayStringItems
import Edm.Plugin.BasicArrayString

/-! `DisallowedPermissionPlugin`: permissions that the access token service restricts for a user.  When
a restriction is lifted, the plugin takes the permission from the policies of
`AllowedPermissionBundlePlugin` of that user. -/

set_option autoImplicit false

namespace Edm

open Library

def POLICY_DISALLOWED_PERMISSION : String := "disallowed_permission"

/-! ### The base class -/

namespace BasicArrayStringPlugin

open ArrayStringSerializer

section Virtual

variable {Modules : Type} (config : Config)
  (otherModulePolicy : Modules → List String → ErrCode × Modules × List String)

/-- `OnBasicSetPolicy`, with the virtual function that it calls. -/
def onBasicSetPolicyOf (modules : Modules) (data currentData mergeData : List String) :
    ErrCode × Modules × List String × List String :=
  if data = [] then (ERR_OK, modules, currentData, mergeData)
  else if config.maxListSize < data.length then
    (config.overMaxReturnErrCode, modules, currentData, mergeData)
  else
    let needAddData := setDifferencePolicyData currentData data
    let needAddMergeData := setDifferencePolicyData mergeData needAddData
    let afterHandle := setUnionPolicyData currentData needAddData
    let afterMerge := setUnionPolicyData mergeData afterHandle
    if config.maxListSize < afterMerge.length then
      (config.overMaxReturnErrCode, modules, currentData, mergeData)
    else
      let (ret, modules, failedData) :=
        if needAddMergeData = [] then (ERR_OK, modules, [])
        else otherModulePolicy modules needAddMergeData
      if failed ret then (ret, modules, currentData, mergeData)
      else if failedData = [] then (ERR_OK, modules, afterHandle, afterMerge)
      else
        (ERR_OK, modules, setDifferencePolicyData failedData afterHandle,
          setDifferencePolicyData failedData afterMerge)

/-- `OnBasicRemovePolicy`, with the virtual function that it calls. -/
def onBasicRemovePolicyOf (modules : Modules) (data currentData mergeData : List String) :
    ErrCode × Modules × List String × List String :=
  if data = [] then (ERR_OK, modules, currentData, mergeData)
  else if config.maxListSize < data.length then
    (config.overMaxReturnErrCode, modules, currentData, mergeData)
  else
    let needRemovePolicy := setIntersectionPolicyData data currentData
    let needRemoveMergePolicy := setDifferencePolicyData mergeData needRemovePolicy
    let (ret, modules, failedData) :=
      if needRemoveMergePolicy = [] then (ERR_OK, modules, [])
      else otherModulePolicy modules needRemoveMergePolicy
    if failed ret then (ret, modules, currentData, mergeData)
    else
      let removeData :=
        if failedData = [] then needRemovePolicy
        else setDifferencePolicyData failedData needRemovePolicy
      let currentData := setDifferencePolicyData removeData currentData
      (ERR_OK, modules, currentData, setUnionPolicyData mergeData currentData)

def onBasicAdminRemoveOf (modules : Modules) (data mergeData : List String) : ErrCode × Modules :=
  let needRemoveMergePolicy := setDifferencePolicyData mergeData data
  let (ret, modules, _) := otherModulePolicy modules needRemoveMergePolicy
  (ret, modules)

end Virtual

/-- The handlers for modules that answer a call as a whole. -/
theorem onBasicSetPolicy_eq (config : Config) (answer : ModuleAnswer) :
    onBasicSetPolicy config answer = onBasicSetPolicyOf config (setOtherModulePolicy answer) := rfl

end BasicArrayStringPlugin

/-! ### The plugin -/

/-- `Security::AccessToken::TypeATokenAplEnum`. -/
inductive TypeATokenAplEnum where
  | aplInvalid
  | aplNormal
  | aplSystemBasic
  | aplSystemCore
  deriving DecidableEq

namespace DisallowedPermissionPlugin

open BasicArrayStringPlugin

def config : Config where
  policyName := POLICY_DISALLOWED_PERMISSION
  policyName_ne := by decide
  maxListSize := 200
  overMaxReturnErrCode := EdmReturnErrCode.PARAMETER_VERIFICATION_FAILED
  overMax_failed := rfl

/-- The available level of a permission, if it is defined, and whether the policy of the user can be
set for it. -/
structure Answers where
  getDefPermission : String → Option TypeATokenAplEnum
  setUserPolicy : String → Bool

/-- The permissions that are restricted for the user, and those for which a handler cleans the lists of
allowed bundles. -/
structure AccessToken where
  restricted : Finset String
  cleaned : List String

/-- The loop over the permissions, which ends at the first failure. -/
def addOrRemoveAccessTokenPolicy (answers : Answers) (isAdd : Bool) :
    List String → Finset String → ErrCode × Finset String
  | [], restricted => (ERR_OK, restricted)
  | permission :: data, restricted =>
    match answers.getDefPermission permission with
    | none => (EdmReturnErrCode.PARAMETER_VERIFICATION_FAILED, restricted)
    | some availableLevel =>
      if availableLevel ≠ .aplSystemBasic ∧ availableLevel ≠ .aplNormal then
        (EdmReturnErrCode.CANNOT_DISALLOW_PERMISSION, restricted)
      else if answers.setUserPolicy permission then
        addOrRemoveAccessTokenPolicy answers isAdd data
          (if isAdd then insert permission restricted else restricted.erase permission)
      else (EdmReturnErrCode.PARAMETER_VERIFICATION_FAILED, restricted)

/-- `failedData` stays empty. -/
def setOtherModulePolicy (answers : Answers) (token : AccessToken) (data : List String) :
    ErrCode × AccessToken × List String :=
  let (ret, restricted) := addOrRemoveAccessTokenPolicy answers true data token.restricted
  (ret, { token with restricted }, [])

def removeOtherModulePolicy (answers : Answers) (token : AccessToken) (data : List String) :
    ErrCode × AccessToken × List String :=
  let (rel, restricted) := addOrRemoveAccessTokenPolicy answers false data token.restricted
  if failed rel then (rel, { token with restricted }, [])
  else (ERR_OK, { restricted, cleaned := data }, [])

/-- A request without data cannot be read. -/
structure Request where
  type : FuncOperateType
  data : Option (List String)
  answers : Answers

def onHandlePolicy (C : CJson) (token : AccessToken) (request : Request)
    (policyData : HandlePolicyData) : ErrCode × AccessToken × HandlePolicyData :=
  let data := request.data.map ArrayStringSerializer.getPolicy
  match request.type with
  | .set =>
    IPluginTemplate.handlePolicy (ArrayStringSerializer.serializer C)
      (onBasicSetPolicyOf config (setOtherModulePolicy request.answers)) token data policyData
  | .remove =>
    IPluginTemplate.handlePolicy (ArrayStringSerializer.serializer C)
      (onBasicRemovePolicyOf config (removeOtherModulePolicy request.answers)) token data policyData
  | _ => (ERR_OK, token, policyData)

/-- What the plugin does, but for the lists of allowed bundles. -/
def plugin (C : CJson) (order : HashOrder) : Plugin AccessToken Request Answers Empty where
  policyName := POLICY_DISALLOWED_PERMISSION
  needSave := true
  getOthersMergePolicyData :=
    IPluginTemplate.getOthersMergePolicyData (ArrayStringSerializer.serializer C) order
      POLICY_DISALLOWED_PERMISSION
  onHandlePolicy _ := onHandlePolicy C
  onAdminRemove token answers :=
    IPluginTemplate.adminRemove (ArrayStringSerializer.serializer C)
      (onBasicAdminRemoveOf (removeOtherModulePolicy answers)) token
  onPluginEvent _ event := nomatch event

/-! ### The lists of allowed bundles -/

section Clean

open AllowedPermissionBundleSerializer

variable (C : IntCJson)

/-- `policyMap.erase`. -/
def erasePermission (permissionName : String) (policyMap : PermissionApps) : PermissionApps :=
  policyMap.filter fun pair => pair.1 != permissionName

def getCombinedPolicy (permissionName : String) (m : UserPolicyManager) : String :=
  let allowedPolicy := m.policyValue "" POLICY_ALLOWED_PERMISSION_BUNDLE
  if allowedPolicy = "" then ""
  else serialize C (erasePermission permissionName (deserialize C allowedPolicy).2)

/-- The step for one admin of the map. -/
def cleanAdmin (permissionName combinePolicy : String) (writes : String → Writes) (store : UserStore)
    (admin : String × String) : UserStore :=
  if admin.2 = "" then store
  else
    let policyMap := (deserialize C admin.2).2
    if hasKey Prod.fst permissionName policyMap then
      (store.setPolicy (writes admin.1) admin.1 POLICY_ALLOWED_PERMISSION_BUNDLE
        (serialize C (erasePermission permissionName policyMap)) combinePolicy).2
    else store

/-- The codes of the writes are only logged. -/
def cleanAdminAllowedPermissionBundle (order : HashOrder) (writes : String → Writes)
    (permissionName combinePolicy : String) (store : UserStore) : UserStore :=
  (order.entries (store.manager.adminValues POLICY_ALLOWED_PERMISSION_BUNDLE)).foldl
    (cleanAdmin C permissionName combinePolicy writes) store

/-- The loop of `RemoveOtherModulePolicy` over the permissions. -/
def cleanAllowedPermissionBundles (order : HashOrder) (writes : String → String → Writes) :
    List String → UserStore → UserStore
  | [], store => store
  | permissionName :: data, store =>
    cleanAllowedPermissionBundles order writes data
      (cleanAdminAllowedPermissionBundle C order (writes permissionName) permissionName
        (getCombinedPolicy C permissionName store.manager) store)

end Clean

/-! ### The calls of the service -/

/-- The service does what it is asked for a permission. -/
def Succeeds (answers : Answers) (permission : String) : Prop :=
  (answers.getDefPermission permission = some .aplSystemBasic ∨
    answers.getDefPermission permission = some .aplNormal) ∧ answers.setUserPolicy permission = true

/-- The calls for some permissions, in the order of the permissions, all succeed, or already the first
one fails. -/
def Uniform (answers : Answers) (permissions : Set String) : Prop :=
  (∀ p, p ∈ permissions → Succeeds answers p) ∨
    ∃ p, p ∈ permissions ∧ (∀ q, q ∈ permissions → p ≤ q) ∧ ¬ Succeeds answers p

section Calls

variable {answers : Answers} {data : List String}

theorem addOrRemoveAccessTokenPolicy_cons {isAdd : Bool} {restricted : Finset String} {p : String}
    (h : Succeeds answers p) :
    addOrRemoveAccessTokenPolicy answers isAdd (p :: data) restricted =
      addOrRemoveAccessTokenPolicy answers isAdd data
        (if isAdd then insert p restricted else restricted.erase p) := by
  rw [addOrRemoveAccessTokenPolicy]
  rcases h.1 with hlevel | hlevel
  · rw [hlevel]
    dsimp only
    rw [if_neg (by decide), if_pos h.2]
  · rw [hlevel]
    dsimp only
    rw [if_neg (by decide), if_pos h.2]

/-- All calls succeed. -/
theorem addOrRemoveAccessTokenPolicy_all (isAdd : Bool) (restricted : Finset String)
    (h : ∀ p, p ∈ data → Succeeds answers p) :
    ∃ restricted', addOrRemoveAccessTokenPolicy answers isAdd data restricted =
        (ERR_OK, restricted') ∧
      ∀ x, x ∈ restricted' ↔
        if isAdd then x ∈ restricted ∨ x ∈ data else x ∈ restricted ∧ x ∉ data := by
  induction data generalizing restricted with
  | nil =>
    refine ⟨restricted, rfl, fun x => ?_⟩
    cases isAdd
    · exact (and_iff_left List.not_mem_nil).symm
    · exact (or_iff_left List.not_mem_nil).symm
  | cons p data ih =>
    rw [addOrRemoveAccessTokenPolicy_cons (h p List.mem_cons_self)]
    obtain ⟨restricted', hresult, hmem⟩ := ih (if isAdd then insert p restricted else
      restricted.erase p) fun q hq => h q (List.mem_cons_of_mem p hq)
    refine ⟨restricted', hresult, fun x => (hmem x).trans ?_⟩
    cases isAdd
    · simp only [Bool.false_eq_true, if_false, Finset.mem_erase, List.mem_cons, not_or]
      constructor
      · rintro ⟨⟨hne, hx⟩, hdata⟩
        exact ⟨hx, hne, hdata⟩
      · rintro ⟨hx, hne, hdata⟩
        exact ⟨⟨hne, hx⟩, hdata⟩
    · simp only [if_true, Finset.mem_insert, List.mem_cons]
      constructor
      · rintro ((hp | hx) | hdata)
        · exact .inr (.inl hp)
        · exact .inl hx
        · exact .inr (.inr hdata)
      · rintro (hx | hp | hdata)
        · exact .inl (.inr hx)
        · exact .inl (.inl hp)
        · exact .inr hdata

/-- The first call fails. -/
theorem addOrRemoveAccessTokenPolicy_first (isAdd : Bool) (restricted : Finset String) {p : String}
    (h : ¬ Succeeds answers p) :
    ∃ ret, failed ret = true ∧
      addOrRemoveAccessTokenPolicy answers isAdd (p :: data) restricted = (ret, restricted) := by
  rw [addOrRemoveAccessTokenPolicy]
  cases hlevel : answers.getDefPermission p with
  | none => exact ⟨_, rfl, rfl⟩
  | some availableLevel =>
    dsimp only
    split
    · exact ⟨_, rfl, rfl⟩
    · rename_i hknown
      have hset : ¬ answers.setUserPolicy p = true := by
        intro hset
        refine h ⟨?_, hset⟩
        rw [hlevel]
        cases availableLevel with
        | aplSystemBasic => exact .inl rfl
        | aplNormal => exact .inr rfl
        | aplInvalid => exact absurd ⟨by decide, by decide⟩ hknown
        | aplSystemCore => exact absurd ⟨by decide, by decide⟩ hknown
      rw [if_neg hset]
      exact ⟨_, rfl, rfl⟩

/-- The calls for a list in the order of the permissions. -/
theorem addOrRemoveAccessTokenPolicy_uniform (isAdd : Bool) (restricted : Finset String)
    (hsorted : Sorted data) (h : Uniform answers {x | x ∈ data}) :
    (∀ p, p ∈ data → Succeeds answers p) ∨
      ∃ ret, failed ret = true ∧
        addOrRemoveAccessTokenPolicy answers isAdd data restricted = (ret, restricted) := by
  rcases h with hall | ⟨p, hp, hleast, hfails⟩
  · exact .inl hall
  · right
    cases data with
    | nil => exact absurd hp List.not_mem_nil
    | cons first data =>
      have hfirst : first = p := by
        refine le_antisymm ?_ (hleast first List.mem_cons_self)
        rcases List.mem_cons.mp hp with rfl | hmem
        · exact le_rfl
        · exact (List.pairwise_cons.mp hsorted).1 p hmem
      rw [hfirst]
      exact addOrRemoveAccessTokenPolicy_first isAdd restricted hfails

end Calls

/-! ### The handlers on lists -/

section Lists

open ArrayStringSerializer

variable {answers : Answers} {data current others : List String}

theorem overMax_ne : config.overMaxReturnErrCode ≠ ERR_OK := by decide

theorem sorted_setDifferencePolicyData (data current : List String) :
    Sorted (setDifferencePolicyData data current) :=
  (sorted_sort current).sublist (setDifference_sublist (sort current) (sort data))

/-- The number of the items of a list. -/
theorem ncard_list (h : data.Nodup) : {x | x ∈ data}.ncard = data.length := by
  rw [← List.toFinset_card_of_nodup h, ← Set.ncard_coe_finset]
  exact congrArg Set.ncard (Set.ext fun x => by simp)

/-- What a handler makes of the list of an admin, the list of all and the restricted permissions, where
the others have `others`.  The permissions of `lifted` are those whose restriction is lifted. -/
structure Handled (others after merged : List String) (restricted : Finset String)
    (current : List String) (lifted : Set String) (cleaned : List String) : Prop where
  after_nodup : after.Nodup
  merged_nodup : merged.Nodup
  merged_mem : ∀ x, x ∈ merged ↔ x ∈ others ∨ x ∈ after
  restricted_mem : ∀ x, x ∈ restricted ↔ x ∈ merged
  dropped : ∀ x, x ∈ current → x ∈ merged ∨ x ∈ cleaned
  cleaned_subset : ∀ x, x ∈ cleaned → x ∈ lifted

/-- The permissions that a removal lifts when the service does so for all of them. -/
def toLift (data current others : Set String) : Set String := {x | x ∈ data ∧ x ∈ current ∧ x ∉ others}

/-- The permissions whose restriction a removal lifts. -/
def lifted (answers : Answers) (data current others : Set String) : Set String :=
  {x | x ∈ toLift data current others ∧ data.ncard ≤ config.maxListSize ∧
    ∀ p, p ∈ toLift data current others → Succeeds answers p}

/-- A handler does nothing, or handles the lists. -/
def Outcome (token : AccessToken) (current others : List String) (lifted : Set String)
    (result : ErrCode × AccessToken × List String × List String) : Prop :=
  result.2.1 = token ∧ (result.1 ≠ ERR_OK ∨ result.2.2 = (current, others)) ∨
    result.1 = ERR_OK ∧ Handled others result.2.2.1 result.2.2.2 result.2.1.restricted current lifted
      result.2.1.cleaned

variable (hdata : data.Nodup) (hcurrent : current.Nodup) (hothers : others.Nodup)
  {restricted : Finset String} (hrestricted : ∀ x, x ∈ restricted ↔ x ∈ others ∨ x ∈ current)
include hdata hcurrent hothers hrestricted

theorem onBasicSetPolicyOf_outcome
    (huniform : {x | x ∈ others ∨ x ∈ current ∨ x ∈ data}.ncard ≤ config.maxListSize →
      Uniform answers {x | x ∈ data ∧ x ∉ current ∧ x ∉ others}) :
    Outcome ⟨restricted, []⟩ current others ∅
      (onBasicSetPolicyOf config (setOtherModulePolicy answers) ⟨restricted, []⟩ data current
        others) := by
  unfold onBasicSetPolicyOf
  dsimp only
  split
  · exact .inl ⟨rfl, .inr rfl⟩
  split
  · exact .inl ⟨rfl, .inl overMax_ne⟩
  split
  · exact .inl ⟨rfl, .inl overMax_ne⟩
  rename_i hlength
  have hadd : (setDifferencePolicyData current data).Nodup := nodup_setDifferencePolicyData hdata
  have hafter : (setUnionPolicyData current (setDifferencePolicyData current data)).Nodup :=
    nodup_setUnionPolicyData hcurrent hadd
  have hmemAfter : ∀ x, x ∈ setUnionPolicyData current (setDifferencePolicyData current data) ↔
      x ∈ current ∨ x ∈ data := by
    intro x
    rw [mem_setUnionPolicyData, mem_setDifferencePolicyData hdata]
    constructor
    · rintro (hx | ⟨hx, -⟩)
      · exact .inl hx
      · exact .inr hx
    · rintro (hx | hx)
      · exact .inl hx
      · by_cases hown : x ∈ current
        · exact .inl hown
        · exact .inr ⟨hx, hown⟩
  have hmerged := nodup_setUnionPolicyData hothers hafter
  have hmemNeed : ∀ x, x ∈ setDifferencePolicyData others (setDifferencePolicyData current data) ↔
      x ∈ data ∧ x ∉ current ∧ x ∉ others := by
    intro x
    rw [mem_setDifferencePolicyData hadd, mem_setDifferencePolicyData hdata, and_assoc]
  have huniform : Uniform answers
      {x | x ∈ setDifferencePolicyData others (setDifferencePolicyData current data)} := by
    have hset : {x | x ∈ setDifferencePolicyData others (setDifferencePolicyData current data)} =
        {x | x ∈ data ∧ x ∉ current ∧ x ∉ others} := Set.ext hmemNeed
    rw [hset]
    refine huniform ?_
    have hunion : {x | x ∈ others ∨ x ∈ current ∨ x ∈ data} = {x | x ∈ setUnionPolicyData others
        (setUnionPolicyData current (setDifferencePolicyData current data))} := by
      refine Set.ext fun x => ?_
      show _ ↔ x ∈ setUnionPolicyData _ _
      rw [mem_setUnionPolicyData, hmemAfter]
      exact Iff.rfl
    rw [hunion, ncard_list hmerged]
    exact Nat.not_lt.mp hlength
  have hhandled : ∀ restricted' : Finset String,
      (∀ x, x ∈ restricted' ↔ x ∈ restricted ∨
        x ∈ setDifferencePolicyData others (setDifferencePolicyData current data)) →
      Handled others (setUnionPolicyData current (setDifferencePolicyData current data))
        (setUnionPolicyData others (setUnionPolicyData current
          (setDifferencePolicyData current data))) restricted' current ∅ [] := by
    intro restricted' hmem
    refine ⟨hafter, hmerged, fun x => mem_setUnionPolicyData, fun x => ?_, fun x hx => ?_,
      fun x hx => absurd hx List.not_mem_nil⟩
    · rw [hmem, hrestricted, hmemNeed, mem_setUnionPolicyData, hmemAfter]
      constructor
      · rintro ((hx | hx) | ⟨hx, -, -⟩)
        · exact .inl hx
        · exact .inr (.inl hx)
        · exact .inr (.inr hx)
      · rintro (hx | hx | hx)
        · exact .inl (.inl hx)
        · exact .inl (.inr hx)
        · by_cases hown : x ∈ current
          · exact .inl (.inr hown)
          · by_cases hother : x ∈ others
            · exact .inl (.inl hother)
            · exact .inr ⟨hx, hown, hother⟩
    · exact .inl (mem_setUnionPolicyData.mpr (.inr ((hmemAfter x).mpr (.inl hx))))
  by_cases hnone : setDifferencePolicyData others (setDifferencePolicyData current data) = []
  · rw [if_pos hnone]
    right
    refine ⟨rfl, hhandled restricted fun x => ?_⟩
    rw [hnone]
    exact (or_iff_left List.not_mem_nil).symm
  · rw [if_neg hnone, setOtherModulePolicy]
    rcases addOrRemoveAccessTokenPolicy_uniform true restricted
      (sorted_setDifferencePolicyData _ _) huniform with hall | ⟨ret, hret, hresult⟩
    · obtain ⟨restricted', hresult, hmem⟩ :=
        addOrRemoveAccessTokenPolicy_all true restricted hall
      rw [hresult]
      exact .inr ⟨rfl, hhandled restricted' hmem⟩
    · rw [hresult]
      dsimp only
      rw [if_pos hret]
      exact .inl ⟨rfl, .inl (bne_iff_ne.mp hret)⟩

theorem onBasicRemovePolicyOf_outcome
    (huniform : {x | x ∈ data}.ncard ≤ config.maxListSize →
      Uniform answers (toLift {x | x ∈ data} {x | x ∈ current} {x | x ∈ others})) :
    Outcome ⟨restricted, []⟩ current others
      (lifted answers {x | x ∈ data} {x | x ∈ current} {x | x ∈ others})
      (onBasicRemovePolicyOf config (removeOtherModulePolicy answers) ⟨restricted, []⟩ data current
        others) := by
  unfold onBasicRemovePolicyOf
  dsimp only
  split
  · exact .inl ⟨rfl, .inr rfl⟩
  split
  · exact .inl ⟨rfl, .inl overMax_ne⟩
  rename_i hlength
  have hsize : {x | x ∈ data}.ncard ≤ config.maxListSize := by
    rw [ncard_list hdata]
    exact Nat.not_lt.mp hlength
  obtain ⟨need, hneed⟩ : ∃ need, setIntersectionPolicyData data current = need := ⟨_, rfl⟩
  have hneedNodup : need.Nodup := hneed ▸ nodup_setIntersectionPolicyData hdata
  have hmemNeed : ∀ x, x ∈ need ↔ x ∈ data ∧ x ∈ current := by
    intro x
    rw [← hneed, mem_setIntersectionPolicyData]
  have hmemLift : ∀ x, x ∈ setDifferencePolicyData others need ↔
      x ∈ toLift {x | x ∈ data} {x | x ∈ current} {x | x ∈ others} := by
    intro x
    rw [mem_setDifferencePolicyData hneedNodup, hmemNeed, and_assoc]
    exact Iff.rfl
  have hafter : (setDifferencePolicyData need current).Nodup := nodup_setDifferencePolicyData hcurrent
  have hmemMerged : ∀ x, x ∈ setUnionPolicyData others (setDifferencePolicyData need current) ↔
      x ∈ others ∨ x ∈ current ∧ x ∉ data := by
    intro x
    rw [mem_setUnionPolicyData, mem_setDifferencePolicyData hcurrent, hmemNeed]
    refine or_congr_right (and_congr_right fun hx => not_congr (and_iff_left hx))
  have hhandled : ∀ (restricted' : Finset String) (cleaned : List String),
      (∀ x, x ∈ restricted' ↔ x ∈ restricted ∧ x ∉ setDifferencePolicyData others need) →
      (∀ x, x ∈ setDifferencePolicyData others need → x ∈ cleaned) →
      (∀ x, x ∈ cleaned →
        x ∈ lifted answers {x | x ∈ data} {x | x ∈ current} {x | x ∈ others}) →
      Handled others (setDifferencePolicyData need current)
        (setUnionPolicyData others (setDifferencePolicyData need current)) restricted' current
        (lifted answers {x | x ∈ data} {x | x ∈ current} {x | x ∈ others}) cleaned := by
    intro restricted' cleaned hmem hcleaned hsubset
    refine ⟨hafter, nodup_setUnionPolicyData hothers hafter, fun x => mem_setUnionPolicyData,
      fun x => ?_, fun x hx => ?_, hsubset⟩
    · rw [hmem, hrestricted, hmemLift, hmemMerged]
      constructor
      · rintro ⟨hx | hx, hnot⟩
        · exact .inl hx
        · by_cases hother : x ∈ others
          · exact .inl hother
          · exact .inr ⟨hx, fun hdata => hnot ⟨hdata, hx, hother⟩⟩
      · rintro (hx | ⟨hx, hdata⟩)
        · exact ⟨.inl hx, fun hlift => hlift.2.2 hx⟩
        · exact ⟨.inr hx, fun hlift => hdata hlift.1⟩
    · rw [hmemMerged]
      by_cases hlift : x ∈ setDifferencePolicyData others need
      · exact .inr (hcleaned x hlift)
      · left
        by_cases hother : x ∈ others
        · exact .inl hother
        · exact .inr ⟨hx, fun hdata => hlift ((hmemLift x).mpr ⟨hdata, hx, hother⟩)⟩
  by_cases hnone : setDifferencePolicyData others need = []
  · rw [hneed, if_pos hnone]
    right
    refine ⟨rfl, hhandled restricted [] (fun x => ?_) (fun x hx => ?_) fun x hx =>
      absurd hx List.not_mem_nil⟩
    · rw [hnone]
      exact (and_iff_left List.not_mem_nil).symm
    · rw [hnone] at hx
      exact hx
  · rw [hneed, if_neg hnone]
    have huniform : Uniform answers {x | x ∈ setDifferencePolicyData others need} := by
      have hset : {x | x ∈ setDifferencePolicyData others need} =
          toLift {x | x ∈ data} {x | x ∈ current} {x | x ∈ others} := Set.ext hmemLift
      rw [hset]
      exact huniform hsize
    rcases addOrRemoveAccessTokenPolicy_uniform false restricted
      (sorted_setDifferencePolicyData _ _) huniform with hall | ⟨ret, hret, hresult⟩
    · obtain ⟨restricted', hresult, hmem⟩ :=
        addOrRemoveAccessTokenPolicy_all false restricted hall
      have hremove : removeOtherModulePolicy answers ⟨restricted, []⟩
          (setDifferencePolicyData others need) =
            (ERR_OK, ⟨restricted', setDifferencePolicyData others need⟩, []) := by
        rw [removeOtherModulePolicy, hresult]
        rfl
      rw [hremove]
      refine .inr ⟨rfl, hhandled restricted' _ hmem (fun x hx => hx) fun x hx => ?_⟩
      exact ⟨(hmemLift x).mp hx, hsize, fun p hp => hall p ((hmemLift p).mpr hp)⟩
    · have hremove : removeOtherModulePolicy answers ⟨restricted, []⟩
          (setDifferencePolicyData others need) = (ret, ⟨restricted, []⟩, []) := by
        rw [removeOtherModulePolicy, hresult]
        exact if_pos hret
      rw [hremove]
      dsimp only
      rw [if_pos hret]
      exact .inl ⟨rfl, .inl (bne_iff_ne.mp hret)⟩

omit hdata hothers in
/-- The removal of an admin, when all calls succeed. -/
theorem onBasicAdminRemoveOf_all (hall : ∀ x, x ∈ current → x ∉ others → Succeeds answers x) :
    (∀ x, x ∈ (onBasicAdminRemoveOf (removeOtherModulePolicy answers) ⟨restricted, []⟩ current
        others).2.restricted ↔ x ∈ others) ∧
      ∀ x, x ∈ (onBasicAdminRemoveOf (removeOtherModulePolicy answers) ⟨restricted, []⟩ current
        others).2.cleaned ↔ x ∈ current ∧ x ∉ others := by
  have hmemLift : ∀ x, x ∈ setDifferencePolicyData others current ↔ x ∈ current ∧ x ∉ others :=
    fun x => mem_setDifferencePolicyData hcurrent
  have hsucceeds : ∀ x, x ∈ setDifferencePolicyData others current → Succeeds answers x :=
    fun x hx => hall x ((hmemLift x).mp hx).1 ((hmemLift x).mp hx).2
  obtain ⟨restricted', hresult, hmem⟩ :=
    addOrRemoveAccessTokenPolicy_all false restricted hsucceeds
  unfold onBasicAdminRemoveOf removeOtherModulePolicy
  dsimp only
  rw [hresult]
  refine ⟨fun x => ?_, hmemLift⟩
  show x ∈ restricted' ↔ _
  rw [hmem]
  simp only [Bool.false_eq_true, if_false]
  rw [hrestricted, hmemLift]
  constructor
  · rintro ⟨hx | hx, hnot⟩
    · exact hx
    · exact not_not.mp fun hother => hnot ⟨hx, hother⟩
  · intro hx
    exact ⟨.inl hx, fun hlift => hlift.2 hx⟩

end Lists

/-! ### One operation on the restricted permissions -/

section Step

open ArrayStringSerializer

variable {C : CJson} {order : HashOrder} {store : UserStore} {restricted : Finset String}
  {admin : AdminName}

/-- The permissions that an admin disallows. -/
abbrev listed (C : CJson) (store : UserStore) (admin : AdminName) : Set String :=
  itemsHeld (itemsOf C) POLICY_DISALLOWED_PERMISSION store admin

/-- The combined list of a user. -/
def combined (C : CJson) (store : UserStore) : Set String :=
  itemsOf C (store.manager.policyValue "" POLICY_DISALLOWED_PERMISSION)

/-- The combined list of a user has what the admins disallow, and is restricted. -/
structure Restricts (C : CJson) (store : UserStore) (restricted : Finset String) : Prop where
  texts : TextStore (IsText C) POLICY_DISALLOWED_PERMISSION store
  combined : combined C store = held (listed C store)
  restricted : ∀ x, x ∈ restricted ↔ x ∈ DisallowedPermissionPlugin.combined C store

/-- What a handler of the user sees. -/
abbrev userState (store : UserStore) (restricted : Finset String) : PluginState AccessToken :=
  ⟨store, ⟨restricted, []⟩, false⟩

abbrev Op := PolicyOp Request Answers

/-- The permissions whose restriction an operation of a user lifts. -/
def liftedBy (C : CJson) (store : UserStore) : Op → Set String
  | .update admin _ request =>
    {x | request.type = .remove ∧ ∃ data, request.data = some data ∧
      x ∈ lifted request.answers {x | x ∈ data} (listed C store admin)
        (heldByOthers (listed C store) admin)}
  | .removeAdmin admin _ _ => listed C store admin \ heldByOthers (listed C store) admin

/-- The calls of the service for an operation all succeed, or already the first one fails.  They
succeed where an admin is removed. -/
def CallsKeep (C : CJson) (store : UserStore) : Op → Prop
  | .update admin _ request => ∀ data, request.data = some data →
    (request.type = .set →
      (combined C store ∪ {x | x ∈ data}).ncard ≤ config.maxListSize →
        Uniform request.answers ({x | x ∈ data} \ combined C store)) ∧
    (request.type = .remove → {x | x ∈ data}.ncard ≤ config.maxListSize →
      Uniform request.answers (toLift {x | x ∈ data} (listed C store admin)
        (heldByOthers (listed C store) admin)))
  | .removeAdmin admin _ answers =>
    ∀ x, x ∈ listed C store admin → x ∉ heldByOthers (listed C store) admin → Succeeds answers x

theorem policyName_ne : POLICY_DISALLOWED_PERMISSION ≠ "" := by decide

theorem mem_getPolicy {data : List String} {x : String} : x ∈ getPolicy data ↔ x ∈ data := by
  rw [getPolicy]
  exact mem_stdSet

/-- What an operation does to a user: the combined list stays restricted, and a permission stays on it
unless its lists of allowed bundles are cleaned. -/
structure Effect (C : CJson) (store : UserStore) (op : Op) (s' : PluginState AccessToken) : Prop where
  restricts : Restricts C s'.store s'.modules.restricted
  dropped : ∀ x, x ∈ combined C store → x ∈ combined C s'.store ∨ x ∈ s'.modules.cleaned
  cleaned : ∀ x, x ∈ s'.modules.cleaned → x ∈ liftedBy C store op

theorem effect_of_unchanged (h : Restricts C store restricted) {op : Op}
    {s' : PluginState AccessToken} (hmodules : s'.modules = ⟨restricted, []⟩)
    (hstore : s'.store = store) : Effect C store op s' := by
  refine ⟨?_, fun x hx => ?_, fun x hx => ?_⟩
  · rw [hmodules, hstore]
    exact h
  · rw [hstore]
    exact .inl hx
  · rw [hmodules] at hx
    exact absurd hx List.not_mem_nil

theorem effect_of_saved (admin : AdminName) (h : Restricts C store restricted) {op : Op} {s' : PluginState AccessToken}
    {after merged : List String}
    (hafter : after.Nodup) (hmerged : merged.Nodup)
    (hmem : ∀ x, x ∈ merged ↔ x ∈ heldByOthers (listed C store) admin ∨ x ∈ after)
    (hrestricted : ∀ x, x ∈ s'.modules.restricted ↔ x ∈ merged)
    (hdropped : ∀ x, x ∈ listed C store admin → x ∈ merged ∨ x ∈ s'.modules.cleaned)
    (hcleaned : ∀ x, x ∈ s'.modules.cleaned → x ∈ liftedBy C store op)
    (hstore : {x | x ∈ after} = listed C store admin ∧ s'.store = store ∨
      Saved store s'.store admin POLICY_DISALLOWED_PERMISSION (serialize C after)
        (serialize C merged)) : Effect C store op s' := by
  have hlisted : listed C s'.store = Function.update (listed C store) admin {x | x ∈ after} := by
    rcases hstore with ⟨hown, hsame⟩ | hsaved
    · rw [hown, Function.update_eq_self, hsame]
    · rw [← itemsOf_serialize (C := C) after]
      exact itemsHeld_saved hsaved
  have hheld : held (listed C s'.store) = {x | x ∈ merged} := by
    rw [hlisted, held_update]
    exact Set.ext fun x => (hmem x).symm
  have hcombined : combined C s'.store = {x | x ∈ merged} := by
    rcases hstore with ⟨-, hsame⟩ | hsaved
    · rw [hsame, h.combined, ← hheld, hsame]
    · rw [combined, hsaved.value_combined]
      exact itemsOf_serialize merged
  have htexts : TextStore (IsText C) POLICY_DISALLOWED_PERMISSION s'.store := by
    rcases hstore with ⟨-, hsame⟩ | hsaved
    · rw [hsame]
      exact h.texts
    · exact h.texts.saved hsaved ⟨after, hafter, rfl⟩ ⟨merged, hmerged, rfl⟩
  refine ⟨⟨htexts, by rw [hcombined, hheld], fun x => ?_⟩, fun x hx => ?_, hcleaned⟩
  · rw [hcombined]
    exact hrestricted x
  · rw [h.combined, held_eq _ admin] at hx
    rw [hcombined]
    rcases hx with hother | hown
    · exact .inl ((hmem x).mpr (.inl hother))
    · exact hdropped x hown

/-- An update with a list, by one of the two handlers. -/
theorem effect_of_outcome (h : Restricts C store restricted) {request : Request} {data : List String}
    {biFunction : AccessToken → List String → List String → List String →
      ErrCode × AccessToken × List String × List String} (lifts : Set String → Set String → Set String)
    (hlifts : ∀ x, x ∈ lifts (listed C store admin) (heldByOthers (listed C store) admin) →
      x ∈ liftedBy C store (.update admin ⟨.done, .done⟩ request))
    (hcall : ∀ m modules policyData, (plugin C order).onHandlePolicy m modules request policyData =
      IPluginTemplate.handlePolicy (serializer C) biFunction modules (some data) policyData)
    (houtcome : ∀ current others : List String, current.Nodup → others.Nodup →
      {x | x ∈ current} = listed C store admin →
      {x | x ∈ others} = heldByOthers (listed C store) admin →
      (∀ x, x ∈ restricted ↔ x ∈ others ∨ x ∈ current) →
      Outcome ⟨restricted, []⟩ current others (lifts {x | x ∈ current} {x | x ∈ others})
        (biFunction ⟨restricted, []⟩ data current others)) :
    Effect C store (.update admin ⟨.done, .done⟩ request)
      (policyStep (plugin C order) (userState store restricted)
        (.update admin ⟨.done, .done⟩ request)) := by
  obtain ⟨current, others, hcurrent, hothers, hown, hmem, hmodules, hstore⟩ :=
    policyStep_update_lists (s := userState store restricted) (plugin C order) admin request order
      h.texts policyName_ne rfl rfl hcall
  have hown : {x | x ∈ current} = listed C store admin := Set.ext hown
  have hother : {x | x ∈ others} = heldByOthers (listed C store) admin := Set.ext hmem
  have hrestricted : ∀ x, x ∈ restricted ↔ x ∈ others ∨ x ∈ current := by
    intro x
    rw [h.restricted, h.combined, held_eq _ admin, ← hown, ← hother]
    exact Iff.rfl
  rcases houtcome current others hcurrent hothers hown hother hrestricted with
    ⟨htoken, hsame⟩ | ⟨hok, hhandled⟩
  · refine effect_of_unchanged h (hmodules.trans htoken) ?_
    rcases hstore with ⟨-, hstore⟩ | ⟨hok, hnew, -⟩
    · exact hstore
    · rcases hsame with hret | hlists
      · exact absurd hok hret
      · exact absurd (congrArg Prod.fst hlists).symm hnew
  · refine effect_of_saved admin h hhandled.after_nodup hhandled.merged_nodup
      (fun x => ?_) ?_ ?_ ?_ ?_
    · rw [hhandled.merged_mem, ← hother]
      exact Iff.rfl
    · rw [hmodules]
      exact hhandled.restricted_mem
    · rw [hmodules, ← hown]
      exact hhandled.dropped
    · rw [hmodules]
      intro x hx
      have hlifted := hhandled.cleaned_subset x hx
      rw [hown, hother] at hlifted
      exact hlifts x hlifted
    · rcases hstore with ⟨hret | hsame, hstore⟩ | ⟨-, -, hsaved⟩
      · exact absurd hok hret
      · left
        refine ⟨?_, hstore⟩
        rw [← hsame, hown]
      · exact .inr hsaved

theorem update_effect (h : Restricts C store restricted) {request : Request}
    (hcalls : CallsKeep C store (.update admin ⟨.done, .done⟩ request)) :
    Effect C store (.update admin ⟨.done, .done⟩ request)
      (policyStep (plugin C order) (userState store restricted)
        (.update admin ⟨.done, .done⟩ request)) := by
  have hnothing : ∀ ret, (∀ policyData, (plugin C order).onHandlePolicy store.manager
        ⟨restricted, []⟩ request policyData = (ret, ⟨restricted, []⟩, policyData)) →
      Effect C store (.update admin ⟨.done, .done⟩ request)
        (policyStep (plugin C order) (userState store restricted)
          (.update admin ⟨.done, .done⟩ request)) := by
    intro ret hcall
    obtain ⟨hmodules, ⟨-, hstore⟩ | ⟨-, hchanged, -⟩⟩ := policyStep_update_cases
      (s := userState store restricted) (plugin C order) admin h.texts.good policyName_ne (hcall _)
    · exact effect_of_unchanged h hmodules hstore
    · cases hchanged
  have hgetPolicy : ∀ data : List String, {x | x ∈ getPolicy data} = {x | x ∈ data} :=
    fun data => Set.ext fun x => mem_getPolicy
  cases hdata : request.data with
  | none =>
    cases htype : request.type with
    | set =>
      refine hnothing ERR_EDM_OPERATE_PARCEL fun policyData => ?_
      show onHandlePolicy C _ request policyData = _
      rw [onHandlePolicy, htype, hdata]
      rfl
    | remove =>
      refine hnothing ERR_EDM_OPERATE_PARCEL fun policyData => ?_
      show onHandlePolicy C _ request policyData = _
      rw [onHandlePolicy, htype, hdata]
      rfl
    | get =>
      refine hnothing ERR_OK fun policyData => ?_
      show onHandlePolicy C _ request policyData = _
      rw [onHandlePolicy, htype]
    | unknown =>
      refine hnothing ERR_OK fun policyData => ?_
      show onHandlePolicy C _ request policyData = _
      rw [onHandlePolicy, htype]
  | some data =>
    obtain ⟨hset, hremove⟩ := hcalls data hdata
    by_cases htype : request.type = .set
    · have hcall : ∀ m modules policyData, (plugin C order).onHandlePolicy m modules request
          policyData = IPluginTemplate.handlePolicy (serializer C)
            (onBasicSetPolicyOf config (setOtherModulePolicy request.answers)) modules
            (some (getPolicy data)) policyData := by
        intro m modules policyData
        show onHandlePolicy C modules request policyData = _
        rw [onHandlePolicy, htype, hdata]
        rfl
      refine effect_of_outcome h (fun _ _ => ∅) (fun x hx => absurd hx (Set.notMem_empty x)) hcall fun current others hcurrent hothers hown hother hrestricted => ?_
      refine onBasicSetPolicyOf_outcome (nodup_getPolicy data) hcurrent hothers hrestricted ?_
      intro hsize
      have hcombined : combined C store = {x | x ∈ others ∨ x ∈ current} := by
        rw [h.combined, held_eq _ admin, ← hown, ← hother]
        rfl
      have hlist : {x | x ∈ data} \ combined C store =
          {x | x ∈ getPolicy data ∧ x ∉ current ∧ x ∉ others} := by
        rw [hcombined, ← hgetPolicy]
        refine Set.ext fun x => and_congr_right fun _ => ?_
        exact not_or.trans and_comm
      rw [← hlist]
      refine hset htype (le_of_eq_of_le ?_ hsize)
      rw [hcombined, ← hgetPolicy]
      exact congrArg Set.ncard (Set.ext fun x => or_assoc)
    by_cases htype' : request.type = .remove
    · have hcall : ∀ m modules policyData, (plugin C order).onHandlePolicy m modules request
          policyData = IPluginTemplate.handlePolicy (serializer C)
            (onBasicRemovePolicyOf config (removeOtherModulePolicy request.answers)) modules
            (some (getPolicy data)) policyData := by
        intro m modules policyData
        show onHandlePolicy C modules request policyData = _
        rw [onHandlePolicy, htype', hdata]
        rfl
      refine effect_of_outcome h (lifted request.answers {x | x ∈ data})
        (fun x hx => ⟨htype', data, hdata, hx⟩) hcall fun current others hcurrent hothers hown hother hrestricted => ?_
      rw [← hgetPolicy data]
      refine onBasicRemovePolicyOf_outcome (nodup_getPolicy data) hcurrent hothers hrestricted
        fun hsize => ?_
      rw [hgetPolicy, hown, hother]
      rw [hgetPolicy] at hsize
      exact hremove htype' hsize
    · refine hnothing ERR_OK fun policyData => ?_
      show onHandlePolicy C _ request policyData = _
      unfold onHandlePolicy
      split
      · exact absurd ‹_› htype
      · exact absurd ‹_› htype'
      · rfl

theorem removeAdmin_effect (h : Restricts C store restricted) {answers : Answers}
    (hcalls : CallsKeep C store (.removeAdmin admin ⟨.done, .done⟩ answers)) :
    Effect C store (.removeAdmin admin ⟨.done, .done⟩ answers)
      (policyStep (plugin C order) (userState store restricted)
        (.removeAdmin admin ⟨.done, .done⟩ answers)) := by
  obtain ⟨current, hcurrent, hvalue⟩ := h.texts.text admin
  obtain ⟨others, hothers, hmem, htext⟩ := getOthersMergePolicyData_text h.texts order admin
  have hown : {x | x ∈ current} = listed C store admin := by
    rw [listed, itemsHeld, hvalue, itemsOf_serialize]
  have hmerge : (plugin C order).getOthersMergePolicyData store.manager admin =
      serialize C others := htext
  have hrestricted : ∀ x, x ∈ restricted ↔ x ∈ others ∨ x ∈ current := by
    intro x
    rw [h.restricted, h.combined, held_eq _ admin, ← hown, hmem]
    exact Iff.rfl
  rcases policyStep_removeAdmin_cases (s := userState store restricted) (plugin C order) admin
    h.texts.good policyName_ne rfl answers with ⟨-, hsame⟩ | ⟨-, hmodules, hsaved⟩
  · rw [hsame]
    exact effect_of_unchanged h rfl rfl
  · have hread : ∀ data, (serializer C).deserialize (serialize C data) = some data :=
      fun data => deserialize_serialize data
    rw [hmerge] at hsaved hmodules
    have hremove : (policyStep (plugin C order) (userState store restricted)
        (.removeAdmin admin ⟨.done, .done⟩ answers)).modules =
          (onBasicAdminRemoveOf (removeOtherModulePolicy answers) ⟨restricted, []⟩ current
            others).2 := by
      rw [hmodules]
      show (IPluginTemplate.adminRemove (serializer C) _ _
        (store.manager.policyValue admin POLICY_DISALLOWED_PERMISSION) _).2 = _
      rw [hvalue, IPluginTemplate.adminRemove_read (hread current) (hread others)]
    have hlift : ∀ x, x ∈ current ∧ x ∉ others ↔
        x ∈ listed C store admin \ heldByOthers (listed C store) admin := by
      intro x
      rw [hmem, ← hown]
      exact Iff.rfl
    have hall : ∀ x, x ∈ current → x ∉ others → Succeeds answers x := fun x hx hnot =>
      hcalls x ((hlift x).mp ⟨hx, hnot⟩).1 ((hlift x).mp ⟨hx, hnot⟩).2
    obtain ⟨hlist, hcleaned⟩ := onBasicAdminRemoveOf_all hcurrent hrestricted hall
    rw [← hremove] at hlist hcleaned
    have hsaved : Saved store (policyStep (plugin C order) (userState store restricted)
        (.removeAdmin admin ⟨.done, .done⟩ answers)).store admin POLICY_DISALLOWED_PERMISSION
          (serialize C []) (serialize C others) := by
      rw [serialize_nil]
      exact hsaved
    refine effect_of_saved admin h List.nodup_nil hothers (fun x => ?_) hlist (fun x hx => ?_)
      (fun x hx => (hlift x).mp ((hcleaned x).mp hx)) (.inr hsaved)
    · rw [hmem]
      exact (or_iff_left List.not_mem_nil).symm
    · by_cases hother : x ∈ others
      · exact .inl hother
      · rw [← hown] at hx
        exact .inr ((hcleaned x).mpr ⟨hx, hother⟩)

/-- What an operation of a user does, when its writes take effect. -/
theorem step_effect (h : Restricts C store restricted) {op : Op} (hwrites : op.writes = ⟨.done, .done⟩)
    (hcalls : CallsKeep C store op) :
    Effect C store op (policyStep (plugin C order) (userState store restricted) op) := by
  cases op with
  | update admin writes request =>
    obtain rfl : writes = ⟨.done, .done⟩ := hwrites
    exact update_effect h hcalls
  | removeAdmin admin writes answers =>
    obtain rfl : writes = ⟨.done, .done⟩ := hwrites
    exact removeAdmin_effect h hcalls

end Step

end DisallowedPermissionPlugin

end Edm
