import Mathlib.Data.Finset.Basic
import Edm.Library.Holders
import Edm.Plugin.ArrayStringSerializer

/-! `BasicArrayStringPlugin`: a list of strings for each admin, and other modules that enforce every
string of some admin's list.  The modules answer a call with an error and do nothing, or do it for the
items that they do not report back in `failedData`. -/

set_option autoImplicit false

namespace Edm

open Library

/-- The answer of `SetOtherModulePolicy` or `RemoveOtherModulePolicy`. -/
inductive ModuleAnswer where
  | refused (err : ErrCode) (isError : failed err = true)
  | accepted (fails : String → Bool)

/-- The modules do what a call asks for an item. -/
def ModuleAnswer.Handles (answer : ModuleAnswer) (item : String) : Prop :=
  match answer with
  | .refused _ _ => False
  | .accepted fails => fails item = false

namespace BasicArrayStringPlugin

/-- The members of the plugin that its handlers read. -/
structure Config where
  policyName : String
  policyName_ne : policyName ≠ ""
  maxListSize : Nat
  overMaxReturnErrCode : ErrCode
  overMax_failed : failed overMaxReturnErrCode = true

/-- The code, the items that the modules enforce, and `failedData`. -/
def setOtherModulePolicy (answer : ModuleAnswer) (enforced : Finset String)
    (data : List String) : ErrCode × Finset String × List String :=
  match answer with
  | .refused err _ => (err, enforced, [])
  | .accepted fails =>
    (ERR_OK, enforced ∪ (data.filter fun item => !fails item).toFinset, data.filter fails)

def removeOtherModulePolicy (answer : ModuleAnswer) (enforced : Finset String)
    (data : List String) : ErrCode × Finset String × List String :=
  match answer with
  | .refused err _ => (err, enforced, [])
  | .accepted fails =>
    (ERR_OK, enforced \ (data.filter fun item => !fails item).toFinset, data.filter fails)

open ArrayStringSerializer

variable (config : Config)

def onBasicSetPolicy (answer : ModuleAnswer) (enforced : Finset String)
    (data currentData mergeData : List String) :
    ErrCode × Finset String × List String × List String :=
  if data = [] then (ERR_OK, enforced, currentData, mergeData)
  else if config.maxListSize < data.length then
    (config.overMaxReturnErrCode, enforced, currentData, mergeData)
  else
    let needAddData := setDifferencePolicyData currentData data
    let needAddMergeData := setDifferencePolicyData mergeData needAddData
    let afterHandle := setUnionPolicyData currentData needAddData
    let afterMerge := setUnionPolicyData mergeData afterHandle
    if config.maxListSize < afterMerge.length then
      (config.overMaxReturnErrCode, enforced, currentData, mergeData)
    else
      let (ret, enforced, failedData) :=
        if needAddMergeData = [] then (ERR_OK, enforced, [])
        else setOtherModulePolicy answer enforced needAddMergeData
      if failed ret then (ret, enforced, currentData, mergeData)
      else if failedData = [] then (ERR_OK, enforced, afterHandle, afterMerge)
      else
        (ERR_OK, enforced, setDifferencePolicyData failedData afterHandle,
          setDifferencePolicyData failedData afterMerge)

def onBasicRemovePolicy (answer : ModuleAnswer) (enforced : Finset String)
    (data currentData mergeData : List String) :
    ErrCode × Finset String × List String × List String :=
  if data = [] then (ERR_OK, enforced, currentData, mergeData)
  else if config.maxListSize < data.length then
    (config.overMaxReturnErrCode, enforced, currentData, mergeData)
  else
    let needRemovePolicy := setIntersectionPolicyData data currentData
    let needRemoveMergePolicy := setDifferencePolicyData mergeData needRemovePolicy
    let (ret, enforced, failedData) :=
      if needRemoveMergePolicy = [] then (ERR_OK, enforced, [])
      else removeOtherModulePolicy answer enforced needRemoveMergePolicy
    if failed ret then (ret, enforced, currentData, mergeData)
    else
      let removeData :=
        if failedData = [] then needRemovePolicy
        else setDifferencePolicyData failedData needRemovePolicy
      let currentData := setDifferencePolicyData removeData currentData
      (ERR_OK, enforced, currentData, setUnionPolicyData mergeData currentData)

/-- `failedData` is not returned. -/
def onBasicAdminRemove (answer : ModuleAnswer) (enforced : Finset String)
    (data mergeData : List String) : ErrCode × Finset String :=
  let needRemoveMergePolicy := setDifferencePolicyData mergeData data
  let (ret, enforced, _) := removeOtherModulePolicy answer enforced needRemoveMergePolicy
  (ret, enforced)

/-- A request, with the answer of the modules.  A request without data cannot be read. -/
inductive Request where
  | set (data : Option (List String)) (answer : ModuleAnswer)
  | remove (data : Option (List String)) (answer : ModuleAnswer)

/-- The plugin as its listeners make it. -/
def plugin (C : CJson) (order : HashOrder) :
    Plugin (Finset String) Request ModuleAnswer Unit where
  policyName := config.policyName
  needSave := true
  getOthersMergePolicyData :=
    IPluginTemplate.getOthersMergePolicyData (serializer C) order config.policyName
  onHandlePolicy _ enforced request policyData :=
    match request with
    | .set data answer =>
      IPluginTemplate.handlePolicy (serializer C) (onBasicSetPolicy config answer) enforced
        (data.map getPolicy) policyData
    | .remove data answer =>
      IPluginTemplate.handlePolicy (serializer C) (onBasicRemovePolicy config answer) enforced
        (data.map getPolicy) policyData
  onAdminRemove enforced answer currentJsonData mergeJsonData :=
    IPluginTemplate.adminRemove (serializer C) (onBasicAdminRemove answer) enforced
      currentJsonData mergeJsonData
  onPluginEvent policyData _ := policyData

section Listeners

variable (C : CJson) (order : HashOrder) (m : UserPolicyManager) (enforced : Finset String) (data : Option (List String))
  (answer : ModuleAnswer) (policyData : HandlePolicyData)

theorem onHandlePolicy_set :
    (plugin config C order).onHandlePolicy m enforced (.set data answer) policyData =
      IPluginTemplate.handlePolicy (serializer C) (onBasicSetPolicy config answer) enforced
        (data.map getPolicy) policyData := rfl

theorem onHandlePolicy_remove :
    (plugin config C order).onHandlePolicy m enforced (.remove data answer) policyData =
      IPluginTemplate.handlePolicy (serializer C) (onBasicRemovePolicy config answer) enforced
        (data.map getPolicy) policyData := rfl

end Listeners

/-! ### The modules -/

section Modules

variable (answer : ModuleAnswer) (enforced : Finset String) (data : List String)

theorem setOtherModulePolicy_cases :
    (∃ err, failed err = true ∧
        setOtherModulePolicy answer enforced data = (err, enforced, [])) ∨
      ∃ fails, setOtherModulePolicy answer enforced data =
        (ERR_OK, enforced ∪ (data.filter fun item => !fails item).toFinset, data.filter fails) := by
  cases answer with
  | refused err isError => exact .inl ⟨err, isError, rfl⟩
  | accepted fails => exact .inr ⟨fails, rfl⟩

theorem removeOtherModulePolicy_cases :
    (∃ err, failed err = true ∧
        removeOtherModulePolicy answer enforced data = (err, enforced, [])) ∨
      ∃ fails, removeOtherModulePolicy answer enforced data =
        (ERR_OK, enforced \ (data.filter fun item => !fails item).toFinset,
          data.filter fails) := by
  cases answer with
  | refused err isError => exact .inl ⟨err, isError, rfl⟩
  | accepted fails => exact .inr ⟨fails, rfl⟩

/-- Removing takes the items that the modules handle. -/
theorem mem_removeOtherModulePolicy (x : String) :
    x ∈ (removeOtherModulePolicy answer enforced data).2.1 ↔
      x ∈ enforced ∧ ¬(x ∈ data ∧ answer.Handles x) := by
  cases answer with
  | refused err isError => simp [removeOtherModulePolicy, ModuleAnswer.Handles]
  | accepted fails => simp [removeOtherModulePolicy, ModuleAnswer.Handles]

end Modules

/-! ### What a request leaves -/

/-- After a request of an admin whose others hold `mergeData`: the admin's list, the merged list and
the enforced items agree. -/
structure Handled (mergeData : List String) (enforced : Finset String)
    (currentData' mergeData' : List String) : Prop where
  current_nodup : currentData'.Nodup
  merge_nodup : mergeData'.Nodup
  size : mergeData'.length ≤ config.maxListSize
  merge_mem : ∀ x, x ∈ mergeData' ↔ x ∈ mergeData ∨ x ∈ currentData'
  enforced_mem : ∀ x, x ∈ enforced ↔ x ∈ mergeData'

/-- A request is rejected, has nothing to do, or leaves what `Handled` says. -/
inductive Outcome (enforced : Finset String) (currentData mergeData : List String) :
    ErrCode × Finset String × List String × List String → Prop where
  | rejected (err : ErrCode) (isError : failed err = true) :
    Outcome enforced currentData mergeData (err, enforced, currentData, mergeData)
  | empty : Outcome enforced currentData mergeData (ERR_OK, enforced, currentData, mergeData)
  | handled (enforced' : Finset String) (currentData' mergeData' : List String)
    (h : Handled config mergeData enforced' currentData' mergeData') :
    Outcome enforced currentData mergeData (ERR_OK, enforced', currentData', mergeData')

section Requests

variable {config} {answer : ModuleAnswer} {enforced : Finset String}
  {data currentData mergeData : List String}

theorem onBasicSetPolicy_outcome (hdata : data.Nodup) (hcurrent : currentData.Nodup)
    (hmerge : mergeData.Nodup)
    (henforced : ∀ x, x ∈ enforced ↔ x ∈ mergeData ∨ x ∈ currentData) :
    Outcome config enforced currentData mergeData
      (onBasicSetPolicy config answer enforced data currentData mergeData) := by
  have hadd : (setDifferencePolicyData currentData data).Nodup := nodup_setDifferencePolicyData hdata
  have hhandle := nodup_setUnionPolicyData hcurrent hadd
  have hunion := nodup_setUnionPolicyData hmerge hhandle
  unfold onBasicSetPolicy
  split
  · exact .empty
  split
  · exact .rejected _ config.overMax_failed
  dsimp only
  split
  · exact .rejected _ config.overMax_failed
  rename_i hsize
  by_cases hnothing : setDifferencePolicyData mergeData (setDifferencePolicyData currentData data) = []
  · -- The others hold every new item already.
    rw [if_pos hnothing]
    refine .handled _ _ _ ⟨hhandle, hunion, not_lt.mp hsize, fun x => by simp, fun x => ?_⟩
    have hx : x ∉ setDifferencePolicyData mergeData (setDifferencePolicyData currentData data) := by
      simp [hnothing]
    rw [mem_setDifferencePolicyData hadd] at hx
    rw [henforced, mem_setUnionPolicyData, mem_setUnionPolicyData]
    tauto
  · rw [if_neg hnothing]
    rcases setOtherModulePolicy_cases answer enforced
      (setDifferencePolicyData mergeData (setDifferencePolicyData currentData data)) with
      ⟨err, herr, hset⟩ | ⟨fails, hset⟩
    · rw [hset]
      dsimp only
      rw [if_pos herr]
      exact .rejected err herr
    · rw [hset]
      dsimp only
      rw [if_neg (by decide)]
      have hneed : ∀ x, x ∈ setDifferencePolicyData mergeData
          (setDifferencePolicyData currentData data) ↔
            (x ∈ data ∧ x ∉ currentData) ∧ x ∉ mergeData := fun x => by
        rw [mem_setDifferencePolicyData hadd, mem_setDifferencePolicyData hdata]
      split
      · -- Every new item is enforced.
        rename_i hfails
        have hall := List.filter_eq_nil_iff.mp hfails
        refine .handled _ _ _ ⟨hhandle, hunion, not_lt.mp hsize, fun x => by simp, fun x => ?_⟩
        have hx := hall x
        simp only [Finset.mem_union, List.mem_toFinset, List.mem_filter, Bool.not_eq_true',
          mem_setUnionPolicyData, henforced, mem_setDifferencePolicyData hdata, hneed] at hx ⊢
        grind
      · -- The items that failed are in neither list.
        refine .handled _ _ _ ⟨nodup_setDifferencePolicyData hhandle,
          nodup_setDifferencePolicyData hunion, ?_, fun x => ?_, fun x => ?_⟩
        · refine le_trans ((nodup_setDifferencePolicyData hunion).subperm fun x hx => ?_).length_le
            (not_lt.mp hsize)
          exact ((mem_setDifferencePolicyData hunion).mp hx).1
        · simp only [mem_setDifferencePolicyData hunion, mem_setDifferencePolicyData hhandle,
            List.mem_filter, mem_setUnionPolicyData, mem_setDifferencePolicyData hdata, hneed]
          grind
        · simp only [Finset.mem_union, List.mem_toFinset, List.mem_filter, Bool.not_eq_true',
            mem_setDifferencePolicyData hunion, mem_setUnionPolicyData, henforced,
            mem_setDifferencePolicyData hdata, hneed]
          grind

theorem onBasicRemovePolicy_outcome (hdata : data.Nodup) (hcurrent : currentData.Nodup)
    (hmerge : mergeData.Nodup)
    (henforced : ∀ x, x ∈ enforced ↔ x ∈ mergeData ∨ x ∈ currentData)
    (hsize : (setUnionPolicyData mergeData currentData).length ≤ config.maxListSize) :
    Outcome config enforced currentData mergeData
      (onBasicRemovePolicy config answer enforced data currentData mergeData) := by
  have hremove : (setIntersectionPolicyData data currentData).Nodup :=
    nodup_setIntersectionPolicyData hdata
  have hunion := nodup_setUnionPolicyData hmerge hcurrent
  -- Whatever is taken from the admin's list, the merged list stays within the old union.
  have hhandled : ∀ (removeData : List String) (enforced' : Finset String),
      (∀ x, x ∈ enforced' ↔ x ∈ mergeData ∨ (x ∈ currentData ∧ x ∉ removeData)) →
      Handled config mergeData enforced' (setDifferencePolicyData removeData currentData)
        (setUnionPolicyData mergeData (setDifferencePolicyData removeData currentData)) := by
    intro removeData enforced' henforced'
    have hcurrent' : (setDifferencePolicyData removeData currentData).Nodup :=
      nodup_setDifferencePolicyData hcurrent
    have hunion' := nodup_setUnionPolicyData hmerge hcurrent'
    refine ⟨hcurrent', hunion', ?_, fun x => mem_setUnionPolicyData, fun x => ?_⟩
    · refine le_trans (hunion'.subperm fun x hx => ?_).length_le hsize
      rw [mem_setUnionPolicyData, mem_setDifferencePolicyData hcurrent] at hx
      rw [mem_setUnionPolicyData]
      exact hx.imp_right And.left
    · rw [henforced', mem_setUnionPolicyData, mem_setDifferencePolicyData hcurrent]
  unfold onBasicRemovePolicy
  split
  · exact .empty
  split
  · exact .rejected _ config.overMax_failed
  dsimp only
  by_cases hnothing :
      setDifferencePolicyData mergeData (setIntersectionPolicyData data currentData) = []
  · -- The others hold every item that goes.
    rw [if_pos hnothing]
    refine .handled _ _ _ (hhandled _ _ fun x => ?_)
    have hx : x ∉ setDifferencePolicyData mergeData
        (setIntersectionPolicyData data currentData) := by
      simp [hnothing]
    rw [mem_setDifferencePolicyData hremove, mem_setIntersectionPolicyData] at hx
    rw [if_pos rfl, henforced, mem_setIntersectionPolicyData]
    tauto
  · rw [if_neg hnothing]
    have hneed : ∀ x, x ∈ setDifferencePolicyData mergeData
        (setIntersectionPolicyData data currentData) ↔
          (x ∈ data ∧ x ∈ currentData) ∧ x ∉ mergeData := fun x => by
      rw [mem_setDifferencePolicyData hremove, mem_setIntersectionPolicyData]
    rcases removeOtherModulePolicy_cases answer enforced
      (setDifferencePolicyData mergeData (setIntersectionPolicyData data currentData)) with
      ⟨err, herr, hcall⟩ | ⟨fails, hcall⟩
    · rw [hcall]
      dsimp only
      rw [if_pos herr]
      exact .rejected err herr
    · rw [hcall]
      dsimp only
      rw [if_neg (by decide)]
      refine .handled _ _ _ (hhandled _ _ fun x => ?_)
      simp only [Finset.mem_sdiff, List.mem_toFinset, List.mem_filter, Bool.not_eq_true',
        henforced, hneed]
      split
      · rename_i hfails
        have hx := List.filter_eq_nil_iff.mp hfails x
        simp only [hneed, mem_setIntersectionPolicyData] at hx ⊢
        grind
      · simp only [mem_setDifferencePolicyData hremove, mem_setIntersectionPolicyData,
          List.mem_filter]
        grind

/-- The admin's items that nobody else holds are dropped, as far as the modules handle them. -/
theorem mem_onBasicAdminRemove (hdata : data.Nodup) (x : String) :
    x ∈ (onBasicAdminRemove answer enforced data mergeData).2 ↔
      x ∈ enforced ∧ ¬((x ∈ data ∧ x ∉ mergeData) ∧ answer.Handles x) := by
  have hremove := mem_removeOtherModulePolicy answer enforced
    (setDifferencePolicyData mergeData data) x
  rw [mem_setDifferencePolicyData hdata] at hremove
  exact hremove

end Requests

end BasicArrayStringPlugin

end Edm
