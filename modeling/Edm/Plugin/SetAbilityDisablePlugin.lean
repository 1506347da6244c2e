import Mathlib.Data.Finset.Basic
import Edm.Admin.Admin
import Edm.Plugin.ArrayStringSerializer

/-! `SetAbilityDisablePlugin`: the abilities that each admin disables.  The plugin derives from
`IPlugin` directly and keeps its `GetOthersMergePolicyData`, so its handlers never see what the other
admins disable. -/

set_option autoImplicit false

namespace Edm

open Library

/-- `IPlugin::GetOthersMergePolicyData` leaves the out parameter as its callers set it up. -/
def IPlugin.getOthersMergePolicyData (_ : UserPolicyManager) (_ : String) : String := ""

namespace SetAbilityDisablePlugin

open ArrayStringSerializer

/-- The bundle manager: its proxy, the code of `QueryAbilityInfos`, and whether it carries out
`SetCloneAbilityEnabled`, whose code is only logged. -/
structure BundleMgr where
  proxy : Bool
  queryAbilityInfos : Bool
  setCloneAbilityEnabled : Bool

/-- An ability: its bundle and its name. -/
abbrev Ability := String × String

/-- The code, with the abilities that are disabled. -/
def setAbilityDisabled (answer : BundleMgr) (disabled : Finset Ability) (ability : Ability)
    (isDisabled : Bool) : ErrCode × Finset Ability :=
  if !answer.proxy then (EdmReturnErrCode.SYSTEM_ABNORMALLY, disabled)
  else if !answer.queryAbilityInfos then
    (EdmReturnErrCode.PARAMETER_VERIFICATION_FAILED, disabled)
  else if !answer.setCloneAbilityEnabled then (ERR_OK, disabled)
  else if isDisabled then (ERR_OK, insert ability disabled)
  else (ERR_OK, disabled.erase ability)

/-- The item of a policy that stands for an ability. -/
def policyItem (ability : Ability) : String := ability.1 ++ "/" ++ ability.2

/-- What `OnAdminRemove` makes of an item: the texts before and after the first separator. -/
def abilityOfItem (policy : String) : Option Ability :=
  if '/' ∈ policy.toList then
    some (String.ofList (policy.toList.takeWhile (· ≠ '/')),
      String.ofList ((policy.toList.dropWhile (· ≠ '/')).drop 1))
  else none

/-- `SetUnionPolicyData` sorts both lists that it is given. -/
def setPolicy (answer : BundleMgr) (disabled : Finset Ability) (ability : Ability)
    (currentPolicy mergePolicy : List String) :
    ErrCode × Finset Ability × List String × List String :=
  let data := policyItem ability
  if data ∈ currentPolicy then
    (ERR_OK, disabled, sort currentPolicy, setUnionPolicyData currentPolicy mergePolicy)
  else
    let (ret, disabled) :=
      if data ∈ mergePolicy then (ERR_OK, disabled)
      else setAbilityDisabled answer disabled ability true
    if failed ret then
      (EdmReturnErrCode.PARAMETER_VERIFICATION_FAILED, disabled, currentPolicy, mergePolicy)
    else
      let currentPolicy := currentPolicy ++ [data]
      (ERR_OK, disabled, sort currentPolicy, setUnionPolicyData currentPolicy mergePolicy)

def removePolicy (answer : BundleMgr) (disabled : Finset Ability) (ability : Ability)
    (currentPolicy mergePolicy : List String) :
    ErrCode × Finset Ability × List String × List String :=
  let data := policyItem ability
  if data ∉ currentPolicy then
    (ERR_OK, disabled, sort currentPolicy, setUnionPolicyData currentPolicy mergePolicy)
  else
    let (ret, disabled) :=
      if data ∈ mergePolicy then (ERR_OK, disabled)
      else setAbilityDisabled answer disabled ability false
    if failed ret then
      (EdmReturnErrCode.PARAMETER_VERIFICATION_FAILED, disabled, currentPolicy, mergePolicy)
    else
      let currentPolicy := currentPolicy.filter (· ≠ data)
      (ERR_OK, disabled, sort currentPolicy, setUnionPolicyData currentPolicy mergePolicy)

/-- A request, with the answers of the bundle manager. -/
structure Request where
  operateType : FuncOperateType
  ability : Ability
  isDisable : Bool
  answer : BundleMgr

variable (C : CJson)

/-- A text that does not deserialize leaves an empty list. -/
def onHandlePolicy (disabled : Finset Ability) (request : Request)
    (policyData : HandlePolicyData) : ErrCode × Finset Ability × HandlePolicyData :=
  if request.operateType != .set then (EdmReturnErrCode.SYSTEM_ABNORMALLY, disabled, policyData)
  else
    let currentPolicy := (deserialize C policyData.policyData).getD []
    let mergePolicy := (deserialize C policyData.mergePolicyData).getD []
    let handler := if request.isDisable then setPolicy else removePolicy
    let (ret, disabled, currentPolicy, mergePolicy) :=
      handler request.answer disabled request.ability currentPolicy mergePolicy
    if failed ret then (ret, disabled, policyData)
    else
      (ERR_OK, disabled,
        { policyData := serialize C currentPolicy
          mergePolicyData := serialize C mergePolicy
          isChanged := true })

/-- `answers` tells what the bundle manager answers about each item. -/
def onAdminRemove (disabled : Finset Ability) (answers : String → BundleMgr)
    (currentData mergeData : String) : ErrCode × Finset Ability :=
  let currentPolicy := (deserialize C currentData).getD []
  let mergePolicy := (deserialize C mergeData).getD []
  let needRemovePolicy := setDifferencePolicyData mergePolicy currentPolicy
  (ERR_OK, needRemovePolicy.foldl
    (fun disabled policy =>
      match abilityOfItem policy with
      | none => disabled
      | some ability => (setAbilityDisabled (answers policy) disabled ability false).2)
    disabled)

def plugin : Plugin (Finset Ability) Request (String → BundleMgr) Unit where
  policyName := "set_ability_enabled"
  needSave := true
  getOthersMergePolicyData := IPlugin.getOthersMergePolicyData
  onHandlePolicy _ disabled request policyData := onHandlePolicy C disabled request policyData
  onAdminRemove disabled answers currentData mergeData :=
    onAdminRemove C disabled answers currentData mergeData
  onPluginEvent policyData _ := policyData

/-! ### What the handler saves -/

variable {C}

theorem policyName_ne : (plugin C).policyName ≠ "" := by
  show "set_ability_enabled" ≠ ""
  decide

section Handlers

variable {answer : BundleMgr} {disabled : Finset Ability} {ability : Ability}
  {currentPolicy mergePolicy : List String}

/-- What both handlers end with. -/
theorem mem_union_of_ok {r : ErrCode × Finset Ability} {code : ErrCode} (hcode : failed code = true)
    {currentPolicy currentPolicy' mergePolicy : List String} (x : String)
    (h : failed (if failed r.1 then (code, r.2, currentPolicy, mergePolicy)
      else (ERR_OK, r.2, sort currentPolicy', setUnionPolicyData currentPolicy' mergePolicy)).1 =
        false) :
    x ∈ (if failed r.1 then (code, r.2, currentPolicy, mergePolicy)
      else (ERR_OK, r.2, sort currentPolicy',
        setUnionPolicyData currentPolicy' mergePolicy)).2.2.2 ↔
      x ∈ (if failed r.1 then (code, r.2, currentPolicy, mergePolicy)
        else (ERR_OK, r.2, sort currentPolicy',
          setUnionPolicyData currentPolicy' mergePolicy)).2.2.1 ∨ x ∈ mergePolicy := by
  by_cases hr : failed r.1 = true
  · rw [if_pos hr, hcode] at h
    contradiction
  · rw [if_neg hr]
    simp

theorem mem_setPolicy
    (h : failed (setPolicy answer disabled ability currentPolicy mergePolicy).1 = false)
    (x : String) :
    x ∈ (setPolicy answer disabled ability currentPolicy mergePolicy).2.2.2 ↔
      x ∈ (setPolicy answer disabled ability currentPolicy mergePolicy).2.2.1 ∨
        x ∈ mergePolicy := by
  unfold setPolicy at h ⊢
  dsimp only at h ⊢
  by_cases hdata : policyItem ability ∈ currentPolicy
  · rw [if_pos hdata]
    simp
  · rw [if_neg hdata] at h ⊢
    exact mem_union_of_ok rfl x h

theorem mem_removePolicy
    (h : failed (removePolicy answer disabled ability currentPolicy mergePolicy).1 = false)
    (x : String) :
    x ∈ (removePolicy answer disabled ability currentPolicy mergePolicy).2.2.2 ↔
      x ∈ (removePolicy answer disabled ability currentPolicy mergePolicy).2.2.1 ∨
        x ∈ mergePolicy := by
  unfold removePolicy at h ⊢
  dsimp only at h ⊢
  by_cases hdata : policyItem ability ∉ currentPolicy
  · rw [if_pos hdata]
    simp
  · rw [if_neg hdata] at h ⊢
    exact mem_union_of_ok rfl x h

theorem mem_handler {isDisable : Bool}
    (h : failed ((if isDisable then setPolicy else removePolicy) answer disabled ability
      currentPolicy mergePolicy).1 = false) (x : String) :
    x ∈ ((if isDisable then setPolicy else removePolicy) answer disabled ability currentPolicy
        mergePolicy).2.2.2 ↔
      x ∈ ((if isDisable then setPolicy else removePolicy) answer disabled ability currentPolicy
        mergePolicy).2.2.1 ∨ x ∈ mergePolicy := by
  cases isDisable with
  | true => exact mem_setPolicy h x
  | false => exact mem_removePolicy h x

end Handlers

/-- The combined list that the handler saves has what it started from and the admin's own list. -/
theorem onHandlePolicy_combined {disabled : Finset Ability} {request : Request}
    {policyData : HandlePolicyData}
    (h : failed (onHandlePolicy C disabled request policyData).1 = false) (x : String) :
    x ∈ (deserialize C (onHandlePolicy C disabled request policyData).2.2.mergePolicyData).getD [] ↔
      x ∈ (deserialize C (onHandlePolicy C disabled request policyData).2.2.policyData).getD [] ∨
        x ∈ (deserialize C policyData.mergePolicyData).getD [] := by
  have hunion := @mem_handler request.answer disabled request.ability
    ((deserialize C policyData.policyData).getD [])
    ((deserialize C policyData.mergePolicyData).getD []) request.isDisable
  unfold onHandlePolicy at h ⊢
  by_cases htype : (request.operateType != .set) = true
  · rw [if_pos htype] at h
    contradiction
  · rw [if_neg htype] at h ⊢
    dsimp only at h ⊢
    generalize (if request.isDisable = true then setPolicy else removePolicy) request.answer disabled
      request.ability ((deserialize C policyData.policyData).getD [])
      ((deserialize C policyData.mergePolicyData).getD []) = r at h hunion ⊢
    by_cases hfailed : failed r.1 = true
    · rw [if_pos hfailed, hfailed] at h
      contradiction
    · rw [if_neg hfailed]
      dsimp only
      rw [deserialize_serialize, deserialize_serialize]
      exact hunion (Bool.not_eq_true _ ▸ hfailed) x

end SetAbilityDisablePlugin

end Edm
