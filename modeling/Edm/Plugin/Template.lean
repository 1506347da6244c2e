import Edm.Plugin.Manager

/-! `IPluginTemplate`: a plugin made of a serializer and of handlers on deserialized data. -/

set_option autoImplicit false

namespace Edm

open Library Library.UnorderedMap

/-- `IPolicySerializer<DT>`.  `none` is the return value false. -/
structure PolicySerializer (DT : Type) where
  initial : DT
  serialize : DT → Option String
  deserialize : String → Option DT
  mergePolicy : List DT → Option DT

namespace IPluginTemplate

variable {DT Modules : Type} (serializer : PolicySerializer DT)

/-- Deserializes the nonempty values, or fails with the first that does not deserialize. -/
def deserializeValues (values : List String) : Option (List DT) :=
  (values.filter fun value => value != "").mapM serializer.deserialize

/-- The other admins' values, merged.  Every failure leaves the out parameter empty. -/
def getOthersMergePolicyData (order : HashOrder) (policyName : String) (m : UserPolicyManager)
    (adminName : String) : String :=
  let adminValues := (m.adminValues policyName).erase adminName
  if isEmpty adminValues then ""
  else
    let merged : Option String := do
      let data ← deserializeValues serializer ((order.entries adminValues).map Prod.snd)
      let result ← serializer.mergePolicy data
      serializer.serialize result
    merged.getD ""

/-- `if (!policy.empty() && !Deserialize(policy, data))`, on default-constructed data. -/
def deserializeNonempty (policy : String) : Option DT :=
  if policy = "" then some serializer.initial else serializer.deserialize policy

/-- The listener that `SetOnHandlePolicyListener` wraps around a `BiFunction`.  A request without
data is one that `GetPolicy` fails to read. -/
def handlePolicy (biFunction : Modules → DT → DT → DT → ErrCode × Modules × DT × DT)
    (modules : Modules) (handleData : Option DT) (policyData : HandlePolicyData) :
    ErrCode × Modules × HandlePolicyData :=
  match handleData with
  | none => (ERR_EDM_OPERATE_PARCEL, modules, policyData)
  | some handleData =>
    match deserializeNonempty serializer policyData.policyData with
    | none => (ERR_EDM_OPERATE_JSON, modules, policyData)
    | some currentData =>
      match deserializeNonempty serializer policyData.mergePolicyData with
      | none => (ERR_EDM_OPERATE_JSON, modules, policyData)
      | some mergeData =>
        let (result, modules, currentData, mergeData) :=
          biFunction modules handleData currentData mergeData
        if result != ERR_OK then (result, modules, policyData)
        else
          match serializer.serialize currentData, serializer.serialize mergeData with
          | some afterHandle, some afterMerge =>
            (ERR_OK, modules,
              { policyData := afterHandle, mergePolicyData := afterMerge
                isChanged := policyData.policyData != afterHandle })
          | _, _ => (ERR_EDM_OPERATE_JSON, modules, policyData)

/-- The listener that `SetOnAdminRemoveListener` wraps around a `BiAdminFunction`. -/
def adminRemove (biAdminFunction : Modules → DT → DT → ErrCode × Modules) (modules : Modules)
    (currentJsonData mergeJsonData : String) : ErrCode × Modules :=
  match serializer.deserialize currentJsonData, serializer.deserialize mergeJsonData with
  | some currentData, some mergeData => biAdminFunction modules currentData mergeData
  | _, _ => (ERR_EDM_OPERATE_JSON, modules)

section Handled

variable {serializer : PolicySerializer DT}
  {biFunction : Modules → DT → DT → DT → ErrCode × Modules × DT × DT} {modules modules' : Modules}
  {data current merge after merged : DT} {policyData : HandlePolicyData}
  (hcurrent : deserializeNonempty serializer policyData.policyData = some current)
  (hmerge : deserializeNonempty serializer policyData.mergePolicyData = some merge)
include hcurrent hmerge

theorem handlePolicy_failed {ret : ErrCode}
    (hcall : biFunction modules data current merge = (ret, modules', after, merged))
    (hret : ret ≠ ERR_OK) :
    handlePolicy serializer biFunction modules (some data) policyData =
      (ret, modules', policyData) := by
  unfold handlePolicy
  rw [hcurrent, hmerge]
  dsimp only
  rw [hcall]
  exact if_pos (bne_iff_ne.mpr hret)

theorem handlePolicy_ok {afterText mergedText : String}
    (hcall : biFunction modules data current merge = (ERR_OK, modules', after, merged))
    (hafter : serializer.serialize after = some afterText)
    (hmerged : serializer.serialize merged = some mergedText) :
    handlePolicy serializer biFunction modules (some data) policyData =
      (ERR_OK, modules', ⟨afterText, mergedText, policyData.policyData != afterText⟩) := by
  unfold handlePolicy
  rw [hcurrent, hmerge]
  dsimp only
  rw [hcall]
  dsimp only
  rw [hafter, hmerged]
  rfl

end Handled

theorem adminRemove_read {serializer : PolicySerializer DT}
    {biAdminFunction : Modules → DT → DT → ErrCode × Modules} {modules : Modules}
    {currentJsonData mergeJsonData : String} {current merge : DT}
    (hcurrent : serializer.deserialize currentJsonData = some current)
    (hmerge : serializer.deserialize mergeJsonData = some merge) :
    adminRemove serializer biAdminFunction modules currentJsonData mergeJsonData =
      biAdminFunction modules current merge := by
  unfold adminRemove
  rw [hcurrent, hmerge]

end IPluginTemplate

end Edm
