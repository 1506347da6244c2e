import Edm.Library.Run
import Edm.Plugin.IntSerializer
import Edm.Plugin.ItemPolicy

/-! Plugins whose handler is a `Function`: it gets the data of the request only, and the value that
it leaves is both the admin's and the combined one.  The store is written if the admin's value
changes, whatever the combined value is. -/

set_option autoImplicit false

namespace Edm

open Library

namespace IPluginTemplate

variable {DT Modules : Type} (serializer : PolicySerializer DT)

/-- The listener that `SetOnHandlePolicyListener` wraps around a `Function`. -/
def handleFunction (function : Modules → DT → ErrCode × Modules × DT) (modules : Modules)
    (handleData : Option DT) (policyData : HandlePolicyData) :
    ErrCode × Modules × HandlePolicyData :=
  match handleData with
  | none => (ERR_EDM_OPERATE_PARCEL, modules, policyData)
  | some handleData =>
    let (result, modules, handleData) := function modules handleData
    if result != ERR_OK then (result, modules, policyData)
    else
      match serializer.serialize handleData with
      | none => (ERR_EDM_OPERATE_JSON, modules, policyData)
      | some afterHandle =>
        (ERR_OK, modules,
          { policyData := afterHandle, mergePolicyData := afterHandle
            isChanged := policyData.policyData != afterHandle })

end IPluginTemplate

/-- A plugin with a `Function` for `SET`.  When the function succeeds, what it leaves of its data is
in force. -/
structure FunctionPlugin (Modules DT : Type) where
  policyName : String
  policyName_ne : policyName ≠ ""
  needSave : Bool
  serializer : PolicySerializer DT
  order : HashOrder
  function : Modules → DT → ErrCode × Modules × DT
  inForce : Modules → DT
  enforces : ∀ modules data modules' after, function modules data = (ERR_OK, modules', after) →
    inForce modules' = after

namespace FunctionPlugin

variable {Modules DT : Type} (plugin : FunctionPlugin Modules DT)

def toPlugin : Plugin Modules (Option DT) Unit Unit where
  policyName := plugin.policyName
  needSave := plugin.needSave
  getOthersMergePolicyData :=
    IPluginTemplate.getOthersMergePolicyData plugin.serializer plugin.order plugin.policyName
  onHandlePolicy _ := IPluginTemplate.handleFunction plugin.serializer plugin.function
  onAdminRemove modules _ _ _ := (ERR_OK, modules)
  onPluginEvent handled _ := handled

/-- A `SET` by an admin. -/
structure SetOp (DT : Type) where
  admin : AdminName
  writes : Writes
  data : Option DT

variable (s : PluginState Modules) (op : SetOp DT)

def update : ErrCode × PluginState Modules :=
  PluginManager.updateDevicePolicy plugin.toPlugin s op.writes op.admin op.data

def step : PluginState Modules := (plugin.update s op).2

/-- The text of the value that a request sets, if it succeeds. -/
def setText : Option String :=
  match op.data with
  | none => none
  | some data =>
    let (result, _, after) := plugin.function s.modules data
    if result = ERR_OK then plugin.serializer.serialize after else none

/-- After a success the value just set is in force, the admin's and the combined one. -/
def LastSetWins : Prop :=
  (plugin.update s op).1 = ERR_OK →
    ∃ text, plugin.setText s op = some text ∧
      plugin.serializer.serialize (plugin.inForce (plugin.step s op).modules) = some text ∧
      (plugin.step s op).store.manager.policyValue op.admin plugin.policyName = text ∧
      (plugin.step s op).store.manager.policyValue "" plugin.policyName = text

/-- A new value is written.  A value that the admin has set before, or that is not saved, is the
combined one already. -/
def Written : Prop :=
  ∀ text, plugin.setText s op = some text →
    if plugin.needSave = true ∧ s.store.manager.policyValue op.admin plugin.policyName ≠ text then
      op.writes.admin = .done ∧
        (op.writes.combined = .done ∨ s.store.manager.policyValue "" plugin.policyName = text)
    else
      s.store.manager.policyValue op.admin plugin.policyName = text ∧
        s.store.manager.policyValue "" plugin.policyName = text

/-! ### One request -/

variable {plugin s op}

/-- What the handler makes of a request that sets a value. -/
theorem handleFunction_some {text : String} (h : plugin.setText s op = some text)
    (policyData : HandlePolicyData) :
    ∃ modules, plugin.serializer.serialize (plugin.inForce modules) = some text ∧
      IPluginTemplate.handleFunction plugin.serializer plugin.function s.modules op.data
        policyData = (ERR_OK, modules, ⟨text, text, policyData.policyData != text⟩) := by
  unfold setText at h
  unfold IPluginTemplate.handleFunction
  cases hdata : op.data with
  | none =>
    rw [hdata] at h
    cases h
  | some data =>
    rw [hdata] at h
    obtain ⟨⟨result, modules, after⟩, hcall⟩ : ∃ called, plugin.function s.modules data = called :=
      ⟨_, rfl⟩
    simp only [hcall] at h ⊢
    by_cases hresult : result = ERR_OK
    · subst hresult
      rw [if_pos rfl] at h
      refine ⟨modules, ?_, ?_⟩
      · rw [plugin.enforces s.modules data modules after hcall, h]
      · rw [h]
        rfl
    · rw [if_neg hresult] at h
      cases h

/-- A request that sets no value fails. -/
theorem handleFunction_none (h : plugin.setText s op = none) (policyData : HandlePolicyData) :
    failed (IPluginTemplate.handleFunction plugin.serializer plugin.function s.modules op.data
      policyData).1 = true := by
  unfold setText at h
  unfold IPluginTemplate.handleFunction
  cases hdata : op.data with
  | none => rfl
  | some data =>
    rw [hdata] at h
    obtain ⟨⟨result, modules, after⟩, hcall⟩ : ∃ called, plugin.function s.modules data = called :=
      ⟨_, rfl⟩
    simp only [hcall] at h ⊢
    by_cases hresult : result = ERR_OK
    · subst hresult
      rw [if_pos rfl] at h
      rw [h]
      rfl
    · have hfailed : (result != ERR_OK) = true := bne_iff_ne.mpr hresult
      rw [if_pos hfailed]
      exact hfailed

theorem update_none (h : plugin.setText s op = none) : (plugin.update s op).1 ≠ ERR_OK := by
  have hfailed := handleFunction_none h
    (PluginManager.handlePolicyData plugin.toPlugin s op.admin)
  obtain ⟨⟨ret, modules, handled⟩, hcall⟩ : ∃ called, plugin.toPlugin.onHandlePolicy
      s.store.manager s.modules op.data
        (PluginManager.handlePolicyData plugin.toPlugin s op.admin) = called := ⟨_, rfl⟩
  have hret : failed ret = true := (congrArg (fun called => failed called.1) hcall).symm.trans
    hfailed
  intro hok
  rw [update, PluginManager.updateDevicePolicy_failed hcall hret] at hok
  obtain rfl : ret = ERR_OK := hok
  cases hret

/-- A value is written if the plugin saves it and the admin's own value differs. -/
theorem update_some {text : String} (h : plugin.setText s op = some text) :
    ∃ modules, plugin.serializer.serialize (plugin.inForce modules) = some text ∧
      (plugin.update s op).1 = ERR_OK ∧ (plugin.step s op).modules = modules ∧
      (plugin.step s op).store =
        if plugin.needSave = true ∧
            s.store.manager.policyValue op.admin plugin.policyName ≠ text then
          (s.store.setPolicy op.writes op.admin plugin.policyName text text).2
        else s.store := by
  obtain ⟨modules, htext, hcall⟩ := handleFunction_some h
    (PluginManager.handlePolicyData plugin.toPlugin s op.admin)
  refine ⟨modules, htext, ?_⟩
  unfold step update
  by_cases hchanged : plugin.needSave = true ∧
      s.store.manager.policyValue op.admin plugin.policyName ≠ text
  · have hwritten : (plugin.toPlugin.needSave &&
        (s.store.manager.policyValue op.admin plugin.policyName != text)) = true :=
      Bool.and_eq_true_iff.mpr ⟨hchanged.1, bne_iff_ne.mpr hchanged.2⟩
    rw [if_pos hchanged, PluginManager.updateDevicePolicy_changed hcall hwritten]
    exact ⟨rfl, rfl, rfl⟩
  · have hkept : (plugin.toPlugin.needSave &&
        (s.store.manager.policyValue op.admin plugin.policyName != text)) = false :=
      Bool.eq_false_iff.mpr fun hwritten =>
        hchanged ((Bool.and_eq_true_iff.mp hwritten).imp_right bne_iff_ne.mp)
    rw [if_neg hchanged, PluginManager.updateDevicePolicy_unchanged hcall hkept]
    exact ⟨rfl, rfl, rfl⟩

theorem lastSetWins_iff : plugin.LastSetWins s op ↔ plugin.Written s op := by
  unfold Written
  cases htext : plugin.setText s op with
  | none => exact iff_of_true (fun hok => absurd hok (update_none htext)) nofun
  | some text =>
    obtain ⟨modules, hforce, hok, hmodules, hstore⟩ := update_some htext
    have hstored : plugin.LastSetWins s op ↔
        (plugin.step s op).store.manager.policyValue op.admin plugin.policyName = text ∧
          (plugin.step s op).store.manager.policyValue "" plugin.policyName = text := by
      constructor
      · intro h
        obtain ⟨text', htext', -, hvalues⟩ := h hok
        rw [htext] at htext'
        obtain rfl := Option.some.inj htext'
        exact hvalues
      · intro h _
        exact ⟨text, htext, by rw [hmodules, hforce], h⟩
    simp only [Option.some.injEq, forall_eq']
    rw [hstored, hstore]
    split
    · rename_i hnew
      have hadmin := op.admin.2
      rw [setPolicy_value_self _ _ _ _ hadmin plugin.policyName_ne,
        setPolicy_value_combined _ _ _ _ hadmin plugin.policyName_ne]
      refine and_congr ?_ ?_
      · split
        · rename_i hdone
          exact iff_of_true rfl hdone
        · rename_i hfailed
          exact iff_of_false hnew.2 hfailed
      · split
        · rename_i hdone
          exact iff_of_true rfl (.inl hdone)
        · rename_i hfailed
          exact (or_iff_right hfailed).symm
    · rfl

/-! ### Runs -/

/-- In a run the last set wins every time exactly if every request meets the condition. -/
theorem each_lastSetWins_iff (plugin : FunctionPlugin Modules DT) (s : PluginState Modules)
    (ops : List (SetOp DT)) :
    Each plugin.step plugin.LastSetWins s ops ↔ Each plugin.step plugin.Written s ops := by
  have hcondition : plugin.LastSetWins = plugin.Written :=
    funext fun s => funext fun op => propext lastSetWins_iff
  rw [hcondition]

/-- A switch that takes every number. -/
def switch : FunctionPlugin Int32 Int32 where
  policyName := "switch"
  policyName_ne := by decide
  needSave := true
  serializer := IntSerializer.serializer 0
  order := .evaluated
  function _ data := (ERR_OK, data, data)
  inForce data := data
  enforces _ _ _ _ h := (congrArg (fun result => result.2.1) h).symm.trans
    (congrArg (fun result => result.2.2) h)

/-- A value that another admin has set over is not written again. -/
theorem lastSet_loses :
    ¬∀ ops : List (SetOp Int32), (∀ op, op ∈ ops → op.writes = ⟨.done, .done⟩) →
      Each switch.step switch.LastSetWins (PluginState.boot 0 100) ops := by
  intro h
  have hwins := (h [⟨firstAdmin, ⟨.done, .done⟩, some 1⟩, ⟨secondAdmin, ⟨.done, .done⟩, some 2⟩,
    ⟨firstAdmin, ⟨.done, .done⟩, some 1⟩] (by decide)).2.2.1
  obtain ⟨text, htext, -, -, hcombined⟩ := hwins (by decide +kernel)
  rw [← hcombined] at htext
  revert htext
  decide +kernel

end FunctionPlugin

end Edm
