import Edm.Plugin.ItemPolicy

/-! Plugins made of `IPluginTemplate` with a serializer that reads back what it writes.  The stored
texts then stand for data, and an operation is the handler on data. -/

set_option autoImplicit false

namespace Edm

open Library Library.UnorderedMap

/-- A serializer that always writes, `write`, and reads back what it wrote. -/
structure RoundTrip {DT : Type} (serializer : PolicySerializer DT)
    (write : DT → String) : Prop where
  serialize : ∀ data, serializer.serialize data = some (write data)
  deserialize : ∀ data, serializer.deserialize (write data) = some data
  write_initial : write serializer.initial = ""

/-- The texts that are written. -/
def Written {DT : Type} (write : DT → String) (policy : String) : Prop :=
  ∃ data, policy = write data

/-- The code that an operation returns. -/
def policyCode {Modules Req Reply Event : Type} (plugin : Plugin Modules Req Reply Event)
    (s : PluginState Modules) : PolicyOp Req Reply → ErrCode
  | .update admin writes request =>
    (PluginManager.updateDevicePolicy plugin s writes admin request).1
  | .removeAdmin admin writes reply =>
    match s.store.manager.getAdminPolicy admin plugin.policyName with
    | .error _ => ERR_OK
    | .ok policyValue => (PluginManager.removeAdminItem plugin s writes reply admin policyValue).1

section RoundTrips

variable {DT : Type} {serializer : PolicySerializer DT} {write : DT → String}
  (h : RoundTrip serializer write)
include h

theorem RoundTrip.injective : Function.Injective write := by
  intro data data' heq
  have hread := h.deserialize data
  rw [heq, h.deserialize] at hread
  exact (Option.some.inj hread).symm

theorem RoundTrip.deserializeNonempty (data : DT) :
    IPluginTemplate.deserializeNonempty serializer (write data) = some data := by
  rw [IPluginTemplate.deserializeNonempty]
  split
  · rename_i hempty
    exact congrArg some (h.injective (h.write_initial.trans hempty.symm))
  · exact h.deserialize data

theorem RoundTrip.written_empty : Written write "" := ⟨serializer.initial, h.write_initial.symm⟩

/-- What the others' values stand for. -/
theorem RoundTrip.getOthersMergePolicyData {p : String} {s : UserStore}
    (hstore : TextStore (Written write) p s) (order : HashOrder) (admin : AdminName)
    {merge : List DT → DT} (hmerge : ∀ lists, serializer.mergePolicy lists = some (merge lists))
    (hnil : merge [] = serializer.initial) (data : String → DT)
    (hdata : ∀ d, data (write d) = d) :
    IPluginTemplate.getOthersMergePolicyData serializer order p s.manager admin =
      write (merge ((othersValues order s.manager p admin).map data)) := by
  have hread : ∀ v, v ∈ othersValues order s.manager p admin →
      serializer.deserialize v = some (data v) := by
    intro v hv
    obtain ⟨-, other, -, rfl⟩ := (hstore.good.mem_othersValues order admin).mp hv
    obtain ⟨d, hd⟩ := hstore.text other
    rw [hd, h.deserialize, hdata]
  rw [getOthersMergePolicyData_read serializer hstore.good order admin hread]
  split
  · rename_i hnone
    rw [hnone, List.map_nil, hnil, h.write_initial]
  · rw [hmerge]
    show (serializer.serialize _).getD "" = _
    rw [h.serialize]
    rfl

end RoundTrips

section Update

variable {Modules Req Reply Event DT : Type} (plugin : Plugin Modules Req Reply Event)
  {s : PluginState Modules} (admin : AdminName)

/-- An update that leaves the values. -/
theorem update_unchanged (hgood : GoodStore s.store) (hname : plugin.policyName ≠ "")
    {request : Req} {ret : ErrCode} {modules : Modules}
    (hcall : plugin.onHandlePolicy s.store.manager s.modules request
      (PluginManager.handlePolicyData plugin s admin) =
        (ret, modules, PluginManager.handlePolicyData plugin s admin)) :
    (policyStep plugin s (.update admin ⟨.done, .done⟩ request)).modules = modules ∧
      (policyStep plugin s (.update admin ⟨.done, .done⟩ request)).store = s.store := by
  obtain ⟨hmodules, ⟨-, hstore⟩ | ⟨-, hchanged, -⟩⟩ :=
    policyStep_update_cases plugin admin hgood hname hcall
  · exact ⟨hmodules, hstore⟩
  · rw [PluginManager.handlePolicyData, Bool.and_false] at hchanged
    cases hchanged

/-- An update that saves. -/
theorem update_saved (hgood : GoodStore s.store) (hname : plugin.policyName ≠ "")
    (hsave : plugin.needSave = true) (request : Req) {modules : Modules} {after merged : String}
    (hcall : plugin.onHandlePolicy s.store.manager s.modules request
      (PluginManager.handlePolicyData plugin s admin) = (ERR_OK, modules, ⟨after, merged, true⟩)) :
    (policyStep plugin s (.update admin ⟨.done, .done⟩ request)).modules = modules ∧
      Saved s.store (policyStep plugin s (.update admin ⟨.done, .done⟩ request)).store admin
        plugin.policyName after merged ∧
      (policyStep plugin s (.update admin ⟨.done, .done⟩ request)).subscribed =
        (merged != "") := by
  have hstep : policyStep plugin s (.update admin ⟨.done, .done⟩ request) = _ :=
    congrArg Prod.snd (PluginManager.updateDevicePolicy_changed hcall
      (Bool.and_eq_true_iff.mpr ⟨hsave, rfl⟩))
  rw [hstep]
  exact ⟨rfl, saved_setPolicy hgood.inverse admin.2 hname _ _, rfl⟩

/-- An update of a plugin that does not save. -/
theorem update_notSaved (hsave : plugin.needSave = false) (writes : Writes) {request : Req}
    {ret : ErrCode} {modules : Modules} {handled : HandlePolicyData}
    (hcall : plugin.onHandlePolicy s.store.manager s.modules request
      (PluginManager.handlePolicyData plugin s admin) = (ret, modules, handled)) :
    (policyStep plugin s (.update admin writes request)).modules = modules ∧
      (policyStep plugin s (.update admin writes request)).store = s.store := by
  show (PluginManager.updateDevicePolicy plugin s writes admin request).2.modules = modules ∧
    (PluginManager.updateDevicePolicy plugin s writes admin request).2.store = s.store
  by_cases hret : failed ret = true
  · rw [PluginManager.updateDevicePolicy_failed hcall hret]
    exact ⟨rfl, rfl⟩
  · obtain rfl : ret = ERR_OK := bne_eq_false_iff_eq.mp (Bool.eq_false_iff.mpr hret)
    rw [PluginManager.updateDevicePolicy_unchanged hcall (by rw [hsave, Bool.false_and])]
    exact ⟨rfl, rfl⟩

/-- The code of an update is that of the handler. -/
theorem policyCode_update (writes : Writes) {request : Req} {ret : ErrCode} {modules : Modules}
    {handled : HandlePolicyData}
    (hcall : plugin.onHandlePolicy s.store.manager s.modules request
      (PluginManager.handlePolicyData plugin s admin) = (ret, modules, handled)) :
    policyCode plugin s (.update admin writes request) = ret := by
  show (PluginManager.updateDevicePolicy plugin s writes admin request).1 = ret
  unfold PluginManager.updateDevicePolicy
  rw [hcall]
  dsimp only
  by_cases hret : failed ret = true
  · rw [if_pos hret]
  · rw [if_neg hret]
    have hok : ret = ERR_OK := bne_eq_false_iff_eq.mp (Bool.eq_false_iff.mpr hret)
    rw [hok]
    split <;> rfl

/-- What the store has after an admin's value became `after` and the combined one `merged`, unless
the admin's value was that already. -/
def Stored (store store' : UserStore) (admin : AdminName) (p after merged : String) : Prop :=
  store.manager.policyValue admin p = after ∧ store' = store ∨
    store.manager.policyValue admin p ≠ after ∧ Saved store store' admin p after merged

/-- A handler on data that fails leaves the store. -/
theorem template_failed {serializer : PolicySerializer DT} (hgood : GoodStore s.store)
    (hname : plugin.policyName ≠ "") (request : Req) {data current others after merged : DT}
    {ret : ErrCode} {modules : Modules}
    {biFunction : Modules → DT → DT → DT → ErrCode × Modules × DT × DT}
    (hcurrent : IPluginTemplate.deserializeNonempty serializer
      (s.store.manager.policyValue admin plugin.policyName) = some current)
    (hothers : IPluginTemplate.deserializeNonempty serializer
      (plugin.getOthersMergePolicyData s.store.manager admin) = some others)
    (hcall : ∀ policyData, plugin.onHandlePolicy s.store.manager s.modules request policyData =
      IPluginTemplate.handlePolicy serializer biFunction s.modules (some data) policyData)
    (hresult : biFunction s.modules data current others = (ret, modules, after, merged))
    (hret : ret ≠ ERR_OK) :
    policyCode plugin s (.update admin ⟨.done, .done⟩ request) = ret ∧
      (policyStep plugin s (.update admin ⟨.done, .done⟩ request)).modules = modules ∧
      (policyStep plugin s (.update admin ⟨.done, .done⟩ request)).store = s.store := by
  have hhandled := hcall (PluginManager.handlePolicyData plugin s admin)
  rw [IPluginTemplate.handlePolicy_failed hcurrent hothers hresult hret] at hhandled
  exact ⟨policyCode_update plugin admin _ hhandled,
    update_unchanged plugin admin hgood hname hhandled⟩

/-- A handler on data that succeeds. -/
theorem template_ok {serializer : PolicySerializer DT} (hgood : GoodStore s.store)
    (hname : plugin.policyName ≠ "") (hsave : plugin.needSave = true) (request : Req)
    {data current others after merged : DT} {modules : Modules}
    {biFunction : Modules → DT → DT → DT → ErrCode × Modules × DT × DT}
    (hcurrent : IPluginTemplate.deserializeNonempty serializer
      (s.store.manager.policyValue admin plugin.policyName) = some current)
    (hothers : IPluginTemplate.deserializeNonempty serializer
      (plugin.getOthersMergePolicyData s.store.manager admin) = some others)
    (hcall : ∀ policyData, plugin.onHandlePolicy s.store.manager s.modules request policyData =
      IPluginTemplate.handlePolicy serializer biFunction s.modules (some data) policyData)
    (hresult : biFunction s.modules data current others = (ERR_OK, modules, after, merged))
    {afterText mergedText : String} (hafter : serializer.serialize after = some afterText)
    (hmerged : serializer.serialize merged = some mergedText) :
    policyCode plugin s (.update admin ⟨.done, .done⟩ request) = ERR_OK ∧
      (policyStep plugin s (.update admin ⟨.done, .done⟩ request)).modules = modules ∧
      Stored s.store (policyStep plugin s (.update admin ⟨.done, .done⟩ request)).store admin
        plugin.policyName afterText mergedText := by
  have hhandled := hcall (PluginManager.handlePolicyData plugin s admin)
  rw [IPluginTemplate.handlePolicy_ok hcurrent hothers hresult hafter hmerged] at hhandled
  exact ⟨policyCode_update plugin admin _ hhandled,
    policyStep_update_ok plugin admin hgood hname hsave hhandled bne_iff_ne⟩

section RoundTrips

variable {serializer : PolicySerializer DT} {write : DT → String} (h : RoundTrip serializer write)
  (hgood : GoodStore s.store) (hname : plugin.policyName ≠ "") (request : Req)
  {data current others after merged : DT} {modules : Modules}
  {biFunction : Modules → DT → DT → DT → ErrCode × Modules × DT × DT}
  (hvalue : s.store.manager.policyValue admin plugin.policyName = write current)
  (hothers : plugin.getOthersMergePolicyData s.store.manager admin = write others)
  (hcall : ∀ policyData, plugin.onHandlePolicy s.store.manager s.modules request policyData =
    IPluginTemplate.handlePolicy serializer biFunction s.modules (some data) policyData)
include h hgood hname hvalue hothers hcall

theorem update_failed {ret : ErrCode}
    (hresult : biFunction s.modules data current others = (ret, modules, after, merged))
    (hret : ret ≠ ERR_OK) :
    policyCode plugin s (.update admin ⟨.done, .done⟩ request) = ret ∧
      (policyStep plugin s (.update admin ⟨.done, .done⟩ request)).modules = modules ∧
      (policyStep plugin s (.update admin ⟨.done, .done⟩ request)).store = s.store :=
  template_failed plugin admin hgood hname request (hvalue ▸ h.deserializeNonempty current)
    (hothers ▸ h.deserializeNonempty others) hcall hresult hret

theorem update_ok (hsave : plugin.needSave = true)
    (hresult : biFunction s.modules data current others = (ERR_OK, modules, after, merged)) :
    policyCode plugin s (.update admin ⟨.done, .done⟩ request) = ERR_OK ∧
      (policyStep plugin s (.update admin ⟨.done, .done⟩ request)).modules = modules ∧
      Stored s.store (policyStep plugin s (.update admin ⟨.done, .done⟩ request)).store admin
        plugin.policyName (write after) (write merged) :=
  template_ok plugin admin hgood hname hsave request (hvalue ▸ h.deserializeNonempty current)
    (hothers ▸ h.deserializeNonempty others) hcall hresult (h.serialize after) (h.serialize merged)

end RoundTrips

/-- The removal of an admin whose value stands for `current`. -/
theorem template_removeAdmin {serializer : PolicySerializer DT} (hgood : GoodStore s.store)
    (hname : plugin.policyName ≠ "") (hsave : plugin.needSave = true) (reply : Reply)
    {current others : DT} {biAdminFunction : Modules → DT → DT → ErrCode × Modules}
    (hcurrent : serializer.deserialize
      (s.store.manager.policyValue admin plugin.policyName) = some current)
    (hothers : serializer.deserialize
      (plugin.getOthersMergePolicyData s.store.manager admin) = some others)
    (hcall : ∀ currentJsonData mergeJsonData,
      plugin.onAdminRemove s.modules reply currentJsonData mergeJsonData =
        IPluginTemplate.adminRemove serializer biAdminFunction s.modules currentJsonData
          mergeJsonData) :
    s.store.manager.policyValue admin plugin.policyName = "" ∧
        policyStep plugin s (.removeAdmin admin ⟨.done, .done⟩ reply) = s ∨
      s.store.manager.policyValue admin plugin.policyName ≠ "" ∧
        (policyStep plugin s (.removeAdmin admin ⟨.done, .done⟩ reply)).modules =
          (biAdminFunction s.modules current others).2 ∧
        Saved s.store (policyStep plugin s (.removeAdmin admin ⟨.done, .done⟩ reply)).store admin
          plugin.policyName "" (plugin.getOthersMergePolicyData s.store.manager admin) := by
  rcases policyStep_removeAdmin_cases plugin admin hgood hname hsave reply with
    hnone | ⟨hsome, hmodules, hsaved⟩
  · exact .inl hnone
  · rw [hcall, IPluginTemplate.adminRemove_read hcurrent hothers] at hmodules
    exact .inr ⟨hsome, hmodules, hsaved⟩

theorem removeAdmin_template {serializer : PolicySerializer DT} {write : DT → String}
    (h : RoundTrip serializer write) (hgood : GoodStore s.store) (hname : plugin.policyName ≠ "")
    (hsave : plugin.needSave = true) (reply : Reply) {current others : DT}
    {biAdminFunction : Modules → DT → DT → ErrCode × Modules}
    (hvalue : s.store.manager.policyValue admin plugin.policyName = write current)
    (hothers : plugin.getOthersMergePolicyData s.store.manager admin = write others)
    (hcall : ∀ currentJsonData mergeJsonData,
      plugin.onAdminRemove s.modules reply currentJsonData mergeJsonData =
        IPluginTemplate.adminRemove serializer biAdminFunction s.modules currentJsonData
          mergeJsonData) :
    write current = "" ∧ policyStep plugin s (.removeAdmin admin ⟨.done, .done⟩ reply) = s ∨
      write current ≠ "" ∧
        (policyStep plugin s (.removeAdmin admin ⟨.done, .done⟩ reply)).modules =
          (biAdminFunction s.modules current others).2 ∧
        Saved s.store (policyStep plugin s (.removeAdmin admin ⟨.done, .done⟩ reply)).store admin
          plugin.policyName "" (write others) := by
  have hremove := template_removeAdmin plugin admin hgood hname hsave reply
    (hvalue ▸ h.deserialize current) (hothers ▸ h.deserialize others) hcall
  rwa [hvalue, hothers] at hremove

end Update

section Texts

variable {IsText : String → Prop} {p after merged : String} {store store' : UserStore}
  {admin : AdminName}

theorem TextStore.stored (h : TextStore IsText p store)
    (hstored : Stored store store' admin p after merged) (hafter : IsText after)
    (hmerged : IsText merged) : TextStore IsText p store' := by
  rcases hstored with ⟨-, rfl⟩ | ⟨-, hsaved⟩
  · exact h
  · exact h.saved hsaved hafter hmerged

theorem Stored.combined (hstored : Stored store store' admin p after merged) :
    store.manager.policyValue admin p = after ∧
        store'.manager.policyValue "" p = store.manager.policyValue "" p ∨
      store.manager.policyValue admin p ≠ after ∧ store'.manager.policyValue "" p = merged := by
  rcases hstored with ⟨hvalue, rfl⟩ | ⟨hvalue, hsaved⟩
  · exact .inl ⟨hvalue, rfl⟩
  · exact .inr ⟨hvalue, hsaved.value_combined⟩

theorem Stored.value_self (hstored : Stored store store' admin p after merged) :
    store'.manager.policyValue admin p = after := by
  rcases hstored with ⟨hvalue, rfl⟩ | ⟨-, hsaved⟩
  · exact hvalue
  · exact hsaved.value_self admin.2

theorem Stored.value_other (hstored : Stored store store' admin p after merged) {other : AdminName}
    (hother : other ≠ admin) :
    store'.manager.policyValue other p = store.manager.policyValue other p := by
  rcases hstored with ⟨-, rfl⟩ | ⟨-, hsaved⟩
  · rfl
  · exact hsaved.value_other other.2 fun heq => hother (Subtype.ext heq.1)

end Texts

end Edm
