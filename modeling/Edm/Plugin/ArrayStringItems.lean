import Edm.Plugin.ArrayStringSerializer
import Edm.Plugin.ItemPolicy

/-! Policies whose values are texts of lists of strings. -/

set_option autoImplicit false

namespace Edm

open Library

namespace ArrayStringSerializer

variable (C : CJson)

/-- The items of the list that a text stands for. -/
def itemsOf (policy : String) : Set String := {x | x ∈ (deserialize C policy).getD []}

/-- A text of a list without repetitions. -/
def IsText (policy : String) : Prop := ∃ data : List String, data.Nodup ∧ policy = serialize C data

variable {C}

theorem itemsOf_serialize (data : List String) : itemsOf C (serialize C data) = {x | x ∈ data} := by
  rw [itemsOf, deserialize_serialize]
  rfl

theorem itemsOf_empty : itemsOf C "" = ∅ := by
  have h := itemsOf_serialize (C := C) []
  rw [serialize_nil] at h
  rw [h]
  exact Set.eq_empty_iff_forall_notMem.mpr fun x => List.not_mem_nil

theorem isText_empty : IsText C "" := ⟨[], List.nodup_nil, serialize_nil.symm⟩

/-- `GetOthersMergePolicyData` is the text of a list of what the other admins hold. -/
theorem getOthersMergePolicyData_text {p : String} {s : UserStore} (h : TextStore (IsText C) p s)
    (order : HashOrder) (admin : AdminName) :
    ∃ others : List String, others.Nodup ∧
      (∀ x, x ∈ others ↔ x ∈ heldByOthers (itemsHeld (itemsOf C) p s) admin) ∧
      IPluginTemplate.getOthersMergePolicyData (serializer C) order p s.manager admin =
        serialize C others := by
  have hread : ∀ v, v ∈ othersValues order s.manager p admin →
      (serializer C).deserialize v = some ((deserialize C v).getD []) := by
    intro v hv
    obtain ⟨-, other, -, rfl⟩ := (h.good.mem_othersValues order admin).mp hv
    obtain ⟨data, -, htext⟩ := h.text other
    show deserialize C _ = _
    rw [htext, deserialize_serialize]
    rfl
  have hothers := fun x : String =>
    h.good.mem_heldByOthers (p := p) (itemsOf_empty (C := C)) order admin (x := x)
  rw [getOthersMergePolicyData_read (serializer C) h.good order admin hread]
  by_cases hnil : othersValues order s.manager p admin = []
  · refine ⟨[], List.nodup_nil, fun x => ?_, by rw [if_pos hnil, serialize_nil]⟩
    rw [hothers, hnil]
    simp
  · refine ⟨mergePolicy ((othersValues order s.manager p admin).map fun v =>
      (deserialize C v).getD []), nodup_stdSet _, fun x => ?_, by rw [if_neg hnil]; rfl⟩
    rw [hothers, mergePolicy, mem_stdSet, List.mem_flatten]
    constructor
    · rintro ⟨list, hlist, hx⟩
      obtain ⟨v, hv, rfl⟩ := List.mem_map.mp hlist
      exact ⟨v, hv, hx⟩
    · rintro ⟨v, hv, hx⟩
      exact ⟨_, List.mem_map_of_mem hv, hx⟩

/-- The handler on texts of lists. -/
theorem handlePolicy_text {Modules : Type}
    (biFunction : Modules → List String → List String → List String →
      ErrCode × Modules × List String × List String)
    (modules : Modules) (data current merge : List String) :
    IPluginTemplate.handlePolicy (serializer C) biFunction modules (some data)
        ⟨serialize C current, serialize C merge, false⟩ =
      if ((biFunction modules data current merge).1 != ERR_OK) = true then
        ((biFunction modules data current merge).1, (biFunction modules data current merge).2.1,
          ⟨serialize C current, serialize C merge, false⟩)
      else
        (ERR_OK, (biFunction modules data current merge).2.1,
          ⟨serialize C (biFunction modules data current merge).2.2.1,
            serialize C (biFunction modules data current merge).2.2.2,
            serialize C current != serialize C (biFunction modules data current merge).2.2.1⟩) := by
  unfold IPluginTemplate.handlePolicy
  simp only [deserializeNonempty_serialize]
  rfl

/-- What an update makes of the lists: it leaves the store when the handler fails or the admin's list
stays, and saves what the handler returns otherwise. -/
theorem policyStep_update_lists {Modules Req Reply Event : Type}
    (plugin : Plugin Modules Req Reply Event) {s : PluginState Modules} (admin : AdminName)
    (request : Req) {data : List String}
    {biFunction : Modules → List String → List String → List String →
      ErrCode × Modules × List String × List String} (order : HashOrder)
    (h : TextStore (IsText C) plugin.policyName s.store) (hname : plugin.policyName ≠ "")
    (hsave : plugin.needSave = true)
    (hmerge : plugin.getOthersMergePolicyData =
      IPluginTemplate.getOthersMergePolicyData (serializer C) order plugin.policyName)
    (hcall : ∀ m modules policyData, plugin.onHandlePolicy m modules request policyData =
      IPluginTemplate.handlePolicy (serializer C) biFunction modules (some data) policyData) :
    ∃ current others : List String, current.Nodup ∧ others.Nodup ∧
      (∀ x, x ∈ current ↔ x ∈ itemsHeld (itemsOf C) plugin.policyName s.store admin) ∧
      (∀ x, x ∈ others ↔
        x ∈ heldByOthers (itemsHeld (itemsOf C) plugin.policyName s.store) admin) ∧
      (policyStep plugin s (.update admin ⟨.done, .done⟩ request)).modules =
        (biFunction s.modules data current others).2.1 ∧
      (((biFunction s.modules data current others).1 ≠ ERR_OK ∨
            current = (biFunction s.modules data current others).2.2.1) ∧
          (policyStep plugin s (.update admin ⟨.done, .done⟩ request)).store = s.store ∨
        (biFunction s.modules data current others).1 = ERR_OK ∧
          current ≠ (biFunction s.modules data current others).2.2.1 ∧
          Saved s.store (policyStep plugin s (.update admin ⟨.done, .done⟩ request)).store admin
            plugin.policyName (serialize C (biFunction s.modules data current others).2.2.1)
            (serialize C (biFunction s.modules data current others).2.2.2)) := by
  obtain ⟨current, hcurrent, hvalue⟩ := h.text admin.1
  obtain ⟨others, hothers, hmem, htext⟩ := getOthersMergePolicyData_text h order admin
  refine ⟨current, others, hcurrent, hothers, fun x => ?_, hmem, ?_⟩
  · rw [itemsHeld, hvalue, itemsOf_serialize]
    exact Iff.rfl
  · have hdata : PluginManager.handlePolicyData plugin s admin =
        ⟨serialize C current, serialize C others, false⟩ := by
      rw [PluginManager.handlePolicyData, hvalue, hmerge, htext]
    have hhandled := hcall s.store.manager s.modules (PluginManager.handlePolicyData plugin s admin)
    rw [hdata, handlePolicy_text] at hhandled
    by_cases hret : ((biFunction s.modules data current others).1 != ERR_OK) = true
    · rw [if_pos hret] at hhandled
      rw [← hdata] at hhandled
      obtain ⟨hmodules, ⟨-, hstore⟩ | ⟨hok, -, -⟩⟩ := policyStep_update_cases plugin admin h.good hname hhandled
      · exact ⟨hmodules, .inl ⟨.inl (bne_iff_ne.mp hret), hstore⟩⟩
      · exact absurd hret (Bool.eq_false_iff.mp hok)
    · rw [if_neg hret] at hhandled
      have hok : (biFunction s.modules data current others).1 = ERR_OK :=
        bne_eq_false_iff_eq.mp (Bool.eq_false_iff.mpr hret)
      rw [← hdata] at hhandled
      obtain ⟨hmodules, ⟨hstay, hstore⟩ | ⟨-, hchanged, hsaved⟩⟩ :=
        policyStep_update_cases plugin admin h.good hname hhandled
      · refine ⟨hmodules, .inl ⟨.inr ?_, hstore⟩⟩
        rcases hstay with hfailed | hsame
        · exact absurd hfailed (by decide)
        · rw [hsave, Bool.true_and] at hsame
          exact serialize_injective (bne_eq_false_iff_eq.mp hsame)
      · refine ⟨hmodules, .inr ⟨hok, fun hsame => ?_, hsaved⟩⟩
        rw [hsave, Bool.true_and] at hchanged
        exact bne_iff_ne.mp hchanged (congrArg (serialize C) hsame)

end ArrayStringSerializer

end Edm
