import Edm.Plugin.BasicArrayString
import Edm.Plugin.PolicyRun

/-! A policy of `BasicArrayStringPlugin` over runs: updates by any admins and removals of admins.
The combined list and the enforced items stay the union of the admins' lists until an admin is
removed and the modules do not drop an item that only this admin holds. -/

set_option autoImplicit false

namespace Edm

open Library Library.UnorderedMap

namespace BasicArrayStringPlugin

open ArrayStringSerializer

/-- An operation on the policy, with the answer of the modules. -/
abbrev Op := PolicyOp Request ModuleAnswer

section Run

variable (config : Config) (C : CJson) (order : HashOrder)

abbrev step : PluginState (Finset String) → Op → PluginState (Finset String) :=
  policyStep (plugin config C order)

/-- A user without policies, and nothing enforced. -/
abbrev boot (userId : Int) : PluginState (Finset String) := PluginState.boot ∅ userId

variable (s : PluginState (Finset String))

/-- The list that an admin's value stands for. -/
def adminList (admin : AdminName) : List String :=
  (deserialize C (s.store.manager.policyValue admin config.policyName)).getD []

/-- The list that the combined value stands for. -/
def combinedList : List String :=
  (deserialize C (s.store.manager.policyValue "" config.policyName)).getD []

/-- What the admins hold. -/
def claims (admin : AdminName) : Set String := {x | x ∈ adminList config C s admin}

/-- The values are texts of lists without repetitions; the combined list and the enforced items are
the union of the admins' lists, and the union is within bounds. -/
structure Invariant : Prop where
  admin_text : ∀ admin : AdminName, s.store.manager.policyValue admin config.policyName =
    serialize C (adminList config C s admin)
  admin_nodup : ∀ admin, (adminList config C s admin).Nodup
  combined_text : s.store.manager.policyValue "" config.policyName =
    serialize C (combinedList config C s)
  combined_nodup : (combinedList config C s).Nodup
  combined_mem : ∀ x, x ∈ combinedList config C s ↔ x ∈ held (claims config C s)
  enforced_mem : ∀ x, x ∈ s.modules ↔ x ∈ held (claims config C s)
  size : (combinedList config C s).length ≤ config.maxListSize

/-- Removing an admin, the modules drop every item that nobody else holds. -/
def DropsLast : Op → Prop
  | .update _ _ _ => True
  | .removeAdmin admin _ answer => ∀ x, x ∈ claims config C s admin →
      x ∉ heldByOthers (claims config C s) admin → answer.Handles x

end Run

section Lists

variable {config : Config} {C : CJson} {s s' : PluginState (Finset String)}

/-- A text of a list is read back as the list. -/
theorem adminList_of_text {admin : AdminName} {data : List String}
    (h : s.store.manager.policyValue admin config.policyName = serialize C data) :
    adminList config C s admin = data := by
  rw [adminList, h, deserialize_serialize]
  rfl

theorem combinedList_of_text {data : List String}
    (h : s.store.manager.policyValue "" config.policyName = serialize C data) :
    combinedList config C s = data := by
  rw [combinedList, h, deserialize_serialize]
  rfl

/-- `GetOthersMergePolicyData` is the text of a list of what the other admins hold. -/
theorem getOthersMergePolicyData_text (order : HashOrder) (hstore : GoodStore s.store)
    (h : Invariant config C s) (admin : AdminName) :
    ∃ others, others.Nodup ∧ (∀ x, x ∈ others ↔ x ∈ heldByOthers (claims config C s) admin) ∧
      IPluginTemplate.getOthersMergePolicyData (serializer C) order config.policyName
        s.store.manager admin = serialize C others := by
  have hlookup : ∀ x v, ((s.store.manager.adminValues config.policyName).erase admin.1).lookup x =
      some v ↔ ∃ hx : x ≠ "", (⟨x, hx⟩ : AdminName) ≠ admin ∧
        v = serialize C (adminList config C s ⟨x, hx⟩) ∧ v ≠ "" := by
    intro x v
    rw [hstore.lookup_others]
    exact exists_congr fun hx => by rw [← h.admin_text ⟨x, hx⟩]
  unfold IPluginTemplate.getOthersMergePolicyData
  dsimp only
  by_cases hempty : isEmpty ((s.store.manager.adminValues config.policyName).erase admin.1) = true
  · refine ⟨[], List.nodup_nil, fun x => ?_, by rw [if_pos hempty, serialize_nil]⟩
    simp only [List.not_mem_nil, false_iff]
    rintro ⟨other, hne, hx⟩
    have hnone := (eq_empty_iff _).mp (isEmpty_iff.mp hempty) other.1
    have hsome := (hlookup other.1 _).mpr
      ⟨other.2, hne, rfl, serialize_ne_empty (List.ne_nil_of_mem hx)⟩
    rw [hnone] at hsome
    contradiction
  · rw [if_neg hempty]
    obtain ⟨-, hmem⟩ := order.enumerates
      ((s.store.manager.adminValues config.policyName).erase admin.1)
    have hentry := fun x v => (hmem x v).trans (hlookup x v)
    generalize order.entries ((s.store.manager.adminValues config.policyName).erase admin.1) =
      entries at hentry ⊢
    have hread : ∀ v, v ∈ entries.map Prod.snd →
        deserialize C v = some ((deserialize C v).getD []) ∧ v ≠ "" := by
      intro v hv
      obtain ⟨⟨x, v⟩, hmem, rfl⟩ := List.mem_map.mp hv
      obtain ⟨hx, -, rfl, hne⟩ := (hentry x v).mp hmem
      exact ⟨by rw [deserialize_serialize]; rfl, hne⟩
    have hfilter : (entries.map Prod.snd).filter (fun value => value != "") =
        entries.map Prod.snd :=
      List.filter_eq_self.mpr fun v hv => bne_iff_ne.mpr (hread v hv).2
    have hlists : IPluginTemplate.deserializeValues (serializer C) (entries.map Prod.snd) =
        some ((entries.map Prod.snd).map fun v => (deserialize C v).getD []) := by
      rw [IPluginTemplate.deserializeValues, hfilter]
      exact mapM_some fun v hv => (hread v hv).1
    refine ⟨mergePolicy ((entries.map Prod.snd).map fun v => (deserialize C v).getD []),
      nodup_stdSet _, fun x => ?_, by rw [hlists]; rfl⟩
    simp only [mergePolicy, mem_stdSet, List.mem_flatten, List.mem_map, exists_exists_and_eq_and,
      mem_heldByOthers]
    constructor
    · rintro ⟨⟨y, v⟩, hmem, hx⟩
      obtain ⟨hy, hne, rfl, -⟩ := (hentry y v).mp hmem
      rw [deserialize_serialize] at hx
      exact ⟨⟨y, hy⟩, hne, hx⟩
    · rintro ⟨other, hne, hx⟩
      have hmem := (hentry other.1 _).mpr
        ⟨other.2, hne, rfl, serialize_ne_empty (List.ne_nil_of_mem hx)⟩
      refine ⟨_, hmem, ?_⟩
      rw [deserialize_serialize]
      exact hx

/-- After a save of an admin's list and of the merged list, the invariant is that the modules
enforce the merged list. -/
theorem invariant_saved (h : Invariant config C s) {admin : AdminName}
    {current merge : List String}
    (hsaved : Saved s.store s'.store admin config.policyName (serialize C current)
      (serialize C merge))
    (hcurrent : current.Nodup) (hmerge : merge.Nodup) (hsize : merge.length ≤ config.maxListSize)
    (hmem : ∀ x, x ∈ merge ↔ x ∈ heldByOthers (claims config C s) admin ∨ x ∈ current) :
    Invariant config C s' ↔ ∀ x, x ∈ s'.modules ↔ x ∈ merge := by
  have hself : adminList config C s' admin = current :=
    adminList_of_text (hsaved.value_self admin.2)
  have hother : ∀ other : AdminName, other ≠ admin →
      s'.store.manager.policyValue other config.policyName =
        s.store.manager.policyValue other config.policyName := fun other hne =>
    hsaved.value_other other.2 fun heq => hne (Subtype.ext heq.1)
  have hlist : ∀ other : AdminName, other ≠ admin →
      adminList config C s' other = adminList config C s other := fun other hne => by
    rw [adminList, adminList, hother other hne]
  have hcombined : combinedList config C s' = merge := combinedList_of_text hsaved.value_combined
  have hclaims : claims config C s' =
      Function.update (claims config C s) admin {x | x ∈ current} := by
    funext other
    by_cases hne : other = admin
    · subst hne
      rw [Function.update_self, claims, hself]
    · rw [Function.update_of_ne hne, claims, claims, hlist other hne]
  have hheld : ∀ x, x ∈ held (claims config C s') ↔ x ∈ merge := fun x => by
    rw [hclaims, held_update, hmem]
    rfl
  constructor
  · intro h' x
    rw [h'.enforced_mem, hheld]
  · intro henforced
    exact {
      admin_text := fun other => by
        by_cases hne : other = admin
        · subst hne
          rw [hself, hsaved.value_self other.2]
        · rw [hother other hne, hlist other hne, h.admin_text]
      admin_nodup := fun other => by
        by_cases hne : other = admin
        · subst hne
          rwa [hself]
        · rw [hlist other hne]
          exact h.admin_nodup other
      combined_text := by rw [hcombined, hsaved.value_combined]
      combined_nodup := by rwa [hcombined]
      combined_mem := fun x => by rw [hcombined, hheld]
      enforced_mem := fun x => by rw [henforced, hheld]
      size := by rwa [hcombined] }

/-- The invariant speaks of the values and of the modules only. -/
theorem Invariant.congr (h : Invariant config C s) (hstore : s'.store = s.store)
    (hmodules : s'.modules = s.modules) : Invariant config C s' := by
  obtain ⟨store, modules, subscribed⟩ := s
  obtain ⟨store', modules', subscribed'⟩ := s'
  obtain rfl : store' = store := hstore
  obtain rfl : modules' = modules := hmodules
  exact ⟨h.admin_text, h.admin_nodup, h.combined_text, h.combined_nodup, h.combined_mem,
    h.enforced_mem, h.size⟩

theorem invariant_boot (userId : Int) : Invariant config C (boot userId) := by
  have hvalue : ∀ a, (boot userId).store.manager.policyValue a config.policyName = "" :=
    fun a => policyValue_new userId a config.policyName
  have hadmin : ∀ admin, adminList config C (boot userId) admin = [] := fun admin =>
    adminList_of_text (hvalue admin.1)
  have hcombined : combinedList config C (boot userId) = [] := combinedList_of_text (hvalue "")
  have hheld : ∀ x, x ∉ held (claims config C (boot userId)) := by
    rintro x ⟨admin, hx⟩
    rw [claims, hadmin] at hx
    contradiction
  exact {
    admin_text := fun admin => by rw [hadmin, hvalue, serialize_nil]
    admin_nodup := fun admin => by rw [hadmin]; exact List.nodup_nil
    combined_text := by rw [hcombined, hvalue, serialize_nil]
    combined_nodup := by rw [hcombined]; exact List.nodup_nil
    combined_mem := fun x => by simpa [hcombined] using hheld x
    enforced_mem := fun x => by simpa [PluginState.boot] using hheld x
    size := by rw [hcombined]; exact Nat.zero_le _ }

/-! ### Updates -/

/-- The handler on texts of lists: it fails and leaves the modules as they were, has nothing to do,
or writes the texts of two lists that agree with the modules. -/
theorem handlePolicy_cases {biFunction : Finset String → List String → List String → List String →
      ErrCode × Finset String × List String × List String}
    {enforced : Finset String} {data : Option (List String)} {current others : List String}
    (houtcome : ∀ handleData, data = some handleData →
      Outcome config enforced current others (biFunction enforced handleData current others)) :
    (∃ err policyData, failed err = true ∧
      IPluginTemplate.handlePolicy (serializer C) biFunction enforced data
        ⟨serialize C current, serialize C others, false⟩ = (err, enforced, policyData)) ∨
    IPluginTemplate.handlePolicy (serializer C) biFunction enforced data
        ⟨serialize C current, serialize C others, false⟩ =
      (ERR_OK, enforced, ⟨serialize C current, serialize C others, false⟩) ∨
    ∃ enforced' current' merge', Handled config others enforced' current' merge' ∧
      IPluginTemplate.handlePolicy (serializer C) biFunction enforced data
          ⟨serialize C current, serialize C others, false⟩ =
        (ERR_OK, enforced', ⟨serialize C current', serialize C merge',
          serialize C current != serialize C current'⟩) := by
  unfold IPluginTemplate.handlePolicy
  cases data with
  | none => exact .inl ⟨ERR_EDM_OPERATE_PARCEL, _, by decide, rfl⟩
  | some handleData =>
    simp only [deserializeNonempty_serialize]
    have hcall := houtcome handleData rfl
    generalize biFunction enforced handleData current others = result at hcall
    cases hcall with
    | rejected err isError =>
      exact .inl ⟨err, ⟨serialize C current, serialize C others, false⟩, isError,
        if_pos isError⟩
    | empty =>
      refine .inr (.inl ?_)
      simp [ArrayStringSerializer.serializer]
    | handled enforced' current' merge' h => exact .inr (.inr ⟨enforced', current', merge', h, rfl⟩)

/-- What `UpdateDevicePolicy` does on values that are texts of lists. -/
theorem updateDevicePolicy_cases (order : HashOrder) (hstore : GoodStore s.store)
    (h : Invariant config C s) (admin : AdminName) (writes : Writes) (request : Request) :
    ∃ others, others.Nodup ∧ (∀ x, x ∈ others ↔ x ∈ heldByOthers (claims config C s) admin) ∧
      ((step config C order s (.update admin writes request)).store = s.store ∧
          (step config C order s (.update admin writes request)).modules = s.modules ∨
        ∃ current' merge', Handled config others
            (step config C order s (.update admin writes request)).modules current' merge' ∧
          (step config C order s (.update admin writes request)).store =
            if adminList config C s admin = current' then s.store
            else (s.store.setPolicy writes admin config.policyName (serialize C current')
              (serialize C merge')).2) := by
  obtain ⟨others, hnodup, hothers, htext⟩ := getOthersMergePolicyData_text order hstore h admin
  refine ⟨others, hnodup, hothers, ?_⟩
  have henforced : ∀ x, x ∈ s.modules ↔ x ∈ others ∨ x ∈ adminList config C s admin := fun x => by
    rw [h.enforced_mem, held_eq _ admin, Set.mem_union, hothers]
    rfl
  have hsize : (setUnionPolicyData others (adminList config C s admin)).length ≤
      config.maxListSize := by
    refine le_trans ((nodup_setUnionPolicyData hnodup (h.admin_nodup admin)).subperm
      fun x hx => ?_).length_le h.size
    rw [mem_setUnionPolicyData, ← henforced] at hx
    rwa [h.combined_mem, ← h.enforced_mem]
  have hdata : PluginManager.handlePolicyData (plugin config C order) s admin =
      ⟨serialize C (adminList config C s admin), serialize C others, false⟩ := by
    rw [← htext, ← h.admin_text]
    rfl
  have hcases : (∃ err policyData, failed err = true ∧
        (plugin config C order).onHandlePolicy s.store.manager s.modules request
          (PluginManager.handlePolicyData (plugin config C order) s admin) =
            (err, s.modules, policyData)) ∨
      (plugin config C order).onHandlePolicy s.store.manager s.modules request
          (PluginManager.handlePolicyData (plugin config C order) s admin) =
        (ERR_OK, s.modules,
          ⟨serialize C (adminList config C s admin), serialize C others, false⟩) ∨
      ∃ enforced' current' merge', Handled config others enforced' current' merge' ∧
        (plugin config C order).onHandlePolicy s.store.manager s.modules request
            (PluginManager.handlePolicyData (plugin config C order) s admin) =
          (ERR_OK, enforced', ⟨serialize C current', serialize C merge',
            serialize C (adminList config C s admin) != serialize C current'⟩) := by
    rw [hdata]
    cases request with
    | set data answer =>
      simp only [onHandlePolicy_set]
      refine handlePolicy_cases fun handleData hdata => ?_
      obtain ⟨list, -, rfl⟩ := Option.map_eq_some_iff.mp hdata
      exact onBasicSetPolicy_outcome (nodup_getPolicy list) (h.admin_nodup admin) hnodup henforced
    | remove data answer =>
      simp only [onHandlePolicy_remove]
      refine handlePolicy_cases fun handleData hdata => ?_
      obtain ⟨list, -, rfl⟩ := Option.map_eq_some_iff.mp hdata
      exact onBasicRemovePolicy_outcome (nodup_getPolicy list) (h.admin_nodup admin) hnodup
        henforced hsize
  simp only [step, policyStep]
  rcases hcases with ⟨err, policyData, herr, hcall⟩ | hcall | ⟨enforced', current', merge',
    hhandled, hcall⟩
  · rw [PluginManager.updateDevicePolicy_failed hcall herr]
    exact .inl ⟨rfl, rfl⟩
  · rw [PluginManager.updateDevicePolicy_unchanged hcall rfl]
    exact .inl ⟨rfl, rfl⟩
  · refine .inr ⟨current', merge', ?_⟩
    by_cases hsame : adminList config C s admin = current'
    · rw [PluginManager.updateDevicePolicy_unchanged hcall (by simp [hsame]), if_pos hsame]
      exact ⟨hhandled, rfl⟩
    · have hchanged : serialize C (adminList config C s admin) ≠ serialize C current' :=
        fun heq => hsame (serialize_injective heq)
      rw [PluginManager.updateDevicePolicy_changed hcall (by simpa [plugin] using hchanged),
        if_neg hsame]
      exact ⟨hhandled, rfl⟩

/-- Updates keep the invariant. -/
theorem invariant_update (order : HashOrder) (hstore : GoodStore s.store)
    (h : Invariant config C s) (admin : AdminName) (request : Request) :
    Invariant config C (step config C order s (.update admin ⟨.done, .done⟩ request)) ∧
      GoodStore (step config C order s (.update admin ⟨.done, .done⟩ request)).store := by
  obtain ⟨others, hnodup, hothers, hcases⟩ :=
    updateDevicePolicy_cases order hstore h admin ⟨.done, .done⟩ request
  generalize step config C order s (.update admin ⟨.done, .done⟩ request) = s' at hcases ⊢
  rcases hcases with ⟨hsame, hmodules⟩ | ⟨current', merge', hhandled, hstore'⟩
  · exact ⟨h.congr hsame hmodules, hsame ▸ hstore⟩
  · have hmem : ∀ x, x ∈ merge' ↔
        x ∈ heldByOthers (claims config C s) admin ∨ x ∈ current' := fun x => by
      rw [hhandled.merge_mem, hothers]
    split at hstore'
    · -- The list of the admin did not change, and neither did the union.
      rename_i hlist
      refine ⟨?_, hstore' ▸ hstore⟩
      have hmodules : s'.modules = s.modules := by
        refine Finset.ext fun x => ?_
        rw [hhandled.enforced_mem, hmem, h.enforced_mem, held_eq _ admin, ← hlist]
        rfl
      exact h.congr hstore' hmodules
    · have hsaved := saved_setPolicy hstore.inverse admin.2 config.policyName_ne
        (serialize C current') (serialize C merge')
      rw [← hstore'] at hsaved
      refine ⟨(invariant_saved h hsaved hhandled.current_nodup hhandled.merge_nodup hhandled.size
        hmem).mpr hhandled.enforced_mem, hstore.saved admin.2 hsaved⟩

/-! ### Removals -/

/-- What the removal of an admin leaves, when it holds a list. -/
theorem removeAdmin_spec (order : HashOrder) (hstore : GoodStore s.store) (h : Invariant config C s)
    (admin : AdminName) (answer : ModuleAnswer) (hheld : adminList config C s admin ≠ []) :
    ∃ others, others.Nodup ∧ (∀ x, x ∈ others ↔ x ∈ heldByOthers (claims config C s) admin) ∧
      Saved s.store (step config C order s (.removeAdmin admin ⟨.done, .done⟩ answer)).store
        admin config.policyName "" (serialize C others) ∧
      ∀ x, x ∈ (step config C order s (.removeAdmin admin ⟨.done, .done⟩ answer)).modules ↔
        x ∈ s.modules ∧
          ¬((x ∈ adminList config C s admin ∧ x ∉ others) ∧ answer.Handles x) := by
  obtain ⟨others, hnodup, hothers, htext⟩ := getOthersMergePolicyData_text order hstore h admin
  have hread : (plugin config C order).getOthersMergePolicyData s.store.manager admin =
      serialize C others := htext
  have hvalue : s.store.manager.policyValue admin (plugin config C order).policyName ≠ "" := by
    intro hempty
    exact serialize_ne_empty hheld ((h.admin_text admin).symm.trans hempty)
  obtain ⟨subscribed, hremove⟩ := policyStep_removeAdmin_held (plugin config C order) admin
    ⟨.done, .done⟩ answer hstore rfl hvalue
  refine ⟨others, hnodup, hothers, ?_⟩
  rw [step, hremove, hread]
  refine ⟨saved_setPolicy hstore.inverse admin.2 config.policyName_ne "" (serialize C others),
    fun x => ?_⟩
  have hcall : (plugin config C order).onAdminRemove s.modules answer
      (s.store.manager.policyValue admin (plugin config C order).policyName) (serialize C others) =
        onBasicAdminRemove answer s.modules (adminList config C s admin) others := by
    have hname : (plugin config C order).policyName = config.policyName := rfl
    rw [hname, h.admin_text]
    simp [plugin, IPluginTemplate.adminRemove, ArrayStringSerializer.serializer,
      deserialize_serialize]
  rw [hcall]
  exact mem_onBasicAdminRemove (h.admin_nodup admin) x

/-- The removal of an admin keeps the invariant exactly when the modules drop what only this admin
holds. -/
theorem invariant_removeAdmin (order : HashOrder) (hstore : GoodStore s.store)
    (h : Invariant config C s) (admin : AdminName) (answer : ModuleAnswer) :
    (Invariant config C (step config C order s (.removeAdmin admin ⟨.done, .done⟩ answer)) ↔
        DropsLast config C s (.removeAdmin admin ⟨.done, .done⟩ answer)) ∧
      GoodStore (step config C order s (.removeAdmin admin ⟨.done, .done⟩ answer)).store := by
  by_cases hheld : adminList config C s admin = []
  · have hstep : step config C order s (.removeAdmin admin ⟨.done, .done⟩ answer) = s := by
      refine policyStep_removeAdmin_none (plugin config C order) admin _ answer hstore ?_
      exact (h.admin_text admin).trans (by rw [hheld, serialize_nil])
    rw [hstep]
    refine ⟨iff_of_true h fun x hx => ?_, hstore⟩
    rw [claims, hheld] at hx
    contradiction
  · obtain ⟨others, hnodup, hothers, hsaved, hmodules⟩ :=
      removeAdmin_spec order hstore h admin answer hheld
    generalize step config C order s (.removeAdmin admin ⟨.done, .done⟩ answer) = s' at *
    refine ⟨?_, hstore.saved admin.2 hsaved⟩
    have hsize : others.length ≤ config.maxListSize := by
      refine le_trans (hnodup.subperm fun x hx => ?_).length_le h.size
      rw [h.combined_mem, held_eq _ admin]
      exact .inl ((hothers x).mp hx)
    rw [invariant_saved h hsaved List.nodup_nil hnodup hsize fun x => by rw [hothers]; simp]
    simp only [DropsLast, hmodules, h.enforced_mem, hothers]
    constructor
    · intro hall x hx hlast
      by_contra hkept
      have hx' := (hall x).mp ⟨⟨admin, hx⟩, fun hdropped => hkept hdropped.2⟩
      exact hlast hx'
    · intro hdrops x
      rw [held_eq _ admin]
      constructor
      · rintro ⟨hx | hx, hkept⟩
        · exact hx
        · by_contra hlast
          exact hkept ⟨⟨hx, hlast⟩, hdrops x hx hlast⟩
      · intro hx
        exact ⟨.inl hx, fun hdropped => hdropped.1.2 hx⟩

end Lists

/-! ### Runs -/

def someAdmin : AdminName := ⟨"com.admin", by decide⟩

section LastItem

variable (config : Config) (C : CJson) (order : HashOrder) (admin : AdminName) (item : String)

end LastItem

end BasicArrayStringPlugin

end Edm
