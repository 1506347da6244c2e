import Edm.Plugin.ItemPolicy
import Edm.Plugin.UsbPlugins

/-! What an operation of a plugin made from `DisallowedUsbDevicesPluginBase` does to its lists and to
the USB service. -/

set_option autoImplicit false

namespace Edm.DisallowedUsbDevicesPluginBase

open Library ArrayUsbDeviceTypeSerializer UsbPolicyUtils

abbrev Op := PolicyOp Request Unit

variable (C : ArrayCJson) (K : Kind) (order : HashOrder)

def step (s : PluginState UsbService) (op : Op) : PluginState UsbService :=
  policyStep (plugin C K s.store.manager order) s op

section Lists

/-- The list that a text stands for. -/
def listOf (policy : String) : List UsbDeviceType := (deserialize C policy).getD []

def itemsOf (policy : String) : Set UsbDeviceType := {t | t ∈ listOf C policy}

variable (store : UserStore)

/-- The types that an admin stores. -/
abbrev listed (admin : AdminName) : Set UsbDeviceType := itemsHeld (itemsOf C) K.policyName store admin

/-- The types of the combined policy. -/
def combined : Set UsbDeviceType := itemsOf C (store.manager.policyValue "" K.policyName)

/-- The list of an admin. -/
abbrev own (s : PluginState UsbService) (admin : AdminName) : List UsbDeviceType :=
  listOf C (s.store.manager.policyValue admin K.policyName)

/-- The others' types as they are merged. -/
def others (s : PluginState UsbService) (admin : AdminName) : List UsbDeviceType :=
  listOf C ((plugin C K s.store.manager order).getOthersMergePolicyData s.store.manager admin)

/-- The types that are left of those of an admin and of the others after a removal, with repetitions,
are not more than a policy can have. -/
def Fits (s : PluginState UsbService) (admin : AdminName) (request : Request) : Prop :=
  request.type = .remove →
    ∀ data, request.data.bind (getPolicy K.deviceTypeMinValue K.maxSize) = some data → data ≠ [] →
      (setUnionPolicyData (others C K order s admin) (setDifferencePolicyData data
        (own C K s admin))).length ≤ K.maxSize

/-- A text of a list that is not too long. -/
def IsText (policy : String) : Prop :=
  ∃ data : List UsbDeviceType, data.length ≤ K.maxSize ∧ serialize C K.maxSize data = some policy

/-- The lists of a policy can be read, the combined policy has all of them, and they fit in one. -/
structure Lists : Prop where
  texts : TextStore (IsText C K) K.policyName store
  fits : ∃ types : List UsbDeviceType, types.length ≤ K.maxSize ∧
    ∀ admin t, t ∈ listed C K store admin → t ∈ types
  combined : combined C K store = held (listed C K store)

end Lists

section Texts

variable {C : ArrayCJson} {K : Kind} {policy : String} {data : List UsbDeviceType}

theorem listOf_serialize (h : serialize C K.maxSize data = some policy) : listOf C policy = data := by
  rw [listOf, deserialize_serialize h]
  rfl

theorem itemsOf_serialize (h : serialize C K.maxSize data = some policy) :
    itemsOf C policy = {t | t ∈ data} := by
  rw [itemsOf, listOf_serialize h]

theorem itemsOf_empty : itemsOf C "" = ∅ := by
  rw [itemsOf, listOf, deserialize_empty]
  exact Set.eq_empty_iff_forall_notMem.mpr fun t ht => List.not_mem_nil ht

theorem IsText.nil : IsText C K "" := ⟨[], Nat.zero_le _, serialize_nil⟩

theorem IsText.read (h : IsText C K policy) :
    (listOf C policy).length ≤ K.maxSize ∧
      serialize C K.maxSize (listOf C policy) = some policy ∧
      deserialize C policy = some (listOf C policy) ∧
      IPluginTemplate.deserializeNonempty (serializer C K.maxSize) policy =
        some (listOf C policy) := by
  obtain ⟨data, hlength, hdata⟩ := h
  rw [listOf_serialize hdata]
  refine ⟨hlength, hdata, deserialize_serialize hdata, ?_⟩
  rw [IPluginTemplate.deserializeNonempty]
  split
  · rename_i hnone
    rw [hnone] at hdata
    rw [serialize_eq_empty hdata]
    rfl
  · exact deserialize_serialize hdata

/-- Only the text of no types is empty. -/
theorem IsText.eq_empty_iff (h : IsText C K policy) : policy = "" ↔ itemsOf C policy = ∅ := by
  constructor
  · rintro rfl
    exact itemsOf_empty
  · intro hnone
    obtain ⟨-, hserialize, -, -⟩ := h.read
    have hnil : listOf C policy = [] :=
      List.eq_nil_iff_forall_not_mem.mpr fun t ht => Set.notMem_empty t (hnone ▸ ht)
    rw [hnil, serialize_nil] at hserialize
    exact (Option.some.inj hserialize).symm

end Texts

section Lengths

variable (data others : List UsbDeviceType)

theorem length_le_setUnionPolicyData :
    others.length ≤ (setUnionPolicyData data others).length := by
  have hlength := length_le_setUnion (sorted_sort data) (sorted_sort others)
  rwa [length_sort] at hlength

theorem setDifferencePolicyData_subperm : (setDifferencePolicyData data others).Subperm others :=
  (setDifference_sublist (sort others) (sort data)).subperm.trans (perm_sort others).subperm

end Lengths

/-! ### The stores -/

section Stores

variable {C : ArrayCJson} {K : Kind} {order : HashOrder} {s s' : PluginState UsbService}
  {admin : AdminName}

theorem lists_new (userId : Int) : Lists C K ⟨UserPolicyManager.new userId, PolicyTables.empty⟩ where
  texts := textStore_new IsText.nil userId
  fits := by
    refine ⟨[], Nat.zero_le _, fun admin t ht => ?_⟩
    have hnone : listed C K ⟨UserPolicyManager.new userId, PolicyTables.empty⟩ admin = ∅ :=
      itemsHeld_new itemsOf_empty userId admin
    rw [hnone] at ht
    exact absurd ht (Set.notMem_empty t)
  combined := by
    rw [held_new itemsOf_empty, combined, policyValue_new]
    exact itemsOf_empty

/-- The lists are those of the values of the policy. -/
theorem Lists.congr {store store' : UserStore} (h : Lists C K store) (hgood : GoodStore store')
    (hvalue : ∀ a, store'.manager.policyValue a K.policyName =
      store.manager.policyValue a K.policyName) : Lists C K store' := by
  have hlisted : listed C K store' = listed C K store := by
    funext admin
    show itemsOf C (store'.manager.policyValue admin K.policyName) = _
    rw [hvalue]
    rfl
  refine ⟨h.texts.congr hgood hvalue, ?_, ?_⟩
  · rw [hlisted]
    exact h.fits
  · rw [hlisted, ← h.combined, DisallowedUsbDevicesPluginBase.combined, hvalue]
    rfl

/-- What the template makes of the others' values has their types. -/
theorem others_spec (h : Lists C K s.store) (order : HashOrder) (admin : AdminName) :
    IsText C K ((plugin C K s.store.manager order).getOthersMergePolicyData s.store.manager admin) ∧
      ∀ t, t ∈ others C K order s admin ↔ t ∈ heldByOthers (listed C K s.store) admin := by
  have hread : ∀ v, v ∈ othersValues order s.store.manager K.policyName admin →
      (serializer C K.maxSize).deserialize v = some (listOf C v) := by
    intro v hv
    obtain ⟨-, other, -, rfl⟩ := (h.texts.good.mem_othersValues order admin).mp hv
    exact (h.texts.text other).read.2.2.1
  have hmem : ∀ t, t ∈ mergePolicy ((othersValues order s.store.manager K.policyName admin).map
      (listOf C)) ↔ t ∈ heldByOthers (listed C K s.store) admin := by
    intro t
    rw [mem_mergePolicy, h.texts.good.mem_heldByOthers itemsOf_empty order admin]
    constructor
    · rintro ⟨l, hl, ht⟩
      obtain ⟨v, hv, rfl⟩ := List.mem_map.mp hl
      exact ⟨v, hv, ht⟩
    · rintro ⟨v, hv, ht⟩
      exact ⟨_, List.mem_map_of_mem hv, ht⟩
  have hlength : (mergePolicy ((othersValues order s.store.manager K.policyName admin).map
      (listOf C))).length ≤ K.maxSize := by
    obtain ⟨types, hfits, htypes⟩ := h.fits
    refine le_trans (List.subperm_of_subset (nodup_stdSet _) fun t ht => ?_).length_le hfits
    obtain ⟨other, -, hlisted⟩ := (hmem t).mp ht
    exact htypes other t hlisted
  obtain ⟨text, htext⟩ := serialize_some (C := C) hlength
  have hothers : (plugin C K s.store.manager order).getOthersMergePolicyData s.store.manager admin =
      text := by
    have hmerged : (plugin C K s.store.manager order).getOthersMergePolicyData s.store.manager admin =
        if othersValues order s.store.manager K.policyName admin = [] then ""
        else ((serialize C K.maxSize) (mergePolicy
          ((othersValues order s.store.manager K.policyName admin).map (listOf C)))).getD "" :=
      getOthersMergePolicyData_read _ h.texts.good order admin hread
    rw [hmerged, htext]
    split
    · rename_i hnil
      rw [hnil, List.map_nil] at htext
      exact Option.some.inj (serialize_nil.symm.trans htext)
    · rfl
  refine ⟨?_, fun t => ?_⟩
  · rw [hothers]
    exact ⟨_, hlength, htext⟩
  · rw [others, hothers, listOf_serialize htext]
    exact hmem t

/-- What is stored when an admin lists `after` and the merged list is `merged`. -/
theorem lists_saved (h : Lists C K s.store) (s' : PluginState UsbService) {after merged : List UsbDeviceType}
    {afterText mergedText : String} (hafter : after.length ≤ K.maxSize)
    (hmerged : merged.length ≤ K.maxSize)
    (hafterText : serialize C K.maxSize after = some afterText)
    (hmergedText : serialize C K.maxSize merged = some mergedText)
    (hmem : ∀ t, t ∈ merged ↔ t ∈ heldByOthers (listed C K s.store) admin ∨ t ∈ after)
    (hstore : s.store.manager.policyValue admin K.policyName = afterText ∧ s'.store = s.store ∨
      s.store.manager.policyValue admin K.policyName ≠ afterText ∧
        Saved s.store s'.store admin K.policyName afterText mergedText) :
    Lists C K s'.store ∧ combined C K s'.store = {t | t ∈ merged} := by
  have hlisted : listed C K s'.store =
      Function.update (listed C K s.store) admin (itemsOf C afterText) :=
    itemsHeld_update_ok admin (itemsOf C) hstore
  have hheld : held (listed C K s'.store) = {t | t ∈ merged} := by
    rw [hlisted, held_update, itemsOf_serialize hafterText]
    exact Set.ext fun t => (hmem t).symm
  have hcombined : combined C K s'.store = {t | t ∈ merged} := by
    rcases hstore with ⟨-, hsame⟩ | ⟨-, hsaved⟩
    · rw [hsame, h.combined, ← hheld, hsame]
    · rw [combined, hsaved.value_combined]
      exact itemsOf_serialize hmergedText
  have htexts : TextStore (IsText C K) K.policyName s'.store := by
    rcases hstore with ⟨-, hsame⟩ | ⟨-, hsaved⟩
    · rw [hsame]
      exact h.texts
    · exact h.texts.saved hsaved ⟨_, hafter, hafterText⟩ ⟨_, hmerged, hmergedText⟩
  refine ⟨⟨htexts, ⟨merged, hmerged, fun other t ht => ?_⟩, ?_⟩, hcombined⟩
  · have hin : t ∈ held (listed C K s'.store) := ⟨other, ht⟩
    rw [hheld] at hin
    exact hin
  · rw [hcombined, hheld]

end Stores

/-! ### The operations -/

/-- The type that is denied for the storage access policy. -/
def storageTypes (m : UserPolicyManager) : Set UsbDeviceType :=
  {t | t = storageType ∧ m.policyValue "" POLICY_USB_READ_ONLY =
    IntSerializer.serialize EdmConstants.STORAGE_USB_POLICY_DISABLED}

section Operations

variable {C : ArrayCJson} {K : Kind} {order : HashOrder} {s : PluginState UsbService}
  {admin : AdminName}

theorem mem_combineDataWithStorageAccessPolicy {m : UserPolicyManager} {data : List UsbDeviceType}
    {t : UsbDeviceType} :
    t ∈ combineDataWithStorageAccessPolicy m data ↔ t ∈ data ∨ t ∈ storageTypes m := by
  rw [combineDataWithStorageAccessPolicy, mem_setUnionPolicyData]
  refine or_congr_right ?_
  split
  · rename_i hdisabled
    rw [List.mem_singleton]
    exact (and_iff_left hdisabled).symm
  · rename_i henabled
    exact iff_of_false List.not_mem_nil fun ht => henabled ht.2

section Handlers

variable (K : Kind) (m : UserPolicyManager) (usb : UsbService)
  (data currentData mergeData : List UsbDeviceType)

theorem onSetPolicy_cases (writeDisallowed : Option Bool) :
    (∃ ret, ret ≠ ERR_OK ∧ onSetPolicy K m writeDisallowed usb data currentData mergeData =
        (ret, usb, currentData, mergeData)) ∨
      onSetPolicy K m writeDisallowed usb data currentData mergeData =
        (ERR_OK, usb, currentData, mergeData) ∨
      (setUnionPolicyData mergeData (setUnionPolicyData currentData data)).length ≤ K.maxSize ∧
        m.policyValue "" K.conflictPolicyName = "" ∧
        onSetPolicy K m writeDisallowed usb data currentData mergeData =
          (ERR_OK, K.setDisallowedDevices (combineDataWithStorageAccessPolicy m
              (setUnionPolicyData mergeData (setUnionPolicyData currentData data))) usb,
            setUnionPolicyData currentData data,
            setUnionPolicyData mergeData (setUnionPolicyData currentData data)) := by
  unfold onSetPolicy
  dsimp only
  split
  · exact .inr (.inl rfl)
  split
  · exact .inl ⟨_, by decide, rfl⟩
  split
  · exact .inl ⟨_, by decide, rfl⟩
  · exact .inl ⟨_, by decide, rfl⟩
  rename_i hconflict
  split
  · exact .inl ⟨_, by decide, rfl⟩
  rename_i hlength
  refine .inr (.inr ⟨Nat.not_lt.mp hlength, ?_, rfl⟩)
  unfold hasConflictPolicy at hconflict
  by_cases hrival : m.policyValue "" K.conflictPolicyName = ""
  · exact hrival
  · rw [if_pos hrival] at hconflict
    split at hconflict
    · cases hconflict
    · split at hconflict <;> cases hconflict

theorem onRemovePolicy_cases :
    (∃ ret, ret ≠ ERR_OK ∧ onRemovePolicy K m usb data currentData mergeData =
        (ret, usb, currentData, mergeData)) ∨
      onRemovePolicy K m usb data currentData mergeData = (ERR_OK, usb, currentData, mergeData) ∨
      data ≠ [] ∧ ∃ usb', onRemovePolicy K m usb data currentData mergeData =
          (ERR_OK, usb', setDifferencePolicyData data currentData,
            setUnionPolicyData mergeData (setDifferencePolicyData data currentData)) ∧
        (usb' = K.setDisallowedDevices (combineDataWithStorageAccessPolicy m
            (setUnionPolicyData mergeData (setDifferencePolicyData data currentData))) usb ∨
          combineDataWithStorageAccessPolicy m (setUnionPolicyData mergeData
              (setDifferencePolicyData data currentData)) = [] ∧ currentData ≠ [] ∧
            usb' = K.setDisallowedDevices [] (setUsbDisabled false usb)) := by
  unfold onRemovePolicy
  dsimp only
  split
  · exact .inr (.inl rfl)
  rename_i hdata
  split
  · exact .inl ⟨_, by decide, rfl⟩
  refine .inr (.inr ⟨hdata, _, rfl, ?_⟩)
  split
  · rename_i hclear
    rw [hclear.1]
    exact .inr ⟨rfl, hclear.2, rfl⟩
  · exact .inl rfl

end Handlers

/-- The service gets the combined policy and the type for storage, or is cleared when there is nothing
to deny and there was something before. -/
def Sent (C : ArrayCJson) (K : Kind) (s s' : PluginState UsbService) : Prop :=
  ∃ data : List UsbDeviceType,
    (∀ t, t ∈ data ↔ t ∈ combined C K s'.store ∨ t ∈ storageTypes s.store.manager) ∧
    (s'.modules = K.setDisallowedDevices data s.modules ∨
      data = [] ∧ combined C K s.store ≠ ∅ ∧ s'.modules = setUsbDisabled false s.modules)

/-- What an operation does: nothing, or it stores lists and sends them.  A list is started only when
there is none of the other kind. -/
def Effect (C : ArrayCJson) (K : Kind) (s s' : PluginState UsbService) : Prop :=
  s'.modules = s.modules ∧ s'.store = s.store ∨
    Lists C K s'.store ∧ Sent C K s s' ∧ (combined C K s'.store ≠ ∅ →
      combined C K s.store ≠ ∅ ∨ s.store.manager.policyValue "" K.conflictPolicyName = "")

theorem effect_of_unchanged (hgood : GoodStore s.store) (hname : K.policyName ≠ "")
    {request : Request} {ret : ErrCode} {handled : HandlePolicyData}
    (hcall : (plugin C K s.store.manager order).onHandlePolicy s.store.manager s.modules request
      (PluginManager.handlePolicyData (plugin C K s.store.manager order) s admin) =
        (ret, s.modules, handled)) (hsame : ret ≠ ERR_OK ∨ handled.isChanged = false) :
    Effect C K s (step C K order s (.update admin ⟨.done, .done⟩ request)) := by
  obtain ⟨hmodules, ⟨-, hstore⟩ | ⟨hok, hchanged, -⟩⟩ :=
    policyStep_update_cases (plugin C K s.store.manager order) admin hgood hname hcall
  · exact .inl ⟨hmodules, hstore⟩
  · rcases hsame with hret | hsame
    · exact absurd (bne_eq_false_iff_eq.mp hok) hret
    · rw [hsame, Bool.and_false] at hchanged
      cases hchanged

variable (h : Lists C K s.store)
include h

/-- The values of an admin and of the others as a handler gets them. -/
theorem values_read (order : HashOrder) (admin : AdminName) :
    IPluginTemplate.deserializeNonempty (serializer C K.maxSize)
        (PluginManager.handlePolicyData (plugin C K s.store.manager order) s admin).policyData =
          some (own C K s admin) ∧
      IPluginTemplate.deserializeNonempty (serializer C K.maxSize)
        (PluginManager.handlePolicyData (plugin C K s.store.manager order) s admin).mergePolicyData =
          some (others C K order s admin) :=
  ⟨(h.texts.text admin).read.2.2.2, (others_spec h order admin).1.read.2.2.2⟩

variable (hname : K.policyName ≠ "")
include hname

/-- A handler that lists `after` for the admin and `merged` for all. -/
theorem effect_of_handled {request : Request} (usb : UsbService)
    (after merged : List UsbDeviceType) (hafter : after.length ≤ K.maxSize)
    (hmerged : merged.length ≤ K.maxSize)
    (hmem : ∀ t, t ∈ merged ↔ t ∈ heldByOthers (listed C K s.store) admin ∨ t ∈ after)
    (hcall : ∀ afterText mergedText, serialize C K.maxSize after = some afterText →
      serialize C K.maxSize merged = some mergedText →
      (plugin C K s.store.manager order).onHandlePolicy s.store.manager s.modules request
        (PluginManager.handlePolicyData (plugin C K s.store.manager order) s admin) =
          (ERR_OK, usb, ⟨afterText, mergedText,
            s.store.manager.policyValue admin K.policyName != afterText⟩))
    (husb : usb = K.setDisallowedDevices (combineDataWithStorageAccessPolicy s.store.manager merged)
        s.modules ∨
      combineDataWithStorageAccessPolicy s.store.manager merged = [] ∧ combined C K s.store ≠ ∅ ∧
        usb = setUsbDisabled false s.modules)
    (hstart : merged ≠ [] →
      combined C K s.store ≠ ∅ ∨ s.store.manager.policyValue "" K.conflictPolicyName = "") :
    Effect C K s (step C K order s (.update admin ⟨.done, .done⟩ request)) := by
  obtain ⟨afterText, hafterText⟩ := serialize_some (C := C) hafter
  obtain ⟨mergedText, hmergedText⟩ := serialize_some (C := C) hmerged
  obtain ⟨hmodules, hstore⟩ := policyStep_update_ok (plugin C K s.store.manager order) admin
    h.texts.good hname rfl (hcall _ _ hafterText hmergedText) bne_iff_ne
  obtain ⟨hlists, hcombined⟩ := lists_saved h
    (step C K order s (.update admin ⟨.done, .done⟩ request)) hafter hmerged hafterText
    hmergedText hmem hstore
  refine .inr ⟨hlists, ⟨combineDataWithStorageAccessPolicy s.store.manager merged, fun t => ?_, ?_⟩,
    fun hsome => hstart fun hnil => hsome ?_⟩
  · rw [hcombined]
    exact mem_combineDataWithStorageAccessPolicy
  · rcases husb with rfl | ⟨hnil, hsome, rfl⟩
    · exact .inl hmodules
    · exact .inr ⟨hnil, hsome, hmodules⟩
  · rw [hcombined, hnil]
    exact Set.eq_empty_iff_forall_notMem.mpr fun t ht => List.not_mem_nil ht

theorem set_effect {request : Request} (hset : request.type = .set) :
    Effect C K s (step C K order s (.update admin ⟨.done, .done⟩ request)) := by
  have hcall : (plugin C K s.store.manager order).onHandlePolicy s.store.manager s.modules request
      (PluginManager.handlePolicyData (plugin C K s.store.manager order) s admin) =
        IPluginTemplate.handlePolicy (serializer C K.maxSize)
          (onSetPolicy K s.store.manager request.writeDisallowed) s.modules
          (request.data.bind (getPolicy K.deviceTypeMinValue K.maxSize))
          (PluginManager.handlePolicyData (plugin C K s.store.manager order) s admin) := by
    show onHandlePolicy C K s.store.manager s.modules request _ = _
    unfold onHandlePolicy
    rw [hset]
  obtain ⟨hown, hothers⟩ := values_read h order admin
  cases hread : request.data.bind (getPolicy K.deviceTypeMinValue K.maxSize) with
  | none =>
    rw [hread] at hcall
    exact effect_of_unchanged h.texts.good hname hcall (.inl (by decide))
  | some data =>
    rw [hread] at hcall
    rcases onSetPolicy_cases K s.store.manager s.modules data
      (own C K s admin) (others C K order s admin)
      request.writeDisallowed with
      ⟨ret, hret, hresult⟩ | hresult | ⟨hlength, hconflict, hresult⟩
    · rw [IPluginTemplate.handlePolicy_failed hown hothers hresult hret] at hcall
      exact effect_of_unchanged h.texts.good hname hcall (.inl hret)
    · rw [IPluginTemplate.handlePolicy_ok hown hothers hresult (h.texts.text admin).read.2.1
        (others_spec h order admin).1.read.2.1] at hcall
      exact effect_of_unchanged h.texts.good hname hcall (.inr (bne_self_eq_false _))
    · refine effect_of_handled h hname _ (setUnionPolicyData (own C K s admin) data) _ ?_ hlength (fun t => ?_)
        (fun afterText mergedText hafter hmerged => ?_) (.inl rfl) fun _ => .inr hconflict
      · exact le_trans (length_le_setUnionPolicyData _ _) hlength
      · rw [mem_setUnionPolicyData, (others_spec h order admin).2]
      · rw [hcall]
        exact IPluginTemplate.handlePolicy_ok hown hothers hresult hafter hmerged

theorem remove_effect (hclear : ∀ usb, K.setDisallowedDevices [] (setUsbDisabled false usb) =
      setUsbDisabled false usb) {request : Request} (hremove : request.type = .remove)
    (hfits : Fits C K order s admin request) :
    Effect C K s (step C K order s (.update admin ⟨.done, .done⟩ request)) := by
  have hcall : (plugin C K s.store.manager order).onHandlePolicy s.store.manager s.modules request
      (PluginManager.handlePolicyData (plugin C K s.store.manager order) s admin) =
        IPluginTemplate.handlePolicy (serializer C K.maxSize) (onRemovePolicy K s.store.manager)
          s.modules (request.data.bind (getPolicy K.deviceTypeMinValue K.maxSize))
          (PluginManager.handlePolicyData (plugin C K s.store.manager order) s admin) := by
    show onHandlePolicy C K s.store.manager s.modules request _ = _
    unfold onHandlePolicy
    rw [hremove]
  obtain ⟨hown, hothers⟩ := values_read h order admin
  cases hread : request.data.bind (getPolicy K.deviceTypeMinValue K.maxSize) with
  | none =>
    rw [hread] at hcall
    exact effect_of_unchanged h.texts.good hname hcall (.inl (by decide))
  | some data =>
    rw [hread] at hcall
    rcases onRemovePolicy_cases K s.store.manager s.modules data
      (own C K s admin) (others C K order s admin) with
      ⟨ret, hret, hresult⟩ | hresult | ⟨hdata, usb, hresult, husb⟩
    · rw [IPluginTemplate.handlePolicy_failed hown hothers hresult hret] at hcall
      exact effect_of_unchanged h.texts.good hname hcall (.inl hret)
    · rw [IPluginTemplate.handlePolicy_ok hown hothers hresult (h.texts.text admin).read.2.1
        (others_spec h order admin).1.read.2.1] at hcall
      exact effect_of_unchanged h.texts.good hname hcall (.inr (bne_self_eq_false _))
    · have hheld : ∀ t, t ∈ combined C K s.store ↔
          t ∈ heldByOthers (listed C K s.store) admin ∨
            t ∈ own C K s admin := by
        intro t
        rw [h.combined, held_eq _ admin]
        exact Iff.rfl
      have hleft := setDifferencePolicyData_subperm data
        (own C K s admin)
      refine effect_of_handled h hname usb (setDifferencePolicyData data (own C K s admin)) _ ?_
        (hfits hremove data hread hdata) (fun t => ?_)
        (fun afterText mergedText hafter hmerged => ?_) ?_ fun hsome => .inl fun hnone => ?_
      · exact le_trans hleft.length_le (h.texts.text admin).read.1
      · rw [mem_setUnionPolicyData, (others_spec h order admin).2]
      · rw [hcall]
        exact IPluginTemplate.handlePolicy_ok hown hothers hresult hafter hmerged
      · rcases husb with husb | ⟨hnil, hlisted, husb⟩
        · exact .inl husb
        · refine .inr ⟨hnil, fun hnone => hlisted ?_, husb.trans (hclear s.modules)⟩
          refine List.eq_nil_iff_forall_not_mem.mpr fun t ht => ?_
          exact Set.notMem_empty t (hnone ▸ (hheld t).mpr (.inr ht))
      · obtain ⟨t, ht⟩ := List.exists_mem_of_ne_nil _ hsome
        refine Set.notMem_empty t (hnone ▸ (hheld t).mpr ?_)
        rcases mem_setUnionPolicyData.mp ht with hother | hown
        · exact .inl (((others_spec h order admin).2 t).mp hother)
        · exact .inr (hleft.subset hown)

theorem removeAdmin_effect (admin : AdminName) (reply : Unit) :
    Effect C K s (step C K order s (.removeAdmin admin ⟨.done, .done⟩ reply)) := by
  obtain ⟨htext, hmem⟩ := others_spec h order admin
  rcases policyStep_removeAdmin_cases (plugin C K s.store.manager order) admin h.texts.good hname rfl
    reply with ⟨-, hsame⟩ | ⟨hvalue, hmodules, hsaved⟩
  · left
    have hsame : step C K order s (.removeAdmin admin ⟨.done, .done⟩ reply) = s := hsame
    rw [hsame]
    exact ⟨rfl, rfl⟩
  have hread : deserialize C (s.store.manager.policyValue admin K.policyName) =
      some (own C K s admin) := (h.texts.text admin).read.2.2.1
  have hsome : combined C K s.store ≠ ∅ := by
    intro hnone
    have hempty := mt (h.texts.text admin).eq_empty_iff.mpr hvalue
    obtain ⟨t, ht⟩ := Set.nonempty_iff_ne_empty.mpr hempty
    rw [h.combined] at hnone
    exact Set.notMem_empty t (hnone ▸ mem_held.mpr ⟨admin, ht⟩)
  obtain ⟨hlists, hcombined⟩ := lists_saved h
    (step C K order s (.removeAdmin admin ⟨.done, .done⟩ reply)) (Nat.zero_le _)
    htext.read.1 serialize_nil htext.read.2.1
    (fun t => (hmem t).trans (or_iff_left List.not_mem_nil).symm) (.inr ⟨hvalue, hsaved⟩)
  refine .inr ⟨hlists, ⟨combineDataWithStorageAccessPolicy s.store.manager (others C K order s admin),
    fun t => ?_, ?_⟩, fun _ => .inl hsome⟩
  · rw [hcombined]
    exact mem_combineDataWithStorageAccessPolicy
  · have hremove : (step C K order s (.removeAdmin admin ⟨.done, .done⟩ reply)).modules =
        (onAdminRemove K s.store.manager s.modules
          (own C K s admin)
          (others C K order s admin)).2 := by
      refine hmodules.trans (congrArg Prod.snd ?_)
      exact IPluginTemplate.adminRemove_read hread
        htext.read.2.2.1
    rw [hremove, onAdminRemove]
    split
    · rename_i hnil
      exact .inr ⟨hnil, hsome, rfl⟩
    · exact .inl rfl

/-- An operation whose writes take effect and that fits. -/
theorem step_effect (hclear : ∀ usb, K.setDisallowedDevices [] (setUsbDisabled false usb) =
      setUsbDisabled false usb) {op : Op} (hwrites : op.writes = ⟨.done, .done⟩)
    (hfits : ∀ admin writes request, op = .update admin writes request →
      Fits C K order s admin request) : Effect C K s (step C K order s op) := by
  cases op with
  | update admin writes request =>
    obtain rfl : writes = ⟨.done, .done⟩ := hwrites
    by_cases hset : request.type = .set
    · exact set_effect h hname hset
    by_cases hremove : request.type = .remove
    · exact remove_effect h hname hclear hremove (hfits admin _ request rfl)
    have hcall : (plugin C K s.store.manager order).onHandlePolicy s.store.manager s.modules request
        (PluginManager.handlePolicyData (plugin C K s.store.manager order) s admin) =
          (ERR_OK, s.modules,
            PluginManager.handlePolicyData (plugin C K s.store.manager order) s admin) := by
      show onHandlePolicy C K s.store.manager s.modules request _ = _
      unfold onHandlePolicy
      dsimp only
      split
      · contradiction
      · contradiction
      · rfl
    exact effect_of_unchanged h.texts.good hname hcall (.inr rfl)
  | removeAdmin admin writes reply =>
    obtain rfl : writes = ⟨.done, .done⟩ := hwrites
    exact removeAdmin_effect h hname admin reply

end Operations

end Edm.DisallowedUsbDevicesPluginBase
