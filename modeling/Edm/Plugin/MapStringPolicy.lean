import Edm.Plugin.ItemPolicy
import Edm.Plugin.MapStringSerializer

/-! What the policies on maps of strings share: how a request changes the maps, what is known of the
map that a handler gets for the other admins, and what a run has to keep. -/

set_option autoImplicit false

namespace Edm

open Library

namespace MapStringPolicy

open MapStringSerializer

/-- A key is in the admin's map while its value is "true". -/
def setEntry (item : String × String) (currentData : MapString) : MapString :=
  if item.2 == "true" then assign Prod.fst (item.1, "true") currentData
  else eraseKey Prod.fst item.1 currentData

/-- The entries of the admin's map whose keys are missing in the merged map are added. -/
def addMissing (currentData mergeData : MapString) : MapString :=
  insertAll Prod.fst currentData mergeData

/-- The code, the modules, and the maps of the admin and of all admins after the call. -/
abbrev Handler (Modules Answers : Type) :=
  Answers → Modules → MapString → MapString → MapString → ErrCode × Modules × MapString × MapString

/-- A request, with the answers of the modules. -/
structure Request (Answers : Type) where
  parcel : Parcel
  answers : Answers

variable {Modules Answers Reply : Type}

def plugin (C : CJson) (order : HashOrder) (policyName : String)
    (onSetPolicy : Handler Modules Answers)
    (onAdminRemove : Modules → Reply → String → String → ErrCode × Modules) :
    Plugin Modules (Request Answers) Reply Empty where
  policyName
  needSave := true
  getOthersMergePolicyData :=
    IPluginTemplate.getOthersMergePolicyData (serializer C) order policyName
  onHandlePolicy _ modules request policyData :=
    IPluginTemplate.handlePolicy (serializer C) (onSetPolicy request.answers) modules
      (getPolicy request.parcel) policyData
  onAdminRemove
  onPluginEvent _ event := nomatch event

/-! ### The keys that the admins store -/

section Keys

variable (C : CJson) (policyName : String) (store : UserStore)

/-- The keys of the map that a text stands for. -/
def keysOf (policy : String) : Set String := {k | k ∈ ((deserialize C policy).getD []).map Prod.fst}

/-- The keys of an admin's map. -/
abbrev listed (admin : AdminName) : Set String := itemsHeld (keysOf C) policyName store admin

def combinedKeys : Set String := keysOf C (store.manager.policyValue "" policyName)

/-- All other admins that have a map have the key. -/
def Everywhere (admin : AdminName) (key : String) : Prop :=
  ∀ other : AdminName, other ≠ admin → store.manager.policyValue other policyName ≠ "" →
    key ∈ listed C policyName store other

/-- The new map of an admin is the old one, or each key that others have is in it or in the maps of
all others, whichever of these the merge takes. -/
def Covered (admin : AdminName) (after : MapString) : Prop :=
  serialize C after = store.manager.policyValue admin policyName ∨
    ∀ k, k ∈ heldByOthers (listed C policyName store) admin →
      Everywhere C policyName store admin k ∨ k ∈ after.map Prod.fst

/-- Two states with the same restrictions, admins' keys and combined keys. -/
structure SameResult (s s' : PluginState Modules) : Prop where
  modules : s.modules = s'.modules
  listed : listed C policyName s.store = listed C policyName s'.store
  combined : combinedKeys C policyName s.store = combinedKeys C policyName s'.store

/-- A text of a map. -/
def IsText (policy : String) : Prop :=
  ∃ data : MapString, KeysAscend Prod.fst data ∧
    (policy = "" ∧ data = [] ∨ policy = serialize C data)

abbrev Readable : Prop := TextStore (IsText C) policyName store

end Keys

section Texts

variable {C : CJson} {policyName : String} {store : UserStore}

theorem isText_empty : IsText C "" := ⟨[], keysAscend_nil, .inl ⟨rfl, rfl⟩⟩

theorem isText_serialize {data : MapString} (h : KeysAscend Prod.fst data) :
    IsText C (serialize C data) := ⟨data, h, .inr rfl⟩

theorem keysOf_serialize {data : MapString} (h : KeysAscend Prod.fst data) :
    keysOf C (serialize C data) = {k | k ∈ data.map Prod.fst} := by
  rw [keysOf, deserialize_serialize h]
  rfl

theorem keysOf_empty : keysOf C "" = ∅ := by
  rw [keysOf, deserialize_empty]
  exact Set.eq_empty_iff_forall_notMem.mpr fun x => List.not_mem_nil

/-- A text of a map is read back. -/
theorem deserialize_text {policy : String} {data : MapString} (hdata : KeysAscend Prod.fst data)
    (h : policy = "" ∧ data = [] ∨ policy = serialize C data) :
    deserialize C policy = some data ∧
      IPluginTemplate.deserializeNonempty (serializer C) policy = some data := by
  rcases h with ⟨rfl, rfl⟩ | rfl
  · exact ⟨deserialize_empty, rfl⟩
  · refine ⟨deserialize_serialize hdata, ?_⟩
    rw [IPluginTemplate.deserializeNonempty, if_neg (serialize_ne_empty data)]
    exact deserialize_serialize hdata

theorem keysOf_text {policy : String} {data : MapString} (hdata : KeysAscend Prod.fst data)
    (h : policy = "" ∧ data = [] ∨ policy = serialize C data) :
    keysOf C policy = {k | k ∈ data.map Prod.fst} := by
  rw [keysOf, (deserialize_text hdata h).1]
  rfl

/-- The map that a handler gets for the other admins has keys of theirs only, and all keys that each
of them has. -/
structure OthersMap (C : CJson) (policyName : String) (store : UserStore) (admin : AdminName)
    (others : MapString) : Prop where
  ascend : KeysAscend Prod.fst others
  held : ∀ k, k ∈ others.map Prod.fst → k ∈ heldByOthers (listed C policyName store) admin
  everywhere : ∀ k, k ∈ heldByOthers (listed C policyName store) admin →
    Everywhere C policyName store admin k → k ∈ others.map Prod.fst

/-- The merged text is the one of the admin that is visited last. -/
theorem getOthersMergePolicyData_text (order : HashOrder) (h : Readable C policyName store)
    (admin : AdminName) :
    ∃ others, OthersMap C policyName store admin others ∧
      ((IPluginTemplate.getOthersMergePolicyData (serializer C) order policyName store.manager
            admin = "" ∧ others = []) ∨
        IPluginTemplate.getOthersMergePolicyData (serializer C) order policyName store.manager admin =
          serialize C others) := by
  have hread : ∀ v, v ∈ othersValues order store.manager policyName admin →
      (serializer C).deserialize v = some ((deserialize C v).getD []) := by
    intro v hv
    obtain ⟨-, other, -, rfl⟩ := (h.good.mem_othersValues order admin).mp hv
    obtain ⟨data, hascend, htext⟩ := h.text other
    show deserialize C _ = _
    rw [(deserialize_text hascend htext).1]
    rfl
  have hothers := fun k : String => h.good.mem_heldByOthers (p := policyName)
    (keysOf_empty (C := C)) order admin (x := k)
  rw [getOthersMergePolicyData_read (serializer C) h.good order admin hread]
  cases hlast : (othersValues order store.manager policyName admin).getLast? with
  | none =>
    have hnil := List.getLast?_eq_none_iff.mp hlast
    rw [if_pos hnil]
    refine ⟨[], ⟨keysAscend_nil, fun k hk => absurd hk List.not_mem_nil, fun k hk _ => ?_⟩,
      .inl ⟨rfl, rfl⟩⟩
    obtain ⟨v, hv, -⟩ := (hothers k).mp hk
    rw [hnil] at hv
    exact absurd hv List.not_mem_nil
  | some last =>
    have hmem := List.mem_of_getLast? hlast
    rw [if_neg (List.ne_nil_of_mem hmem)]
    obtain ⟨hne, other, hother, rfl⟩ := (h.good.mem_othersValues order admin).mp hmem
    obtain ⟨data, hascend, htext⟩ := h.text other
    refine ⟨data, ⟨hascend, fun k hk => ⟨other, hother, ?_⟩, fun k _ hall => ?_⟩, .inr ?_⟩
    · rw [listed, itemsHeld, keysOf_text hascend htext]
      exact hk
    · have hk := hall other hother hne
      rw [listed, itemsHeld, keysOf_text hascend htext] at hk
      exact hk
    · show serialize C (mergePolicy _) = _
      rw [mergePolicy, List.getLast?_map, hlast, Option.map_some, (deserialize_text hascend htext).1]
      rfl

end Texts

/-! ### One operation -/

section Step

variable {C : CJson} {order : HashOrder} {policyName : String} {onSetPolicy : Handler Modules Answers}
  {onAdminRemove : Modules → Reply → String → String → ErrCode × Modules}
  {s s' : PluginState Modules} {admin : AdminName}

/-- A set gives `ERR_OK`. -/
def SetSucceeds (plugin : Plugin Modules (Request Answers) Reply Empty) (s : PluginState Modules)
    (admin : AdminName) (request : Request Answers) : Prop :=
  (PluginManager.updateDevicePolicy plugin s ⟨.done, .done⟩ admin request).1 = ERR_OK

/-- The maps of an admin and of the others, as a handler gets them. -/
structure Maps (C : CJson) (policyName : String) (store : UserStore) (admin : AdminName)
    (current others : MapString) : Prop where
  ascend : KeysAscend Prod.fst current
  own : store.manager.policyValue admin policyName = "" ∧ current = [] ∨
    store.manager.policyValue admin policyName = serialize C current
  others : OthersMap C policyName store admin others

theorem Maps.listed {store : UserStore} {current others : MapString}
    (h : Maps C policyName store admin current others) :
    listed C policyName store admin = {k | k ∈ current.map Prod.fst} := keysOf_text h.ascend h.own

theorem mem_keys_setEntry {item : String × String} {currentData : MapString} {k : String} :
    k ∈ (setEntry item currentData).map Prod.fst ↔
      if item.2 == "true" then k = item.1 ∨ k ∈ currentData.map Prod.fst
      else k ∈ currentData.map Prod.fst ∧ k ≠ item.1 := by
  unfold setEntry
  split
  · exact mem_keys_assign
  · constructor
    · intro hk
      obtain ⟨x, hx, rfl⟩ := List.mem_map.mp hk
      obtain ⟨hx, hne⟩ := mem_eraseKey.mp hx
      exact ⟨List.mem_map_of_mem hx, hne⟩
    · rintro ⟨hk, hne⟩
      obtain ⟨x, hx, rfl⟩ := List.mem_map.mp hk
      exact List.mem_map_of_mem (mem_eraseKey.mpr ⟨hx, hne⟩)

theorem keysAscend_setEntry {item : String × String} {currentData : MapString}
    (h : KeysAscend Prod.fst currentData) : KeysAscend Prod.fst (setEntry item currentData) := by
  unfold setEntry
  split
  · exact keysAscend_assign h
  · exact keysAscend_eraseKey h

theorem addMissing_spec {currentData mergeData : MapString} (h : KeysAscend Prod.fst mergeData) :
    KeysAscend Prod.fst (addMissing currentData mergeData) ∧
      ∀ k, k ∈ (addMissing currentData mergeData).map Prod.fst ↔
        k ∈ mergeData.map Prod.fst ∨ k ∈ currentData.map Prod.fst :=
  ⟨keysAscend_insertAll h, fun _ => mem_keys_insertAll.trans or_comm⟩

/-- What a successful set makes of the store. -/
def Stored (C : CJson) (policyName : String) (store store' : UserStore) (admin : AdminName)
    (after merged : MapString) : Prop :=
  serialize C after = store.manager.policyValue admin policyName ∧ store' = store ∨
    serialize C after ≠ store.manager.policyValue admin policyName ∧
      Saved store store' admin policyName (serialize C after) (serialize C merged)

/-- A set fails and leaves the store, or stores the maps that the handler makes. -/
theorem set_cases (hname : policyName ≠ "") (h : Readable C policyName s.store)
    (request : Request Answers)
    (hs' : policyStep (plugin C order policyName onSetPolicy onAdminRemove) s
      (.update admin ⟨.done, .done⟩ request) = s') :
    ∃ current others, Maps C policyName s.store admin current others ∧
      ((¬ SetSucceeds (plugin C order policyName onSetPolicy onAdminRemove) s admin request ∧
          s'.store = s.store ∧ (s'.modules = s.modules ∨ ∃ data,
            failed (onSetPolicy request.answers s.modules data current others).1 = true ∧
            s'.modules = (onSetPolicy request.answers s.modules data current others).2.1)) ∨
        ∃ data after merged, getPolicy request.parcel = some data ∧
          onSetPolicy request.answers s.modules data current others =
            (ERR_OK, s'.modules, after, merged) ∧
          Stored C policyName s.store s'.store admin after merged) := by
  obtain ⟨current, hascend, hown⟩ := h.text admin
  obtain ⟨others, hothers, htext⟩ := getOthersMergePolicyData_text order h admin
  refine ⟨current, others, ⟨hascend, hown, hothers⟩, ?_⟩
  obtain ⟨policyData, hpolicyData⟩ : ∃ d, PluginManager.handlePolicyData
    (plugin C order policyName onSetPolicy onAdminRemove) s admin = d := ⟨_, rfl⟩
  have hvalue : policyData.policyData = s.store.manager.policyValue admin policyName := by
    rw [← hpolicyData]
    rfl
  have hmerge : policyData.mergePolicyData = IPluginTemplate.getOthersMergePolicyData (serializer C)
      order policyName s.store.manager admin := by
    rw [← hpolicyData]
    rfl
  have hfailed : ∀ {ret modules}, failed ret = true →
      (plugin C order policyName onSetPolicy onAdminRemove).onHandlePolicy s.store.manager s.modules
        request policyData = (ret, modules, policyData) →
      ¬ SetSucceeds (plugin C order policyName onSetPolicy onAdminRemove) s admin request ∧
        s'.store = s.store ∧ s'.modules = modules := by
    intro ret modules hret hcall
    rw [← hpolicyData] at hcall
    have hstep : PluginManager.updateDevicePolicy
        (plugin C order policyName onSetPolicy onAdminRemove) s ⟨.done, .done⟩ admin request =
          (ret, { s with modules }) := PluginManager.updateDevicePolicy_failed hcall hret
    refine ⟨fun hok => ?_, ?_⟩
    · rw [SetSucceeds, hstep] at hok
      have hok : ret = ERR_OK := hok
      rw [hok] at hret
      cases hret
    · rw [← hs']
      show (PluginManager.updateDevicePolicy _ s ⟨.done, .done⟩ admin request).2.store = _ ∧
        (PluginManager.updateDevicePolicy _ s ⟨.done, .done⟩ admin request).2.modules = _
      rw [hstep]
      exact ⟨rfl, rfl⟩
  have hcall : (plugin C order policyName onSetPolicy onAdminRemove).onHandlePolicy s.store.manager
      s.modules request policyData = IPluginTemplate.handlePolicy (serializer C)
        (onSetPolicy request.answers) s.modules (getPolicy request.parcel) policyData := rfl
  cases hparcel : getPolicy request.parcel with
  | none =>
    rw [hparcel] at hcall
    have hret : failed ERR_EDM_OPERATE_PARCEL = true := by decide
    obtain ⟨hcode, hstore, hmodules⟩ := hfailed hret hcall
    exact .inl ⟨hcode, hstore, .inl hmodules⟩
  | some data =>
    rw [hparcel] at hcall
    unfold IPluginTemplate.handlePolicy at hcall
    rw [hvalue, hmerge] at hcall
    simp only [(deserialize_text hascend hown).2, (deserialize_text hothers.ascend htext).2] at hcall
    obtain ⟨⟨ret, modules, after, merged⟩, hset⟩ :
      ∃ result, onSetPolicy request.answers s.modules data current others = result := ⟨_, rfl⟩
    rw [hset] at hcall
    dsimp only at hcall
    by_cases hret : (ret != ERR_OK) = true
    · rw [if_pos hret] at hcall
      obtain ⟨hcode, hstore, hmodules⟩ := hfailed (by exact hret) hcall
      refine .inl ⟨hcode, hstore, .inr ⟨data, ?_⟩⟩
      rw [hset]
      exact ⟨hret, hmodules⟩
    · rw [if_neg hret] at hcall
      obtain rfl : ret = ERR_OK := bne_eq_false_iff_eq.mp (Bool.eq_false_iff.mpr hret)
      rw [← hpolicyData] at hcall
      obtain ⟨hmodules, hstore⟩ := policyStep_update_cases
        (plugin C order policyName onSetPolicy onAdminRemove) admin h.good hname hcall
      rw [hs'] at hmodules hstore
      refine .inr ⟨data, after, merged, rfl, ?_, ?_⟩
      · rw [hset, hmodules]
      · rcases hstore with ⟨hok | hsame, hstore⟩ | ⟨-, hchanged, hsaved⟩
        · cases hok
        · exact .inl ⟨(bne_eq_false_iff_eq.mp hsame).symm, hstore⟩
        · exact .inr ⟨(bne_iff_ne.mp hchanged).symm, hsaved⟩

/-- A map whose text an admin stores. -/
theorem listed_of_text {store : UserStore} {data : MapString} (hdata : KeysAscend Prod.fst data)
    (h : serialize C data = store.manager.policyValue admin policyName) :
    listed C policyName store admin = {k | k ∈ data.map Prod.fst} := by
  rw [listed, itemsHeld, ← h, keysOf_serialize hdata]

/-- A key that others have, and that a covered map drops, is in the others' map. -/
theorem Covered.dropped {store : UserStore} {current others after : MapString} {k : String}
    (h : Covered C policyName store admin after)
    (hmaps : Maps C policyName store admin current others) (hafter : KeysAscend Prod.fst after)
    (hothers : k ∈ heldByOthers (listed C policyName store) admin)
    (hcurrent : k ∈ current.map Prod.fst) (hdropped : k ∉ after.map Prod.fst) :
    k ∈ others.map Prod.fst := by
  rcases h with hsame | hcovered
  · have hk : k ∈ {k | k ∈ after.map Prod.fst} := by
      rw [← listed_of_text hafter hsame, hmaps.listed]
      exact hcurrent
    exact absurd hk hdropped
  · rcases hcovered k hothers with hall | hk
    · exact hmaps.others.everywhere k hothers hall
    · exact absurd hk hdropped

/-- What a stored map leaves of the admins' keys and of the combined ones. -/
theorem Stored.keys {store store' : UserStore} {current others after merged : MapString}
    (h : Readable C policyName store) (hmaps : Maps C policyName store admin current others)
    (hafter : KeysAscend Prod.fst after)
    (hmerged : serialize C after ≠ store.manager.policyValue admin policyName →
      KeysAscend Prod.fst merged ∧ ∀ k, k ∈ merged.map Prod.fst ↔
        k ∈ others.map Prod.fst ∨ k ∈ after.map Prod.fst)
    (hcovered : Covered C policyName store admin after)
    (hcombined : combinedKeys C policyName store = held (listed C policyName store))
    (hstored : Stored C policyName store store' admin after merged) :
    Readable C policyName store' ∧
      listed C policyName store' =
        Function.update (listed C policyName store) admin {k | k ∈ after.map Prod.fst} ∧
      combinedKeys C policyName store' = held (listed C policyName store') := by
  rcases hstored with ⟨hsame, rfl⟩ | ⟨hchanged, hsaved⟩
  · refine ⟨h, ?_, hcombined⟩
    rw [← listed_of_text hafter hsame, Function.update_eq_self]
  · obtain ⟨hascend, hmem⟩ := hmerged hchanged
    have hlisted : listed C policyName store' =
        Function.update (listed C policyName store) admin {k | k ∈ after.map Prod.fst} :=
      (itemsHeld_saved hsaved).trans (congrArg _ (keysOf_serialize hafter))
    refine ⟨h.saved hsaved (isText_serialize hafter) (isText_serialize hascend), hlisted, ?_⟩
    rw [combinedKeys, hsaved.value_combined, keysOf_serialize hascend, hlisted, held_update]
    refine Set.ext fun k => ?_
    refine (hmem k).trans ?_
    constructor
    · exact Or.imp_left (hmaps.others.held k)
    · rintro (hk | hk)
      · rcases hcovered with hsame | hcovered
        · exact absurd hsame hchanged
        · exact (hcovered k hk).imp_left (hmaps.others.everywhere k hk)
      · exact .inr hk

/-- The removal of an admin without a map does nothing, and else the others' map is the combined
one. -/
theorem removeAdmin_cases (hname : policyName ≠ "") (h : Readable C policyName s.store)
    (reply : Reply)
    (hs' : policyStep (plugin C order policyName onSetPolicy onAdminRemove) s
      (.removeAdmin admin ⟨.done, .done⟩ reply) = s') :
    s.store.manager.policyValue admin policyName = "" ∧ s' = s ∨
      ∃ current others otherText, Maps C policyName s.store admin current others ∧
        s.store.manager.policyValue admin policyName = serialize C current ∧
        deserialize C otherText = some others ∧
        s'.modules = (onAdminRemove s.modules reply (serialize C current) otherText).2 ∧
        Readable C policyName s'.store ∧
        listed C policyName s'.store = Function.update (listed C policyName s.store) admin ∅ ∧
        combinedKeys C policyName s'.store = {k | k ∈ others.map Prod.fst} := by
  obtain ⟨current, hascend, hown⟩ := h.text admin
  obtain ⟨others, hothers, htext⟩ := getOthersMergePolicyData_text order h admin
  rcases policyStep_removeAdmin_cases (plugin C order policyName onSetPolicy onAdminRemove) admin
    h.good hname rfl reply with ⟨hempty, hsame⟩ | ⟨hne, hmodules, hsaved⟩
  · exact .inl ⟨hempty, hs'.symm.trans hsame⟩
  · have hvalue : s.store.manager.policyValue admin policyName = serialize C current :=
      hown.resolve_left fun hnone => hne hnone.1
    rw [hs'] at hmodules hsaved
    refine .inr ⟨current, others, _, ⟨hascend, hown, hothers⟩, hvalue,
      (deserialize_text hothers.ascend htext).1, ?_, ?_, ?_, ?_⟩
    · rw [hmodules]
      show (onAdminRemove _ _ (s.store.manager.policyValue admin policyName) _).2 = _
      rw [hvalue]
      rfl
    · exact h.saved hsaved isText_empty ⟨others, hothers.ascend, htext⟩
    · exact (itemsHeld_saved hsaved).trans (congrArg _ keysOf_empty)
    · have hcombined := hsaved.value_combined
      exact (congrArg (keysOf C) hcombined).trans (keysOf_text hothers.ascend htext)

end Step

end MapStringPolicy

end Edm
