import Edm.Admin.PolicyName
import Edm.Plugin.ItemPolicy
import Edm.Plugin.PermissionManagedStateSerializer

/-! `SetPermissionManagedStatePlugin`: permissions of applications that an admin grants or denies in
the user's place.  The access token service keeps the state of each permission that it is given. -/

set_option autoImplicit false

namespace Edm

open Library

def POLICY_PERMISSION_MANAGED_STATE_POLICY : String := "permission_managed_state"

namespace ManagedState

def DEFAULT : Int32 := 1
def GRANTED : Int32 := 0
def DENIED : Int32 := -1

end ManagedState

namespace SetPermissionManagedStatePlugin

open PermissionManagedStateSerializer

inductive PermissionFlag where
  | fixedByAdminPolicy
  | adminPolicysCancel
  deriving DecidableEq

/-- What the access token service answers. -/
inductive AccessTokenRet where
  | ok
  | errParamInvalid
  | otherError
  deriving DecidableEq

/-- The state that the service keeps under each key. -/
abbrev States := String → Int32

/-- A cancelled policy leaves the default state. -/
def setPermissionStatusWithPolicy (answer : AccessTokenRet) (states : States) (tokenId : Int32)
    (permissionNames : List String) (managedState : Int32) (flag : PermissionFlag) : States :=
  match answer with
  | .ok => fun k =>
    if k ∈ permissionNames.map (appPermissionKey tokenId) then
      match flag with
      | .fixedByAdminPolicy => managedState
      | .adminPolicysCancel => ManagedState.DEFAULT
    else states k
  | _ => states

/-- The entries of `data` are inserted into the merged map, unless one is there. -/
def insertMerge : List PermissionManagedStateInfo → List PermissionManagedStateInfo →
    Option (List PermissionManagedStateInfo)
  | [], mergeData => some mergeData
  | info :: data, mergeData =>
    if hasKey key (key info) mergeData then none
    else if info.managedState != ManagedState.DEFAULT then
      insertMerge data (insertNew key info mergeData)
    else insertMerge data mergeData

/-- An entry of the request replaces the admin's entry, and one for the default state erases it. -/
def updateEntry (currentData : List PermissionManagedStateInfo) (info : PermissionManagedStateInfo) :
    List PermissionManagedStateInfo :=
  if hasKey key (key info) currentData then
    if info.managedState == ManagedState.DEFAULT then eraseKey key (key info) currentData
    else assign key info currentData
  else if info.managedState != ManagedState.DEFAULT then insertNew key info currentData
  else currentData

def updateCurrent (data currentData : List PermissionManagedStateInfo) :
    List PermissionManagedStateInfo := data.foldl updateEntry currentData

/-- The service is called once, with the last entry of the request. -/
def onSetPolicy (answer : AccessTokenRet) (states : States)
    (data currentData mergeData : List PermissionManagedStateInfo) :
    ErrCode × States × List PermissionManagedStateInfo × List PermissionManagedStateInfo :=
  match data.getLast? with
  | none => (EdmReturnErrCode.PARAMETER_VERIFICATION_FAILED, states, currentData, mergeData)
  | some info =>
    match insertMerge data mergeData with
    | none => (EdmReturnErrCode.CONFIGURATION_CONFLICT_FAILED, states, currentData, mergeData)
    | some mergeDataHandle =>
      let currentDataHandle := updateCurrent data currentData
      let (managedState, permissionFlagParam) :=
        if info.managedState == ManagedState.DEFAULT then
          (ManagedState.DENIED, PermissionFlag.adminPolicysCancel)
        else (info.managedState, PermissionFlag.fixedByAdminPolicy)
      match answer with
      | .ok =>
        (ERR_OK, setPermissionStatusWithPolicy answer states info.tokenId info.permissionNames
          managedState permissionFlagParam, currentDataHandle, mergeDataHandle)
      | .errParamInvalid =>
        (EdmReturnErrCode.PARAMETER_VERIFICATION_FAILED, states, currentData, mergeData)
      | .otherError => (EdmReturnErrCode.SYSTEM_ABNORMALLY, states, currentData, mergeData)

/-- The entries of the admin are cancelled one after the other, up to the first that fails.  The
answer depends on the key. -/
def onAdminRemove (answers : String → AccessTokenRet) :
    States → List PermissionManagedStateInfo → List PermissionManagedStateInfo → ErrCode × States
  | states, [], _ => (ERR_OK, states)
  | states, info :: data, mergeData =>
    match answers (key info) with
    | .ok =>
      onAdminRemove answers (setPermissionStatusWithPolicy .ok states info.tokenId
        [info.permissionName] ManagedState.DENIED .adminPolicysCancel) data mergeData
    | _ => (EdmReturnErrCode.SYSTEM_ABNORMALLY, states)

structure Request where
  parcel : Parcel
  answer : AccessTokenRet

variable (C : IntCJson) (order : HashOrder)

def plugin : Plugin States Request (String → AccessTokenRet) Empty where
  policyName := POLICY_PERMISSION_MANAGED_STATE_POLICY
  needSave := true
  getOthersMergePolicyData :=
    IPluginTemplate.getOthersMergePolicyData (serializer C) order
      POLICY_PERMISSION_MANAGED_STATE_POLICY
  onHandlePolicy _ states request policyData :=
    IPluginTemplate.handlePolicy (serializer C) (onSetPolicy request.answer) states
      (getPolicy request.parcel) policyData
  onAdminRemove states answers :=
    IPluginTemplate.adminRemove (serializer C) (onAdminRemove answers) states
  onPluginEvent _ event := nomatch event

abbrev Op := PolicyOp Request (String → AccessTokenRet)

section Run

variable (s : PluginState States)

/-- A user without policies, and permissions that no admin manages. -/
abbrev boot (userId : Int) : PluginState States :=
  PluginState.boot (fun _ => ManagedState.DEFAULT) userId

/-- The entries of the map that a text stands for. -/
def itemsOf (policy : String) : Set PermissionManagedStateInfo :=
  {x | x ∈ (deserialize C policy).getD []}

/-- The entries that an admin stores. -/
abbrev listed (admin : AdminName) : Set PermissionManagedStateInfo :=
  itemsHeld (itemsOf C) POLICY_PERMISSION_MANAGED_STATE_POLICY s.store admin

def combinedMap : List PermissionManagedStateInfo :=
  (deserialize C (s.store.manager.policyValue "" POLICY_PERMISSION_MANAGED_STATE_POLICY)).getD []

/-- The combined map has the entries of all admins, no two admins store different states under one
key, and the service keeps the state of each entry and the default state elsewhere. -/
structure FollowsUnion : Prop where
  combined : ∀ x, x ∈ combinedMap C s ↔ x ∈ held (listed C s)
  one_state : ∀ a b x y, x ∈ listed C s a → y ∈ listed C s b → key x = key y →
    x.managedState = y.managedState
  state_held : ∀ x, x ∈ held (listed C s) → s.modules (key x) = x.managedState
  state_free : ∀ k, (∀ x, x ∈ held (listed C s) → key x ≠ k) → s.modules k = ManagedState.DEFAULT

/-- The writes of an operation take effect, and it keeps the union.  A set that the service takes,
for keys that no other admin stores, is for all keys that the admin stores, or leaves the text of the
admin's map.  When an admin is removed, the service takes every entry. -/
def Keeps : Op → Prop
  | .update admin writes request =>
    writes = ⟨.done, .done⟩ ∧ ∀ data, getPolicy request.parcel = some data → data ≠ [] →
      request.answer = .ok →
      (∀ x, x ∈ data → ∀ y, y ∈ heldByOthers (listed C s) admin → key y ≠ key x) →
        (∀ y, y ∈ listed C s admin → ∃ x, x ∈ data ∧ key x = key y) ∨
        serialize C (updateCurrent data ((deserialize C (s.store.manager.policyValue admin
            POLICY_PERMISSION_MANAGED_STATE_POLICY)).getD [])) =
          s.store.manager.policyValue admin POLICY_PERMISSION_MANAGED_STATE_POLICY
  | .removeAdmin admin writes answers =>
    writes = ⟨.done, .done⟩ ∧ ∀ x, x ∈ listed C s admin → answers (key x) = .ok

end Run

/-! ### The maps after a set -/

section Maps

variable {data currentData mergeData mergeData' : List PermissionManagedStateInfo}
  {y info : PermissionManagedStateInfo}

/-- The maps of a request: all entries have the state, the token and the list of permissions of the
request. -/
structure OfParcel (data : List PermissionManagedStateInfo) (tokenId managedState : Int32)
    (permissionNames : List String) : Prop where
  ascend : KeysAscend key data
  entry : ∀ x, x ∈ data → x.tokenId = tokenId ∧ x.managedState = managedState ∧
    x.permissionNames = permissionNames
  keys : ∀ k, k ∈ data.map key ↔ k ∈ permissionNames.map (appPermissionKey tokenId)

theorem ofParcel {parcel : Parcel} (h : getPolicy parcel = some data) :
    ∃ tokenId permissionNames, OfParcel data tokenId parcel.managedState permissionNames := by
  unfold getPolicy at h
  obtain ⟨permissionNames, hnames, h⟩ := Option.bind_eq_some_iff.mp h
  obtain ⟨tokenId, htoken, h⟩ := Option.bind_eq_some_iff.mp h
  obtain rfl := (Option.some.inj h).symm
  refine ⟨tokenId, permissionNames, keysAscend_insertAll keysAscend_nil, fun x hx => ?_, fun k => ?_⟩
  · rcases mem_of_mem_insertAll hx with hx | hx
    · obtain ⟨permissionName, -, rfl⟩ := List.mem_map.mp hx
      exact ⟨rfl, rfl, rfl⟩
    · exact absurd hx List.not_mem_nil
  · rw [mem_keys_insertAll, List.map_map]
    exact or_iff_left List.not_mem_nil

theorem keysAscend_updateEntry (info : PermissionManagedStateInfo)
    (h : KeysAscend key currentData) :
    KeysAscend key (updateEntry currentData info) := by
  unfold updateEntry
  split
  · split
    · exact keysAscend_eraseKey h
    · exact keysAscend_assign h
  · split
    · exact keysAscend_insertNew h
    · exact h

theorem mem_updateEntry (h : KeysAscend key currentData) :
    y ∈ updateEntry currentData info ↔
      y ∈ currentData ∧ key y ≠ key info ∨ y = info ∧ info.managedState ≠ ManagedState.DEFAULT := by
  unfold updateEntry
  by_cases hkey : hasKey key (key info) currentData = true
  · rw [if_pos hkey]
    by_cases hdefault : (info.managedState == ManagedState.DEFAULT) = true
    · rw [if_pos hdefault, mem_eraseKey]
      have := beq_iff_eq.mp hdefault
      tauto
    · rw [if_neg hdefault, mem_assign h]
      have : info.managedState ≠ ManagedState.DEFAULT := fun heq => hdefault (beq_iff_eq.mpr heq)
      tauto
  · rw [if_neg hkey]
    have hnone : key info ∉ currentData.map key := fun hmem => hkey (hasKey_iff.mpr hmem)
    have hne : y ∈ currentData → key y ≠ key info := fun hy heq =>
      hnone (heq ▸ List.mem_map_of_mem hy)
    by_cases hdefault : (info.managedState != ManagedState.DEFAULT) = true
    · rw [if_pos hdefault, mem_insertNew h]
      have := bne_iff_ne.mp hdefault
      tauto
    · rw [if_neg hdefault]
      have : info.managedState = ManagedState.DEFAULT :=
        bne_eq_false_iff_eq.mp (Bool.eq_false_iff.mpr hdefault)
      tauto

theorem updateCurrent_spec (h : KeysAscend key currentData) (hdata : (data.map key).Nodup) :
    KeysAscend key (updateCurrent data currentData) ∧ ∀ y, y ∈ updateCurrent data currentData ↔
      y ∈ currentData ∧ key y ∉ data.map key ∨ y ∈ data ∧ y.managedState ≠ ManagedState.DEFAULT := by
  induction data generalizing currentData with
  | nil => exact ⟨h, fun y => by simp [updateCurrent]⟩
  | cons info data ih =>
    obtain ⟨hhead, htail⟩ := List.nodup_cons.mp hdata
    obtain ⟨hascend, hmem⟩ := ih (keysAscend_updateEntry info h) htail
    refine ⟨hascend, fun y => (hmem y).trans ?_⟩
    rw [mem_updateEntry h, List.map_cons, List.mem_cons, List.mem_cons]
    have hinfo : y = info → key y ∉ data.map key := fun heq => heq ▸ hhead
    constructor
    · rintro (⟨⟨hy, hne⟩ | ⟨rfl, hstate⟩, hnone⟩ | hy)
      · exact .inl ⟨hy, not_or.mpr ⟨hne, hnone⟩⟩
      · exact .inr ⟨.inl rfl, hstate⟩
      · exact .inr ⟨.inr hy.1, hy.2⟩
    · rintro (⟨hy, hnone⟩ | ⟨rfl | hy, hstate⟩)
      · exact .inl ⟨.inl ⟨hy, fun heq => hnone (.inl heq)⟩, fun hmem => hnone (.inr hmem)⟩
      · exact .inl ⟨.inr ⟨rfl, hstate⟩, hhead⟩
      · exact .inr ⟨hy, hstate⟩

theorem insertMerge_spec (h : KeysAscend key mergeData) (hdata : (data.map key).Nodup)
    (hmerge : insertMerge data mergeData = some mergeData') :
    KeysAscend key mergeData' ∧ (∀ k, k ∈ data.map key → k ∉ mergeData.map key) ∧
      ∀ y, y ∈ mergeData' ↔ y ∈ mergeData ∨ y ∈ data ∧ y.managedState ≠ ManagedState.DEFAULT := by
  induction data generalizing mergeData with
  | nil =>
    obtain rfl := Option.some.inj hmerge
    exact ⟨h, fun k hk => absurd hk List.not_mem_nil, fun y => by simp⟩
  | cons info data ih =>
    obtain ⟨hhead, htail⟩ := List.nodup_cons.mp hdata
    rw [insertMerge] at hmerge
    split at hmerge
    · cases hmerge
    rename_i hkey
    have hnone : key info ∉ mergeData.map key := fun hmem => hkey (hasKey_iff.mpr hmem)
    split at hmerge
    · rename_i hstate
      obtain ⟨hascend, hapart, hmem⟩ := ih (keysAscend_insertNew h) htail hmerge
      refine ⟨hascend, fun k hk => ?_, fun y => (hmem y).trans ?_⟩
      · rcases List.mem_cons.mp hk with rfl | hk
        · exact hnone
        · exact fun hmerged => hapart k hk (mem_keys_insertNew.mpr (.inr hmerged))
      · rw [mem_insertNew h, List.mem_cons]
        have hstate := bne_iff_ne.mp hstate
        constructor
        · rintro ((hy | ⟨rfl, -⟩) | ⟨hy, hne⟩)
          · exact .inl hy
          · exact .inr ⟨.inl rfl, hstate⟩
          · exact .inr ⟨.inr hy, hne⟩
        · rintro (hy | ⟨rfl | hy, hne⟩)
          · exact .inl (.inl hy)
          · exact .inl (.inr ⟨rfl, hnone⟩)
          · exact .inr ⟨hy, hne⟩
    · rename_i hstate
      obtain ⟨hascend, hapart, hmem⟩ := ih h htail hmerge
      refine ⟨hascend, fun k hk => ?_, fun y => (hmem y).trans ?_⟩
      · rcases List.mem_cons.mp hk with rfl | hk
        · exact hnone
        · exact hapart k hk
      · rw [List.mem_cons]
        have hstate : info.managedState = ManagedState.DEFAULT :=
          bne_eq_false_iff_eq.mp (Bool.eq_false_iff.mpr hstate)
        constructor
        · exact Or.imp_right fun hy => ⟨.inr hy.1, hy.2⟩
        · rintro (hy | ⟨rfl | hy, hne⟩)
          · exact .inl hy
          · exact absurd hstate hne
          · exact .inr ⟨hy, hne⟩

end Maps

/-! ### The texts -/

section Texts

variable {C : IntCJson}

/-- A text of a map. -/
def IsText (C : IntCJson) (policy : String) : Prop :=
  ∃ data : List PermissionManagedStateInfo, KeysAscend key data ∧ policy = serialize C data

theorem itemsOf_serialize {data : List PermissionManagedStateInfo} (h : KeysAscend key data) :
    itemsOf C (serialize C data) = {x | x ∈ data.map stored} := by
  rw [itemsOf, deserialize_serialize h]
  rfl

theorem itemsOf_empty : itemsOf C "" = ∅ := by
  rw [itemsOf, deserialize_empty]
  exact Set.eq_empty_iff_forall_notMem.mpr fun x => List.not_mem_nil

theorem isText_empty : IsText C "" := ⟨[], keysAscend_nil, rfl⟩

theorem deserializeNonempty_serialize {data : List PermissionManagedStateInfo}
    (h : KeysAscend key data) :
    IPluginTemplate.deserializeNonempty (serializer C) (serialize C data) =
      some (data.map stored) := by
  unfold IPluginTemplate.deserializeNonempty
  split
  · rename_i hempty
    by_cases hnil : data = []
    · rw [hnil]
      rfl
    · exact absurd hempty (serialize_ne_empty hnil)
  · exact deserialize_serialize h

/-- What is read of a text has been read before. -/
theorem stored_of_mem {data : List PermissionManagedStateInfo} {x : PermissionManagedStateInfo}
    (hx : x ∈ data.map stored) : stored x = x := by
  obtain ⟨info, -, rfl⟩ := List.mem_map.mp hx
  rfl

end Texts

/-! ### One operation -/

section Step

variable {C : IntCJson} {order : HashOrder} {s s' : PluginState States} {admin : AdminName}

theorem policyName_ne : POLICY_PERMISSION_MANAGED_STATE_POLICY ≠ "" := by decide

/-- What holds of the store in every run: the values are texts of maps, and no two admins store an
entry under one key. -/
structure Apart (C : IntCJson) (s : PluginState States) : Prop where
  texts : TextStore (IsText C) POLICY_PERMISSION_MANAGED_STATE_POLICY s.store
  apart : ∀ a b x y, x ∈ listed C s a → y ∈ listed C s b → key x = key y → a = b

/-- An admin's map. -/
theorem Apart.current (h : Apart C s) (admin : AdminName) :
    ∃ current : List PermissionManagedStateInfo, KeysAscend key current ∧
      s.store.manager.policyValue admin POLICY_PERMISSION_MANAGED_STATE_POLICY =
        serialize C current ∧ ∀ x, x ∈ current.map stored ↔ x ∈ listed C s admin := by
  obtain ⟨current, hascend, hvalue⟩ := h.texts.text admin
  refine ⟨current, hascend, hvalue, fun x => ?_⟩
  rw [listed, itemsHeld, hvalue, itemsOf_serialize hascend]
  exact Iff.rfl

/-- Entries of one key are the same entry. -/
theorem Apart.unique (h : Apart C s) {a b : AdminName} {x y : PermissionManagedStateInfo}
    (hx : x ∈ listed C s a) (hy : y ∈ listed C s b) (hkey : key x = key y) : x = y := by
  obtain rfl := h.apart a b x y hx hy hkey
  obtain ⟨current, hascend, -, hmem⟩ := h.current a
  exact List.inj_on_of_nodup_map (keysAscend_stored hascend).nodup ((hmem x).mpr hx)
    ((hmem y).mpr hy) hkey

theorem getOthersMergePolicyData_text (order : HashOrder) (h : Apart C s) (admin : AdminName) :
    ∃ others : List PermissionManagedStateInfo, KeysAscend key others ∧
      (∀ x, x ∈ others.map stored ↔ x ∈ heldByOthers (listed C s) admin) ∧
      IPluginTemplate.getOthersMergePolicyData (serializer C) order
        POLICY_PERMISSION_MANAGED_STATE_POLICY s.store.manager admin = serialize C others := by
  have hread : ∀ v, v ∈ othersValues order s.store.manager POLICY_PERMISSION_MANAGED_STATE_POLICY
      admin → (serializer C).deserialize v = some ((deserialize C v).getD []) := by
    intro v hv
    obtain ⟨-, other, -, rfl⟩ := (h.texts.good.mem_othersValues order admin).mp hv
    obtain ⟨data, hascend, hvalue, -⟩ := h.current other
    show deserialize C _ = _
    rw [hvalue, deserialize_serialize hascend]
    rfl
  have hothers := fun x : PermissionManagedStateInfo => h.texts.good.mem_heldByOthers
    (p := POLICY_PERMISSION_MANAGED_STATE_POLICY) (itemsOf_empty (C := C)) order admin (x := x)
  have hvalues : ∀ x, x ∈ ((othersValues order s.store.manager
      POLICY_PERMISSION_MANAGED_STATE_POLICY admin).map fun v =>
        (deserialize C v).getD []).flatten ↔ x ∈ heldByOthers (listed C s) admin := by
    intro x
    rw [hothers, List.mem_flatten]
    constructor
    · rintro ⟨list, hlist, hx⟩
      obtain ⟨v, hv, rfl⟩ := List.mem_map.mp hlist
      exact ⟨v, hv, hx⟩
    · rintro ⟨v, hv, hx⟩
      exact ⟨_, List.mem_map_of_mem hv, hx⟩
  have hstored : ∀ x, x ∈ heldByOthers (listed C s) admin → stored x = x := by
    rintro x ⟨other, -, hx⟩
    obtain ⟨data, -, -, hmem⟩ := h.current other
    exact stored_of_mem ((hmem x).mpr hx)
  rw [getOthersMergePolicyData_read (serializer C) h.texts.good order admin hread]
  by_cases hnil : othersValues order s.store.manager POLICY_PERMISSION_MANAGED_STATE_POLICY admin = []
  · refine ⟨[], keysAscend_nil, fun x => ?_, by rw [if_pos hnil]; rfl⟩
    rw [← hvalues, hnil]
    simp
  · rw [if_neg hnil]
    refine ⟨_, keysAscend_insertAll keysAscend_nil, fun x => ?_, rfl⟩
    have hmem : ∀ y, y ∈ mergePolicy ((othersValues order s.store.manager
        POLICY_PERMISSION_MANAGED_STATE_POLICY admin).map fun v => (deserialize C v).getD []) ↔
          y ∈ heldByOthers (listed C s) admin := by
      intro y
      rw [mergePolicy, mem_insertAll (P := fun y => y ∈ heldByOthers (listed C s) admin)
        keysAscend_nil ?_ (fun y => (hvalues y).mp) (fun y hy => absurd hy List.not_mem_nil),
        hvalues]
      · exact or_iff_left List.not_mem_nil
      · rintro y z ⟨a, -, hy⟩ ⟨b, -, hz⟩ hkey
        exact h.unique hy hz hkey
    constructor
    · intro hx
      obtain ⟨y, hy, rfl⟩ := List.mem_map.mp hx
      have hy := (hmem y).mp hy
      rwa [hstored y hy]
    · intro hx
      rw [← hstored x hx]
      exact List.mem_map_of_mem ((hmem x).mpr hx)

theorem combinedMap_of_text {data : List PermissionManagedStateInfo} (hascend : KeysAscend key data)
    (h : s.store.manager.policyValue "" POLICY_PERMISSION_MANAGED_STATE_POLICY = serialize C data) :
    combinedMap C s = data.map stored := by
  rw [combinedMap, h, deserialize_serialize hascend]
  rfl

theorem FollowsUnion.congr (h : FollowsUnion C s) (hmodules : s'.modules = s.modules)
    (hstore : s'.store = s.store) : FollowsUnion C s' := by
  obtain ⟨store, modules, subscribed⟩ := s
  obtain ⟨store', modules', subscribed'⟩ := s'
  obtain rfl : store' = store := hstore
  obtain rfl : modules' = modules := hmodules
  exact ⟨h.combined, h.one_state, h.state_held, h.state_free⟩

theorem Apart.congr (h : Apart C s) (hstore : s'.store = s.store) : Apart C s' := by
  obtain ⟨store, modules, subscribed⟩ := s
  obtain ⟨store', modules', subscribed'⟩ := s'
  obtain rfl : store' = store := hstore
  exact ⟨h.texts, h.apart⟩

/-- What the handler makes of the maps. -/
theorem onSetPolicy_cases (answer : AccessTokenRet) (states : States)
    (current : List PermissionManagedStateInfo) {tokenId managedState : Int32}
    {permissionNames : List String} {data others : List PermissionManagedStateInfo}
    (hdata : OfParcel data tokenId managedState permissionNames)
    (hothers : KeysAscend key others) :
    (∃ ret, failed ret = true ∧
        onSetPolicy answer states data current others = (ret, states, current, others)) ∨
      data ≠ [] ∧ answer = .ok ∧ ∃ merge states', KeysAscend key merge ∧
        (∀ k, k ∈ data.map key → k ∉ others.map key) ∧
        (∀ y, y ∈ merge ↔ y ∈ others ∨ y ∈ data ∧ y.managedState ≠ ManagedState.DEFAULT) ∧
        (∀ k, states' k = if k ∈ data.map key then managedState else states k) ∧
        onSetPolicy answer states data current others =
          (ERR_OK, states', updateCurrent data current, merge) := by
  unfold onSetPolicy
  cases hlast : data.getLast? with
  | none => exact .inl ⟨_, by decide, rfl⟩
  | some info =>
    dsimp only
    have hinfo : info ∈ data := List.mem_of_getLast? hlast
    cases hmerge : insertMerge data others with
    | none => exact .inl ⟨_, by decide, rfl⟩
    | some merge =>
      obtain ⟨hascend, hapart, hmem⟩ := insertMerge_spec hothers hdata.ascend.nodup hmerge
      dsimp only
      cases answer with
      | errParamInvalid => exact .inl ⟨_, by decide, rfl⟩
      | otherError => exact .inl ⟨_, by decide, rfl⟩
      | ok =>
        refine .inr ⟨List.ne_nil_of_mem hinfo, rfl, merge, _, hascend, hapart, hmem, fun k => ?_, rfl⟩
        obtain ⟨htoken, hstate, hnames⟩ := hdata.entry info hinfo
        unfold setPermissionStatusWithPolicy
        dsimp only
        rw [htoken, hstate, hnames]
        by_cases hk : k ∈ data.map key
        · rw [if_pos ((hdata.keys k).mp hk), if_pos hk]
          -- A cancelled policy leaves the default state, which is the requested one.
          by_cases hdefault : managedState = ManagedState.DEFAULT
          · rw [if_pos (beq_iff_eq.mpr hdefault), hdefault]
          · rw [if_neg fun heq => hdefault (beq_iff_eq.mp heq)]
        · rw [if_neg fun hmem => hk ((hdata.keys k).mpr hmem), if_neg hk]

/-- The entries of an admin after a set: those under other keys, and the requested ones, if they are
not for the default state. -/
def afterSet (own : Set PermissionManagedStateInfo) (data : List PermissionManagedStateInfo) :
    Set PermissionManagedStateInfo :=
  {x | x ∈ own ∧ key x ∉ data.map key ∨
    ∃ y, y ∈ data ∧ y.managedState ≠ ManagedState.DEFAULT ∧ stored y = x}

theorem key_mem_of_afterSet {own : Set PermissionManagedStateInfo}
    {data : List PermissionManagedStateInfo} {x : PermissionManagedStateInfo}
    (hx : x ∈ afterSet own data) : x ∈ own ∨ key x ∈ data.map key := by
  rcases hx with ⟨hx, -⟩ | ⟨y, hy, -, rfl⟩
  · exact .inl hx
  · right
    rw [key_stored]
    exact List.mem_map_of_mem hy

/-- What the handler makes of the admin's map, as it is read back. -/
theorem mem_stored_updateCurrent {current data : List PermissionManagedStateInfo}
    {own : Set PermissionManagedStateInfo} (hascend : KeysAscend key current)
    (hdata : (data.map key).Nodup) (hown : ∀ x, x ∈ current.map stored ↔ x ∈ own)
    (x : PermissionManagedStateInfo) :
    x ∈ (updateCurrent data (current.map stored)).map stored ↔ x ∈ afterSet own data := by
  have hmem := (updateCurrent_spec (keysAscend_stored hascend) hdata).2
  constructor
  · intro hx
    obtain ⟨y, hy, rfl⟩ := List.mem_map.mp hx
    rcases (hmem y).mp hy with ⟨hy, hnone⟩ | ⟨hy, hstate⟩
    · rw [stored_of_mem hy]
      exact .inl ⟨(hown y).mp hy, hnone⟩
    · exact .inr ⟨y, hy, hstate, rfl⟩
  · rintro (⟨hx, hnone⟩ | ⟨y, hy, hstate, rfl⟩)
    · have hx := (hown x).mpr hx
      rw [← stored_of_mem hx]
      exact List.mem_map_of_mem ((hmem x).mpr (.inl ⟨hx, hnone⟩))
    · exact List.mem_map_of_mem ((hmem y).mpr (.inr ⟨hy, hstate⟩))

section Set

variable {data : List PermissionManagedStateInfo} {tokenId managedState : Int32}
  {permissionNames : List String}

/-- The admins' keys stay apart. -/
theorem apart_set (h : Apart C s)
    (hfree : ∀ y, y ∈ heldByOthers (listed C s) admin → key y ∉ data.map key)
    (hlisted : listed C s' = Function.update (listed C s) admin (afterSet (listed C s admin) data)) :
    ∀ a b x y, x ∈ listed C s' a → y ∈ listed C s' b → key x = key y → a = b := by
  have hside : ∀ b x y, b ≠ admin → x ∈ listed C s' admin → y ∈ listed C s' b → key x ≠ key y := by
    intro b x y hb hx hy hkey
    rw [hlisted, Function.update_self] at hx
    rw [hlisted, Function.update_of_ne hb] at hy
    rcases key_mem_of_afterSet hx with hown | hrequested
    · exact hb (h.apart admin b x y hown hy hkey).symm
    · exact hfree y ⟨b, hb, hy⟩ (hkey ▸ hrequested)
  intro a b x y hx hy hkey
  by_cases ha : a = admin <;> by_cases hb : b = admin
  · rw [ha, hb]
  · subst ha
    exact absurd hkey (hside b x y hb hx hy)
  · subst hb
    exact absurd hkey.symm (hside a y x ha hy hx)
  · rw [hlisted, Function.update_of_ne ha] at hx
    rw [hlisted, Function.update_of_ne hb] at hy
    exact h.apart a b x y hx hy hkey

/-- The service keeps the states of the entries after a set. -/
theorem states_set (hunion : FollowsUnion C s)
    (hdata : OfParcel data tokenId managedState permissionNames)
    (hfree : ∀ y, y ∈ heldByOthers (listed C s) admin → key y ∉ data.map key)
    (hlisted : listed C s' = Function.update (listed C s) admin (afterSet (listed C s admin) data))
    (hstates : ∀ k, s'.modules k = if k ∈ data.map key then managedState else s.modules k) :
    (∀ x, x ∈ held (listed C s') → s'.modules (key x) = x.managedState) ∧
      ∀ k, (∀ x, x ∈ held (listed C s') → key x ≠ k) → s'.modules k = ManagedState.DEFAULT := by
  have hheld : ∀ x, x ∈ held (listed C s') ↔
      x ∈ heldByOthers (listed C s) admin ∨ x ∈ afterSet (listed C s admin) data := by
    intro x
    rw [hlisted, held_update]
    exact Iff.rfl
  have hbefore : ∀ x, x ∈ held (listed C s) ↔
      x ∈ heldByOthers (listed C s) admin ∨ x ∈ listed C s admin := by
    intro x
    rw [held_eq _ admin]
    exact Iff.rfl
  refine ⟨fun x hx => ?_, fun k hk => ?_⟩
  · rw [hstates]
    rcases (hheld x).mp hx with hx | ⟨hx, hnone⟩ | ⟨y, hy, -, rfl⟩
    · rw [if_neg (hfree x hx)]
      exact hunion.state_held x ((hbefore x).mpr (.inl hx))
    · rw [if_neg hnone]
      exact hunion.state_held x ((hbefore x).mpr (.inr hx))
    · rw [key_stored, if_pos (List.mem_map_of_mem hy), managedState_stored, (hdata.entry y hy).2.1]
  · rw [hstates]
    by_cases hrequested : k ∈ data.map key
    · -- A state other than the default one would be stored under the key.
      rw [if_pos hrequested]
      by_contra hstate
      obtain ⟨y, hy, rfl⟩ := List.mem_map.mp hrequested
      refine hk (stored y) ((hheld _).mpr (.inr (.inr ⟨y, hy, ?_, rfl⟩))) rfl
      rw [(hdata.entry y hy).2.1]
      exact hstate
    · rw [if_neg hrequested]
      refine hunion.state_free k fun x hx hkey => ?_
      rcases (hbefore x).mp hx with hx | hx
      · exact hk x ((hheld x).mpr (.inl hx)) hkey
      · exact hk x ((hheld x).mpr (.inr (.inl ⟨hx, hkey ▸ hrequested⟩))) hkey

/-- The union is followed after a set whose combined map is right. -/
theorem followsUnion_set (h : Apart C s) (hunion : FollowsUnion C s)
    (hdata : OfParcel data tokenId managedState permissionNames)
    (hfree : ∀ y, y ∈ heldByOthers (listed C s) admin → key y ∉ data.map key)
    (hlisted : listed C s' = Function.update (listed C s) admin (afterSet (listed C s admin) data))
    (hstates : ∀ k, s'.modules k = if k ∈ data.map key then managedState else s.modules k)
    (htexts : TextStore (IsText C) POLICY_PERMISSION_MANAGED_STATE_POLICY s'.store)
    (hcombined : ∀ x, x ∈ combinedMap C s' ↔ x ∈ held (listed C s')) :
    Apart C s' ∧ FollowsUnion C s' := by
  have hapart : Apart C s' := ⟨htexts, apart_set h hfree hlisted⟩
  obtain ⟨hheld, hnone⟩ := states_set hunion hdata hfree hlisted hstates
  refine ⟨hapart, hcombined, fun a b x y hx hy hkey => ?_, hheld, hnone⟩
  rw [hapart.unique hx hy hkey]

end Set

theorem step_update (h : Apart C s) (hunion : FollowsUnion C s) {request : Request}
    (hkeeps : Keeps C s (.update admin ⟨.done, .done⟩ request)) :
    Apart C (policyStep (plugin C order) s (.update admin ⟨.done, .done⟩ request)) ∧
      FollowsUnion C (policyStep (plugin C order) s (.update admin ⟨.done, .done⟩ request)) := by
  obtain ⟨s', hs'⟩ : ∃ s', policyStep (plugin C order) s (.update admin ⟨.done, .done⟩ request) = s' :=
    ⟨_, rfl⟩
  rw [hs']
  obtain ⟨parcelState, hparcelState⟩ : ∃ state, request.parcel.managedState = state := ⟨_, rfl⟩
  obtain ⟨current, hcurrent, hvalue, hown⟩ := h.current admin
  obtain ⟨others, hothers, hmem, htext⟩ := getOthersMergePolicyData_text order h admin
  have hpolicyData : PluginManager.handlePolicyData (plugin C order) s admin =
      ⟨serialize C current, serialize C others, false⟩ := by
    rw [PluginManager.handlePolicyData, ← htext, ← hvalue]
    rfl
  have hfailed : ∀ ret, failed ret = true → (plugin C order).onHandlePolicy s.store.manager s.modules
      request (PluginManager.handlePolicyData (plugin C order) s admin) =
        (ret, s.modules, PluginManager.handlePolicyData (plugin C order) s admin) →
      Apart C s' ∧ FollowsUnion C s' := by
    intro ret hret hcall
    obtain ⟨hmodules, hstore⟩ :=
      policyStep_update_cases (plugin C order) admin h.texts.good policyName_ne hcall
    rw [hs'] at hmodules hstore
    rcases hstore with ⟨-, hstore⟩ | ⟨hok, -, -⟩
    · exact ⟨h.congr hstore, hunion.congr hmodules hstore⟩
    · rw [hret] at hok
      cases hok
  have hcall : (plugin C order).onHandlePolicy s.store.manager s.modules request
      (PluginManager.handlePolicyData (plugin C order) s admin) =
        IPluginTemplate.handlePolicy (serializer C) (onSetPolicy request.answer) s.modules
          (getPolicy request.parcel) ⟨serialize C current, serialize C others, false⟩ := by
    rw [hpolicyData]
    rfl
  cases hparcel : getPolicy request.parcel with
  | none =>
    refine hfailed ERR_EDM_OPERATE_PARCEL (by decide) ?_
    rw [hcall, hparcel, hpolicyData]
    rfl
  | some data =>
    obtain ⟨tokenId, permissionNames, hdata⟩ := ofParcel hparcel
    rw [hparcelState] at hdata
    rw [hparcel] at hcall
    unfold IPluginTemplate.handlePolicy at hcall
    simp only [deserializeNonempty_serialize hcurrent, deserializeNonempty_serialize hothers] at hcall
    rcases onSetPolicy_cases request.answer s.modules (current.map stored) hdata
        (keysAscend_stored hothers) with
      ⟨ret, hret, hset⟩ | ⟨hne, hanswer, merge, states, hascend, hapart, hmemMerge, hstates, hset⟩
    · refine hfailed ret hret ?_
      have hne : (ret != ERR_OK) = true := hret
      rw [hcall, hset, hpolicyData]
      dsimp only
      rw [if_pos hne]
    rw [hset] at hcall
    have hfree : ∀ y, y ∈ heldByOthers (listed C s) admin → key y ∉ data.map key := by
      intro y hy hkey
      exact hapart (key y) hkey (List.mem_map_of_mem ((hmem y).mpr hy))
    have hupdated := updateCurrent_spec (keysAscend_stored hcurrent) hdata.ascend.nodup
    have hafter := mem_stored_updateCurrent hcurrent hdata.ascend.nodup hown
    obtain ⟨hmodules, hstore⟩ :=
      policyStep_update_cases (plugin C order) admin h.texts.good policyName_ne hcall
    rw [hs'] at hmodules hstore
    -- The entries that the admin stores under other keys are not in the new combined map.
    have hrest := hkeeps.2 data hparcel hne hanswer fun x hx y hy heq =>
      hfree y hy (heq ▸ List.mem_map_of_mem hx)
    have hstates' : ∀ k, s'.modules k = if k ∈ data.map key then parcelState else s.modules k := by
      rw [hmodules]
      exact hstates
    rcases hstore with ⟨hok | hchanged, hstore⟩ | ⟨-, hchanged, hsaved⟩
    · cases hok
    · -- The text stays, and so the admin stores the same entries.
      have htext : serialize C current = serialize C (updateCurrent data (current.map stored)) :=
        bne_eq_false_iff_eq.mp hchanged
      have hitems := congrArg (itemsOf C) htext
      rw [itemsOf_serialize hcurrent, itemsOf_serialize hupdated.1] at hitems
      have hsame : listed C s' = listed C s := congrArg (itemsHeld _ _) hstore
      have hlisted : listed C s' =
          Function.update (listed C s) admin (afterSet (listed C s admin) data) := by
        have hitemsAfter : afterSet (listed C s admin) data = listed C s admin := by
          refine Set.ext fun x => ?_
          rw [← hafter x, ← hown x]
          exact (Set.ext_iff.mp hitems x).symm
        rw [hitemsAfter, Function.update_eq_self]
        exact hsame
      refine followsUnion_set h hunion hdata hfree hlisted hstates' ?_ fun x => ?_
      · rw [hstore]
        exact h.texts
      · rw [hsame, combinedMap, hstore]
        exact hunion.combined x
    · have hlisted : listed C s' =
          Function.update (listed C s) admin (afterSet (listed C s admin) data) := by
        refine (itemsHeld_saved hsaved).trans (congrArg _ (Set.ext fun x => ?_))
        rw [← hafter x]
        exact Set.ext_iff.mp (itemsOf_serialize hupdated.1) x
      refine followsUnion_set h hunion hdata hfree hlisted hstates' ?_ fun x => ?_
      · exact h.texts.saved hsaved ⟨_, hupdated.1, rfl⟩ ⟨_, hascend, rfl⟩
      · rcases hrest with hcovered | htext
        · rw [combinedMap_of_text hascend hsaved.value_combined, hlisted, held_update]
          constructor
          · intro hx
            obtain ⟨y, hy, rfl⟩ := List.mem_map.mp hx
            rcases (hmemMerge y).mp hy with hy | ⟨hy, hstate⟩
            · rw [stored_of_mem hy]
              exact .inl ((hmem y).mp hy)
            · exact .inr (.inr ⟨y, hy, hstate, rfl⟩)
          · rintro (hx | ⟨hx, hnone⟩ | ⟨y, hy, hstate, rfl⟩)
            · have hx := (hmem x).mpr hx
              rw [← stored_of_mem hx]
              exact List.mem_map_of_mem ((hmemMerge x).mpr (.inl hx))
            · obtain ⟨y, hy, hkey⟩ := hcovered x hx
              exact absurd (hkey ▸ List.mem_map_of_mem hy) hnone
            · exact List.mem_map_of_mem ((hmemMerge y).mpr (.inr ⟨hy, hstate⟩))
        · -- The text would have stayed.
          rw [hvalue, deserialize_serialize hcurrent] at htext
          exact absurd htext.symm (bne_iff_ne.mp hchanged)

/-- A service that takes every entry keeps the default state for each of them. -/
theorem onAdminRemove_ok {answers : String → AccessTokenRet} {states : States}
    {data mergeData : List PermissionManagedStateInfo}
    (h : ∀ x, x ∈ data → answers (key x) = .ok) (k : String) :
    (onAdminRemove answers states data mergeData).2 k =
      if k ∈ data.map key then ManagedState.DEFAULT else states k := by
  induction data generalizing states with
  | nil => rw [onAdminRemove, List.map_nil, if_neg List.not_mem_nil]
  | cons info data ih =>
    rw [onAdminRemove, h info List.mem_cons_self]
    dsimp only
    rw [ih fun x hx => h x (List.mem_cons_of_mem info hx), List.map_cons]
    by_cases hk : k ∈ data.map key
    · rw [if_pos hk, if_pos (List.mem_cons_of_mem _ hk)]
    · rw [if_neg hk, setPermissionStatusWithPolicy, List.map_singleton]
      by_cases hinfo : k = key info
      · subst hinfo
        rw [if_pos List.mem_cons_self]
        exact if_pos List.mem_cons_self
      · rw [if_neg fun hmem => (List.mem_cons.mp hmem).elim hinfo hk]
        exact if_neg fun hmem => hinfo (List.mem_singleton.mp hmem)

theorem step_removeAdmin (h : Apart C s) (hunion : FollowsUnion C s)
    (answers : String → AccessTokenRet)
    (hkeeps : ∀ x, x ∈ listed C s admin → answers (key x) = .ok) :
    Apart C (policyStep (plugin C order) s (.removeAdmin admin ⟨.done, .done⟩ answers)) ∧
      FollowsUnion C (policyStep (plugin C order) s (.removeAdmin admin ⟨.done, .done⟩ answers)) := by
  obtain ⟨s', hs'⟩ : ∃ s',
    policyStep (plugin C order) s (.removeAdmin admin ⟨.done, .done⟩ answers) = s' := ⟨_, rfl⟩
  rw [hs']
  obtain ⟨current, hcurrent, hvalue, hown⟩ := h.current admin
  obtain ⟨others, hothers, hmem, htext⟩ := getOthersMergePolicyData_text order h admin
  have htext : (plugin C order).getOthersMergePolicyData s.store.manager admin =
      serialize C others := htext
  have hcases := policyStep_removeAdmin_cases (plugin C order) admin h.texts.good policyName_ne rfl
    answers
  rw [hs', htext] at hcases
  rcases hcases with ⟨-, rfl⟩ | ⟨-, hmodules, hsaved⟩
  · exact ⟨h, hunion⟩
  have hlisted : listed C s' = Function.update (listed C s) admin ∅ :=
    (itemsHeld_saved hsaved).trans (congrArg _ itemsOf_empty)
  have hheld : ∀ x, x ∈ held (listed C s') ↔ x ∈ heldByOthers (listed C s) admin := by
    intro x
    rw [hlisted, held_update, Set.union_empty]
  have hbefore : ∀ x, x ∈ held (listed C s) ↔
      x ∈ heldByOthers (listed C s) admin ∨ x ∈ listed C s admin := by
    intro x
    rw [held_eq _ admin]
    exact Iff.rfl
  have hother : ∀ a x, x ∈ listed C s' a → a ≠ admin ∧ x ∈ listed C s a := by
    intro a x hx
    rw [hlisted] at hx
    by_cases ha : a = admin
    · rw [ha, Function.update_self] at hx
      exact absurd hx (Set.notMem_empty x)
    · rw [Function.update_of_ne ha] at hx
      exact ⟨ha, hx⟩
  have hapart : Apart C s' := by
    refine ⟨h.texts.saved hsaved isText_empty ⟨others, hothers, rfl⟩, fun a b x y hx hy hkey => ?_⟩
    exact h.apart a b x y (hother a x hx).2 (hother b y hy).2 hkey
  have hstates : ∀ k, s'.modules k =
      if k ∈ (current.map stored).map key then ManagedState.DEFAULT else s.modules k := by
    intro k
    have hcall : s'.modules =
        (onAdminRemove answers s.modules (current.map stored) (others.map stored)).2 := by
      rw [hmodules]
      show (IPluginTemplate.adminRemove (serializer C) (onAdminRemove answers) s.modules
        (s.store.manager.policyValue admin POLICY_PERMISSION_MANAGED_STATE_POLICY) _).2 = _
      rw [hvalue]
      unfold IPluginTemplate.adminRemove
      simp only [show (serializer C).deserialize = deserialize C from rfl,
        deserialize_serialize hcurrent, deserialize_serialize hothers]
    rw [hcall]
    exact onAdminRemove_ok (fun x hx => hkeeps x ((hown x).mp hx)) k
  refine ⟨hapart, fun x => ?_, fun a b x y hx hy hkey => ?_, fun x hx => ?_, fun k hk => ?_⟩
  · rw [combinedMap_of_text hothers hsaved.value_combined, hheld]
    exact hmem x
  · rw [hapart.unique hx hy hkey]
  · -- The entry is another admin's, and so its key is not one of the removed.
    have hx := (hheld x).mp hx
    rw [hstates, if_neg]
    · exact hunion.state_held x ((hbefore x).mpr (.inl hx))
    · intro hkey
      obtain ⟨y, hy, hkey⟩ := List.mem_map.mp hkey
      obtain ⟨b, hb, hx⟩ := hx
      exact hb (h.apart b admin x y hx ((hown y).mp hy) hkey.symm)
  · rw [hstates]
    by_cases hkey : k ∈ (current.map stored).map key
    · rw [if_pos hkey]
    · rw [if_neg hkey]
      refine hunion.state_free k fun x hx hxk => ?_
      rcases (hbefore x).mp hx with hx | hx
      · exact hk x ((hheld x).mpr hx) hxk
      · exact hkey (hxk ▸ List.mem_map_of_mem ((hown x).mpr hx))

theorem step_keeps (h : Apart C s) (hunion : FollowsUnion C s) (op : Op) (hkeeps : Keeps C s op) :
    Apart C (policyStep (plugin C order) s op) ∧
      FollowsUnion C (policyStep (plugin C order) s op) := by
  cases op with
  | update admin writes request =>
    obtain ⟨rfl, hset⟩ := hkeeps
    exact step_update h hunion ⟨rfl, hset⟩
  | removeAdmin admin writes answers =>
    obtain ⟨rfl, hremove⟩ := hkeeps
    exact step_removeAdmin h hunion answers hremove

theorem followsUnion_boot (userId : Int) : Apart C (boot userId) ∧ FollowsUnion C (boot userId) := by
  have hlisted : ∀ a, listed C (boot userId) a = ∅ := fun a => itemsHeld_new itemsOf_empty userId a
  have hnone : ∀ a x, x ∉ listed C (boot userId) a := fun a x hx =>
    Set.notMem_empty x (hlisted a ▸ hx)
  have hheld : ∀ x, x ∉ held (listed C (boot userId)) := fun x ⟨a, hx⟩ => hnone a x hx
  refine ⟨⟨textStore_new isText_empty userId, fun a b x y hx => absurd hx (hnone a x)⟩, fun x => ?_,
    fun a b x y hx => absurd hx (hnone a x), fun x hx => absurd hx (hheld x), fun k _ => rfl⟩
  refine iff_of_false ?_ (hheld x)
  have hvalue : (boot userId).store.manager.policyValue ""
      POLICY_PERMISSION_MANAGED_STATE_POLICY = "" := policyValue_new userId _ _
  rw [combinedMap, hvalue, deserialize_empty]
  exact List.not_mem_nil

end Step

/-! ### Runs -/

/-- In a run whose operations all keep the union, the combined map and the states of the service
follow the admins' maps throughout. -/
theorem permissionStates_followUnion (C : IntCJson) (order : HashOrder) (userId : Int) (ops : List Op)
    (h : Each (policyStep (plugin C order)) (Keeps C) (boot userId) ops) :
    Always (policyStep (plugin C order)) (FollowsUnion C) (boot userId) ops := by
  have hrun : Always (policyStep (plugin C order)) (fun s => Apart C s ∧ FollowsUnion C s)
      (boot userId) ops := by
    refine always_of_each (fun s op hs hkeeps => ?_) ?_ h
    · exact step_keeps hs.1 hs.2 op hkeeps
    · exact followsUnion_boot userId
  exact hrun.mono fun _ hs => hs.2

namespace EarlierEntry

def request (permissionName : String) : Request :=
  ⟨⟨"app", 100, 0, some [permissionName], ManagedState.DENIED, some 1⟩, .ok⟩

def denied (permissionName : String) : PermissionManagedStateInfo :=
  ⟨"app", permissionName, 100, 1, 0, ManagedState.DENIED, []⟩

/-- An admin denies a permission and is removed. -/
theorem permissionStates_followUnion_removed :
    Always (policyStep (plugin .standard .evaluated)) (FollowsUnion .standard) (boot 100)
      [.update firstAdmin ⟨.done, .done⟩ (request "camera"),
        .removeAdmin firstAdmin ⟨.done, .done⟩ fun _ => .ok] := by
  refine permissionStates_followUnion .standard .evaluated 100 _
    ⟨⟨rfl, fun data _ _ _ _ => .inl fun y hy => ?_⟩, ⟨rfl, fun _ _ => rfl⟩, trivial⟩
  have hnone : listed .standard (boot 100) firstAdmin = ∅ :=
    itemsHeld_new itemsOf_empty 100 firstAdmin
  rw [hnone] at hy
  exact absurd hy (Set.notMem_empty y)

/-- An admin denies one permission, and then another. -/
def ops : List Op :=
  [.update firstAdmin ⟨.done, .done⟩ (request "camera"),
    .update firstAdmin ⟨.done, .done⟩ (request "location")]

abbrev final : PluginState States :=
  run (policyStep (plugin .standard .evaluated)) (boot 100) ops

theorem listed_camera : denied "camera" ∈ listed .standard final firstAdmin := by
  show denied "camera" ∈ (deserialize .standard _).getD []
  decide +kernel

/-- The admin's first entry is not in the combined map. -/
theorem earlier_entry_not_combined :
    ¬ ∀ (C : IntCJson) (order : HashOrder) (userId : Int) (ops : List Op),
      Always (policyStep (plugin C order)) (FollowsUnion C) (boot userId) ops := by
  intro h
  have hlast : FollowsUnion .standard final :=
    always_iff_prefix.mp (h .standard .evaluated 100 ops) ops List.prefix_rfl
  have hcombined : denied "camera" ∉ combinedMap .standard final := by decide +kernel
  exact hcombined ((hlast.combined _).mpr ⟨firstAdmin, listed_camera⟩)

end EarlierEntry

end SetPermissionManagedStatePlugin

end Edm
