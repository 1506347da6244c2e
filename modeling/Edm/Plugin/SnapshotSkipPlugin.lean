import Edm.Admin.PolicyName
import Edm.Library.Run
import Edm.Plugin.ArrayStringItems

/-! `SnapshotSkipPlugin`: the bundles of a user that snapshots leave out.  The window manager is sent
the whole list after each request, and again when it starts.  `InitPlugin` sets no listener for the
removal of an admin, so that the window manager is not told of it. -/

set_option autoImplicit false

namespace Edm

open Library

def DISALLOW_LIST_FOR_ACCOUNT_MAX_SIZE : Nat := 1000

namespace SnapshotSkipPlugin

open ArrayStringSerializer PolicyName

/-- The window manager: its remote object, the proxy made of it, and the code of a call. -/
structure WindowManager where
  remoteObject : Bool
  proxy : Bool
  code : ErrCode

/-- The window manager takes what it is sent. -/
def WindowManager.Accepts (answer : WindowManager) : Prop :=
  answer.remoteObject = true ∧ answer.proxy = true ∧ failed answer.code = false

/-- The code, and the list that the window manager has for the user. -/
def setSnapshotSkipByUserIdAndBundleNameList (answer : WindowManager)
    (skipped mergeData : List String) : ErrCode × List String :=
  if !answer.remoteObject then (EdmReturnErrCode.SYSTEM_ABNORMALLY, skipped)
  else if !answer.proxy then (EdmReturnErrCode.SYSTEM_ABNORMALLY, skipped)
  else if failed answer.code then (answer.code, skipped)
  else (answer.code, mergeData)

def onSetPolicy (answer : WindowManager) (skipped data currentData mergeData : List String) :
    ErrCode × List String × List String × List String :=
  if data.isEmpty then (ERR_OK, skipped, currentData, mergeData)
  else if data.length > DISALLOW_LIST_FOR_ACCOUNT_MAX_SIZE then
    (EdmReturnErrCode.PARAM_ERROR, skipped, currentData, mergeData)
  else
    let afterHandle := setUnionPolicyData currentData data
    let afterMerge := setUnionPolicyData mergeData afterHandle
    if afterMerge.length > DISALLOW_LIST_FOR_ACCOUNT_MAX_SIZE then
      (EdmReturnErrCode.PARAM_ERROR, skipped, currentData, mergeData)
    else
      let (ret, skipped) := setSnapshotSkipByUserIdAndBundleNameList answer skipped afterMerge
      if failed ret then (EdmReturnErrCode.SYSTEM_ABNORMALLY, skipped, currentData, mergeData)
      else (ERR_OK, skipped, afterHandle, afterMerge)

/-- The merged list is made with the list that the admin had. -/
def onRemovePolicy (answer : WindowManager) (skipped data currentData mergeData : List String) :
    ErrCode × List String × List String × List String :=
  if data.isEmpty then (ERR_OK, skipped, currentData, mergeData)
  else if data.length > DISALLOW_LIST_FOR_ACCOUNT_MAX_SIZE then
    (EdmReturnErrCode.PARAM_ERROR, skipped, currentData, mergeData)
  else
    let afterHandle := setDifferencePolicyData data currentData
    let afterMerge := setUnionPolicyData mergeData currentData
    let (ret, skipped) := setSnapshotSkipByUserIdAndBundleNameList answer skipped afterMerge
    if failed ret then (EdmReturnErrCode.SYSTEM_ABNORMALLY, skipped, currentData, mergeData)
    else (ERR_OK, skipped, afterHandle, afterMerge)

/-- A request, with the answer of the window manager.  One without data cannot be read. -/
inductive Request where
  | set (data : Option (List String)) (answer : WindowManager)
  | remove (data : Option (List String)) (answer : WindowManager)

/-- The plugin as its listeners make it. -/
def plugin (C : CJson) (order : HashOrder) : Plugin (List String) Request Unit Empty where
  policyName := POLICY_SNAPSHOT_SKIP
  needSave := true
  getOthersMergePolicyData :=
    IPluginTemplate.getOthersMergePolicyData (serializer C) order POLICY_SNAPSHOT_SKIP
  onHandlePolicy _ skipped request policyData :=
    match request with
    | .set data answer =>
      IPluginTemplate.handlePolicy (serializer C) (onSetPolicy answer) skipped
        (data.map getPolicy) policyData
    | .remove data answer =>
      IPluginTemplate.handlePolicy (serializer C) (onRemovePolicy answer) skipped
        (data.map getPolicy) policyData
  onAdminRemove skipped _ _ _ := (ERR_OK, skipped)
  onPluginEvent _ event := nomatch event

/-- The list of the user that the window manager has after it started.  Nothing is sent where no
user has a list. -/
def onOtherServiceStart (C : CJson) (answer : WindowManager) (m : UserPolicyManager) :
    List String :=
  let vecData := (deserialize C (m.policyValue "" POLICY_SNAPSHOT_SKIP)).getD []
  if vecData.isEmpty then []
  else if !answer.remoteObject then []
  else if !answer.proxy then []
  else if failed answer.code then []
  else vecData

/-- What happens to the policy of a user: an operation on it, or a start of the window manager. -/
inductive Op where
  | policy (op : PolicyOp Request Unit)
  | windowManagerStart (answer : WindowManager)

section Run

variable (C : CJson) (order : HashOrder)

def step (s : PluginState (List String)) : Op → PluginState (List String)
  | .policy op => policyStep (plugin C order) s op
  | .windowManagerStart answer =>
    { s with modules := onOtherServiceStart C answer s.store.manager }

/-- A user without policies, of whom the window manager knows nothing. -/
abbrev boot (userId : Int) : PluginState (List String) := PluginState.boot [] userId

variable (s : PluginState (List String))

/-- The bundles that an admin lists. -/
abbrev listed (admin : AdminName) : Set String :=
  itemsHeld (itemsOf C) POLICY_SNAPSHOT_SKIP s.store admin

def combinedList : List String :=
  (deserialize C (s.store.manager.policyValue "" POLICY_SNAPSHOT_SKIP)).getD []

/-- The list that the window manager has and the combined list are the union of the admins' lists. -/
structure FollowsUnion : Prop where
  skipped_nodup : s.modules.Nodup
  skipped_mem : ∀ x, x ∈ s.modules ↔ x ∈ held (listed C s)
  combined_nodup : (combinedList C s).Nodup
  combined_mem : ∀ x, x ∈ combinedList C s ↔ x ∈ held (listed C s)

/-- The writes of an operation take effect.  What an admin takes off its list, with a request or
because it is removed, is on the list of another admin; and the window manager takes a list that it
is sent when it starts. -/
def Op.Keeps : Op → Prop
  | .policy (.update _ writes (.set _ _)) => writes = ⟨.done, .done⟩
  | .policy (.update admin writes (.remove data answer)) =>
    writes = ⟨.done, .done⟩ ∧
      (answer.Accepts → ∀ list, data = some list →
        (getPolicy list).length ≤ DISALLOW_LIST_FOR_ACCOUNT_MAX_SIZE →
        ∀ x, x ∈ list → x ∈ listed C s admin → x ∈ heldByOthers (listed C s) admin)
  | .policy (.removeAdmin admin writes _) =>
    writes = ⟨.done, .done⟩ ∧
      ∀ x, x ∈ listed C s admin → x ∈ heldByOthers (listed C s) admin
  | .windowManagerStart answer => (∃ x, x ∈ held (listed C s)) → answer.Accepts

end Run

/-! ### The handlers -/

section Handlers

variable {answer : WindowManager} {skipped data currentData mergeData : List String}

theorem setSnapshotSkip_cases (answer : WindowManager) (skipped mergeData : List String) :
    (answer.Accepts ∧
        setSnapshotSkipByUserIdAndBundleNameList answer skipped mergeData = (ERR_OK, mergeData)) ∨
      ∃ ret, failed ret = true ∧
        setSnapshotSkipByUserIdAndBundleNameList answer skipped mergeData = (ret, skipped) := by
  unfold setSnapshotSkipByUserIdAndBundleNameList WindowManager.Accepts
  split <;> rename_i hremote
  · exact .inr ⟨_, by decide, rfl⟩
  split <;> rename_i hproxy
  · exact .inr ⟨_, by decide, rfl⟩
  split <;> rename_i hcode
  · exact .inr ⟨_, hcode, rfl⟩
  · have hok : failed answer.code = false := Bool.eq_false_iff.mpr hcode
    have hzero : answer.code = ERR_OK := bne_eq_false_iff_eq.mp hok
    refine .inl ⟨⟨?_, ?_, hok⟩, ?_⟩
    · simpa using hremote
    · simpa using hproxy
    · rw [hzero]

/-- A set changes nothing, or leaves the union of the lists with the admin's new list. -/
theorem onSetPolicy_cases (answer : WindowManager) (skipped data currentData mergeData : List String) :
    (∃ ret, onSetPolicy answer skipped data currentData mergeData =
        (ret, skipped, currentData, mergeData)) ∨
      onSetPolicy answer skipped data currentData mergeData =
        (ERR_OK, setUnionPolicyData mergeData (setUnionPolicyData currentData data),
          setUnionPolicyData currentData data,
          setUnionPolicyData mergeData (setUnionPolicyData currentData data)) := by
  unfold onSetPolicy
  split
  · exact .inl ⟨_, rfl⟩
  split
  · exact .inl ⟨_, rfl⟩
  dsimp only
  split
  · exact .inl ⟨_, rfl⟩
  rcases setSnapshotSkip_cases answer skipped
    (setUnionPolicyData mergeData (setUnionPolicyData currentData data)) with
    ⟨-, hsent⟩ | ⟨ret, hret, hsent⟩
  · rw [hsent]
    exact .inr rfl
  · rw [hsent]
    dsimp only
    rw [if_pos hret]
    exact .inl ⟨_, rfl⟩

/-- A removal changes nothing, or takes the items off the admin's list only. -/
theorem onRemovePolicy_cases (answer : WindowManager)
    (skipped data currentData mergeData : List String) :
    (∃ ret, onRemovePolicy answer skipped data currentData mergeData =
        (ret, skipped, currentData, mergeData)) ∨
      answer.Accepts ∧ data.length ≤ DISALLOW_LIST_FOR_ACCOUNT_MAX_SIZE ∧
        onRemovePolicy answer skipped data currentData mergeData =
          (ERR_OK, setUnionPolicyData mergeData currentData,
            setDifferencePolicyData data currentData, setUnionPolicyData mergeData currentData) := by
  unfold onRemovePolicy
  split
  · exact .inl ⟨_, rfl⟩
  split
  · exact .inl ⟨_, rfl⟩
  rename_i hsize
  dsimp only
  rcases setSnapshotSkip_cases answer skipped
    (setUnionPolicyData mergeData currentData) with ⟨haccepts, hsent⟩ | ⟨ret, hret, hsent⟩
  · rw [hsent]
    exact .inr ⟨haccepts, not_lt.mp hsize, rfl⟩
  · rw [hsent]
    dsimp only
    rw [if_pos hret]
    exact .inl ⟨_, rfl⟩

end Handlers

/-! ### One operation -/

section Step

variable {C : CJson} {order : HashOrder} {s s' : PluginState (List String)} {admin : AdminName}

theorem policyName_ne : POLICY_SNAPSHOT_SKIP ≠ "" := by decide

theorem combinedList_of_text {data : List String}
    (h : s.store.manager.policyValue "" POLICY_SNAPSHOT_SKIP = serialize C data) :
    combinedList C s = data := by
  rw [combinedList, h, deserialize_serialize]
  rfl

theorem FollowsUnion.congr (h : FollowsUnion C s) (hstore : s'.store = s.store)
    (hnodup : s'.modules.Nodup) (hmem : ∀ x, x ∈ s'.modules ↔ x ∈ held (listed C s)) :
    FollowsUnion C s' := by
  obtain ⟨store, modules, subscribed⟩ := s
  obtain ⟨store', modules', subscribed'⟩ := s'
  obtain rfl : store' = store := hstore
  exact ⟨hnodup, hmem, h.combined_nodup, h.combined_mem⟩

/-- The lists after a save follow the union when the saved merged list and the list sent do. -/
theorem followsUnion_saved {current merge : List String}
    (hsaved : Saved s.store s'.store admin POLICY_SNAPSHOT_SKIP (serialize C current)
      (serialize C merge))
    (hmodules : s'.modules.Nodup) (hmerge : merge.Nodup)
    (hskipped : ∀ x, x ∈ s'.modules ↔ x ∈ heldByOthers (listed C s) admin ∨ x ∈ current)
    (hcombined : ∀ x, x ∈ merge ↔ x ∈ heldByOthers (listed C s) admin ∨ x ∈ current) :
    FollowsUnion C s' := by
  have hheld : ∀ x, x ∈ held (listed C s') ↔
      x ∈ heldByOthers (listed C s) admin ∨ x ∈ current := by
    intro x
    rw [held_saved hsaved, itemsOf_serialize]
    exact Iff.rfl
  have hlist : combinedList C s' = merge := combinedList_of_text hsaved.value_combined
  exact ⟨hmodules, fun x => (hskipped x).trans (hheld x).symm, hlist ▸ hmerge,
    fun x => by rw [hlist, hcombined, hheld]⟩

/-- What holds of the store in every run. -/
abbrev Readable (C : CJson) (s : PluginState (List String)) : Prop :=
  TextStore (IsText C) POLICY_SNAPSHOT_SKIP s.store

theorem step_removeAdmin (h : Readable C s) (hunion : FollowsUnion C s) (reply : Unit)
    (hothers : ∀ x, x ∈ listed C s admin → x ∈ heldByOthers (listed C s) admin) :
    Readable C (policyStep (plugin C order) s (.removeAdmin admin ⟨.done, .done⟩ reply)) ∧
      FollowsUnion C
        (policyStep (plugin C order) s (.removeAdmin admin ⟨.done, .done⟩ reply)) := by
  obtain ⟨others, hnodup, hmem, htext⟩ := getOthersMergePolicyData_text h order admin
  rcases policyStep_removeAdmin_cases (plugin C order) admin h.good policyName_ne rfl reply with ⟨-, hsame⟩ | ⟨-, hmodules, hsaved⟩
  · rw [hsame]
    exact ⟨h, hunion⟩
  · generalize policyStep (plugin C order) s (.removeAdmin admin ⟨.done, .done⟩ reply) = s'
      at hmodules hsaved ⊢
    have hmodules : s'.modules = s.modules := hmodules
    have hsaved : Saved s.store s'.store admin POLICY_SNAPSHOT_SKIP (serialize C [])
        (serialize C others) := htext ▸ hsaved
    refine ⟨h.saved hsaved ⟨[], List.nodup_nil, rfl⟩ ⟨others, hnodup, rfl⟩,
      followsUnion_saved hsaved (hmodules ▸ hunion.skipped_nodup) hnodup (fun x => ?_) fun x => ?_⟩
    · rw [hmodules, hunion.skipped_mem, held_eq _ admin]
      simpa using hothers x
    · rw [hmem]
      simp

theorem followsUnion_boot (userId : Int) :
    Readable C (boot userId) ∧ FollowsUnion C (boot userId) := by
  have hcombined : combinedList C (boot userId) = [] :=
    combinedList_of_text (policyValue_new userId "" _)
  have hnone : held (listed C (boot userId)) = ∅ := held_new itemsOf_empty userId
  have hheld : ∀ x, x ∉ held (listed C (boot userId)) := fun x => by
    rw [hnone]
    exact Set.notMem_empty x
  refine ⟨textStore_new isText_empty userId, List.nodup_nil, fun x => ?_, ?_, fun x => ?_⟩
  · exact iff_of_false List.not_mem_nil (hheld x)
  · rw [hcombined]
    exact List.nodup_nil
  · rw [hcombined]
    exact iff_of_false List.not_mem_nil (hheld x)

end Step

/-! ### Runs -/

namespace SharedBundle

def accepts : WindowManager := ⟨true, true, ERR_OK⟩

/-- Two admins list a bundle, and the first takes it off its list. -/
def ops : List Op :=
  [.policy (.update firstAdmin ⟨.done, .done⟩ (.set (some ["com.app"]) accepts)),
    .policy (.update secondAdmin ⟨.done, .done⟩ (.set (some ["com.app", "com.other"]) accepts)),
    .policy (.update firstAdmin ⟨.done, .done⟩ (.remove (some ["com.app"]) accepts)),
    .windowManagerStart accepts]

theorem listed_second : "com.app" ∈ listed .standard
    (run (step .standard .evaluated) (boot 100) (ops.take 2)) secondAdmin := by
  show "com.app" ∈ (deserialize CJson.standard _).getD []
  decide +kernel

end SharedBundle

namespace LastBundle

open SharedBundle (accepts)

/-- An admin lists a bundle and takes it off again. -/
def ops : List (PolicyOp Request Unit) :=
  [.update firstAdmin ⟨.done, .done⟩ (.set (some ["com.app"]) accepts),
    .update firstAdmin ⟨.done, .done⟩ (.remove (some ["com.app"]) accepts)]

abbrev final : PluginState (List String) :=
  run (policyStep (plugin .standard .evaluated)) (boot 100) ops

end LastBundle

end SnapshotSkipPlugin

end Edm
