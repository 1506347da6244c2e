import Edm.Plugin.WifiListPlugins

/-! Runs on the two WiFi lists of all users. -/

set_option autoImplicit false

namespace Edm.WifiPolicyUtils

open Library ArrayWifiIdSerializer

/-! ### The lists of a user -/

section Lists

variable (C : CJson)

def itemsOf (policy : String) : Set WifiId := {x | x ∈ (deserialize C policy).getD []}

def IsText (policy : String) : Prop := ∃ data : List WifiId, policy = serialize C data

variable (isAllowed : Bool) (store : UserStore)

/-- The networks that an admin lists. -/
abbrev listed (admin : AdminName) : Set WifiId :=
  itemsHeld (itemsOf C) (policyName isAllowed) store admin

/-- The networks of the combined list. -/
def combined : Set WifiId := itemsOf C (store.manager.policyValue "" (policyName isAllowed))

/-- Both combined lists of a user have what the admins list, and at most one of them has
anything. -/
structure Lists : Prop where
  texts : ∀ isAllowed, TextStore (IsText C) (policyName isAllowed) store
  union : ∀ isAllowed, combined C isAllowed store = held (listed C isAllowed store)
  exclusive : ∀ isAllowed, combined C isAllowed store ≠ ∅ → combined C (!isAllowed) store = ∅

/-- The service has the list that is not empty, with its type. -/
def Sent (wifi : WifiService) : Prop :=
  ∀ info, info ∈ wifi ↔ ∃ isAllowed item, item ∈ combined C isAllowed store ∧
    restrictedInfo isAllowed item = info

end Lists

section Texts

variable {C : CJson}

theorem itemsOf_serialize (data : List WifiId) : itemsOf C (serialize C data) = {x | x ∈ data} := by
  rw [itemsOf, deserialize_serialize]
  rfl

theorem itemsOf_empty : itemsOf C "" = ∅ := by
  rw [← serialize_nil (C := C), itemsOf_serialize]
  exact Set.eq_empty_iff_forall_notMem.mpr fun x => List.not_mem_nil

theorem isText_empty : IsText C "" := ⟨[], serialize_nil.symm⟩

/-- Only the text of no networks is empty. -/
theorem IsText.eq_empty_iff {policy : String} (h : IsText C policy) :
    policy = "" ↔ itemsOf C policy = ∅ := by
  obtain ⟨data, rfl⟩ := h
  rw [serialize_eq_empty, itemsOf_serialize]
  exact List.eq_nil_iff_forall_not_mem.trans Set.eq_empty_iff_forall_notMem.symm

theorem policyName_ne (isAllowed : Bool) : policyName isAllowed ≠ "" := by
  cases isAllowed <;> decide

theorem policyName_not (isAllowed : Bool) : policyName (!isAllowed) ≠ policyName isAllowed := by
  cases isAllowed <;> decide

end Texts

section Stores

variable {C : CJson} {order : HashOrder} {store store' : UserStore} {isAllowed : Bool}

theorem lists_new (userId : Int) : Lists C ⟨UserPolicyManager.new userId, PolicyTables.empty⟩ := by
  have hcombined : ∀ isAllowed, combined C isAllowed
      ⟨UserPolicyManager.new userId, PolicyTables.empty⟩ = ∅ := by
    intro isAllowed
    rw [combined, policyValue_new]
    exact itemsOf_empty
  refine ⟨fun isAllowed => textStore_new isText_empty userId, fun isAllowed => ?_, fun isAllowed _ =>
    hcombined (!isAllowed)⟩
  rw [hcombined, held_new itemsOf_empty]

theorem getOthersMergePolicyData_text (h : TextStore (IsText C) (policyName isAllowed) store)
    (order : HashOrder) (admin : AdminName) :
    ∃ others : List WifiId,
      IPluginTemplate.getOthersMergePolicyData (serializer C) order (policyName isAllowed)
        store.manager admin = serialize C others ∧
      ∀ x, x ∈ others ↔ x ∈ heldByOthers (listed C isAllowed store) admin := by
  have hread : ∀ other : AdminName, (serializer C).deserialize
      (store.manager.policyValue other (policyName isAllowed)) =
        some ((deserialize C (store.manager.policyValue other (policyName isAllowed))).getD []) := by
    intro other
    obtain ⟨data, hdata⟩ := h.text other
    show deserialize C _ = _
    rw [hdata, deserialize_serialize]
    rfl
  obtain ⟨htext, hmem⟩ := getOthersMergePolicyData_union (serializer C) h.good order admin
    (itemsOf C) (fun data => {x | x ∈ data}) (fun policy => (deserialize C policy).getD [])
    (fun _ => rfl) (fun _ => rfl) serialize_nil itemsOf_empty (fun other => ⟨hread other, rfl⟩)
    fun lists x => mem_mergePolicy
  exact ⟨_, htext, hmem⟩

/-- What is stored and sent when an admin lists `after` and the merged list is `merged`, while the
other list is empty. -/
theorem lists_stored (h : Lists C store) {admin : AdminName} {after merged : List WifiId}
    (hmem : ∀ x, x ∈ merged ↔ x ∈ heldByOthers (listed C isAllowed store) admin ∨ x ∈ after)
    (hrival : combined C (!isAllowed) store = ∅)
    (hstore : store.manager.policyValue admin (policyName isAllowed) = serialize C after ∧
        store' = store ∨
      store.manager.policyValue admin (policyName isAllowed) ≠ serialize C after ∧
        Saved store store' admin (policyName isAllowed) (serialize C after) (serialize C merged)) :
    Lists C store' ∧ Sent C store' (merged.map (restrictedInfo isAllowed)) := by
  have hlisted : listed C isAllowed store' =
      Function.update (listed C isAllowed store) admin {x | x ∈ after} := by
    rw [← itemsOf_serialize (C := C)]
    exact itemsHeld_update_ok admin (itemsOf C) hstore
  have hheld : held (listed C isAllowed store') = {x | x ∈ merged} := by
    rw [hlisted, held_update]
    exact Set.ext fun x => (hmem x).symm
  have hcombined : combined C isAllowed store' = {x | x ∈ merged} := by
    rcases hstore with ⟨-, rfl⟩ | ⟨-, hsaved⟩
    · rw [h.union, hheld]
    · rw [combined, hsaved.value_combined]
      exact itemsOf_serialize merged
  have hother : ∀ a, store'.manager.policyValue a (policyName !isAllowed) =
      store.manager.policyValue a (policyName !isAllowed) := by
    rcases hstore with ⟨-, rfl⟩ | ⟨-, hsaved⟩
    · exact fun _ => rfl
    · exact hsaved.value_policy (policyName_not isAllowed)
  have htexts : TextStore (IsText C) (policyName isAllowed) store' := by
    rcases hstore with ⟨-, rfl⟩ | ⟨-, hsaved⟩
    · exact h.texts isAllowed
    · exact (h.texts isAllowed).saved hsaved ⟨after, rfl⟩ ⟨merged, rfl⟩
  have hrival' : combined C (!isAllowed) store' = ∅ := by
    rw [combined, hother]
    exact hrival
  have hunion' : combined C (!isAllowed) store' = held (listed C (!isAllowed) store') := by
    have hsame : listed C (!isAllowed) store' = listed C (!isAllowed) store := by
      funext admin
      rw [listed, listed, itemsHeld, itemsHeld, hother]
    rw [hrival', hsame, ← h.union, hrival]
  refine ⟨⟨fun kind => ?_, fun kind => ?_, fun kind hsome => ?_⟩, fun info => ?_⟩
  · rcases Bool.eq_or_eq_not kind isAllowed with rfl | rfl
    · exact htexts
    · exact (h.texts (!isAllowed)).congr htexts.good hother
  · rcases Bool.eq_or_eq_not kind isAllowed with rfl | rfl
    · rw [hcombined, hheld]
    · exact hunion'
  · rcases Bool.eq_or_eq_not kind isAllowed with rfl | rfl
    · exact hrival'
    · exact absurd hrival' hsome
  · rw [List.mem_map]
    constructor
    · rintro ⟨item, hitem, rfl⟩
      exact ⟨isAllowed, item, hcombined ▸ hitem, rfl⟩
    · rintro ⟨kind, item, hitem, rfl⟩
      rcases Bool.eq_or_eq_not kind isAllowed with rfl | rfl
      · rw [hcombined] at hitem
        exact ⟨item, hitem, rfl⟩
      · rw [hrival'] at hitem
        exact absurd hitem (Set.notMem_empty item)

end Stores

/-! ### One operation of the default user -/

section Operations

variable {C : CJson} {order : HashOrder} {isAllowed : Bool} {s : PluginState WifiService}
  {admin : AdminName}

abbrev ListOp := PolicyOp Request Bool

/-- A removal passes its checks, and the service accepts the list. -/
def Sends (request : Request) : Prop :=
  request.data ≠ [] ∧ request.data.length ≤ EdmConstants.WIFI_LIST_MAX_SIZE ∧
    checkWifiId request.data = true ∧ request.answers.accepted = true

/-- A removal sends its list while the other one is empty.  The service accepts the list that is left
when an admin with a list is removed. -/
def ListOpKeeps (C : CJson) (isAllowed : Bool) (store : UserStore) : ListOp → Prop
  | .update _ _ request =>
    request.type = .remove → Sends request → combined C (!isAllowed) store = ∅
  | .removeAdmin admin _ accepted => listed C isAllowed store admin ≠ ∅ → accepted = true

/-- What a user and the service have. -/
def Good (C : CJson) (s : PluginState WifiService) : Prop := Lists C s.store ∧ Sent C s.store s.modules

/-- A handler fails, leaves the lists, or sends a merged list, and does so only when the other list
is empty. -/
inductive Handled (C : CJson) (store : UserStore) (isAllowed : Bool) (wifi : WifiService)
    (currentData mergeData : List WifiId) :
    ErrCode × WifiService × List WifiId × List WifiId → Prop
  | failed (ret : ErrCode) (hret : ret ≠ ERR_OK) :
    Handled C store isAllowed wifi currentData mergeData (ret, wifi, currentData, mergeData)
  | unchanged : Handled C store isAllowed wifi currentData mergeData
      (ERR_OK, wifi, currentData, mergeData)
  | sent (afterHandle : List WifiId) (hrival : combined C (!isAllowed) store = ∅) :
    Handled C store isAllowed wifi currentData mergeData
      (ERR_OK, (setUnionPolicyData mergeData afterHandle).map (restrictedInfo isAllowed),
        afterHandle, setUnionPolicyData mergeData afterHandle)

theorem addWifiListPolicy_handled (answers : Answers) (wifi : WifiService)
    (data currentData mergeData : List WifiId) :
    Handled C s.store isAllowed wifi currentData mergeData
      (addWifiListPolicy s.store.manager answers isAllowed wifi data currentData mergeData) := by
  unfold addWifiListPolicy
  dsimp only
  split
  · exact .unchanged
  split
  · exact .failed _ (by decide)
  split
  · exact .failed _ (by decide)
  split
  · exact .failed _ (by decide)
  rename_i hconflict
  split
  · exact .failed _ (by decide)
  have hrival : combined C (!isAllowed) s.store = ∅ := by
    rw [hasConflictPolicy, Bool.or_eq_true, not_or] at hconflict
    rw [combined, bne_eq_false_iff_eq.mp (Bool.eq_false_iff.mpr hconflict.2)]
    exact itemsOf_empty
  rw [setWifiAccessList]
  by_cases haccepted : answers.accepted = true
  · rw [if_pos haccepted]
    exact .sent _ hrival
  · rw [if_neg haccepted]
    exact .failed EdmReturnErrCode.SYSTEM_ABNORMALLY (by decide)

theorem removeWifiListPolicy_handled (answers : Answers) (wifi : WifiService)
    (data currentData mergeData : List WifiId)
    (hkeeps : Sends ⟨.remove, data, answers⟩ → combined C (!isAllowed) s.store = ∅) :
    Handled C s.store isAllowed wifi currentData mergeData
      (removeWifiListPolicy answers isAllowed wifi data currentData mergeData) := by
  unfold removeWifiListPolicy
  dsimp only
  split
  · exact .unchanged
  rename_i hdata
  split
  · exact .failed _ (by decide)
  rename_i hlength
  split
  · exact .failed _ (by decide)
  rename_i hcheck
  rw [setWifiAccessList]
  by_cases haccepted : answers.accepted = true
  · rw [if_pos haccepted]
    refine .sent _ (hkeeps ⟨hdata, Nat.not_lt.mp hlength, ?_, haccepted⟩)
    cases hvalid : checkWifiId data with
    | true => rfl
    | false =>
      rw [hvalid] at hcheck
      exact absurd rfl hcheck
  · rw [if_neg haccepted]
    exact .failed EdmReturnErrCode.SYSTEM_ABNORMALLY (by decide)

/-- An update that the handler answers for. -/
theorem good_of_handled (h : Good C s) {request : Request}
    (biFunction : WifiService → List WifiId → List WifiId → List WifiId →
      ErrCode × WifiService × List WifiId × List WifiId)
    (hcall : ∀ policyData, onHandlePolicy C s.store.manager isAllowed s.modules request policyData =
      IPluginTemplate.handlePolicy (serializer C) biFunction s.modules (getPolicy request.data)
        policyData)
    (hhandled : ∀ data currentData mergeData, getPolicy request.data = some data →
      Handled C s.store isAllowed s.modules currentData mergeData
        (biFunction s.modules data currentData mergeData)) :
    Good C (policyStep (plugin C s.store.manager isAllowed order) s
      (.update admin ⟨.done, .done⟩ request)) := by
  obtain ⟨s', hs'⟩ : ∃ s', policyStep (plugin C s.store.manager isAllowed order) s
    (.update admin ⟨.done, .done⟩ request) = s' := ⟨_, rfl⟩
  obtain ⟨policyData, hpolicyData⟩ : ∃ policyData,
    PluginManager.handlePolicyData (plugin C s.store.manager isAllowed order) s admin = policyData :=
      ⟨_, rfl⟩
  obtain ⟨current, hcurrent⟩ := (h.1.texts isAllowed).text admin
  obtain ⟨others, hothers, hmem⟩ := getOthersMergePolicyData_text (h.1.texts isAllowed) order admin
  have hvalues : policyData = ⟨serialize C current, serialize C others, false⟩ := by
    rw [← hpolicyData, ← hcurrent, ← hothers]
    rfl
  have hunchanged : ∀ ret, (∀ policyData, onHandlePolicy C s.store.manager isAllowed s.modules request
      policyData = (ret, s.modules, policyData)) → Good C s' := by
    intro ret hsame
    have hcases := policyStep_update_cases (plugin C s.store.manager isAllowed order) admin
      (h.1.texts isAllowed).good (policyName_ne isAllowed) (hsame _)
    rw [hs', hpolicyData, hvalues] at hcases
    obtain ⟨hmodules, ⟨-, hstore⟩ | ⟨-, hchanged, -⟩⟩ := hcases
    · rw [Good, hmodules, hstore]
      exact h
    · cases hchanged
  rw [hs']
  cases hdata : getPolicy request.data with
  | none =>
    refine hunchanged ERR_EDM_OPERATE_PARCEL fun policyData => ?_
    rw [hcall, hdata]
    rfl
  | some data =>
    obtain ⟨⟨ret, wifi, after, merged⟩, hresult⟩ : ∃ result,
      biFunction s.modules data current others = result := ⟨_, rfl⟩
    have hread : ∀ data : List WifiId, IPluginTemplate.deserializeNonempty (serializer C)
        (serialize C data) = some data := deserializeNonempty_serialize
    have hcases := hhandled data current others hdata
    rw [hresult] at hcases
    have hok : ∀ hreturn : ret = ERR_OK, s'.modules = wifi ∧
        (s.store.manager.policyValue admin (policyName isAllowed) = serialize C after ∧
            s'.store = s.store ∨
          s.store.manager.policyValue admin (policyName isAllowed) ≠ serialize C after ∧
            Saved s.store s'.store admin (policyName isAllowed) (serialize C after)
              (serialize C merged)) := by
      rintro rfl
      have hcall : (plugin C s.store.manager isAllowed order).onHandlePolicy s.store.manager s.modules
          request (PluginManager.handlePolicyData (plugin C s.store.manager isAllowed order) s admin) =
            (ERR_OK, wifi, ⟨serialize C after, serialize C merged,
              s.store.manager.policyValue admin (policyName isAllowed) != serialize C after⟩) := by
        rw [hpolicyData, hvalues, hcurrent]
        show onHandlePolicy C s.store.manager isAllowed s.modules request _ = _
        rw [hcall, hdata]
        exact IPluginTemplate.handlePolicy_ok (hread current) (hread others) hresult rfl rfl
      have hupdate := policyStep_update_ok (plugin C s.store.manager isAllowed order) admin
        (h.1.texts isAllowed).good (policyName_ne isAllowed) rfl hcall bne_iff_ne
      rw [hs'] at hupdate
      exact hupdate
    cases hcases with
    | failed _ hret =>
      have hcall : (plugin C s.store.manager isAllowed order).onHandlePolicy s.store.manager s.modules
          request (PluginManager.handlePolicyData (plugin C s.store.manager isAllowed order) s admin) =
            (ret, s.modules, policyData) := by
        rw [hpolicyData, hvalues]
        show onHandlePolicy C s.store.manager isAllowed s.modules request _ = _
        rw [hcall, hdata]
        exact IPluginTemplate.handlePolicy_failed (hread current) (hread others) hresult hret
      have hcases := policyStep_update_cases (plugin C s.store.manager isAllowed order) admin
        (h.1.texts isAllowed).good (policyName_ne isAllowed) hcall
      rw [hs'] at hcases
      obtain ⟨hmodules, ⟨-, hstore⟩ | ⟨hok, -, -⟩⟩ := hcases
      · rw [Good, hmodules, hstore]
        exact h
      · exact absurd (bne_eq_false_iff_eq.mp hok) hret
    | unchanged =>
      obtain ⟨hmodules, ⟨-, hstore⟩ | ⟨hne, -⟩⟩ := hok rfl
      · rw [Good, hmodules, hstore]
        exact h
      · exact absurd hcurrent hne
    | sent _ hrival =>
      obtain ⟨hmodules, hstore⟩ := hok rfl
      rw [Good, hmodules]
      refine lists_stored h.1 (fun x => ?_) hrival hstore
      rw [mem_setUnionPolicyData, hmem]

theorem good_update (h : Good C s) {request : Request}
    (hkeeps : ListOpKeeps C isAllowed s.store (.update admin ⟨.done, .done⟩ request)) :
    Good C (policyStep (plugin C s.store.manager isAllowed order) s
      (.update admin ⟨.done, .done⟩ request)) := by
  obtain ⟨type, data, answers⟩ := request
  have hdata : ∀ data', getPolicy data = some data' → data' = data := by
    intro data' hdata
    rw [getPolicy] at hdata
    split at hdata
    · cases hdata
    · exact (Option.some.inj hdata).symm
  have hother : ∀ type', type' = .get ∨ type' = .unknown → type = type' →
      Good C (policyStep (plugin C s.store.manager isAllowed order) s
        (.update admin ⟨.done, .done⟩ ⟨type, data, answers⟩)) := by
    rintro type' htype rfl
    have hcall : ∀ policyData, onHandlePolicy C s.store.manager isAllowed s.modules
        ⟨type, data, answers⟩ policyData = (ERR_OK, s.modules, policyData) := by
      intro policyData
      rcases htype with rfl | rfl
      · rfl
      · rfl
    obtain ⟨hmodules, ⟨-, hstore⟩ | ⟨-, hchanged, -⟩⟩ := policyStep_update_cases
      (plugin C s.store.manager isAllowed order) admin (h.1.texts isAllowed).good
      (policyName_ne isAllowed) (hcall _)
    · rw [Good, hmodules, hstore]
      exact h
    · cases hchanged
  cases type with
  | set =>
    refine good_of_handled h (addWifiListPolicy s.store.manager answers isAllowed) (fun _ => rfl)
      fun data currentData mergeData _ => ?_
    exact addWifiListPolicy_handled answers s.modules data currentData mergeData
  | remove =>
    refine good_of_handled h (removeWifiListPolicy answers isAllowed) (fun _ => rfl)
      fun data' currentData mergeData hread => ?_
    rw [hdata data' hread]
    exact removeWifiListPolicy_handled answers s.modules data currentData mergeData (hkeeps rfl)
  | get => exact hother .get (.inl rfl) rfl
  | unknown => exact hother .unknown (.inr rfl) rfl

theorem good_removeAdmin (h : Good C s) {accepted : Bool}
    (hkeeps : ListOpKeeps C isAllowed s.store (.removeAdmin admin ⟨.done, .done⟩ accepted)) :
    Good C (policyStep (plugin C s.store.manager isAllowed order) s
      (.removeAdmin admin ⟨.done, .done⟩ accepted)) := by
  obtain ⟨current, hcurrent⟩ := (h.1.texts isAllowed).text admin
  obtain ⟨others, hothers, hmem⟩ := getOthersMergePolicyData_text (h.1.texts isAllowed) order admin
  have hmerge : (plugin C s.store.manager isAllowed order).getOthersMergePolicyData s.store.manager
      admin = serialize C others := hothers
  have hread : ∀ data, (serializer C).deserialize (serialize C data) = some data := deserialize_serialize
  rcases policyStep_removeAdmin_cases (plugin C s.store.manager isAllowed order) admin
    (h.1.texts isAllowed).good (policyName_ne isAllowed) rfl accepted with
    ⟨-, hsame⟩ | ⟨hvalue, hmodules, hsaved⟩
  · rw [hsame]
    exact h
  · have hvalue : s.store.manager.policyValue admin (policyName isAllowed) ≠ "" := hvalue
    have hlisted : listed C isAllowed s.store admin ≠ ∅ := fun hnone =>
      hvalue ((IsText.eq_empty_iff ⟨current, hcurrent⟩).mpr hnone)
    have hcombined : combined C isAllowed s.store ≠ ∅ := by
      obtain ⟨x, hx⟩ := Set.nonempty_iff_ne_empty.mpr hlisted
      rw [h.1.union]
      exact Set.nonempty_iff_ne_empty.mp ⟨x, admin, hx⟩
    have hnil : current ≠ [] := by
      rintro rfl
      rw [hcurrent] at hvalue
      exact hvalue serialize_nil
    rw [hmerge] at hmodules hsaved
    have hsent : (policyStep (plugin C s.store.manager isAllowed order) s
        (.removeAdmin admin ⟨.done, .done⟩ accepted)).modules =
          others.map (restrictedInfo isAllowed) := by
      rw [hmodules]
      show (IPluginTemplate.adminRemove (serializer C) (onAdminRemove isAllowed accepted) s.modules
        (s.store.manager.policyValue admin (policyName isAllowed)) _).2 = _
      rw [hcurrent, IPluginTemplate.adminRemove_read (hread current) (hread others), onAdminRemove,
        if_neg hnil, hkeeps hlisted]
      rfl
    have hmerged : ∀ x, x ∈ others ↔
        x ∈ heldByOthers (listed C isAllowed s.store) admin ∨ x ∈ ([] : List WifiId) :=
      fun x => (hmem x).trans (or_iff_left List.not_mem_nil).symm
    have hstored : s.store.manager.policyValue admin (policyName isAllowed) ≠ serialize C [] ∧
        Saved s.store (policyStep (plugin C s.store.manager isAllowed order) s
          (.removeAdmin admin ⟨.done, .done⟩ accepted)).store admin (policyName isAllowed)
            (serialize C []) (serialize C others) := by
      rw [serialize_nil]
      exact ⟨hvalue, hsaved⟩
    rw [Good, hsent]
    exact lists_stored h.1 hmerged (h.1.exclusive isAllowed hcombined) (.inr hstored)

theorem good_step (h : Good C s) {op : ListOp} (hwrites : op.writes = ⟨.done, .done⟩)
    (hkeeps : ListOpKeeps C isAllowed s.store op) :
    Good C (policyStep (plugin C s.store.manager isAllowed order) s op) := by
  cases op with
  | update admin writes request =>
    obtain rfl : writes = ⟨.done, .done⟩ := hwrites
    exact good_update h hkeeps
  | removeAdmin admin writes accepted =>
    obtain rfl : writes = ⟨.done, .done⟩ := hwrites
    exact good_removeAdmin h hkeeps

end Operations

/-! ### Runs -/

/-- The policies of the users, and what the service was last sent. -/
structure State where
  stores : Int → UserStore
  wifi : WifiService

/-- An operation on the allowed or the disallowed list of a user. -/
structure Op where
  isAllowed : Bool
  userId : Int
  op : ListOp

def listPlugin (C : CJson) (m : UserPolicyManager) (isAllowed : Bool) (order : HashOrder) :
    Plugin WifiService Request Bool Empty :=
  if isAllowed then AllowWifiListPlugin.plugin C m order else DisallowWifiListPlugin.plugin C m order

section Runs

variable (C : CJson) (order : HashOrder) (s : State)

def step (op : Op) : State :=
  let after := policyStep
    (listPlugin C (s.stores DEFAULT_USER_ID).manager op.isAllowed order)
    ⟨s.stores op.userId, s.wifi, false⟩ op.op
  { stores := Function.update s.stores op.userId after.store, wifi := after.modules }

def boot : State where
  stores userId := ⟨UserPolicyManager.new userId, PolicyTables.empty⟩
  wifi := []

/-- For every user the combined lists have what the admins list and at most one has anything, and the
service has the list of the default user that is not empty, with its type. -/
structure InForce : Prop where
  union : ∀ userId isAllowed,
    combined C isAllowed (s.stores userId) = held (listed C isAllowed (s.stores userId))
  exclusive : ∀ userId, combined C true (s.stores userId) = ∅ ∨ combined C false (s.stores userId) = ∅
  sent : Sent C (s.stores DEFAULT_USER_ID) s.wifi

/-- An operation for the default user, whose writes take effect, that meets `ListOpKeeps`. -/
structure Keeps (op : Op) : Prop where
  user : op.userId = DEFAULT_USER_ID
  writes : op.op.writes = ⟨.done, .done⟩
  list : ListOpKeeps C op.isAllowed (s.stores DEFAULT_USER_ID) op.op

variable {C order s}

end Runs

/-- The service accepts every list, and WiFi is not disabled. -/
def accepts : Answers := ⟨true, false⟩

def home : WifiId := ⟨"home", ""⟩

end Edm.WifiPolicyUtils
