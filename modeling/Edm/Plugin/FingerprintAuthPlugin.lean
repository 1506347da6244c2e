import Edm.Admin.AdminManager
import Edm.Library.OrderedMap
import Edm.Plugin.IntCJson
import Edm.Plugin.ItemPolicy

/-! `FingerprintAuthPlugin`: fingerprints are forbidden for the device or for some accounts.  No
request carries a user, so that the policies are those of the default user. -/

set_option autoImplicit false

namespace Edm

open Library

def POLICY_FINGERPRINT_AUTH : String := "fingerprint_auth"

namespace EdmConstants

def FINGERPRINT_AUTH_TYPE : String := "fingerprintAuth"
def DISALLOW_FOR_ACCOUNT_TYPE : String := "disallowForAccount"
def CONST_TRUE : String := "true"

end EdmConstants

/-- The field `valueint` of a number that an `int32_t` was made into, and the text `true`. -/
structure BoolCJson extends IntCJson where
  valueint_createInt : ∀ n, valueint (createInt n) = n.toInt
  parse_true : parse "true" = some (.bool true)

/-- Texts as the library lays them out. -/
def BoolCJson.standard : BoolCJson where
  toIntCJson := .standard
  valueint_createInt := NumberText.toInt_ofInt32
  parse_true := rfl

/-- The `std::set` of accounts is a list in ascending order. -/
structure FingerprintPolicy where
  globalDisallow : Bool
  accountIds : List Int32

namespace FingerprintPolicySerializer

def insertId (id : Int32) (ids : List Int32) : List Int32 := insertNew Int32.toInt id ids

variable (C : BoolCJson)

/-- A number of an array.  Other items are skipped. -/
def accountId : Json → Option Int32
  | .number n => some (Int32.ofInt (C.valueint n))
  | _ => none

/-- What a new policy becomes.  A text that cannot be parsed is no error. -/
def deserialize (data : String) : FingerprintPolicy :=
  match C.parse data with
  | none => ⟨false, []⟩
  | some (.bool globalDisallow) => ⟨globalDisallow, []⟩
  | some root => ⟨false, (root.children.filterMap (accountId C)).foldl (fun ids id => insertId id ids) []⟩

/-- The text that the out parameter has after the call. -/
def serialize (result : FingerprintPolicy) (data : String) : String :=
  if result.globalDisallow then EdmConstants.CONST_TRUE
  else if result.accountIds = [] then data
  else C.print (.arr (result.accountIds.map fun id => .number (C.createInt id)))

/-- The last policy. -/
def mergePolicy (data : List FingerprintPolicy) : FingerprintPolicy := data.getLast?.getD ⟨false, []⟩

def serializer : PolicySerializer FingerprintPolicy where
  initial := ⟨false, []⟩
  serialize result := some (serialize C result "")
  deserialize data := some (deserialize C data)
  mergePolicy data := some (mergePolicy data)

end FingerprintPolicySerializer

namespace FingerprintAuthPlugin

open FingerprintPolicySerializer

/-- What the user authentication service is told of fingerprints. -/
structure GlobalConfigParam where
  userIds : List Int32
  enableStatus : Bool

/-- A message, and whether the service takes the configuration. -/
structure Request where
  type : String
  disallow : Bool
  accountId : Int32
  setGlobalConfigParam : Bool

def handleFingerprintAuthPolicy (disallow : Bool) (currentPolicy mergePolicy : FingerprintPolicy) :
    ErrCode × FingerprintPolicy × FingerprintPolicy :=
  if disallow then (ERR_OK, ⟨true, []⟩, ⟨true, []⟩)
  else if currentPolicy.accountIds ≠ [] then
    (EdmReturnErrCode.CONFIGURATION_CONFLICT_FAILED, currentPolicy, mergePolicy)
  else (ERR_OK, { currentPolicy with globalDisallow := false }, mergePolicy)

def handleFingerprintForAccountPolicy (disallow : Bool) (accountId : Int32)
    (currentPolicy mergePolicy : FingerprintPolicy) :
    ErrCode × FingerprintPolicy × FingerprintPolicy :=
  if currentPolicy.globalDisallow then
    (EdmReturnErrCode.CONFIGURATION_CONFLICT_FAILED, currentPolicy, mergePolicy)
  else
    let accountIds :=
      if disallow then insertId accountId currentPolicy.accountIds
      else eraseKey Int32.toInt accountId.toInt currentPolicy.accountIds
    let mergePolicy :=
      if mergePolicy.globalDisallow then mergePolicy
      else { mergePolicy with
        accountIds := accountIds.foldl (fun ids id => insertId id ids) mergePolicy.accountIds }
    (ERR_OK, { currentPolicy with accountIds }, mergePolicy)

/-- The configuration that a policy asks for. -/
def configParam (policy : FingerprintPolicy) : GlobalConfigParam where
  userIds := policy.accountIds
  enableStatus := !policy.globalDisallow && policy.accountIds.isEmpty

/-- `answer` tells whether the service takes the configuration. -/
def setGlobalConfigParam (answer : Bool) (config : GlobalConfigParam) (policy : FingerprintPolicy) :
    ErrCode × GlobalConfigParam :=
  if answer then (ERR_OK, configParam policy)
  else (EdmReturnErrCode.SYSTEM_ABNORMALLY, config)

variable (C : BoolCJson)

def onHandlePolicy (config : GlobalConfigParam) (request : Request) (policyData : HandlePolicyData) :
    ErrCode × GlobalConfigParam × HandlePolicyData :=
  let currentPolicy := deserialize C policyData.policyData
  let mergePolicy := deserialize C policyData.mergePolicyData
  let (ret, currentPolicy, mergePolicy) :=
    if request.type = EdmConstants.FINGERPRINT_AUTH_TYPE then
      handleFingerprintAuthPolicy request.disallow currentPolicy mergePolicy
    else if request.type = EdmConstants.DISALLOW_FOR_ACCOUNT_TYPE then
      handleFingerprintForAccountPolicy request.disallow request.accountId currentPolicy mergePolicy
    else (ERR_INVALID_VALUE, currentPolicy, mergePolicy)
  if ret != ERR_OK then (ret, config, policyData)
  else
    let (ret, config) := setGlobalConfigParam request.setGlobalConfigParam config mergePolicy
    if ret != ERR_OK then (EdmReturnErrCode.SYSTEM_ABNORMALLY, config, policyData)
    else
      let afterHandle := serialize C currentPolicy ""
      let afterMerge := serialize C mergePolicy ""
      let isChanged := afterHandle != policyData.policyData
      (ERR_OK, config,
        { policyData := if isChanged then afterHandle else policyData.policyData
          mergePolicyData := afterMerge, isChanged })

def onAdminRemove (answer : Bool) (config : GlobalConfigParam) (mergeData : String) :
    ErrCode × GlobalConfigParam :=
  setGlobalConfigParam answer config (deserialize C mergeData)

/-- The plugin merges the others' policies as the template does. -/
def plugin (order : HashOrder) : Plugin GlobalConfigParam Request Bool Empty where
  policyName := POLICY_FINGERPRINT_AUTH
  needSave := true
  getOthersMergePolicyData m adminName :=
    IPluginTemplate.getOthersMergePolicyData (serializer C) order POLICY_FINGERPRINT_AUTH m adminName
  onHandlePolicy _ := onHandlePolicy C
  onAdminRemove config answer _ mergeData := onAdminRemove C answer config mergeData
  onPluginEvent _ event := nomatch event

abbrev Op := PolicyOp Request Bool

/-- The default user without policies, and fingerprints that are enabled. -/
abbrev boot : PluginState GlobalConfigParam := PluginState.boot ⟨[], true⟩ DEFAULT_USER_ID

/-! ### What is forbidden -/

/-- Fingerprints are forbidden for an account, or for the device. -/
abbrev Restriction := Option Int32

/-- What a policy forbids. -/
def items (policy : FingerprintPolicy) : Set Restriction
  | none => policy.globalDisallow = true
  | some id => id ∈ policy.accountIds

/-- What is in force where some restrictions are asked for: that of the device leaves no others. -/
def inForce (asked : Set Restriction) : Set Restriction := {x | x ∈ asked ∧ (none ∈ asked → x = none)}

/-- What the service enforces. -/
def enforced (config : GlobalConfigParam) : Set Restriction
  | none => config.enableStatus = false ∧ config.userIds = []
  | some id => config.enableStatus = false ∧ id ∈ config.userIds

section Run

variable (s : PluginState GlobalConfigParam)

def itemsOf (policy : String) : Set Restriction := items (deserialize C policy)

/-- What an admin asks for. -/
abbrev listed (admin : AdminName) : Set Restriction :=
  itemsHeld (itemsOf C) POLICY_FINGERPRINT_AUTH s.store admin

/-- What the combined policy forbids. -/
abbrev combined : Set Restriction := itemsOf C (s.store.manager.policyValue "" POLICY_FINGERPRINT_AUTH)

/-- The combined policy and the service follow the policies of all admins, none of which is both
for the device and for accounts. -/
structure FollowsMerge : Prop where
  combined : combined C s = inForce (held (listed C s))
  enforced : enforced s.modules = inForce (held (listed C s))
  exclusive : ∀ admin, none ∈ listed C s admin → listed C s admin = {none}

/-- The merged policy of the others does not depend on the order in which they are visited. -/
def OpRight (order : HashOrder) (op : Op) : Prop :=
  ∀ order', (plugin C order').getOthersMergePolicyData s.store.manager op.admin =
    (plugin C order).getOthersMergePolicyData s.store.manager op.admin

/-- The other admins that have a policy have all the same. -/
def Agree (admin : AdminName) : Prop :=
  ∀ b c : AdminName, b ≠ admin → c ≠ admin →
    s.store.manager.policyValue b POLICY_FINGERPRINT_AUTH ≠ "" →
    s.store.manager.policyValue c POLICY_FINGERPRINT_AUTH ≠ "" →
    s.store.manager.policyValue b POLICY_FINGERPRINT_AUTH =
      s.store.manager.policyValue c POLICY_FINGERPRINT_AUTH

/-- The writes of an operation take effect, the others agree, and the service takes what remains when
an admin is removed, unless nothing changes. -/
def Keeps : Op → Prop
  | .update admin writes _ => writes = ⟨.done, .done⟩ ∧ Agree s admin
  | .removeAdmin admin writes answer =>
    writes = ⟨.done, .done⟩ ∧ Agree s admin ∧
      (answer = true ∨ inForce (held (listed C s)) = heldByOthers (listed C s) admin)

end Run

/-! ### Sets of accounts -/

section Accounts

variable {id x : Int32} {ids others : List Int32}

theorem mem_insertId : x ∈ insertId id ids ↔ x = id ∨ x ∈ ids := by
  have hmap : ∀ l : List Int32, x.toInt ∈ l.map Int32.toInt ↔ x ∈ l := fun l =>
    List.mem_map_of_injective fun _ _ => Int32.toInt_inj.mp
  have hkeys : x.toInt ∈ (insertId id ids).map Int32.toInt ↔
      x.toInt = id.toInt ∨ x.toInt ∈ ids.map Int32.toInt := mem_keys_insertNew
  rwa [hmap, hmap, Int32.toInt_inj] at hkeys

theorem mem_insertIds : x ∈ others.foldl (fun ids id => insertId id ids) ids ↔
    x ∈ others ∨ x ∈ ids := by
  induction others generalizing ids with
  | nil => simp
  | cons id others ih =>
    rw [List.foldl_cons, ih, mem_insertId, List.mem_cons]
    tauto

theorem mem_eraseId : x ∈ eraseKey Int32.toInt id.toInt ids ↔ x ∈ ids ∧ x ≠ id := by
  rw [mem_eraseKey, Ne, Int32.toInt_inj]

theorem keysAscend_insertIds (h : KeysAscend Int32.toInt ids) :
    KeysAscend Int32.toInt (others.foldl (fun ids id => insertId id ids) ids) :=
  keysAscend_insertAll h

end Accounts

/-! ### The texts of the policies -/

/-- The accounts are a set, and there are none where the policy is for the device. -/
structure Proper (policy : FingerprintPolicy) : Prop where
  ascend : KeysAscend Int32.toInt policy.accountIds
  exclusive : policy.globalDisallow = true → policy.accountIds = []

section Texts

variable {C : BoolCJson} {policy : FingerprintPolicy}

theorem proper_none : Proper ⟨false, []⟩ := ⟨keysAscend_nil, fun _ => rfl⟩

theorem proper_global : Proper ⟨true, []⟩ := ⟨keysAscend_nil, fun _ => rfl⟩

theorem proper_deserialize (data : String) : Proper (deserialize C data) := by
  unfold deserialize
  split
  · exact proper_none
  · exact ⟨keysAscend_nil, fun _ => rfl⟩
  · exact ⟨keysAscend_insertIds keysAscend_nil, fun h => nomatch h⟩

theorem deserialize_empty : deserialize C "" = ⟨false, []⟩ := by
  rw [deserialize, C.parse_empty]

theorem deserialize_serialize (h : Proper policy) :
    deserialize C (serialize C policy "") = policy := by
  obtain ⟨globalDisallow, accountIds⟩ := policy
  cases globalDisallow with
  | true =>
    obtain rfl : accountIds = [] := h.exclusive rfl
    show deserialize C "true" = _
    rw [deserialize, C.parse_true]
  | false =>
    by_cases hnil : accountIds = []
    · rw [hnil]
      exact deserialize_empty
    · have hints : C.Ints (.arr (accountIds.map fun id => .number (C.createInt id))) := by
        refine Json.numbersIn_arr.mpr fun item hitem => ?_
        obtain ⟨id, -, rfl⟩ := List.mem_map.mp hitem
        exact C.ints_createInt id
      have hread : ∀ ids : List Int32,
          (ids.map fun id => Json.number (C.createInt id)).filterMap (accountId C) = ids := by
        intro ids
        rw [List.filterMap_map]
        refine (List.filterMap_congr fun id _ => ?_).trans List.filterMap_some
        show some (Int32.ofInt (C.valueint (C.createInt id))) = some id
        rw [C.valueint_createInt, Int32.ofInt_toInt]
      have hinsert : insertAll Int32.toInt accountIds [] = accountIds := insertAll_append h.ascend
      rw [serialize, if_neg Bool.false_ne_true, if_neg hnil, deserialize,
        C.parse_print_ints _ hints]
      show FingerprintPolicy.mk false (insertAll Int32.toInt (List.filterMap _ _) []) = _
      rw [Json.children, hread, hinsert]

end Texts

/-! ### What is forbidden -/

section Restrictions

variable {policy : FingerprintPolicy}

theorem inForce_items (h : Proper policy) : inForce (items policy) = items policy := by
  refine Set.ext fun x => and_iff_left_of_imp fun hx hglobal => ?_
  cases x with
  | none => rfl
  | some id =>
    have hid : id ∈ policy.accountIds := hx
    rw [h.exclusive hglobal] at hid
    exact absurd hid List.not_mem_nil

theorem enforced_configParam (h : Proper policy) : enforced (configParam policy) = items policy := by
  obtain ⟨globalDisallow, accountIds⟩ := policy
  refine Set.ext fun x => ?_
  cases globalDisallow with
  | true =>
    obtain rfl : accountIds = [] := h.exclusive rfl
    cases x with
    | none => exact iff_of_true ⟨rfl, rfl⟩ rfl
    | some id => exact and_iff_right rfl
  | false =>
    cases x with
    | none =>
      refine iff_of_false ?_ Bool.false_ne_true
      rintro ⟨hstatus, hnil⟩
      have hnil : accountIds = [] := hnil
      rw [hnil] at hstatus
      cases hstatus
    | some id =>
      refine and_iff_right_of_imp fun hid => ?_
      have hid : id ∈ accountIds := hid
      cases accountIds with
      | nil => exact absurd hid List.not_mem_nil
      | cons => rfl

theorem inForce_global {asked : Set Restriction} (h : none ∈ asked) : inForce asked = {none} := by
  refine Set.ext fun x => ⟨fun hx => hx.2 h, ?_⟩
  rintro rfl
  exact ⟨h, fun _ => rfl⟩

theorem inForce_of_notMem {asked : Set Restriction} (h : none ∉ asked) : inForce asked = asked :=
  Set.ext fun _ => and_iff_left fun hglobal => absurd hglobal h

end Restrictions

/-! ### One operation -/

section Step

variable {C : BoolCJson} {s s' : PluginState GlobalConfigParam} {admin : AdminName}

theorem policyName_ne : POLICY_FINGERPRINT_AUTH ≠ "" := by decide

theorem itemsOf_empty : itemsOf C "" = ∅ := by
  rw [itemsOf, deserialize_empty]
  refine Set.eq_empty_iff_forall_notMem.mpr fun x hx => ?_
  cases x with
  | none => exact Bool.false_ne_true hx
  | some id => exact List.not_mem_nil hx

theorem itemsOf_serialize {policy : FingerprintPolicy} (h : Proper policy) :
    itemsOf C (serialize C policy "") = items policy := by
  rw [itemsOf, deserialize_serialize h]

/-- Where the others agree, their merged policy has what they ask for, in any order. -/
theorem getOthersMergePolicyData_agree (h : GoodStore s.store) (hagree : Agree s admin) :
    ∃ merged, Proper merged ∧ items merged = heldByOthers (listed C s) admin ∧
      ∀ order, (plugin C order).getOthersMergePolicyData s.store.manager admin =
        serialize C merged "" := by
  have hmem : ∀ order v, v ∈ othersValues order s.store.manager POLICY_FINGERPRINT_AUTH admin ↔ _ :=
    fun order v => h.mem_othersValues order admin
  have hother : ∀ order x, x ∈ heldByOthers (listed C s) admin ↔ _ := fun order x =>
    h.mem_heldByOthers (itemsOf_empty (C := C)) order admin
  have htext : ∀ order, (plugin C order).getOthersMergePolicyData s.store.manager admin = _ :=
    fun order => getOthersMergePolicyData_read (serializer C) h order admin fun _ _ => rfl
  by_cases hnone : ∃ b : AdminName, b ≠ admin ∧
    s.store.manager.policyValue b POLICY_FINGERPRINT_AUTH ≠ ""
  · obtain ⟨b, hb, hvalue⟩ := hnone
    obtain ⟨v, hv⟩ : ∃ v, s.store.manager.policyValue b POLICY_FINGERPRINT_AUTH = v := ⟨_, rfl⟩
    -- Every order visits this value, once or more often, and no other.
    have hall : ∀ order w, w ∈ othersValues order s.store.manager POLICY_FINGERPRINT_AUTH admin ↔
        w = v := by
      intro order w
      rw [hmem]
      constructor
      · rintro ⟨hw, c, hc, rfl⟩
        rw [← hv]
        exact hagree c b hc hb hw hvalue
      · rintro rfl
        exact ⟨hv ▸ hvalue, b, hb, hv⟩
    refine ⟨deserialize C v, proper_deserialize v, Set.ext fun x => ?_, fun order => ?_⟩
    · rw [hother .evaluated]
      constructor
      · exact fun hx => ⟨v, (hall _ v).mpr rfl, hx⟩
      · rintro ⟨w, hw, hx⟩
        rw [(hall _ w).mp hw] at hx
        exact hx
    · have hne : othersValues order s.store.manager POLICY_FINGERPRINT_AUTH admin ≠ [] :=
        List.ne_nil_of_mem ((hall order v).mpr rfl)
      rw [htext, if_neg hne]
      have hlast := List.getLast?_eq_some_getLast hne
      have heq : (othersValues order s.store.manager POLICY_FINGERPRINT_AUTH admin).getLast hne = v :=
        (hall order _).mp (List.getLast_mem hne)
      show serialize C (mergePolicy (List.map _ _)) "" = _
      rw [mergePolicy, List.getLast?_map, hlast, heq]
      rfl
  · have hnil : ∀ order, othersValues order s.store.manager POLICY_FINGERPRINT_AUTH admin = [] := by
      intro order
      refine List.eq_nil_iff_forall_not_mem.mpr fun w hw => hnone ?_
      obtain ⟨hne, c, hc, rfl⟩ := (hmem order w).mp hw
      exact ⟨c, hc, hne⟩
    refine ⟨⟨false, []⟩, proper_none, Set.ext fun x => ?_, fun order => ?_⟩
    · rw [hother .evaluated, hnil]
      refine iff_of_false ?_ ?_
      · rw [← deserialize_empty (C := C)]
        exact Set.eq_empty_iff_forall_notMem.mp itemsOf_empty x
      · rintro ⟨w, hw, -⟩
        exact absurd hw List.not_mem_nil
    · rw [htext, if_pos (hnil order)]
      rfl

theorem heldByOthers_inForce (h : GoodStore s.store) (hagree : Agree s admin) :
    inForce (heldByOthers (listed C s) admin) = heldByOthers (listed C s) admin := by
  obtain ⟨merged, hproper, hitems, -⟩ := getOthersMergePolicyData_agree h hagree
  rw [← hitems, inForce_items hproper]

/-- What a handler makes of the admin's policy and of the others'. -/
def Handled (others : Set Restriction) (result : ErrCode × FingerprintPolicy × FingerprintPolicy) :
    Prop :=
  failed result.1 = true ∨
    result.1 = ERR_OK ∧ Proper result.2.1 ∧ Proper result.2.2 ∧
      items result.2.2 = inForce (others ∪ items result.2.1)

section Handlers

variable {currentPolicy mergePolicy : FingerprintPolicy}

theorem handleFingerprintAuthPolicy_handled (disallow : Bool) (hmerge : Proper mergePolicy) :
    Handled (items mergePolicy)
      (handleFingerprintAuthPolicy disallow currentPolicy mergePolicy) := by
  unfold handleFingerprintAuthPolicy
  cases disallow with
  | true =>
    refine .inr ⟨rfl, proper_global, proper_global, ?_⟩
    have hglobal : items ⟨true, []⟩ = {none} := by
      rw [← inForce_items proper_global]
      exact inForce_global rfl
    rw [inForce_global (.inr rfl)]
    exact hglobal
  | false =>
    rw [if_neg Bool.false_ne_true]
    by_cases hnil : currentPolicy.accountIds = []
    · rw [if_neg (not_not.mpr hnil)]
      have hnone : items { currentPolicy with globalDisallow := false } = ∅ := by
        refine Set.eq_empty_iff_forall_notMem.mpr fun x hx => ?_
        cases x with
        | none => exact Bool.false_ne_true hx
        | some id =>
          have hid : id ∈ currentPolicy.accountIds := hx
          rw [hnil] at hid
          exact List.not_mem_nil hid
      refine .inr ⟨rfl, ⟨?_, fun hglobal => nomatch hglobal⟩, hmerge, ?_⟩
      · show KeysAscend Int32.toInt currentPolicy.accountIds
        rw [hnil]
        exact keysAscend_nil
      · rw [hnone, Set.union_empty]
        exact (inForce_items hmerge).symm
    · rw [if_pos hnil]
      exact .inl rfl

theorem handleFingerprintForAccountPolicy_handled (disallow : Bool) (accountId : Int32)
    (hcurrent : Proper currentPolicy) (hmerge : Proper mergePolicy) :
    Handled (items mergePolicy)
      (handleFingerprintForAccountPolicy disallow accountId currentPolicy mergePolicy) := by
  unfold handleFingerprintForAccountPolicy
  by_cases hglobal : currentPolicy.globalDisallow = true
  · rw [if_pos hglobal]
    exact .inl rfl
  · rw [if_neg hglobal]
    dsimp only
    obtain ⟨accountIds, haccounts⟩ : ∃ accountIds, (if disallow = true then
      insertId accountId currentPolicy.accountIds
      else eraseKey Int32.toInt accountId.toInt currentPolicy.accountIds) = accountIds := ⟨_, rfl⟩
    have hascend : KeysAscend Int32.toInt accountIds := by
      rw [← haccounts]
      split
      · exact keysAscend_insertNew hcurrent.ascend
      · exact keysAscend_eraseKey hcurrent.ascend
    rw [haccounts]
    refine .inr ⟨rfl, ⟨hascend, fun h => absurd h hglobal⟩, ?_⟩
    by_cases hmergeGlobal : mergePolicy.globalDisallow = true
    · dsimp only
      rw [if_pos hmergeGlobal]
      refine ⟨hmerge, ?_⟩
      have hmerged : items mergePolicy = {none} :=
        (inForce_items hmerge).symm.trans (inForce_global hmergeGlobal)
      rw [inForce_global (.inl hmergeGlobal), hmerged]
    · dsimp only
      rw [if_neg hmergeGlobal]
      refine ⟨⟨keysAscend_insertIds hmerge.ascend, fun h => absurd h hmergeGlobal⟩, ?_⟩
      have hnone : none ∉ items mergePolicy ∪ items { currentPolicy with accountIds } := by
        rintro (h | h)
        · exact hmergeGlobal h
        · exact hglobal h
      rw [inForce_of_notMem hnone]
      refine Set.ext fun x => ?_
      cases x with
      | none => exact iff_of_false hmergeGlobal hnone
      | some id => exact mem_insertIds.trans or_comm

end Handlers

/-- A request fails and changes nothing, or makes the merged policy what the others and the admin
ask for. -/
theorem onHandlePolicy_cases (config : GlobalConfigParam) (request : Request)
    (policyData : HandlePolicyData) :
    (∃ ret, failed ret = true ∧
        onHandlePolicy C config request policyData = (ret, config, policyData)) ∨
      ∃ after merged, Proper after ∧ Proper merged ∧
        items merged = inForce (itemsOf C policyData.mergePolicyData ∪ items after) ∧
        onHandlePolicy C config request policyData =
          (ERR_OK, configParam merged, ⟨serialize C after "", serialize C merged "",
            serialize C after "" != policyData.policyData⟩) := by
  have hcurrent : Proper (deserialize C policyData.policyData) := proper_deserialize _
  have hmerge : Proper (deserialize C policyData.mergePolicyData) := proper_deserialize _
  obtain ⟨handled, hhandled⟩ : ∃ handled, (if request.type = EdmConstants.FINGERPRINT_AUTH_TYPE then
      handleFingerprintAuthPolicy request.disallow (deserialize C policyData.policyData)
        (deserialize C policyData.mergePolicyData)
    else if request.type = EdmConstants.DISALLOW_FOR_ACCOUNT_TYPE then
      handleFingerprintForAccountPolicy request.disallow request.accountId
        (deserialize C policyData.policyData) (deserialize C policyData.mergePolicyData)
    else (ERR_INVALID_VALUE, deserialize C policyData.policyData,
      deserialize C policyData.mergePolicyData)) = handled := ⟨_, rfl⟩
  have hspec : Handled (itemsOf C policyData.mergePolicyData) handled := by
    rw [← hhandled]
    split
    · exact handleFingerprintAuthPolicy_handled _ hmerge
    · split
      · exact handleFingerprintForAccountPolicy_handled _ _ hcurrent hmerge
      · exact .inl rfl
  have hcall : onHandlePolicy C config request policyData =
      if handled.1 != ERR_OK then (handled.1, config, policyData)
      else
        let (ret, config) := setGlobalConfigParam request.setGlobalConfigParam config handled.2.2
        if ret != ERR_OK then (EdmReturnErrCode.SYSTEM_ABNORMALLY, config, policyData)
        else
          let afterHandle := serialize C handled.2.1 ""
          let isChanged := afterHandle != policyData.policyData
          (ERR_OK, config,
            { policyData := if isChanged then afterHandle else policyData.policyData
              mergePolicyData := serialize C handled.2.2 "", isChanged }) := by
    rw [← hhandled]
    rfl
  rw [hcall]
  rcases hspec with hfailed | ⟨hok, hafter, hmerged, hitems⟩
  · have hne : (handled.1 != ERR_OK) = true := hfailed
    rw [if_pos hne]
    exact .inl ⟨_, hfailed, rfl⟩
  · have hok : ¬ (handled.1 != ERR_OK) = true := by
      rw [hok]
      decide
    rw [if_neg hok, setGlobalConfigParam]
    cases request.setGlobalConfigParam with
    | false => exact .inl ⟨_, rfl, rfl⟩
    | true =>
      refine .inr ⟨handled.2.1, handled.2.2, hafter, hmerged, hitems, ?_⟩
      have hpolicy : (if (serialize C handled.2.1 "" != policyData.policyData) = true then
          serialize C handled.2.1 "" else policyData.policyData) = serialize C handled.2.1 "" := by
        split
        · rfl
        · rename_i hsame
          exact (bne_eq_false_iff_eq.mp (Bool.eq_false_iff.mpr hsame)).symm
      show (ERR_OK, configParam handled.2.2, HandlePolicyData.mk _ _ _) = _
      rw [hpolicy]

/-- An admin's policy is for the device or for accounts. -/
theorem listed_exclusive (admin : AdminName) (h : none ∈ listed C s admin) : listed C s admin = {none} := by
  rw [← inForce_global h]
  exact (inForce_items (proper_deserialize _)).symm

/-- What is stored and what the service has decide. -/
theorem FollowsMerge.congr (h : FollowsMerge C s) (hmodules : s'.modules = s.modules)
    (hstore : s'.store = s.store) : FollowsMerge C s' where
  combined := by
    show itemsOf C (s'.store.manager.policyValue "" _) =
      inForce (held (itemsHeld (itemsOf C) _ s'.store))
    rw [hstore]
    exact h.combined
  enforced := by
    show FingerprintAuthPlugin.enforced s'.modules = inForce (held (itemsHeld (itemsOf C) _ s'.store))
    rw [hmodules, hstore]
    exact h.enforced
  exclusive := listed_exclusive

theorem update_step (order : HashOrder) (h : GoodStore s.store) (hmerge : FollowsMerge C s)
    (hagree : Agree s admin) {request : Request}
    (hs' : policyStep (plugin C order) s (.update admin ⟨.done, .done⟩ request) = s') :
    GoodStore s'.store ∧ FollowsMerge C s' := by
  obtain ⟨others, hothers, hitems, htext⟩ := getOthersMergePolicyData_agree (C := C) h hagree
  rcases onHandlePolicy_cases (C := C) s.modules request
    (PluginManager.handlePolicyData (plugin C order) s admin) with
    ⟨ret, hfailed, hcall⟩ | ⟨after, merged, hafter, hmerged, hmergedItems, hcall⟩
  · obtain ⟨hmodules, hstore⟩ :=
      policyStep_update_cases (plugin C order) admin h policyName_ne hcall
    rw [hs'] at hmodules hstore
    rcases hstore with ⟨-, hstore⟩ | ⟨hok, -, -⟩
    · exact ⟨hstore ▸ h, hmerge.congr hmodules hstore⟩
    · rw [hfailed] at hok
      cases hok
  · obtain ⟨hmodules, hstore⟩ := policyStep_update_ok (plugin C order) admin h policyName_ne rfl
      hcall (bne_iff_ne.trans ne_comm)
    rw [hs'] at hmodules hstore
    have hlisted : listed C s' = Function.update (listed C s) admin (items after) :=
      (itemsHeld_update_ok admin (itemsOf C) hstore).trans (congrArg _ (itemsOf_serialize hafter))
    have hheld : items merged = inForce (held (listed C s')) := by
      have htext : (PluginManager.handlePolicyData (plugin C order) s admin).mergePolicyData =
        serialize C others "" := htext order
      rw [hmergedItems, htext, itemsOf_serialize hothers, hitems, hlisted, held_update]
    have henforced : enforced s'.modules = inForce (held (listed C s')) := by
      rw [hmodules, enforced_configParam hmerged, hheld]
    rcases hstore with ⟨-, hstore⟩ | ⟨-, hsaved⟩
    · refine ⟨hstore ▸ h, ⟨?_, henforced, listed_exclusive⟩⟩
      show itemsOf C (s'.store.manager.policyValue "" _) =
        inForce (held (itemsHeld (itemsOf C) _ s'.store))
      rw [hstore]
      exact hmerge.combined
    · refine ⟨h.saved admin.2 hsaved, ⟨?_, henforced, listed_exclusive⟩⟩
      rw [← hheld]
      exact (congrArg (itemsOf C) hsaved.value_combined).trans (itemsOf_serialize hmerged)

theorem removeAdmin_step (order : HashOrder) (h : GoodStore s.store) (hmerge : FollowsMerge C s)
    (hagree : Agree s admin) {answer : Bool}
    (hanswer : answer = true ∨ inForce (held (listed C s)) = heldByOthers (listed C s) admin)
    (hs' : policyStep (plugin C order) s (.removeAdmin admin ⟨.done, .done⟩ answer) = s') :
    GoodStore s'.store ∧ FollowsMerge C s' := by
  rcases policyStep_removeAdmin_cases (plugin C order) admin h policyName_ne rfl answer with
    ⟨-, hsame⟩ | ⟨-, hmodules, hsaved⟩
  · obtain rfl := hs'.symm.trans hsame
    exact ⟨h, hmerge⟩
  · rw [hs'] at hmodules hsaved
    obtain ⟨others, hothers, hitems, htext⟩ := getOthersMergePolicyData_agree (C := C) h hagree
    have htext : (plugin C order).getOthersMergePolicyData s.store.manager admin =
      serialize C others "" := htext order
    have hlisted : listed C s' = Function.update (listed C s) admin ∅ :=
      (itemsHeld_saved hsaved).trans (congrArg _ itemsOf_empty)
    have hheld : inForce (held (listed C s')) = items others := by
      rw [hlisted, held_update, Set.union_empty, heldByOthers_inForce h hagree, hitems]
    refine ⟨h.saved admin.2 hsaved, ⟨?_, ?_, listed_exclusive⟩⟩
    · rw [hheld, ← itemsOf_serialize (C := C) hothers, ← htext]
      exact congrArg (itemsOf C) hsaved.value_combined
    · have hcall : (plugin C order).onAdminRemove s.modules answer
          (s.store.manager.policyValue admin POLICY_FINGERPRINT_AUTH)
          ((plugin C order).getOthersMergePolicyData s.store.manager admin) =
            setGlobalConfigParam answer s.modules others := by
        rw [htext]
        show setGlobalConfigParam answer s.modules (deserialize C _) = _
        rw [deserialize_serialize hothers]
      have hmodules := hmodules.trans (congrArg Prod.snd hcall)
      rw [hheld, hmodules, setGlobalConfigParam]
      split
      · exact enforced_configParam hothers
      · rename_i hrefused
        rw [hitems, ← hanswer.resolve_left hrefused]
        exact hmerge.enforced

theorem step_ok (order : HashOrder) (h : GoodStore s.store ∧ FollowsMerge C s) (op : Op)
    (hkeeps : Keeps C s op) :
    (GoodStore (policyStep (plugin C order) s op).store ∧
      FollowsMerge C (policyStep (plugin C order) s op)) ∧ OpRight C s order op := by
  cases op with
  | update admin writes request =>
    obtain ⟨rfl, hagree⟩ := hkeeps
    refine ⟨update_step order h.1 h.2 hagree rfl, fun order' => ?_⟩
    obtain ⟨others, -, -, htext⟩ := getOthersMergePolicyData_agree (C := C) h.1 hagree
    exact (htext order').trans (htext order).symm
  | removeAdmin admin writes answer =>
    obtain ⟨rfl, hagree, hanswer⟩ := hkeeps
    refine ⟨removeAdmin_step order h.1 h.2 hagree hanswer rfl, fun order' => ?_⟩
    obtain ⟨others, -, -, htext⟩ := getOthersMergePolicyData_agree (C := C) h.1 hagree
    exact (htext order').trans (htext order).symm

theorem boot_ok : GoodStore boot.store ∧ FollowsMerge C boot := by
  have hnone : held (listed C boot) = ∅ := held_new itemsOf_empty DEFAULT_USER_ID
  have hempty : inForce (held (listed C boot)) = ∅ := by
    rw [hnone]
    exact Set.eq_empty_iff_forall_notMem.mpr fun x hx => hx.1
  refine ⟨goodStore_new DEFAULT_USER_ID, ⟨?_, ?_, listed_exclusive⟩⟩
  · rw [hempty]
    exact (congrArg (itemsOf C) (policyValue_new DEFAULT_USER_ID _ _)).trans itemsOf_empty
  · rw [hempty]
    refine Set.eq_empty_iff_forall_notMem.mpr fun x hx => ?_
    cases x with
    | none => exact absurd hx.1 (by decide)
    | some id => exact absurd hx.1 (by decide)

end Step

/-! ### Runs -/

/-- In a run in which the others agree at every operation, the combined policy and the service
follow the policies of all admins in every state, and no merge depends on the order in which the
others are visited. -/
theorem always_followsMerge (C : BoolCJson) (order : HashOrder) (ops : List Op)
    (hops : Each (policyStep (plugin C order)) (Keeps C) boot ops) :
    Always (policyStep (plugin C order)) (FollowsMerge C) boot ops ∧
      Each (policyStep (plugin C order)) (OpRight C · order) boot ops := by
  have hstep := fun s op (h : GoodStore s.store ∧ FollowsMerge C s) (hkeeps : Keeps C s op) =>
    step_ok order h op hkeeps
  refine ⟨?_, ?_⟩
  · exact (always_of_each (P := fun s => GoodStore s.store ∧ FollowsMerge C s)
      (fun s op h hkeeps => (hstep s op h hkeeps).1) boot_ok hops).mono fun _ h => h.2
  · exact each_of_each (I := fun s => GoodStore s.store ∧ FollowsMerge C s)
      (fun s op h hkeeps => (hstep s op h hkeeps).1) (fun s op h hkeeps => (hstep s op h hkeeps).2)
      boot_ok hops

namespace ThreeAdmins

def thirdAdmin : AdminName := ⟨"com.third", by decide⟩

def forAccount (admin : AdminName) (accountId : Int32) : Op :=
  .update admin ⟨.done, .done⟩ ⟨EdmConstants.DISALLOW_FOR_ACCOUNT_TYPE, true, accountId, true⟩

/-- An admin forbids fingerprints for an account and is removed. -/
theorem always_followsMerge_removed :
    Always (policyStep (plugin .standard .evaluated)) (FollowsMerge .standard) boot
        [forAccount firstAdmin 101, .removeAdmin firstAdmin ⟨.done, .done⟩ true] ∧
      Each (policyStep (plugin .standard .evaluated)) (OpRight .standard · .evaluated) boot
        [forAccount firstAdmin 101, .removeAdmin firstAdmin ⟨.done, .done⟩ true] := by
  have hagree : ∀ ops : List Op, (∀ op, op ∈ ops → op.admin = firstAdmin) →
      Agree (run (policyStep (plugin .standard .evaluated)) boot ops) firstAdmin := by
    intro ops hops b c hb hc hvalue
    refine absurd ?_ hvalue
    exact run_value_none (plugin .standard .evaluated) policyName_ne ⟨[], true⟩ DEFAULT_USER_ID ops
      fun op hop heq => hb (heq.trans (hops op hop))
  refine always_followsMerge .standard .evaluated _ ⟨⟨rfl, ?_⟩, ⟨rfl, ?_, .inl rfl⟩, trivial⟩
  · exact hagree [] fun op hop => absurd hop List.not_mem_nil
  · refine hagree [forAccount firstAdmin 101] fun op hop => ?_
    rw [List.mem_singleton.mp hop]
    rfl

/-- Three admins forbid fingerprints, each for an account of its own. -/
def ops : List Op :=
  [forAccount firstAdmin 101, forAccount secondAdmin 102, forAccount thirdAdmin 103]

abbrev final : PluginState GlobalConfigParam :=
  run (policyStep (plugin .standard .evaluated)) boot ops

/-- The service is not told of the first admin's account any more. -/
theorem first_account_enabled :
    ¬ ∀ (C : BoolCJson) (order : HashOrder) (ops : List Op),
      Always (policyStep (plugin C order)) (FollowsMerge C) boot ops ∧
        Each (policyStep (plugin C order)) (OpRight C · order) boot ops := by
  intro h
  have hlast : FollowsMerge .standard final :=
    always_iff_prefix.mp (h .standard .evaluated ops).1 ops List.prefix_rfl
  have hlisted : some 101 ∈ listed .standard final firstAdmin := by
    show 101 ∈ (deserialize .standard _).accountIds
    decide +kernel
  have hglobal : none ∉ held (listed .standard final) := by
    intro hnone
    have henforced : none ∈ enforced final.modules := by
      rw [hlast.enforced, inForce_global hnone]
      rfl
    have hnil := henforced.2
    revert hnil
    decide +kernel
  have henforced : some 101 ∈ enforced final.modules := by
    rw [hlast.enforced, inForce_of_notMem hglobal]
    exact ⟨firstAdmin, hlisted⟩
  have hnot : 101 ∉ final.modules.userIds := by decide +kernel
  exact hnot henforced.2

end ThreeAdmins

end FingerprintAuthPlugin

end Edm
