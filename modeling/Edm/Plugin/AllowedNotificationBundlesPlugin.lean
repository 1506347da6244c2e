import Mathlib.Data.Set.Card
import Edm.Admin.Admin
import Edm.Plugin.AllowedNotificationBundlesSerializer
import Edm.Plugin.ItemPolicy

/-! `AllowedNotificationBundlesPlugin`: bundles of an account that may notify in restricted mode.
The notification service keeps the configuration that it is given last. -/

set_option autoImplicit false

namespace Edm

open Library

def POLICY_ALLOWED_NOTIFICATION_BUNDLES : String := "allowed_notification_bundles"
def NOTIFICATION_BUNDLES_MAX_SIZE : Nat := 200

namespace AllowedNotificationBundlesPlugin

open AllowedNotificationBundlesSerializer

/-- The text that the notification service has. -/
abbrev Config := String

/-- Whether notifications are allowed, whether the service takes a configuration, and what reading a
set finds that has been erased. -/
structure Answers where
  checkConflictPolicy : Bool
  setAdditionConfig : Bool
  erased : List String

structure Request where
  type : FuncOperateType
  parcel : Parcel
  answers : Answers

/-- Changes the trust list that `findUserTrustList` finds. -/
def modifyTrustList (userId : Int32) (f : List String → List String) :
    List AllowedNotificationBundlesType → List AllowedNotificationBundlesType
  | [] => []
  | item :: data =>
    if item.userId = userId then { item with trustList := f item.trustList } :: data
    else item :: modifyTrustList userId f data

/-- Inserts the bundles into the trust list of the account, or appends a new list. -/
def addTrustList (item : AllowedNotificationBundlesType)
    (data : List AllowedNotificationBundlesType) : List AllowedNotificationBundlesType :=
  match findUserTrustList data item.userId with
  | none => data ++ [item]
  | some _ => modifyTrustList item.userId (insertSet item.trustList) data

/-- The trust list whose size is checked.  When the merged data did not have the account, it is the
first one of the admin. -/
def checkedTrustList (item : AllowedNotificationBundlesType)
    (currentData mergeData : List AllowedNotificationBundlesType) : List String :=
  match findUserTrustList mergeData item.userId with
  | none => ((addTrustList item currentData).head?.map (·.trustList)).getD []
  | some trustList => insertSet item.trustList trustList

def eraseItem (userId : Int32) (data : List AllowedNotificationBundlesType) :
    List AllowedNotificationBundlesType := data.eraseP fun item => item.userId == userId

/-- What the pointer to the trust list of the account refers to when the element has been erased:
the list of the next element, if any. -/
def nextTrustList (userId : Int32) (erased : List String) :
    List AllowedNotificationBundlesType → List String
  | [] => insertSet erased []
  | item :: data =>
    if item.userId = userId then (data.head?.map (·.trustList)).getD (insertSet erased [])
    else nextTrustList userId erased data

variable (C : ArrayCJson)

/-- The empty list is published as an array. -/
def policyText (data : List AllowedNotificationBundlesType) : String :=
  let policyData := serialize C data
  if policyData = "" then "[]" else policyData

def setAdditionConfig (answer : Bool) (config : Config)
    (data : List AllowedNotificationBundlesType) : ErrCode × Config :=
  if answer then (ERR_OK, policyText C data) else (EdmReturnErrCode.SYSTEM_ABNORMALLY, config)

def onSetPolicy (answers : Answers) (config : Config)
    (data currentData mergeData : List AllowedNotificationBundlesType) :
    ErrCode × Config × List AllowedNotificationBundlesType × List AllowedNotificationBundlesType :=
  match data with
  | [item] =>
    if item.userId ≤ 0 ∨ item.trustList = [] then
      (EdmReturnErrCode.PARAMETER_VERIFICATION_FAILED, config, currentData, mergeData)
    else if !answers.checkConflictPolicy then
      (EdmReturnErrCode.CONFIGURATION_CONFLICT_FAILED, config, currentData, mergeData)
    else
      let mergeTrustList := checkedTrustList item currentData mergeData
      let currentData := addTrustList item currentData
      let mergeData := addTrustList item mergeData
      if NOTIFICATION_BUNDLES_MAX_SIZE < mergeTrustList.length then
        (EdmReturnErrCode.PARAMETER_VERIFICATION_FAILED, config, currentData, mergeData)
      else
        let (ret, config) := setAdditionConfig C answers.setAdditionConfig config mergeData
        (ret, config, currentData, mergeData)
  | _ => (EdmReturnErrCode.PARAMETER_VERIFICATION_FAILED, config, currentData, mergeData)

def onRemovePolicy (answers : Answers) (config : Config)
    (data currentData mergeData : List AllowedNotificationBundlesType) :
    ErrCode × Config × List AllowedNotificationBundlesType × List AllowedNotificationBundlesType :=
  match data with
  | [item] =>
    if item.userId ≤ 0 ∨ item.trustList = [] then
      (EdmReturnErrCode.PARAMETER_VERIFICATION_FAILED, config, currentData, mergeData)
    else
      match findUserTrustList currentData item.userId with
      | none => (ERR_OK, config, currentData, mergeData)
      | some trustList =>
        let remaining := trustList.filter fun bundleName => bundleName ∉ item.trustList
        let removed := modifyTrustList item.userId (fun _ => remaining) currentData
        let (currentData, trustList) :=
          if remaining = [] then
            (eraseItem item.userId removed, nextTrustList item.userId answers.erased removed)
          else (removed, remaining)
        let mergeData :=
          match findUserTrustList mergeData item.userId with
          | none => if trustList = [] then mergeData else mergeData ++ [⟨item.userId, trustList⟩]
          | some _ => modifyTrustList item.userId (insertSet trustList) mergeData
        let (ret, config) := setAdditionConfig C answers.setAdditionConfig config mergeData
        (ret, config, currentData, mergeData)
  | _ => (EdmReturnErrCode.PARAMETER_VERIFICATION_FAILED, config, currentData, mergeData)

def onAdminRemove (answer : Bool) (config : Config)
    (_data mergeData : List AllowedNotificationBundlesType) : ErrCode × Config :=
  setAdditionConfig C answer config mergeData

/-- The listeners by the type of the request. -/
def listener (type : FuncOperateType) (answers : Answers) (config : Config)
    (data currentData mergeData : List AllowedNotificationBundlesType) :
    ErrCode × Config × List AllowedNotificationBundlesType × List AllowedNotificationBundlesType :=
  match type with
  | .set => onSetPolicy C answers config data currentData mergeData
  | .remove => onRemovePolicy C answers config data currentData mergeData
  | _ => (ERR_OK, config, currentData, mergeData)

variable (order : HashOrder)

def plugin : Plugin Config Request Bool Empty where
  policyName := POLICY_ALLOWED_NOTIFICATION_BUNDLES
  needSave := true
  getOthersMergePolicyData := IPluginTemplate.getOthersMergePolicyData (serializer C) order
    POLICY_ALLOWED_NOTIFICATION_BUNDLES
  onHandlePolicy _ config request policyData :=
    IPluginTemplate.handlePolicy (serializer C) (listener C request.type request.answers) config
      (some (getPolicy request.parcel)) policyData
  onAdminRemove config answer := IPluginTemplate.adminRemove (serializer C)
    (onAdminRemove C answer) config
  onPluginEvent _ event := nomatch event

abbrev Op := PolicyOp Request Bool

/-- A user without policies, and a service without a configuration. -/
abbrev boot (userId : Int) : PluginState Config := PluginState.boot "" userId

section Run

variable (s : PluginState Config)

/-- The list that an admin, or the combined policy for the empty name, has. -/
def dataOf (adminName : String) : List AllowedNotificationBundlesType :=
  (deserialize C (s.store.manager.policyValue adminName
    POLICY_ALLOWED_NOTIFICATION_BUNDLES)).getD []

/-- The merged list of the other admins. -/
def othersData (admin : AdminName) : List AllowedNotificationBundlesType :=
  (deserialize C ((plugin C order).getOthersMergePolicyData s.store.manager admin)).getD []

/-- The bundles of the accounts in the list that a text stands for. -/
def itemsOf (policy : String) : Set (Int32 × String) :=
  {x | x ∈ entries ((deserialize C policy).getD [])}

/-- The bundles that an admin stores. -/
abbrev listed (admin : AdminName) : Set (Int32 × String) :=
  itemsHeld (itemsOf C) POLICY_ALLOWED_NOTIFICATION_BUNDLES s.store admin

/-- The bundles that a request names. -/
def requested (parcel : Parcel) : Set (Int32 × String) :=
  {x | x.1 = parcel.userId ∧ x.2 ∈ parcel.trustList}

/-- The bundles of an account. -/
def bundlesOf (items : Set (Int32 × String)) (userId : Int32) : Set String :=
  {name | (userId, name) ∈ items}

/-- The combined list and the published one have the bundles of all admins, and no account has more
than the limit. -/
structure FollowsUnion : Prop where
  combined : ∀ x, x ∈ entries (dataOf C s "") ↔ x ∈ held (listed C s)
  published : ∀ x, x ∈ itemsOf C s.modules ↔ x ∈ held (listed C s)
  limited : ∀ userId, (bundlesOf (held (listed C s)) userId).encard ≤ NOTIFICATION_BUNDLES_MAX_SIZE

/-- A request that the handlers look at. -/
def Valid (parcel : Parcel) : Prop := 0 < parcel.userId ∧ parcel.trustList ≠ []

/-- What an operation is to make of the bundles that the admins store: a set adds the requested ones
unless the account would have too many, a removal takes them away, and nothing else changes. -/
def target : Op → AdminName → Set (Int32 × String)
  | .update admin _ request =>
    match request.type with
    | .set =>
      Function.update (listed C s) admin {x | x ∈ listed C s admin ∨ Valid request.parcel ∧
        request.answers.checkConflictPolicy = true ∧ request.answers.setAdditionConfig = true ∧
        (bundlesOf (held (listed C s) ∪ requested request.parcel) request.parcel.userId).encard ≤
          NOTIFICATION_BUNDLES_MAX_SIZE ∧ x ∈ requested request.parcel}
    | .remove =>
      Function.update (listed C s) admin {x | x ∈ listed C s admin ∧ ¬ (Valid request.parcel ∧
        request.answers.setAdditionConfig = true ∧ x ∈ requested request.parcel)}
    | _ => listed C s
  | .removeAdmin admin _ _ => Function.update (listed C s) admin ∅

/-- A set: when the size that is checked is within the limit, the others' bundles with the requested
ones include all of the admin's, and they are not too many. -/
def SetKeeps (admin : AdminName) (parcel : Parcel) : Prop :=
  ∀ item, getPolicy parcel = [item] →
    (checkedTrustList item (dataOf C s admin) (othersData C order s admin)).length ≤
        NOTIFICATION_BUNDLES_MAX_SIZE →
      (∀ x, x ∈ listed C s admin →
        x ∈ heldByOthers (listed C s) admin ∨ x ∈ requested parcel) ∧
      (bundlesOf (heldByOthers (listed C s) admin ∪ requested parcel) parcel.userId).encard ≤
        NOTIFICATION_BUNDLES_MAX_SIZE

/-- A removal from a list that the admin has for the account: others have all bundles that the admin
has for other accounts, and when the list becomes empty, those that the pointer refers to then. -/
def RemoveKeeps (admin : AdminName) (parcel : Parcel) (erased : List String) : Prop :=
  ∀ trustList, findUserTrustList (dataOf C s admin) parcel.userId = some trustList →
    (∀ x, x ∈ listed C s admin → x.1 ≠ parcel.userId → x ∈ heldByOthers (listed C s) admin) ∧
    ((∀ name, name ∈ trustList → name ∈ parcel.trustList) →
      ∀ name, name ∈ nextTrustList parcel.userId erased (dataOf C s admin) →
        (parcel.userId, name) ∈ heldByOthers (listed C s) admin)

/-- The writes of an operation take effect, and it keeps the union.  When an admin is removed, the
service takes the configuration, or others have all bundles of the admin. -/
def Keeps : Op → Prop
  | .update admin writes request =>
    writes = ⟨.done, .done⟩ ∧ (Valid request.parcel →
      request.answers.setAdditionConfig = true →
        (request.type = .set → request.answers.checkConflictPolicy = true →
          SetKeeps C order s admin request.parcel) ∧
        (request.type = .remove → RemoveKeeps C s admin request.parcel request.answers.erased))
  | .removeAdmin admin writes answer =>
    writes = ⟨.done, .done⟩ ∧ (answer = true ∨
      ∀ x, x ∈ listed C s admin → x ∈ heldByOthers (listed C s) admin)

/-- The operation changes what the admins store as it is to. -/
def OpRight (op : Op) : Prop := listed C (policyStep (plugin C order) s op) = target C s op

end Run

/-! ### The trust lists -/

section Lists

variable {data currentData mergeData : List AllowedNotificationBundlesType} {userId : Int32}
  {f : List String → List String} {item : AllowedNotificationBundlesType} {set erased : List String}

theorem findUserTrustList_cons (first : AllowedNotificationBundlesType) :
    findUserTrustList (first :: data) userId =
      if first.userId = userId then some first.trustList else findUserTrustList data userId := by
  unfold findUserTrustList
  rw [List.find?_cons]
  by_cases hfirst : first.userId = userId
  · rw [if_pos hfirst, beq_iff_eq.mpr hfirst]
    rfl
  · rw [if_neg hfirst, beq_eq_false_iff_ne.mpr hfirst]

theorem eraseItem_cons (first : AllowedNotificationBundlesType) :
    eraseItem userId (first :: data) =
      if first.userId = userId then data else first :: eraseItem userId data := by
  unfold eraseItem
  rw [List.eraseP_cons]
  by_cases hfirst : first.userId = userId
  · rw [if_pos hfirst, beq_iff_eq.mpr hfirst]
    rfl
  · rw [if_neg hfirst, beq_eq_false_iff_ne.mpr hfirst]
    rfl

theorem map_userId_modifyTrustList :
    (modifyTrustList userId f data).map (·.userId) = data.map (·.userId) := by
  induction data with
  | nil => rfl
  | cons first data ih =>
    rw [modifyTrustList]
    split
    · rfl
    · rw [List.map_cons, List.map_cons, ih]

theorem mem_modifyTrustList (h : (data.map (·.userId)).Nodup)
    (hfind : findUserTrustList data userId = some set) :
    item ∈ modifyTrustList userId f data ↔
      item ∈ data ∧ item.userId ≠ userId ∨ item = ⟨userId, f set⟩ := by
  induction data with
  | nil => cases hfind
  | cons first data ih =>
    obtain ⟨hhead, htail⟩ := List.nodup_cons.mp h
    rw [modifyTrustList]
    by_cases hfirst : first.userId = userId
    · have hlist : first.trustList = set := by
        rw [findUserTrustList_cons, if_pos hfirst] at hfind
        exact Option.some.inj hfind
      have hrest : item ∈ data → item.userId ≠ userId := fun hitem heq =>
        hhead (List.mem_map.mpr ⟨item, hitem, heq.trans hfirst.symm⟩)
      rw [if_pos hfirst, List.mem_cons, List.mem_cons, hlist, hfirst]
      constructor
      · rintro (hitem | hitem)
        · exact .inr hitem
        · exact .inl ⟨.inr hitem, hrest hitem⟩
      · rintro (⟨heq | hitem, hne⟩ | hitem)
        · exact absurd (heq ▸ hfirst) hne
        · exact .inr hitem
        · exact .inl hitem
    · have hfind : findUserTrustList data userId = some set := by
        rwa [findUserTrustList_cons, if_neg hfirst] at hfind
      rw [if_neg hfirst, List.mem_cons, List.mem_cons, ih htail hfind]
      constructor
      · rintro (rfl | hitem | hitem)
        · exact .inl ⟨.inl rfl, hfirst⟩
        · exact .inl ⟨.inr hitem.1, hitem.2⟩
        · exact .inr hitem
      · rintro (⟨rfl | hitem, hne⟩ | hitem)
        · exact .inl rfl
        · exact .inr (.inl ⟨hitem, hne⟩)
        · exact .inr (.inr hitem)

/-- The lists after a change of the list of an account. -/
theorem modifyTrustList_spec (h : Proper data) (hfind : findUserTrustList data userId = some set)
    (hascend : KeysAscend id (f set)) : Proper (modifyTrustList userId f data) ∧
      ∀ x, x ∈ entries (modifyTrustList userId f data) ↔
        x ∈ entries data ∧ x.1 ≠ userId ∨ x.1 = userId ∧ x.2 ∈ f set := by
  have hmem : ∀ item, item ∈ modifyTrustList userId f data ↔
      item ∈ data ∧ item.userId ≠ userId ∨ item = ⟨userId, f set⟩ := fun _ =>
    mem_modifyTrustList h.nodup hfind
  refine ⟨⟨map_userId_modifyTrustList.symm ▸ h.nodup, fun item hitem => ?_⟩, fun x => ?_⟩
  · rcases (hmem item).mp hitem with ⟨hitem, -⟩ | rfl
    · exact h.ascend item hitem
    · exact hascend
  · rw [mem_entries, mem_entries]
    constructor
    · rintro ⟨item, hitem, huser, hname⟩
      rcases (hmem item).mp hitem with ⟨hitem, hne⟩ | rfl
      · exact .inl ⟨⟨item, hitem, huser, hname⟩, huser ▸ hne⟩
      · exact .inr ⟨huser.symm, hname⟩
    · rintro (⟨⟨item, hitem, huser, hname⟩, hne⟩ | ⟨huser, hname⟩)
      · exact ⟨item, (hmem item).mpr (.inl ⟨hitem, huser.symm ▸ hne⟩), huser, hname⟩
      · exact ⟨_, (hmem _).mpr (.inr rfl), huser.symm, hname⟩

theorem proper_append (h : Proper data) (hfind : findUserTrustList data item.userId = none)
    (hascend : KeysAscend id item.trustList) : Proper (data ++ [item]) ∧
      ∀ x, x ∈ entries (data ++ [item]) ↔
        x ∈ entries data ∨ x.1 = item.userId ∧ x.2 ∈ item.trustList := by
  refine ⟨⟨?_, fun other hother => ?_⟩, fun x => ?_⟩
  · rw [List.map_append, List.map_singleton]
    refine List.nodup_append.mpr ⟨h.nodup, List.nodup_singleton _, ?_⟩
    intro user huser other hother
    obtain ⟨found, hfound, rfl⟩ := List.mem_map.mp huser
    rw [List.mem_singleton.mp hother]
    exact findUserTrustList_none hfind hfound
  · rcases List.mem_append.mp hother with hother | hother
    · exact h.ascend other hother
    · rw [List.mem_singleton.mp hother]
      exact hascend
  · rw [entries, List.flatMap_append, List.mem_append, List.flatMap_singleton, List.mem_map]
    refine or_congr_right ⟨?_, fun hx => ⟨x.2, hx.2, Prod.ext hx.1.symm rfl⟩⟩
    rintro ⟨name, hname, rfl⟩
    exact ⟨rfl, hname⟩

/-- The lists after the bundles of an account are added. -/
theorem addTrustList_spec (item : AllowedNotificationBundlesType) (h : Proper data)
    (hascend : KeysAscend id item.trustList) :
    Proper (addTrustList item data) ∧ ∀ x, x ∈ entries (addTrustList item data) ↔
      x ∈ entries data ∨ x.1 = item.userId ∧ x.2 ∈ item.trustList := by
  unfold addTrustList
  cases hfind : findUserTrustList data item.userId with
  | none => exact proper_append h hfind hascend
  | some set =>
    have hset := h.ascend _ (findUserTrustList_some hfind)
    obtain ⟨hproper, hmem⟩ := modifyTrustList_spec h hfind (keysAscend_insertSet hset)
    refine ⟨hproper, fun x => (hmem x).trans ?_⟩
    rw [mem_insertSet]
    have hold := h.mem_entries_user hfind x.2
    by_cases huser : x.1 = item.userId
    · have hx : (item.userId, x.2) = x := Prod.ext huser.symm rfl
      rw [hx] at hold
      rw [hold]
      tauto
    · tauto

theorem eraseItem_modifyTrustList :
    eraseItem userId (modifyTrustList userId f data) = eraseItem userId data := by
  induction data with
  | nil => rfl
  | cons first data ih =>
    rw [modifyTrustList]
    by_cases hfirst : first.userId = userId
    · rw [if_pos hfirst, eraseItem_cons, eraseItem_cons, if_pos hfirst, if_pos hfirst]
    · rw [if_neg hfirst, eraseItem_cons, eraseItem_cons, if_neg hfirst, if_neg hfirst, ih]

theorem mem_eraseItem (h : (data.map (·.userId)).Nodup) :
    item ∈ eraseItem userId data ↔ item ∈ data ∧ item.userId ≠ userId := by
  induction data with
  | nil => exact iff_of_false List.not_mem_nil fun hitem => List.not_mem_nil hitem.1
  | cons first data ih =>
    obtain ⟨hhead, htail⟩ := List.nodup_cons.mp h
    rw [eraseItem_cons]
    by_cases hfirst : first.userId = userId
    · rw [if_pos hfirst, List.mem_cons]
      constructor
      · exact fun hitem => ⟨.inr hitem, fun heq =>
          hhead (List.mem_map.mpr ⟨item, hitem, heq.trans hfirst.symm⟩)⟩
      · rintro ⟨rfl | hitem, hne⟩
        · exact absurd hfirst hne
        · exact hitem
    · rw [if_neg hfirst, List.mem_cons, List.mem_cons, ih htail]
      constructor
      · rintro (rfl | hitem)
        · exact ⟨.inl rfl, hfirst⟩
        · exact ⟨.inr hitem.1, hitem.2⟩
      · rintro ⟨rfl | hitem, hne⟩
        · exact .inl rfl
        · exact .inr ⟨hitem, hne⟩

theorem eraseItem_spec (h : Proper data) (userId : Int32) : Proper (eraseItem userId data) ∧
    ∀ x, x ∈ entries (eraseItem userId data) ↔ x ∈ entries data ∧ x.1 ≠ userId := by
  refine ⟨⟨(List.eraseP_sublist.map _).nodup h.nodup, fun item hitem =>
    h.ascend item (List.mem_of_mem_eraseP hitem)⟩, fun x => ?_⟩
  simp only [mem_entries, mem_eraseItem h.nodup]
  constructor
  · rintro ⟨item, ⟨hitem, hne⟩, huser, hname⟩
    exact ⟨⟨item, hitem, huser, hname⟩, huser ▸ hne⟩
  · rintro ⟨⟨item, hitem, huser, hname⟩, hne⟩
    exact ⟨item, ⟨hitem, huser.symm ▸ hne⟩, huser, hname⟩

theorem nextTrustList_modifyTrustList :
    nextTrustList userId erased (modifyTrustList userId f data) =
      nextTrustList userId erased data := by
  induction data with
  | nil => rfl
  | cons first data ih =>
    rw [modifyTrustList]
    by_cases hfirst : first.userId = userId
    · rw [if_pos hfirst, nextTrustList, nextTrustList, if_pos hfirst]
    · rw [if_neg hfirst, nextTrustList, nextTrustList, if_neg hfirst, if_neg hfirst, ih]

theorem keysAscend_nextTrustList (h : ∀ item, item ∈ data → KeysAscend id item.trustList) :
    KeysAscend id (nextTrustList userId erased data) := by
  have herased : KeysAscend id (insertSet erased []) := keysAscend_insertSet keysAscend_nil
  induction data with
  | nil => exact herased
  | cons first data ih =>
    rw [nextTrustList]
    split
    · cases data with
      | nil => exact herased
      | cons next rest => exact h next (.tail _ (.head _))
    · exact ih fun item hitem => h item (List.mem_cons_of_mem first hitem)

end Lists

/-! ### The handlers -/

section Handlers

variable {C : ArrayCJson} (answers : Answers) (config : Config)
  (item : AllowedNotificationBundlesType)
  (currentData mergeData : List AllowedNotificationBundlesType)

/-- A set fails, or adds the bundles to both lists. -/
theorem onSetPolicy_cases :
    (failed (onSetPolicy C answers config [item] currentData mergeData).1 = true ∧
        (onSetPolicy C answers config [item] currentData mergeData).2.1 = config ∧
        ¬ (¬ (item.userId ≤ 0 ∨ item.trustList = []) ∧ answers.checkConflictPolicy = true ∧
          (checkedTrustList item currentData mergeData).length ≤ NOTIFICATION_BUNDLES_MAX_SIZE ∧
          answers.setAdditionConfig = true)) ∨
      ¬ (item.userId ≤ 0 ∨ item.trustList = []) ∧ answers.checkConflictPolicy = true ∧
        (checkedTrustList item currentData mergeData).length ≤ NOTIFICATION_BUNDLES_MAX_SIZE ∧
        answers.setAdditionConfig = true ∧
        onSetPolicy C answers config [item] currentData mergeData =
          (ERR_OK, policyText C (addTrustList item mergeData), addTrustList item currentData,
            addTrustList item mergeData) := by
  unfold onSetPolicy
  dsimp only
  by_cases hinvalid : item.userId ≤ 0 ∨ item.trustList = []
  · rw [if_pos hinvalid]
    exact .inl ⟨rfl, rfl, fun h => h.1 hinvalid⟩
  rw [if_neg hinvalid]
  by_cases hconflict : answers.checkConflictPolicy = true
  · rw [if_neg (by rw [hconflict]; decide)]
    by_cases hsize : NOTIFICATION_BUNDLES_MAX_SIZE <
        (checkedTrustList item currentData mergeData).length
    · rw [if_pos hsize]
      exact .inl ⟨rfl, rfl, fun h => absurd h.2.2.1 (by omega)⟩
    · rw [if_neg hsize]
      unfold setAdditionConfig
      by_cases hservice : answers.setAdditionConfig = true
      · rw [if_pos hservice]
        exact .inr ⟨hinvalid, hconflict, by omega, hservice, rfl⟩
      · rw [if_neg hservice]
        exact .inl ⟨rfl, rfl, fun h => hservice h.2.2.2⟩
  · rw [if_pos (by rw [Bool.eq_false_iff.mpr hconflict]; rfl)]
    exact .inl ⟨rfl, rfl, fun h => hconflict h.2.1⟩

variable {currentData mergeData}

/-- The bundles that a removal inserts into the merged list. -/
def insertedBundles (userId : Int32) (names erased trustList : List String)
    (currentData : List AllowedNotificationBundlesType) : List String :=
  if (trustList.filter fun bundleName => bundleName ∉ names) = [] then
    nextTrustList userId erased currentData
  else trustList.filter fun bundleName => bundleName ∉ names

/-- The admin's list without the bundles, and the set that the pointer refers to then. -/
theorem removed_spec {names erased trustList remaining inserted : List String} {userId : Int32}
    {after : List AllowedNotificationBundlesType} (h : Proper currentData)
    (hfind : findUserTrustList currentData userId = some trustList)
    (hremaining : trustList.filter (fun bundleName => bundleName ∉ names) = remaining)
    (hafter : (if remaining = [] then
        (eraseItem userId (modifyTrustList userId (fun _ => remaining) currentData),
          nextTrustList userId erased (modifyTrustList userId (fun _ => remaining) currentData))
      else (modifyTrustList userId (fun _ => remaining) currentData, remaining)) =
        (after, inserted)) :
    Proper after ∧ (∀ x, x ∈ entries after ↔
        x ∈ entries currentData ∧ ¬ (x.1 = userId ∧ x.2 ∈ names)) ∧
      inserted = insertedBundles userId names erased trustList currentData ∧
      KeysAscend id inserted := by
  have hascend : KeysAscend id remaining := by
    rw [← hremaining]
    exact (h.ascend _ (findUserTrustList_some hfind)).sublist (List.filter_sublist.map id)
  have hkept : ∀ name, name ∈ remaining ↔ name ∈ trustList ∧ name ∉ names := by
    intro name
    rw [← hremaining, List.mem_filter, decide_eq_true_iff]
  have huser : ∀ x : Int32 × String, x.1 = userId →
      (x ∈ entries currentData ↔ x.2 ∈ trustList) := by
    intro x hx
    rw [← h.mem_entries_user hfind, ← hx]
  by_cases hnil : remaining = []
  · rw [if_pos hnil, eraseItem_modifyTrustList, nextTrustList_modifyTrustList] at hafter
    obtain ⟨rfl, rfl⟩ := Prod.mk.inj hafter
    obtain ⟨hproper, hmem⟩ := eraseItem_spec h userId
    refine ⟨hproper, fun x => (hmem x).trans (and_congr_right fun hx => ?_), ?_,
      keysAscend_nextTrustList h.ascend⟩
    · refine not_congr ⟨fun heq => ⟨heq, ?_⟩, And.left⟩
      by_contra hnot
      have hin := (hkept x.2).mpr ⟨(huser x heq).mp hx, hnot⟩
      rw [hnil] at hin
      exact List.not_mem_nil hin
    · rw [insertedBundles, hremaining, if_pos hnil]
  · rw [if_neg hnil] at hafter
    obtain ⟨rfl, rfl⟩ := Prod.mk.inj hafter
    obtain ⟨hproper, hmem⟩ := modifyTrustList_spec (f := fun _ => remaining) h hfind hascend
    refine ⟨hproper, fun x => (hmem x).trans ?_, ?_, hascend⟩
    · rw [hkept]
      by_cases hx : x.1 = userId
      · rw [huser x hx]
        tauto
      · tauto
    · rw [insertedBundles, hremaining, if_neg hnil]

/-- The merged list with the bundles that a removal inserts. -/
theorem merged_spec {inserted : List String} {userId : Int32}
    {merged : List AllowedNotificationBundlesType} (h : Proper mergeData)
    (hascend : KeysAscend id inserted)
    (hmerged : (match findUserTrustList mergeData userId with
      | none => if inserted = [] then mergeData else mergeData ++ [⟨userId, inserted⟩]
      | some _ => modifyTrustList userId (insertSet inserted) mergeData) = merged) :
    Proper merged ∧ ∀ x, x ∈ entries merged ↔
      x ∈ entries mergeData ∨ x.1 = userId ∧ x.2 ∈ inserted := by
  have hadd := addTrustList_spec ⟨userId, inserted⟩ h hascend
  rw [addTrustList] at hadd
  dsimp only at hadd
  cases hfind : findUserTrustList mergeData userId with
  | none =>
    rw [hfind] at hmerged hadd
    dsimp only at hmerged hadd
    by_cases hnil : inserted = []
    · rw [if_pos hnil] at hmerged
      rw [← hmerged, hnil]
      exact ⟨h, fun x => (or_iff_left fun hx => List.not_mem_nil hx.2).symm⟩
    · rw [if_neg hnil] at hmerged
      rw [← hmerged]
      exact hadd
  | some set =>
    rw [hfind] at hmerged hadd
    rw [← hmerged]
    exact hadd

/-- A removal fails, or finds no list of the account, or takes the bundles away. -/
theorem onRemovePolicy_cases (hcurrent : Proper currentData) (hmerge : Proper mergeData) :
    (failed (onRemovePolicy C answers config [item] currentData mergeData).1 = true ∧
        (onRemovePolicy C answers config [item] currentData mergeData).2.1 = config ∧
        ¬ (¬ (item.userId ≤ 0 ∨ item.trustList = []) ∧ answers.setAdditionConfig = true)) ∨
      (findUserTrustList currentData item.userId = none ∧
        onRemovePolicy C answers config [item] currentData mergeData =
          (ERR_OK, config, currentData, mergeData)) ∨
      ∃ trustList after merged, ¬ (item.userId ≤ 0 ∨ item.trustList = []) ∧
        answers.setAdditionConfig = true ∧
        findUserTrustList currentData item.userId = some trustList ∧
        onRemovePolicy C answers config [item] currentData mergeData =
          (ERR_OK, policyText C merged, after, merged) ∧ Proper after ∧ Proper merged ∧
        (∀ x, x ∈ entries after ↔
          x ∈ entries currentData ∧ ¬ (x.1 = item.userId ∧ x.2 ∈ item.trustList)) ∧
        ∀ x, x ∈ entries merged ↔ x ∈ entries mergeData ∨ x.1 = item.userId ∧
          x.2 ∈ insertedBundles item.userId item.trustList answers.erased trustList currentData := by
  unfold onRemovePolicy
  dsimp only
  by_cases hinvalid : item.userId ≤ 0 ∨ item.trustList = []
  · rw [if_pos hinvalid]
    exact .inl ⟨rfl, rfl, fun h => h.1 hinvalid⟩
  rw [if_neg hinvalid]
  cases hfind : findUserTrustList currentData item.userId with
  | none => exact .inr (.inl ⟨rfl, rfl⟩)
  | some trustList =>
    dsimp only
    obtain ⟨remaining, hremaining⟩ : ∃ names,
      trustList.filter (fun bundleName => bundleName ∉ item.trustList) = names := ⟨_, rfl⟩
    rw [hremaining]
    obtain ⟨⟨after, inserted⟩, hafter⟩ : ∃ pair, (if remaining = [] then
        (eraseItem item.userId (modifyTrustList item.userId (fun _ => remaining) currentData),
          nextTrustList item.userId answers.erased
            (modifyTrustList item.userId (fun _ => remaining) currentData))
      else (modifyTrustList item.userId (fun _ => remaining) currentData, remaining)) = pair :=
      ⟨_, rfl⟩
    obtain ⟨hafterProper, hafterMem, hinserted, hascend⟩ :=
      removed_spec hcurrent hfind hremaining hafter
    rw [hafter]
    dsimp only
    obtain ⟨merged, hmerged⟩ : ∃ data : List AllowedNotificationBundlesType,
      (match findUserTrustList mergeData item.userId with
      | none => if inserted = [] then mergeData else mergeData ++ [⟨item.userId, inserted⟩]
      | some _ => modifyTrustList item.userId (insertSet inserted) mergeData) = data := ⟨_, rfl⟩
    obtain ⟨hmergedProper, hmergedMem⟩ := merged_spec hmerge hascend hmerged
    rw [hmerged]
    unfold setAdditionConfig
    by_cases hservice : answers.setAdditionConfig = true
    · rw [if_pos hservice]
      exact .inr (.inr ⟨trustList, after, merged, hinvalid, hservice, rfl, rfl, hafterProper,
        hmergedProper, hafterMem, hinserted ▸ hmergedMem⟩)
    · rw [if_neg hservice]
      exact .inl ⟨rfl, rfl, fun h => hservice h.2⟩

end Handlers

/-! ### The size of a trust list -/

section Size

variable {items items' : Set (Int32 × String)} {userId : Int32} {set : List String}

theorem bundlesOf_mono (h : ∀ x, x ∈ items → x ∈ items') :
    (bundlesOf items userId).encard ≤ (bundlesOf items' userId).encard :=
  Set.encard_le_encard fun name hname => h (userId, name) hname

theorem encard_list (h : set.Nodup) : {name | name ∈ set}.encard = set.length := by
  have heq : {name | name ∈ set} = (set.toFinset : Set String) :=
    Set.ext fun name => (List.mem_toFinset).symm
  rw [heq, Set.encard_coe_eq_coe_finsetCard, List.toFinset_card_of_nodup h]

theorem length_le_of_bundlesOf (h : KeysAscend id set)
    (hmem : ∀ name, name ∈ set → (userId, name) ∈ items) :
    (set.length : ℕ∞) ≤ (bundlesOf items userId).encard := by
  rw [← encard_list (nodup_of_keysAscend h)]
  exact Set.encard_le_encard hmem

/-- The trust list whose size is checked has bundles of the account, stored or added, or it is one
that the admin stores. -/
theorem checkedTrustList_spec {item : AllowedNotificationBundlesType}
    {currentData mergeData : List AllowedNotificationBundlesType} (hcurrent : Proper currentData)
    (hmerge : Proper mergeData) (hitem : KeysAscend id item.trustList) :
    KeysAscend id (checkedTrustList item currentData mergeData) ∧
      ((∀ name, name ∈ checkedTrustList item currentData mergeData →
          (item.userId, name) ∈ entries currentData ∨ (item.userId, name) ∈ entries mergeData ∨
            name ∈ item.trustList) ∨
        ∃ userId, ∀ name, name ∈ checkedTrustList item currentData mergeData →
          (userId, name) ∈ entries currentData) := by
  unfold checkedTrustList
  cases hfind : findUserTrustList mergeData item.userId with
  | some set =>
    refine ⟨keysAscend_insertSet (hmerge.ascend _ (findUserTrustList_some hfind)),
      .inl fun name hname => ?_⟩
    rw [hmerge.mem_entries_user hfind]
    rcases mem_insertSet.mp hname with hnew | hold
    · exact .inr (.inr hnew)
    · exact .inr (.inl hold)
  | none =>
    dsimp only
    obtain ⟨hproper, hmem⟩ := addTrustList_spec item hcurrent hitem
    cases hadd : addTrustList item currentData with
    | nil => exact ⟨keysAscend_nil, .inl fun name hname => absurd hname List.not_mem_nil⟩
    | cons first rest =>
      have hfirst : first ∈ addTrustList item currentData := hadd ▸ List.mem_cons_self
      have hentry : ∀ name, name ∈ first.trustList → (first.userId, name) ∈ entries currentData ∨
          first.userId = item.userId ∧ name ∈ item.trustList := fun name hname =>
        (hmem (first.userId, name)).mp (mem_entries.mpr ⟨first, hfirst, rfl, hname⟩)
      refine ⟨hproper.ascend first hfirst, ?_⟩
      by_cases huser : first.userId = item.userId
      · left
        intro name hname
        rcases hentry name hname with hold | ⟨-, hnew⟩
        · exact .inl (huser ▸ hold)
        · exact .inr (.inr hnew)
      · right
        exact ⟨first.userId, fun name hname => (hentry name hname).resolve_right fun h => huser h.1⟩

end Size

/-! ### One operation -/

section Step

variable {C : ArrayCJson} {order : HashOrder} {s s' : PluginState Config} {admin : AdminName}

/-- A text of a list. -/
def IsText (C : ArrayCJson) (policy : String) : Prop :=
  ∃ data, Proper data ∧ policy = serialize C data

abbrev Readable (C : ArrayCJson) (s : PluginState Config) : Prop :=
  TextStore (IsText C) POLICY_ALLOWED_NOTIFICATION_BUNDLES s.store

theorem policyName_ne : POLICY_ALLOWED_NOTIFICATION_BUNDLES ≠ "" := by decide

theorem isText_empty : IsText C "" := ⟨[], proper_nil, rfl⟩

theorem itemsOf_serialize {data : List AllowedNotificationBundlesType} (h : Proper data) :
    itemsOf C (serialize C data) = {x | x ∈ entries data} := by
  rw [itemsOf, deserialize_serialize h]
  rfl

theorem itemsOf_empty : itemsOf C "" = ∅ :=
  Set.eq_empty_iff_forall_notMem.mpr fun _ => List.not_mem_nil

theorem itemsOf_policyText {data : List AllowedNotificationBundlesType} (h : Proper data) :
    itemsOf C (policyText C data) = {x | x ∈ entries data} := by
  unfold policyText
  dsimp only
  by_cases hnil : data = []
  · have hempty : serialize C [] = "" := if_pos rfl
    rw [hnil, if_pos hempty, itemsOf, deserialize_brackets]
    rfl
  · rw [if_neg (serialize_ne_empty hnil), itemsOf_serialize h]

theorem deserializeNonempty_serialize {data : List AllowedNotificationBundlesType}
    (h : Proper data) :
    IPluginTemplate.deserializeNonempty (serializer C) (serialize C data) = some data := by
  unfold IPluginTemplate.deserializeNonempty
  split
  · rename_i hempty
    by_cases hnil : data = []
    · rw [hnil]
      rfl
    · exact absurd hempty (serialize_ne_empty hnil)
  · exact deserialize_serialize h

/-- An admin's list. -/
theorem Readable.current (h : Readable C s) (admin : AdminName) :
    ∃ current, Proper current ∧
      s.store.manager.policyValue admin POLICY_ALLOWED_NOTIFICATION_BUNDLES = serialize C current ∧
      dataOf C s admin = current ∧ listed C s admin = {x | x ∈ entries current} := by
  obtain ⟨current, hproper, hvalue⟩ := h.text admin
  refine ⟨current, hproper, hvalue, ?_, ?_⟩
  · rw [dataOf, hvalue, deserialize_serialize hproper]
    rfl
  · rw [listed, itemsHeld, hvalue, itemsOf_serialize hproper]

theorem getOthersMergePolicyData_text (order : HashOrder) (h : Readable C s) (admin : AdminName) :
    ∃ others, Proper others ∧
      (plugin C order).getOthersMergePolicyData s.store.manager admin = serialize C others ∧
      othersData C order s admin = others ∧
      ∀ x, x ∈ entries others ↔ x ∈ heldByOthers (listed C s) admin := by
  have hread : ∀ other : AdminName, (serializer C).deserialize
      (s.store.manager.policyValue other POLICY_ALLOWED_NOTIFICATION_BUNDLES) =
        some (dataOf C s other) := by
    intro other
    obtain ⟨current, hproper, hvalue, hdata, -⟩ := h.current other
    show deserialize C _ = _
    rw [hvalue, hdata, deserialize_serialize hproper]
  obtain ⟨htext, hmem⟩ := getOthersMergePolicyData_union (serializer C) h.good order admin
    (itemsOf C) (fun data => {x | x ∈ entries data}) (fun policy => (deserialize C policy).getD [])
    (fun _ => rfl) (fun _ => rfl) rfl itemsOf_empty (fun other => ⟨hread other, rfl⟩)
    fun lists x => (mergePolicy_spec lists).2 x
  have hproper := (mergePolicy_spec ((othersValues order s.store.manager
    POLICY_ALLOWED_NOTIFICATION_BUNDLES admin).map fun policy => (deserialize C policy).getD [])).1
  refine ⟨_, hproper, htext, ?_, hmem⟩
  have htext : (plugin C order).getOthersMergePolicyData s.store.manager admin = _ := htext
  rw [othersData, htext, deserialize_serialize hproper]
  rfl

/-- What the listener is called with, and what becomes of its result. -/
theorem onHandlePolicy_ok {request : Request}
    {current others : List AllowedNotificationBundlesType} (hcurrent : Proper current)
    (hothers : Proper others)
    (hvalue : s.store.manager.policyValue admin POLICY_ALLOWED_NOTIFICATION_BUNDLES =
      serialize C current)
    (htext : (plugin C order).getOthersMergePolicyData s.store.manager admin = serialize C others)
    {ret : ErrCode} {config : Config} {after merged : List AllowedNotificationBundlesType}
    (hlistener : listener C request.type request.answers s.modules (getPolicy request.parcel)
      current others = (ret, config, after, merged)) :
    (plugin C order).onHandlePolicy s.store.manager s.modules request
        (PluginManager.handlePolicyData (plugin C order) s admin) =
      if failed ret then
        (ret, config, PluginManager.handlePolicyData (plugin C order) s admin)
      else
        (ERR_OK, config, ⟨serialize C after, serialize C merged,
          serialize C current != serialize C after⟩) := by
  obtain ⟨policyData, hpolicyData⟩ :
    ∃ d, PluginManager.handlePolicyData (plugin C order) s admin = d := ⟨_, rfl⟩
  have hown : policyData.policyData = serialize C current := by
    rw [← hpolicyData, ← hvalue]
    rfl
  have hmerge : policyData.mergePolicyData = serialize C others := by
    rw [← hpolicyData, ← htext]
    rfl
  rw [hpolicyData]
  show IPluginTemplate.handlePolicy (serializer C) (listener C request.type request.answers)
    s.modules (some (getPolicy request.parcel)) policyData = _
  unfold IPluginTemplate.handlePolicy
  dsimp only
  rw [hown, hmerge, deserializeNonempty_serialize hcurrent, deserializeNonempty_serialize hothers]
  dsimp only
  rw [hlistener]
  rfl

/-- A request whose listener fails leaves the store and the configuration. -/
theorem failed_result (h : Readable C s) {request : Request} {ret : ErrCode}
    {handled : HandlePolicyData} (hret : failed ret = true)
    (hcall : (plugin C order).onHandlePolicy s.store.manager s.modules request
      (PluginManager.handlePolicyData (plugin C order) s admin) = (ret, s.modules, handled))
    (hs' : policyStep (plugin C order) s (.update admin ⟨.done, .done⟩ request) = s') :
    s'.modules = s.modules ∧ s'.store = s.store := by
  obtain ⟨hmodules, hstore⟩ :=
    policyStep_update_cases (plugin C order) admin h.good policyName_ne hcall
  rw [hs'] at hmodules hstore
  rcases hstore with ⟨-, hstore⟩ | ⟨hok, -, -⟩
  · exact ⟨hmodules, hstore⟩
  · rw [hret] at hok
    cases hok

/-- What a request that succeeds stores.  Nothing is written when the admin's list is as before. -/
theorem stored_result (h : Readable C s) {request : Request} {config : Config}
    {current after merged : List AllowedNotificationBundlesType} (hcurrent : Proper current)
    (hlisted : listed C s admin = {x | x ∈ entries current}) (hafter : Proper after)
    (hmerged : Proper merged)
    (hcall : (plugin C order).onHandlePolicy s.store.manager s.modules request
      (PluginManager.handlePolicyData (plugin C order) s admin) =
        (ERR_OK, config, ⟨serialize C after, serialize C merged,
          serialize C current != serialize C after⟩))
    (hs' : policyStep (plugin C order) s (.update admin ⟨.done, .done⟩ request) = s') :
    Readable C s' ∧ s'.modules = config ∧
      listed C s' = Function.update (listed C s) admin {x | x ∈ entries after} ∧
      (after = current ∧ s'.store = s.store ∨
        after ≠ current ∧ ∀ x, x ∈ entries (dataOf C s' "") ↔ x ∈ entries merged) := by
  obtain ⟨hmodules, hstore⟩ :=
    policyStep_update_cases (plugin C order) admin h.good policyName_ne hcall
  rw [hs'] at hmodules hstore
  rcases hstore with ⟨hok | hchanged, hstore⟩ | ⟨-, hchanged, hsaved⟩
  · cases hok
  · have hsame : (serialize C current != serialize C after) = false := hchanged
    have hread := deserialize_serialize (C := C) hafter
    rw [← bne_eq_false_iff_eq.mp hsame, deserialize_serialize hcurrent] at hread
    obtain rfl := (Option.some.inj hread).symm
    refine ⟨?_, hmodules, ?_, .inl ⟨rfl, hstore⟩⟩
    · show TextStore _ _ s'.store
      rw [hstore]
      exact h
    · rw [← hlisted, Function.update_eq_self]
      exact congrArg (itemsHeld _ _) hstore
  · refine ⟨h.saved hsaved ⟨after, hafter, rfl⟩ ⟨merged, hmerged, rfl⟩, hmodules, ?_, .inr ⟨?_, ?_⟩⟩
    · exact (itemsHeld_saved hsaved).trans (congrArg _ (itemsOf_serialize hafter))
    · rintro rfl
      have hne : (serialize C after != serialize C after) = true := hchanged
      exact bne_iff_ne.mp hne rfl
    · intro x
      have hcombined := congrArg (itemsOf C) hsaved.value_combined
      exact Set.ext_iff.mp (hcombined.trans (itemsOf_serialize hmerged)) x

/-- The element that a request is read as. -/
theorem getPolicy_spec (parcel : Parcel) : ∃ item, getPolicy parcel = [item] ∧
    item.userId = parcel.userId ∧ KeysAscend id item.trustList ∧
    (∀ name, name ∈ item.trustList ↔ name ∈ parcel.trustList) ∧
    (¬ (item.userId ≤ 0 ∨ item.trustList = []) ↔ Valid parcel) := by
  have hmem : ∀ name, name ∈ insertSet parcel.trustList [] ↔ name ∈ parcel.trustList :=
    fun name => mem_insertSet.trans (or_iff_left List.not_mem_nil)
  refine ⟨⟨parcel.userId, insertSet parcel.trustList []⟩, rfl, rfl,
    keysAscend_insertSet keysAscend_nil, hmem, ?_⟩
  rw [not_or, Valid, Int32.not_le]
  refine and_congr_right fun _ => not_congr ?_
  rw [List.eq_nil_iff_forall_not_mem, List.eq_nil_iff_forall_not_mem]
  exact forall_congr' fun name => not_congr (hmem name)

theorem FollowsUnion.congr (h : FollowsUnion C s) (hmodules : s'.modules = s.modules)
    (hstore : s'.store = s.store) : FollowsUnion C s' := by
  obtain ⟨store, modules, subscribed⟩ := s
  obtain ⟨store', modules', subscribed'⟩ := s'
  obtain rfl : store' = store := hstore
  obtain rfl : modules' = modules := hmodules
  exact ⟨h.combined, h.published, h.limited⟩

theorem Readable.congr (h : Readable C s) (hstore : s'.store = s.store) : Readable C s' := by
  show TextStore _ _ s'.store
  rw [hstore]
  exact h

theorem held_before (admin : AdminName) (x : Int32 × String) : x ∈ held (listed C s) ↔
    x ∈ heldByOthers (listed C s) admin ∨ x ∈ listed C s admin := by
  rw [held_eq _ admin]
  exact Iff.rfl

theorem held_after {items : Set (Int32 × String)}
    (hlisted : listed C s' = Function.update (listed C s) admin items) (x : Int32 × String) :
    x ∈ held (listed C s') ↔ x ∈ heldByOthers (listed C s) admin ∨ x ∈ items := by
  rw [hlisted, held_update]
  exact Iff.rfl

/-- The union is followed when the merged list is that of the others with what the admin stores. -/
theorem followsUnion_stored (hunion : FollowsUnion C s)
    {current after merged : List AllowedNotificationBundlesType}
    (hown : listed C s admin = {x | x ∈ entries current}) (hmerged : Proper merged)
    (hmodules : s'.modules = policyText C merged)
    (hlisted : listed C s' = Function.update (listed C s) admin {x | x ∈ entries after})
    (hcombined : after = current ∧ s'.store = s.store ∨
      after ≠ current ∧ ∀ x, x ∈ entries (dataOf C s' "") ↔ x ∈ entries merged)
    (hmem : ∀ x, x ∈ entries merged ↔ x ∈ heldByOthers (listed C s) admin ∨ x ∈ entries after)
    (hlimit : ∀ userId, (bundlesOf (held (listed C s')) userId).encard ≤
      NOTIFICATION_BUNDLES_MAX_SIZE) : FollowsUnion C s' := by
  have hheld : ∀ x, x ∈ entries merged ↔ x ∈ held (listed C s') := fun x =>
    (hmem x).trans (held_after hlisted x).symm
  refine ⟨fun x => ?_, fun x => ?_, hlimit⟩
  · rcases hcombined with ⟨rfl, hstore⟩ | ⟨-, hdata⟩
    · have hsame : listed C s' = listed C s := congrArg (itemsHeld _ _) hstore
      rw [hsame, dataOf, hstore]
      exact hunion.combined x
    · rw [hdata, hheld]
  · rw [hmodules, itemsOf_policyText hmerged, ← hheld]
    exact Iff.rfl

/-- A set. -/
theorem set_step (h : Readable C s) (hunion : FollowsUnion C s) {request : Request}
    (htype : request.type = .set)
    (hkeeps : Keeps C order s (.update admin ⟨.done, .done⟩ request))
    (hs' : policyStep (plugin C order) s (.update admin ⟨.done, .done⟩ request) = s') :
    (Readable C s' ∧ FollowsUnion C s') ∧
      listed C s' = target C s (.update admin ⟨.done, .done⟩ request) := by
  obtain ⟨current, hcurrent, hvalue, hdata, hown⟩ := h.current admin
  obtain ⟨others, hothers, htext, hothersData, hmem⟩ := getOthersMergePolicyData_text order h admin
  obtain ⟨item, hitem, huser, hascend, hnames, hvalid⟩ := getPolicy_spec request.parcel
  have hownMem := Set.ext_iff.mp hown
  have hrequested : ∀ x : Int32 × String, x.1 = item.userId ∧ x.2 ∈ item.trustList ↔
      x ∈ requested request.parcel := fun x => by rw [huser, hnames]; exact Iff.rfl
  obtain ⟨hcheckedAscend, hchecked⟩ := checkedTrustList_spec hcurrent hothers hascend
  -- The bundles of the account as the request would leave them.
  obtain ⟨size, hsize⟩ : ∃ n, (bundlesOf (held (listed C s) ∪ requested request.parcel)
    request.parcel.userId).encard = n := ⟨_, rfl⟩
  have htarget : target C s (.update admin ⟨.done, .done⟩ request) =
      Function.update (listed C s) admin {x | x ∈ listed C s admin ∨ Valid request.parcel ∧
        request.answers.checkConflictPolicy = true ∧ request.answers.setAdditionConfig = true ∧
        size ≤ NOTIFICATION_BUNDLES_MAX_SIZE ∧ x ∈ requested request.parcel} := by
    rw [← hsize, target, htype]
  have hkeepsSet : Valid request.parcel → request.answers.checkConflictPolicy = true →
      request.answers.setAdditionConfig = true →
      (checkedTrustList item current others).length ≤ NOTIFICATION_BUNDLES_MAX_SIZE →
        (∀ x, x ∈ listed C s admin →
          x ∈ heldByOthers (listed C s) admin ∨ x ∈ requested request.parcel) ∧
        (bundlesOf (heldByOthers (listed C s) admin ∪ requested request.parcel)
          request.parcel.userId).encard ≤ NOTIFICATION_BUNDLES_MAX_SIZE := by
    intro hvalid hconflict hservice hlength
    refine ((hkeeps.2 hvalid hservice).1 htype hconflict) item hitem ?_
    rwa [hdata, hothersData]
  have hlistener : listener C request.type request.answers s.modules (getPolicy request.parcel)
      current others = onSetPolicy C request.answers s.modules [item] current others := by
    rw [htype, hitem]
    rfl
  rw [htarget]
  rcases onSetPolicy_cases (C := C) request.answers s.modules item current others with
    ⟨hfailed, hconfig, hnot⟩ | ⟨hok, hconflict, hlength, hservice, heq⟩
  · obtain ⟨⟨ret, config, after, merged⟩, hresult⟩ : ∃ result,
      onSetPolicy C request.answers s.modules [item] current others = result := ⟨_, rfl⟩
    rw [hresult] at hfailed hconfig
    have hcall := onHandlePolicy_ok hcurrent hothers hvalue htext (hlistener.trans hresult)
    rw [if_pos hfailed] at hcall
    obtain rfl : config = s.modules := hconfig
    obtain ⟨hmodules, hstore⟩ := failed_result h hfailed hcall hs'
    have hsame : listed C s' = listed C s := congrArg (itemsHeld _ _) hstore
    refine ⟨⟨h.congr hstore, hunion.congr hmodules hstore⟩, ?_⟩
    rw [hsame]
    refine (Function.update_eq_self admin (listed C s)).symm.trans ?_
    refine congrArg _ (Set.ext fun x => ?_)
    refine (or_iff_left ?_).symm
    rintro ⟨hv, hconflict, hservice, hfits, -⟩
    refine hnot ⟨hvalid.mpr hv, hconflict, ?_, hservice⟩
    -- The list that is checked has bundles of one account only.
    have hle : ((checkedTrustList item current others).length : ℕ∞) ≤
        NOTIFICATION_BUNDLES_MAX_SIZE := by
      rcases hchecked with hchecked | ⟨userId, hchecked⟩
      · refine (length_le_of_bundlesOf hcheckedAscend fun name hname => ?_).trans (hsize ▸ hfits)
        rw [← huser]
        rcases hchecked name hname with hin | hin | hin
        · exact .inl ((held_before admin _).mpr (.inr ((hownMem _).mpr hin)))
        · exact .inl ((held_before admin _).mpr (.inl ((hmem _).mp hin)))
        · exact .inr ((hrequested _).mp ⟨rfl, hin⟩)
      · refine (length_le_of_bundlesOf hcheckedAscend fun name hname => ?_).trans
          (hunion.limited userId)
        exact (held_before admin _).mpr (.inr ((hownMem _).mpr (hchecked name hname)))
    exact_mod_cast hle
  · have hcall := onHandlePolicy_ok hcurrent hothers hvalue htext (hlistener.trans heq)
    rw [if_neg (show ¬ failed ERR_OK = true from Bool.false_ne_true)] at hcall
    obtain ⟨hafter, hafterMem⟩ := addTrustList_spec item hcurrent hascend
    obtain ⟨hmerged, hmergedMem⟩ := addTrustList_spec item hothers hascend
    obtain ⟨hreadable, hmodules, hlisted, hcombined⟩ :=
      stored_result h hcurrent hown hafter hmerged hcall hs'
    obtain ⟨hsub, hothersSize⟩ := hkeepsSet (hvalid.mp hok) hconflict hservice hlength
    have hafterItems : ∀ x, x ∈ entries (addTrustList item current) ↔
        x ∈ listed C s admin ∨ x ∈ requested request.parcel := by
      intro x
      rw [hafterMem, hrequested, hown]
      exact Iff.rfl
    have hheld : ∀ x, x ∈ held (listed C s') ↔
        x ∈ heldByOthers (listed C s) admin ∨ x ∈ requested request.parcel := by
      intro x
      rw [held_after hlisted]
      show _ ∨ x ∈ entries _ ↔ _
      rw [hafterItems]
      exact ⟨fun hx => hx.elim .inl fun hx => hx.elim (hsub x) .inr, Or.imp_right .inr⟩
    have hfits : size ≤ NOTIFICATION_BUNDLES_MAX_SIZE := by
      rw [← hsize]
      refine (bundlesOf_mono fun x hx => ?_).trans hothersSize
      rcases hx with hx | hx
      · exact ((held_before admin x).mp hx).elim .inl (hsub x)
      · exact .inr hx
    refine ⟨⟨hreadable, followsUnion_stored hunion hown hmerged hmodules hlisted hcombined
      (fun x => ?_) fun userId => ?_⟩, ?_⟩
    · have hstored := (held_after hlisted x).symm.trans (hheld x)
      exact ((hmergedMem x).trans (or_congr (hmem x) (hrequested x))).trans hstored.symm
    · by_cases hother : userId = request.parcel.userId
      · rw [hother]
        exact (bundlesOf_mono fun x hx => (hheld x).mp hx).trans hothersSize
      · refine le_trans (Set.encard_le_encard fun name hname => ?_) (hunion.limited userId)
        rcases (hheld _).mp hname with hin | hin
        · exact (held_before admin _).mpr (.inl hin)
        · exact absurd hin.1 hother
    · rw [hlisted]
      refine congrArg _ (Set.ext fun x => (hafterItems x).trans (or_congr_right ?_))
      exact ⟨fun hx => ⟨hvalid.mp hok, hconflict, hservice, hfits, hx⟩, fun hx => hx.2.2.2.2⟩

/-- A removal. -/
theorem remove_step (h : Readable C s) (hunion : FollowsUnion C s) {request : Request}
    (htype : request.type = .remove)
    (hkeeps : Keeps C order s (.update admin ⟨.done, .done⟩ request))
    (hs' : policyStep (plugin C order) s (.update admin ⟨.done, .done⟩ request) = s') :
    (Readable C s' ∧ FollowsUnion C s') ∧
      listed C s' = target C s (.update admin ⟨.done, .done⟩ request) := by
  obtain ⟨current, hcurrent, hvalue, hdata, hown⟩ := h.current admin
  obtain ⟨others, hothers, htext, -, hmem⟩ := getOthersMergePolicyData_text order h admin
  obtain ⟨item, hitem, huser, -, hnames, hvalid⟩ := getPolicy_spec request.parcel
  have hownMem : ∀ x, x ∈ listed C s admin ↔ x ∈ entries current := Set.ext_iff.mp hown
  have hrequested : ∀ x : Int32 × String, x.1 = item.userId ∧ x.2 ∈ item.trustList ↔
      x ∈ requested request.parcel := fun x => by rw [huser, hnames]; exact Iff.rfl
  have htarget : target C s (.update admin ⟨.done, .done⟩ request) =
      Function.update (listed C s) admin {x | x ∈ listed C s admin ∧ ¬ (Valid request.parcel ∧
        request.answers.setAdditionConfig = true ∧ x ∈ requested request.parcel)} := by
    rw [target, htype]
  have hlistener : listener C request.type request.answers s.modules (getPolicy request.parcel)
      current others = onRemovePolicy C request.answers s.modules [item] current others := by
    rw [htype, hitem]
    rfl
  -- Nothing changes when the request removes none of the bundles.
  have hnothing : s'.modules = s.modules → s'.store = s.store → (∀ x, x ∈ listed C s admin →
      ¬ (Valid request.parcel ∧ request.answers.setAdditionConfig = true ∧
        x ∈ requested request.parcel)) → (Readable C s' ∧ FollowsUnion C s') ∧ listed C s' =
          target C s (.update admin ⟨.done, .done⟩ request) := by
    intro hmodules hstore hnone
    have hsame : listed C s' = listed C s := congrArg (itemsHeld _ _) hstore
    refine ⟨⟨h.congr hstore, hunion.congr hmodules hstore⟩, ?_⟩
    rw [hsame, htarget]
    refine (Function.update_eq_self admin (listed C s)).symm.trans ?_
    refine congrArg _ (Set.ext fun x => ?_)
    exact ⟨fun hx => ⟨hx, hnone x hx⟩, And.left⟩
  rcases onRemovePolicy_cases (C := C) request.answers s.modules item hcurrent hothers with
    ⟨hfailed, hconfig, hnot⟩ | ⟨hfind, heq⟩ | ⟨trustList, after, merged, hok, hservice, hfind, heq,
      hafter, hmerged, hafterMem, hmergedMem⟩
  · obtain ⟨⟨ret, config, after, merged⟩, hresult⟩ : ∃ result,
      onRemovePolicy C request.answers s.modules [item] current others = result := ⟨_, rfl⟩
    rw [hresult] at hfailed hconfig
    have hcall := onHandlePolicy_ok hcurrent hothers hvalue htext (hlistener.trans hresult)
    rw [if_pos hfailed] at hcall
    obtain rfl : config = s.modules := hconfig
    obtain ⟨hmodules, hstore⟩ := failed_result h hfailed hcall hs'
    exact hnothing hmodules hstore fun x _ hx => hnot ⟨hvalid.mpr hx.1, hx.2.1⟩
  · have hcall := onHandlePolicy_ok hcurrent hothers hvalue htext (hlistener.trans heq)
    rw [if_neg (show ¬ failed ERR_OK = true from Bool.false_ne_true)] at hcall
    obtain ⟨-, hmodules, -, ⟨-, hstore⟩ | ⟨hne, -⟩⟩ :=
      stored_result h hcurrent hown hcurrent hothers hcall hs'
    · refine hnothing hmodules hstore fun x hx hrequest => ?_
      have hx : (item.userId, x.2) ∈ entries current := by
        rw [← ((hrequested x).mpr hrequest.2.2).1]
        exact (hownMem x).mp hx
      exact notMem_entries_user hfind x.2 hx
    · exact absurd rfl hne
  · have hcall := onHandlePolicy_ok hcurrent hothers hvalue htext (hlistener.trans heq)
    rw [if_neg (show ¬ failed ERR_OK = true from Bool.false_ne_true)] at hcall
    obtain ⟨hreadable, hmodules, hlisted, hcombined⟩ :=
      stored_result h hcurrent hown hafter hmerged hcall hs'
    have hkeepsRemove : RemoveKeeps C s admin request.parcel request.answers.erased :=
      (hkeeps.2 (hvalid.mp hok) hservice).2 htype
    obtain ⟨helse, hnext⟩ := hkeepsRemove trustList (by rw [hdata, ← huser]; exact hfind)
    have huserMem : ∀ name, (item.userId, name) ∈ entries current ↔ name ∈ trustList :=
      hcurrent.mem_entries_user hfind
    have hheld : ∀ x, x ∈ entries merged ↔
        x ∈ heldByOthers (listed C s) admin ∨ x ∈ entries after := by
      intro x
      rw [hmergedMem, hmem, hafterMem, ← hownMem]
      unfold insertedBundles
      constructor
      · rintro (hx | ⟨hx, hname⟩)
        · exact .inl hx
        · have hpair : (item.userId, x.2) = x := Prod.ext hx.symm rfl
          split at hname
          · rename_i hnil
            left
            rw [← hpair, huser]
            refine hnext (fun name hin => ?_) x.2 (by rw [hdata, ← huser]; exact hname)
            by_contra hnot
            have hmemNil : name ∈ trustList.filter fun bundleName =>
                bundleName ∉ item.trustList :=
              List.mem_filter.mpr ⟨hin, decide_eq_true fun h => hnot ((hnames name).mp h)⟩
            rw [hnil] at hmemNil
            exact List.not_mem_nil hmemNil
          · obtain ⟨hin, hnot⟩ := List.mem_filter.mp hname
            refine .inr ⟨(hownMem x).mpr (hpair ▸ (huserMem x.2).mpr hin), fun hreq => ?_⟩
            exact of_decide_eq_true hnot hreq.2
      · rintro (hx | ⟨hx, hnot⟩)
        · exact .inl hx
        · by_cases hsame : x.1 = item.userId
          · have hpair : (item.userId, x.2) = x := Prod.ext hsame.symm rfl
            have hkept : x.2 ∈ trustList.filter fun bundleName => bundleName ∉ item.trustList :=
              List.mem_filter.mpr ⟨(huserMem x.2).mp (hpair.symm ▸ (hownMem x).mp hx),
                decide_eq_true fun h => hnot ⟨hsame, h⟩⟩
            rw [if_neg (List.ne_nil_of_mem hkept)]
            exact .inr ⟨hsame, hkept⟩
          · exact .inl (helse x hx (huser ▸ hsame))
    refine ⟨⟨hreadable, followsUnion_stored hunion hown hmerged hmodules hlisted hcombined hheld
      fun userId => ?_⟩, ?_⟩
    · refine (bundlesOf_mono fun x hx => ?_).trans (hunion.limited userId)
      refine (held_before admin x).mpr (((held_after hlisted x).mp hx).imp_right fun hx => ?_)
      exact (hownMem x).mpr ((hafterMem x).mp hx).1
    · rw [hlisted, htarget]
      refine congrArg _ (Set.ext fun x => (hafterMem x).trans ?_)
      rw [hrequested]
      exact and_congr (hownMem x).symm
        (not_congr ⟨fun hx => ⟨hvalid.mp hok, hservice, hx⟩, fun hx => hx.2.2⟩)

/-- A request of another type does nothing. -/
theorem other_step (h : Readable C s) (hunion : FollowsUnion C s) {request : Request}
    (hset : request.type ≠ .set) (hremove : request.type ≠ .remove)
    (hs' : policyStep (plugin C order) s (.update admin ⟨.done, .done⟩ request) = s') :
    (Readable C s' ∧ FollowsUnion C s') ∧
      listed C s' = target C s (.update admin ⟨.done, .done⟩ request) := by
  obtain ⟨current, hcurrent, hvalue, -, hown⟩ := h.current admin
  obtain ⟨others, hothers, htext, -, -⟩ := getOthersMergePolicyData_text order h admin
  have hlistener : listener C request.type request.answers s.modules (getPolicy request.parcel)
      current others = (ERR_OK, s.modules, current, others) := by
    cases htype : request.type with
    | set => exact absurd htype hset
    | remove => exact absurd htype hremove
    | get => rfl
    | unknown => rfl
  have htarget : target C s (.update admin ⟨.done, .done⟩ request) = listed C s := by
    cases htype : request.type with
    | set => exact absurd htype hset
    | remove => exact absurd htype hremove
    | get => rw [target, htype]
    | unknown => rw [target, htype]
  have hcall := onHandlePolicy_ok hcurrent hothers hvalue htext hlistener
  rw [if_neg (show ¬ failed ERR_OK = true from Bool.false_ne_true)] at hcall
  obtain ⟨hreadable, hmodules, -, ⟨-, hstore⟩ | ⟨hne, -⟩⟩ :=
    stored_result h hcurrent hown hcurrent hothers hcall hs'
  · refine ⟨⟨hreadable, hunion.congr hmodules hstore⟩, ?_⟩
    rw [htarget]
    exact congrArg (itemsHeld _ _) hstore
  · exact absurd rfl hne

/-- A removal of an admin. -/
theorem removeAdmin_step (h : Readable C s) (hunion : FollowsUnion C s) {answer : Bool}
    (hkeeps : Keeps C order s (.removeAdmin admin ⟨.done, .done⟩ answer))
    (hs' : policyStep (plugin C order) s (.removeAdmin admin ⟨.done, .done⟩ answer) = s') :
    (Readable C s' ∧ FollowsUnion C s') ∧
      listed C s' = target C s (.removeAdmin admin ⟨.done, .done⟩ answer) := by
  obtain ⟨current, hcurrent, hvalue, -, hown⟩ := h.current admin
  obtain ⟨others, hothers, htext, -, hmem⟩ := getOthersMergePolicyData_text order h admin
  rcases policyStep_removeAdmin_cases (plugin C order) admin h.good policyName_ne rfl answer with
    ⟨hnone, hsame⟩ | ⟨-, hmodules, hsaved⟩
  · obtain rfl := hs'.symm.trans hsame
    refine ⟨⟨h, hunion⟩, ?_⟩
    have hempty : listed C s' admin = ∅ := by
      rw [listed, itemsHeld]
      exact (congrArg (itemsOf C) hnone).trans itemsOf_empty
    rw [target, ← hempty, Function.update_eq_self]
  · rw [hs'] at hmodules hsaved
    rw [htext] at hmodules hsaved
    have hvalue : s.store.manager.policyValue admin (plugin C order).policyName =
      serialize C current := hvalue
    rw [hvalue] at hmodules
    have hlisted : listed C s' = Function.update (listed C s) admin ∅ :=
      (itemsHeld_saved hsaved).trans (congrArg _ itemsOf_empty)
    have hheld : ∀ x, x ∈ held (listed C s') ↔ x ∈ heldByOthers (listed C s) admin := fun x =>
      (held_after hlisted x).trans (or_iff_left fun hx => hx)
    refine ⟨⟨h.saved hsaved isText_empty ⟨others, hothers, rfl⟩, ⟨fun x => ?_, fun x => ?_,
      fun userId => ?_⟩⟩, hlisted⟩
    · rw [hheld, ← hmem]
      have hcombined := congrArg (itemsOf C) hsaved.value_combined
      exact Set.ext_iff.mp (hcombined.trans (itemsOf_serialize hothers)) x
    · have hcall : (plugin C order).onAdminRemove s.modules answer (serialize C current)
          (serialize C others) = setAdditionConfig C answer s.modules others := by
        show IPluginTemplate.adminRemove (serializer C) (onAdminRemove C answer) s.modules
          (serialize C current) (serialize C others) = _
        have hreadCurrent : (serializer C).deserialize (serialize C current) = some current :=
          deserialize_serialize hcurrent
        have hreadOthers : (serializer C).deserialize (serialize C others) = some others :=
          deserialize_serialize hothers
        rw [IPluginTemplate.adminRemove, hreadCurrent, hreadOthers]
        rfl
      rw [hcall] at hmodules
      unfold setAdditionConfig at hmodules
      rw [hheld]
      by_cases hanswer : answer = true
      · rw [if_pos hanswer] at hmodules
        rw [hmodules, itemsOf_policyText hothers, ← hmem]
        exact Iff.rfl
      · rw [if_neg hanswer] at hmodules
        have hsub := hkeeps.2.resolve_left hanswer
        rw [hmodules, hunion.published, held_before admin]
        exact or_iff_left_of_imp (hsub x)
    · refine (bundlesOf_mono fun x hx => ?_).trans (hunion.limited userId)
      exact (held_before admin x).mpr (.inl ((hheld x).mp hx))

theorem step_ok (order : HashOrder) (h : Readable C s ∧ FollowsUnion C s) (op : Op)
    (hkeeps : Keeps C order s op) : (Readable C (policyStep (plugin C order) s op) ∧
      FollowsUnion C (policyStep (plugin C order) s op)) ∧ OpRight C order s op := by
  obtain ⟨s', hs'⟩ : ∃ s', policyStep (plugin C order) s op = s' := ⟨_, rfl⟩
  rw [OpRight, hs']
  cases op with
  | update admin writes request =>
    obtain rfl : writes = ⟨.done, .done⟩ := hkeeps.1
    by_cases hset : request.type = .set
    · exact set_step h.1 h.2 hset hkeeps hs'
    · by_cases hremove : request.type = .remove
      · exact remove_step h.1 h.2 hremove hkeeps hs'
      · exact other_step h.1 h.2 hset hremove hs'
  | removeAdmin admin writes answer =>
    obtain rfl : writes = ⟨.done, .done⟩ := hkeeps.1
    exact removeAdmin_step h.1 h.2 hkeeps hs'

theorem boot_ok (C : ArrayCJson) (userId : Int) :
    Readable C (boot userId) ∧ FollowsUnion C (boot userId) := by
  have hnone : ∀ x, x ∉ held (listed C (boot userId)) :=
    Set.eq_empty_iff_forall_notMem.mp (held_new itemsOf_empty userId)
  refine ⟨textStore_new isText_empty userId, fun x => ?_, fun x => ?_, fun user => ?_⟩
  · refine iff_of_false ?_ (hnone x)
    have hempty : itemsOf C ((boot userId).store.manager.policyValue ""
        POLICY_ALLOWED_NOTIFICATION_BUNDLES) = ∅ :=
      (congrArg (itemsOf C) (policyValue_new userId _ _)).trans itemsOf_empty
    exact Set.eq_empty_iff_forall_notMem.mp hempty x
  · exact iff_of_false (Set.eq_empty_iff_forall_notMem.mp (itemsOf_empty (C := C)) x) (hnone x)
  · have hempty : bundlesOf (held (listed C (boot userId))) user = ∅ :=
      Set.eq_empty_iff_forall_notMem.mpr fun name => hnone (user, name)
    rw [hempty, Set.encard_empty]
    exact bot_le

end Step

/-! ### Runs -/

namespace OtherAccount

/-- Notifications are allowed, and the service takes every configuration. -/
def accepts : Answers := ⟨true, true, []⟩

def parcel (userId : Int32) : Parcel := ⟨["com.app"], userId⟩

def request (userId : Int32) : Request := ⟨.set, parcel userId, accepts⟩

/-- An admin sets the list of one account, and then that of another. -/
def ops : List Op :=
  [.update firstAdmin ⟨.done, .done⟩ (request 100), .update firstAdmin ⟨.done, .done⟩ (request 101)]

abbrev final : PluginState Config :=
  run (policyStep (plugin .standard .evaluated)) (boot 100) ops

end OtherAccount

end AllowedNotificationBundlesPlugin

end Edm
