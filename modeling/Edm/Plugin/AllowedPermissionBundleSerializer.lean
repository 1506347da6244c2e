import Edm.Library.Groups
import Edm.Plugin.ManageAppsSerializer
import Edm.Plugin.Values

/-! Lists of application instances by permission, as policy values.  The key of an instance has its
account, but the search of an instance in a list does not look at it. -/

set_option autoImplicit false

namespace Edm

open Library

/-- `std::map<std::string, std::vector<ApplicationInstance>>`. -/
abbrev PermissionApps := List (String × List ApplicationInstance)

/-- An instance that has a permission. -/
structure AllowedEntry where
  permission : String
  appIdentifier : String
  accountId : Int32
  appIndex : Int32
  deriving DecidableEq

namespace AllowedPermissionBundleSerializer

def APP_IDENTIFIER : String := "appIdentifier"
def APP_INDEX : String := "appIndex"
def BUNDLE_NAME : String := "bundleName"
def ACCOUNT_ID : String := "accountId"

def makeKey (item : ApplicationInstance) : String :=
  item.appIdentifier ++ "_" ++ Int.repr item.accountId.toInt ++ "_" ++ Int.repr item.appIndex.toInt

/-- The account is not looked at. -/
def isAppInList (app : ApplicationInstance) (appList : List ApplicationInstance) : Bool :=
  appList.any fun item => app.appIdentifier == item.appIdentifier && app.appIndex == item.appIndex

def getAppsNotInList (sourceList targetList : List ApplicationInstance) : List ApplicationInstance :=
  sourceList.filter fun app => !isAppInList app targetList

def getAppsInList (sourceList targetList : List ApplicationInstance) : List ApplicationInstance :=
  sourceList.filter fun app => isAppInList app targetList

/-- Puts each instance of the list into the instances of the permission. -/
def putApps (put : ApplicationInstance → List ApplicationInstance → List ApplicationInstance)
    (mergedMap : PermissionApps) (permissionPair : String × List ApplicationInstance) :
    PermissionApps :=
  permissionPair.2.foldl (fun mergedMap item =>
    assign Prod.fst (permissionPair.1, put item (valuesAt permissionPair.1 mergedMap)) mergedMap)
    mergedMap

/-- `mergedMap[permissionName][mergeKey] = item` for each instance of the list. -/
def assignApps : PermissionApps → String × List ApplicationInstance → PermissionApps :=
  putApps (assign makeKey)

/-- The instances of `currentData` override those of `data`. -/
def setUnionPolicyData (data currentData : PermissionApps) : PermissionApps :=
  (currentData.foldl assignApps (data.foldl assignApps [])).filter fun pair => !pair.2.isEmpty

def setDifferencePolicyData (data currentData : PermissionApps) : PermissionApps :=
  currentData.filterMap fun (permissionName, currentAppList) =>
    if !hasKey Prod.fst permissionName data then some (permissionName, currentAppList)
    else
      let resultList := getAppsNotInList currentAppList (valuesAt permissionName data)
      if resultList = [] then none else some (permissionName, resultList)

def setIntersectionPolicyData (data currentData : PermissionApps) : PermissionApps :=
  data.filterMap fun (permissionName, dataAppList) =>
    if !hasKey Prod.fst permissionName currentData then none
    else
      let resultList := getAppsInList dataAppList (valuesAt permissionName currentData)
      if resultList = [] then none else some (permissionName, resultList)

def setNeedRemoveMergePolicyData (mergeData data : PermissionApps) : PermissionApps :=
  data.filterMap fun (permissionName, dataAppList) =>
    if !hasKey Prod.fst permissionName mergeData then
      if dataAppList = [] then none else some (permissionName, dataAppList)
    else
      let resultList := getAppsNotInList dataAppList (valuesAt permissionName mergeData)
      if resultList = [] then none else some (permissionName, resultList)

/-- The first instance of each key stays. -/
def addAppToMergedMap : PermissionApps → String × List ApplicationInstance → PermissionApps :=
  putApps (insertNew makeKey)

def mergePolicy (data : List PermissionApps) : PermissionApps :=
  (data.flatten.foldl addAppToMergedMap []).filter fun pair => !pair.2.isEmpty

variable (C : IntCJson)

/-- An account or a bundle name may be missing. -/
def parseAppItem (appItem : Json) : Option ApplicationInstance :=
  match appItem with
  | .obj _ =>
    match appItem.getObjectItem APP_IDENTIFIER, appItem.getObjectItem APP_INDEX with
    | some (.str appIdentifier), some (.number appIndex) =>
      let accountId :=
        match appItem.getObjectItem ACCOUNT_ID with
        | some (.number accountId) => C.getNumberValue accountId
        | _ => 0
      let bundleName :=
        match appItem.getObjectItem BUNDLE_NAME with
        | some (.str bundleName) => bundleName
        | _ => ""
      some { appIdentifier, bundleName, accountId, appIndex := C.getNumberValue appIndex }
    | _, _ => none
  | _ => none

def parsePermissionArray (permissionItem : Json) : Option (List ApplicationInstance) :=
  match permissionItem with
  | .arr items => items.mapM (parseAppItem C)
  | _ => none

/-- The members before the first one that is malformed, and whether there is none. -/
def deserializeMembers : List (String × Json) → PermissionApps → Bool × PermissionApps
  | [], dataObj => (true, dataObj)
  | (permissionName, permissionItem) :: members, dataObj =>
    match parsePermissionArray C permissionItem with
    | none => (false, dataObj)
    | some appList =>
      deserializeMembers members
        (if appList = [] then dataObj else assign Prod.fst (permissionName, appList) dataObj)

/-- The return value, and the map that the out parameter has after the call. -/
def deserialize (policy : String) : Bool × PermissionApps :=
  if policy = "" then (true, [])
  else
    match C.parse policy with
    | some (.obj members) => deserializeMembers C members []
    | _ => (false, [])

def createAppObject (appInfo : ApplicationInstance) : Json :=
  .obj [(APP_IDENTIFIER, .str appInfo.appIdentifier),
    (ACCOUNT_ID, .number (C.createInt appInfo.accountId)),
    (APP_INDEX, .number (C.createInt appInfo.appIndex)), (BUNDLE_NAME, .str appInfo.bundleName)]

/-- Nothing is written for the empty map. -/
def serialize (dataObj : PermissionApps) : String :=
  if dataObj = [] then ""
  else
    C.print (.obj ((dataObj.filter fun pair => !pair.2.isEmpty).map fun pair =>
      (pair.1, .arr (pair.2.map (createAppObject C)))))

/-! ### The entries of a map -/

def entryOf (permission : String) (app : ApplicationInstance) : AllowedEntry :=
  ⟨permission, app.appIdentifier, app.accountId, app.appIndex⟩

/-- The entries of a map. -/
def entries (data : PermissionApps) : List AllowedEntry :=
  data.flatMap fun pair => pair.2.map (entryOf pair.1)

/-- Maps in the order of the permissions, without empty lists. -/
structure Proper (data : PermissionApps) : Prop where
  ascend : KeysAscend Prod.fst data
  nonempty : ∀ pair, pair ∈ data → pair.2 ≠ []

/-- Entries of one permission that the search in a list does not tell apart. -/
def Similar (x y : AllowedEntry) : Prop :=
  x.permission = y.permission ∧ x.appIdentifier = y.appIdentifier ∧ x.appIndex = y.appIndex

theorem proper_nil : Proper [] := ⟨keysAscend_nil, fun _ h => absurd h List.not_mem_nil⟩

section Entries

variable {data currentData mergeData : PermissionApps} {x : AllowedEntry}

theorem mem_entries : x ∈ entries data ↔
    ∃ pair, pair ∈ data ∧ ∃ app, app ∈ pair.2 ∧ entryOf pair.1 app = x := by
  unfold entries
  rw [List.mem_flatMap]
  exact exists_congr fun pair => and_congr_right fun _ => List.mem_map

theorem mem_entries_valuesAt (h : KeysAscend Prod.fst data) : x ∈ entries data ↔
    ∃ app, app ∈ valuesAt x.permission data ∧ entryOf x.permission app = x := by
  rw [mem_entries]
  constructor
  · rintro ⟨pair, hpair, app, happ, rfl⟩
    exact ⟨app, (mem_valuesAt h).mpr ⟨pair.2, hpair, happ⟩, rfl⟩
  · rintro ⟨app, happ, hx⟩
    obtain ⟨apps, hpair, happ⟩ := (mem_valuesAt h).mp happ
    exact ⟨(x.permission, apps), hpair, app, happ, hx⟩

theorem isAppInList_iff (h : KeysAscend Prod.fst data) (permission : String)
    (app : ApplicationInstance) : isAppInList app (valuesAt permission data) = true ↔
      ∃ y, y ∈ entries data ∧ Similar (entryOf permission app) y := by
  unfold isAppInList
  rw [List.any_eq_true]
  constructor
  · rintro ⟨item, hitem, hsame⟩
    obtain ⟨hidentifier, hindex⟩ := Bool.and_eq_true_iff.mp hsame
    exact ⟨entryOf permission item, (mem_entries_valuesAt h).mpr ⟨item, hitem, rfl⟩, rfl,
      beq_iff_eq.mp hidentifier, beq_iff_eq.mp hindex⟩
  · rintro ⟨y, hy, rfl, hidentifier, hindex⟩
    obtain ⟨item, hitem, hentry⟩ := (mem_entries_valuesAt h).mp hy
    rw [← hentry] at hidentifier hindex
    exact ⟨item, hitem, Bool.and_eq_true_iff.mpr ⟨beq_iff_eq.mpr hidentifier, beq_iff_eq.mpr hindex⟩⟩

theorem valuesAt_of_not_hasKey {permission : String}
    (h : (!hasKey Prod.fst permission data) = true) : valuesAt permission data = [] :=
  valuesAt_of_notMem fun hmem => by
    rw [hasKey_iff.mpr hmem] at h
    cases h

/-- A map whose pairs keep their permissions and have some of their instances. -/
theorem proper_filterMap {keep : String × List ApplicationInstance → Option (String ×
    List ApplicationInstance)} (h : Proper data) (hkeep : ∀ pair result, pair ∈ data →
      keep pair = some result → result.1 = pair.1 ∧ result.2 ≠ []) :
    Proper (data.filterMap keep) := by
  refine ⟨?_, fun result hresult => ?_⟩
  · have hascend := h.ascend
    clear h
    induction data with
    | nil => exact keysAscend_nil
    | cons pair data ih =>
      obtain ⟨hhead, htail⟩ := List.pairwise_cons.mp hascend
      have ih := ih (fun other result hother => hkeep other result (List.mem_cons_of_mem _ hother))
        htail
      rw [List.filterMap_cons]
      cases hpair : keep pair with
      | none => exact ih
      | some result =>
        refine List.pairwise_cons.mpr ⟨fun k hk => ?_, ih⟩
        obtain ⟨kept, hkept, rfl⟩ := List.mem_map.mp hk
        obtain ⟨other, hother, hsome⟩ := List.mem_filterMap.mp hkept
        rw [(hkeep pair result List.mem_cons_self hpair).1,
          (hkeep other kept (List.mem_cons_of_mem _ hother) hsome).1]
        exact hhead _ (List.mem_map_of_mem hother)
  · obtain ⟨pair, hpair, hsome⟩ := List.mem_filterMap.mp hresult
    exact (hkeep pair result hpair hsome).2

theorem makeKey_eq_iff {item other : ApplicationInstance} (permission : String) :
    makeKey item = makeKey other ↔ entryOf permission item = entryOf permission other := by
  have hnone : ∀ n : Int, '_' ∉ (Int.repr n).toList := notMem_intRepr (by decide) (by decide)
  simp only [makeKey, entryOf, AllowedEntry.mk.injEq, true_and]
  rw [append_separator_inj rfl (hnone _) (hnone _), append_separator_inj rfl (hnone _) (hnone _),
    Int.repr_inj, Int.repr_inj, and_assoc]
  exact and_congr_right fun _ => and_congr Int32.toInt_inj Int32.toInt_inj

/-- A function that puts an instance into a list, up to the fields that make an entry. -/
def Puts (put : ApplicationInstance → List ApplicationInstance → List ApplicationInstance) : Prop :=
  ∀ item apps permission x, x ∈ (put item apps).map (entryOf permission) ↔
    x = entryOf permission item ∨ x ∈ apps.map (entryOf permission)

theorem puts_of_keys {put : ApplicationInstance → List ApplicationInstance → List ApplicationInstance}
    (hmem : ∀ item apps app, app ∈ put item apps → app = item ∨ app ∈ apps)
    (hkeys : ∀ item apps k, k ∈ (put item apps).map makeKey ↔
      k = makeKey item ∨ k ∈ apps.map makeKey) : Puts put := by
  intro item apps permission x
  constructor
  · intro hx
    obtain ⟨app, happ, rfl⟩ := List.mem_map.mp hx
    rcases hmem item apps app happ with rfl | happ
    · exact .inl rfl
    · exact .inr (List.mem_map_of_mem happ)
  · intro hx
    have happ : ∃ app, (app = item ∨ app ∈ apps) ∧ entryOf permission app = x := by
      rcases hx with rfl | hx
      · exact ⟨item, .inl rfl, rfl⟩
      · obtain ⟨app, happ, rfl⟩ := List.mem_map.mp hx
        exact ⟨app, .inr happ, rfl⟩
    obtain ⟨app, happ, rfl⟩ := happ
    have hkey : makeKey app ∈ (put item apps).map makeKey := by
      rw [hkeys]
      exact happ.imp (congrArg makeKey) List.mem_map_of_mem
    obtain ⟨found, hfound, heq⟩ := List.mem_map.mp hkey
    rw [← (makeKey_eq_iff permission).mp heq]
    exact List.mem_map_of_mem hfound

theorem puts_assign : Puts (assign makeKey) :=
  puts_of_keys (fun _ _ _ => mem_of_mem_assign) fun _ _ _ => mem_keys_assign

theorem puts_insertNew : Puts (insertNew makeKey) := by
  refine puts_of_keys (fun item apps app happ => ?_) fun _ _ _ => mem_keys_insertNew
  unfold insertNew at happ
  split at happ
  · exact .inr happ
  · exact mem_of_mem_assign happ

theorem putApps_spec {put : ApplicationInstance → List ApplicationInstance →
    List ApplicationInstance} (hput : Puts put) (h : KeysAscend Prod.fst data)
    (pair : String × List ApplicationInstance) :
    KeysAscend Prod.fst (putApps put data pair) ∧ ∀ x, x ∈ entries (putApps put data pair) ↔
      x ∈ entries data ∨ x ∈ pair.2.map (entryOf pair.1) := by
  obtain ⟨permission, apps⟩ := pair
  unfold putApps
  dsimp only
  induction apps generalizing data with
  | nil => exact ⟨h, fun x => (or_iff_left List.not_mem_nil).symm⟩
  | cons item apps ih =>
    rw [List.foldl_cons]
    obtain ⟨hascend, hmem⟩ := ih (keysAscend_assign (x := (permission,
      put item (valuesAt permission data))) h)
    refine ⟨hascend, fun x => (hmem x).trans ?_⟩
    have hassign : x ∈ entries (assign Prod.fst (permission, put item (valuesAt permission data))
        data) ↔ x ∈ entries data ∨ x = entryOf permission item := by
      rw [mem_entries_valuesAt (keysAscend_assign h), mem_entries_valuesAt h, valuesAt_assign h,
        ← List.mem_map, ← List.mem_map]
      by_cases hx : x.permission = permission
      · rw [if_pos hx, hx, hput]
        exact or_comm
      · rw [if_neg hx]
        refine (or_iff_left ?_).symm
        rintro rfl
        exact hx rfl
    rw [hassign, List.map_cons, List.mem_cons, or_assoc]

theorem foldl_putApps_spec {put : ApplicationInstance → List ApplicationInstance →
    List ApplicationInstance} (hput : Puts put) (h : KeysAscend Prod.fst currentData)
    (data : PermissionApps) :
    KeysAscend Prod.fst (data.foldl (putApps put) currentData) ∧
      ∀ x, x ∈ entries (data.foldl (putApps put) currentData) ↔
        x ∈ entries currentData ∨ x ∈ entries data := by
  induction data generalizing currentData with
  | nil => exact ⟨h, fun x => (or_iff_left List.not_mem_nil).symm⟩
  | cons pair data ih =>
    obtain ⟨hascend, hmem⟩ := putApps_spec hput h pair
    obtain ⟨hall, hmemAll⟩ := ih hascend
    refine ⟨hall, fun x => ?_⟩
    rw [List.foldl_cons, hmemAll, hmem, or_assoc]
    exact or_congr_right List.mem_append.symm

/-- Empty lists make no entries. -/
theorem filter_spec (h : KeysAscend Prod.fst data) :
    Proper (data.filter fun pair => !pair.2.isEmpty) ∧
      ∀ x, x ∈ entries (data.filter fun pair => !pair.2.isEmpty) ↔ x ∈ entries data := by
  refine ⟨⟨h.sublist (List.filter_sublist.map Prod.fst), fun pair hpair hnil => ?_⟩, fun x => ?_⟩
  · have hne := (List.mem_filter.mp hpair).2
    rw [hnil] at hne
    cases hne
  · rw [mem_entries, mem_entries]
    refine exists_congr fun pair => ⟨fun hx => ⟨(List.mem_filter.mp hx.1).1, hx.2⟩, ?_⟩
    rintro ⟨hpair, app, happ, hx⟩
    refine ⟨List.mem_filter.mpr ⟨hpair, ?_⟩, app, happ, hx⟩
    cases hlist : pair.2 with
    | nil =>
      rw [hlist] at happ
      exact absurd happ List.not_mem_nil
    | cons first rest => rfl

theorem setUnionPolicyData_spec (data currentData : PermissionApps) :
    Proper (setUnionPolicyData data currentData) ∧
      ∀ x, x ∈ entries (setUnionPolicyData data currentData) ↔
        x ∈ entries data ∨ x ∈ entries currentData := by
  obtain ⟨hascend, hmem⟩ := foldl_putApps_spec puts_assign keysAscend_nil data
  obtain ⟨hboth, hmemBoth⟩ := foldl_putApps_spec puts_assign hascend currentData
  obtain ⟨hproper, hfilter⟩ := filter_spec hboth
  refine ⟨hproper, fun x => ?_⟩
  have hnone : x ∉ entries [] := List.not_mem_nil
  refine (hfilter x).trans ?_
  rw [hmemBoth, hmem, or_iff_right hnone]

theorem mergePolicy_spec (lists : List PermissionApps) :
    Proper (mergePolicy lists) ∧
      ∀ x, x ∈ entries (mergePolicy lists) ↔ ∃ data, data ∈ lists ∧ x ∈ entries data := by
  obtain ⟨hascend, hmem⟩ := foldl_putApps_spec puts_insertNew keysAscend_nil lists.flatten
  obtain ⟨hproper, hfilter⟩ := filter_spec hascend
  refine ⟨hproper, fun x => ?_⟩
  have hnone : x ∉ entries [] := List.not_mem_nil
  refine (hfilter x).trans ?_
  rw [hmem, or_iff_right hnone, mem_entries]
  constructor
  · rintro ⟨pair, hpair, happ⟩
    obtain ⟨data, hdata, hpair⟩ := List.mem_flatten.mp hpair
    exact ⟨data, hdata, mem_entries.mpr ⟨pair, hpair, happ⟩⟩
  · rintro ⟨data, hdata, hx⟩
    obtain ⟨pair, hpair, happ⟩ := mem_entries.mp hx
    exact ⟨pair, List.mem_flatten.mpr ⟨data, hdata, hpair⟩, happ⟩

/-- A map whose pairs keep the instances that make entries of a kind. -/
structure Keeps (P : AllowedEntry → Prop)
    (keep : String × List ApplicationInstance → Option (String × List ApplicationInstance)) :
    Prop where
  permission : ∀ pair result, keep pair = some result → result.1 = pair.1
  nonempty : ∀ pair result, pair.2 ≠ [] → keep pair = some result → result.2 ≠ []
  mem : ∀ pair app, (∃ result, keep pair = some result ∧ app ∈ result.2) ↔
    app ∈ pair.2 ∧ P (entryOf pair.1 app)

theorem Keeps.spec {P : AllowedEntry → Prop}
    {keep : String × List ApplicationInstance → Option (String × List ApplicationInstance)}
    (h : Keeps P keep) (hdata : Proper data) : Proper (data.filterMap keep) ∧
      ∀ x, x ∈ entries (data.filterMap keep) ↔ x ∈ entries data ∧ P x := by
  refine ⟨proper_filterMap hdata fun pair result hpair hsome =>
    ⟨h.permission pair result hsome, h.nonempty pair result (hdata.nonempty pair hpair) hsome⟩,
    fun x => ?_⟩
  rw [mem_entries, mem_entries]
  constructor
  · rintro ⟨result, hresult, app, happ, rfl⟩
    obtain ⟨pair, hpair, hsome⟩ := List.mem_filterMap.mp hresult
    obtain ⟨happ, hP⟩ := (h.mem pair app).mp ⟨result, hsome, happ⟩
    rw [h.permission pair result hsome]
    exact ⟨⟨pair, hpair, app, happ, rfl⟩, hP⟩
  · rintro ⟨⟨pair, hpair, app, happ, rfl⟩, hP⟩
    obtain ⟨result, hsome, happ⟩ := (h.mem pair app).mpr ⟨happ, hP⟩
    refine ⟨result, List.mem_filterMap.mpr ⟨pair, hpair, hsome⟩, app, happ, ?_⟩
    rw [h.permission pair result hsome]

/-- A list of the instances of a pair that are kept, unless there is none. -/
theorem keeps_list {P : AllowedEntry → Prop}
    (keepApps : String × List ApplicationInstance → List ApplicationInstance)
    (h : ∀ pair app, app ∈ keepApps pair ↔ app ∈ pair.2 ∧ P (entryOf pair.1 app)) :
    Keeps P fun pair => if keepApps pair = [] then none else some (pair.1, keepApps pair) where
  permission pair result hsome := by
    split at hsome
    · cases hsome
    · rw [← Option.some.inj hsome]
  nonempty pair result _ hsome := by
    split at hsome
    · cases hsome
    · rename_i hne
      rwa [← Option.some.inj hsome]
  mem pair app := by
    rw [← h]
    constructor
    · rintro ⟨result, hsome, happ⟩
      split at hsome
      · cases hsome
      · rwa [← Option.some.inj hsome] at happ
    · intro happ
      rw [if_neg (List.ne_nil_of_mem happ)]
      exact ⟨_, rfl, happ⟩

theorem mem_getAppsNotInList (h : KeysAscend Prod.fst data) {permission : String}
    {apps : List ApplicationInstance} {app : ApplicationInstance} :
    app ∈ getAppsNotInList apps (valuesAt permission data) ↔
      app ∈ apps ∧ ¬ ∃ y, y ∈ entries data ∧ Similar (entryOf permission app) y := by
  rw [← isAppInList_iff h]
  simp [getAppsNotInList]

theorem getAppsNotInList_nil (apps : List ApplicationInstance) : getAppsNotInList apps [] = apps := by
  simp [getAppsNotInList, isAppInList]

theorem setIntersectionPolicyData_single (permission : String) (app : ApplicationInstance) :
    setIntersectionPolicyData [(permission, [app])] currentData =
      if isAppInList app (valuesAt permission currentData) then [(permission, [app])] else [] := by
  rw [setIntersectionPolicyData, List.filterMap_cons, List.filterMap_nil]
  dsimp only
  by_cases hkey : (!hasKey Prod.fst permission currentData) = true
  · rw [if_pos hkey, valuesAt_of_not_hasKey hkey]
    rfl
  · rw [if_neg hkey, getAppsInList]
    cases hin : isAppInList app (valuesAt permission currentData) <;> simp [hin]

theorem setNeedRemoveMergePolicyData_single (permission : String) (app : ApplicationInstance) :
    setNeedRemoveMergePolicyData mergeData [(permission, [app])] =
      if isAppInList app (valuesAt permission mergeData) then [] else [(permission, [app])] := by
  rw [setNeedRemoveMergePolicyData, List.filterMap_cons, List.filterMap_nil]
  dsimp only
  by_cases hkey : (!hasKey Prod.fst permission mergeData) = true
  · rw [if_pos hkey, valuesAt_of_not_hasKey hkey]
    rfl
  · rw [if_neg hkey, getAppsNotInList]
    cases hin : isAppInList app (valuesAt permission mergeData) <;> simp [hin]

theorem setDifferencePolicyData_spec (hdata : KeysAscend Prod.fst data)
    (hcurrent : Proper currentData) : Proper (setDifferencePolicyData data currentData) ∧
      ∀ x, x ∈ entries (setDifferencePolicyData data currentData) ↔
        x ∈ entries currentData ∧ ¬ ∃ y, y ∈ entries data ∧ Similar x y := by
  have hkeep := (keeps_list (P := fun x => ¬ ∃ y, y ∈ entries data ∧ Similar x y)
    (fun pair => getAppsNotInList pair.2 (valuesAt pair.1 data))
    fun pair app => mem_getAppsNotInList hdata).spec hcurrent
  have heq : setDifferencePolicyData data currentData = currentData.filterMap fun pair =>
      if getAppsNotInList pair.2 (valuesAt pair.1 data) = [] then none
      else some (pair.1, getAppsNotInList pair.2 (valuesAt pair.1 data)) := by
    unfold setDifferencePolicyData
    refine List.filterMap_congr fun pair hpair => ?_
    dsimp only
    by_cases hkey : (!hasKey Prod.fst pair.1 data) = true
    · rw [if_pos hkey, valuesAt_of_not_hasKey hkey, getAppsNotInList_nil,
        if_neg (hcurrent.nonempty pair hpair)]
    · rw [if_neg hkey]
  rw [heq]
  exact hkeep

end Entries

/-! ### The text of a map -/

section Text

variable {C} {data : PermissionApps}

theorem parseAppItem_createAppObject (app : ApplicationInstance) :
    parseAppItem C (createAppObject C app) = some app := by
  have hmember : ∀ {name value}, (name, value) ∈ [(APP_IDENTIFIER, Json.str app.appIdentifier),
      (ACCOUNT_ID, .number (C.createInt app.accountId)),
      (APP_INDEX, .number (C.createInt app.appIndex)), (BUNDLE_NAME, .str app.bundleName)] →
        (createAppObject C app).getObjectItem name = some value :=
    Json.getObjectItem_of_mem (by simp only [List.map_cons, List.map_nil]; decide)
  have hidentifier := @hmember APP_IDENTIFIER _ (.head _)
  have haccount := @hmember ACCOUNT_ID _ (.tail _ (.head _))
  have hindex := @hmember APP_INDEX _ (.tail _ (.tail _ (.head _)))
  have hbundle := @hmember BUNDLE_NAME _ (.tail _ (.tail _ (.tail _ (.head _))))
  unfold parseAppItem
  rw [hidentifier, hindex, haccount, hbundle]
  simp only [C.getNumberValue_createInt, createAppObject]

theorem ints_members (data : PermissionApps) :
    C.Ints (.obj (data.map fun pair => (pair.1, .arr (pair.2.map (createAppObject C))))) := by
  rw [IntCJson.Ints, Json.numbersIn_obj]
  intro member hmember
  obtain ⟨pair, -, rfl⟩ := List.mem_map.mp hmember
  dsimp only
  rw [Json.numbersIn_arr]
  intro item hitem
  obtain ⟨app, -, rfl⟩ := List.mem_map.mp hitem
  rw [createAppObject, Json.numbersIn_obj]
  simp [Json.NumbersIn]

theorem Proper.filter_eq (h : Proper data) : (data.filter fun pair => !pair.2.isEmpty) = data := by
  refine List.filter_eq_self.mpr fun pair hpair => ?_
  cases hlist : pair.2 with
  | nil => exact absurd hlist (h.nonempty pair hpair)
  | cons first rest => rfl

theorem serialize_ne_empty (hne : data ≠ []) : serialize C data ≠ "" := by
  rw [serialize, if_neg hne]
  exact C.print_ne_empty_ints (ints_members _)

theorem deserialize_empty : deserialize C "" = (true, []) := rfl

theorem deserializeMembers_spec (h : Proper data) {done : PermissionApps}
    (hascend : KeysAscend Prod.fst (done ++ data)) :
    deserializeMembers C (data.map fun pair => (pair.1, .arr (pair.2.map (createAppObject C))))
      done = (true, done ++ data) := by
  induction data generalizing done with
  | nil =>
    rw [List.append_nil]
    rfl
  | cons pair data ih =>
    have hassoc : done ++ pair :: data = (done ++ [pair]) ++ data := by
      rw [List.append_assoc, List.singleton_append]
    have hprefix : KeysAscend Prod.fst (done ++ [pair]) := by
      rw [hassoc, KeysAscend, List.map_append] at hascend
      exact (List.pairwise_append.mp hascend).1
    have hparse : parsePermissionArray C (.arr (pair.2.map (createAppObject C))) = some pair.2 := by
      show (pair.2.map (createAppObject C)).mapM (parseAppItem C) = some pair.2
      rw [List.mapM_map]
      have hread : pair.2.mapM (fun app => parseAppItem C (createAppObject C app)) =
          some (pair.2.map id) := mapM_some fun app _ => parseAppItem_createAppObject app
      rwa [List.map_id] at hread
    have hrest : Proper data := ⟨(List.pairwise_cons.mp h.ascend).2, fun other hother =>
      h.nonempty other (List.mem_cons_of_mem pair hother)⟩
    rw [List.map_cons, deserializeMembers, hparse]
    dsimp only
    rw [if_neg (h.nonempty pair List.mem_cons_self), assign_append hprefix,
      ih hrest (hassoc ▸ hascend), hassoc]

/-- The text of a map is read back as the map. -/
theorem deserialize_serialize (h : Proper data) :
    deserialize C (serialize C data) = (true, data) := by
  by_cases hnil : data = []
  · subst hnil
    rfl
  · have hparse := C.parse_print_ints _ (ints_members (C := C) data)
    rw [deserialize, if_neg (serialize_ne_empty hnil), serialize, if_neg hnil, h.filter_eq, hparse]
    exact deserializeMembers_spec h h.ascend

end Text

end AllowedPermissionBundleSerializer

end Edm
