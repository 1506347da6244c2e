import Edm.Admin.Admin
import Edm.Library.NamedSections
import Edm.Plugin.JsonObject
import Edm.Plugin.TemplatePolicy

/-! `SetBrowserPoliciesPlugin`: browser policies, kept as an object of policies for each app. -/

set_option autoImplicit false

namespace Edm

open Library

def POLICY_SET_BROWSER_POLICIES : String := "set_browser_policies"

namespace SetBrowserPoliciesPlugin

def EMPTY_OBJECT_STRING : String := "{}"

/-- The policies of all apps, in memory. -/
abbrev Root := CJsonNode (CJsonNode Json)

variable (C : TreeCJson)

/-! ### The others' policies -/

/-- The loop over the items of an app's policies.  An item without a name cannot be added. -/
def addBrowserPolicyToRoot (policy : CJsonNode Json) (adminPolicy : CJsonNode Json) :
    Option (CJsonNode Json) :=
  adminPolicy.children.foldlM (fun policy item =>
    match item.1 with
    | none => none
    | some name => some ((policy.deleteItemFromObject name).addItemToObject name item.2)) policy

/-- The loop over the apps of an admin's policies. -/
def addAppsToRoot (root : Root) (apps : List (Option String × CJsonNode Json)) : Option Root :=
  apps.foldlM (fun root adminPolicy =>
    match adminPolicy.1 with
    | none => none
    | some app =>
      match root.getObjectItem app with
      | none => some (root.addItemToObject app adminPolicy.2)
      | some policy => do
        let policy ← addBrowserPolicyToRoot policy adminPolicy.2
        return root.modifyItem app fun _ => policy) root

def addBrowserPoliciesToRoot (root : Root) (policiesString : String) : Option Root :=
  if policiesString = "" then some root
  else
    match C.parse policiesString with
    | none => none
    | some adminPolicies => addAppsToRoot root (CJsonNode.root adminPolicies).children

def mergeBrowserPolicy (adminValues : List String) : Option String := do
  let root ← adminValues.foldlM (addBrowserPoliciesToRoot C) ⟨.object, []⟩
  return C.print root.rootJson

/-- Every failure leaves the out parameter empty. -/
def getOthersMergePolicyData (order : HashOrder) (m : UserPolicyManager) (adminName : String) :
    String :=
  let adminValues := (m.adminValues POLICY_SET_BROWSER_POLICIES).erase adminName
  if UnorderedMap.isEmpty adminValues then ""
  else (mergeBrowserPolicy C ((order.entries adminValues).map Prod.snd)).getD ""

/-! ### Requests -/

/-- The policies of an admin after a request for an app. -/
def setRootPolicy (currentPolicies mergePolicies : Root) (appid policyValue : String) :
    ErrCode × Root :=
  if (mergePolicies.getObjectItem appid).isSome then
    (EdmReturnErrCode.PARAM_ERROR, currentPolicies)
  else
    let currentPolicies := currentPolicies.deleteItemFromObject appid
    if policyValue = "" then (ERR_OK, currentPolicies)
    else
      match C.parse policyValue with
      | none => (EdmReturnErrCode.PARAM_ERROR, currentPolicies)
      | some value => (ERR_OK, currentPolicies.addItemToObject appid (.ofJson value))

/-- The policies of an admin after a request for one policy of an app. -/
def setPolicy (currentPolicies mergePolicies : Root) (appid policyName policyValue : String) :
    ErrCode × Root :=
  if ((mergePolicies.getObjectItem appid).bind fun mergePolicy =>
      mergePolicy.getObjectItem policyName).isSome then
    (EdmReturnErrCode.PARAM_ERROR, currentPolicies)
  else
    let currentPolicies :=
      if (currentPolicies.getObjectItem appid).isSome then currentPolicies
      else currentPolicies.addItemToObject appid ⟨.object, []⟩
    let currentPolicies :=
      currentPolicies.modifyItem appid fun policy => policy.deleteItemFromObject policyName
    if policyValue = "" then (ERR_OK, currentPolicies)
    else
      match C.parse policyValue with
      | none => (EdmReturnErrCode.PARAM_ERROR, currentPolicies)
      | some value =>
        (ERR_OK,
          currentPolicies.modifyItem appid fun policy => policy.addItemToObject policyName value)

/-- The loop over the apps of the admin's policies.  The policies of an app that others have are
added to the first child of the others' policies. -/
def updateMergePolicies (currentPolicies mergePolicies : Root) : Root :=
  currentPolicies.children.foldl (fun mergePolicies currentItem =>
    match currentItem.1 with
    | none => mergePolicies
    | some app =>
      if (mergePolicies.getObjectItem app).isSome then
        currentItem.2.children.foldl (fun mergePolicies policyItem =>
          match policyItem.1 with
          | none => mergePolicies
          | some name => mergePolicies.modifyChild fun child =>
            child.addItemToObject name policyItem.2) mergePolicies
      else mergePolicies.addItemToObject app currentItem.2) mergePolicies

def updateCurrentAndMergePolicy (currentPolicies mergePolicies : Root)
    (policyData : HandlePolicyData) : ErrCode × HandlePolicyData :=
  let afterHandle := C.print currentPolicies.rootJson
  let afterMerge := C.print (updateMergePolicies currentPolicies mergePolicies).rootJson
  if afterHandle = "" ∨ afterMerge = "" then (EdmReturnErrCode.SYSTEM_ABNORMALLY, policyData)
  else
    let isChanged := afterHandle != policyData.policyData
    (ERR_OK,
      { policyData := if isChanged then afterHandle else policyData.policyData
        mergePolicyData := afterMerge
        isChanged })

/-- The parameters of a request. -/
abbrev Request := List String

def onHandlePolicy (params : Request) (policyData : HandlePolicyData) :
    ErrCode × HandlePolicyData :=
  match params with
  | appid :: policyName :: policyValue :: _ =>
    if appid = "" then (EdmReturnErrCode.PARAM_ERROR, policyData)
    else
      let policyData : HandlePolicyData :=
        { policyData with
          policyData :=
            if policyData.policyData = "" then EMPTY_OBJECT_STRING else policyData.policyData
          mergePolicyData :=
            if policyData.mergePolicyData = "" then EMPTY_OBJECT_STRING
            else policyData.mergePolicyData }
      match C.parse policyData.policyData, C.parse policyData.mergePolicyData with
      | some currentPolicies, some mergePolicies =>
        let currentPolicies := CJsonNode.root currentPolicies
        let mergePolicies := CJsonNode.root mergePolicies
        let (errCode, currentPolicies) :=
          if policyName = "" then
            setRootPolicy C currentPolicies mergePolicies appid policyValue
          else setPolicy C currentPolicies mergePolicies appid policyName policyValue
        if errCode != ERR_OK then (errCode, policyData)
        else updateCurrentAndMergePolicy C currentPolicies mergePolicies policyData
      | _, _ => (EdmReturnErrCode.SYSTEM_ABNORMALLY, policyData)
  | _ => (EdmReturnErrCode.PARAM_ERROR, policyData)

/-- The plugin has no modules, and the default `OnAdminRemove`.  It reads the others' policies of
the default user, whose policies are `defaultUser`. -/
def plugin (order : HashOrder) (defaultUser : UserPolicyManager) :
    Plugin Unit Request Unit Empty where
  policyName := POLICY_SET_BROWSER_POLICIES
  needSave := true
  getOthersMergePolicyData _ := getOthersMergePolicyData C order defaultUser
  onHandlePolicy _ _ params policyData :=
    let (ret, policyData) := onHandlePolicy C params policyData
    (ret, (), policyData)
  onAdminRemove _ _ _ _ := (ERR_OK, ())
  onPluginEvent _ event := nomatch event

/-! ### Policies as lists -/

/-- The policies of all apps. -/
abbrev Apps := List (NamedSection String Json)

def tree (apps : Apps) : Json := .obj (apps.map fun app => (app.1, .obj app.2))

def rootOf (apps : Apps) : Root := .ofMembers (apps.map fun app => (app.1, .ofMembers app.2))

section Lists

open CJsonNode Json

variable {C} {apps before after own others : Apps} {app appid : String}
  {t : NamedSection String Json} {entries more : List (String × Json)}

theorem root_tree (apps : Apps) : root (tree apps) = rootOf apps := by
  simp only [root, tree, ofJson_obj, rootOf, ofMembers, List.map_map]
  rfl

theorem rootJson_rootOf (apps : Apps) : (rootOf apps).rootJson = tree apps := by
  rw [rootJson, rootOf, toJson_ofMembers, List.map_map]
  simp [tree, Function.comp_def, toJson_ofMembers]

theorem rootOf_append : rootOf (before ++ t :: after) =
    .ofMembers (before.map (fun app => (app.1, .ofMembers app.2)) ++ (t.1, .ofMembers t.2) ::
      after.map fun app => (app.1, .ofMembers app.2)) := by
  rw [rootOf, List.map_append, List.map_cons]

theorem getObjectItem_none (h : ∀ t, t ∈ apps → nameKey t.1 ≠ nameKey app) :
    (rootOf apps).getObjectItem app = none := by
  refine getObjectItem_absent fun member hmember => ?_
  obtain ⟨t, ht, rfl⟩ := List.mem_map.mp hmember
  exact h t ht

section Split

variable (ht : nameKey t.1 = nameKey app) (hbefore : ∀ u, u ∈ before → nameKey u.1 ≠ nameKey app)
include ht hbefore

theorem getObjectItem_some :
    (rootOf (before ++ t :: after)).getObjectItem app = some (.ofMembers t.2) := by
  rw [rootOf_append]
  refine getObjectItem_ofMembers (fun m hm => ?_) ht
  obtain ⟨u, hu, rfl⟩ := List.mem_map.mp hm
  exact hbefore u hu

theorem modifyItem_rootOf {f : CJsonNode Json → CJsonNode Json}
    (hf : f (.ofMembers t.2) = .ofMembers entries) :
    (rootOf (before ++ t :: after)).modifyItem app f =
      rootOf (before ++ (t.1, entries) :: after) := by
  have ht : nameKey (t.1, CJsonNode.ofMembers t.2).1 = nameKey app := ht
  rw [rootOf_append, rootOf_append, ← hf]
  refine modifyItem_ofMembers (fun m hm => ?_) ht f
  obtain ⟨u, hu, rfl⟩ := List.mem_map.mp hm
  exact hbefore u hu

end Split

theorem addItemToObject_rootOf (apps : Apps) (app : String) (entries : List (String × Json)) :
    (rootOf apps).addItemToObject app (.ofMembers entries) = rootOf (apps ++ [(app, entries)]) := by
  rw [rootOf, addItemToObject_ofMembers, rootOf, List.map_append]
  rfl

/-! ### The others' policies as lists -/

theorem addBrowserPolicyToRoot_ofMembers (hmore : DistinctNames nameKey more)
    (hother : ∀ e, e ∈ entries → ∀ e', e' ∈ more → nameKey e.1 ≠ nameKey e'.1) :
    addBrowserPolicyToRoot (.ofMembers entries) (.ofMembers more) =
      some (.ofMembers (entries ++ more)) := by
  induction more generalizing entries with
  | nil =>
    rw [List.append_nil]
    rfl
  | cons e more ih =>
    obtain ⟨he, hmore⟩ := List.pairwise_cons.mp hmore
    have hstep : addBrowserPolicyToRoot (.ofMembers entries) (.ofMembers (e :: more)) =
        addBrowserPolicyToRoot (((CJsonNode.ofMembers entries).deleteItemFromObject
          e.1).addItemToObject e.1 e.2) (.ofMembers more) := rfl
    have habsent : ∀ member, member ∈ entries → nameKey member.1 ≠ nameKey e.1 :=
      fun member hmember => hother member hmember e List.mem_cons_self
    rw [hstep, deleteItemFromObject_absent habsent, addItemToObject_ofMembers, ih hmore,
      List.append_assoc]
    · rfl
    · intro e' he' e'' he''
      rcases List.mem_append.mp he' with he' | he'
      · exact hother e' he' e'' (List.mem_cons_of_mem _ he'')
      · obtain rfl := List.mem_singleton.mp he'
        exact he e'' he''

theorem addAppsToRoot_rootOf (hmore : Tidy nameKey own) (hapart : Apart nameKey apps own) :
    addAppsToRoot (rootOf apps) (rootOf own).children =
      some (rootOf (extendAll nameKey apps own)) := by
  induction own generalizing apps with
  | nil => rfl
  | cons s own ih =>
    obtain ⟨hs, hrest⟩ := apart_cons_right.mp hapart
    have hnext := ih hmore.tail (hs.extend hrest hmore.apart_head.symm)
    have hcons : (rootOf (s :: own)).children =
      (some s.1, .ofMembers s.2) :: (rootOf own).children := rfl
    have hfirst : addAppsToRoot (rootOf apps) [(some s.1, .ofMembers s.2)] =
        some (rootOf (extend nameKey apps s)) := by
      rcases extend_cases nameKey apps s with ⟨hother, hextend⟩ |
        ⟨before, t, after, rfl, hkey, hbefore, hextend⟩
      · rw [hextend, addAppsToRoot, List.foldlM_cons]
        dsimp only
        rw [getObjectItem_none hother]
        exact congrArg some (addItemToObject_rootOf apps s.1 s.2)
      · have ht : t ∈ before ++ t :: after := List.mem_append_right _ List.mem_cons_self
        have hmerge := addBrowserPolicyToRoot_ofMembers (hmore.entries s List.mem_cons_self)
          (hs t ht s (List.mem_singleton.mpr rfl) hkey).2
        rw [hextend, addAppsToRoot, List.foldlM_cons]
        dsimp only
        rw [getObjectItem_some hkey hbefore]
        dsimp only
        rw [hmerge]
        exact congrArg some (modifyItem_rootOf hkey hbefore rfl)
    rw [hcons, ← List.singleton_append, addAppsToRoot, List.foldlM_append]
    show (addAppsToRoot (rootOf apps) [(some s.1, .ofMembers s.2)]).bind
      (fun root => addAppsToRoot root (rootOf own).children) = _
    rw [hfirst]
    exact hnext

/-! ### The policies of an admin as lists -/

/-- The policies after a request for an app, where `policies` are the new ones if any. -/
def setRoot (own : Apps) (appid : String) (policies : Option (List (String × Json))) : Apps :=
  match policies with
  | none => dropSection nameKey own appid
  | some policies => extend nameKey (dropSection nameKey own appid) (appid, policies)

/-- The policies after a request for one policy of an app, where `value` is the new one if any. -/
def setOne (own : Apps) (appid policyName : String) (value : Option Json) : Apps :=
  let own := dropEntry nameKey (extend nameKey own (appid, [])) appid policyName
  match value with
  | none => own
  | some value => extend nameKey own (appid, [(policyName, value)])

theorem deleteItemFromObject_rootOf (h : DistinctNames nameKey apps) (app : String) :
    (rootOf apps).deleteItemFromObject app = rootOf (dropSection nameKey apps app) := by
  have hsame : (fun member : String × CJsonNode Json => sameName member.1 app) =
      fun member => decide (nameKey member.1 = nameKey app) :=
    funext fun member => Bool.eq_iff_iff.mpr (sameName_iff.trans decide_eq_true_iff.symm)
  have hnames : DistinctNames nameKey
      (apps.map fun app => (app.1, CJsonNode.ofMembers app.2)) := List.pairwise_map.mpr h
  rw [rootOf, deleteItemFromObject_ofMembers, hsame, hnames.eraseP, List.filter_map]
  rfl

theorem deleteItemFromObject_ofMembers_distinct (h : DistinctNames nameKey entries)
    (name : String) : (CJsonNode.ofMembers entries).deleteItemFromObject name =
      .ofMembers (entries.filter fun e => nameKey e.1 ≠ nameKey name) := by
  have hsame : (fun member : String × Json => sameName member.1 name) =
      fun member => decide (nameKey member.1 = nameKey name) :=
    funext fun member => Bool.eq_iff_iff.mpr (sameName_iff.trans decide_eq_true_iff.symm)
  rw [deleteItemFromObject_ofMembers, hsame, h.eraseP]

/-- Adding an item to the policies of an app. -/
theorem modifyItem_add (hpresent : ∃ t, t ∈ apps ∧ nameKey t.1 = nameKey app)
    (name : String) (value : Json) :
    (rootOf apps).modifyItem app (fun policy => policy.addItemToObject name value) =
      rootOf (extend nameKey apps (app, [(name, value)])) := by
  rcases extend_cases nameKey apps (app, [(name, value)]) with ⟨hother, -⟩ |
    ⟨before, t, after, rfl, hkey, hbefore, hextend⟩
  · obtain ⟨t, ht, hkey⟩ := hpresent
    exact absurd hkey (hother t ht)
  · rw [hextend]
    exact modifyItem_rootOf hkey hbefore (addItemToObject_ofMembers _ _ _)

/-- Deleting an item from the policies of an app. -/
theorem modifyItem_delete (h : Tidy nameKey apps)
    (hpresent : ∃ t, t ∈ apps ∧ nameKey t.1 = nameKey app) (name : String) :
    (rootOf apps).modifyItem app (fun policy => policy.deleteItemFromObject name) =
      rootOf (dropEntry nameKey apps app name) := by
  rcases extend_cases nameKey apps (app, []) with ⟨hother, -⟩ |
    ⟨before, t, after, rfl, hkey, hbefore, -⟩
  · obtain ⟨t, ht, hkey⟩ := hpresent
    exact absurd hkey (hother t ht)
  · have ht : t ∈ before ++ t :: after := List.mem_append_right _ List.mem_cons_self
    have hafter : ∀ u, u ∈ after → nameKey u.1 ≠ nameKey app := fun u hu heq =>
      (List.pairwise_cons.mp (List.pairwise_append.mp h.names).2.1).1 u hu (hkey.trans heq.symm)
    have hkeep : ∀ us : Apps, (∀ u, u ∈ us → nameKey u.1 ≠ nameKey app) →
        dropEntry nameKey us app name = us := by
      intro us hus
      refine (List.map_congr_left fun u hu => ?_).trans (List.map_id us)
      rw [if_neg (hus u hu)]
      rfl
    have hdrop : dropEntry nameKey (before ++ t :: after) app name =
        dropEntry nameKey before app name ++
          (t.1, t.2.filter fun e => nameKey e.1 ≠ nameKey name) ::
            dropEntry nameKey after app name := by
      unfold dropEntry
      rw [List.map_append, List.map_cons, if_pos hkey]
    rw [hdrop, hkeep before hbefore, hkeep after hafter]
    exact modifyItem_rootOf hkey hbefore
      (deleteItemFromObject_ofMembers_distinct (h.entries t ht) name)

theorem extend_present (own : Apps) (app : String) (entries : List (String × Json)) :
    ∃ t, t ∈ extend nameKey own (app, entries) ∧ nameKey t.1 = nameKey app := by
  rcases extend_cases nameKey own (app, entries) with ⟨-, hextend⟩ |
    ⟨before, t, after, rfl, hkey, -, hextend⟩
  · rw [hextend]
    exact ⟨_, List.mem_append_right _ (List.mem_singleton.mpr rfl), rfl⟩
  · rw [hextend]
    exact ⟨_, List.mem_append_right _ List.mem_cons_self, hkey⟩

theorem dropEntry_present {own : Apps} (h : ∃ t, t ∈ own ∧ nameKey t.1 = nameKey app)
    (name : String) :
    ∃ t, t ∈ dropEntry nameKey own app name ∧ nameKey t.1 = nameKey app := by
  obtain ⟨t, ht, hkey⟩ := h
  exact ⟨_, List.mem_map_of_mem ht, hkey⟩

/-- The app of a request, added without policies if there is none. -/
theorem addApp_rootOf (own : Apps) (app : String) :
    (if ((rootOf own).getObjectItem app).isSome then rootOf own
      else (rootOf own).addItemToObject app ⟨.object, []⟩) =
      rootOf (extend nameKey own (app, [])) := by
  rcases extend_cases nameKey own (app, []) with ⟨hother, hextend⟩ |
    ⟨before, t, after, rfl, hkey, hbefore, hextend⟩
  · rw [getObjectItem_none hother, hextend]
    exact addItemToObject_rootOf own app []
  · rw [getObjectItem_some hkey hbefore, hextend, List.append_nil]
    rfl

/-! ### Requests on lists -/

/-- Whether others have the policy of a request, or any of the app where no policy is named. -/
def Taken (others : Apps) (appid policyName : String) : Prop :=
  ∃ t, t ∈ others ∧ nameKey t.1 = nameKey appid ∧
    (policyName = "" ∨ ∃ e, e ∈ t.2 ∧ nameKey e.1 = nameKey policyName)

/-- The policies after a request that can be read. -/
def requested (C : TreeCJson) (own : Apps) (appid policyName policyValue : String) : Option Apps :=
  if policyName = "" then
    if policyValue = "" then some (setRoot own appid none)
    else
      match C.parse policyValue with
      | some (.obj policies) => some (setRoot own appid (some policies))
      | _ => none
  else if policyValue = "" then some (setOne own appid policyName none)
  else (C.parse policyValue).map fun value => setOne own appid policyName (some value)

/-- The policies of an app are an object. -/
def IsObjectValue (C : TreeCJson) (policyName policyValue : String) : Prop :=
  policyName = "" → ∀ value, C.parse policyValue = some value → ∃ policies, value = .obj policies

theorem setRootPolicy_cases (hown : Tidy nameKey own) (others : Apps) (appid policyValue : String)
    (hobject : IsObjectValue C "" policyValue) :
    (∃ root, setRootPolicy C (rootOf own) (rootOf others) appid policyValue =
        (EdmReturnErrCode.PARAM_ERROR, root)) ∨
      ¬ Taken others appid "" ∧ ∃ own', requested C own appid "" policyValue = some own' ∧
        setRootPolicy C (rootOf own) (rootOf others) appid policyValue = (ERR_OK, rootOf own') := by
  rw [setRootPolicy]
  rcases extend_cases nameKey others (appid, []) with ⟨hother, -⟩ |
    ⟨before, t, after, rfl, hkey, hbefore, -⟩
  · have hfree : ¬ Taken others appid "" := fun ⟨t, ht, hkey, _⟩ => hother t ht hkey
    rw [getObjectItem_none hother, deleteItemFromObject_rootOf hown.names, requested, if_pos rfl,
      if_neg (by simp)]
    dsimp only
    by_cases hvalue : policyValue = ""
    · rw [if_pos hvalue, if_pos hvalue]
      exact .inr ⟨hfree, _, rfl, rfl⟩
    · rw [if_neg hvalue, if_neg hvalue]
      cases hparse : C.parse policyValue with
      | none => exact .inl ⟨_, rfl⟩
      | some value =>
        obtain ⟨policies, rfl⟩ := hobject rfl value hparse
        refine .inr ⟨hfree, _, rfl, ?_⟩
        have habsent : ∀ t, t ∈ dropSection nameKey own appid → nameKey t.1 ≠ nameKey appid :=
          fun t ht => of_decide_eq_true (List.mem_filter.mp ht).2
        have hextend : extend nameKey (dropSection nameKey own appid) (appid, policies) =
            dropSection nameKey own appid ++ [(appid, policies)] := by
          rcases extend_cases nameKey (dropSection nameKey own appid) (appid, policies) with
            ⟨-, hextend⟩ | ⟨before, t, after, hsplit, hkey, -, -⟩
          · exact hextend
          · refine absurd hkey (habsent t ?_)
            rw [hsplit]
            exact List.mem_append_right _ List.mem_cons_self
        rw [setRoot, hextend, ← addItemToObject_rootOf]
        rfl
  · rw [getObjectItem_some hkey hbefore]
    exact .inl ⟨_, rfl⟩

theorem Taken.app_isSome {policyName : String} (h : Taken others appid policyName) :
    ((rootOf others).getObjectItem appid).isSome = true := by
  obtain ⟨t, ht, hkey, -⟩ := h
  exact getObjectItem_isSome.mpr ⟨_, List.mem_map_of_mem ht, hkey⟩

theorem Taken.policy_isSome {policyName : String} (h : Taken others appid policyName)
    (hothers : Tidy nameKey others) (hname : policyName ≠ "") :
    (((rootOf others).getObjectItem appid).bind fun mergePolicy =>
      mergePolicy.getObjectItem policyName).isSome = true := by
  obtain ⟨u, hu, hukey, hnone | ⟨e, he, hekey⟩⟩ := h
  · exact absurd hnone hname
  rcases extend_cases nameKey others (appid, []) with ⟨hother, -⟩ |
    ⟨before, t, after, rfl, hkey, hbefore, -⟩
  · exact absurd hukey (hother u hu)
  · rw [getObjectItem_some hkey hbefore, Option.bind_some]
    refine getObjectItem_isSome.mpr ⟨e, ?_, hekey⟩
    rcases List.mem_append.mp hu with hu | hu
    · exact absurd hukey (hbefore u hu)
    rcases List.mem_cons.mp hu with rfl | hu
    · exact he
    · exact absurd (hkey.trans hukey.symm)
        ((List.pairwise_cons.mp (List.pairwise_append.mp hothers.names).2.1).1 u hu)

/-- No app of a list is that of a request but for case. -/
def Spelled (apps : Apps) (appid : String) : Prop :=
  ∀ t, t ∈ apps → nameKey t.1 = nameKey appid → t.1 = appid

theorem Spelled.apart (h : Spelled own appid) : Apart nameKey own [(appid, [])] := by
  intro t ht u hu hkey
  obtain rfl := List.mem_singleton.mp hu
  exact ⟨h t ht hkey, fun _ _ _ hmem => absurd hmem List.not_mem_nil⟩

theorem setPolicy_cases (hown : Tidy nameKey own) (hothers : Tidy nameKey others)
    {policyName : String} (hspelled : Spelled own appid) (policyValue : String)
    (hname : policyName ≠ "") :
    (∃ root, setPolicy C (rootOf own) (rootOf others) appid policyName policyValue =
        (EdmReturnErrCode.PARAM_ERROR, root)) ∨
      ¬ Taken others appid policyName ∧
        ∃ own', requested C own appid policyName policyValue = some own' ∧
          setPolicy C (rootOf own) (rootOf others) appid policyName policyValue =
            (ERR_OK, rootOf own') := by
  have hadded := tidy_extend hspelled.apart hown List.Pairwise.nil
  have hpresent := extend_present own appid []
  rw [setPolicy]
  split
  · exact .inl ⟨_, rfl⟩
  · rename_i hnotSome
    have hfree : ¬ Taken others appid policyName :=
      fun htaken => hnotSome (htaken.policy_isSome hothers hname)
    rw [addApp_rootOf]
    dsimp only
    rw [modifyItem_delete hadded hpresent, requested, if_neg hname]
    by_cases hvalue : policyValue = ""
    · rw [if_pos hvalue, if_pos hvalue]
      exact .inr ⟨hfree, _, rfl, rfl⟩
    · rw [if_neg hvalue, if_neg hvalue]
      cases hparse : C.parse policyValue with
      | none => exact .inl ⟨_, rfl⟩
      | some value =>
        refine .inr ⟨hfree, _, rfl, ?_⟩
        dsimp only
        rw [modifyItem_add (dropEntry_present hpresent policyName)]
        rfl

/-- The part of `OnHandlePolicy` between the reading and the writing of the policies. -/
def setPolicies (C : TreeCJson) (currentPolicies mergePolicies : Root)
    (appid policyName policyValue : String) : ErrCode × Root :=
  if policyName = "" then setRootPolicy C currentPolicies mergePolicies appid policyValue
  else setPolicy C currentPolicies mergePolicies appid policyName policyValue

/-- Whether the new value of a request can be read, if there is one. -/
def ReadableValue (C : TreeCJson) (policyValue : String) : Prop :=
  policyValue = "" ∨ ∃ value, C.parse policyValue = some value

theorem setPolicies_unreadable (current merge : Root) (appid policyName : String)
    {policyValue : String} (h : ¬ ReadableValue C policyValue) :
    ∃ root, setPolicies C current merge appid policyName policyValue =
      (EdmReturnErrCode.PARAM_ERROR, root) := by
  obtain ⟨hvalue, hparse⟩ := not_or.mp h
  have hparse : C.parse policyValue = none :=
    Option.eq_none_iff_forall_not_mem.mpr fun value hvalue => hparse ⟨value, hvalue⟩
  unfold setPolicies setRootPolicy setPolicy
  rw [if_neg hvalue, hparse]
  dsimp only
  split
  · split
    · exact ⟨_, rfl⟩
    · exact ⟨_, rfl⟩
  · split
    · exact ⟨_, rfl⟩
    · exact ⟨_, rfl⟩

/-- A request that does not fail sets what it requests, in a policy that others do not have. -/
theorem setPolicies_cases (hown : Tidy nameKey own) (hothers : Tidy nameKey others)
    (policyName policyValue : String)
    (h : ¬ Taken others appid policyName → ReadableValue C policyValue →
      Spelled own appid ∧ IsObjectValue C policyName policyValue) :
    (∃ root, setPolicies C (rootOf own) (rootOf others) appid policyName policyValue =
        (EdmReturnErrCode.PARAM_ERROR, root)) ∨
      ¬ Taken others appid policyName ∧ ReadableValue C policyValue ∧
        ∃ own', requested C own appid policyName policyValue = some own' ∧
          setPolicies C (rootOf own) (rootOf others) appid policyName policyValue =
            (ERR_OK, rootOf own') := by
  by_cases hread : ReadableValue C policyValue
  swap
  · exact .inl (setPolicies_unreadable _ _ appid policyName hread)
  by_cases htaken : Taken others appid policyName
  · rw [setPolicies]
    split
    · exact .inl ⟨_, if_pos htaken.app_isSome⟩
    · rename_i hname
      exact .inl ⟨_, if_pos (htaken.policy_isSome hothers hname)⟩
  obtain ⟨hspelled, hobject⟩ := h htaken hread
  by_cases hname : policyName = ""
  · subst hname
    rcases setRootPolicy_cases hown others appid policyValue hobject with hfailed | ⟨hfree, hok⟩
    · exact .inl hfailed
    · exact .inr ⟨hfree, hread, hok⟩
  · rw [setPolicies, if_neg hname]
    rcases setPolicy_cases hown hothers hspelled policyValue hname with hfailed | ⟨hfree, hok⟩
    · exact .inl hfailed
    · exact .inr ⟨hfree, hread, hok⟩

/-! ### The combined policies as lists -/

/-- The apps that others have too, other than the first of theirs, have no policies of the admin. -/
def SharesFirst (own others : Apps) : Prop :=
  ∀ s, s ∈ own → s.2 ≠ [] → ∀ t, t ∈ others.tail → nameKey t.1 ≠ nameKey s.1

theorem addPolicies_first (head : NamedSection String Json) (rest : Apps)
    (entries : List (String × Json)) :
    (CJsonNode.ofMembers entries).children.foldl (fun mergePolicies policyItem =>
      match policyItem.1 with
      | none => mergePolicies
      | some name => mergePolicies.modifyChild fun child =>
        child.addItemToObject name policyItem.2) (rootOf (head :: rest)) =
      rootOf ((head.1, head.2 ++ entries) :: rest) := by
  induction entries generalizing head with
  | nil =>
    rw [List.append_nil]
    rfl
  | cons e entries ih =>
    have hfirst : (rootOf (head :: rest)).modifyChild
        (fun child => child.addItemToObject e.1 e.2) =
          rootOf ((head.1, head.2 ++ [e]) :: rest) := by
      rw [rootOf, List.map_cons, modifyChild_ofMembers]
      dsimp only
      rw [addItemToObject_ofMembers]
      rfl
    refine Eq.trans ?_ ((ih (head.1, head.2 ++ [e])).trans (by rw [List.append_assoc]; rfl))
    rw [← hfirst]
    rfl

/-- One app of the admin's policies. -/
theorem updateMergePolicies_one {s : NamedSection String Json}
    (hshares : s.2 ≠ [] → ∀ t, t ∈ others.tail → nameKey t.1 ≠ nameKey s.1) :
    updateMergePolicies (rootOf [s]) (rootOf others) = rootOf (extend nameKey others s) := by
  show (if ((rootOf others).getObjectItem s.1).isSome then _ else _) = _
  rcases extend_cases nameKey others s with ⟨hother, hextend⟩ |
    ⟨before, t, after, rfl, hkey, hbefore, hextend⟩
  · rw [getObjectItem_none hother, hextend]
    exact addItemToObject_rootOf others s.1 s.2
  · rw [getObjectItem_some hkey hbefore, hextend, if_pos Option.isSome_some]
    cases before with
    | nil => exact addPolicies_first t after s.2
    | cons first before =>
      obtain ⟨name, policies⟩ := s
      obtain rfl : policies = [] := by
        by_contra hsome
        exact hshares hsome t (List.mem_append_right _ List.mem_cons_self) hkey
      rw [List.append_nil]
      rfl

theorem updateMergePolicies_rootOf (hown : Tidy nameKey own) (hshares : SharesFirst own others) :
    updateMergePolicies (rootOf own) (rootOf others) = rootOf (extendAll nameKey others own) := by
  induction own generalizing others with
  | nil => rfl
  | cons s own ih =>
    have hfirst : updateMergePolicies (rootOf (s :: own)) (rootOf others) =
        updateMergePolicies (rootOf own) (updateMergePolicies (rootOf [s]) (rootOf others)) := rfl
    rw [hfirst, updateMergePolicies_one (hshares s List.mem_cons_self)]
    refine ih hown.tail fun u hu husome t ht => ?_
    have hother := hshares u (List.mem_cons_of_mem _ hu) husome
    have hsu : nameKey s.1 ≠ nameKey u.1 := (List.pairwise_cons.mp hown.names).1 u hu
    rcases extend_cases nameKey others s with ⟨-, hextend⟩ |
      ⟨before, v, after, rfl, hkey, -, hextend⟩
    · rw [hextend] at ht
      cases others with
      | nil => exact absurd ht List.not_mem_nil
      | cons first others =>
        rcases List.mem_append.mp ht with ht | ht
        · exact hother t ht
        · obtain rfl := List.mem_singleton.mp ht
          exact hsu
    · rw [hextend] at ht
      cases before with
      | nil => exact hother t ht
      | cons first before =>
        rcases List.mem_append.mp ht with ht | ht
        · exact hother t (List.mem_append_left _ ht)
        rcases List.mem_cons.mp ht with rfl | ht
        · exact hother v (List.mem_append_right _ List.mem_cons_self)
        · exact hother t (List.mem_append_right _ (List.mem_cons_of_mem _ ht))

end Lists

end SetBrowserPoliciesPlugin

end Edm
