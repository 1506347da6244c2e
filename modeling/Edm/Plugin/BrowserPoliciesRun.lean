import Edm.Admin.AdminManager
import Edm.Plugin.SetBrowserPoliciesPlugin

/-! Runs of requests for browser policies in any user, where the others' policies are those of the
default user. -/

set_option autoImplicit false

namespace Edm

open Library

namespace SetBrowserPoliciesPlugin

open Json

variable (C : TreeCJson)

/-- An operation in a user, with the order of the others' values. -/
structure Op where
  userId : Int
  order : HashOrder
  op : PolicyOp Request Unit

abbrev State := Int → PluginState Unit

def opPlugin (s : State) (op : Op) : Plugin Unit Request Unit Empty :=
  plugin C op.order (s DEFAULT_USER_ID).store.manager

def step (s : State) (op : Op) : State :=
  Function.update s op.userId (policyStep (opPlugin C s op) (s op.userId) op.op)

/-- Users without policies. -/
def boot : State := fun userId => PluginState.boot () userId

/-- The policies that a text stands for. -/
def appsOf (text : String) : Apps :=
  match C.parse text with
  | some (.obj members) =>
    members.map fun member =>
      (member.1, match member.2 with
        | .obj policies => policies
        | _ => [])
  | _ => []

section Run

variable (s : State) (userId : Int)

/-- The policies that an admin stores. -/
def stored (admin : AdminName) : Apps :=
  appsOf C ((s userId).store.manager.policyValue admin POLICY_SET_BROWSER_POLICIES)

def combinedText : String :=
  (s userId).store.manager.policyValue "" POLICY_SET_BROWSER_POLICIES

/-- The combined policy of a user is an object without duplicate keys, which maps each app to the
policies of the admins for it. -/
structure UnderTheirApps : Prop where
  object : combinedText s userId ≠ "" →
    ∃ apps, C.parse (combinedText s userId) = some (tree apps) ∧ Tidy id apps
  apps : ∀ app, app ∈ (appsOf C (combinedText s userId)).map Prod.fst ↔
    ∃ admin, app ∈ (stored C s userId admin).map Prod.fst
  policies : ∀ app policy value, Entry (appsOf C (combinedText s userId)) app policy value ↔
    ∃ admin, Entry (stored C s userId admin) app policy value

/-- Whether a request is for a policy of an app. -/
def Target (appid policyName app policy : String) : Prop :=
  app = appid ∧ (policyName = "" ∨ policy = policyName)

/-- The policies that a request sets. -/
def Sets (policyName policyValue policy : String) (value : Json) : Prop :=
  policyValue ≠ "" ∧ ∃ written, C.parse policyValue = some written ∧
    if policyName = "" then ∃ policies, written = .obj policies ∧ (policy, value) ∈ policies
    else policy = policyName ∧ value = written

/-- What a request has to do. -/
structure RequestRight (order : HashOrder) (admin : AdminName) (writes : Writes)
    (request : Request) (appid policyName policyValue : String) : Prop where
  rejected : (∃ other, other ≠ admin ∧ ∃ policy value,
      Entry (stored C s userId other) appid policy value ∧ Target appid policyName appid policy) →
    policyCode (opPlugin C s ⟨userId, order, .update admin writes request⟩) (s userId)
      (.update admin writes request) ≠ ERR_OK
  failed : policyCode (opPlugin C s ⟨userId, order, .update admin writes request⟩) (s userId)
      (.update admin writes request) ≠ ERR_OK →
    step C s ⟨userId, order, .update admin writes request⟩ = s
  outside : ∀ app policy value, ¬ Target appid policyName app policy →
    (Entry (stored C (step C s ⟨userId, order, .update admin writes request⟩) userId admin) app
        policy value ↔ Entry (stored C s userId admin) app policy value)
  set : policyCode (opPlugin C s ⟨userId, order, .update admin writes request⟩) (s userId)
      (.update admin writes request) = ERR_OK →
    ∀ policy value, Target appid policyName appid policy →
      (Entry (stored C (step C s ⟨userId, order, .update admin writes request⟩) userId admin)
          appid policy value ↔
        ∃ v, Sets C policyName policyValue policy v ∧ value = C.reread v)

/-- An operation does what it has to do to the admin's policies, and nothing to those of others. -/
def Right (op : Op) : Prop :=
  (∀ (userId : Int) (other : AdminName), userId ≠ op.userId ∨ other ≠ op.op.admin →
    stored C (step C s op) userId other = stored C s userId other) ∧
  match op.op with
  | .update admin writes (appid :: policyName :: policyValue :: more) =>
    appid ≠ "" → RequestRight C s op.userId op.order admin writes
      (appid :: policyName :: policyValue :: more) appid policyName policyValue
  | .update admin writes request =>
    policyCode (opPlugin C s op) (s op.userId) (.update admin writes request) ≠ ERR_OK ∧
      step C s op = s
  | .removeAdmin admin _ _ => stored C (step C s op) op.userId admin = []

/-- The others' merged policies. -/
def othersApps (order : HashOrder) (admin : AdminName) : Apps :=
  mergeSections nameKey ((othersValues order (s DEFAULT_USER_ID).store.manager
    POLICY_SET_BROWSER_POLICIES admin).map (appsOf C))

/-- The condition on a request of an admin of the default user.  No name differs from another in
case only, the new value is shallow enough to be read again, and the apps that the admin shares with
others, where it has policies, are the first of theirs. -/
structure RequestKeeps (order : HashOrder) (admin : AdminName)
    (appid policyName policyValue : String) : Prop where
  spelledApp : ∀ other, Spelled (stored C s DEFAULT_USER_ID other) appid
  spelledPolicy : ∀ policy value, Entry (stored C s DEFAULT_USER_ID admin) appid policy value →
    nameKey policy = nameKey policyName → policy = policyName
  object : policyName = "" → ∀ value, C.parse policyValue = some value →
    ∃ policies, value = .obj policies ∧ DistinctNames nameKey policies
  depth : ∀ value, C.parse policyValue = some value →
    value.depth + (if policyName = "" then 1 else 2) ≤ CJSON_NESTING_LIMIT
  first : ∀ app policy value,
    Entry (stored C s DEFAULT_USER_ID admin) app policy value ∧
        ¬ Target appid policyName app policy ∨
      app = appid ∧ Sets C policyName policyValue policy value →
    ∀ t, t ∈ (othersApps C s order admin).tail → nameKey t.1 ≠ nameKey app

/-- Writes take effect, and requests are made in the default user and meet the condition above,
unless they are refused. -/
def Keeps (op : Op) : Prop :=
  match op.op with
  | .update admin writes (appid :: policyName :: policyValue :: _) =>
    appid ≠ "" → writes = ⟨.done, .done⟩ ∧ op.userId = DEFAULT_USER_ID ∧
      (¬ Taken (othersApps C s op.order admin) appid policyName → ReadableValue C policyValue →
        RequestKeeps C s op.order admin appid policyName policyValue)
  | .update _ _ _ => True
  | .removeAdmin _ writes _ => writes = ⟨.done, .done⟩

end Run

/-! ### Texts -/

section Texts

variable {C} {apps : Apps} {text : String}

/-- Policies that are read back when they are written. -/
structure Storable (apps : Apps) : Prop where
  tidy : Tidy nameKey apps
  depth : ∀ app policy value, Entry apps app policy value →
    value.depth + 2 ≤ CJSON_NESTING_LIMIT

def IsText (C : TreeCJson) (text : String) : Prop :=
  text = "" ∨ ∃ apps, Storable apps ∧ text = C.print (tree apps)

theorem appsOf_empty : appsOf C "" = [] := by
  rw [appsOf, C.parse_empty]

theorem appsOf_of_parse (h : C.parse text = some (tree apps)) : appsOf C text = apps := by
  rw [appsOf, h]
  show (apps.map fun app => (app.1, Json.obj app.2)).map _ = apps
  rw [List.map_map]
  exact List.map_id apps

theorem storable_nil : Storable [] := ⟨tidy_nil, fun _ _ _ h => absurd h entry_nil⟩

theorem Storable.parse_print (h : Storable apps) :
    C.parse (C.print (tree apps)) = some (tree (mapValues C.reread apps)) := by
  have hdepth : (tree apps).depth ≤ CJSON_NESTING_LIMIT := by
    refine depth_obj.mpr fun member hmember => ?_
    obtain ⟨app, happ, rfl⟩ := List.mem_map.mp hmember
    refine depth_obj.mpr fun e he => ?_
    have hvalue : e.2.depth + 2 ≤ 1000 := h.depth app.1 e.1 e.2 ⟨app.2, happ, he⟩
    show e.2.depth ≤ 998
    omega
  rw [C.parse_print_tree _ hdepth, tree, C.reread_obj, tree, mapValues, List.map_map, List.map_map]
  refine congrArg (fun members => some (Json.obj members)) (List.map_congr_left fun app _ => ?_)
  show (app.1, C.reread (.obj app.2)) = _
  rw [C.reread_obj]
  rfl

theorem Storable.reread (h : Storable apps) : Storable (mapValues C.reread apps) where
  tidy := tidy_mapValues h.tidy
  depth app policy value hentry := by
    obtain ⟨v, hv, rfl⟩ := entry_mapValues.mp hentry
    rw [C.depth_reread]
    exact h.depth app policy v hv

theorem Storable.appsOf_print (h : Storable apps) :
    appsOf C (C.print (tree apps)) = mapValues C.reread apps := appsOf_of_parse h.parse_print

theorem Storable.print_ne_empty (h : Storable apps) : C.print (tree apps) ≠ "" := by
  intro hempty
  have hparse : C.parse (C.print (tree apps)) = some _ := h.parse_print
  rw [hempty, C.parse_empty] at hparse
  cases hparse

theorem IsText.storable (h : IsText C text) : Storable (appsOf C text) := by
  rcases h with rfl | ⟨apps, happs, rfl⟩
  · rw [appsOf_empty]
    exact storable_nil
  · rw [happs.appsOf_print]
    exact happs.reread

theorem IsText.parse (h : IsText C text) (hsome : text ≠ "") :
    C.parse text = some (tree (appsOf C text)) := by
  rcases h with rfl | ⟨apps, happs, rfl⟩
  · exact absurd rfl hsome
  · rw [happs.appsOf_print, happs.parse_print]

theorem IsText.reread (h : IsText C text) : mapValues C.reread (appsOf C text) = appsOf C text := by
  rcases h with rfl | ⟨apps, happs, rfl⟩
  · rw [appsOf_empty]
    rfl
  · rw [happs.appsOf_print, mapValues, mapValues, List.map_map]
    refine List.map_congr_left fun app _ => ?_
    simp [C.reread_reread]

theorem IsText.reread_value (h : IsText C text) {app policy : String} {value : Json}
    (hvalue : Entry (appsOf C text) app policy value) : C.reread value = value := by
  rw [← h.reread] at hvalue
  obtain ⟨v, -, rfl⟩ := entry_mapValues.mp hvalue
  exact C.reread_reread v

/-- What the handler reads of a stored text. -/
def orEmptyObject (text : String) : String := if text = "" then EMPTY_OBJECT_STRING else text

theorem addBrowserPoliciesToRoot_eq (h : IsText C text)
    (hapart : Apart nameKey apps (appsOf C text)) :
    addBrowserPoliciesToRoot C (rootOf apps) text =
      some (rootOf (extendAll nameKey apps (appsOf C text))) := by
  rw [addBrowserPoliciesToRoot]
  split
  · rename_i hempty
    rw [hempty, appsOf_empty]
    rfl
  · rename_i hsome
    rw [h.parse hsome]
    dsimp only
    rw [root_tree]
    exact addAppsToRoot_rootOf h.storable.tidy hapart

theorem mergeBrowserPolicy_eq {values : List String} (hvalues : ∀ v, v ∈ values → IsText C v)
    (hpairwise : (values.map (appsOf C)).Pairwise (Apart nameKey)) :
    mergeBrowserPolicy C values =
      some (C.print (tree (mergeSections nameKey (values.map (appsOf C))))) := by
  have hfold : ∀ (values : List String) (apps : Apps), Tidy nameKey apps →
      (∀ v, v ∈ values → IsText C v) → (∀ v, v ∈ values → Apart nameKey apps (appsOf C v)) →
      values.Pairwise (fun v w => Apart nameKey (appsOf C v) (appsOf C w)) →
      values.foldlM (addBrowserPoliciesToRoot C) (rootOf apps) =
        some (rootOf ((values.map (appsOf C)).foldl (extendAll nameKey) apps)) := by
    intro values
    induction values with
    | nil =>
      intro apps _ _ _ _
      rfl
    | cons v values ih =>
      intro apps htidy hvalues hapart hpairwise
      obtain ⟨hv, hvalues⟩ := List.forall_mem_cons.mp hvalues
      obtain ⟨hapartv, hapart⟩ := List.forall_mem_cons.mp hapart
      obtain ⟨hvpair, hpairwise⟩ := List.pairwise_cons.mp hpairwise
      obtain ⟨htidy', -, -, hothers⟩ := extendAll_spec htidy hv.storable.tidy hapartv
      rw [List.foldlM_cons, addBrowserPoliciesToRoot_eq hv hapartv]
      exact ih _ htidy' hvalues (fun w hw => hothers _ (hapart w hw) (hvpair w hw)) hpairwise
  have hresult := hfold values [] tidy_nil hvalues (fun _ _ => apart_nil_left)
    (List.pairwise_map.mp hpairwise)
  rw [mergeBrowserPolicy]
  show (List.foldlM (addBrowserPoliciesToRoot C) (rootOf []) values).bind _ = _
  rw [hresult]
  show some (C.print (rootOf _).rootJson) = _
  rw [rootJson_rootOf]
  rfl

end Texts

/-! ### The others' policies -/

section Others

variable {C} {s : State} {userId : Int} {order : HashOrder} {admin : AdminName}

theorem policyName_ne : POLICY_SET_BROWSER_POLICIES ≠ "" := by decide

/-- The policies of the default user can be read, those of different admins are apart, and only the
default user has policies. -/
structure Readable (C : TreeCJson) (s : State) : Prop where
  text : TextStore (IsText C) POLICY_SET_BROWSER_POLICIES (s DEFAULT_USER_ID).store
  apart : ∀ a b, a ≠ b →
    Apart nameKey (stored C s DEFAULT_USER_ID a) (stored C s DEFAULT_USER_ID b)
  elsewhere : ∀ userId, userId ≠ DEFAULT_USER_ID → s userId = PluginState.boot () userId

variable (h : Readable C s)
include h

theorem Readable.storable (admin : AdminName) :
    Storable (stored C s DEFAULT_USER_ID admin) := (h.text.text admin.1).storable

/-- The others' values, as policies. -/
theorem mem_othersLists {apps : Apps} :
    apps ∈ (othersValues order (s DEFAULT_USER_ID).store.manager POLICY_SET_BROWSER_POLICIES
        admin).map (appsOf C) ↔
      ∃ other, other ≠ admin ∧ (s DEFAULT_USER_ID).store.manager.policyValue other
          POLICY_SET_BROWSER_POLICIES ≠ "" ∧ stored C s DEFAULT_USER_ID other = apps := by
  rw [List.mem_map]
  constructor
  · rintro ⟨v, hv, rfl⟩
    obtain ⟨hne, other, hother, rfl⟩ := (h.text.good.mem_othersValues order admin).mp hv
    exact ⟨other, hother, hne, rfl⟩
  · rintro ⟨other, hother, hne, rfl⟩
    exact ⟨_, (h.text.good.mem_othersValues order admin).mpr ⟨hne, other, hother, rfl⟩, rfl⟩

omit h in
theorem stored_of_name {other : AdminName} {app : String}
    (happ : app ∈ (stored C s DEFAULT_USER_ID other).map Prod.fst) :
    (s DEFAULT_USER_ID).store.manager.policyValue other POLICY_SET_BROWSER_POLICIES ≠ "" := by
  intro hempty
  rw [stored, hempty, appsOf_empty] at happ
  exact List.not_mem_nil happ

/-- What the others' merged policies are made of. -/
theorem othersApps_spec (order : HashOrder) (admin : AdminName) :
    Storable (othersApps C s order admin) ∧
      (∀ app policy value, Entry (othersApps C s order admin) app policy value ↔
        ∃ other, other ≠ admin ∧ Entry (stored C s DEFAULT_USER_ID other) app policy value) ∧
      (∀ app, app ∈ (othersApps C s order admin).map Prod.fst ↔
        ∃ other, other ≠ admin ∧ app ∈ (stored C s DEFAULT_USER_ID other).map Prod.fst) ∧
      ∀ apps, (∀ other, other ≠ admin → Apart nameKey (stored C s DEFAULT_USER_ID other) apps) →
        Apart nameKey (othersApps C s order admin) apps := by
  have htidy : ∀ apps, apps ∈ (othersValues order (s DEFAULT_USER_ID).store.manager
      POLICY_SET_BROWSER_POLICIES admin).map (appsOf C) → Tidy nameKey apps := by
    intro apps happs
    obtain ⟨other, -, -, rfl⟩ := (mem_othersLists h).mp happs
    exact (h.storable other).tidy
  have hpairwise : ((othersValues order (s DEFAULT_USER_ID).store.manager
      POLICY_SET_BROWSER_POLICIES admin).map (appsOf C)).Pairwise (Apart nameKey) :=
    List.pairwise_map.mpr (h.text.good.pairwise_othersValues order admin
      fun other other' _ _ hne => h.apart other other' hne)
  obtain ⟨hresult, hentry, hnames, hothers⟩ := mergeSections_spec htidy hpairwise
  have hmergedEntry : ∀ app policy value, Entry (othersApps C s order admin) app policy value ↔
      ∃ other, other ≠ admin ∧ Entry (stored C s DEFAULT_USER_ID other) app policy value := by
    intro app policy value
    refine (hentry app policy value).trans ⟨?_, ?_⟩
    · rintro ⟨apps, happs, hvalue⟩
      obtain ⟨other, hother, -, rfl⟩ := (mem_othersLists h).mp happs
      exact ⟨other, hother, hvalue⟩
    · rintro ⟨other, hother, policies, happ, hvalue⟩
      exact ⟨_, (mem_othersLists h).mpr ⟨other, hother,
        stored_of_name (List.mem_map_of_mem happ), rfl⟩, policies, happ, hvalue⟩
  refine ⟨⟨hresult, fun app policy value hvalue => ?_⟩, hmergedEntry, fun app => ?_,
    fun apps happs => hothers apps fun more hmore => ?_⟩
  · obtain ⟨other, -, hvalue⟩ := (hmergedEntry app policy value).mp hvalue
    exact (h.storable other).depth app policy value hvalue
  · refine (hnames app).trans ⟨?_, ?_⟩
    · rintro ⟨apps, happs, happ⟩
      obtain ⟨other, hother, -, rfl⟩ := (mem_othersLists h).mp happs
      exact ⟨other, hother, happ⟩
    · rintro ⟨other, hother, happ⟩
      exact ⟨_, (mem_othersLists h).mpr ⟨other, hother, stored_of_name happ, rfl⟩, happ⟩
  · obtain ⟨other, hother, -, rfl⟩ := (mem_othersLists h).mp hmore
    exact happs other hother

/-- The text of the others' policies. -/
theorem getOthersMergePolicyData_eq (order : HashOrder) (admin : AdminName) :
    getOthersMergePolicyData C order (s DEFAULT_USER_ID).store.manager admin =
      if othersValues order (s DEFAULT_USER_ID).store.manager POLICY_SET_BROWSER_POLICIES admin = []
      then "" else C.print (tree (othersApps C s order admin)) := by
  have htext : ∀ v, v ∈ othersValues order (s DEFAULT_USER_ID).store.manager
      POLICY_SET_BROWSER_POLICIES admin → IsText C v := by
    intro v hv
    obtain ⟨-, other, -, rfl⟩ := (h.text.good.mem_othersValues order admin).mp hv
    exact h.text.text other
  have hpairwise : ((othersValues order (s DEFAULT_USER_ID).store.manager
      POLICY_SET_BROWSER_POLICIES admin).map (appsOf C)).Pairwise (Apart nameKey) :=
    List.pairwise_map.mpr (h.text.good.pairwise_othersValues order admin
      fun other other' _ _ hne => h.apart other other' hne)
  unfold getOthersMergePolicyData
  dsimp only
  by_cases hempty : UnorderedMap.isEmpty (((s DEFAULT_USER_ID).store.manager.adminValues
      POLICY_SET_BROWSER_POLICIES).erase admin.1) = true
  · rw [if_pos hempty, if_pos ((isEmpty_others order admin).mp hempty)]
  · rw [if_neg hempty, if_neg fun hnil => hempty ((isEmpty_others order admin).mpr hnil)]
    have hmerge := mergeBrowserPolicy_eq htext hpairwise
    unfold othersValues at hmerge
    rw [hmerge]
    rfl

theorem isText_others (order : HashOrder) (admin : AdminName) :
    IsText C (getOthersMergePolicyData C order (s DEFAULT_USER_ID).store.manager admin) := by
  rw [getOthersMergePolicyData_eq h]
  split
  · exact .inl rfl
  · exact .inr ⟨_, (othersApps_spec h order admin).1, rfl⟩

end Others

/-! ### The admin's policies after a request -/

section Requested

variable {C} {own : Apps} {appid policyName policyValue : String}

theorem setRoot_spec (hown : Tidy nameKey own) (hspelled : Spelled own appid)
    (policies : Option (List (String × Json)))
    (hpolicies : ∀ ps, policies = some ps → DistinctNames nameKey ps) :
    Tidy nameKey (setRoot own appid policies) ∧
      (∀ app policy value, Entry (setRoot own appid policies) app policy value ↔
        Entry own app policy value ∧ app ≠ appid ∨
          app = appid ∧ ∃ ps, policies = some ps ∧ (policy, value) ∈ ps) ∧
      ∀ others, Apart nameKey own others → (∀ t, t ∈ others → nameKey t.1 ≠ nameKey appid) →
        Apart nameKey (setRoot own appid policies) others := by
  have hdropped := tidy_dropSection hown appid
  have hentry : ∀ app policy value, Entry (dropSection nameKey own appid) app policy value ↔
      Entry own app policy value ∧ app ≠ appid := by
    intro app policy value
    rw [entry_dropSection]
    refine and_congr_right fun ⟨policies, happ, _⟩ => not_congr ⟨fun hkey => ?_, congrArg nameKey⟩
    exact hspelled _ happ hkey
  cases policies with
  | none =>
    refine ⟨hdropped, fun app policy value => ?_, fun _ hapart _ => hapart.dropSection appid⟩
    rw [setRoot, hentry]
    simp
  | some ps =>
    have hapart : Apart nameKey (dropSection nameKey own appid) [(appid, ps)] := by
      intro t ht u hu hkey
      obtain rfl := List.mem_singleton.mp hu
      exact absurd hkey (of_decide_eq_true (List.mem_filter.mp ht).2)
    refine ⟨tidy_extend hapart hdropped (hpolicies ps rfl), fun app policy value => ?_,
      fun _ hothers hother => hapart.extend (hothers.dropSection appid) ?_⟩
    · rw [setRoot, entry_extend hapart, hentry]
      simp
    · intro t ht u hu hkey
      obtain rfl := List.mem_singleton.mp ht
      exact absurd hkey.symm (hother u hu)

theorem setOne_spec (hown : Tidy nameKey own) (hspelled : Spelled own appid)
    (hpolicy : ∀ policy value, Entry own appid policy value →
      nameKey policy = nameKey policyName → policy = policyName) (value : Option Json) :
    Tidy nameKey (setOne own appid policyName value) ∧
      (∀ app policy v, Entry (setOne own appid policyName value) app policy v ↔
        Entry own app policy v ∧ ¬ (app = appid ∧ policy = policyName) ∨
          app = appid ∧ policy = policyName ∧ value = some v) ∧
      ∀ others, Apart nameKey own others → Spelled others appid →
        (∀ t, t ∈ others → nameKey t.1 = nameKey appid →
          ∀ e, e ∈ t.2 → nameKey e.1 ≠ nameKey policyName) →
        Apart nameKey (setOne own appid policyName value) others := by
  have hadded := tidy_extend hspelled.apart hown List.Pairwise.nil
  have hdropped := tidy_dropEntry hadded appid policyName
  have hentry : ∀ app policy v,
      Entry (dropEntry nameKey (extend nameKey own (appid, [])) appid policyName) app policy v ↔
        Entry own app policy v ∧ ¬ (app = appid ∧ policy = policyName) := by
    intro app policy v
    rw [entry_dropEntry, entry_extend hspelled.apart]
    simp only [List.not_mem_nil, and_false, or_false]
    refine and_congr_right fun hown => not_congr ⟨?_, ?_⟩
    · rintro ⟨happ, hkey⟩
      obtain ⟨policies, hmem, hv⟩ := hown
      obtain rfl : app = appid := hspelled _ hmem happ
      exact ⟨rfl, hpolicy policy v ⟨policies, hmem, hv⟩ hkey⟩
    · rintro ⟨rfl, rfl⟩
      exact ⟨rfl, rfl⟩
  have hnew : ∀ {others : Apps}, Spelled others appid → Apart nameKey [(appid, [])] others :=
    fun hspelled => hspelled.apart.symm
  have hapartDropped : ∀ {others : Apps}, Apart nameKey own others → Spelled others appid →
      Apart nameKey (dropEntry nameKey (extend nameKey own (appid, [])) appid policyName) others :=
    fun hothers hspelledOthers =>
      (hspelled.apart.extend hothers (hnew hspelledOthers)).dropEntry appid policyName
  cases value with
  | none =>
    refine ⟨hdropped, fun app policy v => ?_, fun _ hothers hspelledOthers _ =>
      hapartDropped hothers hspelledOthers⟩
    rw [setOne, hentry]
    simp
  | some value =>
    have hapart : Apart nameKey (dropEntry nameKey (extend nameKey own (appid, [])) appid
        policyName) [(appid, [(policyName, value)])] := by
      intro t ht u hu hkey
      obtain rfl := List.mem_singleton.mp hu
      have hname : t.1 = appid := by
        obtain ⟨w, hw, hwname, -⟩ := mem_dropEntry ht
        rw [← hwname] at hkey ⊢
        have hmem := (mem_names_extend hspelled.apart).mp (List.mem_map_of_mem hw)
        rcases hmem with hmem | hmem
        · obtain ⟨x, hx, hxname⟩ := List.mem_map.mp hmem
          rw [← hxname] at hkey ⊢
          exact hspelled x hx hkey
        · exact hmem
      refine ⟨hname, fun e he e' he' hekey => ?_⟩
      obtain rfl := List.mem_singleton.mp he'
      have hmem : Entry (dropEntry nameKey (extend nameKey own (appid, [])) appid policyName) t.1
        e.1 e.2 := ⟨t.2, ht, he⟩
      exact (entry_dropEntry.mp hmem).2 ⟨hkey, hekey⟩
    refine ⟨tidy_extend hapart hdropped (List.pairwise_singleton _ _), fun app policy v => ?_,
      fun _ hothers hspelledOthers hfree => hapart.extend (hapartDropped hothers hspelledOthers) ?_⟩
    · rw [setOne, entry_extend hapart, hentry]
      simp [eq_comm]
    · intro t ht u hu hkey
      obtain rfl := List.mem_singleton.mp ht
      refine ⟨(hspelledOthers u hu hkey.symm).symm, fun e he e' he' hekey => ?_⟩
      obtain rfl := List.mem_singleton.mp he
      exact hfree u hu hkey.symm e' he' hekey.symm

theorem target_root {app policy : String} : Target appid "" app policy ↔ app = appid :=
  and_iff_left (.inl rfl)

/-- What the admin's policies are after a request. -/
theorem requested_entries {own' : Apps} (hown : Tidy nameKey own) (hspelled : Spelled own appid)
    (hpolicy : ∀ policy value, Entry own appid policy value →
      nameKey policy = nameKey policyName → policy = policyName)
    (hobject : policyName = "" → ∀ value, C.parse policyValue = some value →
      ∃ policies, value = .obj policies ∧ DistinctNames nameKey policies)
    (hrequested : requested C own appid policyName policyValue = some own') :
    Tidy nameKey own' ∧
      (∀ app policy value, Entry own' app policy value ↔
        Entry own app policy value ∧ ¬ Target appid policyName app policy ∨
          app = appid ∧ Sets C policyName policyValue policy value) ∧
      ∀ others, Apart nameKey own others → Spelled others appid →
        ¬ Taken others appid policyName → Apart nameKey own' others := by
  rw [requested] at hrequested
  by_cases hname : policyName = ""
  · subst hname
    rw [if_pos rfl] at hrequested
    have hfree : ∀ others, ¬ Taken others appid "" → ∀ t, t ∈ others →
        nameKey t.1 ≠ nameKey appid := fun others htaken t ht hkey =>
      htaken ⟨t, ht, hkey, .inl rfl⟩
    by_cases hvalue : policyValue = ""
    · rw [if_pos hvalue] at hrequested
      obtain rfl := Option.some.inj hrequested
      obtain ⟨htidy, hentry, hapart⟩ := setRoot_spec hown hspelled none (by simp)
      refine ⟨htidy, fun app policy value => ?_, fun others hothers _ htaken =>
        hapart others hothers (hfree others htaken)⟩
      rw [hentry, target_root]
      simp [Sets, hvalue]
    · rw [if_neg hvalue] at hrequested
      cases hparse : C.parse policyValue with
      | none =>
        rw [hparse] at hrequested
        cases hrequested
      | some written =>
        obtain ⟨policies, rfl, hdistinct⟩ := hobject rfl written hparse
        rw [hparse] at hrequested
        obtain rfl := Option.some.inj hrequested
        obtain ⟨htidy, hentry, hapart⟩ := setRoot_spec hown hspelled (some policies)
          fun ps hps => Option.some.inj hps ▸ hdistinct
        refine ⟨htidy, fun app policy value => ?_, fun others hothers _ htaken =>
          hapart others hothers (hfree others htaken)⟩
        rw [hentry, target_root]
        simp [Sets, hvalue, hparse]
  · rw [if_neg hname] at hrequested
    have hfree : ∀ others, ¬ Taken others appid policyName → ∀ t, t ∈ others →
        nameKey t.1 = nameKey appid → ∀ e, e ∈ t.2 → nameKey e.1 ≠ nameKey policyName :=
      fun others htaken t ht hkey e he hekey => htaken ⟨t, ht, hkey, .inr ⟨e, he, hekey⟩⟩
    have htarget : ∀ app policy, Target appid policyName app policy ↔
        app = appid ∧ policy = policyName := fun app policy =>
      and_congr_right fun _ => or_iff_right hname
    have hresult : ∀ value : Option Json, own' = setOne own appid policyName value →
        (∀ policy v, Sets C policyName policyValue policy v ↔
          policy = policyName ∧ value = some v) →
        Tidy nameKey own' ∧
          (∀ app policy v, Entry own' app policy v ↔
            Entry own app policy v ∧ ¬ Target appid policyName app policy ∨
              app = appid ∧ Sets C policyName policyValue policy v) ∧
          ∀ others, Apart nameKey own others → Spelled others appid →
            ¬ Taken others appid policyName → Apart nameKey own' others := by
      rintro value rfl hsets
      obtain ⟨htidy, hentry, hapart⟩ := setOne_spec hown hspelled hpolicy value
      refine ⟨htidy, fun app policy v => ?_, fun others hothers hspelledOthers htaken =>
        hapart others hothers hspelledOthers (hfree others htaken)⟩
      rw [hentry, htarget, hsets]
    by_cases hvalue : policyValue = ""
    · rw [if_pos hvalue] at hrequested
      exact hresult none (Option.some.inj hrequested).symm (by simp [Sets, hvalue])
    · rw [if_neg hvalue] at hrequested
      obtain ⟨written, hparse, hown'⟩ := Option.map_eq_some_iff.mp hrequested
      refine hresult (some written) hown'.symm fun policy v => ?_
      simp [Sets, hvalue, hparse, hname, eq_comm]

/-- The values are shallow enough to be read again, and are those of the request as they are. -/
theorem requested_stored {own' : Apps} (hown : Storable own)
    (hexact : ∀ app policy value, Entry own app policy value → C.reread value = value)
    (hdepth : ∀ value, C.parse policyValue = some value →
      value.depth + (if policyName = "" then 1 else 2) ≤ CJSON_NESTING_LIMIT)
    (htidy : Tidy nameKey own')
    (hentry : ∀ app policy value, Entry own' app policy value ↔
      Entry own app policy value ∧ ¬ Target appid policyName app policy ∨
        app = appid ∧ Sets C policyName policyValue policy value) :
    Storable own' ∧ ∀ app policy value, Entry (mapValues C.reread own') app policy value ↔
      Entry own app policy value ∧ ¬ Target appid policyName app policy ∨
        app = appid ∧ ∃ v, Sets C policyName policyValue policy v ∧ value = C.reread v := by
  refine ⟨⟨htidy, fun app policy value hvalue => ?_⟩, fun app policy value => ?_⟩
  · rcases (hentry app policy value).mp hvalue with ⟨hvalue, -⟩ | ⟨-, -, written, hparse, hsets⟩
    · exact hown.depth app policy value hvalue
    · have hlimit := hdepth written hparse
      split at hsets
      · rename_i hname
        obtain ⟨policies, rfl, hmem⟩ := hsets
        rw [if_pos hname] at hlimit
        have hobj : (Json.obj policies).depth ≤ 998 + 1 := Nat.le_of_add_le_add_right hlimit
        exact Nat.add_le_add_right (depth_obj.mp hobj (policy, value) hmem) 2
      · rename_i hname
        obtain ⟨rfl, rfl⟩ := hsets
        rw [if_neg hname] at hlimit
        exact hlimit
  · rw [entry_mapValues]
    constructor
    · rintro ⟨v, hv, rfl⟩
      rcases (hentry app policy v).mp hv with ⟨hv, htarget⟩ | ⟨happ, hsets⟩
      · rw [hexact app policy v hv]
        exact .inl ⟨hv, htarget⟩
      · exact .inr ⟨happ, v, hsets, rfl⟩
    · rintro (⟨hvalue, htarget⟩ | ⟨happ, v, hsets, rfl⟩)
      · exact ⟨value, (hentry app policy value).mpr (.inl ⟨hvalue, htarget⟩),
          (hexact app policy value hvalue).symm⟩
      · exact ⟨v, (hentry app policy v).mpr (.inr ⟨happ, hsets⟩), rfl⟩

end Requested

/-! ### The handler -/

section Handler

variable {C} {own others : Apps} {appid policyName policyValue : String} {more : List String}

theorem onHandlePolicy_eq (happid : appid ≠ "") {policyData : HandlePolicyData}
    (hcurrent : C.parse (orEmptyObject policyData.policyData) = some (tree own))
    (hmerge : C.parse (orEmptyObject policyData.mergePolicyData) = some (tree others)) :
    onHandlePolicy C (appid :: policyName :: policyValue :: more) policyData =
      let (errCode, currentPolicies) :=
        setPolicies C (rootOf own) (rootOf others) appid policyName policyValue
      let policyData : HandlePolicyData :=
        { policyData with
          policyData := orEmptyObject policyData.policyData
          mergePolicyData := orEmptyObject policyData.mergePolicyData }
      if errCode != ERR_OK then (errCode, policyData)
      else updateCurrentAndMergePolicy C currentPolicies (rootOf others) policyData := by
  unfold orEmptyObject at hcurrent hmerge
  rw [onHandlePolicy, if_neg happid]
  dsimp only
  rw [hcurrent, hmerge]
  dsimp only
  rw [root_tree, root_tree]
  rfl

theorem updateCurrentAndMergePolicy_eq (hown : Storable own)
    (hmerged : Storable (extendAll nameKey others own)) (hshares : SharesFirst own others)
    (policyData : HandlePolicyData) :
    updateCurrentAndMergePolicy C (rootOf own) (rootOf others) policyData =
      (ERR_OK, ⟨C.print (tree own), C.print (tree (extendAll nameKey others own)),
        C.print (tree own) != policyData.policyData⟩) := by
  have hnonempty : ¬ (C.print (tree own) = "" ∨
      C.print (tree (extendAll nameKey others own)) = "") :=
    not_or.mpr ⟨hown.print_ne_empty, hmerged.print_ne_empty⟩
  rw [updateCurrentAndMergePolicy, updateMergePolicies_rootOf hown.tidy hshares, rootJson_rootOf,
    rootJson_rootOf, if_neg hnonempty]
  dsimp only
  by_cases hsame : C.print (tree own) = policyData.policyData
  · rw [hsame, ite_self]
  · rw [if_pos (bne_iff_ne.mpr hsame)]

/-- A request fails, or saves the policies that it requests and their union with the others'. -/
theorem onHandlePolicy_cases (more : List String) (happid : appid ≠ "")
    (policyData : HandlePolicyData)
    (hcurrent : C.parse (orEmptyObject policyData.policyData) = some (tree own))
    (hmerge : C.parse (orEmptyObject policyData.mergePolicyData) = some (tree others))
    (hown : Tidy nameKey own) (hothers : Tidy nameKey others)
    (hrequest : ¬ Taken others appid policyName → ReadableValue C policyValue →
      Spelled own appid ∧ IsObjectValue C policyName policyValue)
    (hresult : ¬ Taken others appid policyName → ReadableValue C policyValue →
      ∀ own', requested C own appid policyName policyValue = some own' →
        Storable own' ∧ Storable (extendAll nameKey others own') ∧ SharesFirst own' others) :
    (∃ ret handled, ret ≠ ERR_OK ∧
        onHandlePolicy C (appid :: policyName :: policyValue :: more) policyData =
          (ret, handled)) ∨
      ¬ Taken others appid policyName ∧ ReadableValue C policyValue ∧
        ∃ own', requested C own appid policyName policyValue = some own' ∧
          onHandlePolicy C (appid :: policyName :: policyValue :: more) policyData =
            (ERR_OK, ⟨C.print (tree own'), C.print (tree (extendAll nameKey others own')),
              C.print (tree own') != orEmptyObject policyData.policyData⟩) := by
  rw [onHandlePolicy_eq happid hcurrent hmerge]
  rcases setPolicies_cases hown hothers policyName policyValue hrequest with
    ⟨root, hfailed⟩ | ⟨hfree, hread, own', hrequested, hok⟩
  · rw [hfailed]
    exact .inl ⟨EdmReturnErrCode.PARAM_ERROR, _, by decide, rfl⟩
  · obtain ⟨hstorable, hmerged, hshares⟩ := hresult hfree hread own' hrequested
    refine .inr ⟨hfree, hread, own', hrequested, ?_⟩
    rw [hok]
    exact updateCurrentAndMergePolicy_eq hstorable hmerged hshares _

end Handler

/-! ### One operation -/

section Step

variable {C} {s : State} {userId : Int} {order : HashOrder} {admin other : AdminName}
  {appid policyName policyValue : String} {more : List String} {own' : Apps}

theorem taken_of_stored (h : Readable C s) (hother : other ≠ admin)
    (htaken : Taken (stored C s DEFAULT_USER_ID other) appid policyName) :
    Taken (othersApps C s order admin) appid policyName := by
  obtain ⟨-, hentry, hnames, -⟩ := othersApps_spec h order admin
  obtain ⟨t, ht, hkey, hpolicy⟩ := htaken
  rcases hpolicy with hroot | ⟨e, he, hekey⟩
  · obtain ⟨u, hu, hname⟩ := List.mem_map.mp
      ((hnames t.1).mpr ⟨other, hother, List.mem_map_of_mem ht⟩)
    exact ⟨u, hu, hname ▸ hkey, .inl hroot⟩
  · obtain ⟨policies, hmem, he⟩ := (hentry t.1 e.1 e.2).mpr ⟨other, hother, t.2, ht, he⟩
    exact ⟨_, hmem, hkey, .inr ⟨_, he, hekey⟩⟩

/-- The policies of a request that is accepted. -/
structure Accepted (C : TreeCJson) (s : State) (order : HashOrder) (admin : AdminName)
    (appid policyName policyValue : String) (own' : Apps) : Prop where
  own : Storable own'
  merged : Storable (extendAll nameKey (othersApps C s order admin) own')
  shares : SharesFirst own' (othersApps C s order admin)
  entries : ∀ app policy value, Entry (mapValues C.reread own') app policy value ↔
    Entry (stored C s DEFAULT_USER_ID admin) app policy value ∧
        ¬ Target appid policyName app policy ∨
      app = appid ∧ ∃ v, Sets C policyName policyValue policy v ∧ value = C.reread v
  apart : ∀ other, other ≠ admin → Apart nameKey own' (stored C s DEFAULT_USER_ID other)

theorem accepted (h : Readable C s)
    (hkeeps : RequestKeeps C s order admin appid policyName policyValue)
    (hfree : ¬ Taken (othersApps C s order admin) appid policyName)
    (hrequested : requested C (stored C s DEFAULT_USER_ID admin) appid policyName policyValue =
      some own') : Accepted C s order admin appid policyName policyValue own' := by
  obtain ⟨hothers, hentry, hnames, hapartOthers⟩ := othersApps_spec h order admin
  obtain ⟨htidy, hraw, hapart⟩ := requested_entries (h.storable admin).tidy
    (hkeeps.spelledApp admin) hkeeps.spelledPolicy hkeeps.object hrequested
  obtain ⟨hown, hentries⟩ := requested_stored (h.storable admin)
    (fun _ _ _ hvalue => (h.text.text admin.1).reread_value hvalue) hkeeps.depth htidy hraw
  have happart : ∀ other, other ≠ admin → Apart nameKey own' (stored C s DEFAULT_USER_ID other) :=
    fun other hother => hapart _ (h.apart admin other hother.symm) (hkeeps.spelledApp other)
      fun htaken => hfree (taken_of_stored h hother htaken)
  obtain ⟨hmerged, hmergedEntry, -, -⟩ := extendAll_spec hothers.tidy htidy
    (hapartOthers own' fun other hother => (happart other hother).symm)
  refine ⟨hown, ⟨hmerged, fun app policy value hvalue => ?_⟩, fun t ht htsome u hu => ?_, hentries,
    happart⟩
  · rcases (hmergedEntry app policy value).mp hvalue with hvalue | hvalue
    · exact hothers.depth app policy value hvalue
    · exact hown.depth app policy value hvalue
  · obtain ⟨e, he⟩ := List.exists_mem_of_ne_nil _ htsome
    exact hkeeps.first t.1 e.1 e.2 ((hraw t.1 e.1 e.2).mp ⟨t.2, ht, he⟩) u hu

/-- The request of an admin of the default user. -/
abbrev request (order : HashOrder) (admin : AdminName) (params : List String) : Op :=
  ⟨DEFAULT_USER_ID, order, .update admin ⟨.done, .done⟩ params⟩

/-- What a user without policies has. -/
theorem underTheirApps_new (hboot : s userId = PluginState.boot () userId) :
    UnderTheirApps C s userId := by
  have hvalue : ∀ a, (s userId).store.manager.policyValue a POLICY_SET_BROWSER_POLICIES = "" := by
    intro a
    rw [hboot]
    exact policyValue_new userId a _
  have hstored : ∀ admin, stored C s userId admin = [] := fun admin => by
    rw [stored, hvalue, appsOf_empty]
  have hcombined : appsOf C (combinedText s userId) = [] := by
    rw [combinedText, hvalue, appsOf_empty]
  refine ⟨fun hsome => absurd (hvalue "") hsome, fun app => ?_, fun app policy value => ?_⟩
  · rw [hcombined]
    simp [hstored]
  · rw [hcombined]
    simp [hstored, entry_nil]

/-- A store whose combined policies can be read. -/
theorem underTheirApps_of (htext : IsText C (combinedText s userId))
    (happs : ∀ app, app ∈ (appsOf C (combinedText s userId)).map Prod.fst ↔
      ∃ admin, app ∈ (stored C s userId admin).map Prod.fst)
    (hpolicies : ∀ app policy value, Entry (appsOf C (combinedText s userId)) app policy value ↔
      ∃ admin, Entry (stored C s userId admin) app policy value) : UnderTheirApps C s userId where
  object hsome := ⟨_, htext.parse hsome, htext.storable.tidy.of_key⟩
  apps := happs
  policies := hpolicies

variable {s' : State} {v merged : String}

/-- What a save makes of the store. -/
theorem saved_spec (h : Readable C s)
    (hsaved : Saved (s DEFAULT_USER_ID).store (s' DEFAULT_USER_ID).store admin
      POLICY_SET_BROWSER_POLICIES v merged)
    (helsewhere : ∀ userId, userId ≠ DEFAULT_USER_ID → s' userId = s userId)
    (hv : IsText C v) (hmerged : IsText C merged)
    (hapart : ∀ other, other ≠ admin →
      Apart nameKey (appsOf C v) (stored C s DEFAULT_USER_ID other))
    (happs : ∀ app, app ∈ (appsOf C merged).map Prod.fst ↔
      (∃ other, other ≠ admin ∧ app ∈ (stored C s DEFAULT_USER_ID other).map Prod.fst) ∨
        app ∈ (appsOf C v).map Prod.fst)
    (hpolicies : ∀ app policy value, Entry (appsOf C merged) app policy value ↔
      (∃ other, other ≠ admin ∧ Entry (stored C s DEFAULT_USER_ID other) app policy value) ∨
        Entry (appsOf C v) app policy value) :
    stored C s' DEFAULT_USER_ID admin = appsOf C v ∧
      (∀ other, other ≠ admin →
        stored C s' DEFAULT_USER_ID other = stored C s DEFAULT_USER_ID other) ∧
      Readable C s' ∧ UnderTheirApps C s' DEFAULT_USER_ID := by
  have hself : stored C s' DEFAULT_USER_ID admin = appsOf C v :=
    congrArg (appsOf C) (hsaved.value_self admin.2)
  have hother : ∀ other, other ≠ admin →
      stored C s' DEFAULT_USER_ID other = stored C s DEFAULT_USER_ID other := fun other hne =>
    congrArg (appsOf C) (hsaved.value_other other.2 fun heq => hne (Subtype.ext heq.1))
  have htext := h.text.saved hsaved hv hmerged
  have hcombined : combinedText s' DEFAULT_USER_ID = merged := hsaved.value_combined
  have hany : ∀ P : Apps → Prop, (∃ a, P (stored C s' DEFAULT_USER_ID a)) ↔
      (∃ other, other ≠ admin ∧ P (stored C s DEFAULT_USER_ID other)) ∨ P (appsOf C v) := by
    intro P
    constructor
    · rintro ⟨a, ha⟩
      by_cases hne : a = admin
      · rw [hne, hself] at ha
        exact .inr ha
      · rw [hother a hne] at ha
        exact .inl ⟨a, hne, ha⟩
    · rintro (⟨a, hne, ha⟩ | ha)
      · exact ⟨a, (hother a hne).symm ▸ ha⟩
      · exact ⟨admin, hself.symm ▸ ha⟩
  refine ⟨hself, hother, ⟨htext, fun a b hab => ?_, fun u hu => ?_⟩, underTheirApps_of ?_ ?_ ?_⟩
  · by_cases ha : a = admin
    · rw [ha, hself, hother b fun hb => hab (ha.trans hb.symm)]
      exact hapart b fun hb => hab (ha.trans hb.symm)
    · rw [hother a ha]
      by_cases hb : b = admin
      · rw [hb, hself]
        exact (hapart a ha).symm
      · rw [hother b hb]
        exact h.apart a b hab
  · rw [helsewhere u hu]
    exact h.elsewhere u hu
  · rw [hcombined]
    exact hmerged
  · intro app
    rw [hcombined, happs]
    exact (hany fun apps => app ∈ apps.map Prod.fst).symm
  · intro app policy value
    rw [hcombined, hpolicies]
    exact (hany fun apps => Entry apps app policy value).symm

/-- A request that is refused for its parameters. -/
theorem step_refused (s : State) (userId : Int) (order : HashOrder) (admin : AdminName)
    (writes : Writes) {params : List String}
    (hcall : ∀ policyData, onHandlePolicy C params policyData =
      (EdmReturnErrCode.PARAM_ERROR, policyData)) :
    policyCode (opPlugin C s ⟨userId, order, .update admin writes params⟩) (s userId)
        (.update admin writes params) ≠ ERR_OK ∧
      step C s ⟨userId, order, .update admin writes params⟩ = s := by
  have hplugin : (opPlugin C s ⟨userId, order, .update admin writes params⟩).onHandlePolicy
      (s userId).store.manager (s userId).modules params (PluginManager.handlePolicyData
        (opPlugin C s ⟨userId, order, .update admin writes params⟩) (s userId) admin) =
      (EdmReturnErrCode.PARAM_ERROR, (), _) :=
    congrArg (fun result : ErrCode × HandlePolicyData => (result.1, (), result.2)) (hcall _)
  have hcode : EdmReturnErrCode.PARAM_ERROR ≠ ERR_OK := by decide
  refine ⟨(policyCode_update _ admin writes hplugin).trans_ne hcode, ?_⟩
  have hsame : policyStep (opPlugin C s ⟨userId, order, .update admin writes params⟩) (s userId)
      (.update admin writes params) = s userId :=
    congrArg Prod.snd (PluginManager.updateDevicePolicy_failed hplugin (bne_iff_ne.mpr hcode))
  exact (congrArg _ hsame).trans (Function.update_eq_self _ _)

/-- What holds in every state. -/
structure Good (C : TreeCJson) (s : State) : Prop where
  readable : Readable C s
  combined : UnderTheirApps C s DEFAULT_USER_ID

/-- The policies of an accepted request once they are stored. -/
theorem Accepted.saved (haccepted : Accepted C s order admin appid policyName policyValue own')
    (h : Good C s)
    (hresult : appsOf C ((s DEFAULT_USER_ID).store.manager.policyValue admin
          POLICY_SET_BROWSER_POLICIES) = mapValues C.reread own' ∧
        (s' DEFAULT_USER_ID).store = (s DEFAULT_USER_ID).store ∨
      Saved (s DEFAULT_USER_ID).store (s' DEFAULT_USER_ID).store admin POLICY_SET_BROWSER_POLICIES
        (C.print (tree own'))
        (C.print (tree (extendAll nameKey (othersApps C s order admin) own'))))
    (helsewhere : ∀ userId, userId ≠ DEFAULT_USER_ID → s' userId = s userId) :
    Good C s' ∧ stored C s' DEFAULT_USER_ID admin = mapValues C.reread own' := by
  rcases hresult with ⟨hsame, hstore⟩ | hsaved
  · have hstored : ∀ a, stored C s' DEFAULT_USER_ID a = stored C s DEFAULT_USER_ID a := fun a => by
      rw [stored, hstore]
      rfl
    have hcombined : combinedText s' DEFAULT_USER_ID = combinedText s DEFAULT_USER_ID := by
      rw [combinedText, hstore]
      rfl
    refine ⟨⟨⟨hstore.symm ▸ h.readable.text, fun a b hab => ?_, fun u hu => ?_⟩, ⟨?_, ?_, ?_⟩⟩, ?_⟩
    · rw [hstored, hstored]
      exact h.readable.apart a b hab
    · rw [helsewhere u hu]
      exact h.readable.elsewhere u hu
    · rw [hcombined]
      exact h.combined.object
    · simp only [hcombined, hstored]
      exact h.combined.apps
    · simp only [hcombined, hstored]
      exact h.combined.policies
    · rw [hstored]
      exact hsame
  · obtain ⟨hothers, hentry, hnames, hapartOthers⟩ := othersApps_spec h.readable order admin
    obtain ⟨-, hmergedEntry, hmergedNames, -⟩ := extendAll_spec hothers.tidy haccepted.own.tidy
      (hapartOthers own' fun other hother => (haccepted.apart other hother).symm)
    have hown : appsOf C (C.print (tree own')) = _ := haccepted.own.appsOf_print
    have hmerged : appsOf C (C.print (tree (extendAll nameKey (othersApps C s order admin) own'))) =
      _ := haccepted.merged.appsOf_print
    obtain ⟨hself, -, hreadable, hunion⟩ := saved_spec h.readable hsaved helsewhere
      (.inr ⟨own', haccepted.own, rfl⟩) (.inr ⟨_, haccepted.merged, rfl⟩)
      (fun other hother => by
        rw [hown]
        exact (haccepted.apart other hother).mapValues)
      (fun app => by
        rw [hown, hmerged, names_mapValues, names_mapValues, hmergedNames, hnames])
      (fun app policy value => by
        rw [hown, hmerged, entry_mapValues, entry_mapValues]
        constructor
        · rintro ⟨w, hw, rfl⟩
          rcases (hmergedEntry app policy w).mp hw with hw | hw
          · obtain ⟨other, hother, hw⟩ := (hentry app policy w).mp hw
            rw [(h.readable.text.text other).reread_value hw]
            exact .inl ⟨other, hother, hw⟩
          · exact .inr ⟨w, hw, rfl⟩
        · rintro (⟨other, hother, hvalue⟩ | ⟨w, hw, rfl⟩)
          · refine ⟨value, (hmergedEntry app policy value).mpr (.inl ?_),
              ((h.readable.text.text other).reread_value hvalue).symm⟩
            exact (hentry app policy value).mpr ⟨other, hother, hvalue⟩
          · exact ⟨w, (hmergedEntry app policy w).mpr (.inr hw), rfl⟩)
    exact ⟨⟨hreadable, hunion⟩, hself.trans hown⟩

theorem good_boot : Good C boot where
  readable :=
    { text := textStore_new (.inl rfl) DEFAULT_USER_ID
      apart := fun a b _ => by
        have hnone : stored C boot DEFAULT_USER_ID a = [] :=
          (congrArg (appsOf C) (policyValue_new DEFAULT_USER_ID a _)).trans appsOf_empty
        rw [hnone]
        exact apart_nil_left
      elsewhere := fun _ _ => rfl }
  combined := underTheirApps_new rfl

end Step

/-! ### Runs -/

end SetBrowserPoliciesPlugin

end Edm
