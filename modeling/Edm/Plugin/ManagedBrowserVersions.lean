import Edm.Plugin.ManagedBrowserPolicyPlugin
import Edm.Plugin.PolicyRun

/-! The versions that `ManagedBrowserPolicyPlugin` reports for a browser, over runs of requests of
any admins.  Each admin counts its own requests, and the combined version is made from the others'
highest one. -/

set_option autoImplicit false

namespace Edm

open Library Library.UnorderedMap

namespace ManagedBrowserPolicyPlugin

open ManagedBrowserPolicySerializer

/-- What `GetManagedBrowserPolicyVersion` replies, or `none` for an error. -/
def getManagedBrowserPolicyVersion (C : ArrayCJson) (policyData bundleName : String) :
    Option Int :=
  (deserialize C policyData).map fun policies =>
    match valueAt bundleName policies with
    | none => 0
    | some policy => policy.version.toNat

/-- A request of an admin for the browser. -/
structure BrowserCall where
  admin : AdminName
  policyName : String
  policyValue : String

/-- The plugin with the versions that it reported before each call and after the last one. -/
structure Versions where
  state : PluginState Files
  reported : List Int

section Model

variable (C : ArrayCJson) (canonical : String → String) (order : HashOrder) (bundleName : String)

/-- The combined policy's version. -/
def versionNow (state : PluginState Files) : Option Int :=
  getManagedBrowserPolicyVersion C
    (state.store.manager.policyValue "" POLICY_MANAGED_BROWSER_POLICY) bundleName

/-- A call.  The browsers' requests are the default user's, and so are the others' policies. -/
def handle (state : PluginState Files) (call : BrowserCall) : ErrCode × PluginState Files :=
  PluginManager.updateDevicePolicy (plugin C canonical order state.store.manager) state
    ⟨.done, .done⟩ call.admin ⟨bundleName, call.policyName, call.policyValue⟩

def callStep (s : Versions) (call : BrowserCall) : Versions :=
  let state := (handle C canonical order bundleName s.state call).2
  { state, reported := (versionNow C bundleName state).toList ++ s.reported }

/-- No policies, and any files. -/
def bootVersions (files : Files) : Versions where
  state := PluginState.boot files 100
  reported := [0]

/-- A call that succeeds and changes the browser's file. -/
def ChangesFile (state : PluginState Files) (call : BrowserCall) : Prop :=
  failed (handle C canonical order bundleName state call).1 = false ∧
    (handle C canonical order bundleName state call).2.modules (canonical (url bundleName)) ≠
      state.modules (canonical (url bundleName))

/-- The version that is reported after a call is greater than every one before. -/
def Grows (s : Versions) (call : BrowserCall) : Prop :=
  ChangesFile C canonical order bundleName s.state call →
    ∃ version, versionNow C bundleName (handle C canonical order bundleName s.state call).2 =
      some version ∧ ∀ v ∈ s.reported, v < version

/-- An admin's policies. -/
def policiesOf (state : PluginState Files) (admin : AdminName) : ManagedBrowserPolicies :=
  (deserialize C (state.store.manager.policyValue admin POLICY_MANAGED_BROWSER_POLICY)).getD []

/-- An admin's own version for the browser, if it has policies for it. -/
def ownVersion (state : PluginState Files) (admin : AdminName) : Option UInt16 :=
  (valueAt bundleName (policiesOf C state admin)).map ManagedBrowserPolicyType.version

/-- Some other admin has come at least as far as every version that was reported, or the admin is
the only one and has.  No version is the greatest of 16 bits. -/
def KeepsUp (s : Versions) (call : BrowserCall) : Prop :=
  ChangesFile C canonical order bundleName s.state call →
    (∃ other version, other ≠ call.admin ∧
        ownVersion C bundleName s.state other = some version ∧
        (∀ v ∈ s.reported, v ≤ version.toNat)) ∧
      (∀ other version, other ≠ call.admin →
        ownVersion C bundleName s.state other = some version → version.toNat < 65535) ∨
    (∀ other, other ≠ call.admin → ownVersion C bundleName s.state other = none) ∧
      (∀ v ∈ s.reported,
        v ≤ ((ownVersion C bundleName s.state call.admin).getD 0).toNat) ∧
      ((ownVersion C bundleName s.state call.admin).getD 0).toNat < 65535

end Model

/-! ### Maps of policies -/

section Maps

variable {mergeData dataItem : ManagedBrowserPolicies} {bundleName : String}

theorem addOthers_eq : addOthers mergeData dataItem =
    dataItem.foldl (combineEntry fun merged item => ⟨merged.policyNames ++ item.policyNames,
      if merged.version < item.version then item.version else merged.version⟩) mergeData := by
  refine congrArg (fun step => dataItem.foldl step mergeData) ?_
  funext mergeData item
  unfold combineEntry
  cases valueAt item.1 mergeData <;> rfl

theorem addToMerge_eq : addToMerge mergeData dataItem =
    dataItem.foldl (combineEntry fun merged policy => ⟨merged.policyNames ++ policy.policyNames,
      merged.version + 1⟩) mergeData := by
  refine congrArg (fun step => dataItem.foldl step mergeData) ?_
  funext mergeData policy
  unfold combineEntry
  cases valueAt policy.1 mergeData <;> rfl

theorem addOthers_spec (h : KeysAscend Prod.fst mergeData) (hitem : KeysAscend Prod.fst dataItem)
    (bundleName : String) :
    KeysAscend Prod.fst (addOthers mergeData dataItem) ∧
      valueAt bundleName (addOthers mergeData dataItem) =
        (valueAt bundleName dataItem).elim (valueAt bundleName mergeData) fun item =>
          some ((valueAt bundleName mergeData).elim item fun merged =>
            ⟨merged.policyNames ++ item.policyNames,
              if merged.version < item.version then item.version else merged.version⟩) := by
  rw [addOthers_eq]
  exact valueAt_foldl_combineEntry _ h hitem bundleName

theorem addToMerge_spec (h : KeysAscend Prod.fst mergeData) (hitem : KeysAscend Prod.fst dataItem)
    (bundleName : String) :
    KeysAscend Prod.fst (addToMerge mergeData dataItem) ∧
      valueAt bundleName (addToMerge mergeData dataItem) =
        (valueAt bundleName dataItem).elim (valueAt bundleName mergeData) fun policy =>
          some ((valueAt bundleName mergeData).elim policy fun merged =>
            ⟨merged.policyNames ++ policy.policyNames, merged.version + 1⟩) := by
  rw [addToMerge_eq]
  exact valueAt_foldl_combineEntry _ h hitem bundleName

/-- The highest of some versions, if there are any. -/
structure Highest (versions : Set UInt16) (top : Option UInt16) : Prop where
  mem : ∀ version, top = some version → version ∈ versions
  none_iff : top = none ↔ versions = ∅
  le : ∀ version, version ∈ versions → ∀ most, top = some most → version.toNat ≤ most.toNat

theorem Highest.empty : Highest ∅ none where
  mem _ h := nomatch h
  none_iff := iff_of_true rfl rfl
  le _ h := absurd h (Set.notMem_empty _)

/-- The version that a map has for the browser. -/
abbrev versionAt (bundleName : String) (policies : ManagedBrowserPolicies) : Option UInt16 :=
  (valueAt bundleName policies).map ManagedBrowserPolicyType.version

theorem Highest.addOthers {versions : Set UInt16} (h : KeysAscend Prod.fst mergeData)
    (hitem : KeysAscend Prod.fst dataItem)
    (hhighest : Highest versions (versionAt bundleName mergeData)) :
    Highest (versions ∪ {version | versionAt bundleName dataItem = some version})
      (versionAt bundleName (addOthers mergeData dataItem)) := by
  have hvalue := (addOthers_spec h hitem bundleName).2
  obtain ⟨hmem, hnone, hle⟩ := hhighest
  unfold versionAt at *
  rw [hvalue]
  cases hnew : valueAt bundleName dataItem with
  | none =>
    have hempty : {version | (none : Option ManagedBrowserPolicyType).map
        ManagedBrowserPolicyType.version = some version} = ∅ := by simp
    rw [hempty, Set.union_empty]
    exact ⟨hmem, hnone, hle⟩
  | some item =>
    have hsingle : {version | (some item).map ManagedBrowserPolicyType.version = some version} =
        {item.version} := by
      ext version
      simp [eq_comm]
    rw [hsingle]
    cases hold : valueAt bundleName mergeData with
    | none =>
      rw [hold] at hnone
      rw [hnone.mp rfl, Set.empty_union]
      refine ⟨?_, iff_of_false nofun (Set.singleton_ne_empty _), ?_⟩
      · rintro version hversion
        exact (Option.some.inj hversion).symm
      · rintro version rfl most hmost
        obtain rfl := Option.some.inj hmost
        exact le_refl _
    | some merged =>
      rw [hold] at hmem hnone hle
      have hmerged := hmem merged.version rfl
      refine ⟨?_, iff_of_false nofun ?_, ?_⟩
      · intro version hversion
        obtain rfl := Option.some.inj hversion
        show (if merged.version < item.version then item.version else merged.version) ∈ _
        split
        · exact .inr rfl
        · exact .inl hmerged
      · exact (Set.Nonempty.inl ⟨_, hmerged⟩).ne_empty
      · intro version hversion most hmost
        obtain rfl := Option.some.inj hmost
        have hbound : version.toNat ≤ merged.version.toNat ∨ version = item.version :=
          hversion.imp (fun hversion => hle version hversion _ rfl) id
        show _ ≤ (if merged.version < item.version then item.version else merged.version).toNat
        split
        · rename_i hlt
          have hlt := UInt16.lt_iff_toNat_lt.mp hlt
          rcases hbound with hbound | rfl <;> omega
        · rename_i hge
          have hge : ¬merged.version.toNat < item.version.toNat :=
            fun hlt => hge (UInt16.lt_iff_toNat_lt.mpr hlt)
          rcases hbound with hbound | rfl <;> omega

/-- The loop over the values of other admins. -/
theorem foldl_addOthers (maps : List ManagedBrowserPolicies)
    (hmaps : ∀ policies ∈ maps, KeysAscend Prod.fst policies) (bundleName : String) :
    KeysAscend Prod.fst (maps.foldl addOthers []) ∧
      Highest {version | ∃ policies ∈ maps, versionAt bundleName policies = some version}
        (versionAt bundleName (maps.foldl addOthers [])) := by
  induction maps using List.reverseRecOn with
  | nil =>
    refine ⟨keysAscend_nil, ?_⟩
    have hempty : {version | ∃ policies ∈ ([] : List ManagedBrowserPolicies),
        versionAt bundleName policies = some version} = ∅ := by simp
    rw [hempty]
    exact Highest.empty
  | append_singleton maps policies ih =>
    obtain ⟨hascend, hhighest⟩ := ih fun other hother => hmaps other (List.mem_append_left _ hother)
    have hitem := hmaps policies (List.mem_append_right _ List.mem_cons_self)
    rw [List.foldl_append, List.foldl_cons, List.foldl_nil]
    refine ⟨(addOthers_spec hascend hitem bundleName).1, ?_⟩
    have hset : {version | ∃ other ∈ maps ++ [policies],
        versionAt bundleName other = some version} =
          {version | ∃ other ∈ maps, versionAt bundleName other = some version} ∪
          {version | versionAt bundleName policies = some version} := by
      ext version
      simp [or_and_right, exists_or]
    rw [hset]
    exact hhighest.addOthers hascend hitem

end Maps

/-! ### One call -/

section Call

variable {C : ArrayCJson} {canonical : String → String} {order : HashOrder} {bundleName : String}
  {state : PluginState Files}

theorem policyName_ne : POLICY_MANAGED_BROWSER_POLICY ≠ "" := by decide

/-- The value of an admin, or with the empty name the combined value. -/
abbrev value (state : PluginState Files) (a : String) : String :=
  state.store.manager.policyValue a POLICY_MANAGED_BROWSER_POLICY

/-- The values are texts of maps. -/
structure Readable (C : ArrayCJson) (state : PluginState Files) : Prop where
  store : GoodStore state.store
  read : ∀ a, ∃ policies, KeysAscend Prod.fst policies ∧
    deserialize C (value state a) = some policies

theorem Readable.policiesOf (h : Readable C state) (admin : AdminName) :
    KeysAscend Prod.fst (policiesOf C state admin) ∧
      deserialize C (value state admin) = some (policiesOf C state admin) := by
  obtain ⟨policies, hascend, hread⟩ := h.read admin
  have heq : ManagedBrowserPolicyPlugin.policiesOf C state admin = policies := by
    rw [ManagedBrowserPolicyPlugin.policiesOf, hread]
    rfl
  rw [heq]
  exact ⟨hascend, hread⟩

/-- The loop over values that are texts of maps. -/
theorem foldlM_values (values : List String)
    (hvalues : ∀ v ∈ values, v ≠ "" ∧ ∃ policies, deserialize C v = some policies)
    (mergeData : ManagedBrowserPolicies) :
    values.foldlM (fun mergeData v => if v = "" then some mergeData
      else (deserialize C v).map (addOthers mergeData)) mergeData =
        some ((values.map fun v => (deserialize C v).getD []).foldl addOthers mergeData) := by
  induction values generalizing mergeData with
  | nil => rfl
  | cons v values ih =>
    obtain ⟨⟨hne, policies, hread⟩, hrest⟩ := List.forall_mem_cons.mp hvalues
    rw [List.foldlM_cons, if_neg hne, hread, Option.map_some, Option.bind_eq_bind,
      Option.bind_some, ih hrest, List.map_cons, List.foldl_cons, hread]
    rfl

/-- The others' map has the highest of their versions. -/
theorem getOthersMergePolicyData_read (h : Readable C state) (order : HashOrder)
    (admin : AdminName) :
    ∃ others, KeysAscend Prod.fst others ∧
      deserialize C (getOthersMergePolicyData C order state.store.manager admin) = some others ∧
      ∀ bundleName, Highest
        {version | ∃ other, other ≠ admin ∧ ownVersion C bundleName state other = some version}
        (versionAt bundleName others) := by
  have hvalue : ∀ {other : AdminName} {bundleName version},
      ownVersion C bundleName state other = some version → value state other ≠ "" := by
    intro other bundleName version hversion hempty
    have hnil : policiesOf C state other = [] := by
      have hread := (h.policiesOf other).2
      rw [hempty, deserialize_empty] at hread
      exact (Option.some.inj hread).symm
    rw [ownVersion, hnil] at hversion
    contradiction
  unfold getOthersMergePolicyData
  dsimp only
  by_cases hempty :
      isEmpty ((state.store.manager.adminValues POLICY_MANAGED_BROWSER_POLICY).erase admin.1) = true
  · rw [if_pos hempty]
    refine ⟨[], keysAscend_nil, deserialize_empty, fun bundleName => ?_⟩
    have hnone : {version | ∃ other, other ≠ admin ∧
        ownVersion C bundleName state other = some version} = ∅ := by
      refine Set.eq_empty_iff_forall_notMem.mpr ?_
      rintro version ⟨other, hne, hversion⟩
      have hlookup := (eq_empty_iff _).mp (isEmpty_iff.mp hempty) other.1
      have hsome := (h.store.lookup_others admin _ other.1 _).mpr
        ⟨other.2, hne, rfl, hvalue hversion⟩
      rw [hlookup] at hsome
      contradiction
    rw [hnone]
    exact Highest.empty
  · rw [if_neg hempty]
    obtain ⟨-, hmem⟩ := order.enumerates
      ((state.store.manager.adminValues POLICY_MANAGED_BROWSER_POLICY).erase admin.1)
    have hentry := fun x v => (hmem x v).trans (h.store.lookup_others admin _ x v)
    generalize order.entries ((state.store.manager.adminValues
      POLICY_MANAGED_BROWSER_POLICY).erase admin.1) = entries at hentry ⊢
    have hread : ∀ v ∈ entries.map Prod.snd, v ≠ "" ∧ ∃ other, other ≠ admin ∧
        KeysAscend Prod.fst (policiesOf C state other) ∧
        deserialize C v = some (policiesOf C state other) := by
      intro v hv
      obtain ⟨⟨x, v⟩, hentries, rfl⟩ := List.mem_map.mp hv
      obtain ⟨hx, hne, rfl, hnonempty⟩ := (hentry x v).mp hentries
      exact ⟨hnonempty, ⟨x, hx⟩, hne, h.policiesOf ⟨x, hx⟩⟩
    have htexts : ∀ v ∈ entries.map Prod.snd,
        v ≠ "" ∧ ∃ policies, deserialize C v = some policies := by
      intro v hv
      obtain ⟨hne, other, -, -, hother⟩ := hread v hv
      exact ⟨hne, _, hother⟩
    rw [foldlM_values (entries.map Prod.snd) htexts]
    generalize hmaps : ((entries.map Prod.snd).map fun v => (deserialize C v).getD []) = maps
    have hmember : ∀ policies, policies ∈ maps ↔
        ∃ other, other ≠ admin ∧ value state other ≠ "" ∧ policies = policiesOf C state other := by
      intro policies
      rw [← hmaps, List.mem_map]
      constructor
      · rintro ⟨v, hv, rfl⟩
        obtain ⟨⟨x, v⟩, hentries, rfl⟩ := List.mem_map.mp hv
        obtain ⟨hx, hne, rfl, hnonempty⟩ := (hentry x v).mp hentries
        exact ⟨⟨x, hx⟩, hne, hnonempty, rfl⟩
      · rintro ⟨other, hne, hnonempty, rfl⟩
        exact ⟨value state other, List.mem_map.mpr ⟨(other.1, value state other),
          (hentry _ _).mpr ⟨other.2, hne, rfl, hnonempty⟩, rfl⟩, rfl⟩
    have hascend : ∀ policies ∈ maps, KeysAscend Prod.fst policies := by
      intro policies hpolicies
      obtain ⟨other, -, -, rfl⟩ := (hmember policies).mp hpolicies
      exact (h.policiesOf other).1
    have hmerged := (foldl_addOthers maps hascend "").1
    refine ⟨maps.foldl addOthers [], hmerged, ?_, fun bundleName => ?_⟩
    · show deserialize C (serialize C (maps.foldl addOthers [])) = _
      exact deserialize_serialize hmerged
    · have hset : {version | ∃ policies ∈ maps, versionAt bundleName policies = some version} =
          {version | ∃ other, other ≠ admin ∧
            ownVersion C bundleName state other = some version} := by
        ext version
        constructor
        · rintro ⟨policies, hpolicies, hversion⟩
          obtain ⟨other, hne, -, rfl⟩ := (hmember policies).mp hpolicies
          exact ⟨other, hne, hversion⟩
        · rintro ⟨other, hne, hversion⟩
          exact ⟨policiesOf C state other, (hmember _).mpr ⟨other, hne, hvalue hversion, rfl⟩,
            hversion⟩
      rw [← hset]
      exact (foldl_addOthers maps hascend bundleName).2

/-- The version that a successful call leaves in the combined policy. -/
def nextVersion (own top : Option UInt16) : UInt16 := top.elim (own.getD 0 + 1) fun most => most + 1

/-- A call that fails leaves the policies. -/
theorem handle_failed {call : BrowserCall}
    (h : failed (handle C canonical order bundleName state call).1 = true) :
    (handle C canonical order bundleName state call).2.store = state.store := by
  unfold handle PluginManager.updateDevicePolicy at h ⊢
  dsimp only at h ⊢
  split
  · rfl
  · rename_i hok
    rw [if_neg hok] at h
    split at h <;> contradiction

/-- A call succeeds when its handler does, and its policies are then written. -/
theorem handle_cases (state : PluginState Files) (call : BrowserCall) :
    let handled := onHandlePolicy C canonical state.modules
      ⟨bundleName, call.policyName, call.policyValue⟩ (PluginManager.handlePolicyData
        (plugin C canonical order state.store.manager) state call.admin)
    failed handled.1 = true ∧ failed (handle C canonical order bundleName state call).1 = true ∧
        (handle C canonical order bundleName state call).2.store = state.store ∨
      failed handled.1 = false ∧ (handled.2.2.isChanged = true →
        (handle C canonical order bundleName state call).2.store =
          (state.store.setPolicy ⟨.done, .done⟩ call.admin POLICY_MANAGED_BROWSER_POLICY
            handled.2.2.policyData handled.2.2.mergePolicyData).2) := by
  intro handled
  obtain ⟨⟨ret, modules, policyData⟩, hhandled⟩ : ∃ result, result = handled := ⟨_, rfl⟩
  rw [← hhandled]
  cases hret : failed ret with
  | true =>
    have hcall : handle C canonical order bundleName state call = _ :=
      PluginManager.updateDevicePolicy_failed hhandled.symm hret
    rw [hcall]
    exact .inl ⟨rfl, hret, rfl⟩
  | false =>
    refine .inr ⟨rfl, fun hchanged => ?_⟩
    obtain rfl : ret = ERR_OK := by simpa [failed] using hret
    have hcall : handle C canonical order bundleName state call = _ :=
      PluginManager.updateDevicePolicy_changed hhandled.symm hchanged
    rw [hcall]
    rfl

/-- What `OnHandlePolicy` has done when it succeeds. -/
theorem onHandlePolicy_ok {files : Files} {request : Request} {policyData : HandlePolicyData}
    {policies others : ManagedBrowserPolicies}
    (hpolicies : deserialize C policyData.policyData = some policies)
    (hothers : deserialize C policyData.mergePolicyData = some others)
    (h : failed (onHandlePolicy C canonical files request policyData).1 = false) :
    ∃ policyNames, let current := assign Prod.fst (request.bundleName,
        ⟨policyNames, (policiesAt request.bundleName policies).version + 1⟩) policies
      (onHandlePolicy C canonical files request policyData).2.2 =
        ⟨serialize C current, serialize C (addToMerge others current), true⟩ := by
  unfold onHandlePolicy at h ⊢
  by_cases hrefused : Refused request
  · rw [if_pos hrefused] at h
    contradiction
  · rw [if_neg hrefused] at h ⊢
    rw [hpolicies, hothers] at h ⊢
    dsimp only at h ⊢
    unfold updateCurrentAndMergePolicy at h ⊢
    by_cases hrival : request.policyName ∈ (policiesAt request.bundleName others).policyNames
    · rw [if_pos hrival] at h
      contradiction
    · rw [if_neg hrival] at h ⊢
      have hok : failed ERR_OK = false := rfl
      simp only [hok, Bool.false_eq_true, if_false] at h ⊢
      generalize (if request.policyName ∈ (policiesAt request.bundleName policies).policyNames then
          modifyOrRemoveManagedBrowserPolicy canonical files request.bundleName
            request.policyName (written request.policyValue)
        else addManagedBrowserPolicy canonical files request.bundleName request.policyName
          (written request.policyValue)) = result at h ⊢
      obtain ⟨ret, files'⟩ := result
      dsimp only at h ⊢
      by_cases hret : (ret != ERR_OK) = true
      · rw [if_pos hret] at h
        exact absurd (hret.symm.trans h) nofun
      · rw [if_neg hret]
        exact ⟨_, rfl⟩

theorem handle_ok (h : Readable C state) {call : BrowserCall}
    (hok : failed (handle C canonical order bundleName state call).1 = false) :
    ∃ top, Highest {version | ∃ other, other ≠ call.admin ∧
        ownVersion C bundleName state other = some version} top ∧
      Readable C (handle C canonical order bundleName state call).2 ∧
      versionNow C bundleName (handle C canonical order bundleName state call).2 =
        some ((nextVersion (ownVersion C bundleName state call.admin) top).toNat : Int) := by
  obtain ⟨others, hascend, hothers, hhighest⟩ := getOthersMergePolicyData_read h order call.admin
  obtain ⟨hpoliciesAscend, hpolicies⟩ := h.policiesOf call.admin
  refine ⟨versionAt bundleName others, hhighest bundleName, ?_⟩
  have hcases := @handle_cases C canonical order bundleName state call
  generalize hhandled : onHandlePolicy C canonical state.modules
    ⟨bundleName, call.policyName, call.policyValue⟩ (PluginManager.handlePolicyData
      (plugin C canonical order state.store.manager) state call.admin) = handled at hcases
  dsimp only at hcases
  rcases hcases with ⟨-, hfailed, -⟩ | ⟨hret, hstore⟩
  · exact absurd (hfailed.symm.trans hok) nofun
  rw [← hhandled] at hret
  obtain ⟨policyNames, hchanged⟩ := onHandlePolicy_ok hpolicies hothers hret
  rw [hhandled] at hchanged
  dsimp only at hchanged
  rw [hchanged] at hstore
  have hstore := hstore rfl
  generalize handle C canonical order bundleName state call = after at hstore ⊢
  generalize hcurrent : assign Prod.fst (bundleName, (⟨policyNames,
    (policiesAt bundleName (policiesOf C state call.admin)).version + 1⟩ :
      ManagedBrowserPolicyType)) (policiesOf C state call.admin) = current at hstore
  have hcurrentAscend : KeysAscend Prod.fst current := hcurrent ▸ keysAscend_assign hpoliciesAscend
  obtain ⟨hmergeAscend, hmergeAt⟩ := addToMerge_spec hascend hcurrentAscend bundleName
  have hsaved := saved_setPolicy h.store.inverse call.admin.2 policyName_ne (serialize C current)
    (serialize C (addToMerge others current))
  rw [← hstore] at hsaved
  have hcombined : value after.2 "" = serialize C (addToMerge others current) :=
    hsaved.value_combined
  refine ⟨⟨h.store.saved call.admin.2 hsaved, fun a => ?_⟩, ?_⟩
  · by_cases hempty : a = ""
    · rw [hempty, hcombined]
      exact ⟨_, hmergeAscend, deserialize_serialize hmergeAscend⟩
    · by_cases hself : a = call.admin.1
      · rw [hself, value, hsaved.value_self call.admin.2]
        exact ⟨_, hcurrentAscend, deserialize_serialize hcurrentAscend⟩
      · rw [value, hsaved.value_other hempty fun heq => hself heq.1]
        exact h.read a
  · have hat : valueAt bundleName current = some ⟨policyNames,
        (policiesAt bundleName (policiesOf C state call.admin)).version + 1⟩ := by
      rw [← hcurrent, valueAt_assign hpoliciesAscend, if_pos rfl]
    have hown : (policiesAt bundleName (policiesOf C state call.admin)).version =
        (ownVersion C bundleName state call.admin).getD 0 := by
      rw [policiesAt, ownVersion]
      cases valueAt bundleName (policiesOf C state call.admin) <;> rfl
    rw [hat, Option.elim_some] at hmergeAt
    rw [versionNow, getManagedBrowserPolicyVersion]
    have hread : deserialize C (after.2.store.manager.policyValue ""
        POLICY_MANAGED_BROWSER_POLICY) = some (addToMerge others current) := by
      have hcombined : after.2.store.manager.policyValue "" POLICY_MANAGED_BROWSER_POLICY =
        serialize C (addToMerge others current) := hcombined
      rw [hcombined]
      exact deserialize_serialize hmergeAscend
    rw [hread, Option.map_some, hmergeAt, nextVersion, ← hown, versionAt]
    cases valueAt bundleName others <;> rfl

end Call

/-! ### Runs -/

section Run

variable {C : ArrayCJson} {canonical : String → String} {order : HashOrder} {bundleName : String}

theorem toNat_nextVersion (own top : Option UInt16) : (nextVersion own top).toNat =
    ((top.elim (own.getD 0) id).toNat + 1) % 65536 := by
  cases top with
  | none => exact UInt16.toNat_add _ _
  | some most => exact UInt16.toNat_add _ _

/-- The next version is greater than versions among which is zero exactly where the one before it is
at least as great as each, and not the greatest of 16 bits. -/
theorem forall_lt_next {reported : List Int} (hzero : (0 : Int) ∈ reported) (most : UInt16) :
    (∀ v ∈ reported, v < (((most.toNat + 1) % 65536 : Nat) : Int)) ↔
      (∀ v ∈ reported, v ≤ most.toNat) ∧ most.toNat < 65535 := by
  have hbound := most.toNat_lt
  constructor
  · intro h
    have hpos := h 0 hzero
    have hlt : most.toNat < 65535 := by omega
    refine ⟨fun v hv => ?_, hlt⟩
    have hv := h v hv
    omega
  · rintro ⟨h, hlt⟩ v hv
    have hv := h v hv
    omega

/-- What is known in every run: the values are texts of maps, and zero was reported. -/
structure Reporting (C : ArrayCJson) (s : Versions) : Prop where
  readable : Readable C s.state
  zero : (0 : Int) ∈ s.reported

theorem reporting_boot (C : ArrayCJson) (files : Files) : Reporting C (bootVersions files) where
  readable := {
    store := goodStore_new 100
    read := fun a => ⟨[], keysAscend_nil, by
      have hvalue : value (bootVersions files).state a = "" := policyValue_new 100 a _
      rw [hvalue, deserialize_empty]⟩ }
  zero := List.mem_singleton_self 0

theorem Reporting.step {s : Versions} (h : Reporting C s) (call : BrowserCall) :
    Reporting C (callStep C canonical order bundleName s call) := by
  refine ⟨?_, List.mem_append_right _ h.zero⟩
  show Readable C (handle C canonical order bundleName s.state call).2
  cases hok : failed (handle C canonical order bundleName s.state call).1 with
  | true =>
    have hstore := handle_failed hok
    have hvalue : ∀ a, value (handle C canonical order bundleName s.state call).2 a =
        value s.state a := fun a => by rw [value, hstore]
    refine ⟨hstore ▸ h.readable.store, fun a => ?_⟩
    rw [hvalue]
    exact h.readable.read a
  | false =>
    obtain ⟨top, -, hreadable, -⟩ := handle_ok h.readable hok
    exact hreadable

theorem grows_iff {s : Versions} (h : Reporting C s) (call : BrowserCall) :
    Grows C canonical order bundleName s call ↔ KeepsUp C canonical order bundleName s call := by
  refine forall_congr' fun hchanges => ?_
  obtain ⟨top, hhighest, -, hversion⟩ := handle_ok h.readable hchanges.1
  obtain ⟨hmem, hnone, hle⟩ := hhighest
  have hgrows : (∃ version, versionNow C bundleName
      (handle C canonical order bundleName s.state call).2 = some version ∧
        ∀ v ∈ s.reported, v < version) ↔
      ∀ v ∈ s.reported, v < ((((top.elim ((ownVersion C bundleName s.state call.admin).getD 0)
        id).toNat + 1) % 65536 : Nat) : Int) := by
    rw [← toNat_nextVersion]
    constructor
    · rintro ⟨version, hnow, hall⟩
      rw [hversion] at hnow
      rwa [← Option.some.inj hnow] at hall
    · intro hall
      exact ⟨_, hversion, hall⟩
  rw [hgrows, forall_lt_next h.zero]
  cases htop : top with
  | none =>
    have hempty := hnone.mp htop
    have hothers : ∀ other, other ≠ call.admin →
        ownVersion C bundleName s.state other = none := by
      intro other hne
      refine Option.eq_none_iff_forall_ne_some.mpr fun version hother => ?_
      have hin : version ∈ {version | ∃ other, other ≠ call.admin ∧
        ownVersion C bundleName s.state other = some version} := ⟨other, hne, hother⟩
      rw [hempty] at hin
      exact hin
    constructor
    · intro hown
      exact .inr ⟨hothers, hown⟩
    · rintro (⟨⟨other, version, hne, hother, -⟩, -⟩ | ⟨-, hown⟩)
      · rw [hothers other hne] at hother
        contradiction
      · exact hown
  | some most =>
    obtain ⟨holder, hholder, hmost⟩ := hmem most htop
    constructor
    · rintro ⟨hreported, hlt⟩
      refine .inl ⟨⟨holder, most, hholder, hmost, hreported⟩, fun other version hne hother => ?_⟩
      exact lt_of_le_of_lt (hle version ⟨other, hne, hother⟩ most htop) hlt
    · rintro (⟨⟨other, version, hne, hother, hreported⟩, hbound⟩ | ⟨hothers, -⟩)
      · refine ⟨fun v hv => ?_, hbound holder most hholder hmost⟩
        have hversion := hle version ⟨other, hne, hother⟩ most htop
        have hv := hreported v hv
        show v ≤ (most.toNat : Int)
        omega
      · rw [hothers holder hholder] at hmost
        contradiction

/-- The versions that are reported grow with every change of the browser's file exactly in the runs
whose calls all meet `KeepsUp`. -/
theorem versions_grow_iff (C : ArrayCJson) (canonical : String → String) (order : HashOrder)
    (bundleName : String) (files : Files) (calls : List BrowserCall) :
    Each (callStep C canonical order bundleName) (Grows C canonical order bundleName)
        (bootVersions files) calls ↔
      Each (callStep C canonical order bundleName) (KeepsUp C canonical order bundleName)
        (bootVersions files) calls :=
  each_iff_each (I := Reporting C) (K := fun _ _ => True) (fun _ call h _ => h.step call)
    (fun _ call h => grows_iff h call) (reporting_boot C files) (each_true _ calls)

/-- One admin sets two policies, and another one. -/
def earlierCalls : List BrowserCall :=
  [⟨firstAdmin, "a", "1"⟩, ⟨firstAdmin, "b", "1"⟩, ⟨secondAdmin, "c", "1"⟩]

def stateOfCalls : Versions :=
  run (callStep .standard id .evaluated "browser") (bootVersions fun _ => none) earlierCalls

def laterCall : BrowserCall := ⟨secondAdmin, "d", "1"⟩

/-- The other admin sets a second one, and the version is the one that was reported before. -/
theorem versions_repeat :
    ¬ ∀ (C : ArrayCJson) (canonical : String → String) (order : HashOrder) (bundleName : String)
      (files : Files) (calls : List BrowserCall),
      Each (callStep C canonical order bundleName) (Grows C canonical order bundleName)
        (bootVersions files) calls := by
  intro h
  have hcalls := h .standard id .evaluated "browser" (fun _ => none) (earlierCalls ++ [laterCall])
  have hlater : Grows .standard id .evaluated "browser" stateOfCalls laterCall :=
    hcalls.append_right.1
  have hok : failed (handle .standard id .evaluated "browser" stateOfCalls.state laterCall).1 =
      false := by decide +kernel
  have hchanges : (handle .standard id .evaluated "browser" stateOfCalls.state laterCall).2.modules
      (id (url "browser")) ≠ stateOfCalls.state.modules (id (url "browser")) := by decide +kernel
  have hnow : versionNow .standard "browser"
      (handle .standard id .evaluated "browser" stateOfCalls.state laterCall).2 = some 3 := by
    decide +kernel
  have hreported : stateOfCalls.reported = [3, 2, 1, 0] := by decide +kernel
  obtain ⟨version, hversion, hgreater⟩ := hlater ⟨hok, hchanges⟩
  rw [hnow] at hversion
  obtain rfl := Option.some.inj hversion
  rw [hreported] at hgreater
  exact lt_irrefl _ (hgreater 3 List.mem_cons_self)

end Run

end ManagedBrowserPolicyPlugin

end Edm
