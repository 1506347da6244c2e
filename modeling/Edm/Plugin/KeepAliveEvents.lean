import Edm.Library.Holders
import Edm.Plugin.ManageKeepAliveAppsPlugin

/-! The removal of an application, dispatched to every admin that keeps it alive.  The admin that is
visited last decides what the combined list becomes. -/

set_option autoImplicit false

namespace Edm

open Library Library.UnorderedMap

namespace ManageKeepAliveAppsPlugin

open ManageKeepAliveAppsSerializer

section State

variable (C : CJson) (s : PluginState (Finset String))

/-- The value of an admin, or with the empty name the combined value. -/
abbrev value (a : String) : String :=
  s.store.manager.policyValue a POLICY_MANAGE_KEEP_ALIVE_APPS

def adminList (admin : AdminName) : List ManageKeepAliveAppInfo := (deserialize C (value s admin)).2

def combinedList : List ManageKeepAliveAppInfo := (deserialize C (value s "")).2

/-- The bundles that an admin keeps alive. -/
def claims (admin : AdminName) : Set String := {x | x ∈ bundles (adminList C s admin)}

/-- The values are texts of lists, and an admin's list has an item. -/
structure Readable : Prop where
  store : GoodStore s.store
  admin_read : ∀ admin : AdminName, value s admin ≠ "" →
    (deserialize C (value s admin)).1 = true ∧ adminList C s admin ≠ []
  combined_read : (deserialize C (value s "")).1 = true

/-- The combined list is the union of the admins' lists, and the plugin is subscribed to its events
while some admin has a value. -/
structure Merged : Prop where
  combined_nodup : (bundles (combinedList C s)).Nodup
  combined_mem : ∀ x, x ∈ bundles (combinedList C s) ↔ x ∈ held (claims C s)
  subscribed : ∀ admin : AdminName, value s admin ≠ "" → s.subscribed = true

end State

/-! ### One list -/

section List

variable (bundleName : String) (data : List ManageKeepAliveAppInfo)

/-- The first item of the bundle is taken out, unless the list has no other item. -/
def afterEvent : List ManageKeepAliveAppInfo :=
  if bundleName ∈ bundles data ∧ 2 ≤ data.length then
    setDifferencePolicyData (setIntersectionPolicyData [bundleName] data) data
  else data

variable {bundleName data}

/-- The first item of a bundle. -/
theorem setIntersectionPolicyData_singleton (h : bundleName ∈ bundles data) :
    ∃ info, info ∈ data ∧ info.bundleName = bundleName ∧
      setIntersectionPolicyData [bundleName] data = [info] := by
  obtain ⟨found, hfound, hbundle⟩ := List.mem_map.mp h
  cases hfind : data.find? fun item => item.bundleName == bundleName with
  | none =>
    have hnone := List.find?_eq_none.mp hfind found hfound
    simp [hbundle] at hnone
  | some info =>
    refine ⟨info, List.mem_of_find?_eq_some hfind, ?_, ?_⟩
    · have hinfo := List.find?_some hfind
      exact beq_iff_eq.mp hinfo
    · simp [setIntersectionPolicyData, hfind]

theorem perm_setDifferencePolicyData (info : ManageKeepAliveAppInfo)
    (data : List ManageKeepAliveAppInfo) :
    (setDifferencePolicyData [info] data).Perm (data.erase info) := by
  rw [List.perm_iff_count]
  intro other
  rw [setDifferencePolicyData, count_setDifference _ _ (sorted_sort _) (sorted_sort _), count_sort,
    count_sort, List.count_erase, List.count_singleton]

/-- The bundles of a list without one of its items. -/
theorem mem_bundles_erase {info : ManageKeepAliveAppInfo} (h : info ∈ data) {x : String} :
    x ∈ bundles (data.erase info) ↔ x ∈ bundles data ∧
      (x ≠ info.bundleName ∨ 2 ≤ (bundles data).count info.bundleName) := by
  have hperm := (List.perm_cons_erase h).map ManageKeepAliveAppInfo.bundleName
  rw [List.map_cons] at hperm
  rw [bundles, hperm.mem_iff, hperm.count_eq, List.count_cons_self, List.mem_cons]
  by_cases hx : x = info.bundleName
  · subst hx
    rw [← List.count_pos_iff (l := bundles (data.erase info))]
    simp
  · simp [hx]

/-- The bundles that stay. -/
theorem mem_bundles_afterEvent {x : String} :
    x ∈ bundles (afterEvent bundleName data) ↔ x ∈ bundles data ∧
      (x ≠ bundleName ∨ data.length = 1 ∨ 2 ≤ (bundles data).count bundleName) := by
  unfold afterEvent
  split
  · rename_i h
    obtain ⟨info, hinfo, rfl, hfirst⟩ := setIntersectionPolicyData_singleton h.1
    have hlength : data.length ≠ 1 := by omega
    rw [hfirst, bundles, ((perm_setDifferencePolicyData info data).map _).mem_iff,
      mem_bundles_erase hinfo]
    simp [hlength]
  · rename_i h
    refine ⟨fun hx => ⟨hx, ?_⟩, And.left⟩
    by_cases hne : x = bundleName
    · subst hne
      have hlength : 0 < data.length := List.length_pos_of_mem (List.mem_map.mp hx).choose_spec.1
      have hshort : ¬2 ≤ data.length := fun hlong => h ⟨hx, hlong⟩
      exact .inr (.inl (by omega))
    · exact .inl hne

theorem afterEvent_ne_nil (h : data ≠ []) : afterEvent bundleName data ≠ [] := by
  unfold afterEvent
  split
  · rename_i hlong
    obtain ⟨info, hinfo, -, hfirst⟩ := setIntersectionPolicyData_singleton hlong.1
    rw [hfirst]
    intro hnil
    have hlength := (perm_setDifferencePolicyData info data).length_eq
    rw [hnil, List.length_erase_of_mem hinfo, List.length_nil] at hlength
    omega
  · exact h

end List

/-! ### One admin -/

theorem policyName_ne : POLICY_MANAGE_KEEP_ALIVE_APPS ≠ "" := by decide

section Step

variable {C : CJson} {s : PluginState (Finset String)}

theorem adminList_eq_nil {admin : AdminName} (h : value s admin = "") : adminList C s admin = [] := by
  rw [adminList, h]
  rfl

theorem value_ne_of_mem {admin : AdminName} {x : String} (h : x ∈ claims C s admin) :
    value s admin ≠ "" := by
  intro hvalue
  rw [claims, adminList_eq_nil hvalue] at h
  exact List.not_mem_nil h

theorem serialize_old {data : List ManageKeepAliveAppInfo} (h : data ≠ []) (policy : String) :
    serialize C data policy = serialize C data "" := by
  rw [serialize, serialize, if_neg h, if_neg h]

theorem deserialize_new (data : List ManageKeepAliveAppInfo) :
    deserialize C (serialize C data "") = (true, data) := by
  by_cases h : data = []
  · subst h
    rfl
  · exact deserialize_serialize h ""

/-- A union over a list is written over the text of that list. -/
theorem serialize_setUnionPolicyData (data others : List ManageKeepAliveAppInfo) :
    serialize C (setUnionPolicyData data others) (serialize C others "") =
      serialize C (setUnionPolicyData data others) "" := by
  by_cases hunion : setUnionPolicyData data others = []
  · have hothers : others = [] := by
      refine List.eq_nil_iff_forall_not_mem.mpr fun info hinfo => ?_
      have hmem : info.bundleName ∈ bundles (setUnionPolicyData data others) :=
        mem_bundles_setUnionPolicyData.mpr (.inr (List.mem_map_of_mem hinfo))
      rw [hunion] at hmem
      exact List.not_mem_nil hmem
    rw [hunion, hothers]
    rfl
  · exact serialize_old hunion _

/-- `GetOthersMergePolicyData` is the text of a list of what the other admins keep alive. -/
theorem getOthersMergePolicyData_text (order : HashOrder) (h : Readable C s) (admin : AdminName) :
    ∃ others, (bundles others).Nodup ∧
      (∀ x, x ∈ bundles others ↔ x ∈ heldByOthers (claims C s) admin) ∧
      getOthersMergePolicyData C order s.store.manager admin = serialize C others "" := by
  unfold getOthersMergePolicyData
  dsimp only
  by_cases hempty :
      isEmpty ((s.store.manager.adminValues POLICY_MANAGE_KEEP_ALIVE_APPS).erase admin.1) = true
  · refine ⟨[], List.nodup_nil, fun x => ?_, by rw [if_pos hempty]; rfl⟩
    simp only [List.map_nil, List.not_mem_nil, false_iff]
    rintro ⟨other, hne, hx⟩
    have hnone := (eq_empty_iff _).mp (isEmpty_iff.mp hempty) other.1
    have hsome := (h.store.lookup_others admin _ other.1 _).mpr ⟨other.2, hne, rfl, value_ne_of_mem hx⟩
    rw [hnone] at hsome
    contradiction
  · rw [if_neg hempty]
    obtain ⟨-, hmem⟩ := order.enumerates
      ((s.store.manager.adminValues POLICY_MANAGE_KEEP_ALIVE_APPS).erase admin.1)
    have hentry := fun x v => (hmem x v).trans (h.store.lookup_others admin _ x v)
    generalize order.entries ((s.store.manager.adminValues
      POLICY_MANAGE_KEEP_ALIVE_APPS).erase admin.1) = entries at hentry ⊢
    have hlists : deserializeValues C (entries.map Prod.snd) =
        some ((entries.map Prod.snd).map fun v => (deserialize C v).2) := by
      have hread : ∀ v, v ∈ entries.map Prod.snd → (deserialize C v).1 = true ∧ v ≠ "" := by
        intro v hv
        obtain ⟨⟨y, v⟩, hmem, rfl⟩ := List.mem_map.mp hv
        obtain ⟨hy, -, rfl, hne⟩ := (hentry y v).mp hmem
        exact ⟨(h.admin_read ⟨y, hy⟩ hne).1, hne⟩
      have hfilter : (entries.map Prod.snd).filter (fun v => v != "") = entries.map Prod.snd :=
        List.filter_eq_self.mpr fun v hv => bne_iff_ne.mpr (hread v hv).2
      rw [deserializeValues, hfilter]
      refine mapM_some fun v hv => ?_
      have hpair : deserialize C v = (true, (deserialize C v).2) := Prod.ext (hread v hv).1 rfl
      rw [hpair]
    have hcombined : deserialize C (value s "") = (true, combinedList C s) :=
      Prod.ext h.combined_read rfl
    rw [hlists, hcombined]
    refine ⟨_, ?_, fun x => ?_, rfl⟩
    · rw [bundles_updateByMergePolicy]
      exact nodup_bundles_mergePolicy _
    · rw [bundles_updateByMergePolicy, mem_bundles_mergePolicy, mem_heldByOthers]
      simp only [List.mem_map, exists_exists_and_eq_and]
      constructor
      · rintro ⟨⟨y, v⟩, hmem, hx⟩
        obtain ⟨hy, hne, rfl, -⟩ := (hentry y v).mp hmem
        exact ⟨⟨y, hy⟩, hne, List.mem_map.mpr hx⟩
      · rintro ⟨other, hne, hx⟩
        have hmem := (hentry other.1 _).mpr ⟨other.2, hne, rfl, value_ne_of_mem hx⟩
        exact ⟨_, hmem, List.mem_map.mp hx⟩

/-- The uninstallation of one application calls no service. -/
theorem onRemovePolicy_uninstall {bundleName : String} {data : List ManageKeepAliveAppInfo}
    (mergeData : List ManageKeepAliveAppInfo) (answers : Answers) (alive : Finset String) :
    onRemovePolicy answers alive [bundleName] data mergeData true =
      (ERR_OK, alive,
        setDifferencePolicyData (setIntersectionPolicyData [bundleName] data) data,
        setUnionPolicyData
          (setDifferencePolicyData (setIntersectionPolicyData [bundleName] data) data)
          mergeData) := by
  have hok : failed ERR_OK = false := by decide
  simp [onRemovePolicy, KEEP_ALIVE_APPS_MAX_SIZE, hok]

/-- What an event makes of an admin's value and of the others' merged list. -/
theorem onPluginEvent_text {text : String} (bundleName : String)
    {data others : List ManageKeepAliveAppInfo} (hread : deserialize C text = (true, data)) (hothers : (bundles others).Nodup) :
    ∃ text' merge, onPluginEvent C ⟨text, serialize C others "", false⟩ bundleName =
        ⟨text', serialize C merge "", false⟩ ∧
      (data ≠ [] → text' ≠ "" ∧ deserialize C text' = (true, afterEvent bundleName data)) ∧
      (bundles merge).Nodup ∧
      ∀ x, x ∈ bundles merge ↔ x ∈ bundles others ∨
        (bundleName ∈ bundles data ∧ 2 ≤ data.length) ∧ x ∈ bundles (afterEvent bundleName data) := by
  have htext : data ≠ [] → text ≠ "" := by
    rintro hne rfl
    exact hne (congrArg Prod.snd hread).symm
  unfold onPluginEvent
  dsimp only
  rw [hread, deserialize_new]
  by_cases hbundle : bundleName ∈ bundles data
  · rw [if_neg (not_not.mpr hbundle), onRemovePolicy_uninstall]
    obtain ⟨info, hinfo, -, hfirst⟩ := setIntersectionPolicyData_singleton hbundle
    have hperm := perm_setDifferencePolicyData info data
    have hlength : (setDifferencePolicyData [info] data).length = data.length - 1 := by
      rw [hperm.length_eq, List.length_erase_of_mem hinfo]
    refine ⟨serialize C (setDifferencePolicyData [info] data) text,
      setUnionPolicyData (setDifferencePolicyData [info] data) others, ?_, ?_,
      nodup_bundles_setUnionPolicyData _ _, fun x => ?_⟩
    · dsimp only
      rw [hfirst, serialize_setUnionPolicyData]
    · intro hne
      unfold afterEvent
      split
      · rename_i hlong
        have hrest : setDifferencePolicyData [info] data ≠ [] := by
          intro hnil
          rw [hnil, List.length_nil] at hlength
          omega
        rw [hfirst]
        exact ⟨serialize_ne_empty hrest text, deserialize_serialize hrest text⟩
      · rename_i hshort
        have hrest : setDifferencePolicyData [info] data = [] := by
          refine List.length_eq_zero_iff.mp ?_
          have hlong : ¬2 ≤ data.length := fun hlong => hshort ⟨hbundle, hlong⟩
          omega
        rw [hrest, serialize, if_pos rfl]
        exact ⟨htext hne, hread⟩
    · rw [mem_bundles_setUnionPolicyData, or_comm]
      refine or_congr_right ?_
      by_cases hlong : 2 ≤ data.length
      · simp [afterEvent, hbundle, hlong, hfirst]
      · have hrest : setDifferencePolicyData [info] data = [] :=
          List.length_eq_zero_iff.mp (by omega)
        simp [hrest, hlong]
  · rw [if_pos hbundle]
    have hafter : afterEvent bundleName data = data := if_neg fun h => hbundle h.1
    refine ⟨text, others, rfl, fun hne => ⟨htext hne, by rw [hread, hafter]⟩, hothers, fun x => ?_⟩
    simp [hbundle]

/-- What the step of an event leaves for the admin `admin`. -/
structure Dispatched (C : CJson) (bundleName : String) (admin : AdminName)
    (s s' : PluginState (Finset String)) : Prop where
  readable : Readable C s'
  value_self : value s' admin ≠ ""
  list_self : adminList C s' admin = afterEvent bundleName (adminList C s admin)
  value_other : ∀ other, other ≠ admin → value s' other = value s other
  combined_nodup : (bundles (combinedList C s')).Nodup
  combined_mem : ∀ x, x ∈ bundles (combinedList C s') ↔ x ∈ heldByOthers (claims C s) admin ∨
    (bundleName ∈ bundles (adminList C s admin) ∧ 2 ≤ (adminList C s admin).length) ∧
      x ∈ bundles (afterEvent bundleName (adminList C s admin))
  subscribed : s'.subscribed = true ↔ s.subscribed = true ∧ combinedList C s' ≠ []

theorem dispatched_step (order : HashOrder) (h : Readable C s) (admin : AdminName)
    (hvalue : value s admin ≠ "") (bundleName : String) :
    Dispatched C bundleName admin s
      (PluginManager.dispatchForAdmin (plugin C order) s ⟨.done, .done⟩ bundleName admin
        (value s admin)) := by
  obtain ⟨others, hnodup, hothers, htext⟩ := getOthersMergePolicyData_text order h admin
  obtain ⟨hread, hne⟩ := h.admin_read admin hvalue
  obtain ⟨text', merge, hevent, htext', hmerge, hmem⟩ :=
    onPluginEvent_text bundleName (Prod.ext hread rfl) hnodup
  have hplugin : (plugin C order).onPluginEvent
      { policyData := value s admin
        mergePolicyData := (plugin C order).getOthersMergePolicyData s.store.manager admin
        isChanged := false } bundleName = ⟨text', serialize C merge "", false⟩ := by
    rw [← hevent, ← htext]
    rfl
  have hstore : (PluginManager.dispatchForAdmin (plugin C order) s ⟨.done, .done⟩ bundleName admin
      (value s admin)).store =
        (s.store.setPolicy ⟨.done, .done⟩ admin POLICY_MANAGE_KEEP_ALIVE_APPS text'
          (serialize C merge "")).2 := by
    rw [PluginManager.dispatchForAdmin, hplugin]
    rfl
  have hsubscribed : (PluginManager.dispatchForAdmin (plugin C order) s ⟨.done, .done⟩ bundleName
      admin (value s admin)).subscribed = (s.subscribed && serialize C merge "" != "") := by
    rw [PluginManager.dispatchForAdmin, hplugin]
    rfl
  generalize PluginManager.dispatchForAdmin (plugin C order) s ⟨.done, .done⟩ bundleName admin
    (value s admin) = s' at hstore hsubscribed ⊢
  obtain ⟨hne', hread'⟩ := htext' hne
  have hsaved := saved_setPolicy h.store.inverse admin.2 policyName_ne text' (serialize C merge "")
  rw [← hstore] at hsaved
  have hself : value s' admin = text' := hsaved.value_self admin.2
  have hother : ∀ other : AdminName, other ≠ admin → value s' other = value s other :=
    fun other hne => hsaved.value_other other.2 fun heq => hne (Subtype.ext heq.1)
  have hcombined : value s' "" = serialize C merge "" := hsaved.value_combined
  have hlist : combinedList C s' = merge := by rw [combinedList, hcombined, deserialize_new]
  have hafter : adminList C s' admin = afterEvent bundleName (adminList C s admin) := by
    rw [adminList, hself, hread']
    rfl
  refine ⟨⟨h.store.saved admin.2 hsaved, fun other hvalue' => ?_, ?_⟩, hself ▸ hne', hafter, hother,
    hlist ▸ hmerge, fun x => ?_, ?_⟩
  · by_cases heq : other = admin
    · subst heq
      rw [hafter, hself, hread']
      exact ⟨rfl, afterEvent_ne_nil hne⟩
    · rw [adminList, hother other heq] at *
      exact h.admin_read other hvalue'
  · rw [hcombined, deserialize_new]
  · rw [hlist, hmem, hothers]
    rfl
  · rw [hsubscribed, hlist, Bool.and_eq_true, bne_iff_ne]
    refine and_congr_right fun _ => not_congr ?_
    constructor
    · intro hempty
      by_contra hmerge
      exact serialize_ne_empty hmerge "" hempty
    · rintro rfl
      rfl

end Step

/-! ### All admins -/

section Run

variable {C : CJson} {s : PluginState (Finset String)}

/-- What the steps of an event leave for the admins that were visited. -/
structure DispatchedAll (C : CJson) (bundleName : String) (visited : List String)
    (s s' : PluginState (Finset String)) : Prop where
  readable : Readable C s'
  list : ∀ admin : AdminName, adminList C s' admin =
    if admin.1 ∈ visited then afterEvent bundleName (adminList C s admin) else adminList C s admin
  value_other : ∀ admin : AdminName, admin.1 ∉ visited → value s' admin = value s admin
  subscribed : s'.subscribed = s.subscribed

/-- Visiting admins, while another admin keeps its value. -/
theorem dispatchedAll_entries (order : HashOrder) (writes : String → Writes)
    (hwrites : ∀ a, writes a = ⟨.done, .done⟩) (bundleName : String) (last : AdminName)
    (entries : List (String × String)) (h : Readable C s) (hlast : value s last ≠ "")
    (hnodup : (entries.map Prod.fst).Nodup) (hnew : last.1 ∉ entries.map Prod.fst)
    (hentries : ∀ x v, (x, v) ∈ entries → ∃ hx : x ≠ "", v = value s (⟨x, hx⟩ : AdminName) ∧
      v ≠ "") :
    DispatchedAll C bundleName (entries.map Prod.fst) s
      (PluginManager.dispatchEntries (plugin C order) writes bundleName s entries) := by
  induction entries generalizing s with
  | nil =>
    refine ⟨h, fun admin => ?_, fun _ _ => rfl, rfl⟩
    rw [List.map_nil, if_neg List.not_mem_nil]
    rfl
  | cons entry entries ih =>
    obtain ⟨x, v⟩ := entry
    obtain ⟨hx, rfl, hvalue⟩ := hentries x v List.mem_cons_self
    obtain ⟨hhead, htail⟩ := List.nodup_cons.mp hnodup
    have hstep := dispatched_step order h ⟨x, hx⟩ hvalue bundleName
    have hrun : PluginManager.dispatchEntries (plugin C order) writes bundleName s
        ((x, value s x) :: entries) = PluginManager.dispatchEntries (plugin C order) writes
          bundleName (PluginManager.dispatchForAdmin (plugin C order) s ⟨.done, .done⟩ bundleName x
            (value s x)) entries := by
      rw [← hwrites x]
      rfl
    rw [hrun]
    generalize PluginManager.dispatchForAdmin (plugin C order) s ⟨.done, .done⟩ bundleName x
      (value s x) = s₁ at hstep ⊢
    have hne : last ≠ ⟨x, hx⟩ := by
      rintro rfl
      exact hnew List.mem_cons_self
    have hsame : ∀ admin : AdminName, admin.1 ≠ x → value s₁ admin = value s admin :=
      fun admin hadmin => hstep.value_other admin fun heq => hadmin (congrArg Subtype.val heq)
    have hrest := ih hstep.readable (by rwa [hsame last fun heq => hne (Subtype.ext heq)]) htail
      (fun hmem => hnew (List.mem_cons_of_mem _ hmem)) fun y w hmem => by
        obtain ⟨hy, rfl, hw⟩ := hentries y w (List.mem_cons_of_mem _ hmem)
        refine ⟨hy, (hsame ⟨y, hy⟩ ?_).symm, hw⟩
        rintro rfl
        exact hhead (List.mem_map_of_mem hmem)
    refine ⟨hrest.readable, fun admin => ?_, fun admin hadmin => ?_, ?_⟩
    · rw [hrest.list]
      by_cases heq : admin = ⟨x, hx⟩
      · subst heq
        rw [if_neg hhead, List.map_cons, if_pos List.mem_cons_self]
        exact hstep.list_self
      · have hadmin : admin.1 ≠ x := fun hx' => heq (Subtype.ext hx')
        have hlist : adminList C s₁ admin = adminList C s admin := by
          rw [adminList, adminList, hsame admin hadmin]
        simp only [List.map_cons, List.mem_cons, hadmin, false_or, hlist]
    · obtain ⟨hadmin', hrest'⟩ := not_or.mp (mt List.mem_cons.mpr hadmin)
      rw [hrest.value_other admin hrest', hsame admin hadmin']
    · -- The last admin's list is not empty, so the merged list is not.
      obtain ⟨info, hinfo⟩ := List.exists_mem_of_ne_nil _ (h.admin_read last hlast).2
      have hmerged := (hstep.combined_mem info.bundleName).mpr
        (.inl ⟨last, hne, List.mem_map_of_mem hinfo⟩)
      have hcombined : combinedList C s₁ ≠ [] := by
        intro hnil
        rw [hnil] at hmerged
        exact List.not_mem_nil hmerged
      rw [hrest.subscribed, Bool.eq_iff_iff, hstep.subscribed]
      exact and_iff_left hcombined

variable (C) (s)

/-- The admin is visited last. -/
def Last (order : HashOrder) (last : AdminName) : Prop :=
  ∃ entries v, order.entries (s.store.manager.adminValues POLICY_MANAGE_KEEP_ALIVE_APPS) =
    entries ++ [(last.1, v)]

/-- The last admin keeps the application that was removed next to another one, or everything that it
keeps alive stays in the list of another admin. -/
def Survives (bundleName : String) (last : AdminName) : Prop :=
  bundleName ∈ bundles (adminList C s last) ∧ 2 ≤ (adminList C s last).length ∨
    ∀ x, x ∈ bundles (adminList C s last) → ∃ other, other ≠ last ∧
      x ∈ bundles (adminList C s other) ∧
      (x ≠ bundleName ∨ (adminList C s other).length = 1 ∨
        2 ≤ (bundles (adminList C s other)).count bundleName)

variable {C s}

/-- The end of the dispatch: the admins before the last one were visited, and then the last one. -/
theorem merged_last {bundleName : String} {last : AdminName}
    {visited : List String} {s₁ s₂ : PluginState (Finset String)} (h : Merged C s)
    (hread : Readable C s)
    (hlast : value s last ≠ "") (hbefore : DispatchedAll C bundleName visited s s₁)
    (hvisited : ∀ admin : AdminName, admin ≠ last → value s admin ≠ "" → admin.1 ∈ visited)
    (hnew : last.1 ∉ visited) (hstep : Dispatched C bundleName last s₁ s₂) :
    Merged C s₂ ↔ Survives C s bundleName last := by
  have hself : adminList C s₁ last = adminList C s last := by rw [hbefore.list, if_neg hnew]
  have hbefore' : ∀ x, x ∈ heldByOthers (claims C s₁) last ↔ ∃ other, other ≠ last ∧
      x ∈ bundles (adminList C s other) ∧
      (x ≠ bundleName ∨ (adminList C s other).length = 1 ∨
        2 ≤ (bundles (adminList C s other)).count bundleName) := fun x => by
    refine exists_congr fun other => and_congr_right fun hne => ?_
    rw [← mem_bundles_afterEvent, claims, hbefore.list]
    split
    · exact Iff.rfl
    · rename_i hskip
      have hvalue : value s other = "" := by
        by_contra hvalue
        exact hskip (hvisited other hne hvalue)
      rw [adminList_eq_nil hvalue]
      simp [afterEvent]
  have hothers : heldByOthers (claims C s₂) last = heldByOthers (claims C s₁) last := by
    refine Set.ext fun x => exists_congr fun other => and_congr_right fun hne => ?_
    rw [claims, claims, adminList, adminList, hstep.value_other other hne]
  have hheld : ∀ x, x ∈ held (claims C s₂) ↔ x ∈ heldByOthers (claims C s₁) last ∨
      x ∈ bundles (afterEvent bundleName (adminList C s last)) := fun x => by
    rw [held_eq _ last, hothers, claims, hstep.list_self, hself]
    rfl
  have hcombined := hstep.combined_mem
  rw [hself] at hcombined
  constructor
  · intro h'
    by_cases hkept : bundleName ∈ bundles (adminList C s last) ∧ 2 ≤ (adminList C s last).length
    · exact .inl hkept
    · refine .inr fun x hx => (hbefore' x).mp ?_
      have hafter : afterEvent bundleName (adminList C s last) = adminList C s last := if_neg hkept
      have hmem := (h'.combined_mem x).mpr ((hheld x).mpr (.inr (by rwa [hafter])))
      exact ((hcombined x).mp hmem).resolve_right fun hand => hkept hand.1
  · intro hsurvives
    have hmem : ∀ x, x ∈ bundles (combinedList C s₂) ↔ x ∈ held (claims C s₂) := fun x => by
      rw [hcombined, hheld]
      refine or_congr_right' fun hnot => and_iff_right_of_imp fun hx => ?_
      rcases hsurvives with hkept | hothers
      · exact hkept
      · exact absurd ((hbefore' x).mpr (hothers x (mem_bundles_afterEvent.mp hx).1)) hnot
    refine ⟨hstep.combined_nodup, hmem, fun _ _ => ?_⟩
    have hne : afterEvent bundleName (adminList C s last) ≠ [] :=
      afterEvent_ne_nil (hread.admin_read last hlast).2
    obtain ⟨info, hinfo⟩ := List.exists_mem_of_ne_nil _ hne
    have hmerged := (hmem info.bundleName).mpr ((hheld _).mpr (.inr (List.mem_map_of_mem hinfo)))
    have hne : combinedList C s₂ ≠ [] := by
      intro hnil
      rw [hnil] at hmerged
      exact List.not_mem_nil hmerged
    exact hstep.subscribed.mpr ⟨hbefore.subscribed.trans (h.subscribed last hlast), hne⟩

/-- The admin that is visited last decides whether the combined list is the union. -/
theorem merged_dispatchForAdmins {order : HashOrder} {writes : String → Writes}
    {bundleName : String} {entries : List (String × String)} {last : AdminName} {v : String}
    (hread : Readable C s) (hmerged : Merged C s) (hwrites : ∀ a, writes a = ⟨.done, .done⟩)
    (hentries : order.entries (s.store.manager.adminValues POLICY_MANAGE_KEEP_ALIVE_APPS) =
      entries ++ [(last.1, v)]) :
    Merged C (PluginManager.dispatchForAdmins (plugin C order) order writes bundleName s) ↔
      Survives C s bundleName last := by
  obtain ⟨hnodup, hmem⟩ := order.enumerates (s.store.manager.adminValues
    POLICY_MANAGE_KEEP_ALIVE_APPS)
  have hentry := fun x v => (hmem x v).trans (hread.store.lookup_values _ x v)
  have hname : (plugin C order).policyName = POLICY_MANAGE_KEEP_ALIVE_APPS := rfl
  rw [PluginManager.dispatchForAdmins, hname, hentries]
  rw [hentries] at hnodup hentry
  obtain ⟨hx, rfl, hvalue⟩ := (hentry last v).mp (List.mem_append_right _ List.mem_cons_self)
  rw [List.map_append, List.nodup_append] at hnodup
  obtain ⟨hnodup, -, hdisjoint⟩ := hnodup
  have hnew : last.1 ∉ entries.map Prod.fst := fun hmem =>
    hdisjoint last hmem last List.mem_cons_self rfl
  have hbefore := dispatchedAll_entries order writes hwrites bundleName last entries hread
    hvalue hnodup hnew fun y w hmem => (hentry y w).mp (List.mem_append_left _ hmem)
  have hrun : PluginManager.dispatchEntries (plugin C order) writes bundleName s
      (entries ++ [(last.1, value s last)]) =
        PluginManager.dispatchForAdmin (plugin C order)
          (PluginManager.dispatchEntries (plugin C order) writes bundleName s entries)
          ⟨.done, .done⟩ bundleName last (value s last) := by
    rw [← hwrites last, PluginManager.dispatchEntries, List.foldl_append]
    rfl
  rw [hrun]
  generalize PluginManager.dispatchEntries (plugin C order) writes bundleName s entries = s₁
    at hbefore ⊢
  have hsame : value s₁ last = value s last := hbefore.value_other last hnew
  have hstep := dispatched_step order hbefore.readable last (by rwa [hsame]) bundleName
  rw [hsame] at hstep
  refine merged_last hmerged hread hvalue hbefore (fun admin hne hadmin => ?_) hnew hstep
  have hmem := (hentry admin _).mpr ⟨admin.2, rfl, hadmin⟩
  rcases List.mem_append.mp hmem with hmem | hmem
  · exact List.mem_map_of_mem hmem
  · exact absurd (Subtype.ext (congrArg Prod.fst (List.mem_singleton.mp hmem))) hne

/-- After an application was removed and its event dispatched to the admins, the combined list is
the union of the admins' lists and the plugin stays subscribed exactly when the admin that is visited
last meets `Survives`. -/
theorem dispatchForAdmins_merged_iff (C : CJson) (order : HashOrder) (writes : String → Writes)
    (bundleName : String) (s : PluginState (Finset String)) (hread : Readable C s)
    (hmerged : Merged C s) (hwrites : ∀ a, writes a = ⟨.done, .done⟩) :
    Merged C (PluginManager.dispatchForAdmins (plugin C order) order writes bundleName s) ↔
      ∀ last, Last s order last → Survives C s bundleName last := by
  constructor
  · rintro h last ⟨entries, v, hentries⟩
    exact (merged_dispatchForAdmins hread hmerged hwrites hentries).mp h
  · intro h
    rcases List.eq_nil_or_concat' (order.entries (s.store.manager.adminValues
      POLICY_MANAGE_KEEP_ALIVE_APPS)) with hnil | ⟨entries, ⟨x, v⟩, hentries⟩
    · have hname : (plugin C order).policyName = POLICY_MANAGE_KEEP_ALIVE_APPS := rfl
      rw [PluginManager.dispatchForAdmins, hname, hnil]
      exact hmerged
    · have hmem : (x, v) ∈ order.entries (s.store.manager.adminValues
          POLICY_MANAGE_KEEP_ALIVE_APPS) := by
        rw [hentries]
        exact List.mem_append_right _ List.mem_cons_self
      obtain ⟨hx, -, -⟩ := (hread.store.lookup_values _ x v).mp
        (((order.enumerates _).mem_iff x v).mp hmem)
      have hlast : Last s order ⟨x, hx⟩ := ⟨entries, v, hentries⟩
      exact (merged_dispatchForAdmins hread hmerged hwrites hentries).mpr (h _ hlast)

end Run

/-! ### One admin with a list -/

section One

variable (C : CJson) (admin : AdminName) (data : List ManageKeepAliveAppInfo)

/-- A user of whom one admin keeps applications alive. -/
def oneAdmin : PluginState (Finset String) where
  store := ((PluginState.boot (∅ : Finset String) 100).store.setPolicy ⟨.done, .done⟩ admin
    POLICY_MANAGE_KEEP_ALIVE_APPS (serialize C data "") (serialize C data "")).2
  modules := (bundles data).toFinset
  subscribed := true

theorem saved_oneAdmin : Saved (PluginState.boot (∅ : Finset String) 100).store
    (oneAdmin C admin data).store admin POLICY_MANAGE_KEEP_ALIVE_APPS (serialize C data "")
      (serialize C data "") :=
  saved_setPolicy (goodStore_new 100).inverse admin.2 policyName_ne _ _

theorem value_oneAdmin (other : AdminName) :
    value (oneAdmin C admin data) other = if other = admin then serialize C data "" else "" := by
  split
  · rename_i heq
    subst heq
    exact (saved_oneAdmin C other data).value_self other.2
  · rename_i hne
    have hother := (saved_oneAdmin C admin data).value_other (q := POLICY_MANAGE_KEEP_ALIVE_APPS)
      other.2 fun heq => hne (Subtype.ext heq.1)
    exact hother.trans (policyValue_new 100 other _)

theorem adminList_oneAdmin (other : AdminName) :
    adminList C (oneAdmin C admin data) other = if other = admin then data else [] := by
  rw [adminList, value_oneAdmin]
  split
  · rw [deserialize_new]
  · rfl

theorem combinedList_oneAdmin : combinedList C (oneAdmin C admin data) = data := by
  have hcombined : value (oneAdmin C admin data) "" = serialize C data "" :=
    (saved_oneAdmin C admin data).value_combined
  rw [combinedList, hcombined, deserialize_new]

theorem readable_oneAdmin (h : data ≠ []) : Readable C (oneAdmin C admin data) where
  store := (goodStore_new 100).saved admin.2 (saved_oneAdmin C admin data)
  admin_read other hvalue := by
    rw [adminList_oneAdmin]
    rw [value_oneAdmin] at hvalue ⊢
    split at hvalue
    · rename_i heq
      rw [if_pos heq, if_pos heq, deserialize_new]
      exact ⟨rfl, h⟩
    · contradiction
  combined_read := by
    have hcombined : value (oneAdmin C admin data) "" = serialize C data "" :=
      (saved_oneAdmin C admin data).value_combined
    rw [hcombined, deserialize_new]

theorem merged_oneAdmin (h : (bundles data).Nodup) : Merged C (oneAdmin C admin data) where
  combined_nodup := by rwa [combinedList_oneAdmin]
  combined_mem x := by
    rw [combinedList_oneAdmin]
    constructor
    · intro hx
      refine ⟨admin, ?_⟩
      rwa [claims, adminList_oneAdmin, if_pos rfl]
    · rintro ⟨other, hx⟩
      rw [claims, adminList_oneAdmin] at hx
      split at hx
      · exact hx
      · exact absurd hx List.not_mem_nil
  subscribed _ _ := rfl

variable {C admin data}

theorem last_oneAdmin {order : HashOrder} {other : AdminName}
    (h : Last (oneAdmin C admin data) order other) : other = admin := by
  obtain ⟨entries, v, hentries⟩ := h
  have hmem := List.mem_append_right entries (List.mem_singleton_self (other.1, v))
  rw [← hentries] at hmem
  have hlookup := ((order.enumerates _).mem_iff _ _).mp hmem
  obtain ⟨-, rfl, hvalue⟩ := (GoodStore.lookup_values ((goodStore_new 100).saved admin.2
    (saved_oneAdmin C admin data)) _ _ _).mp hlookup
  by_contra hne
  exact hvalue ((value_oneAdmin C admin data other).trans (if_neg hne))

theorem exists_last_oneAdmin (order : HashOrder) (h : data ≠ []) :
    Last (oneAdmin C admin data) order admin := by
  have hgood := (goodStore_new 100).saved admin.2 (saved_oneAdmin C admin data)
  have hvalue : value (oneAdmin C admin data) admin ≠ "" := by
    rw [value_oneAdmin, if_pos rfl]
    exact serialize_ne_empty h ""
  have hmem := ((order.enumerates _).mem_iff _ _).mpr
    ((hgood.lookup_values POLICY_MANAGE_KEEP_ALIVE_APPS admin _).mpr ⟨admin.2, rfl, hvalue⟩)
  rcases List.eq_nil_or_concat' (order.entries ((oneAdmin C admin data).store.manager.adminValues
    POLICY_MANAGE_KEEP_ALIVE_APPS)) with hnil | ⟨entries, ⟨x, v⟩, hentries⟩
  · rw [hnil] at hmem
    exact absurd hmem List.not_mem_nil
  · have hlast := List.mem_append_right entries (List.mem_singleton_self (x, v))
    rw [← hentries] at hlast
    obtain ⟨hx, -, -⟩ := (hgood.lookup_values _ _ _).mp (((order.enumerates _).mem_iff _ _).mp hlast)
    have hother : Last (oneAdmin C admin data) order ⟨x, hx⟩ := ⟨entries, v, hentries⟩
    rwa [last_oneAdmin hother] at hother

end One

theorem someAdmin_ne : "com.admin" ≠ "" := by decide

def someAdmin : AdminName := ⟨"com.admin", someAdmin_ne⟩

/-- One of an admin's two applications is uninstalled. -/
theorem dispatchForAdmins_merged_two :
    Merged CJson.standard (PluginManager.dispatchForAdmins
      (plugin CJson.standard HashOrder.byKey) HashOrder.byKey (fun _ => ⟨.done, .done⟩) "com.b"
      (oneAdmin CJson.standard someAdmin [⟨"com.a", true⟩, ⟨"com.b", true⟩])) := by
  refine (dispatchForAdmins_merged_iff CJson.standard HashOrder.byKey (fun _ => ⟨.done, .done⟩)
    "com.b" (oneAdmin CJson.standard someAdmin [⟨"com.a", true⟩, ⟨"com.b", true⟩])
    (readable_oneAdmin _ _ _ (by simp)) (merged_oneAdmin _ _ _ (by simp)) fun _ => rfl).mpr ?_
  intro last hlast
  rw [last_oneAdmin hlast]
  refine .inl ?_
  rw [adminList_oneAdmin, if_pos rfl]
  exact ⟨by simp, le_refl 2⟩

/-- An application that no admin keeps alive is uninstalled. -/
theorem foreign_event_drops_combined :
    ¬ ∀ (C : CJson) (order : HashOrder) (writes : String → Writes) (bundleName : String)
      (s : PluginState (Finset String)), Readable C s → Merged C s →
      (∀ a, writes a = ⟨.done, .done⟩) →
        Merged C (PluginManager.dispatchForAdmins (plugin C order) order writes bundleName s) := by
  intro h
  have hlast : Last (oneAdmin CJson.standard someAdmin [⟨"com.a", true⟩]) HashOrder.byKey
    someAdmin := exists_last_oneAdmin HashOrder.byKey (by simp)
  obtain ⟨entries, v, hentries⟩ := hlast
  have hread := readable_oneAdmin CJson.standard someAdmin [⟨"com.a", true⟩] (by simp)
  have hmerged := merged_oneAdmin CJson.standard someAdmin [⟨"com.a", true⟩] (by simp)
  have hsurvives := (merged_dispatchForAdmins hread hmerged (fun _ => rfl) hentries).mp
    (h CJson.standard HashOrder.byKey (fun _ => ⟨.done, .done⟩) "com.b" _ hread hmerged
      fun _ => rfl)
  rw [Survives, adminList_oneAdmin, if_pos rfl] at hsurvives
  rcases hsurvives with ⟨hmem, -⟩ | hothers
  · simp at hmem
  · obtain ⟨other, hne, hmem, -⟩ := hothers "com.a" (by simp)
    rw [adminList_oneAdmin, if_neg hne] at hmem
    exact List.not_mem_nil hmem

end ManageKeepAliveAppsPlugin

end Edm
