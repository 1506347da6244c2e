import Edm.Plugin.BundleRemoved
import Edm.Plugin.ManageAppsPolicy

/-! The removal of a bundle and the lists of application instances.  The visit of an admin takes the
first instance of the bundle off its list if no other admin lists it, and the admin that is visited
last decides what the combined list becomes. -/

set_option autoImplicit false

namespace Edm

open Library

namespace ManageAppsPolicy

open ManageAppsSerializer

section Condition

variable (C : IntCJson) (p : String) {Answers : Type}

/-- The instances of the list that a text stands for, with their identifiers. -/
def instancesOf (policy : String) : Set ApplicationInstance := {app | app ∈ (deserialize C policy).2}

/-- An instance of the bundle that was removed, with the index that the event carries, if any. -/
structure Gone (bundleName : String) (bundleUserId : Int32) (appIndex : Option Int32) (x : AppKey) :
    Prop where
  bundle : x.bundleName = bundleName
  account : x.accountId = bundleUserId
  index : ∀ i, i ∈ appIndex → x.appIndex = i

variable (refuses : Answers → Bool) (s : UserStore)

/-- The list of an admin. -/
abbrev adminList (admin : AdminName) : List ApplicationInstance :=
  (deserialize C (s.manager.policyValue admin p)).2

/-- The handler takes the first instance of the bundle off an admin's list: no other admin lists it,
and the modules accept that. -/
structure Takes (event : BundleRemoved Answers) (admin : AdminName) (app : ApplicationInstance) :
    Prop where
  first : firstOfBundle event (adminList C p s admin) = some app
  alone : app.key ∉ heldByOthers (itemsHeld (itemsOf C) p s) admin
  accepted : refuses event.answers = false

/-- What is left of an admin's list.  The empty list is not written. -/
def kept (event : BundleRemoved Answers) (admin : AdminName) : Set ApplicationInstance :=
  {app | app ∈ adminList C p s admin ∧
    ¬(Takes C p refuses s event admin app ∧ adminList C p s admin ≠ [app])}

/-- When the removal of a bundle purges the lists of a user.  What goes is the first instance of the
bundle in a list that has another one.  The admin that is visited last loses an instance, and no two
that stay have the same text in a union; or all that it lists is listed by others. -/
structure PurgesApps (Last : AdminName → Prop) (event : AdminName → BundleRemoved Answers)
    (gone : AppKey → Prop) : Prop where
  own : ∀ admin app, app ∈ adminList C p s admin → (gone app.key ↔
    Takes C p refuses s (event admin) admin app ∧ adminList C p s admin ≠ [app])
  last : ∀ last, Last last →
    (∃ app, Takes C p refuses s (event last) last app ∧ adminList C p s last ≠ [app]) ∧
        Set.InjOn mergeText {x | x ∈ held (itemsHeld (itemsOf C) p s) ∧ ¬gone x} ∨
      ∀ x, x ∈ itemsHeld (itemsOf C) p s last → x ∈ heldByOthers (itemsHeld (itemsOf C) p s) last

/-- How a handler removes one instance of an admin's list. -/
def RemovesOne {Modules : Type} (onRemovePolicy : Handler Modules Answers) : Prop :=
  ∀ answers modules app current others, app ∈ current → (apps current).Nodup →
    (onRemovePolicy answers modules [app] current others).2.2 =
      if app.key ∈ apps others ∨ refuses answers = true then (current, others)
      else (setDifferencePolicyData [app] current,
        setUnionPolicyData (setDifferencePolicyData [app] current) others)

end Condition

/-! ### Lists -/

section Lists

variable {current others : List ApplicationInstance} {app : ApplicationInstance}

/-- The first instance that is the same is the instance itself. -/
theorem setIntersectionPolicyData_single (hcurrent : (apps current).Nodup) (happ : app ∈ current) :
    setIntersectionPolicyData [app] current = [app] := by
  have hsome : (current.find? fun item => item.sameApp app).isSome = true :=
    List.find?_isSome.mpr ⟨app, happ, ApplicationInstance.sameApp_iff.mpr rfl⟩
  obtain ⟨found, hfind⟩ := Option.isSome_iff_exists.mp hsome
  have hsame : found.sameApp app = true :=
    List.find?_some (p := fun item : ApplicationInstance => item.sameApp app) hfind
  obtain rfl : found = app := List.inj_on_of_nodup_map hcurrent (List.mem_of_find?_eq_some hfind)
    happ (ApplicationInstance.sameApp_iff.mp hsame)
  rw [setIntersectionPolicyData, List.filterMap_cons, hfind]
  rfl

theorem setNeedRemoveMergePolicyData_single :
    setNeedRemoveMergePolicyData others [app] = if app.key ∈ apps others then [] else [app] := by
  have hany : (others.any fun mergeItem => mergeItem.sameApp app) = true ↔
      app.key ∈ apps others := by
    rw [List.any_eq_true, List.mem_map]
    exact exists_congr fun item => and_congr_right fun _ => ApplicationInstance.sameApp_iff
  unfold setNeedRemoveMergePolicyData
  rw [List.filter_cons, List.filter_nil]
  by_cases hmem : app.key ∈ apps others
  · rw [if_pos hmem, hany.mpr hmem]
    rfl
  · rw [if_neg hmem, Bool.eq_false_iff.mpr fun htrue => hmem (hany.mp htrue)]
    rfl

/-- The items of a list without one of them. -/
theorem mem_setDifferencePolicyData_single (hcurrent : (apps current).Nodup)
    {other : ApplicationInstance} :
    other ∈ setDifferencePolicyData [app] current ↔ other ∈ current ∧ other ≠ app := by
  rw [setDifferencePolicyData, mem_setDifference (sorted_sort _) (sorted_sort _)
    (nodup_sort.mpr (hcurrent.of_map _)), mem_sort, mem_sort, List.mem_singleton]

theorem setDifferencePolicyData_single_eq_nil (hcurrent : (apps current).Nodup)
    (happ : app ∈ current) : setDifferencePolicyData [app] current = [] ↔ current = [app] := by
  rw [List.eq_nil_iff_forall_not_mem]
  constructor
  · intro hnone
    have hall : ∀ other, other ∈ current → other = app := by
      intro other hother
      by_contra hne
      exact hnone other ((mem_setDifferencePolicyData_single hcurrent).mpr ⟨hother, hne⟩)
    cases current with
    | nil => cases happ
    | cons first rest =>
      obtain rfl : first = app := hall first List.mem_cons_self
      obtain ⟨hfirst, -⟩ := List.nodup_cons.mp (hcurrent.of_map _)
      refine congrArg (first :: ·) (List.eq_nil_iff_forall_not_mem.mpr fun other hother => ?_)
      obtain rfl := hall other (List.mem_cons_of_mem _ hother)
      exact hfirst hother
  · rintro rfl other hother
    obtain ⟨hmem, hne⟩ := (mem_setDifferencePolicyData_single hcurrent).mp hother
    exact hne (List.mem_singleton.mp hmem)

/-- A union has all instances exactly when no two of them have the same text. -/
theorem forall_mem_setUnionPolicyData_iff (data currentData : List ApplicationInstance) :
    (∀ x, x ∈ apps (setUnionPolicyData data currentData) ↔ x ∈ apps data ∨ x ∈ apps currentData) ↔
      Set.InjOn mergeText {x | x ∈ apps data ∨ x ∈ apps currentData} := by
  refine ⟨fun hall x hx y hy heq => ?_, fun hinj x => mem_apps_setUnionPolicyData hinj⟩
  obtain ⟨item, hitem, rfl⟩ := List.mem_map.mp ((hall x).mpr hx)
  obtain ⟨other, hother, rfl⟩ := List.mem_map.mp ((hall y).mpr hy)
  have htexts : ((setUnionPolicyData data currentData).map mergeKey).Nodup :=
    (keysAscend_assignAll (keysAscend_assignAll keysAscend_nil)).nodup
  rw [List.inj_on_of_nodup_map htexts hitem hother heq]

end Lists

/-! ### The visits -/

section Visits

variable {C : IntCJson} {Modules Answers : Type}
  {plugin : EventPlugin Modules (Request Answers) Answers (BundleRemoved Answers)}
  {onRemovePolicy : Handler Modules Answers} {refuses : Answers → Bool} {s s₀ : PluginState Modules}

theorem mem_itemsHeld {p : String} {store : UserStore} {admin : AdminName} {x : AppKey} :
    x ∈ itemsHeld (itemsOf C) p store admin ↔
      ∃ app, app ∈ itemsHeld (instancesOf C) p store admin ∧ app.key = x := List.mem_map

/-- What a plugin has for the lists of instances. -/
structure ListsApps (plugin : EventPlugin Modules (Request Answers) Answers (BundleRemoved Answers))
    (C : IntCJson) (onRemovePolicy : Handler Modules Answers) (refuses : Answers → Bool) : Prop where
  policyName_ne : plugin.policyName ≠ ""
  needSave : plugin.needSave = true
  others : ∀ s : PluginState Modules, TextStore (IsText C) plugin.policyName s.store →
    ∀ admin : AdminName, ∃ others : List ApplicationInstance, (apps others).Nodup ∧
      (∀ x, x ∈ apps others ↔
        x ∈ heldByOthers (itemsHeld (itemsOf C) plugin.policyName s.store) admin) ∧
      plugin.getOthersMergePolicyData s.store.manager admin = serialize C others ""
  onEvent : ∀ modules policyData event, plugin.onEvent modules policyData event =
    onBundleRemoved C onRemovePolicy modules policyData event
  removes : RemovesOne refuses onRemovePolicy

/-- What the visit of an admin leaves. -/
structure Visited (C : IntCJson) (p : String) (refuses : Answers → Bool)
    (event : BundleRemoved Answers) (admin : AdminName) (s s' : UserStore) : Prop where
  texts : TextStore (IsText C) p s'
  own : itemsHeld (instancesOf C) p s' admin = kept C p refuses s event admin
  combined : ∃ others, (∀ x, x ∈ apps others ↔ x ∈ heldByOthers (itemsHeld (itemsOf C) p s) admin) ∧
    ((¬∃ app, Takes C p refuses s event admin app) ∧
        itemsOf C (s'.manager.policyValue "" p) = {x | x ∈ apps others} ∨
      ∃ app, Takes C p refuses s event admin app ∧
        itemsOf C (s'.manager.policyValue "" p) = {x | x ∈ apps (setUnionPolicyData
          (setDifferencePolicyData [app] (adminList C p s admin)) others)})

theorem visit_visited (h : ListsApps plugin C onRemovePolicy refuses)
    (htexts : TextStore (IsText C) plugin.policyName s.store) (event : BundleRemoved Answers)
    (admin : AdminName) :
    Visited C plugin.policyName refuses event admin s.store
      (plugin.visit ⟨.done, .done⟩ event s admin
        (s.store.manager.policyValue admin plugin.policyName)).store := by
  obtain ⟨current, others, hcurrent, hothers, hvalue, hmem, current', merge', hafter, hsaved⟩ :=
    visit_saved plugin admin onRemovePolicy htexts h.policyName_ne h.needSave
      (h.others s htexts admin) event (fun policyData => h.onEvent s.modules policyData event) rfl
  have hlist : adminList C plugin.policyName s.store admin = current := by
    rw [adminList, hvalue, deserialize_serialize]
  have hsave : (apps current').Nodup → (apps merge').Nodup →
      TextStore (IsText C) plugin.policyName (plugin.visit ⟨.done, .done⟩ event s admin
        (s.store.manager.policyValue admin plugin.policyName)).store :=
    fun hcurrent' hmerge' => htexts.saved hsaved
      (serialize_over (isText_serialize hcurrent) hcurrent')
      (serialize_over (isText_serialize hothers) hmerge')
  have hown : itemsHeld (instancesOf C) plugin.policyName (plugin.visit ⟨.done, .done⟩ event s admin
      (s.store.manager.policyValue admin plugin.policyName)).store admin =
        {app | app ∈ if current' = [] then current else current'} := by
    rw [itemsHeld, hsaved.value_self admin.2, instancesOf, deserialize_over]
  have hcombined : itemsOf C ((plugin.visit ⟨.done, .done⟩ event s admin
      (s.store.manager.policyValue admin plugin.policyName)).store.manager.policyValue ""
        plugin.policyName) = {x | x ∈ apps (if merge' = [] then others else merge')} := by
    rw [hsaved.value_combined, itemsOf, deserialize_over]
  -- The handler leaves the lists unless it takes an instance off.
  have hstay : (¬∃ app, Takes C plugin.policyName refuses s.store event admin app) →
      current' = current → merge' = others → Visited C plugin.policyName refuses event admin s.store
        (plugin.visit ⟨.done, .done⟩ event s admin
          (s.store.manager.policyValue admin plugin.policyName)).store := by
    rintro hnone rfl rfl
    rw [ite_self] at hown hcombined
    refine ⟨hsave hcurrent hothers, hown.trans (Set.ext fun app => ?_), _, hmem,
      .inl ⟨hnone, hcombined⟩⟩
    show app ∈ current' ↔ app ∈ adminList C plugin.policyName s.store admin ∧ _
    rw [hlist]
    exact (and_iff_left fun htakes => hnone ⟨app, htakes.1⟩).symm
  rcases hafter with ⟨hfirst, -, hsame, hsame'⟩ | ⟨app, res, hfirst, hresult⟩
  · refine hstay ?_ hsame hsame'
    rintro ⟨app, htakes⟩
    have hsome := htakes.first
    rw [hlist, hfirst] at hsome
    cases hsome
  have happ : app ∈ current := List.mem_of_find?_eq_some hfirst
  have hremoved := h.removes event.answers s.modules app current others happ hcurrent
  rw [hresult] at hremoved
  split at hremoved
  · rename_i hrefused
    obtain ⟨hsame, hsame'⟩ := Prod.mk.inj hremoved
    refine hstay ?_ hsame hsame'
    rintro ⟨app', htakes⟩
    have hsome := htakes.first
    rw [hlist, hfirst] at hsome
    obtain rfl := Option.some.inj hsome
    rcases hrefused with hshared | hrefused
    · exact htakes.alone ((hmem _).mp hshared)
    · rw [htakes.accepted] at hrefused
      cases hrefused
  · rename_i hgoes
    obtain ⟨hrest, hunion⟩ := Prod.mk.inj hremoved
    obtain ⟨hshared, haccepted⟩ := not_or.mp hgoes
    have htakes : Takes C plugin.policyName refuses s.store event admin app :=
      ⟨by rw [hlist, hfirst], fun hx => hshared ((hmem _).mpr hx), Bool.eq_false_iff.mpr haccepted⟩
    subst hrest hunion
    refine ⟨hsave (nodup_apps_setDifferencePolicyData hcurrent) (nodup_apps_setUnionPolicyData _ _),
      hown.trans (Set.ext fun other => ?_), _, hmem, .inr ⟨app, htakes, hcombined.trans ?_⟩⟩
    · show other ∈ (if setDifferencePolicyData [app] current = [] then current
        else setDifferencePolicyData [app] current) ↔ other ∈ adminList C plugin.policyName s.store admin ∧
        ¬(Takes C plugin.policyName refuses s.store event admin other ∧ _)
      have honly : ∀ other, Takes C plugin.policyName refuses s.store event admin other ↔
          other = app := by
        intro other
        refine ⟨fun hother => ?_, fun heq => heq ▸ htakes⟩
        exact Option.some.inj (hother.first.symm.trans htakes.first)
      rw [honly, hlist]
      by_cases hnil : setDifferencePolicyData [app] current = []
      · have hsingle := (setDifferencePolicyData_single_eq_nil hcurrent happ).mp hnil
        rw [if_pos hnil]
        refine (and_iff_left ?_).symm
        rintro ⟨rfl, hne⟩
        exact hne hsingle
      · have hsingle : current ≠ [app] := fun heq =>
          hnil ((setDifferencePolicyData_single_eq_nil hcurrent happ).mpr heq)
        rw [if_neg hnil, mem_setDifferencePolicyData_single hcurrent]
        refine and_congr_right fun hother => not_congr ?_
        constructor
        · rintro rfl
          exact ⟨rfl, hsingle⟩
        · exact And.left
    · rw [hlist]
      split
      · rename_i hnil
        have hothers : others = [] := by
          by_contra hne
          exact setUnionPolicyData_ne_nil (.inr hne) hnil
        rw [hnil, hothers]
      · rfl

/-- What holds of the lists in the middle of an event. -/
structure Midway (C : IntCJson) (p : String) (refuses : Answers → Bool)
    (event : String → BundleRemoved Answers) (s₀ : UserStore) (visited : List String)
    (s : PluginState Modules) : Prop where
  texts : TextStore (IsText C) p s.store
  own : ∀ admin : AdminName, admin.1 ∈ visited →
    itemsHeld (instancesOf C) p s.store admin = kept C p refuses s₀ (event admin) admin

/-- The others list the same instances of an admin that is still to be visited: an instance that two
admins list is not taken off. -/
theorem heldByOthers_midway {event : String → BundleRemoved Answers} {visited : List String}
    (h : plugin.Reached (Midway C plugin.policyName refuses event s₀.store) s₀ visited s)
    {admin : AdminName} {x : AppKey}
    (hx : x ∈ itemsHeld (itemsOf C) plugin.policyName s₀.store admin) :
    x ∈ heldByOthers (itemsHeld (itemsOf C) plugin.policyName s.store) admin ↔
      x ∈ heldByOthers (itemsHeld (itemsOf C) plugin.policyName s₀.store) admin := by
  refine exists_congr fun other => and_congr_right fun hother => ?_
  by_cases hvisited : other.1 ∈ visited
  · rw [mem_itemsHeld, mem_itemsHeld, h.inv.own other hvisited]
    refine exists_congr fun app => and_congr_left ?_
    rintro rfl
    refine and_iff_left ?_
    rintro ⟨htakes, -⟩
    exact htakes.alone ⟨admin, Ne.symm hother, hx⟩
  · rw [itemsHeld, itemsHeld, h.value other hvisited]

theorem takes_midway {event : String → BundleRemoved Answers} {visited : List String}
    (h : plugin.Reached (Midway C plugin.policyName refuses event s₀.store) s₀ visited s)
    {admin : AdminName} (hnew : admin.1 ∉ visited) (e : BundleRemoved Answers)
    (app : ApplicationInstance) :
    Takes C plugin.policyName refuses s.store e admin app ↔
      Takes C plugin.policyName refuses s₀.store e admin app := by
  have hlist : adminList C plugin.policyName s.store admin =
      adminList C plugin.policyName s₀.store admin := by
    rw [adminList, h.value admin hnew]
  have halone : firstOfBundle e (adminList C plugin.policyName s₀.store admin) = some app →
      (app.key ∈ heldByOthers (itemsHeld (itemsOf C) plugin.policyName s.store) admin ↔
        app.key ∈ heldByOthers (itemsHeld (itemsOf C) plugin.policyName s₀.store) admin) :=
    fun hfirst => heldByOthers_midway h
      (mem_itemsHeld.mpr ⟨app, List.mem_of_find?_eq_some hfirst, rfl⟩)
  constructor
  · intro htakes
    have hfirst := hlist ▸ htakes.first
    exact ⟨hfirst, fun hx => htakes.alone ((halone hfirst).mpr hx), htakes.accepted⟩
  · intro htakes
    exact ⟨hlist ▸ htakes.first, fun hx => htakes.alone ((halone htakes.first).mp hx),
      htakes.accepted⟩

theorem kept_midway {event : String → BundleRemoved Answers} {visited : List String}
    (h : plugin.Reached (Midway C plugin.policyName refuses event s₀.store) s₀ visited s)
    {admin : AdminName} (hnew : admin.1 ∉ visited) (e : BundleRemoved Answers) :
    kept C plugin.policyName refuses s.store e admin =
      kept C plugin.policyName refuses s₀.store e admin := by
  have hlist : adminList C plugin.policyName s.store admin =
      adminList C plugin.policyName s₀.store admin := by
    rw [adminList, h.value admin hnew]
  unfold kept
  simp only [takes_midway h hnew, hlist]

/-- The next visit. -/
theorem midway_visit (h : ListsApps plugin C onRemovePolicy refuses)
    {event : String → BundleRemoved Answers} {visited : List String}
    (hmidway : plugin.Reached (Midway C plugin.policyName refuses event s₀.store) s₀ visited s)
    (admin : AdminName) (hnew : admin.1 ∉ visited) :
    Midway C plugin.policyName refuses event s₀.store (admin.1 :: visited)
      (plugin.visit ⟨.done, .done⟩ (event admin) s admin
        (s₀.store.manager.policyValue admin plugin.policyName)) := by
  have hvisit := visit_visited h hmidway.inv.texts (event admin) admin
  rw [hmidway.value admin hnew] at hvisit
  refine ⟨hvisit.texts, fun other hother => ?_⟩
  by_cases heq : other = admin
  · subst heq
    rw [hvisit.own, kept_midway hmidway hnew]
  · have hmem : other.1 ∈ visited :=
      (List.mem_cons.mp hother).resolve_left fun hx => heq (Subtype.ext hx)
    rw [← hmidway.inv.own other hmem, itemsHeld, itemsHeld,
      plugin.visit_value_other h.policyName_ne _ _ admin _ heq]

/-! ### The event -/

/-- The combined list names what the admins list. -/
def Merged (C : IntCJson) (p : String) (s : UserStore) : Prop :=
  ∀ x, x ∈ itemsOf C (s.manager.policyValue "" p) ↔ x ∈ held (itemsHeld (itemsOf C) p s)

section Purge

variable {p : String} {store : UserStore} {event : AdminName → BundleRemoved Answers}
  {gone : AppKey → Prop}

/-- The instances of the lists that are left. -/
theorem exists_kept_iff (hown : ∀ admin app, app ∈ adminList C p store admin →
      (gone app.key ↔ Takes C p refuses store (event admin) admin app ∧
        adminList C p store admin ≠ [app])) {admin : AdminName} {x : AppKey} :
    (∃ app, app ∈ kept C p refuses store (event admin) admin ∧ app.key = x) ↔
      x ∈ itemsHeld (itemsOf C) p store admin ∧ ¬gone x := by
  rw [mem_itemsHeld]
  constructor
  · rintro ⟨app, ⟨hmem, hstays⟩, rfl⟩
    exact ⟨⟨app, hmem, rfl⟩, fun hgone => hstays ((hown admin app hmem).mp hgone)⟩
  · rintro ⟨⟨app, hmem, rfl⟩, hstays⟩
    exact ⟨app, ⟨hmem, fun htakes => hstays ((hown admin app hmem).mpr htakes)⟩, rfl⟩

/-- The combined list after the last visit. -/
theorem combined_iff (htexts : TextStore (IsText C) p store)
    (hown : ∀ admin app, app ∈ adminList C p store admin →
      (gone app.key ↔ Takes C p refuses store (event admin) admin app ∧
        adminList C p store admin ≠ [app]))
    {last : AdminName} {others : List ApplicationInstance} {combined : Set AppKey}
    (hothers : ∀ x, x ∈ apps others ↔
      x ∈ heldByOthers (itemsHeld (itemsOf C) p store) last ∧ ¬gone x)
    (hcombined : (¬∃ app, Takes C p refuses store (event last) last app) ∧
        combined = {x | x ∈ apps others} ∨
      ∃ app, Takes C p refuses store (event last) last app ∧
        combined = {x | x ∈ apps (setUnionPolicyData
          (setDifferencePolicyData [app] (adminList C p store last)) others)}) :
    (∀ x, x ∈ combined ↔ x ∈ held (itemsHeld (itemsOf C) p store) ∧ ¬gone x) ↔
      (∃ app, Takes C p refuses store (event last) last app ∧
          adminList C p store last ≠ [app]) ∧
          Set.InjOn mergeText {x | x ∈ held (itemsHeld (itemsOf C) p store) ∧ ¬gone x} ∨
        ∀ x, x ∈ itemsHeld (itemsOf C) p store last →
          x ∈ heldByOthers (itemsHeld (itemsOf C) p store) last := by
  obtain ⟨current, hcurrent, hvalue⟩ := htexts.text last.1
  have hlist : adminList C p store last = current := by
    rw [adminList, hvalue, deserialize_serialize]
  have hheld : ∀ x, x ∈ held (itemsHeld (itemsOf C) p store) ↔
      x ∈ heldByOthers (itemsHeld (itemsOf C) p store) last ∨
        x ∈ itemsHeld (itemsOf C) p store last := by
    intro x
    rw [held_eq _ last]
    exact Iff.rfl
  rcases hcombined with ⟨hnone, rfl⟩ | ⟨app, htakes, rfl⟩
  · -- Nothing is taken off, and so nothing of the last admin's list is to go.
    have hstays : ∀ x, x ∈ itemsHeld (itemsOf C) p store last → ¬gone x := by
      rintro x hx hgone
      obtain ⟨app, hmem, rfl⟩ := mem_itemsHeld.mp hx
      exact hnone ⟨app, ((hown last app hmem).mp hgone).1⟩
    rw [or_iff_right fun hleft => hnone (hleft.1.imp fun app => And.left)]
    constructor
    · intro hall x hx
      exact ((hothers x).mp ((hall x).mpr ⟨(hheld x).mpr (.inr hx), hstays x hx⟩)).1
    · intro hshared x
      show x ∈ apps others ↔ _
      rw [hothers, hheld, or_iff_left_of_imp (hshared x)]
  have happ : app ∈ current := by
    rw [← hlist]
    exact List.mem_of_find?_eq_some htakes.first
  have hkey : app.key ∈ itemsHeld (itemsOf C) p store last :=
    mem_itemsHeld.mpr ⟨app, List.mem_of_find?_eq_some htakes.first, rfl⟩
  rw [or_iff_left fun hshared => htakes.alone (hshared _ hkey)]
  by_cases hsingle : current = [app]
  · -- The only instance stays in the admin's list, but is not in the combined one.
    have hstays : ¬gone app.key := by
      rw [hown last app (hlist ▸ happ), hlist]
      exact fun h => h.2 hsingle
    refine iff_of_false (fun hall => ?_) ?_
    · have hmem := (hall app.key).mpr ⟨(hheld _).mpr (.inr hkey), hstays⟩
      have hnil : setDifferencePolicyData [app] (adminList C p store last) = [] := by
        rw [hlist]
        exact (setDifferencePolicyData_single_eq_nil hcurrent happ).mpr hsingle
      obtain ⟨item, hitem, heq⟩ := List.mem_map.mp hmem
      rw [hnil] at hitem
      rcases mem_of_mem_setUnionPolicyData hitem with hitem | hitem
      · exact List.not_mem_nil hitem
      · refine htakes.alone ((hothers _).mp ?_).1
        rw [← heq]
        exact List.mem_map_of_mem hitem
    · rintro ⟨⟨other, hother, hne⟩, -⟩
      obtain rfl := Option.some.inj (hother.first.symm.trans htakes.first)
      exact hne (hlist.trans hsingle)
  have hunion : ∀ x, x ∈ apps (setDifferencePolicyData [app] (adminList C p store last)) ∨
      x ∈ apps others ↔ x ∈ held (itemsHeld (itemsOf C) p store) ∧ ¬gone x := by
    intro x
    have hrest : x ∈ apps (setDifferencePolicyData [app] (adminList C p store last)) ↔
        x ∈ itemsHeld (itemsOf C) p store last ∧ ¬gone x := by
      rw [← exists_kept_iff hown, hlist, List.mem_map]
      refine exists_congr fun other => and_congr_left fun _ => ?_
      rw [mem_setDifferencePolicyData_single hcurrent]
      show _ ↔ other ∈ adminList C p store last ∧ ¬(_ ∧ _)
      rw [hlist]
      refine and_congr_right fun _ => not_congr ⟨?_, fun hother => ?_⟩
      · rintro rfl
        exact ⟨htakes, hsingle⟩
      · exact Option.some.inj (hother.1.first.symm.trans htakes.first)
    rw [hrest, hothers, hheld]
    tauto
  have hset : {x | x ∈ apps (setDifferencePolicyData [app] (adminList C p store last)) ∨
      x ∈ apps others} = {x | x ∈ held (itemsHeld (itemsOf C) p store) ∧ ¬gone x} :=
    Set.ext hunion
  rw [and_iff_right ⟨app, htakes, fun heq => hsingle (hlist.symm.trans heq)⟩, ← hset,
    ← forall_mem_setUnionPolicyData_iff]
  exact forall_congr' fun x => iff_congr Iff.rfl (hunion x).symm

end Purge

section Last

variable {event : String → BundleRemoved Answers} {gone : AppKey → Prop} {visited : List String}
  {last : AdminName}

theorem adminList_of_none {p : String} {store : UserStore} {admin : AdminName}
    (h : store.manager.policyValue admin p = "") : adminList C p store admin = [] := by
  rw [adminList, h]
  rfl

/-- The admins' lists after the last visit. -/
theorem own_end (hvisited : ∀ admin : AdminName, admin.1 ∈ visited ↔ admin ≠ last ∧
      s₀.store.manager.policyValue admin plugin.policyName ≠ "")
    (h : plugin.Reached (Midway C plugin.policyName refuses event s₀.store) s₀ (last.1 :: visited) s)
    (admin : AdminName) : itemsHeld (instancesOf C) plugin.policyName s.store admin =
      kept C plugin.policyName refuses s₀.store (event admin) admin := by
  by_cases hmem : admin.1 ∈ last.1 :: visited
  · exact h.inv.own admin hmem
  · obtain ⟨hne, hskip⟩ := not_or.mp (mt List.mem_cons.mpr hmem)
    have hskipped : s₀.store.manager.policyValue admin plugin.policyName = "" := by
      by_contra hsome
      exact hskip ((hvisited admin).mpr ⟨fun heq => hne (congrArg Subtype.val heq), hsome⟩)
    unfold kept
    rw [itemsHeld, h.value admin hmem, hskipped, adminList_of_none hskipped]
    exact Set.ext fun app => (and_iff_left_of_imp fun hx => absurd hx List.not_mem_nil).symm

/-- What the others list when the last admin is visited. -/
theorem heldByOthers_last
    (hown : ∀ admin app, app ∈ adminList C plugin.policyName s₀.store admin → (gone app.key ↔
      Takes C plugin.policyName refuses s₀.store (event admin.1) admin app ∧
        adminList C plugin.policyName s₀.store admin ≠ [app]))
    (hvisited : ∀ admin : AdminName, admin.1 ∈ visited ↔ admin ≠ last ∧
      s₀.store.manager.policyValue admin plugin.policyName ≠ "")
    (h : plugin.Reached (Midway C plugin.policyName refuses event s₀.store) s₀ visited s)
    {x : AppKey} :
    x ∈ heldByOthers (itemsHeld (itemsOf C) plugin.policyName s.store) last ↔
      x ∈ heldByOthers (itemsHeld (itemsOf C) plugin.policyName s₀.store) last ∧ ¬gone x := by
  have hother : ∀ other : AdminName, other ≠ last →
      (x ∈ itemsHeld (itemsOf C) plugin.policyName s.store other ↔
        x ∈ itemsHeld (itemsOf C) plugin.policyName s₀.store other ∧ ¬gone x) := by
    intro other hne
    by_cases hother : other.1 ∈ visited
    · rw [mem_itemsHeld, h.inv.own other hother]
      exact exists_kept_iff hown
    · have hskipped : s₀.store.manager.policyValue other plugin.policyName = "" := by
        by_contra hsome
        exact hother ((hvisited other).mpr ⟨hne, hsome⟩)
      rw [itemsHeld, itemsHeld, h.value other hother, hskipped, itemsOf_empty]
      exact (and_iff_left_of_imp fun hx => absurd hx (Set.notMem_empty x)).symm
  constructor
  · rintro ⟨other, hne, hx⟩
    obtain ⟨hx, hstays⟩ := (hother other hne).mp hx
    exact ⟨⟨other, hne, hx⟩, hstays⟩
  · rintro ⟨⟨other, hne, hx⟩, hstays⟩
    exact ⟨other, hne, (hother other hne).mpr ⟨hx, hstays⟩⟩

end Last

/-- An event whose writes take effect purges the lists of its user exactly under its condition. -/
theorem listsPurged_iff (h : ListsApps plugin C onRemovePolicy refuses) (order : HashOrder)
    (htexts : TextStore (IsText C) plugin.policyName s₀.store)
    (hmerged : Merged C plugin.policyName s₀.store) (event : String → BundleRemoved Answers)
    (gone : AppKey → Prop) :
    ListsPurged (instancesOf C) (itemsOf C) plugin.policyName (fun app => gone app.key) gone s₀.store
        (plugin.dispatchForAdmins order (fun _ => ⟨.done, .done⟩) event s₀).store ↔
      PurgesApps C plugin.policyName refuses s₀.store (plugin.Last order s₀)
        (fun admin => event admin) gone := by
  have hvisits : ∀ visited s (admin : AdminName),
      plugin.Reached (Midway C plugin.policyName refuses event s₀.store) s₀ visited s →
      admin.1 ∉ visited → s₀.store.manager.policyValue admin plugin.policyName ≠ "" →
      Midway C plugin.policyName refuses event s₀.store (admin.1 :: visited)
        (plugin.visit ⟨.done, .done⟩ (event admin) s admin
          (s₀.store.manager.policyValue admin plugin.policyName)) :=
    fun visited s admin hreached hnew _ => midway_visit h hreached admin hnew
  rcases @EventPlugin.dispatchForAdmins_last _ _ _ _ plugin _ s₀ (fun _ => ⟨.done, .done⟩) event
      h.policyName_ne htexts.good order ⟨htexts, fun _ hmem => absurd hmem List.not_mem_nil⟩
      hvisits with
    ⟨hnone, hsame⟩ | ⟨visited, last, s, hlast, hvalue, hvisited, hreached, hdispatch⟩
  · -- No admin has a list, and so the combined list is empty.
    rw [hsame]
    refine iff_of_true (listsPurged_self.mpr ⟨fun admin app happ => ?_, fun x hx => ?_⟩)
      ⟨fun admin app happ => ?_, fun last hlast => ?_⟩
    · rw [itemsHeld, hnone] at happ
      exact absurd happ List.not_mem_nil
    · obtain ⟨admin, hadmin⟩ := (hmerged x).mp hx
      rw [itemsHeld, hnone, itemsOf_empty] at hadmin
      exact absurd hadmin (Set.notMem_empty x)
    · rw [adminList_of_none (hnone admin)] at happ
      exact absurd happ List.not_mem_nil
    · exact absurd (hnone last) (hlast.value_ne htexts.good)
  have hnew : last.1 ∉ visited := fun hmem => ((hvisited last).mp hmem).1 rfl
  have hvisit := visit_visited h hreached.inv.texts (event last) last
  have hend := @EventPlugin.reached_visit _ _ _ _ plugin _ s₀ s (fun _ => ⟨.done, .done⟩) event
    h.policyName_ne hvisits visited last hreached hnew hvalue
  rw [hreached.value last hnew, ← hdispatch] at hvisit
  rw [← hdispatch] at hend
  generalize plugin.dispatchForAdmins order (fun _ => ⟨.done, .done⟩) event s₀ = s'
    at hvisit hend ⊢
  have hkept := own_end hvisited hend
  have hown : (∀ (admin : AdminName) app,
      app ∈ itemsHeld (instancesOf C) plugin.policyName s'.store admin ↔
        app ∈ itemsHeld (instancesOf C) plugin.policyName s₀.store admin ∧ ¬gone app.key) ↔
      ∀ admin app, app ∈ adminList C plugin.policyName s₀.store admin → (gone app.key ↔
        Takes C plugin.policyName refuses s₀.store (event admin) admin app ∧
          adminList C plugin.policyName s₀.store admin ≠ [app]) := by
    refine forall_congr' fun admin => forall_congr' fun app => ?_
    rw [hkept]
    exact Iff.trans and_congr_right_iff
      (imp_congr_right fun _ => not_iff_not.trans Iff.comm)
  have hcombined : (∀ admin app, app ∈ adminList C plugin.policyName s₀.store admin →
      (gone app.key ↔ Takes C plugin.policyName refuses s₀.store (event admin) admin app ∧
        adminList C plugin.policyName s₀.store admin ≠ [app])) →
      ((∀ x, x ∈ itemsOf C (s'.store.manager.policyValue "" plugin.policyName) ↔
          x ∈ itemsOf C (s₀.store.manager.policyValue "" plugin.policyName) ∧ ¬gone x) ↔
        (∃ app, Takes C plugin.policyName refuses s₀.store (event last) last app ∧
            adminList C plugin.policyName s₀.store last ≠ [app]) ∧
            Set.InjOn mergeText
              {x | x ∈ held (itemsHeld (itemsOf C) plugin.policyName s₀.store) ∧ ¬gone x} ∨
          ∀ x, x ∈ itemsHeld (itemsOf C) plugin.policyName s₀.store last →
            x ∈ heldByOthers (itemsHeld (itemsOf C) plugin.policyName s₀.store) last) := by
    intro hpurges
    obtain ⟨others, hmem, hafter⟩ := hvisit.combined
    have hothers : ∀ x, x ∈ apps others ↔
        x ∈ heldByOthers (itemsHeld (itemsOf C) plugin.policyName s₀.store) last ∧ ¬gone x :=
      fun x => (hmem x).trans (heldByOthers_last hpurges hvisited hreached)
    have hlist : adminList C plugin.policyName s.store last =
        adminList C plugin.policyName s₀.store last := by
      rw [adminList, hreached.value last hnew]
    simp only [takes_midway hreached hnew, hlist] at hafter
    rw [← combined_iff htexts hpurges hothers hafter]
    exact forall_congr' fun x => iff_congr Iff.rfl (and_congr_left' (hmerged x))
  constructor
  · intro hpurged
    have hpurges := hown.mp hpurged.own
    refine ⟨hpurges, fun last' hlast' => ?_⟩
    rw [hlast.unique hlast']
    exact (hcombined hpurges).mp hpurged.combined
  · intro hpurges
    exact ⟨hown.mpr hpurges.own, (hcombined hpurges.own).mpr (hpurges.last last hlast)⟩

end Visits

end ManageAppsPolicy

end Edm
