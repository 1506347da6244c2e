import Edm.Ability.HoldingsRun
import Edm.Library.FailStop
import Edm.Plugin.AllOrNothing

/-! The removal of a super admin as a sequence of removals, each of one admin of one user.  When it
succeeds, and when it fails and leaves the admins and the policies as they were, in terms of what is
stored before. -/

set_option autoImplicit false

namespace Edm

open Library Library.UnorderedMap EnterpriseDeviceMgrAbility

/-- An admin that is removed from the policies and the admins of a user. -/
structure AdminOfUser where
  adminName : String
  userId : Int
  deriving DecidableEq, Repr

namespace AdminOfUser

variable {Modules Req Reply Event : Type} (build : Build Modules Req Reply Event)
  (outcomes : RemovalOutcomes Reply) (x : AdminOfUser)

def deletion : RdbOutcome := outcomes.deletion x.adminName x.userId

/-- The values that the removal goes over, in its order.  None is stored under the empty name. -/
def policyItems (managers : Int → UserPolicyManager) : List (String × String) :=
  if x.adminName = "" then []
  else
    ((managers x.userId).adminPolicies.lookup x.adminName).elim [] build.itemOrder.entries

/-- A policy that the removal passes over: its plugin does not save it. -/
def PolicyIdle (policyName : String) : Prop :=
  build.plugins.pluginsName policyName ≠ none ∧ build.plugins.needSave policyName = false

/-- A policy that is removed without an error. -/
def PolicyRemovable (policyName : String) : Prop :=
  build.plugins.pluginsName policyName ≠ none ∧
    (build.plugins.needSave policyName = true →
      (outcomes.writes x.adminName x.userId policyName).admin = .done)

/-- A policy that stops the removal before it writes anything: it has no plugin, or the admin's
value is not deleted and the combined value is not written, or is what it was. -/
def PolicyBlocked (managers : Int → UserPolicyManager) (policyName : String) : Prop :=
  build.plugins.pluginsName policyName = none ∨
    build.plugins.needSave policyName = true ∧
      (outcomes.writes x.adminName x.userId policyName).admin ≠ .done ∧
      ((outcomes.writes x.adminName x.userId policyName).combined ≠ .done ∨
        (managers x.userId).combinedPolicies.lookup policyName =
          entry ((build.plugins.pluginsName policyName).elim "" fun plugin =>
            plugin.getOthersMergePolicyData managers x.userId x.adminName))

variable (managers : Int → UserPolicyManager) (admins : Int → List AdminInfo)

/-- The removal succeeds, after those of `before`: the values that the admin holds are removed, and
where the user still has an admin, the row is deleted. -/
structure Clears (before : List AdminOfUser) : Prop where
  items : ∀ item, item ∈ x.policyItems build managers → x.PolicyRemovable build outcomes item.1
  deletion : (∃ admin, admin ∈ admins x.userId ∧ ⟨admin.packageName, x.userId⟩ ∉ before) →
    x.deletion outcomes = .done

/-- The removal succeeds and has nothing to remove. -/
structure Idle : Prop where
  items : ∀ item, item ∈ x.policyItems build managers → PolicyIdle build item.1
  absent : ∀ admin, admin ∈ admins x.userId → admin.packageName ≠ x.adminName
  deletion : admins x.userId ≠ [] → x.deletion outcomes = .done

/-- The removal fails before it writes anything. -/
def Blocked : Prop :=
  Stops (fun item : String × String => PolicyIdle build item.1)
      (fun item => x.PolicyBlocked build outcomes managers item.1) (x.policyItems build managers) ∨
    (∀ item, item ∈ x.policyItems build managers → PolicyIdle build item.1) ∧
      admins x.userId ≠ [] ∧ x.deletion outcomes ≠ .done

end AdminOfUser

/-! ### One value -/

section

variable {Modules Req Reply Event : Type} {plugins : PluginTable Modules Req Reply Event}
  {d : Device Modules} {writes : Writes} {reply : Reply} {adminName p v : String} {userId : Int}
  {plugin : RegisteredPlugin Modules Req Reply Event}

theorem removeAdminItem_without (hplugin : plugins.pluginsName p = none) :
    plugins.removeAdminItem d writes reply adminName p v userId =
      (ERR_EDM_GET_PLUGIN_MGR_FAILED, d) := by
  unfold PluginTable.removeAdminItem
  rw [hplugin]

/-- A value that its plugin does not save. -/
theorem removeAdminItem_idle (hplugin : plugins.pluginsName p = some plugin)
    (hsave : plugin.needSave = false) :
    (plugins.removeAdminItem d writes reply adminName p v userId).1 = ERR_OK ∧
      (plugins.removeAdminItem d writes reply adminName p v userId).2.policies = d.policies := by
  refine ⟨?_, ?_⟩
  · obtain ⟨subscribed, hremove⟩ := PluginManager.removeAdminItem_unsaved
      (plugin.forUser d.policies.manager userId) (d.pluginState p userId) writes reply adminName v
      hsave
    unfold PluginTable.removeAdminItem
    rw [hplugin]
    show (PluginManager.removeAdminItem _ _ _ _ _ _).1 = ERR_OK
    rw [hremove]
  · rw [removeAdminItem_policies hplugin, if_neg (Bool.eq_false_iff.mp hsave)]

/-- A value that its plugin saves: what is written, and the code. -/
theorem removeAdminItem_held_write (hplugin : plugins.pluginsName p = some plugin)
    (hsave : plugin.needSave = true) (hname : adminName ≠ "")
    (hlisted : (d.policies.manager userId).Listed)
    (hheld : (d.policies.manager userId).Holds adminName p) :
    failed (plugins.removeAdminItem d writes reply adminName p v userId).1 =
        (writes.admin != .done) ∧
      (plugins.removeAdminItem d writes reply adminName p v userId).2.policies =
        d.policies.setUser userId ((d.policies.user userId).setPolicy writes adminName p ""
          (plugin.getOthersMergePolicyData d.policies.manager userId adminName)).2 := by
  have hentry := hlisted adminName p hheld
  rw [← UserPolicyManager.lookup_adminValues] at hentry
  obtain ⟨w, hw⟩ := Option.ne_none_iff_exists'.mp hentry
  have hnonempty : isEmpty ((d.policies.manager userId).adminValues p) = false :=
    Bool.eq_false_iff.mpr fun hempty =>
      ne_empty_of_lookup hw (UnorderedMap.isEmpty_iff.mp hempty)
  refine ⟨?_, ?_⟩
  · obtain rfl := plugins.pluginsName_policyName p plugin hplugin
    have hcode := PluginManager.removeAdminItem_held_code
      (plugin.forUser d.policies.manager userId) (d.pluginState plugin.policyName userId) writes
      reply adminName v hsave hnonempty
    unfold PluginTable.removeAdminItem
    rw [hplugin]
    exact hcode.trans (failed_setPolicy_empty (d.policies.user userId) writes hname
      plugin.policyName_ne (plugin.getOthersMergePolicyData d.policies.manager userId adminName))
  · rw [removeAdminItem_policies hplugin, if_pos hsave, if_neg (Bool.eq_false_iff.mp hnonempty)]

/-- The other values of all admins stay. -/
theorem removeAdminItem_lookup_of_ne {q x : String} {u : Int} (hq : q ≠ p) :
    lookup₂ ((plugins.removeAdminItem d writes reply adminName p v userId).2.policies.manager
      u).adminPolicies x q = lookup₂ (d.policies.manager u).adminPolicies x q := by
  cases hplugin : plugins.pluginsName p with
  | none => rw [removeAdminItem_without hplugin]
  | some plugin =>
    have hset : ∀ (a merged : String), lookup₂ ((d.policies.setUser userId
        ((d.policies.user userId).setPolicy writes a p "" merged).2).manager u).adminPolicies x q =
        lookup₂ (d.policies.manager u).adminPolicies x q := by
      intro a merged
      by_cases hu : u = userId
      · subst hu
        rw [Stores.setUser_manager_self]
        exact UserStore.setPolicy_adminPolicies_of_ne fun hx => hq hx.2
      · rw [Stores.setUser_manager_of_ne _ hu]
    rw [removeAdminItem_policies hplugin]
    split
    · split
      · exact hset _ _
      · exact hset _ _
    · rfl

theorem setUser_manager_eq {s : Stores} {store : UserStore} :
    (s.setUser userId store).manager = s.manager ↔ store.manager = s.manager userId := by
  show Function.update s.manager userId store.manager = s.manager ↔ _
  rw [Function.update_eq_iff]
  exact and_iff_left fun _ _ => rfl

/-- A failing deletion of an admin's value leaves the maps where the combined value stays. -/
theorem setPolicy_empty_manager {store : UserStore} {merged : String} (hname : adminName ≠ "")
    (hp : p ≠ "") (hwrite : writes.admin ≠ .done) :
    (store.setPolicy writes adminName p "" merged).2.manager = store.manager ↔
      writes.combined ≠ .done ∨ store.manager.combinedPolicies.lookup p = entry merged := by
  rw [UserStore.setPolicy_of_ne store writes adminName p "" merged hp, if_neg hname,
    UserStore.writeAdmin_empty_of_ne_done rfl hwrite]
  exact UserStore.writeCombined_manager

end

/-! ### All values of an admin of a user -/

section

variable {Modules Req Reply Event : Type} {build : Build Modules Req Reply Event}
  {outcomes : RemovalOutcomes Reply} {adminName : AdminName} {userId : Int} {d : Device Modules}

/-- One step of the loop over the values. -/
def removeItem (build : Build Modules Req Reply Event) (outcomes : RemovalOutcomes Reply)
    (adminName : AdminName) (userId : Int) (d : Device Modules) (item : String × String) :
    Bool × Device Modules :=
  let r := build.plugins.removeAdminItem d (outcomes.writes adminName userId item.1)
    (outcomes.reply adminName userId item.1) adminName item.1 item.2 userId
  (!failed r.1, r.2)

theorem removeAdminItems_eq (items : List (String × String)) (d : Device Modules) :
    (removeAdminItems build.plugins (outcomes.removal adminName userId) d items).2 =
        (attempt (removeItem build outcomes adminName userId) d items).2 ∧
      failed (removeAdminItems build.plugins (outcomes.removal adminName userId) d items).1 =
        !(attempt (removeItem build outcomes adminName userId) d items).1 := by
  induction items generalizing d with
  | nil => exact ⟨rfl, rfl⟩
  | cons item items ih =>
    obtain ⟨p, v⟩ := item
    rw [removeAdminItems]
    generalize hremoval : outcomes.removal adminName userId = removal at ih ⊢
    cases hret : failed (build.plugins.removeAdminItem d (removal.writes p) (removal.reply p)
      removal.adminName p v removal.userId).1 with
    | true =>
      subst hremoval
      have hstep : (removeItem build outcomes adminName userId d (p, v)).1 = false :=
        congrArg not hret
      rw [attempt_cons_failed _ hstep, hstep]
      dsimp only
      rw [if_pos hret]
      exact ⟨rfl, rfl⟩
    | false =>
      subst hremoval
      have hstep : (removeItem build outcomes adminName userId d (p, v)).1 = true :=
        congrArg not hret
      rw [attempt_cons_ok _ hstep]
      dsimp only
      rw [if_neg (Bool.eq_false_iff.mp hret)]
      exact ih _

/-- What is known while the loop runs: the admin still holds the values that are left. -/
structure ItemsHeld (adminName : String) (userId : Int) (d : Device Modules)
    (items : List (String × String)) : Prop where
  listed : d.policies.Listed
  nodup : (items.map Prod.fst).Nodup
  held : ∀ item, item ∈ items → (d.policies.manager userId).Holds adminName item.1

theorem ItemsHeld.step {item : String × String} {items : List (String × String)}
    (h : ItemsHeld adminName userId d (item :: items)) :
    ItemsHeld adminName userId (removeItem build outcomes adminName userId d item).2
      items := by
  have hnodup := List.nodup_cons.mp (List.map_cons ▸ h.nodup)
  refine ⟨released_removeAdminItem.listed h.listed, hnodup.2, fun other hother => ?_⟩
  have hne : other.1 ≠ item.1 := fun heq => hnodup.1 (heq ▸ List.mem_map_of_mem hother)
  have hold := h.held other (List.mem_cons_of_mem _ hother)
  unfold UserPolicyManager.Holds removeItem
  rw [removeAdminItem_lookup_of_ne hne]
  exact hold

/-- A step succeeds on the values that can be removed. -/
theorem removeItem_ok {item : String × String} {items : List (String × String)}
    (h : ItemsHeld adminName userId d (item :: items)) :
    (removeItem build outcomes adminName userId d item).1 = true ↔
      AdminOfUser.PolicyRemovable build outcomes ⟨adminName, userId⟩ item.1 := by
  unfold removeItem AdminOfUser.PolicyRemovable
  dsimp only
  rw [Bool.not_eq_true']
  cases hplugin : build.plugins.pluginsName item.1 with
  | none =>
    rw [removeAdminItem_without hplugin]
    exact iff_of_false (by decide : ¬failed ERR_EDM_GET_PLUGIN_MGR_FAILED = false) fun hx =>
      hx.1 rfl
  | some plugin =>
    have hneedSave : build.plugins.needSave item.1 = plugin.needSave := by
      rw [PluginTable.needSave, hplugin, Option.any_some]
    rw [hneedSave, and_iff_right (Option.some_ne_none plugin)]
    cases hsave : plugin.needSave with
    | false =>
      rw [(removeAdminItem_idle hplugin hsave).1]
      exact iff_of_true (by decide) fun hx => Bool.noConfusion hx
    | true =>
      rw [(removeAdminItem_held_write hplugin hsave adminName.2 (h.listed userId)
        (h.held item List.mem_cons_self)).1, bne_eq_false_iff_eq]
      exact ⟨fun hdone _ => hdone, fun hdone => hdone rfl⟩

/-- The loop succeeds when all values can be removed. -/
theorem attempt_items_ok {items : List (String × String)}
    (h : ItemsHeld adminName userId d items) :
    (attempt (removeItem build outcomes adminName userId) d items).1 = true ↔
      ∀ item, item ∈ items →
        AdminOfUser.PolicyRemovable build outcomes ⟨adminName, userId⟩ item.1 := by
  induction items generalizing d with
  | nil => exact iff_of_true rfl fun item hitem => absurd hitem List.not_mem_nil
  | cons item items ih =>
    rw [List.forall_mem_cons, ← removeItem_ok h]
    cases hstep : (removeItem build outcomes adminName userId d item).1 with
    | false =>
      rw [attempt_cons_failed _ hstep, hstep]
      exact iff_of_false Bool.false_ne_true fun hx => Bool.false_ne_true hx.1
    | true => rw [attempt_cons_ok _ hstep, ih h.step, and_iff_right rfl]

/-- A value that is gone stays gone. -/
theorem attempt_items_gone {u : Int} {a p : String} (items : List (String × String))
    (h : ¬(d.policies.manager u).Holds a p) :
    ¬((attempt (removeItem build outcomes adminName userId) d
      items).2.policies.manager u).Holds a p :=
  attempt_keeps (P := fun d : Device Modules => ¬(d.policies.manager u).Holds a p) _
    (fun _ _ hd hheld => hd (released_removeAdminItem.shrunk u a p hheld)) h items

/-- A step that succeeds takes a value that its plugin saves. -/
theorem removeItem_gone {item : String × String} {items : List (String × String)}
    (h : ItemsHeld adminName userId d (item :: items))
    (hok : (removeItem build outcomes adminName userId d item).1 = true)
    (hidle : ¬AdminOfUser.PolicyIdle build item.1) :
    ¬((removeItem build outcomes adminName userId d item).2.policies.manager
      userId).Holds adminName item.1 := by
  have hremovable := (removeItem_ok h).mp hok
  have hsave : build.plugins.needSave item.1 = true := by
    by_contra hunsaved
    exact hidle ⟨hremovable.1, Bool.eq_false_iff.mpr hunsaved⟩
  exact removeAdminItem_gone adminName.2 hsave (h.listed userId) (Bool.not_eq_true' _ ▸ hok)

/-- No value is removed of a policy that its plugin does not save. -/
theorem attempt_items_unsaved {u : Int} {a p : String} (hunsaved : build.plugins.needSave p = false)
    (items : List (String × String)) (d : Device Modules) :
    lookup₂ ((attempt (removeItem build outcomes adminName userId) d
        items).2.policies.manager u).adminPolicies a p =
      lookup₂ (d.policies.manager u).adminPolicies a p := by
  refine attempt_keeps (P := fun d' : Device Modules =>
    lookup₂ (d'.policies.manager u).adminPolicies a p =
      lookup₂ (d.policies.manager u).adminPolicies a p) _ (fun d' item h => ?_) rfl items
  refine Eq.trans ?_ h
  show lookup₂ ((build.plugins.removeAdminItem d' _ _ _ _ _ _).2.policies.manager
    u).adminPolicies a p = _
  by_cases hp : p = item.1
  · subst hp
    cases hplugin : build.plugins.pluginsName item.1 with
    | none => rw [removeAdminItem_without hplugin]
    | some plugin =>
      rw [PluginTable.needSave, hplugin, Option.any_some] at hunsaved
      rw [(removeAdminItem_idle hplugin hunsaved).2]
  · exact removeAdminItem_lookup_of_ne hp

/-- The loop fails and leaves the policies of all users exactly when it stops before it writes. -/
theorem attempt_items_unchanged_iff {items : List (String × String)}
    (h : ItemsHeld adminName userId d items) :
    (attempt (removeItem build outcomes adminName userId) d items).1 = false ∧
        (attempt (removeItem build outcomes adminName userId) d
          items).2.policies.manager = d.policies.manager ↔
      Stops (fun item : String × String => AdminOfUser.PolicyIdle build item.1)
        (fun item => AdminOfUser.PolicyBlocked build outcomes ⟨adminName, userId⟩
          d.policies.manager item.1) items := by
  refine attempt_unchanged_iff _ (fun d items => ItemsHeld adminName userId d items)
    (fun d d' : Device Modules => d'.policies.manager = d.policies.manager)
    (fun _ item => AdminOfUser.PolicyIdle build item.1)
    (fun d item => AdminOfUser.PolicyBlocked build outcomes ⟨adminName, userId⟩
      d.policies.manager item.1) (fun _ _ _ hI _ => hI.step) ?_ ?_ ?_ ?_
    (fun _ _ _ _ => Iff.rfl) ?_ h
  · intro d item items hI hidle
    refine ⟨(removeItem_ok hI).mpr ⟨hidle.1, fun hsave => ?_⟩, ?_⟩
    · rw [hidle.2] at hsave
      contradiction
    · obtain ⟨plugin, hplugin⟩ := Option.ne_none_iff_exists'.mp hidle.1
      have hsave := hidle.2
      rw [PluginTable.needSave, hplugin, Option.any_some] at hsave
      exact congrArg Stores.manager (removeAdminItem_idle hplugin hsave).2
  · intro d item items hI hok hidle hsame
    have hgone := @attempt_items_gone _ _ _ _ build outcomes adminName userId _ userId adminName
      item.1 items (removeItem_gone hI hok hidle)
    rw [hsame] at hgone
    exact hgone (hI.held item List.mem_cons_self)
  · intro d item items hI
    unfold AdminOfUser.PolicyBlocked
    cases hplugin : build.plugins.pluginsName item.1 with
    | none =>
      unfold removeItem
      rw [removeAdminItem_without hplugin]
      exact iff_of_true ⟨rfl, rfl⟩ (.inl rfl)
    | some plugin =>
      have hneedSave : build.plugins.needSave item.1 = plugin.needSave := by
        rw [PluginTable.needSave, hplugin, Option.any_some]
      rw [hneedSave, or_iff_right (Option.some_ne_none plugin), Option.elim_some]
      unfold removeItem
      dsimp only
      rw [Bool.not_eq_false']
      cases hsave : plugin.needSave with
      | false =>
        rw [(removeAdminItem_idle hplugin hsave).1]
        exact iff_of_false (fun hx => Bool.noConfusion hx.1) fun hx => Bool.false_ne_true hx.1
      | true =>
        obtain ⟨hcode, hwrite⟩ := @removeAdminItem_held_write _ _ _ _ build.plugins d
          (outcomes.writes adminName userId item.1) (outcomes.reply adminName userId item.1)
          adminName item.1 item.2 userId plugin hplugin hsave adminName.2 (hI.listed userId)
          (hI.held item List.mem_cons_self)
        have hne : item.1 ≠ "" := build.plugins.pluginsName_policyName item.1 plugin hplugin ▸
          plugin.policyName_ne
        rw [hcode, hwrite, setUser_manager_eq, bne_iff_ne, and_iff_right rfl]
        exact and_congr_right fun hdone => setPolicy_empty_manager adminName.2 hne hdone
  · intro d d' hsame t
    rw [hsame]
  · intro d d' item hsame
    rw [hsame]

end

/-! ### An admin of a user -/

section

variable {Modules Req Reply Event : Type} {build : Build Modules Req Reply Event}
  {outcomes : RemovalOutcomes Reply} {d : Device Modules} {x : AdminOfUser}

theorem removeAdminPolicy_eq (adminName : AdminName) (userId : Int) (d : Device Modules) :
    removeAdminPolicy build.plugins d build.itemOrder (outcomes.removal adminName userId) =
      removeAdminItems build.plugins (outcomes.removal adminName userId) d
        (AdminOfUser.policyItems build ⟨adminName, userId⟩ d.policies.manager) := by
  unfold removeAdminPolicy AdminOfUser.policyItems UserPolicyManager.getAllPolicyByAdmin
  rw [if_neg adminName.2]
  have huser : (outcomes.removal adminName userId).userId = userId := rfl
  have hname : (outcomes.removal adminName userId).adminName = adminName := rfl
  rw [huser, hname]
  cases (d.policies.manager userId).adminPolicies.lookup adminName.1 <;> rfl

theorem mem_policyItems (build : Build Modules Req Reply Event) (x : AdminOfUser)
    {managers : Int → UserPolicyManager} {p : String} :
    p ∈ (x.policyItems build managers).map Prod.fst ↔
      x.adminName ≠ "" ∧ (managers x.userId).Holds x.adminName p := by
  unfold AdminOfUser.policyItems UserPolicyManager.Holds
  by_cases hname : x.adminName = ""
  · rw [if_pos hname]
    exact iff_of_false List.not_mem_nil fun h => h.1 hname
  · rw [if_neg hname, and_iff_right hname]
    cases hitems : (managers x.userId).adminPolicies.lookup x.adminName with
    | none =>
      rw [lookup₂_none hitems]
      exact iff_of_false List.not_mem_nil fun h => h rfl
    | some items =>
      rw [lookup₂_some hitems, Option.elim_some, List.mem_map]
      have hentries := (build.itemOrder.enumerates items).mem_iff
      constructor
      · rintro ⟨⟨q, v⟩, hentry, rfl⟩
        rw [(hentries q v).mp hentry]
        exact Option.some_ne_none v
      · intro hne
        obtain ⟨v, hv⟩ := Option.ne_none_iff_exists'.mp hne
        exact ⟨(p, v), (hentries p v).mpr hv, rfl⟩

/-- A condition on the policies that a removal goes over. -/
theorem forall_policyItems {managers : Int → UserPolicyManager} {C : String → Prop} :
    (∀ item, item ∈ x.policyItems build managers → C item.1) ↔
      ∀ p, x.adminName ≠ "" → (managers x.userId).Holds x.adminName p → C p := by
  constructor
  · intro h p hname hheld
    obtain ⟨item, hitem, rfl⟩ := List.mem_map.mp
      ((mem_policyItems build x).mpr ⟨hname, hheld⟩)
    exact h item hitem
  · intro h item hitem
    obtain ⟨hname, hheld⟩ := (mem_policyItems build x).mp (List.mem_map_of_mem hitem)
    exact h item.1 hname hheld

theorem itemsHeld_policyItems {adminName : AdminName} {userId : Int}
    (hlisted : d.policies.Listed) :
    ItemsHeld adminName userId d
      (AdminOfUser.policyItems build ⟨adminName, userId⟩ d.policies.manager) := by
  refine ⟨hlisted, ?_, fun item hitem => ?_⟩
  · unfold AdminOfUser.policyItems
    rw [if_neg adminName.2]
    cases (d.policies.manager userId).adminPolicies.lookup adminName.1 with
    | none => exact List.nodup_nil
    | some items => exact (build.itemOrder.enumerates items).nodup
  · exact ((mem_policyItems build ⟨adminName, userId⟩).mp
      (List.mem_map_of_mem hitem)).2

/-- What the removal of an admin of a user returns, and when it leaves the policies. -/
structure UserRemoval (build : Build Modules Req Reply Event) (outcomes : RemovalOutcomes Reply)
    (d : Device Modules) (x : AdminOfUser) (r : ErrCode × Device Modules) : Prop where
  code : r.1 = ERR_OK ↔
    (∀ item, item ∈ x.policyItems build d.policies.manager →
      x.PolicyRemovable build outcomes item.1) ∧
      (d.admins.container.hasAdmin x.userId = true → x.deletion outcomes = .done)
  unchanged : r.1 ≠ ERR_OK ∧ r.2.policies.manager = d.policies.manager ↔
    Stops (fun item : String × String => AdminOfUser.PolicyIdle build item.1)
        (fun item => x.PolicyBlocked build outcomes d.policies.manager item.1)
        (x.policyItems build d.policies.manager) ∨
      (∀ item, item ∈ x.policyItems build d.policies.manager →
        AdminOfUser.PolicyIdle build item.1) ∧
        d.admins.container.hasAdmin x.userId = true ∧ x.deletion outcomes ≠ .done
  idle : (∀ item, item ∈ x.policyItems build d.policies.manager →
    AdminOfUser.PolicyIdle build item.1) → r.2.policies.manager = d.policies.manager
  gone : r.1 = ERR_OK → ∀ item, item ∈ x.policyItems build d.policies.manager →
    ¬AdminOfUser.PolicyIdle build item.1 →
    ¬(r.2.policies.manager x.userId).Holds x.adminName item.1
  kept : ∀ u a p, a = "" ∨ build.plugins.needSave p = false →
    lookup₂ (r.2.policies.manager u).adminPolicies a p =
      lookup₂ (d.policies.manager u).adminPolicies a p

theorem attempt_idle {adminName : AdminName} {userId : Int} {items : List (String × String)}
    (h : ItemsHeld adminName userId d items)
    (hidle : ∀ item, item ∈ items → AdminOfUser.PolicyIdle build item.1) :
    (attempt (removeItem build outcomes adminName userId) d items).2.policies.manager =
      d.policies.manager := by
  induction items generalizing d with
  | nil => rfl
  | cons item items ih =>
    have hitem := hidle item List.mem_cons_self
    have hok := (@removeItem_ok _ _ _ _ build outcomes _ _ _ _ _ h).mpr ⟨hitem.1, fun hsave => by
      rw [hitem.2] at hsave
      contradiction⟩
    obtain ⟨plugin, hplugin⟩ := Option.ne_none_iff_exists'.mp hitem.1
    have hsave := hitem.2
    rw [PluginTable.needSave, hplugin, Option.any_some] at hsave
    rw [attempt_cons_ok _ hok, ih h.step fun other hother =>
      hidle other (List.mem_cons_of_mem item hother)]
    exact congrArg Stores.manager (removeAdminItem_idle hplugin hsave).2

theorem attempt_gone {adminName : AdminName} {userId : Int} {items : List (String × String)}
    (h : ItemsHeld adminName userId d items)
    (hok : (attempt (removeItem build outcomes adminName userId) d items).1 = true)
    {item : String × String} (hitem : item ∈ items)
    (hidle : ¬AdminOfUser.PolicyIdle build item.1) :
    ¬((attempt (removeItem build outcomes adminName userId) d items).2.policies.manager
      userId).Holds adminName item.1 := by
  induction items generalizing d with
  | nil => cases hitem
  | cons first items ih =>
    cases hstep : (removeItem build outcomes adminName userId d first).1 with
    | false =>
      rw [attempt_cons_failed _ hstep, hstep] at hok
      contradiction
    | true =>
      rw [attempt_cons_ok _ hstep] at hok ⊢
      rcases List.mem_cons.mp hitem with rfl | hrest
      · exact attempt_items_gone items (removeItem_gone h hstep hidle)
      · exact ih h.step hok hrest

theorem removeAdmin_code (d : Device Modules) (removal : Removal Reply) :
    (removeAdmin d removal).1 = ERR_OK ↔
      (d.admins.container.hasAdmin removal.userId = true → removal.deletion = .done) := by
  rw [removeAdmin_eq]
  by_cases hdelete : d.admins.container.hasAdmin removal.userId = true ∧ removal.deletion ≠ .done
  · rw [if_pos hdelete]
    exact iff_of_false (by decide : ERR_EDM_DEL_ADMIN_FAILED ≠ ERR_OK)
      fun h => hdelete.2 (h hdelete.1)
  · rw [if_neg hdelete]
    exact iff_of_true rfl fun h => not_not.mp fun hne => hdelete ⟨h, hne⟩

theorem userRemoval_named {adminName : AdminName} {userId : Int} (hlisted : d.policies.Listed) :
    UserRemoval build outcomes d ⟨adminName, userId⟩ (removeAdminAndAdminPolicy build.plugins d
      build.itemOrder (outcomes.removal adminName userId)) := by
  have hitems := @itemsHeld_policyItems _ _ _ _ build d adminName userId hlisted
  have hok := @attempt_items_ok _ _ _ _ build outcomes adminName userId d _ hitems
  have hstops := @attempt_items_unchanged_iff _ _ _ _ build outcomes adminName userId d _ hitems
  have hpolicies := @removeAdminAndAdminPolicy_policies _ _ _ _ build.plugins
    (outcomes.removal adminName userId) build.itemOrder d
  have hadmins : (removeAdminPolicy build.plugins d build.itemOrder
      (outcomes.removal adminName userId)).2.admins = d.admins := by
    rw [removeAdminPolicy_eq]
    exact removeAdminItems_admins build.plugins _ _ d
  have hcode : (removeAdminAndAdminPolicy build.plugins d build.itemOrder
      (outcomes.removal adminName userId)).1 = ERR_OK ↔
      (attempt (removeItem build outcomes adminName userId) d (AdminOfUser.policyItems build
        ⟨adminName, userId⟩ d.policies.manager)).1 = true ∧
      (d.admins.container.hasAdmin userId = true → outcomes.deletion adminName userId = .done) := by
    have hloop := (@removeAdminItems_eq _ _ _ _ build outcomes adminName userId
      (AdminOfUser.policyItems build ⟨adminName, userId⟩ d.policies.manager) d).2
    rw [← removeAdminPolicy_eq] at hloop
    unfold removeAdminAndAdminPolicy
    generalize removeAdminPolicy build.plugins d build.itemOrder
      (outcomes.removal adminName userId) = r at hadmins hloop ⊢
    obtain ⟨ret, d₁⟩ := r
    dsimp only at hadmins hloop ⊢
    have hdelete := removeAdmin_code d₁ (outcomes.removal adminName userId)
    rw [hadmins] at hdelete
    cases hdone : (attempt (removeItem build outcomes adminName userId) d (AdminOfUser.policyItems
        build ⟨adminName, userId⟩ d.policies.manager)).1 with
    | false =>
      rw [hdone] at hloop
      have hfailed : failed ret = true := hloop
      rw [if_pos hfailed]
      exact iff_of_false (bne_iff_ne.mp hfailed) fun h => Bool.noConfusion h.1
    | true =>
      rw [hdone] at hloop
      have hok : failed ret = false := hloop
      rw [if_neg (Bool.eq_false_iff.mp hok), and_iff_right rfl]
      refine Iff.trans ?_ hdelete
      split <;> rename_i hret
      · exact Iff.rfl
      · exact iff_of_true rfl (bne_eq_false_iff_eq.mp (Bool.eq_false_iff.mpr hret))
  rw [removeAdminPolicy_eq, (removeAdminItems_eq _ d).1] at hpolicies
  exact {
    code := hcode.trans (and_congr_left' hok)
    unchanged := by
      rw [ne_eq, hcode, hpolicies, ← hstops]
      cases hdone : (attempt (removeItem build outcomes adminName userId) d
          (AdminOfUser.policyItems build ⟨adminName, userId⟩ d.policies.manager)).1 with
      | false =>
        rw [and_iff_right rfl]
        constructor
        · exact fun h => .inl h.2
        · intro h
          refine ⟨fun hx => Bool.noConfusion hx.1, h.elim id fun hx => ?_⟩
          exact attempt_idle hitems hx.1
      | true =>
        rw [and_iff_right rfl, or_iff_right fun h => Bool.noConfusion h.1, Classical.not_imp,
          and_comm]
        refine and_congr_left fun _ => ⟨fun hsame => ?_, attempt_idle hitems⟩
        intro item hitem
        by_contra hidle
        have hgone := attempt_gone hitems hdone hitem hidle
        rw [hsame] at hgone
        exact hgone (hitems.held item hitem)
    idle := fun hidle => by
      rw [hpolicies]
      exact attempt_idle hitems hidle
    gone := fun h item hitem hidle => by
      rw [hpolicies]
      exact attempt_gone hitems (hcode.mp h).1 hitem hidle
    kept := fun u a p hap => by
      rcases hap with rfl | hunsaved
      · have hreleased := @released_removeAdminPolicy _ _ _ _ build.plugins
          (outcomes.removal adminName userId) build.itemOrder d
        rw [removeAdminPolicy_eq, (removeAdminItems_eq _ d).1, ← hpolicies] at hreleased
        exact hreleased.kept u "" p fun hx => adminName.2 hx.2.symm
      · rw [hpolicies]
        exact attempt_items_unsaved hunsaved _ d }

theorem userRemoval_unnamed {userId : Int} :
    UserRemoval build outcomes d ⟨"", userId⟩ (removeUnnamedAdmin outcomes d userId) := by
  have hitems : AdminOfUser.policyItems build ⟨"", userId⟩ d.policies.manager = [] := if_pos rfl
  have hcode : (removeUnnamedAdmin outcomes d userId).1 = ERR_OK ↔
      (d.admins.container.hasAdmin userId = true → outcomes.deletion "" userId = .done) := by
    unfold removeUnnamedAdmin AdminManager.deleteAdmin
    by_cases hadmin : d.admins.container.hasAdmin userId = true
    · rw [if_pos hadmin, forall_prop_of_true hadmin]
      cases outcomes.deletion "" userId with
      | unavailable => exact iff_of_false (by decide : ERR_EDM_DEL_ADMIN_FAILED ≠ ERR_OK) nofun
      | failed => exact iff_of_false (by decide : ERR_EDM_DEL_ADMIN_FAILED ≠ ERR_OK) nofun
      | done => exact iff_of_true rfl rfl
    · rw [if_neg hadmin]
      exact iff_of_true rfl fun h => absurd h hadmin
  have hpolicies : (removeUnnamedAdmin outcomes d userId).2.policies = d.policies := by
    rcases removeUnnamedAdmin_admins outcomes d userId with ⟨-, hd⟩ | ⟨-, hd⟩ <;> rw [hd]
  have hnone : ∀ {C : String × String → Prop}, ∀ item, item ∈ AdminOfUser.policyItems build
      ⟨"", userId⟩ d.policies.manager → C item := by
    intro C item hitem
    rw [hitems] at hitem
    cases hitem
  exact {
    code := hcode.trans (and_iff_right hnone).symm
    unchanged := by
      rw [ne_eq, hcode, hpolicies, and_iff_left rfl, hitems, Classical.not_imp]
      exact ⟨fun h => .inr ⟨fun item hitem => absurd hitem List.not_mem_nil, h⟩,
        fun h => h.elim False.elim And.right⟩
    idle := fun _ => by rw [hpolicies]
    gone := fun _ => hnone
    kept := fun _ _ _ _ => by rw [hpolicies] }

end

/-! ### The removals of a service -/

/-- A user that has an entry has an admin. -/
def AdminContainer.Populated (c : AdminContainer) : Prop :=
  ∀ u, c.hasAdmin u = true → c.adminsOf u ≠ []

theorem AdminContainer.Populated.deleteAdmin {c : AdminContainer} (h : c.Populated)
    (packageName : String) (userId : Int) :
    AdminContainer.Populated (AdminContainer.deleteAdmin c packageName userId) := by
  intro u hadmin
  unfold AdminContainer.hasAdmin at hadmin
  rw [c.lookup_deleteAdmin] at hadmin
  rw [c.adminsOf_deleteAdmin]
  split at hadmin <;> rename_i hu
  · rw [if_pos hu, AdminContainer.adminsOf]
    cases hlookup : c.lookup u with
    | none =>
      rw [hlookup] at hadmin
      cases hadmin
    | some admins =>
      rw [hlookup, Option.bind_some] at hadmin
      dsimp only at hadmin
      split at hadmin <;> rename_i hempty
      · cases hadmin
      · exact fun hnil => hempty (List.isEmpty_iff.mpr hnil)
  · rw [if_neg hu]
    exact h u hadmin

theorem AdminContainer.Populated.hasAdmin_iff {c : AdminContainer} (h : c.Populated) {u : Int} :
    c.hasAdmin u = true ↔ c.adminsOf u ≠ [] := by
  refine ⟨h u, fun hne => ?_⟩
  unfold AdminContainer.hasAdmin
  unfold AdminContainer.adminsOf at hne
  cases hlookup : c.lookup u with
  | none =>
    rw [hlookup] at hne
    exact absurd rfl hne
  | some admins => rfl

namespace Service

variable {Modules : Type} (s : Service Modules)

/-- What the removals need to know of a service. -/
structure Removing : Prop where
  listed : s.device.policies.Listed
  populated : s.container.Populated

/-- The admins of every user and the policies of every user are the same. -/
structure Unchanged (s' : Service Modules) : Prop where
  admins : s'.container.adminsOf = s.container.adminsOf
  policies : s'.device.policies.manager = s.device.policies.manager

end Service

section

variable {Modules Req Reply Event : Type} {build : Build Modules Req Reply Event}
  {outcomes : RemovalOutcomes Reply} {s s₀ : Service Modules} {x : AdminOfUser}

/-- The removal of an admin of a user as a step. -/
def removeOne (build : Build Modules Req Reply Event) (outcomes : RemovalOutcomes Reply)
    (s : Service Modules) (x : AdminOfUser) : Bool × Service Modules :=
  let r := removeAdminOfUser build outcomes s x.adminName x.userId
  (!failed r.1, r.2)

theorem removeOne_fst :
    (removeOne build outcomes s x).1 = true ↔
      (removeAdminOfUser build outcomes s x.adminName x.userId).1 = ERR_OK := by
  show (!failed _) = true ↔ _
  rw [Bool.not_eq_true', failed, bne_eq_false_iff_eq]

theorem userRemoval_service (hlisted : s.device.policies.Listed) :
    UserRemoval build outcomes s.device x
      ((removeAdminOfUser build outcomes s x.adminName x.userId).1,
        (removeAdminOfUser build outcomes s x.adminName x.userId).2.device) := by
  obtain ⟨adminName, userId⟩ := x
  refine removeAdminOfUser_outcome (P := UserRemoval build outcomes s.device ⟨adminName, userId⟩)
    (fun hname => ?_) fun hname => ?_
  · subst hname
    exact userRemoval_unnamed
  · exact @userRemoval_named _ _ _ _ build outcomes s.device ⟨adminName, hname⟩ userId hlisted

theorem Service.Removing.step (h : s.Removing) :
    (removeOne build outcomes s x).2.Removing := by
  refine ⟨(removeAdminOfUser_policies x.adminName x.userId).1.listed h.listed, ?_⟩
  show (removeAdminOfUser build outcomes s x.adminName x.userId).2.container.Populated
  unfold Service.container
  rcases @removeAdminOfUser_cases _ _ _ _ build outcomes s x.adminName x.userId with
    ⟨-, hadmins, -⟩ | ⟨-, hadmins, -⟩
  · rw [hadmins]
    exact h.populated
  · rw [hadmins]
    unfold AdminManager.deleteAdmin
    split
    · exact h.populated.deleteAdmin _ _
    · exact h.populated

/-- A removal succeeds when the values and the row can be removed. -/
theorem removeOne_ok (h : s.Removing) :
    (removeOne build outcomes s x).1 = true ↔
      x.Clears build outcomes s.device.policies.manager s.container.adminsOf [] := by
  rw [removeOne_fst, (userRemoval_service h.listed).code]
  have hadmin : s.device.admins.container.hasAdmin x.userId = true ↔
      ∃ admin, admin ∈ s.container.adminsOf x.userId ∧
        (⟨admin.packageName, x.userId⟩ : AdminOfUser) ∉ [] := by
    rw [h.populated.hasAdmin_iff]
    constructor
    · intro hne
      obtain ⟨admin, hmem⟩ := List.exists_mem_of_ne_nil _ hne
      exact ⟨admin, hmem, List.not_mem_nil⟩
    · rintro ⟨admin, hmem, -⟩
      exact List.ne_nil_of_mem hmem
  rw [hadmin]
  exact ⟨fun hx => ⟨hx.1, hx.2⟩, fun hx => ⟨hx.items, hx.deletion⟩⟩

/-- A removal that succeeds takes the admins with the name away from the user. -/
theorem removeOne_adminsOf (hok : (removeOne build outcomes s x).1 = true) (u : Int) :
    (removeOne build outcomes s x).2.container.adminsOf u =
      if u = x.userId then
        (s.container.adminsOf u).filter fun admin => admin.packageName != x.adminName
      else s.container.adminsOf u :=
  removeAdminOfUser_ok (removeOne_fst.mp hok) u

theorem removeOne_shrunk : Shrunk s (removeOne build outcomes s x).2 :=
  shrunk_removal s x.adminName x.userId (.refl s)

/-- The service after the removals `before`, each of which succeeded, from `s₀`. -/
structure RemovedBefore (build : Build Modules Req Reply Event) (outcomes : RemovalOutcomes Reply)
    (s₀ : Service Modules) (before : List AdminOfUser) (s : Service Modules) : Prop where
  removing : s.Removing
  shrunk : Shrunk s₀ s
  kept : ∀ y : AdminOfUser, y ∉ before → ∀ p, s₀.Holds y.userId y.adminName p →
    s.Holds y.userId y.adminName p
  admins : ∀ u, s.container.adminsOf u = (s₀.container.adminsOf u).filter fun admin =>
    (⟨admin.packageName, u⟩ : AdminOfUser) ∉ before
  removable : ∀ y, y ∈ before →
    ∀ item, item ∈ y.policyItems build s₀.device.policies.manager →
      y.PolicyRemovable build outcomes item.1

/-- What a removal needs is there after those before it exactly when it was there before them. -/
theorem RemovedBefore.clears_iff {before : List AdminOfUser}
    (h : RemovedBefore build outcomes s₀ before s) :
    x.Clears build outcomes s.device.policies.manager s.container.adminsOf [] ↔
      x.Clears build outcomes s₀.device.policies.manager s₀.container.adminsOf before := by
  have hitems : (∀ item, item ∈ x.policyItems build s.device.policies.manager →
        x.PolicyRemovable build outcomes item.1) ↔
      ∀ item, item ∈ x.policyItems build s₀.device.policies.manager →
        x.PolicyRemovable build outcomes item.1 := by
    by_cases hx : x ∈ before
    · refine iff_of_true ?_ (h.removable x hx)
      have hold := (forall_policyItems (C := x.PolicyRemovable build outcomes)).mp
        (h.removable x hx)
      exact forall_policyItems.mpr fun p hname hheld =>
        hold p hname (h.shrunk.holds x.userId x.adminName p hheld)
    · rw [forall_policyItems (C := x.PolicyRemovable build outcomes),
        forall_policyItems (C := x.PolicyRemovable build outcomes)]
      exact forall_congr' fun p => imp_congr_right fun _ => imp_congr_left
        ⟨h.shrunk.holds x.userId x.adminName p, h.kept x hx p⟩
  have hadmins : (∃ admin, admin ∈ s.container.adminsOf x.userId ∧
        (⟨admin.packageName, x.userId⟩ : AdminOfUser) ∉ []) ↔
      ∃ admin, admin ∈ s₀.container.adminsOf x.userId ∧
        (⟨admin.packageName, x.userId⟩ : AdminOfUser) ∉ before := by
    rw [h.admins]
    refine exists_congr fun admin => ?_
    rw [and_iff_left List.not_mem_nil, List.mem_filter, decide_eq_true_iff]
  constructor
  · exact fun hx => ⟨hitems.mp hx.items, fun hsome => hx.deletion (hadmins.mpr hsome)⟩
  · exact fun hx => ⟨hitems.mpr hx.items, fun hsome => hx.deletion (hadmins.mp hsome)⟩

theorem RemovedBefore.step {before : List AdminOfUser}
    (h : RemovedBefore build outcomes s₀ before s)
    (hok : (removeOne build outcomes s x).1 = true) :
    RemovedBefore build outcomes s₀ (before ++ [x]) (removeOne build outcomes s x).2 where
  removing := h.removing.step
  shrunk := h.shrunk.trans removeOne_shrunk
  kept y hy p hheld := by
    rw [List.mem_append, List.mem_singleton, not_or] at hy
    have hkept := (@removeAdminOfUser_policies _ _ _ _ build outcomes s x.adminName
      x.userId).1.kept y.userId y.adminName p fun hx => hy.2 (by
        obtain ⟨adminName, userId⟩ := y
        obtain ⟨rfl, rfl⟩ := hx
        rfl)
    have hold := h.kept y hy.1 p hheld
    unfold Service.Holds at hold ⊢
    rw [← hkept] at hold
    exact hold
  admins u := by
    rw [removeOne_adminsOf hok, h.admins]
    split <;> rename_i hu
    · subst hu
      rw [List.filter_filter]
      refine List.filter_congr fun admin _ => ?_
      rw [Bool.eq_iff_iff, Bool.and_eq_true, bne_iff_ne, decide_eq_true_iff, decide_eq_true_iff,
        List.mem_append, List.mem_singleton, not_or, and_comm]
      refine and_congr_right fun _ => not_congr ?_
      constructor
      · exact fun heq => by rw [heq]
      · exact fun heq => congrArg AdminOfUser.adminName heq
    · refine List.filter_congr fun admin _ => ?_
      rw [Bool.eq_iff_iff, decide_eq_true_iff, decide_eq_true_iff, List.mem_append,
        List.mem_singleton, not_or]
      exact (and_iff_left fun heq => hu (congrArg AdminOfUser.userId heq)).symm
  removable y hy := by
    rcases List.mem_append.mp hy with hy | hy
    · exact h.removable y hy
    · obtain rfl := List.mem_singleton.mp hy
      exact (h.clears_iff.mp ((removeOne_ok h.removing).mp hok)).items

end

end Edm
