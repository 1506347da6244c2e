import Edm.Ability.ServiceRun
import Edm.Policy.Holdings

/-! What the removal of admins takes from the policies: the values of the removed admins, and nothing
else. -/

set_option autoImplicit false

namespace Edm

open Library Library.UnorderedMap

/-- The second index of every user lists the admins that hold a policy. -/
def Stores.Listed (s : Stores) : Prop := ∀ u, (s.manager u).Listed

/-- Values of an admin of one user may be gone, all others are as they were. -/
structure Released (adminName : String) (u : Int) (s s' : Stores) : Prop where
  kept : ∀ v x q, ¬(v = u ∧ x = adminName) →
    lookup₂ (s'.manager v).adminPolicies x q = lookup₂ (s.manager v).adminPolicies x q
  shrunk : ∀ v x q, (s'.manager v).Holds x q → (s.manager v).Holds x q
  listed : s.Listed → s'.Listed

theorem Released.refl (adminName : String) (u : Int) (s : Stores) : Released adminName u s s :=
  ⟨fun _ _ _ _ => rfl, fun _ _ _ h => h, fun h => h⟩

theorem Released.trans {adminName : String} {u : Int} {s s₁ s' : Stores}
    (h : Released adminName u s s₁) (h' : Released adminName u s₁ s') : Released adminName u s s' :=
  ⟨fun v x q hne => (h'.kept v x q hne).trans (h.kept v x q hne),
    fun v x q hheld => h.shrunk v x q (h'.shrunk v x q hheld), fun hs => h'.listed (h.listed hs)⟩

/-- A write that empties one value, or that is for no admin. -/
theorem released_setPolicy (s : Stores) (u : Int) (writes : Writes) {a : String}
    (adminName p merged : String) (ha : a = "" ∨ a = adminName) :
    Released adminName u s
      (s.setUser u ((s.user u).setPolicy writes a p "" merged).2) := by
  constructor
  · intro v x q hne
    by_cases hv : v = u
    · subst hv
      rw [Stores.setUser_manager_self]
      by_cases hxa : x = a
      · rcases ha with ha | ha
        · subst ha
          rw [UserStore.setPolicy_unnamed.1]
          rfl
        · exact absurd ⟨rfl, hxa.trans ha⟩ hne
      · exact UserStore.setPolicy_adminPolicies_of_ne fun hx => hxa hx.1
    · rw [Stores.setUser_manager_of_ne s hv]
  · intro v x q hheld
    by_cases hv : v = u
    · subst hv
      rw [Stores.setUser_manager_self] at hheld
      exact (UserStore.holds_of_setPolicy hheld).resolve_right fun hx => hx.2.2.2.2 rfl
    · rw [Stores.setUser_manager_of_ne s hv] at hheld
      exact hheld
  · intro hs v
    by_cases hv : v = u
    · subst hv
      rw [Stores.setUser_manager_self]
      exact UserStore.listed_setPolicy (hs v)
    · rw [Stores.setUser_manager_of_ne s hv]
      exact hs v

/-! ### One value -/

section

variable {Modules Req Reply Event : Type} {plugins : PluginTable Modules Req Reply Event}
  {d : Device Modules} {writes : Writes} {reply : Reply} {adminName p v : String} {userId : Int}

/-- The policies after the removal of a value. -/
theorem removeAdminItem_policies {plugin : RegisteredPlugin Modules Req Reply Event}
    (hplugin : plugins.pluginsName p = some plugin) :
    (plugins.removeAdminItem d writes reply adminName p v userId).2.policies =
      if plugin.needSave then
        if isEmpty ((d.policies.manager userId).adminValues p) then
          d.policies.setUser userId ((d.policies.user userId).setPolicy writes "" p "" "").2
        else
          d.policies.setUser userId ((d.policies.user userId).setPolicy writes adminName p ""
            (plugin.getOthersMergePolicyData d.policies.manager userId adminName)).2
      else d.policies := by
  obtain rfl := plugins.pluginsName_policyName p plugin hplugin
  have hstore := removeAdminItem_store (plugin.forUser d.policies.manager userId)
    (d.pluginState plugin.policyName userId) writes reply adminName v
  unfold PluginTable.removeAdminItem
  rw [hplugin]
  show d.policies.setUser userId (PluginManager.removeAdminItem
    (plugin.forUser d.policies.manager userId) (d.pluginState plugin.policyName userId) writes
    reply adminName v).2.store = _
  rw [hstore]
  show d.policies.setUser userId (if plugin.needSave then
    if isEmpty ((d.policies.manager userId).adminValues plugin.policyName) then _ else _
    else d.policies.user userId) = _
  split
  · split <;> rfl
  · exact d.policies.setUser_user userId

theorem released_removeAdminItem :
    Released adminName userId d.policies
      (plugins.removeAdminItem d writes reply adminName p v userId).2.policies := by
  cases hplugin : plugins.pluginsName p with
  | none =>
    unfold PluginTable.removeAdminItem
    rw [hplugin]
    exact .refl _ _ _
  | some plugin =>
    rw [removeAdminItem_policies hplugin]
    split
    · split
      · exact released_setPolicy d.policies userId writes adminName p "" (.inl rfl)
      · exact released_setPolicy d.policies userId writes adminName p _ (.inr rfl)
    · exact .refl _ _ _

/-- A removal that succeeds takes the value, where the plugin saves its policy. -/
theorem removeAdminItem_gone (hname : adminName ≠ "") (hsave : plugins.needSave p = true)
    (hlisted : (d.policies.manager userId).Listed)
    (h : failed (plugins.removeAdminItem d writes reply adminName p v userId).1 = false) :
    ¬((plugins.removeAdminItem d writes reply adminName p v userId).2.policies.manager
      userId).Holds adminName p := by
  intro hafter
  have hheld := released_removeAdminItem.shrunk userId adminName p hafter
  revert hafter
  cases hplugin : plugins.pluginsName p with
  | none =>
    rw [PluginTable.needSave, hplugin] at hsave
    contradiction
  | some plugin =>
    rw [PluginTable.needSave, hplugin, Option.any_some] at hsave
    have hentry := hlisted adminName p hheld
    rw [← UserPolicyManager.lookup_adminValues] at hentry
    obtain ⟨w, hw⟩ := Option.ne_none_iff_exists'.mp hentry
    have hnonempty : isEmpty ((d.policies.manager userId).adminValues p) = false :=
      Bool.eq_false_iff.mpr fun hempty =>
        ne_empty_of_lookup hw (UnorderedMap.isEmpty_iff.mp hempty)
    have hpolicies := @removeAdminItem_policies _ _ _ _ plugins d writes reply adminName p v userId
      plugin hplugin
    rw [if_pos hsave, if_neg (Bool.eq_false_iff.mp hnonempty)] at hpolicies
    obtain rfl := plugins.pluginsName_policyName p plugin hplugin
    have hcode := PluginManager.removeAdminItem_held_code
      (plugin.forUser d.policies.manager userId) (d.pluginState plugin.policyName userId) writes
      reply adminName v hsave hnonempty
    unfold PluginTable.removeAdminItem at h
    rw [hplugin] at h
    have hdone : writes.admin = .done := by
      have hset := hcode.symm.trans h
      have hempty := failed_setPolicy_empty (d.policies.user userId) writes hname
        plugin.policyName_ne (plugin.getOthersMergePolicyData d.policies.manager userId adminName)
      have hne := hempty.symm.trans hset
      simpa using hne
    rw [hpolicies, Stores.setUser_manager_self]
    unfold UserPolicyManager.Holds
    rw [setPolicy_adminPolicies _ _ _ _ hname plugin.policyName_ne, if_pos ⟨hdone, rfl, rfl⟩]
    exact fun hx => hx rfl

end

/-! ### All values of an admin of a user -/

section

variable {Modules Req Reply Event : Type} {plugins : PluginTable Modules Req Reply Event}
  {removal : Removal Reply} {order : HashOrder}

open EnterpriseDeviceMgrAbility

theorem released_removeAdminItems (items : List (String × String)) (d : Device Modules) :
    Released removal.adminName removal.userId d.policies
      (removeAdminItems plugins removal d items).2.policies := by
  induction items generalizing d with
  | nil => exact .refl _ _ _
  | cons item items ih =>
    obtain ⟨p, v⟩ := item
    have hitem := @released_removeAdminItem _ _ _ _ plugins d (removal.writes p) (removal.reply p)
      removal.adminName p v removal.userId
    rw [removeAdminItems]
    generalize plugins.removeAdminItem d (removal.writes p) (removal.reply p) removal.adminName p v
      removal.userId = r at hitem ⊢
    obtain ⟨ret, d₁⟩ := r
    dsimp only at hitem ⊢
    split
    · exact hitem
    · exact hitem.trans (ih d₁)

theorem removeAdminItems_gone (items : List (String × String)) (d : Device Modules)
    (hlisted : d.policies.Listed)
    (h : failed (removeAdminItems plugins removal d items).1 = false) {p : String}
    (hp : p ∈ items.map Prod.fst) (hsave : plugins.needSave p = true) :
    ¬((removeAdminItems plugins removal d items).2.policies.manager removal.userId).Holds
      removal.adminName p := by
  induction items generalizing d with
  | nil => cases hp
  | cons item items ih =>
    obtain ⟨q, v⟩ := item
    have hitem := @released_removeAdminItem _ _ _ _ plugins d (removal.writes q) (removal.reply q)
      removal.adminName q v removal.userId
    have hgone := @removeAdminItem_gone _ _ _ _ plugins d (removal.writes q) (removal.reply q)
      removal.adminName q v removal.userId removal.adminName.2
    rw [removeAdminItems] at h ⊢
    generalize plugins.removeAdminItem d (removal.writes q) (removal.reply q) removal.adminName q v
      removal.userId = r at hitem hgone h ⊢
    obtain ⟨ret, d₁⟩ := r
    dsimp only at hitem hgone h ⊢
    split at h <;> rename_i hret
    · have hfailed : failed ERR_EDM_DEL_ADMIN_FAILED ≠ false := by decide
      exact absurd h hfailed
    · rw [if_neg hret]
      rw [List.map_cons, List.mem_cons] at hp
      rcases hp with rfl | hp
      · intro hheld
        exact hgone hsave (hlisted _) (Bool.eq_false_iff.mpr hret)
          ((released_removeAdminItems items d₁).shrunk _ _ _ hheld)
      · exact ih d₁ (hitem.listed hlisted) h hp

theorem released_removeAdminPolicy (d : Device Modules) :
    Released removal.adminName removal.userId d.policies
      (removeAdminPolicy plugins d order removal).2.policies := by
  unfold removeAdminPolicy
  split
  · exact .refl _ _ _
  · exact released_removeAdminItems _ d

theorem removeAdminPolicy_gone (d : Device Modules) (hlisted : d.policies.Listed)
    (h : failed (removeAdminPolicy plugins d order removal).1 = false) {p : String}
    (hsave : plugins.needSave p = true) :
    ¬((removeAdminPolicy plugins d order removal).2.policies.manager removal.userId).Holds
      removal.adminName p := by
  intro hafter
  have hheld := (released_removeAdminPolicy d).shrunk _ _ _ hafter
  revert hafter
  unfold removeAdminPolicy at h ⊢
  unfold UserPolicyManager.getAllPolicyByAdmin at h ⊢
  cases hitems : (d.policies.manager removal.userId).adminPolicies.lookup removal.adminName.1 with
  | none => exact absurd (lookup₂_none hitems p) hheld
  | some policyItems =>
    rw [hitems] at h
    dsimp only at h ⊢
    refine removeAdminItems_gone _ d hlisted h ?_ hsave
    unfold UserPolicyManager.Holds at hheld
    rw [lookup₂_some hitems] at hheld
    obtain ⟨v, hv⟩ := Option.ne_none_iff_exists'.mp hheld
    exact List.mem_map.mpr ⟨(p, v), ((order.enumerates policyItems).mem_iff p v).mpr hv, rfl⟩

theorem removeAdminAndAdminPolicy_policies (d : Device Modules) :
    (removeAdminAndAdminPolicy plugins d order removal).2.policies =
      (removeAdminPolicy plugins d order removal).2.policies := by
  unfold removeAdminAndAdminPolicy removeAdmin
  dsimp only
  split
  · rfl
  · split
    · split <;> rfl
    · split <;> rfl

theorem removeAdminAndAdminPolicy_ok {d : Device Modules}
    (h : (removeAdminAndAdminPolicy plugins d order removal).1 = ERR_OK) :
    failed (removeAdminPolicy plugins d order removal).1 = false := by
  by_contra hfailed
  have hret : failed (removeAdminPolicy plugins d order removal).1 = true :=
    Bool.not_eq_false _ ▸ hfailed
  unfold removeAdminAndAdminPolicy at h
  dsimp only at h
  rw [if_pos hret] at h
  exact bne_iff_ne.mp hret h

end

/-! ### The admins of a service -/

section

variable {Modules Req Reply Event : Type} {build : Build Modules Req Reply Event}
  {outcomes : RemovalOutcomes Reply} {s : Service Modules} {bundleName : String}

open EnterpriseDeviceMgrAbility

/-- The policies after the removal of an admin of a user, and what is left of them when it succeeds. -/
theorem removeAdminOfUser_policies (adminName : String) (userId : Int) :
    Released adminName userId s.device.policies
        (removeAdminOfUser build outcomes s adminName userId).2.device.policies ∧
      ((removeAdminOfUser build outcomes s adminName userId).1 = ERR_OK → adminName ≠ "" →
        s.device.policies.Listed → ∀ p, build.plugins.needSave p = true →
        ¬(removeAdminOfUser build outcomes s adminName userId).2.Holds userId adminName p) := by
  refine removeAdminOfUser_outcome
    (P := fun r => Released adminName userId s.device.policies r.2.policies ∧
      (r.1 = ERR_OK → adminName ≠ "" → s.device.policies.Listed → ∀ p,
        build.plugins.needSave p = true → ¬(r.2.policies.manager userId).Holds adminName p))
    (fun hname => ⟨?_, fun _ hne => absurd hname hne⟩) fun hname => ?_
  · rcases removeUnnamedAdmin_admins outcomes s.device userId with ⟨-, hd⟩ | ⟨-, hd⟩
    · rw [hd]
      exact .refl _ _ _
    · rw [hd]
      exact .refl _ _ _
  · rw [removeAdminAndAdminPolicy_policies]
    refine ⟨@released_removeAdminPolicy _ _ _ _ _ (outcomes.removal ⟨adminName, hname⟩ userId) _
      s.device, fun hok _ hlisted p hsave => ?_⟩
    exact @removeAdminPolicy_gone _ _ _ _ _ (outcomes.removal ⟨adminName, hname⟩ userId) _
      s.device hlisted (removeAdminAndAdminPolicy_ok hok) p hsave

theorem removeAdminOfUser_policyUserIds (adminName : String) (userId : Int) :
    (removeAdminOfUser build outcomes s adminName userId).2.policyUserIds =
      (s.getUserPolicyMgr userId).policyUserIds := by
  unfold removeAdminOfUser
  dsimp only
  split <;> split <;> rfl

/-- What every removal makes of the policies. -/
structure Shrunk (s s' : Service Modules) : Prop where
  holds : ∀ u a p, s'.Holds u a p → s.Holds u a p
  listed : s.device.policies.Listed → s'.device.policies.Listed
  users : s.policyUserIds ⊆ s'.policyUserIds
  default : DEFAULT_USER_ID ∉ s.policyUserIds → DEFAULT_USER_ID ∉ s'.policyUserIds

theorem Shrunk.refl (s : Service Modules) : Shrunk s s :=
  ⟨fun _ _ _ h => h, fun h => h, fun _ h => h, fun h => h⟩

theorem shrunk_removal {s₀ : Service Modules} :
    KeptByRemoval build outcomes (Shrunk s₀) := by
  intro s adminName userId hs
  have hpolicies := (@removeAdminOfUser_policies _ _ _ _ build outcomes s adminName userId).1
  have husers : s.policyUserIds ⊆ (s.getUserPolicyMgr userId).policyUserIds := by
    unfold Service.getUserPolicyMgr
    split
    · exact fun _ h => h
    · exact Finset.subset_insert _ _
  have hdefault : DEFAULT_USER_ID ∉ s.policyUserIds →
      DEFAULT_USER_ID ∉ (s.getUserPolicyMgr userId).policyUserIds := by
    intro h
    unfold Service.getUserPolicyMgr
    split
    · exact h
    · rename_i hu
      intro hmem
      rcases Finset.mem_insert.mp hmem with heq | hold
      · exact hu heq.symm
      · exact h hold
  rw [← @removeAdminOfUser_policyUserIds _ _ _ _ build outcomes s adminName userId] at husers hdefault
  exact ⟨fun u a p hheld => hs.holds u a p (hpolicies.shrunk u a p hheld),
    fun h => hpolicies.listed (hs.listed h), fun u hu => husers (hs.users hu),
    fun h => hdefault (hs.default h)⟩

/-- An admin that is removed from all users holds nothing that its plugins save. -/
theorem removeSubOrSuper_gone {userIds : List Int} (hlisted : s.device.policies.Listed)
    (hname : bundleName ≠ "")
    (h : (removeSubOrSuperAdminAndAdminPolicy build outcomes bundleName s userIds).1 = ERR_OK)
    {u : Int} (hu : u ∈ userIds ∨ u = DEFAULT_USER_ID) {p : String}
    (hsave : build.plugins.needSave p = true) :
    ¬(removeSubOrSuperAdminAndAdminPolicy build outcomes bundleName s userIds).2.Holds u
      bundleName p := by
  induction userIds generalizing s with
  | nil =>
    obtain rfl := hu.resolve_left List.not_mem_nil
    exact (removeAdminOfUser_policies bundleName DEFAULT_USER_ID).2 h hname hlisted p hsave
  | cons userId userIds ih =>
    rw [removeSubOrSuperAdminAndAdminPolicy] at h ⊢
    have hfirst := @removeAdminOfUser_policies _ _ _ _ build outcomes s bundleName userId
    generalize removeAdminOfUser build outcomes s bundleName userId = r at h hfirst ⊢
    obtain ⟨ret, s₁⟩ := r
    dsimp only at h hfirst ⊢
    split at h <;> rename_i hret
    · exact absurd h del_admin_failed_ne
    · rw [if_neg hret]
      have hok : ret = ERR_OK := by simpa using hret
      by_cases hrest : u ∈ userIds ∨ u = DEFAULT_USER_ID
      · exact ih (hfirst.1.listed hlisted) h hrest
      · have heq : u = userId := by
          rcases hu with hmem | hmem
          · exact (List.mem_cons.mp hmem).resolve_right fun hx => hrest (.inl hx)
          · exact absurd (.inr hmem) hrest
        subst heq
        intro hheld
        exact hfirst.2 hok hname hlisted p hsave
          ((shrunk_removal.subOrSuper bundleName userIds (.refl s₁)).holds _ _ _ hheld)

theorem removeSubAdmins_gone {userIds : List Int} {names : List String}
    (hlisted : s.device.policies.Listed)
    (h : (removeSubAdmins build outcomes userIds s names).1 = ERR_OK) {name : String}
    (hmem : name ∈ names) (hname : name ≠ "") {u : Int} (hu : u ∈ userIds ∨ u = DEFAULT_USER_ID)
    {p : String} (hsave : build.plugins.needSave p = true) :
    ¬(removeSubAdmins build outcomes userIds s names).2.Holds u name p := by
  induction names generalizing s with
  | nil => cases hmem
  | cons first names ih =>
    rw [removeSubAdmins] at h ⊢
    have hfirst := @removeSubOrSuper_gone _ _ _ _ build outcomes s first userIds hlisted
    have hshrunk : Shrunk s
        (removeSubOrSuperAdminAndAdminPolicy build outcomes first s userIds).2 :=
      shrunk_removal.subOrSuper first userIds (.refl s)
    generalize removeSubOrSuperAdminAndAdminPolicy build outcomes first s userIds = r
      at h hfirst hshrunk ⊢
    obtain ⟨ret, s₁⟩ := r
    dsimp only at h hfirst hshrunk ⊢
    split at h <;> rename_i hret
    · exact absurd h del_admin_failed_ne
    · rw [if_neg hret]
      have hok : ret = ERR_OK := by simpa using hret
      by_cases hrest : name ∈ names
      · exact ih (hshrunk.listed hlisted) h hrest
      · obtain rfl := (List.mem_cons.mp hmem).resolve_right hrest
        intro hheld
        exact hfirst hname hok hu hsave
          ((shrunk_removal.subAdmins userIds names (.refl s₁)).holds _ _ _ hheld)

/-- The children of a removed super admin, and itself, hold nothing that their plugins save. -/
theorem removeSuper_gone (hlisted : s.device.policies.Listed)
    (h : (removeSuperAdminAndAdminPolicy build outcomes s bundleName).1 = ERR_OK) {name : String}
    (hmem : name ∈ familyNames s.container bundleName) (hname : name ≠ "") {u : Int}
    (hu : u ∈ getPolicyUserIds build s ∨ u = DEFAULT_USER_ID) {p : String}
    (hsave : build.plugins.needSave p = true) :
    ¬(removeSuperAdminAndAdminPolicy build outcomes s bundleName).2.Holds u name p := by
  unfold removeSuperAdminAndAdminPolicy at h ⊢
  have hchildren := @removeSubAdmins_gone _ _ _ _ build outcomes s (getPolicyUserIds build s)
    (AdminManager.getSubSuperAdminsByParentName s.container bundleName) hlisted
  have hshrunk : Shrunk s (removeSubAdmins build outcomes (getPolicyUserIds build s) s
      (AdminManager.getSubSuperAdminsByParentName s.container bundleName)).2 :=
    shrunk_removal.subAdmins _ _ (.refl s)
  unfold familyNames at hmem
  dsimp only at h ⊢
  generalize removeSubAdmins build outcomes (getPolicyUserIds build s) s
    (AdminManager.getSubSuperAdminsByParentName s.container bundleName) = r at h hchildren hshrunk ⊢
  obtain ⟨ret, s₁⟩ := r
  dsimp only at h hchildren hshrunk ⊢
  split at h <;> rename_i hret
  · exact absurd h (bne_iff_ne.mp hret)
  · rw [if_neg hret]
    have hok : ret = ERR_OK := by simpa [failed] using hret
    rcases List.mem_append.mp hmem with hchild | hself
    · intro hheld
      exact hchildren hok hchild hname hu hsave
        ((shrunk_removal.subOrSuper bundleName _ (.refl s₁)).holds _ _ _ hheld)
    · obtain rfl := List.mem_singleton.mp hself
      exact removeSubOrSuper_gone (hshrunk.listed hlisted) hname h hu hsave

end

end Edm
