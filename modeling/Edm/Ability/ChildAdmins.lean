import Edm.Ability.HoldingsRun
import Edm.Ability.PopulationRun
import Edm.Ability.Restrictions

/-! The admins below a super admin, and what becomes of them when it goes.  They are collected from
the default user, while a delegation stores them under the user in the foreground. -/

set_option autoImplicit false

namespace Edm

open Library Library.UnorderedMap EnterpriseDeviceMgrAbility

/-- A super admin of the device.  The empty name stands for no admin. -/
def AdminContainer.IsSuper (c : AdminContainer) (packageName : String) : Prop :=
  packageName ≠ "" ∧ ∃ item, item ∈ c.adminsOf DEFAULT_USER_ID ∧ item.adminType = .ent ∧
    item.packageName = packageName

def ServiceOp.keepsPolicies {Req Reply : Type} : ServiceOp Req Reply → Bool
  | .replaceSuperAdmin _ _ _ _ keepPolicy => keepPolicy
  | _ => false

section

variable {Modules Req Reply Event : Type}

/-- A super admin that a request takes away leaves no admin below it.  Unless the request keeps its
policies, those that were below it hold none. -/
def ServiceOp.LeavesNoOrphans (build : Build Modules Req Reply Event) (s : Service Modules)
    (op : ServiceOp Req Reply) : Prop :=
  ∀ superAdmin, s.container.IsSuper superAdmin →
    ¬(serviceStep build s op).container.IsSuper superAdmin →
    (∀ u item, item ∈ (serviceStep build s op).container.adminsOf u →
        item.parentAdminName ≠ superAdmin) ∧
      (op.keepsPolicies = false → ∀ u item, item ∈ s.container.adminsOf u →
        item.parentAdminName = superAdmin →
        ∀ v p, ¬(serviceStep build s op).Holds v item.packageName p)

/-- A removal finds the admins below a super admin: the default user has their packages below it, they
are of users that it visits, and their plugins save the policies that they hold. -/
structure FamilyCollected (build : Build Modules Req Reply Event) (s : Service Modules)
    (superAdmin : String) : Prop where
  listed : ∀ u item, item ∈ s.container.adminsOf u → item.parentAdminName = superAdmin →
    item.packageName ∈ familyNames s.container superAdmin
  visited : ∀ u item, item ∈ s.container.adminsOf u → item.parentAdminName = superAdmin →
    u ∈ s.policyUserIds ∨ u = DEFAULT_USER_ID
  named : ∀ u item, item ∈ s.container.adminsOf u → item.parentAdminName = superAdmin →
    item.packageName ≠ ""
  saved : ∀ u item, item ∈ s.container.adminsOf u → item.parentAdminName = superAdmin →
    ∀ v p, s.Holds v item.packageName p → build.plugins.needSave p = true

/-- The family of the super admin that a request takes away is found where the request looks for
it. -/
def ServiceOp.CollectsFamily (build : Build Modules Req Reply Event) (s : Service Modules) :
    ServiceOp Req Reply → Prop
  | .disableAdmin call admin userId =>
    ∀ deviceAdmin, AdminManager.getAdminByPkgName s.container admin.bundleName userId =
        some deviceAdmin →
      checkDisableAdmin build call deviceAdmin deviceAdmin.getAdminType = ERR_OK →
      s.container.IsSuper admin.bundleName → FamilyCollected build s admin.bundleName
  | .disableSuperAdmin call bundleName =>
    ∀ deviceAdmin, AdminManager.getAdminByPkgName s.container bundleName DEFAULT_USER_ID =
        some deviceAdmin →
      checkDisableAdmin build call deviceAdmin .ent = ERR_OK →
      s.container.IsSuper bundleName → FamilyCollected build s bundleName
  | .replaceSuperAdmin call _ oldAdmin newAdmin true =>
    ∀ info permission, checkReplaceAdmins call s oldAdmin newAdmin = .ok (info, permission) →
      ∀ u item, item ∈ s.container.adminsOf u → item.parentAdminName = oldAdmin.bundleName →
        u = DEFAULT_USER_ID ∧ AdminContainer.isChildOf oldAdmin.bundleName item = true
  | .replaceSuperAdmin call _ oldAdmin newAdmin false =>
    ∀ info permission, checkReplaceAdmins call s oldAdmin newAdmin = .ok (info, permission) →
      FamilyCollected build s oldAdmin.bundleName
  | .setDelegatedPolicies call parentAdmin bundleName policies =>
    ∀ adminItem, checkParentAdmin build call s parentAdmin bundleName = .ok adminItem →
      policies = [] → s.container.IsSuper bundleName →
      ∀ u item, item ∈ s.container.adminsOf u → item.parentAdminName ≠ bundleName
  | _ => True

end

/-! ### Super admins that stay -/

section

variable {c c' : AdminContainer} {superAdmin : String}

theorem isSuper_iff :
    c.IsSuper superAdmin ↔ superAdmin ≠ "" ∧ ∃ admin, admin ∈ c.population DEFAULT_USER_ID ∧
      admin.adminType = .ent ∧ admin.packageName = superAdmin := by
  refine and_congr_right fun _ => ⟨?_, ?_⟩
  · rintro ⟨item, hitem, htype, hname⟩
    exact ⟨item.id, AdminContainer.mem_population.mpr ⟨item, hitem, rfl⟩, htype, hname⟩
  · rintro ⟨admin, hadmin, htype, hname⟩
    obtain ⟨item, hitem, rfl⟩ := AdminContainer.mem_population.mp hadmin
    exact ⟨item, hitem, htype, hname⟩

theorem AdminContainer.IsSuper.grown {limit : Nat} {alone : Prop} (h : c.IsSuper superAdmin)
    (hgrown : c.population.Grown limit alone c'.population) : c'.IsSuper superAdmin := by
  obtain ⟨hne, admin, hadmin, htype, hname⟩ := isSuper_iff.mp h
  exact isSuper_iff.mpr ⟨hne, admin, hgrown.mem hadmin, htype, hname⟩

theorem AdminContainer.IsSuper.of_population (h : c.IsSuper superAdmin)
    (hsame : c'.population = c.population) : c'.IsSuper superAdmin := by
  rw [isSuper_iff] at h ⊢
  rw [hsame]
  exact h

/-- A lookup by the name of a super admin finds it, whatever the user. -/
theorem lookup_super {limit : Nat} (h : c.population.Orderly limit) (hsuper : c.IsSuper superAdmin)
    {u : Int} {admin : Admin}
    (hfound : AdminManager.getAdminByPkgName c superAdmin u = some admin) :
    admin.isSuperAdmin = true := by
  obtain ⟨-, item, hitem, htype, hname⟩ := hsuper
  have hmem : item.id ∈ c.population DEFAULT_USER_ID :=
    AdminContainer.mem_population.mpr ⟨item, hitem, rfl⟩
  have hhome : ∀ other : Admin, other ∈ AdminManager.getAdminByUserId c DEFAULT_USER_ID →
      other.adminInfo.packageName = superAdmin → other.isSuperAdmin = true := by
    intro other hother hotherName
    obtain ⟨otherItem, hotherItem, hcopy⟩ := AdminManager.mem_getAdminByUserId.mp hother
    have hid := AdminManager.createAdmin_id hcopy
    have heq : other.adminInfo.id = item.id := by
      rw [hid]
      refine h.eq_of_packageName (AdminContainer.mem_population.mpr ⟨otherItem, hotherItem, rfl⟩)
        hmem ?_
      exact (congrArg AdminId.packageName hid).symm.trans (hotherName.trans hname.symm)
    exact beq_iff_eq.mpr ((congrArg AdminId.adminType heq).trans htype)
  have hown : ∀ v, ((AdminManager.getAdminByUserId c v).find? fun admin =>
      admin.adminInfo.packageName == superAdmin) = some admin → v = DEFAULT_USER_ID →
      admin.isSuperAdmin = true := by
    rintro v hfind rfl
    have hname' := List.find?_some hfind
    exact hhome admin (List.mem_of_find?_eq_some hfind) (beq_iff_eq.mp hname')
  unfold AdminManager.getAdminByPkgName at hfound
  split at hfound
  · rename_i hu
    exact hown u hfound hu
  · cases hacross : AdminManager.getAllowedAcrossAccountSetPolicyAdmin c superAdmin with
    | some other =>
      rw [hacross, Option.some_or] at hfound
      obtain rfl := Option.some.inj hfound
      have hother := List.find?_some hacross
      rw [Bool.and_eq_true, beq_iff_eq] at hother
      exact hhome other (List.mem_of_find?_eq_some hacross) hother.1
    | none =>
      -- The super admin itself acts across accounts.
      obtain ⟨copy, hcopy⟩ := AdminManager.exists_copy h.known hitem
      have hid := AdminManager.createAdmin_id hcopy
      have hnone := List.find?_eq_none.mp hacross copy
        (AdminManager.mem_getAdminByUserId.mpr ⟨item, hitem, hcopy⟩)
      refine absurd ?_ hnone
      rw [AdminManager.isAllowedAcrossAccountSetPolicy_eq, hid,
        show copy.adminInfo.packageName = superAdmin from
          (congrArg AdminId.packageName hid).trans hname,
        show item.id.adminType = .ent from htype, beq_self_eq_true]
      rfl

end

/-! ### Removing a super admin -/

section

variable {Modules Req Reply Event : Type} {build : Build Modules Req Reply Event}
  {outcomes : RemovalOutcomes Reply} {call : ServiceCall Reply} {s s' : Service Modules}
  {superAdmin : String}

/-- No admin is below the super admin any more, and those that were hold no policy. -/
def FamilyGone (s s' : Service Modules) (superAdmin : String) : Prop :=
  (∀ u item, item ∈ s'.container.adminsOf u → item.parentAdminName ≠ superAdmin) ∧
    ∀ u item, item ∈ s.container.adminsOf u → item.parentAdminName = superAdmin →
      ∀ v p, ¬s'.Holds v item.packageName p

theorem mem_getPolicyUserIds (build : Build Modules Req Reply Event) (s : Service Modules)
    (u : Int) : u ∈ getPolicyUserIds build s ↔ u ∈ s.policyUserIds :=
  build.userOrder.mem_visit s.policyUserIds u

/-- A successful removal takes the family with it where it is collected. -/
theorem FamilyCollected.gone (h : FamilyCollected build s superAdmin) (hs : s.Sound)
    (hok : (removeSuperAdminAndAdminPolicy build outcomes s superAdmin).1 = ERR_OK) :
    FamilyGone s (removeSuperAdminAndAdminPolicy build outcomes s superAdmin).2 superAdmin := by
  have hremoved := removeSuper_ok hok
  have hshrunk : Shrunk s (removeSuperAdminAndAdminPolicy build outcomes s superAdmin).2 :=
    shrunk_removal.super superAdmin (.refl s)
  constructor
  · intro u item hitem hparent
    rw [hremoved u] at hitem
    split at hitem
    · obtain ⟨hold, hname⟩ := List.mem_filter.mp hitem
      rw [Bool.not_eq_true', List.contains_eq_mem, decide_eq_false_iff_not] at hname
      exact hname (h.listed u item hold hparent)
    · rename_i hu
      refine hu ((h.visited u item hitem hparent).imp_left fun hmem => ?_)
      exact (mem_getPolicyUserIds build s u).mpr hmem
  · intro u item hitem hparent v p hheld
    have hold := hshrunk.holds v item.packageName p hheld
    have hv := (hs.users v item.packageName p hold).imp_left
      fun hmem => (mem_getPolicyUserIds build s v).mpr hmem
    exact removeSuper_gone hs.listed hok (h.listed u item hitem hparent)
      (h.named u item hitem hparent) hv (h.saved u item hitem hparent v p hold) hheld

/-- The super admin is no child of another one. -/
theorem notMem_children (h : s.container.population.Orderly MAX_SDA_AND_DA_COUNT)
    (hsuper : s.container.IsSuper superAdmin) (parent : String) :
    superAdmin ∉ AdminManager.getSubSuperAdminsByParentName s.container parent := by
  intro hmem
  obtain ⟨-, item, hitem, htype, hname⟩ := hsuper
  unfold AdminManager.getSubSuperAdminsByParentName at hmem
  obtain ⟨child, hchild, hchildName⟩ := List.mem_map.mp hmem
  obtain ⟨hchild, hkind⟩ := List.mem_filter.mp hchild
  obtain ⟨childItem, hchildItem, hcopy⟩ := AdminManager.mem_getAdminByUserId.mp hchild
  have hid := AdminManager.createAdmin_id hcopy
  have heq : childItem.id = item.id :=
    h.eq_of_packageName (AdminContainer.mem_population.mpr ⟨childItem, hchildItem, rfl⟩)
      (AdminContainer.mem_population.mpr ⟨item, hitem, rfl⟩)
      ((congrArg AdminId.packageName hid).symm.trans (hchildName.trans hname.symm))
  have hent : child.getAdminType = .ent :=
    (congrArg AdminId.adminType (hid.trans heq)).trans htype
  rw [hent] at hkind
  cases hkind

theorem AdminContainer.IsSuper.trimmed {names : List String} {c c' : AdminContainer}
    (h : c.IsSuper superAdmin) (htrimmed : Trimmed names c c') (hname : superAdmin ∉ names) :
    c'.IsSuper superAdmin := by
  obtain ⟨hne, item, hitem, htype, hitemName⟩ := h
  exact ⟨hne, item, htrimmed.others _ item hitem (hitemName ▸ hname), htype, hitemName⟩

theorem AdminContainer.IsSuper.of_adminsOf {c c' : AdminContainer} (h : c.IsSuper superAdmin)
    (hsame : c'.adminsOf DEFAULT_USER_ID = c.adminsOf DEFAULT_USER_ID) : c'.IsSuper superAdmin := by
  unfold IsSuper at h ⊢
  rw [hsame]
  exact h

/-- A removal that takes a super admin away is that of the super admin, and succeeds. -/
theorem removeSuper_gone_iff (h : s.container.population.Orderly MAX_SDA_AND_DA_COUNT)
    (hs : s.Sound) (hsuper : s.container.IsSuper superAdmin) {bundleName : String}
    (hgone : ¬(removeSuperAdminAndAdminPolicy build outcomes s
      bundleName).2.container.IsSuper superAdmin) :
    bundleName = superAdmin ∧
      (removeSuperAdminAndAdminPolicy build outcomes s bundleName).1 = ERR_OK := by
  have hchild := notMem_children h hsuper bundleName
  have hname : bundleName = superAdmin := by
    by_contra hne
    refine hgone (hsuper.trimmed (removeSuper_trimmed s bundleName) fun hmem => ?_)
    rcases List.mem_append.mp hmem with hx | hx
    · exact hchild hx
    · exact hne (List.mem_singleton.mp hx).symm
  refine ⟨hname, ?_⟩
  subst hname
  by_contra hfailed
  refine hgone ?_
  have hchildren : ∀ userIds, (removeSubAdmins build outcomes userIds s
      (AdminManager.getSubSuperAdminsByParentName s.container bundleName)).2.container.IsSuper
      bundleName := fun userIds => hsuper.trimmed (removeSubAdmins_trimmed s userIds _) hchild
  have hdefault : DEFAULT_USER_ID ∉ getPolicyUserIds build s :=
    fun hmem => hs.default ((mem_getPolicyUserIds build s _).mp hmem)
  unfold removeSuperAdminAndAdminPolicy at hfailed ⊢
  have hchildren := hchildren (getPolicyUserIds build s)
  dsimp only at hfailed ⊢
  generalize removeSubAdmins build outcomes (getPolicyUserIds build s) s
    (AdminManager.getSubSuperAdminsByParentName s.container bundleName) = r at hfailed hchildren ⊢
  obtain ⟨ret, s₁⟩ := r
  dsimp only at hfailed hchildren ⊢
  split at hfailed <;> rename_i hret
  · rw [if_pos hret]
    exact hchildren
  · rw [if_neg hret]
    exact hchildren.of_adminsOf (removeSubOrSuper_failed hdefault hfailed)

/-- Disabling an admin takes a super admin away only when it is that one. -/
theorem doDisableAdmin_gone (h : s.container.population.Orderly MAX_SDA_AND_DA_COUNT)
    (hs : s.Sound) (hsuper : s.container.IsSuper superAdmin) {bundleName : String} {u userId : Int}
    {deviceAdmin : Admin}
    (hfound : AdminManager.getAdminByPkgName s.container bundleName u = some deviceAdmin)
    (hgone : ¬(doDisableAdmin build call s deviceAdmin userId).2.container.IsSuper superAdmin) :
    bundleName = superAdmin ∧
      (removeSuperAdminAndAdminPolicy build call.outcomes s superAdmin).1 = ERR_OK ∧
      (doDisableAdmin build call s deviceAdmin userId).2 =
        (removeSuperAdminAndAdminPolicy build call.outcomes s superAdmin).2 := by
  have hname := AdminManager.getAdminByPkgName_packageName hfound
  have hremoved : (doDisableAdmin build call s deviceAdmin userId).2 =
      (removeDisabledAdmin build call s deviceAdmin userId).2 := by
    unfold doDisableAdmin
    dsimp only
    split <;> rfl
  rw [hremoved] at hgone ⊢
  by_cases hdevice : deviceAdmin.isSuperAdmin = true
  · have hremove : removeDisabledAdmin build call s deviceAdmin userId =
        removeSuperAdminAndAdminPolicy build call.outcomes s bundleName := by
      unfold removeDisabledAdmin
      dsimp only
      rw [if_pos hdevice, hname]
    rw [hremove] at hgone ⊢
    obtain ⟨rfl, hok⟩ := removeSuper_gone_iff h hs hsuper hgone
    exact ⟨rfl, hok, rfl⟩
  · -- No other removal is about the package of a super admin.
    have hne : superAdmin ∉ [bundleName] := by
      intro hmem
      obtain rfl := List.mem_singleton.mp hmem
      exact hdevice (lookup_super h hsuper hfound)
    refine absurd (hsuper.trimmed ?_ hne) hgone
    unfold removeDisabledAdmin
    dsimp only
    rw [if_neg hdevice, hname]
    split
    · exact removeSubOrSuper_trimmed s bundleName _
    · exact removeAdminOfUser_trimmed s bundleName userId

/-! ### Replacing a super admin -/

/-- Setting an admin without a parent puts none below another. -/
theorem setAdminValue_parents {adminInfo : AdminInfo} {u v : Int} {item : AdminInfo}
    (hparent : adminInfo.parentAdminName = "")
    (h : item ∈ (setAdminValue build call s u adminInfo).2.container.adminsOf v)
    (hname : item.parentAdminName ≠ "") :
    ∃ old, old ∈ s.container.adminsOf v ∧ old.parentAdminName = item.parentAdminName := by
  rcases AdminManager.mem_setAdminValue h with hold | ⟨rfl, old, hold, -, rfl⟩ | ⟨-, -, rfl⟩
  · exact ⟨item, hold, rfl⟩
  · exact ⟨old, hold, rfl⟩
  · rw [AdminInfo.construct_parentAdminName] at hname
    exact absurd hparent hname

theorem AdminContainer.IsSuper.setAdminValue (h : s.container.IsSuper superAdmin)
    (hknown : s.container.population.Known) {u : Int} {adminInfo : AdminInfo}
    (htype : adminInfo.adminType ≠ .unknown) :
    (setAdminValue build call s u adminInfo).2.container.IsSuper superAdmin := by
  obtain ⟨hne, admin, hadmin, hent, hname⟩ := isSuper_iff.mp h
  refine isSuper_iff.mpr ⟨hne, admin, ?_, hent, hname⟩
  show admin ∈ (AdminManager.setAdminValue build.cjson s.device.admins call.write u
    adminInfo).2.container.population DEFAULT_USER_ID
  rcases AdminManager.population_setAdminValue hknown call.write u htype with
    hsame | ⟨-, -, hinserted⟩
  · rw [hsame]
    exact hadmin
  · rw [hinserted]
    exact Population.mem_insert.mpr (.inl hadmin)

/-- The admins after a super admin got another name: those below it in the default user follow. -/
theorem replaced_parents {C : CJson} {a : AdminState} {write : RdbOutcome} {parents : Option Nat}
    {packageName : String} {newAdminInfo : AdminInfo}
    (hok : (AdminManager.replaceSuperAdminByPackageName C a write parents packageName
      newAdminInfo).1 = ERR_OK)
    (hchildren : ∀ u item, item ∈ a.container.adminsOf u → item.parentAdminName = packageName →
      u = DEFAULT_USER_ID ∧ AdminContainer.isChildOf packageName item = true)
    (hnew : newAdminInfo.packageName ≠ packageName) {u : Int} {item : AdminInfo}
    (hitem : item ∈ (AdminManager.replaceSuperAdminByPackageName C a write parents packageName
      newAdminInfo).2.container.adminsOf u) : item.parentAdminName ≠ packageName := by
  have hreplaced := (AdminManager.replace_cases C a write parents packageName
    newAdminInfo).resolve_left fun hx => hx.1 hok
  rw [hreplaced.2, AdminContainer.adminsOf_updateParentAdminName] at hitem
  intro hparent
  split at hitem
  · rename_i hu
    subst hu
    rw [AdminContainer.adminsOf_updateAdmin, if_pos rfl, List.map_map] at hitem
    obtain ⟨old, hold, rfl⟩ := List.mem_map.mp hitem
    dsimp only [Function.comp_apply] at hparent
    have hsame : (if old.packageName = packageName then
        old.updated [.packageName, .className, .enableSource] newAdminInfo else old).parentAdminName =
          old.parentAdminName := by split <;> rfl
    have hkind : AdminContainer.isChildOf packageName (if old.packageName = packageName then
        old.updated [.packageName, .className, .enableSource] newAdminInfo else old) =
          AdminContainer.isChildOf packageName old := by split <;> rfl
    rw [hkind] at hparent
    split at hparent <;> rename_i hchild
    · exact hnew hparent
    · exact hchild (hchildren _ old hold (hsame.symm.trans hparent)).2
  · rename_i hu
    rw [AdminContainer.adminsOf_updateAdmin, if_neg hu] at hitem
    exact hu (hchildren u item hitem hparent).1

variable (h : s.container.population.Orderly MAX_SDA_AND_DA_COUNT)
  (hsuper : s.container.IsSuper superAdmin)

include h hsuper

/-- Only the super admin that is replaced can go. -/
theorem ReplaceChecked.eq_superAdmin {oldAdmin newAdmin : ElementName}
    {abilityInfo : String × String}
    (hchecked : ReplaceChecked s.container oldAdmin newAdmin abilityInfo) :
    superAdmin = oldAdmin.bundleName := by
  obtain ⟨-, admin, hadmin, hent, hname⟩ := isSuper_iff.mp hsuper
  exact hname.symm.trans (hchecked.eq_old h hadmin hent)

/-- A replacement that keeps the policies takes those below the super admin along. -/
theorem handleKeepPolicy_gone {keep : KeepOutcomes} {oldAdmin newAdmin : ElementName}
    {abilityInfo : String × String} {edmAdminInfo oldAdminInfo : AdminInfo}
    (hchecked : ReplaceChecked s.container oldAdmin newAdmin abilityInfo)
    (hnew : edmAdminInfo.packageName = newAdmin.bundleName)
    (hold : oldAdminInfo.packageName = oldAdmin.bundleName)
    (hchildren : ∀ u item, item ∈ s.container.adminsOf u →
      item.parentAdminName = oldAdmin.bundleName →
      u = DEFAULT_USER_ID ∧ AdminContainer.isChildOf oldAdmin.bundleName item = true)
    (hgone : ¬(handleKeepPolicy build s keep oldAdmin.bundleName newAdmin.bundleName edmAdminInfo
      oldAdminInfo).2.container.IsSuper superAdmin) {u : Int} {item : AdminInfo}
    (hitem : item ∈ (handleKeepPolicy build s keep oldAdmin.bundleName newAdmin.bundleName
      edmAdminInfo oldAdminInfo).2.container.adminsOf u) :
    item.parentAdminName ≠ superAdmin := by
  obtain rfl := hchecked.eq_superAdmin h hsuper
  have hfirst := AdminManager.population_replace build.cjson s.device.admins keep.replaceAdmin
    keep.parents oldAdmin.bundleName edmAdminInfo
  rcases handleKeepPolicy_admins build s keep oldAdmin.bundleName newAdmin.bundleName edmAdminInfo
    oldAdminInfo with ⟨-, hsame⟩ | ⟨hok, hdone⟩
  · rw [hsame] at hgone
    exact absurd hsuper hgone
  · have hrenamed := (hfirst.resolve_left fun hx => hx.1 hok).2
    rw [hnew] at hrenamed
    have hreplaced : (handleKeepPolicy build s keep oldAdmin.bundleName newAdmin.bundleName
        edmAdminInfo oldAdminInfo).2.container =
        (AdminManager.replaceSuperAdminByPackageName build.cjson s.device.admins keep.replaceAdmin
          keep.parents oldAdmin.bundleName edmAdminInfo).2.container := by
      rcases hdone with hkept | hreverted
      · exact congrArg AdminState.container hkept
      · rcases AdminManager.replace_cases build.cjson (AdminManager.replaceSuperAdminByPackageName
          build.cjson s.device.admins keep.replaceAdmin keep.parents oldAdmin.bundleName
          edmAdminInfo).2 keep.revertAdmin keep.revertParents newAdmin.bundleName oldAdminInfo with
          ⟨-, hback⟩ | ⟨hbackOk, -⟩
        · exact (congrArg AdminState.container hreverted).trans hback
        · -- The super admin has its name back.
          have hback := (AdminManager.population_replace build.cjson _ keep.revertAdmin
            keep.revertParents newAdmin.bundleName oldAdminInfo).resolve_left
            fun hx => hx.1 hbackOk
          refine absurd (hsuper.of_population ?_) hgone
          unfold Service.container
          rw [hreverted, hback.2, hrenamed, hold]
          exact Population.rename_rename (hchecked.new_absent h)
    rw [hreplaced] at hgone hitem
    refine replaced_parents hok hchildren ?_ hitem
    rw [hnew]
    intro heq
    refine hgone (hsuper.of_population ?_)
    rw [hrenamed, heq, Population.rename_self]

/-- A replacement that does not keep the policies removes those below the super admin. -/
theorem replaceSuperAdmin_gone (hs : s.Sound) {keep : KeepOutcomes}
    {oldAdmin newAdmin : ElementName}
    (hcollected : ∀ info permission,
      checkReplaceAdmins call s oldAdmin newAdmin = .ok (info, permission) →
      FamilyCollected build s oldAdmin.bundleName)
    (hgone : ¬(replaceSuperAdmin build call s keep oldAdmin newAdmin false).2.container.IsSuper
      superAdmin) :
    FamilyGone s (replaceSuperAdmin build call s keep oldAdmin newAdmin false).2 superAdmin := by
  unfold replaceSuperAdmin at hgone ⊢
  split at hgone
  · exact absurd hsuper hgone
  · rename_i bundleName name permission hcheck
    split at hgone <;> rename_i hmode
    · exact absurd hsuper hgone
    · rw [if_neg hmode]
      split at hgone
      · exact absurd hsuper hgone
      · rename_i adminPtr hfound
        dsimp only at hgone ⊢
        rw [if_neg Bool.false_ne_true] at hgone ⊢
        have hremoved : s.container.population.Removed
            (doDisableAdmin build call s adminPtr DEFAULT_USER_ID).2.container.population :=
          keptByRemoval_removed.disable _ _ .refl
        have hfamily : ¬(doDisableAdmin build call s adminPtr DEFAULT_USER_ID).2.container.IsSuper
            superAdmin → FamilyGone s (doDisableAdmin build call s adminPtr DEFAULT_USER_ID).2
            superAdmin := by
          intro hgone'
          obtain ⟨rfl, hok, hsame⟩ := doDisableAdmin_gone h hs hsuper hfound hgone'
          rw [hsame]
          exact (hcollected _ _ hcheck).gone hs hok
        generalize doDisableAdmin build call s adminPtr DEFAULT_USER_ID = r
          at hgone hremoved hfamily ⊢
        obtain ⟨res, s₁⟩ := r
        dsimp only at hgone hremoved hfamily ⊢
        split at hgone <;> rename_i hres
        · rw [if_pos hres]
          exact hfamily hgone
        · rw [if_neg hres]
          have hset : ∀ adminInfo : AdminInfo, adminInfo.adminType = .ent →
              adminInfo.parentAdminName = "" →
              ¬(setAdminValue build call s₁ DEFAULT_USER_ID adminInfo).2.container.IsSuper
                superAdmin →
              FamilyGone s (setAdminValue build call s₁ DEFAULT_USER_ID adminInfo).2 superAdmin := by
            intro adminInfo hent hparent hgone'
            have hgone₁ : ¬s₁.container.IsSuper superAdmin := by
              intro hstill
              refine hgone' (hstill.setAdminValue (hremoved.orderly h).known ?_)
              rw [hent]
              simp
            obtain ⟨hparents, hpolicies⟩ := hfamily hgone₁
            refine ⟨fun u item hitem hx => ?_, hpolicies⟩
            have hne : item.parentAdminName ≠ "" := fun hx' => hsuper.1 (hx.symm.trans hx')
            obtain ⟨old, hold, hsame⟩ := setAdminValue_parents hparent hitem hne
            exact hparents u old hold (hsame.trans hx)
          split at hgone <;> rename_i hret
          · rw [if_pos hret]
            exact hset _ rfl rfl hgone
          · rw [if_neg hret]
            exact hset _ rfl rfl hgone

/-- A replacement that keeps the policies. -/
theorem replaceSuperAdmin_kept_gone {keep : KeepOutcomes} {oldAdmin newAdmin : ElementName}
    (hchildren : ∀ info permission,
      checkReplaceAdmins call s oldAdmin newAdmin = .ok (info, permission) →
      ∀ u item, item ∈ s.container.adminsOf u → item.parentAdminName = oldAdmin.bundleName →
        u = DEFAULT_USER_ID ∧ AdminContainer.isChildOf oldAdmin.bundleName item = true)
    (hgone : ¬(replaceSuperAdmin build call s keep oldAdmin newAdmin true).2.container.IsSuper
      superAdmin) :
    ∀ u item, item ∈ (replaceSuperAdmin build call s keep oldAdmin newAdmin
      true).2.container.adminsOf u → item.parentAdminName ≠ superAdmin := by
  unfold replaceSuperAdmin at hgone ⊢
  split at hgone
  · exact absurd hsuper hgone
  · rename_i bundleName name permission hcheck
    have hchecked := checkReplaceAdmins_ok hcheck
    split at hgone <;> rename_i hmode
    · exact absurd hsuper hgone
    · rw [if_neg hmode]
      split at hgone
      · exact absurd hsuper hgone
      · rename_i adminPtr hfound
        dsimp only at hgone ⊢
        rw [if_pos rfl] at hgone ⊢
        intro u item hitem
        exact handleKeepPolicy_gone h hsuper hchecked hchecked.bundleName
          (AdminManager.getAdminByPkgName_packageName hfound) (hchildren _ _ hcheck) hgone hitem

/-! ### Disabling, and taking a delegation back -/

theorem disableAdmin_gone (hs : s.Sound) {admin : ElementName} {userId : Int}
    (hcollected : ∀ deviceAdmin,
      AdminManager.getAdminByPkgName s.container admin.bundleName userId = some deviceAdmin →
      checkDisableAdmin build call deviceAdmin deviceAdmin.getAdminType = ERR_OK →
      s.container.IsSuper admin.bundleName → FamilyCollected build s admin.bundleName)
    (hgone : ¬(disableAdmin build call s admin userId).2.container.IsSuper superAdmin) :
    FamilyGone s (disableAdmin build call s admin userId).2 superAdmin := by
  unfold disableAdmin at hgone ⊢
  split at hgone
  · exact absurd hsuper hgone
  · rename_i deviceAdmin hfound
    dsimp only at hgone ⊢
    split at hgone <;> rename_i hret
    · exact absurd hsuper hgone
    · rw [if_neg hret]
      obtain ⟨rfl, hok, hsame⟩ := doDisableAdmin_gone h hs hsuper hfound hgone
      rw [hsame]
      exact (hcollected deviceAdmin hfound
        (bne_eq_false_iff_eq.mp (Bool.eq_false_iff.mpr hret)) hsuper).gone hs hok

theorem disableSuperAdmin_gone (hs : s.Sound) {bundleName : String}
    (hcollected : ∀ deviceAdmin,
      AdminManager.getAdminByPkgName s.container bundleName DEFAULT_USER_ID = some deviceAdmin →
      checkDisableAdmin build call deviceAdmin .ent = ERR_OK →
      s.container.IsSuper bundleName → FamilyCollected build s bundleName)
    (hgone : ¬(disableSuperAdmin build call s bundleName).2.container.IsSuper superAdmin) :
    FamilyGone s (disableSuperAdmin build call s bundleName).2 superAdmin := by
  unfold disableSuperAdmin at hgone ⊢
  split at hgone
  · exact absurd hsuper hgone
  · rename_i deviceAdmin hfound
    dsimp only at hgone ⊢
    split at hgone <;> rename_i hret
    · exact absurd hsuper hgone
    · rw [if_neg hret]
      obtain ⟨rfl, hok, hsame⟩ := doDisableAdmin_gone h hs hsuper hfound hgone
      rw [hsame]
      exact (hcollected deviceAdmin hfound
        (bne_eq_false_iff_eq.mp (Bool.eq_false_iff.mpr hret)) hsuper).gone hs hok

/-- Only device admins are disabled as such. -/
theorem AdminContainer.IsSuper.disableDeviceAdmin (hs : s.Sound) {admin : ElementName} :
    (disableDeviceAdmin build call s admin).2.container.IsSuper superAdmin := by
  unfold EnterpriseDeviceMgrAbility.disableDeviceAdmin
  split
  · exact hsuper
  · rename_i deviceAdmin hfound
    dsimp only
    split <;> rename_i hret
    · exact hsuper
    · by_contra hgone
      obtain ⟨rfl, -, -⟩ := doDisableAdmin_gone h hs hsuper hfound hgone
      have hent : deviceAdmin.getAdminType = .ent := beq_iff_eq.mp (lookup_super h hsuper hfound)
      refine hret ?_
      have hinactive : failed EdmReturnErrCode.ADMIN_INACTIVE = true := by decide
      have hpermission : failed EdmReturnErrCode.ADMIN_EDM_PERMISSION_DENIED = true := by decide
      have hdenied : failed EdmReturnErrCode.PERMISSION_DENIED = true := by decide
      have hdisable : failed EdmReturnErrCode.DISABLE_ADMIN_FAILED = true := by decide
      unfold checkDisableDeviceAdmin
      dsimp only
      split
      · exact hinactive
      · split
        · exact hpermission
        · split
          · exact hdenied
          · rw [hent, if_pos (by decide)]
            exact hdisable

omit h

theorem revokeDelegatedPolicies_gone {parentAdmin : ElementName} {bundleName : String}
    (hchildless : ∀ adminItem, checkParentAdmin build call s parentAdmin bundleName = .ok adminItem →
      [] = ([] : List String) → s.container.IsSuper bundleName →
      ∀ u item, item ∈ s.container.adminsOf u → item.parentAdminName ≠ bundleName)
    (hgone : ¬(setDelegatedPolicies build call s parentAdmin bundleName
      []).2.container.IsSuper superAdmin) :
    FamilyGone s (setDelegatedPolicies build call s parentAdmin bundleName []).2 superAdmin := by
  unfold setDelegatedPolicies at hgone ⊢
  split at hgone <;> rename_i hlength
  · exact absurd hsuper hgone
  · rw [if_neg hlength]
    split at hgone
    · exact absurd hsuper hgone
    · rename_i adminItem hparent
      have htrimmed := @removeSubOrSuper_trimmed _ _ _ _ build call.outcomes s bundleName
        (getPolicyUserIds build s)
      have hname : superAdmin ∈ [bundleName] := by
        by_contra hne
        exact hgone (hsuper.trimmed htrimmed hne)
      obtain rfl := List.mem_singleton.mp hname
      have hnone := hchildless adminItem hparent rfl hsuper
      exact ⟨fun u item hitem => hnone u item (htrimmed.subset u item hitem),
        fun u item hitem hx => absurd hx (hnone u item hitem)⟩

end

/-! ### Runs -/

section

variable {Modules Req Reply Event : Type} {build : Build Modules Req Reply Event}
  {s : Service Modules}

theorem FamilyGone.leaves {op : ServiceOp Req Reply} {superAdmin : String}
    (h : FamilyGone s (serviceStep build s op) superAdmin) :
    (∀ u item, item ∈ (serviceStep build s op).container.adminsOf u →
        item.parentAdminName ≠ superAdmin) ∧
      (op.keepsPolicies = false → ∀ u item, item ∈ s.container.adminsOf u →
        item.parentAdminName = superAdmin →
        ∀ v p, ¬(serviceStep build s op).Holds v item.packageName p) :=
  ⟨h.1, fun _ => h.2⟩

/-- A request that collects the family of the super admin that it takes away leaves no orphans. -/
theorem leavesNoOrphans_step (h : s.container.population.Orderly MAX_SDA_AND_DA_COUNT)
    (hs : s.Sound) (op : ServiceOp Req Reply) (hcollects : op.CollectsFamily build s) :
    op.LeavesNoOrphans build s := by
  intro superAdmin hsuper hgone
  have hgrown : ∀ {alone : Prop}, s.container.population.Grown MAX_SDA_AND_DA_COUNT alone
      (serviceStep build s op).container.population → False :=
    fun hx => hgone (hsuper.grown hx)
  have hsame : (serviceStep build s op).container.population = s.container.population → False :=
    fun hx => hgone (hsuper.of_population hx)
  cases op with
  | enableAdmin => exact (hgrown (enableAdmin_grown h False.elim)).elim
  | enableDeviceAdmin => exact (hgrown (enableDeviceAdmin_grown h False.elim)).elim
  | authorizeAdmin => exact (hgrown (authorizeAdmin_grown h False.elim)).elim
  | setAdminRunningMode => exact (hgrown (setAdminRunningMode_grown h False.elim)).elim
  | setDelegatedPolicies call parentAdmin bundleName policies =>
    by_cases hpolicies : policies = []
    · subst hpolicies
      have hfamily : FamilyGone s (serviceStep build s
          (.setDelegatedPolicies call parentAdmin bundleName [])) superAdmin :=
        revokeDelegatedPolicies_gone hsuper hcollects hgone
      exact hfamily.leaves
    · exact (hgrown (setDelegatedPolicies_grown h hpolicies False.elim)).elim
  | setDelegatedPoliciesOfUser =>
    exact (hgrown (setDelegatedPoliciesOfUser_grown h False.elim)).elim
  | disableAdmin call admin userId =>
    have hfamily : FamilyGone s (serviceStep build s (.disableAdmin call admin userId))
        superAdmin := disableAdmin_gone h hsuper hs hcollects hgone
    exact hfamily.leaves
  | disableSuperAdmin call bundleName =>
    have hfamily : FamilyGone s (serviceStep build s (.disableSuperAdmin call bundleName))
        superAdmin := disableSuperAdmin_gone h hsuper hs hcollects hgone
    exact hfamily.leaves
  | disableDeviceAdmin call admin =>
    have hstays : (serviceStep build s (.disableDeviceAdmin call admin)).container.IsSuper
        superAdmin := hsuper.disableDeviceAdmin h hs
    exact absurd hstays hgone
  | replaceSuperAdmin call keep oldAdmin newAdmin keepPolicy =>
    cases keepPolicy with
    | false =>
      have hfamily : FamilyGone s (serviceStep build s
          (.replaceSuperAdmin call keep oldAdmin newAdmin false)) superAdmin :=
        replaceSuperAdmin_gone h hsuper hs hcollects hgone
      exact hfamily.leaves
    | true =>
      have hparents := replaceSuperAdmin_kept_gone h hsuper hcollects hgone
      exact ⟨hparents, fun hkeeps => Bool.noConfusion hkeeps⟩
  | handleDevicePolicy call writes code bundleName permissionTag userId request =>
    exact (hsame (congrArg (fun admins : AdminState => admins.container.population)
      (setDevicePolicy_admins call s writes code bundleName permissionTag userId request))).elim
  | subscribeManagedEvent => exact (hsame subscribeManagedEvent_population).elim
  | unsubscribeManagedEvent => exact (hsame unsubscribeManagedEvent_population).elim
  | restoreSubscriptions => exact (hsame rfl).elim
  | interceptHandled => exact (hsame onInterceptHandled_population).elim

/-- In a run whose requests all collect the family of the super admin that they take away, none leaves
orphans. -/
theorem no_orphans (modules : Modules) (ops : List (ServiceOp Req Reply))
    (h : Each (serviceStep build) (fun s op => op.CollectsFamily build s) (Service.boot modules)
      ops) :
    Each (serviceStep build) (fun s op => op.LeavesNoOrphans build s) (Service.boot modules) ops := by
  have hboot : (Service.boot modules).container.population.Orderly MAX_SDA_AND_DA_COUNT := by
    rw [population_boot]
    exact Population.orderly_empty _
  exact each_of_each
    (I := fun s => s.container.population.Orderly MAX_SDA_AND_DA_COUNT ∧ s.Sound)
    (fun s op hI _ => ⟨orderly_step s op hI.1, sound_step s op hI.2⟩)
    (fun s op hI hcollects => leavesNoOrphans_step hI.1 hI.2 op hcollects)
    ⟨hboot, sound_boot modules⟩ h

end

/-! ### A family in one user, and a child in another -/

namespace ChildAdminsRun

open BasicBoolPlugin

def build := Build.restricting [disallowUnmuteDevicePlugin]

/-- The settings enable a super admin. -/
def enableSuper (packageName : String) : ServiceOp Request Answers :=
  .enableAdmin (.agreeing .agreeing "com.settings" 100) ⟨packageName, "Ability"⟩ {} .ent 100
    EdmPermission.PERMISSION_MANAGE_ENTERPRISE_DEVICE_ADMIN .deploy

/-- An admin delegates a policy while a user is in the foreground. -/
def delegate (parent bundleName : String) (userId : Int) : ServiceOp Request Answers :=
  .setDelegatedPolicies (.agreeing .agreeing parent userId) ⟨parent, "Ability"⟩ bundleName
    [PolicyName.POLICY_DISALLOW_UNMUTE_DEVICE]

/-- The settings disable a super admin. -/
def disable (bundleName : String) : ServiceOp Request Answers :=
  .disableSuperAdmin (.agreeing .agreeing "com.settings" 100) bundleName

/-- The child is of the default user. -/
theorem family_removed :
    Each (serviceStep build) (fun s op => op.LeavesNoOrphans build s) (Service.boot switchesOff)
      [enableSuper "com.acme", delegate "com.acme" "com.app" 100, disable "com.acme"] := by
  refine no_orphans switchesOff _ ⟨trivial, ?_, ?_, trivial⟩
  · intro adminItem _ hpolicies
    cases hpolicies
  · intro deviceAdmin _ _ _
    generalize hs : serviceStep build (serviceStep build (Service.boot switchesOff)
      (enableSuper "com.acme")) (delegate "com.acme" "com.app" 100) = s
    have hitem : ∀ u item, item ∈ s.container.adminsOf u → item.parentAdminName = "com.acme" →
        u = DEFAULT_USER_ID ∧ item.packageName = "com.app" := by
      intro u item hitem hparent
      have hcontainer : s.container =
          (AdminContainer.setAdminByUserId ∅ 100
            { packageName := "com.acme", className := "Ability", adminType := .ent }).setAdminByUserId
            100
            { packageName := "com.app", parentAdminName := "com.acme", adminType := .virtualAdmin
              accessiblePolicies := [PolicyName.POLICY_DISALLOW_UNMUTE_DEVICE] } := hs ▸ rfl
      rw [hcontainer, AdminContainer.adminsOf, AdminContainer.lookup_setAdminByUserId] at hitem
      split at hitem <;> rename_i hu
      · refine ⟨hu.1, ?_⟩
        rcases List.mem_append.mp hitem with hsuper | hchild
        · rw [AdminContainer.adminsOf, AdminContainer.lookup_setAdminByUserId,
            if_pos ⟨hu.1, by decide⟩] at hsuper
          obtain rfl := List.mem_singleton.mp hsuper
          exact absurd hparent (by decide)
        · obtain rfl := List.mem_singleton.mp hchild
          rfl
      · rw [AdminContainer.lookup_setAdminByUserId,
          if_neg fun hx => hu ⟨hx.1, by decide⟩] at hitem
        exact absurd hitem List.not_mem_nil
    have hholds : ∀ v x p, ¬s.Holds v x p := by
      intro v x p hheld
      rw [← hs] at hheld
      exact hheld rfl
    exact
      { listed := fun u item hmem hparent => by
          rw [(hitem u item hmem hparent).2, ← hs]
          decide
        visited := fun u item hmem hparent => .inr (hitem u item hmem hparent).1
        named := fun u item hmem hparent => by
          rw [(hitem u item hmem hparent).2]
          decide
        saved := fun u item _ _ v p hheld => absurd hheld (hholds v _ p) }

/-- The child is of the user in the foreground, and the removal looks at the default user. -/
theorem child_left_behind :
    ¬∀ ops, Each (serviceStep build) (fun s op => op.LeavesNoOrphans build s)
      (Service.boot switchesOff) ops := by
  intro h
  have hleaves := (h [enableSuper "com.acme", delegate "com.acme" "com.app" 101,
    disable "com.acme"]).2.2.1 "com.acme" ?_ ?_
  · refine hleaves.1 101
      { packageName := "com.app", parentAdminName := "com.acme", adminType := .virtualAdmin
        accessiblePolicies := [PolicyName.POLICY_DISALLOW_UNMUTE_DEVICE] } ?_ rfl
    decide
  · refine ⟨by decide, _, List.mem_cons_self, rfl, rfl⟩
  · rintro ⟨-, item, hitem, -⟩
    exact absurd hitem List.not_mem_nil

end ChildAdminsRun

end Edm
