import Edm.Ability.AdminPopulation

/-! What each request makes of the population of the admins, and what holds of the admins in every
state of a run. -/

set_option autoImplicit false

namespace Edm

open Library EnterpriseDeviceMgrAbility

variable {Modules Req Reply Event : Type} {build : Build Modules Req Reply Event}

/-- An admin that acts across accounts is written for the default user, who has none of the package,
only when no other user has one. -/
def AddsAlone (c : AdminContainer) (write : RdbOutcome) (u : Int) (item : AdminInfo) : Prop :=
  write = .done → u = DEFAULT_USER_ID → item.adminType.isAllowedAcrossAccountSetPolicy = true →
    AdminManager.getAdminByPkgName c item.packageName DEFAULT_USER_ID = none →
    ∀ v other, v ≠ DEFAULT_USER_ID → other ∈ c.adminsOf v → other.packageName ≠ item.packageName

/-- The admin that a request is about to write, where its checks let it, is added alone.  A replacement
gives the super admin a name that no other user has. -/
def ServiceOp.AddsAlone (build : Build Modules Req Reply Event) (s : Service Modules) :
    ServiceOp Req Reply → Prop
  | .enableAdmin call admin entInfo type userId permission enableSource =>
    ∀ saveUserId item,
      checkEnableAdmin build call s admin entInfo type userId permission enableSource =
        .ok (saveUserId, item) → Edm.AddsAlone s.container call.write saveUserId item
  | .enableDeviceAdmin call admin =>
    ∀ item, checkDeviceAdmin build call s admin = .ok (some item) →
      Edm.AddsAlone s.container call.write DEFAULT_USER_ID item
  | .authorizeAdmin call admin bundleName =>
    ∀ item, checkAuthorizeAdmin build call s admin bundleName = .ok item →
      Edm.AddsAlone s.container call.write DEFAULT_USER_ID item
  | .setAdminRunningMode call admin runningMode =>
    ∀ item, checkAdminRunningMode call s admin runningMode = .ok item →
      Edm.AddsAlone s.container call.write DEFAULT_USER_ID item
  | .setDelegatedPolicies call parentAdmin bundleName policies =>
    ∀ adminItem item, checkParentAdmin build call s parentAdmin bundleName = .ok adminItem →
      policies ≠ [] →
      checkVirtualAdmin build call adminItem parentAdmin.bundleName bundleName policies = .ok item →
      Edm.AddsAlone s.container call.write call.managers.getCurrentUserId item
  | .setDelegatedPoliciesOfUser call bundleName policies userId =>
    ∀ item, checkDelegatedPoliciesOfUser call s bundleName policies userId = .ok item →
      Edm.AddsAlone s.container call.write userId item
  | .replaceSuperAdmin call _ oldAdmin newAdmin _ =>
    ∀ info permission, checkReplaceAdmins call s oldAdmin newAdmin = .ok (info, permission) →
      newAdmin.bundleName ≠ oldAdmin.bundleName →
      ∀ v other, v ≠ DEFAULT_USER_ID → other ∈ s.container.adminsOf v →
        other.packageName ≠ newAdmin.bundleName
  | _ => True

section

variable {call : ServiceCall Reply} {s : Service Modules} {alone : Prop} {p : Population}

theorem alone_iff {c : AdminContainer} {packageName : String} :
    c.population.Alone packageName ↔
      ∀ v other, v ≠ DEFAULT_USER_ID → other ∈ c.adminsOf v → other.packageName ≠ packageName := by
  constructor
  · intro h v other hv hother
    exact h v other.id hv (AdminContainer.mem_population.mpr ⟨other, hother, rfl⟩)
  · intro h v admin hv hadmin
    obtain ⟨other, hother, rfl⟩ := AdminContainer.mem_population.mp hadmin
    exact h v other hv hother

/-- Writing an admin adds it, where it can be added when it is absent. -/
theorem setAdminValue_grown (hknown : s.container.population.Known) {u : Int} {item : AdminInfo}
    (htype : item.adminType ≠ .unknown)
    (hadmin : (∀ other, other ∈ s.container.population.visible u →
      other.packageName ≠ item.packageName) →
      s.container.population.Insertable MAX_SDA_AND_DA_COUNT u item.id)
    (halone : alone → AddsAlone s.container call.write u item) :
    s.container.population.Grown MAX_SDA_AND_DA_COUNT alone
      (setAdminValue build call s u item).2.container.population := by
  have hcontainer : (setAdminValue build call s u item).2.container =
      (AdminManager.setAdminValue build.cjson s.device.admins call.write u item).2.container := rfl
  rw [hcontainer]
  rcases AdminManager.population_setAdminValue hknown call.write u htype with
    hsame | ⟨hwrite, habsent, hinserted⟩
  · exact .of_eq hsame
  · rw [hinserted]
    refine .inserted (hadmin habsent) fun h hu hacross => alone_iff.mpr ?_
    subst hu
    exact halone h hwrite rfl hacross ((AdminManager.getAdminByPkgName_eq_none hknown).mpr habsent)

theorem count_eq (c : AdminContainer) :
    c.getSuperDeviceAdminAndDeviceAdminCount =
      (c.population DEFAULT_USER_ID).countP AdminId.isCounted :=
  AdminContainer.getSuperDeviceAdminAndDeviceAdminCount_eq

theorem EnableChecked.insertable {admin : ElementName} {type : AdminType} {userId : Int}
    {isDebug : Bool} {saveUserId : Int} {adminInfo : AdminInfo}
    (h : EnableChecked s.container admin type userId isDebug saveUserId adminInfo)
    (hknown : s.container.population.Known)
    (habsent : ∀ other, other ∈ s.container.population.visible saveUserId →
      other.packageName ≠ adminInfo.packageName) :
    s.container.population.Insertable MAX_SDA_AND_DA_COUNT saveUserId adminInfo.id where
  known := by
    show adminInfo.adminType ≠ .unknown
    rw [h.adminType]
    rcases h.enabled with rfl | rfl | rfl <;> simp
  home hu := by
    refine .inl (h.adminType.trans ?_)
    rcases h.enabled with rfl | rfl | rfl
    · exact absurd h.saveUser hu
    · exact absurd h.saveUser hu
    · rfl
  absent := habsent
  apart other hother _ _ := by
    show other.isDebug = adminInfo.isDebug
    rw [isExistTargetAdmin_eq_false h.others hother, h.debug, Bool.not_not]
  single other hother hofficial := by
    have hent : type = .ent := h.adminType.symm.trans hofficial.1
    have hdebug : isDebug = false := h.debug.symm.trans hofficial.2
    refine isSuperAdminExist_eq_false hknown ?_ hother
    by_contra hexist
    refine h.only hdebug hent (Bool.not_eq_false _ ▸ hexist) ?_
    have hsave : saveUserId = DEFAULT_USER_ID := by
      rw [h.saveUser, hent]
      rfl
    rw [AdminManager.getAdminByPkgName_eq_none hknown, h.superUser hent, ← hsave, ← h.packageName]
    exact habsent
  counted _ := by
    rw [← count_eq]
    exact h.limit

/-- An admin that is neither super admin nor device admin can be added where it is absent. -/
theorem insertable_of_type {u : Int} {admin : AdminId}
    (htype : admin.adminType = .byod ∨ admin.adminType = .virtualAdmin ∨
      u = DEFAULT_USER_ID ∧ admin.adminType = .subSuperAdmin)
    (habsent : ∀ other, other ∈ p.visible u → other.packageName ≠ admin.packageName) :
    p.Insertable MAX_SDA_AND_DA_COUNT u admin where
  known := by rcases htype with h | h | ⟨-, h⟩ <;> rw [h] <;> simp
  home hu := by
    rcases htype with h | h | ⟨h, -⟩
    · exact .inl h
    · exact .inr h
    · exact absurd h hu
  absent := habsent
  apart _ _ hent := by rcases htype with h | h | ⟨-, h⟩ <;> rw [h] at hent <;> cases hent
  single _ _ hofficial := by
    have hent := hofficial.1
    rcases htype with h | h | ⟨-, h⟩ <;> rw [h] at hent <;> cases hent
  counted hcounted := by
    unfold AdminId.isCounted at hcounted
    rcases htype with h | h | ⟨-, h⟩ <;> rw [h] at hcounted <;> cases hcounted

/-- The removal of admins, whether it succeeds or not. -/
theorem keptByRemoval_removed {outcomes : RemovalOutcomes Reply} :
    KeptByRemoval build outcomes fun s => p.Removed s.container.population := by
  intro s adminName userId hs
  rcases @removeAdminOfUser_cases _ _ _ _ build outcomes s adminName userId with
    ⟨-, hadmins, -⟩ | ⟨-, hadmins, -⟩
  · unfold Service.container
    rw [hadmins]
    exact hs
  · unfold Service.container
    rw [hadmins]
    rcases AdminManager.population_deleteAdmin s.device.admins .done adminName userId with
      hsame | hdone
    · rw [hsame]
      exact hs
    · rw [hdone]
      exact .remove hs adminName userId

theorem doDisableAdmin_move (admin : Admin) (userId : Int) :
    s.container.population.Move MAX_SDA_AND_DA_COUNT alone
      (doDisableAdmin build call s admin userId).2.container.population :=
  (keptByRemoval_removed.disable admin userId .refl).move

theorem disableAdmin_move (admin : ElementName) (userId : Int) :
    s.container.population.Move MAX_SDA_AND_DA_COUNT alone
      (disableAdmin build call s admin userId).2.container.population := by
  unfold disableAdmin
  split
  · exact .same rfl
  · dsimp only
    split
    · exact .same rfl
    · exact doDisableAdmin_move _ _

theorem disableSuperAdmin_move (bundleName : String) :
    s.container.population.Move MAX_SDA_AND_DA_COUNT alone
      (disableSuperAdmin build call s bundleName).2.container.population := by
  unfold disableSuperAdmin
  split
  · exact .same rfl
  · dsimp only
    split
    · exact .same rfl
    · exact doDisableAdmin_move _ _

theorem disableDeviceAdmin_move (admin : ElementName) :
    s.container.population.Move MAX_SDA_AND_DA_COUNT alone
      (disableDeviceAdmin build call s admin).2.container.population := by
  unfold disableDeviceAdmin
  split
  · exact .same rfl
  · dsimp only
    split
    · exact .same rfl
    · exact doDisableAdmin_move _ _

/-! ### The requests that write an admin -/

variable (h : s.container.population.Orderly MAX_SDA_AND_DA_COUNT)

include h

theorem enableAdmin_grown {admin : ElementName} {entInfo : EntInfo} {type : AdminType}
    {userId : Int} {permission : String} {enableSource : EnableSource}
    (halone : alone → ∀ saveUserId item,
      checkEnableAdmin build call s admin entInfo type userId permission enableSource =
        .ok (saveUserId, item) → AddsAlone s.container call.write saveUserId item) :
    s.container.population.Grown MAX_SDA_AND_DA_COUNT alone
      (enableAdminWithPermission build call s admin entInfo type userId permission
        enableSource).2.container.population := by
  unfold enableAdminWithPermission
  split
  · exact .same
  · rename_i saveUserId adminInfo hcheck
    have hchecked := checkEnableAdmin_ok hcheck
    have hmove := @setAdminValue_grown _ _ _ _ build call s alone h.known saveUserId adminInfo
      (by rw [hchecked.adminType]; rcases hchecked.enabled with rfl | rfl | rfl <;> simp)
      (hchecked.insertable h.known) fun ha => halone ha _ _ hcheck
    dsimp only
    split <;> exact hmove

theorem enableDeviceAdmin_grown {admin : ElementName}
    (halone : alone → ∀ item, checkDeviceAdmin build call s admin = .ok (some item) →
      AddsAlone s.container call.write DEFAULT_USER_ID item) :
    s.container.population.Grown MAX_SDA_AND_DA_COUNT alone
      (enableDeviceAdmin build call s admin).2.container.population := by
  unfold enableDeviceAdmin
  split
  · exact .same
  · exact .same
  · rename_i adminInfo hcheck
    obtain ⟨-, htype, hlimit⟩ := checkDeviceAdmin_ok hcheck
    have hent : adminInfo.adminType ≠ .ent := by rw [htype]; simp
    have hmove := @setAdminValue_grown _ _ _ _ build call s alone h.known DEFAULT_USER_ID
      adminInfo (by rw [htype]; simp)
      (fun habsent =>
        { known := fun hx => by
            have hx : adminInfo.adminType = .unknown := hx
            rw [htype] at hx
            cases hx
          home := fun hu => absurd rfl hu
          absent := habsent
          apart := fun _ _ hx => absurd hx hent
          single := fun _ _ hx => absurd hx.1 hent
          counted := fun _ => count_eq s.container ▸ hlimit })
      fun ha => halone ha _ hcheck
    dsimp only
    split <;> exact hmove

theorem authorizeAdmin_grown {admin : ElementName} {bundleName : String}
    (halone : alone → ∀ item, checkAuthorizeAdmin build call s admin bundleName = .ok item →
      AddsAlone s.container call.write DEFAULT_USER_ID item) :
    s.container.population.Grown MAX_SDA_AND_DA_COUNT alone
      (authorizeAdmin build call s admin bundleName).2.container.population := by
  unfold authorizeAdmin
  split
  · exact .same
  · rename_i subAdminInfo hcheck
    obtain ⟨-, htype, -⟩ := checkAuthorizeAdmin_ok hcheck
    exact setAdminValue_grown h.known (by rw [htype]; simp)
      (fun habsent => insertable_of_type (.inr (.inr ⟨rfl, htype⟩)) habsent)
      fun ha => halone ha _ hcheck

theorem setAdminRunningMode_grown {admin : ElementName} {runningMode : UInt32}
    (halone : alone → ∀ item, checkAdminRunningMode call s admin runningMode = .ok item →
      AddsAlone s.container call.write DEFAULT_USER_ID item) :
    s.container.population.Grown MAX_SDA_AND_DA_COUNT alone
      (setAdminRunningMode build call s admin runningMode).2.container.population := by
  unfold setAdminRunningMode
  split
  · exact .same
  · rename_i adminInfo hcheck
    obtain ⟨adminItem, mode, hfound, rfl⟩ := checkAdminRunningMode_ok hcheck
    have hvisible := AdminManager.getAdminByPkgName_visible hfound
    refine setAdminValue_grown h.known ?_ (fun habsent => ?_) fun ha => halone ha _ hcheck
    · show adminItem.adminInfo.id.adminType ≠ .unknown
      rcases Population.mem_visible.mp hvisible with hmem | ⟨hmem, -⟩
      · exact h.known _ _ hmem
      · exact h.known _ _ hmem
    · -- The admin is one of the user's own, or it would not be absent.
      refine insertable_of_type ?_ habsent
      rcases Population.mem_visible.mp hvisible with hmem | ⟨hmem, -⟩
      · by_cases hu : call.managers.getCurrentUserId = DEFAULT_USER_ID
        · rw [hu] at hmem
          exact absurd rfl (habsent _ (Population.mem_visible.mpr (.inl hmem)))
        · exact (h.home _ _ hmem hu).imp_right .inl
      · exact absurd rfl (habsent _ (Population.mem_visible.mpr (.inl hmem)))

theorem setDelegatedPolicies_grown {parentAdmin : ElementName} {bundleName : String}
    {policies : List String} (hpolicies : policies ≠ [])
    (halone : alone → ∀ adminItem item,
      checkParentAdmin build call s parentAdmin bundleName = .ok adminItem → policies ≠ [] →
      checkVirtualAdmin build call adminItem parentAdmin.bundleName bundleName policies = .ok item →
      AddsAlone s.container call.write call.managers.getCurrentUserId item) :
    s.container.population.Grown MAX_SDA_AND_DA_COUNT alone
      (setDelegatedPolicies build call s parentAdmin bundleName policies).2.container.population := by
  have hempty : policies.isEmpty = false := List.isEmpty_eq_false_iff.mpr hpolicies
  unfold setDelegatedPolicies
  rw [hempty]
  split
  · exact .same
  · split
    · exact .same
    · rename_i adminItem hparent
      rw [if_neg Bool.false_ne_true]
      split
      · exact .same
      · rename_i virtualAdminInfo hcheck
        obtain ⟨-, htype, -, -⟩ := checkVirtualAdmin_ok hcheck
        exact setAdminValue_grown h.known (by rw [htype]; simp)
          (fun habsent => insertable_of_type (.inr (.inl htype)) habsent)
          fun ha => halone ha _ _ hparent hpolicies hcheck

omit h in
theorem revokeDelegatedPolicies_removed {parentAdmin : ElementName} {bundleName : String} :
    s.container.population.Removed
      (setDelegatedPolicies build call s parentAdmin bundleName []).2.container.population := by
  unfold setDelegatedPolicies
  split
  · exact .refl
  · split
    · exact .refl
    · exact keptByRemoval_removed.subOrSuper bundleName _ .refl

theorem setDelegatedPoliciesOfUser_grown {bundleName : String} {policies : List String}
    {userId : Int}
    (halone : alone → ∀ item,
      checkDelegatedPoliciesOfUser call s bundleName policies userId = .ok item →
      AddsAlone s.container call.write userId item) :
    s.container.population.Grown MAX_SDA_AND_DA_COUNT alone
      (setDelegatedPoliciesOfUser build call s bundleName policies
        userId).2.container.population := by
  unfold setDelegatedPoliciesOfUser
  split
  · exact .same
  · rename_i virtualAdminInfo hcheck
    obtain ⟨-, htype, -, -⟩ := checkDelegatedPoliciesOfUser_ok hcheck
    exact setAdminValue_grown h.known (by rw [htype]; simp)
      (fun habsent => insertable_of_type (.inr (.inl htype)) habsent)
      fun ha => halone ha _ hcheck

/-! ### Replacing the super admin -/

variable {oldAdmin newAdmin : ElementName} {abilityInfo : String × String}
  (hchecked : ReplaceChecked s.container oldAdmin newAdmin abilityInfo)

include hchecked

/-- Every super admin is the one that is replaced. -/
theorem ReplaceChecked.eq_old {admin : AdminId}
    (hadmin : admin ∈ s.container.population DEFAULT_USER_ID) (hent : admin.adminType = .ent) :
    admin.packageName = oldAdmin.bundleName := by
  obtain ⟨old, hmem, hold, hname⟩ := hchecked.exists_old
  have hofficial : ∀ other, other ∈ s.container.population DEFAULT_USER_ID →
      other.adminType = .ent → other.IsOfficial :=
    fun other hother hx => ⟨hx, isExistTargetAdmin_eq_false hchecked.others hother⟩
  exact (h.single admin old hadmin hmem (hofficial admin hadmin hent)
    (hofficial old hmem hold)).trans hname

/-- The new name is the old one, or nobody that the default user sees has it. -/
theorem ReplaceChecked.new_absent :
    newAdmin.bundleName = oldAdmin.bundleName ∨
      ∀ admin, admin ∈ s.container.population DEFAULT_USER_ID →
        admin.packageName ≠ newAdmin.bundleName := by
  have hexist := hchecked.exist
  unfold verifyEnableAdminConditionCheckExistAdmin at hexist
  have hfailed : ERR_EDM_ADD_ADMIN_FAILED ≠ ERR_OK := by decide
  split at hexist
  · rename_i hnone
    refine .inr fun admin hadmin => ?_
    exact (AdminManager.getAdminByPkgName_eq_none h.known).mp hnone admin
      (Population.mem_visible.mpr (.inl hadmin))
  · rename_i existAdmin hfound
    split at hexist <;> rename_i htype
    · exact absurd hexist hfailed
    · have hvisible := AdminManager.getAdminByPkgName_visible hfound
      have hent : existAdmin.getAdminType = .ent := by simpa using htype
      refine .inl ?_
      rw [← hchecked.eq_old h (Population.mem_visible.mp hvisible |>.elim id And.left) hent]
      exact (AdminManager.getAdminByPkgName_packageName hfound).symm

theorem handleKeepPolicy_move {keep : KeepOutcomes} {edmAdminInfo oldAdminInfo : AdminInfo}
    (hnew : edmAdminInfo.packageName = newAdmin.bundleName)
    (hold : oldAdminInfo.packageName = oldAdmin.bundleName)
    (halone : alone → newAdmin.bundleName ≠ oldAdmin.bundleName →
      s.container.population.Alone newAdmin.bundleName) :
    s.container.population.Move MAX_SDA_AND_DA_COUNT alone
      (handleKeepPolicy build s keep oldAdmin.bundleName newAdmin.bundleName edmAdminInfo
        oldAdminInfo).2.container.population := by
  have hname := hchecked.new_absent h
  have hreplace := AdminManager.population_replace build.cjson s.device.admins keep.replaceAdmin
    keep.parents oldAdmin.bundleName edmAdminInfo
  rw [hnew] at hreplace
  rcases handleKeepPolicy_admins build s keep oldAdmin.bundleName newAdmin.bundleName edmAdminInfo
    oldAdminInfo with ⟨-, hsame⟩ | ⟨hret, hdone⟩
  · exact .same (congrArg AdminContainer.population hsame)
  · obtain hrenamed := hreplace.resolve_left fun hx => hx.1 hret
    have hmove : s.container.population.Move MAX_SDA_AND_DA_COUNT alone
        (AdminManager.replaceSuperAdminByPackageName build.cjson s.device.admins keep.replaceAdmin
          keep.parents oldAdmin.bundleName edmAdminInfo).2.container.population := by
      rw [hrenamed.2]
      exact .renamed hname halone
    unfold Service.container
    rcases hdone with hkept | hreverted
    · rw [hkept]
      exact hmove
    · -- The record gets its old name back, where that succeeds.
      rw [hreverted]
      rcases AdminManager.population_replace build.cjson _ keep.revertAdmin keep.revertParents
        newAdmin.bundleName oldAdminInfo with ⟨-, hback⟩ | ⟨-, hback⟩
      · rw [hback]
        exact hmove
      · refine .same (hback.trans ?_)
        rw [hrenamed.2, hold]
        exact Population.rename_rename hname

/-- Without the super admin there is room for its successor. -/
theorem ReplaceChecked.insertable {s' : Service Modules}
    (hremoved : s.container.population.Removed s'.container.population)
    (hgone : ∀ admin, admin ∈ s'.container.population DEFAULT_USER_ID →
      admin.packageName ≠ oldAdmin.bundleName)
    (hcount : (s'.container.population DEFAULT_USER_ID).countP AdminId.isCounted <
      MAX_SDA_AND_DA_COUNT) {admin : AdminId} (hent : admin.adminType = .ent)
    (hdebug : admin.isDebug = false)
    (habsent : ∀ other, other ∈ s'.container.population.visible DEFAULT_USER_ID →
      other.packageName ≠ admin.packageName) :
    s'.container.population.Insertable MAX_SDA_AND_DA_COUNT DEFAULT_USER_ID admin where
  known := by rw [hent]; simp
  home hu := absurd rfl hu
  absent := habsent
  apart other hother _ _ := by
    rw [hdebug]
    exact isExistTargetAdmin_eq_false hchecked.others (hremoved.mem hother)
  single other hother _ hofficial :=
    hgone other hother (hchecked.eq_old h (hremoved.mem hother) hofficial.1)
  counted _ := hcount

/-- A successful removal of the super admin makes room. -/
theorem ReplaceChecked.removed {adminPtr : Admin} {s' : Service Modules}
    (hfound : AdminManager.getAdminByPkgName s.container oldAdmin.bundleName DEFAULT_USER_ID =
      some adminPtr)
    (hdone : doDisableAdmin build call s adminPtr DEFAULT_USER_ID = (ERR_OK, s')) :
    (∀ admin, admin ∈ s'.container.population DEFAULT_USER_ID →
        admin.packageName ≠ oldAdmin.bundleName) ∧
      (s'.container.population DEFAULT_USER_ID).countP AdminId.isCounted <
        MAX_SDA_AND_DA_COUNT := by
  obtain ⟨old, hmem, hold, hname⟩ := hchecked.exists_old
  have hptrName := AdminManager.getAdminByPkgName_packageName hfound
  have hptr : adminPtr.adminInfo.id = old :=
    h.eq_of_packageName ((Population.mem_visible.mp
      (AdminManager.getAdminByPkgName_visible hfound)).elim id And.left) hmem
      (hptrName.trans hname.symm)
  have hsuper : adminPtr.isSuperAdmin = true :=
    beq_iff_eq.mpr ((congrArg AdminId.adminType hptr).trans hold)
  have hleft := (doDisableAdmin_super_ok hsuper hdone).population
  rw [hptrName] at hleft
  have hself := mem_familyNames s.container oldAdmin.bundleName
  generalize familyNames s.container oldAdmin.bundleName = names at hleft hself
  rw [hleft]
  constructor
  · intro admin hadmin heq
    have hnot := (List.mem_filter.mp hadmin).2
    rw [heq, Bool.not_eq_true', List.contains_eq_mem, decide_eq_false_iff_not] at hnot
    exact hnot hself
  · have hsplit := List.countP_eq_countP_filter_add (s.container.population DEFAULT_USER_ID)
      AdminId.isCounted fun admin => !names.contains admin.packageName
    have hpos : 0 < List.countP AdminId.isCounted
        ((s.container.population DEFAULT_USER_ID).filter fun admin =>
          !!names.contains admin.packageName) := by
      rw [List.countP_pos_iff]
      refine ⟨old, List.mem_filter.mpr ⟨hmem, ?_⟩, ?_⟩
      · rw [Bool.not_not, hname, List.contains_eq_mem, decide_eq_true_iff]
        exact hself
      · rw [AdminId.isCounted, hold]
        rfl
    have hlimit := h.counted
    omega

omit hchecked

theorem replaceSuperAdmin_move {keep : KeepOutcomes} {keepPolicy : Bool}
    (hapart : alone → s.container.population.Apart)
    (halone : alone → ∀ info permission,
      checkReplaceAdmins call s oldAdmin newAdmin = .ok (info, permission) →
      newAdmin.bundleName ≠ oldAdmin.bundleName →
      ∀ v other, v ≠ DEFAULT_USER_ID → other ∈ s.container.adminsOf v →
        other.packageName ≠ newAdmin.bundleName) :
    s.container.population.Move MAX_SDA_AND_DA_COUNT alone
      (replaceSuperAdmin build call s keep oldAdmin newAdmin keepPolicy).2.container.population := by
  unfold replaceSuperAdmin
  split
  · exact .same rfl
  · rename_i bundleName name permission hcheck
    have hchecked := checkReplaceAdmins_ok hcheck
    have hothers : alone → newAdmin.bundleName ≠ oldAdmin.bundleName →
        s.container.population.Alone newAdmin.bundleName :=
      fun ha hne => alone_iff.mpr (halone ha _ _ hcheck hne)
    split
    · exact .same rfl
    · split
      · exact .same rfl
      · rename_i adminPtr hfound
        have hname := AdminManager.getAdminByPkgName_packageName hfound
        dsimp only
        split
        · exact handleKeepPolicy_move h hchecked hchecked.bundleName hname hothers
        · have hremoved := KeptByRemoval.disable
            (@keptByRemoval_removed _ _ _ _ build s.container.population call.outcomes) adminPtr
            DEFAULT_USER_ID .refl
          have hroom := @ReplaceChecked.removed _ _ _ _ build call s h _ _ _ hchecked adminPtr
          generalize doDisableAdmin build call s adminPtr DEFAULT_USER_ID = r at hremoved hroom ⊢
          obtain ⟨res, s'⟩ := r
          dsimp only at hremoved hroom ⊢
          split <;> rename_i hres
          · exact hremoved.move
          · have hok : res = ERR_OK := by simpa using hres
            subst hok
            obtain ⟨hgone, hcount⟩ := hroom hfound rfl
            have hnew : alone → s.container.population.Alone bundleName := by
              intro ha
              rw [show bundleName = newAdmin.bundleName from hchecked.bundleName]
              by_cases hsame : newAdmin.bundleName = oldAdmin.bundleName
              · obtain ⟨old, hold, hent, holdName⟩ := hchecked.exists_old
                intro v other hv hother
                rw [hsame, ← holdName]
                exact hapart ha old other v hv hold (by rw [hent]; rfl) hother
              · exact hothers ha hsame
            have hgrown := @setAdminValue_grown _ _ _ _ build call s' alone
              (hremoved.orderly h).known DEFAULT_USER_ID
              { packageName := bundleName, className := name
                entInfo := adminPtr.adminInfo.entInfo, permission, adminType := .ent
                isDebug := false, enableSource := .replace }
              (by simp) (fun habsent => hchecked.insertable h hremoved hgone hcount rfl rfl habsent)
              fun ha _ _ _ _ => alone_iff.mp (hremoved.alone (hnew ha))
            split <;> exact .grown hremoved hgrown

end

/-! ### Runs -/

theorem setDevicePolicy_admins (call : ServiceCall Reply) (s : Service Modules) (writes : Writes)
    (code : UInt32) (bundleName permissionTag : String) (userId : Int) (request : Req) :
    (setDevicePolicy build call s writes code bundleName permissionTag userId
      request).2.device.admins = s.device.admins := by
  have huser : (s.getUserPolicyMgr userId).device.admins = s.device.admins :=
    congrArg Device.admins (getUserPolicyMgr_device s userId)
  unfold setDevicePolicy PluginTable.updateDevicePolicy
  split
  · rfl
  · dsimp only
    split <;> exact huser

theorem population_addManagedEvents (s : Service Modules) (answers : AdapterAnswers)
    (write : RdbOutcome) (adminName : String) (userId : Int) (events : List UInt32) :
    (addManagedEvents build answers s write adminName userId events).container.population =
      s.container.population :=
  (AdminManager.eventsWritten_save build.cjson s.device.admins write events adminName
    userId).population

theorem population_removeManagedEvents (s : Service Modules) (write : RdbOutcome)
    (adminName : String) (userId : Int) (events : List UInt32) :
    (removeManagedEvents build s write adminName userId events).container.population =
      s.container.population :=
  (AdminManager.eventsWritten_remove build.cjson s.device.admins write events adminName
    userId).population

section

variable {call : ServiceCall Reply} {s : Service Modules} {answers : AdapterAnswers}
  {admin : ElementName} {events : List UInt32}

theorem subscribeManagedEvent_population :
    (subscribeManagedEvent build call answers s admin events).2.container.population =
      s.container.population := by
  unfold subscribeManagedEvent
  dsimp only
  split
  · rfl
  · exact population_addManagedEvents s answers call.write admin.bundleName _ events

theorem unsubscribeManagedEvent_population :
    (unsubscribeManagedEvent build call s admin events).2.container.population =
      s.container.population := by
  unfold unsubscribeManagedEvent
  dsimp only
  split
  · rfl
  · exact population_removeManagedEvents s call.write admin.bundleName _ events

theorem onInterceptHandled_population {write : RdbOutcome} {enabled : Bool} {adminName : String}
    {userId : Int} :
    (onInterceptHandled build answers s write enabled adminName userId).container.population =
      s.container.population := by
  unfold onInterceptHandled
  dsimp only
  split
  · exact population_addManagedEvents s answers write adminName userId _
  · exact population_removeManagedEvents s write adminName userId _

end

/-- What a request makes of the population. -/
theorem population_move {s : Service Modules}
    (h : s.container.population.Orderly MAX_SDA_AND_DA_COUNT) (op : ServiceOp Req Reply) :
    s.container.population.Move MAX_SDA_AND_DA_COUNT
      (op.AddsAlone build s ∧ s.container.population.Apart)
      (serviceStep build s op).container.population := by
  cases op with
  | enableAdmin call admin entInfo type userId permission enableSource =>
    exact .grown .refl (enableAdmin_grown h And.left)
  | enableDeviceAdmin call admin => exact .grown .refl (enableDeviceAdmin_grown h And.left)
  | authorizeAdmin call admin bundleName => exact .grown .refl (authorizeAdmin_grown h And.left)
  | setAdminRunningMode call admin runningMode =>
    exact .grown .refl (setAdminRunningMode_grown h And.left)
  | setDelegatedPolicies call parentAdmin bundleName policies =>
    by_cases hpolicies : policies = []
    · subst hpolicies
      exact revokeDelegatedPolicies_removed.move
    · exact .grown .refl (setDelegatedPolicies_grown h hpolicies And.left)
  | setDelegatedPoliciesOfUser call bundleName policies userId =>
    exact .grown .refl (setDelegatedPoliciesOfUser_grown h And.left)
  | disableAdmin call admin userId => exact disableAdmin_move admin userId
  | disableSuperAdmin call bundleName => exact disableSuperAdmin_move bundleName
  | disableDeviceAdmin call admin => exact disableDeviceAdmin_move admin
  | replaceSuperAdmin call keep oldAdmin newAdmin keepPolicy =>
    exact replaceSuperAdmin_move h And.right And.left
  | handleDevicePolicy call writes code bundleName permissionTag userId request =>
    exact .same (congrArg (fun admins : AdminState => admins.container.population)
      (setDevicePolicy_admins call s writes code bundleName permissionTag userId request))
  | subscribeManagedEvent => exact .same subscribeManagedEvent_population
  | unsubscribeManagedEvent => exact .same unsubscribeManagedEvent_population
  | restoreSubscriptions answers appLifecycleOnly => exact .same rfl
  | interceptHandled => exact .same onInterceptHandled_population

/-- The population stays orderly whatever is requested. -/
theorem orderly_step (s : Service Modules) (op : ServiceOp Req Reply)
    (h : s.container.population.Orderly MAX_SDA_AND_DA_COUNT) :
    (serviceStep build s op).container.population.Orderly MAX_SDA_AND_DA_COUNT :=
  (population_move h op).orderly h

theorem population_boot (modules : Modules) :
    (Service.boot modules).container.population = fun _ => [] := rfl

/-- In a run that adds admins alone, the law of the population holds in every state. -/
theorem always_populationLaw (modules : Modules) (ops : List (ServiceOp Req Reply))
    (h : Each (serviceStep build) (fun s op => op.AddsAlone build s) (Service.boot modules) ops) :
    Always (serviceStep build) (fun s => PopulationLaw s.container) (Service.boot modules) ops := by
  have hpopulation : Always (serviceStep build) (fun s =>
      s.container.population.Orderly MAX_SDA_AND_DA_COUNT ∧ s.container.population.Apart)
      (Service.boot modules) ops := by
    refine always_of_each (fun s op hs hadds => ?_) ?_ h
    · exact ⟨orderly_step s op hs.1, (population_move hs.1 op).apart ⟨hadds, hs.2⟩ hs.2⟩
    · rw [population_boot]
      exact ⟨Population.orderly_empty _, Population.apart_empty⟩
  exact hpopulation.mono fun s hs => populationLaw_of_orderly hs.1 hs.2

namespace PopulationRun

/-- The settings enable an admin. -/
def enable (packageName : String) (type : AdminType) (userId : Int) : ServiceOp Unit Unit :=
  .enableAdmin (.agreeing () "com.settings" userId) ⟨packageName, "Ability"⟩ {} type userId
    EdmPermission.PERMISSION_MANAGE_ENTERPRISE_DEVICE_ADMIN .deploy

/-- An admin of a user, and a super admin with another package. -/
theorem population_kept :
    Always (serviceStep Build.bare) (fun s => PopulationLaw s.container) (Service.boot ())
      [enable "com.work" .byod 101, enable "com.acme" .ent 100] := by
  refine always_populationLaw () _ ⟨?_, ?_, trivial⟩
  · intro saveUserId item hcheck hwrite huser
    have hsave := (checkEnableAdmin_ok hcheck).saveUser
    rw [huser] at hsave
    exact absurd hsave (by decide)
  · intro saveUserId item hcheck hwrite huser hacross hnone v other hv hother
    rw [show item.packageName = "com.acme" from (checkEnableAdmin_ok hcheck).packageName]
    have hcontainer : (serviceStep Build.bare (Service.boot ())
        (enable "com.work" .byod 101)).container =
        AdminContainer.setAdminByUserId ∅ 101
          { packageName := "com.work", className := "Ability", adminType := .byod } := rfl
    rw [hcontainer, AdminContainer.adminsOf, AdminContainer.lookup_setAdminByUserId] at hother
    split at hother
    · obtain rfl := List.mem_singleton.mp hother
      decide
    · exact absurd hother List.not_mem_nil

/-- An admin of one user only, and then of the default user for all of them. -/
theorem package_seen_twice :
    ¬ ∀ ops, Always (serviceStep Build.bare) (fun s => PopulationLaw s.container)
      (Service.boot ()) ops := by
  intro h
  have hlaw := (h [enable "com.work" .byod 101, enable "com.work" .normal 100]).2.2
  have hnodup : ["com.work", "com.work"].Nodup := hlaw.distinct 101
  exact absurd hnodup (by decide)

end PopulationRun

end Edm
