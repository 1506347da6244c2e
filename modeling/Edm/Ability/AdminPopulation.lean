import Edm.Ability.ServiceRun
import Mathlib.Algebra.BigOperators.Group.Finset.Basic

/-! The admins of the service over its runs: how many there are, of which types, and under which
names. -/

set_option autoImplicit false

namespace Edm

open Library Library.UnorderedMap

/-- The admins that a user sees: its own, and those of the default user that act across accounts. -/
def AdminContainer.visibleAdmins (c : AdminContainer) (u : Int) : List AdminInfo :=
  if u = DEFAULT_USER_ID then c.adminsOf u
  else (c.adminsOf DEFAULT_USER_ID).filter (fun item => item.adminType.isAllowedAcrossAccountSetPolicy)
    ++ c.adminsOf u

/-- What holds of the admins whatever was requested. -/
structure PopulationLaw (c : AdminContainer) : Prop where
  super_home : ∀ u item, item ∈ c.adminsOf u → item.adminType = .ent → item.isDebug = false →
    u = DEFAULT_USER_ID
  super_single : ((c.adminsOf DEFAULT_USER_ID).filter fun item =>
    item.adminType == .ent && !item.isDebug).length ≤ 1
  debug_apart : ∀ u v item other, item ∈ c.adminsOf u → other ∈ c.adminsOf v →
    item.adminType = .ent → other.adminType = .ent → item.isDebug = other.isDebug
  limit : ∑ u ∈ c.keys, ((c.adminsOf u).filter fun item =>
    item.adminType == .ent || item.adminType == .normal).length ≤ MAX_SDA_AND_DA_COUNT
  distinct : ∀ u, ((c.visibleAdmins u).map AdminInfo.packageName).Nodup

/-! ### The law in terms of the population -/

theorem AdminContainer.visibleAdmins_id (c : AdminContainer) (u : Int) :
    (c.visibleAdmins u).map AdminInfo.id = c.population.visible u := by
  unfold visibleAdmins Population.visible population
  split
  · rfl
  · rw [List.map_append, List.filter_map]
    rfl

/-- Items with different names that all have the same name. -/
theorem length_le_one_of_name {α β : Type} {f : α → β} {items : List α}
    (hnodup : (items.map f).Nodup) (hsame : ∀ x y, x ∈ items → y ∈ items → f x = f y) :
    items.length ≤ 1 := by
  match items with
  | [] => exact Nat.zero_le 1
  | [_] => exact le_rfl
  | x :: y :: rest =>
    have hne := (List.nodup_cons.mp hnodup).1
    rw [hsame x y List.mem_cons_self (List.mem_cons_of_mem x List.mem_cons_self)] at hne
    exact absurd List.mem_cons_self hne

theorem populationLaw_of_orderly {c : AdminContainer}
    (h : c.population.Orderly MAX_SDA_AND_DA_COUNT) (hapart : c.population.Apart) :
    PopulationLaw c := by
  have hmem : ∀ u item, item ∈ c.adminsOf u → item.id ∈ c.population u :=
    fun u item hitem => List.mem_map_of_mem hitem
  have hnames : ∀ u, (c.adminsOf u).map AdminInfo.packageName =
      (c.population u).map AdminId.packageName := fun u => by
    unfold AdminContainer.population
    rw [List.map_map]
    rfl
  have hhome : ∀ u item, item ∈ c.adminsOf u → item.adminType = .ent ∨ item.adminType = .normal →
      u = DEFAULT_USER_ID := by
    intro u item hitem htype
    by_contra hu
    have hother : item.adminType = .byod ∨ item.adminType = .virtualAdmin :=
      h.home u item.id (hmem u item hitem) hu
    rcases htype with htype | htype <;> rw [htype] at hother <;> simp at hother
  refine ⟨fun u item hitem hent _ => hhome u item hitem (.inl hent), ?_, ?_, ?_, fun u => ?_⟩
  · refine length_le_one_of_name (f := AdminInfo.packageName) ?_ fun first second hf hs => ?_
    · have hdistinct := h.distinct DEFAULT_USER_ID
      rw [← hnames] at hdistinct
      exact hdistinct.sublist (List.filter_sublist.map _)
    · simp only [List.mem_filter, Bool.and_eq_true, beq_iff_eq, Bool.not_eq_true'] at hf hs
      exact h.single first.id second.id (hmem _ first hf.1) (hmem _ second hs.1) hf.2 hs.2
  · intro u v item other hitem hother hent hent'
    obtain rfl := hhome u item hitem (.inl hent)
    obtain rfl := hhome v other hother (.inl hent')
    exact h.apart item.id other.id (hmem _ item hitem) (hmem _ other hother) hent hent'
  · have hcounted := h.counted
    rw [show AdminId.isCounted = fun admin => admin.adminType == .ent || admin.adminType == .normal
      from rfl, ← AdminContainer.getSuperDeviceAdminAndDeviceAdminCount_eq] at hcounted
    refine le_trans (le_of_eq ?_) hcounted
    refine Finset.sum_eq_single DEFAULT_USER_ID (fun u _ hu => ?_) fun hkeys => ?_
    · rw [List.length_eq_zero_iff, List.filter_eq_nil_iff]
      intro item hitem htype
      simp only [Bool.or_eq_true, beq_iff_eq] at htype
      exact hu (hhome u item hitem htype)
    · have hnone : c.lookup DEFAULT_USER_ID = none :=
        Finmap.lookup_eq_none.mpr fun hin => hkeys (Finmap.mem_keys.mpr hin)
      rw [AdminContainer.adminsOf, hnone]
      rfl
  · have hvisible : (c.visibleAdmins u).map AdminInfo.packageName =
        (c.population.visible u).map AdminId.packageName := by
      rw [← c.visibleAdmins_id, List.map_map]
      rfl
    rw [hvisible]
    unfold Population.visible
    by_cases hu : u = DEFAULT_USER_ID
    · rw [if_pos hu]
      exact h.distinct u
    · rw [if_neg hu, List.map_append, List.nodup_append]
      refine ⟨(h.distinct DEFAULT_USER_ID).sublist (List.filter_sublist.map _), h.distinct u, ?_⟩
      rintro name hname name' hname' rfl
      obtain ⟨admin, hadmin, rfl⟩ := List.mem_map.mp hname
      obtain ⟨other, hother, heq⟩ := List.mem_map.mp hname'
      obtain ⟨hin, hacross⟩ := List.mem_filter.mp hadmin
      exact hapart admin other u hu hin hacross hother heq

/-! ### What the checks let through -/

section

open EnterpriseDeviceMgrAbility

variable {Modules Req Reply Event : Type} {build : Build Modules Req Reply Event}
  {call : ServiceCall Reply} {s : Service Modules}

theorem isExistTargetAdmin_eq_false {c : AdminContainer} {isDebug : Bool}
    (h : c.isExistTargetAdmin isDebug = false) {u : Int} {admin : AdminId}
    (hadmin : admin ∈ c.population u) : admin.isDebug = !isDebug := by
  obtain ⟨item, hitem, rfl⟩ := AdminContainer.mem_population.mp hadmin
  by_contra hne
  have hflag : item.isDebug = isDebug := not_not.mp fun hx => hne (Bool.eq_not.mpr hx)
  unfold AdminContainer.isExistTargetAdmin at h
  rw [Bool.not_eq_false', UnorderedMap.isEmpty_iff] at h
  cases hadmins : c.lookup u with
  | none =>
    rw [AdminContainer.adminsOf, hadmins] at hitem
    cases hitem
  | some admins =>
    rw [AdminContainer.adminsOf, hadmins] at hitem
    have hlookup := lookup_filterValues
      (fun admins : List AdminInfo => admins.any fun item => item.isDebug == isDebug) c u
    rw [h, hadmins, Option.filter_some, if_pos] at hlookup
    · simp at hlookup
    · exact List.any_eq_true.mpr ⟨item, hitem, beq_iff_eq.mpr hflag⟩

theorem isSuperAdminExist_eq_false {c : AdminContainer} (hknown : c.population.Known)
    (h : AdminManager.isSuperAdminExist c = false) {admin : AdminId}
    (hadmin : admin ∈ c.population DEFAULT_USER_ID) : ¬admin.IsOfficial := by
  rintro ⟨hent, hdebug⟩
  obtain ⟨item, hitem, rfl⟩ := AdminContainer.mem_population.mp hadmin
  obtain ⟨copy, hcopy⟩ := AdminManager.exists_copy hknown hitem
  have hid := AdminManager.createAdmin_id hcopy
  have hnone := List.any_eq_false.mp h copy
    (AdminManager.mem_getAdminByUserId.mpr ⟨item, hitem, hcopy⟩)
  refine hnone ?_
  rw [Bool.and_eq_true, beq_iff_eq, Bool.not_eq_true']
  exact ⟨(congrArg AdminId.adminType hid).trans hent, (congrArg AdminId.isDebug hid).trans hdebug⟩

/-- An admin that `EnableAdmin` lets through. -/
structure EnableChecked (c : AdminContainer) (admin : ElementName) (type : AdminType) (userId : Int)
    (isDebug : Bool) (saveUserId : Int) (adminInfo : AdminInfo) : Prop where
  packageName : adminInfo.packageName = admin.bundleName
  adminType : adminInfo.adminType = type
  debug : adminInfo.isDebug = isDebug
  enabled : type = .normal ∨ type = .ent ∨ type = .byod
  limit : c.getSuperDeviceAdminAndDeviceAdminCount < MAX_SDA_AND_DA_COUNT
  saveUser : saveUserId = if type == .ent || type == .normal then DEFAULT_USER_ID else userId
  superUser : type = .ent → userId = DEFAULT_USER_ID
  others : c.isExistTargetAdmin (!isDebug) = false
  exist : verifyEnableAdminConditionCheckExistAdmin c admin type userId isDebug = ERR_OK
  only : isDebug = false → type = .ent → AdminManager.isSuperAdminExist c = true →
    AdminManager.getAdminByPkgName c admin.bundleName userId ≠ none

theorem verifyEnableAdminCondition_ok {c : AdminContainer} {managers : AbilityManagers}
    {admin : ElementName} {type : AdminType} {userId : Int} {isDebug : Bool}
    (h : failed (verifyEnableAdminCondition c managers admin type userId isDebug) = false) :
    (type = .ent → userId = DEFAULT_USER_ID) ∧ c.isExistTargetAdmin (!isDebug) = false ∧
      verifyEnableAdminConditionCheckExistAdmin c admin type userId isDebug = ERR_OK := by
  have hfailed : failed ERR_EDM_ADD_ADMIN_FAILED = true := by decide
  unfold verifyEnableAdminCondition at h
  rw [failed_check hfailed, failed_check hfailed, failed_check hfailed, failed_check hfailed] at h
  obtain ⟨huser, -, hothers, hexist, -⟩ := h
  refine ⟨fun htype => ?_, hothers, bne_eq_false_iff_eq.mp hexist⟩
  rw [htype, beq_self_eq_true, Bool.true_and] at huser
  exact bne_eq_false_iff_eq.mp huser

theorem checkEnableAdmin_ok {admin : ElementName} {entInfo : EntInfo} {type : AdminType}
    {userId saveUserId : Int} {permission : String} {enableSource : EnableSource}
    {adminInfo : AdminInfo}
    (h : checkEnableAdmin build call s admin entInfo type userId permission enableSource =
      .ok (saveUserId, adminInfo)) :
    EnableChecked s.container admin type userId call.managers.isDebug saveUserId adminInfo := by
  unfold checkEnableAdmin at h
  obtain ⟨hpre, h⟩ := ok_check.mp h
  obtain ⟨hlimit, h⟩ := ok_check.mp h
  obtain ⟨-, h⟩ := ok_check.mp h
  split at h <;> rename_i hinfos
  · contradiction
  · rename_i abilityInfo rest
    obtain ⟨hverify, h⟩ := ok_check.mp h
    obtain ⟨honly, h⟩ := ok_check.mp h
    obtain ⟨hsuper, hothers, hexist⟩ :=
      verifyEnableAdminCondition_ok (Bool.eq_false_iff.mpr hverify)
    split at h
    · contradiction
    · cases h
      have hbundle := call.managers.queryExtensionAbilityInfos_bundle admin.bundleName
        admin.abilityName userId abilityInfo (hinfos ▸ List.mem_cons_self)
      refine ⟨hbundle, rfl, rfl, ?_, not_le.mp hlimit, rfl, hsuper, hothers, hexist, ?_⟩
      · unfold enableAdminPreCheck at hpre
        by_contra htype
        refine hpre ?_
        rw [if_pos]
        · decide
        · simp only [not_or] at htype
          simp [htype]
      · intro hdebug hent hexists hnone
        refine honly ?_
        rw [hdebug, hent, hexists, hnone]
        rfl

theorem checkDeviceAdmin_ok {admin : ElementName} {adminInfo : AdminInfo}
    (h : checkDeviceAdmin build call s admin = .ok (some adminInfo)) :
    adminInfo.packageName = admin.bundleName ∧ adminInfo.adminType = .normal ∧
      s.container.getSuperDeviceAdminAndDeviceAdminCount < MAX_SDA_AND_DA_COUNT := by
  unfold checkDeviceAdmin at h
  dsimp only at h
  split at h
  · contradiction
  · obtain ⟨-, h⟩ := ok_check.mp h
    obtain ⟨hcheck, h⟩ := ok_check.mp h
    split at h
    · split at h <;> cases h
    · cases h
      refine ⟨rfl, rfl, ?_⟩
      unfold checkEnableDeviceAdmin at hcheck
      by_contra hlimit
      rw [if_pos (not_lt.mp hlimit)] at hcheck
      exact hcheck (by decide)

theorem checkAuthorizeAdmin_ok {admin : ElementName} {bundleName : String} {adminInfo : AdminInfo}
    (h : checkAuthorizeAdmin build call s admin bundleName = .ok adminInfo) :
    adminInfo.packageName = bundleName ∧ adminInfo.adminType = .subSuperAdmin ∧
      adminInfo.parentAdminName = admin.bundleName := by
  unfold checkAuthorizeAdmin at h
  dsimp only at h
  split at h
  · contradiction
  · obtain ⟨-, h⟩ := ok_check.mp h
    obtain ⟨-, h⟩ := ok_check.mp h
    obtain ⟨-, h⟩ := ok_check.mp h
    split at h
    · contradiction
    · cases h
      exact ⟨rfl, rfl, rfl⟩

theorem checkAdminRunningMode_ok {admin : ElementName} {runningMode : UInt32}
    {adminInfo : AdminInfo} (h : checkAdminRunningMode call s admin runningMode = .ok adminInfo) :
    ∃ adminItem mode, AdminManager.getAdminByPkgName s.container admin.bundleName
        call.managers.getCurrentUserId = some adminItem ∧
      adminInfo = { adminItem.adminInfo with runningMode := mode } := by
  unfold checkAdminRunningMode at h
  split at h
  · contradiction
  · rename_i adminItem hfound
    obtain ⟨-, h⟩ := ok_check.mp h
    split at h
    · contradiction
    · rename_i mode hmode
      cases h
      exact ⟨adminItem, mode, hfound, rfl⟩

theorem checkVirtualAdmin_ok {adminItem : Admin} {parentAdminName bundleName : String}
    {policies : List String} {adminInfo : AdminInfo}
    (h : checkVirtualAdmin build call adminItem parentAdminName bundleName policies =
      .ok adminInfo) :
    adminInfo.packageName = bundleName ∧ adminInfo.adminType = .virtualAdmin ∧
      adminInfo.parentAdminName = parentAdminName ∧ adminInfo.accessiblePolicies = policies := by
  unfold checkVirtualAdmin at h
  obtain ⟨-, h⟩ := ok_check.mp h
  obtain ⟨-, h⟩ := ok_check.mp h
  split at h
  · contradiction
  · cases h
    exact ⟨rfl, rfl, rfl, rfl⟩

theorem checkDelegatedPoliciesOfUser_ok {bundleName : String} {policies : List String}
    {userId : Int} {adminInfo : AdminInfo}
    (h : checkDelegatedPoliciesOfUser call s bundleName policies userId = .ok adminInfo) :
    adminInfo.packageName = bundleName ∧ adminInfo.adminType = .virtualAdmin ∧
      AdminManager.getAdminByPkgName s.container bundleName userId = none ∧
      (call.managers.getNameForUid call.caller.uid).2 = adminInfo.parentAdminName := by
  unfold checkDelegatedPoliciesOfUser at h
  obtain ⟨-, h⟩ := ok_check.mp h
  obtain ⟨-, h⟩ := ok_check.mp h
  obtain ⟨-, h⟩ := ok_check.mp h
  obtain ⟨hnone, h⟩ := ok_check.mp h
  obtain ⟨-, h⟩ := ok_check.mp h
  obtain ⟨-, h⟩ := ok_check.mp h
  split at h
  · contradiction
  · cases h
    refine ⟨rfl, rfl, ?_, rfl⟩
    rwa [Bool.not_eq_true, Option.isSome_eq_false_iff, Option.isNone_iff_eq_none] at hnone

/-- A super admin that `ReplaceSuperAdmin` lets be replaced by another admin. -/
structure ReplaceChecked (c : AdminContainer) (oldAdmin newAdmin : ElementName)
    (abilityInfo : String × String) : Prop where
  bundleName : abilityInfo.1 = newAdmin.bundleName
  super : ∃ edmAdmin, AdminManager.getSuperAdmin c = some edmAdmin ∧
    edmAdmin.adminInfo.packageName = oldAdmin.bundleName
  others : c.isExistTargetAdmin true = false
  exist : verifyEnableAdminConditionCheckExistAdmin c newAdmin .ent DEFAULT_USER_ID false = ERR_OK

theorem checkReplaceAdmins_ok {oldAdmin newAdmin : ElementName} {abilityInfo : String × String}
    {permission : List String}
    (h : checkReplaceAdmins call s oldAdmin newAdmin = .ok (abilityInfo, permission)) :
    ReplaceChecked s.container oldAdmin newAdmin abilityInfo := by
  unfold checkReplaceAdmins at h
  obtain ⟨-, h⟩ := ok_check.mp h
  obtain ⟨-, h⟩ := ok_check.mp h
  obtain ⟨hsuper, h⟩ := ok_check.mp h
  split at h <;> rename_i hinfos
  · contradiction
  · rename_i info rest
    obtain ⟨hverify, h⟩ := ok_check.mp h
    split at h
    · contradiction
    · cases h
      obtain ⟨-, hothers, hexist⟩ := verifyEnableAdminCondition_ok (Bool.eq_false_iff.mpr hverify)
      refine ⟨?_, ?_, hothers, hexist⟩
      · exact call.managers.queryExtensionAbilityInfos_bundle newAdmin.bundleName
          newAdmin.abilityName DEFAULT_USER_ID abilityInfo (hinfos ▸ List.mem_cons_self)
      · cases hfound : AdminManager.getSuperAdmin s.container with
        | none => simp [hfound] at hsuper
        | some edmAdmin =>
          refine ⟨edmAdmin, rfl, ?_⟩
          simp only [hfound, Option.any_some, Bool.not_eq_true', Bool.not_eq_false,
            Bool.and_eq_true, beq_iff_eq] at hsuper
          exact hsuper.1

/-- The super admin that is replaced is one. -/
theorem ReplaceChecked.exists_old {oldAdmin newAdmin : ElementName} {abilityInfo : String × String}
    (hchecked : ReplaceChecked s.container oldAdmin newAdmin abilityInfo) :
    ∃ admin, admin ∈ s.container.population DEFAULT_USER_ID ∧ admin.adminType = .ent ∧
      admin.packageName = oldAdmin.bundleName := by
  obtain ⟨edmAdmin, hfound, hname⟩ := hchecked.super
  obtain ⟨item, hitem, hcopy⟩ := AdminManager.mem_getAdminByUserId.mp
    (List.mem_of_find?_eq_some hfound)
  have hid := AdminManager.createAdmin_id hcopy
  have hsuper := List.find?_some hfound
  exact ⟨edmAdmin.adminInfo.id, AdminContainer.mem_population.mpr ⟨item, hitem, hid.symm⟩,
    beq_iff_eq.mp hsuper, hname⟩

/-- The admins after a replacement that keeps the policies: as they were, replaced, or replaced and
replaced back. -/
theorem handleKeepPolicy_admins (build : Build Modules Req Reply Event) (s : Service Modules)
    (keep : KeepOutcomes) (adminName newAdminName : String)
    (edmAdminInfo oldAdminInfo : AdminInfo) :
    ((AdminManager.replaceSuperAdminByPackageName build.cjson s.device.admins keep.replaceAdmin
          keep.parents adminName edmAdminInfo).1 ≠ ERR_OK ∧
        (handleKeepPolicy build s keep adminName newAdminName edmAdminInfo
          oldAdminInfo).2.container = s.container) ∨
      (AdminManager.replaceSuperAdminByPackageName build.cjson s.device.admins keep.replaceAdmin
          keep.parents adminName edmAdminInfo).1 = ERR_OK ∧
        ((handleKeepPolicy build s keep adminName newAdminName edmAdminInfo
            oldAdminInfo).2.device.admins =
          (AdminManager.replaceSuperAdminByPackageName build.cjson s.device.admins
            keep.replaceAdmin keep.parents adminName edmAdminInfo).2 ∨
        (handleKeepPolicy build s keep adminName newAdminName edmAdminInfo
            oldAdminInfo).2.device.admins =
          (AdminManager.replaceSuperAdminByPackageName build.cjson
            (AdminManager.replaceSuperAdminByPackageName build.cjson s.device.admins
              keep.replaceAdmin keep.parents adminName edmAdminInfo).2
            keep.revertAdmin keep.revertParents newAdminName oldAdminInfo).2) := by
  have hreplace := AdminManager.replace_cases build.cjson s.device.admins keep.replaceAdmin
    keep.parents adminName edmAdminInfo
  unfold handleKeepPolicy
  dsimp only
  generalize AdminManager.replaceSuperAdminByPackageName build.cjson s.device.admins
    keep.replaceAdmin keep.parents adminName edmAdminInfo = r at hreplace ⊢
  obtain ⟨ret, admins⟩ := r
  dsimp only at hreplace ⊢
  rcases hreplace with ⟨hret, hsame⟩ | ⟨hret, -⟩
  · have hfailed : failed ret = true := bne_iff_ne.mpr hret
    rw [if_pos hfailed]
    exact .inl ⟨hret, hsame⟩
  · subst hret
    have hok : failed ERR_OK = false := by decide
    rw [hok, if_neg Bool.false_ne_true]
    refine .inr ⟨rfl, ?_⟩
    split
    · exact .inr rfl
    · repeat' split
      all_goals exact .inl rfl

end

end Edm
