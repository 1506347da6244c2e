import Edm.Ability.HandleDevicePolicy
import Edm.Ability.ManagedEvents
import Edm.Admin.Orderly

/-! Runs of the service: requests of any callers, one after the other, with statements and services
that succeed or fail. -/

set_option autoImplicit false

namespace Edm

open Library Library.UnorderedMap

/-- A request. -/
inductive ServiceOp (Req Reply : Type) where
  | enableAdmin (call : ServiceCall Reply) (admin : ElementName) (entInfo : EntInfo)
      (type : AdminType) (userId : Int) (permission : String) (enableSource : EnableSource)
  | enableDeviceAdmin (call : ServiceCall Reply) (admin : ElementName)
  | authorizeAdmin (call : ServiceCall Reply) (admin : ElementName) (bundleName : String)
  | setAdminRunningMode (call : ServiceCall Reply) (admin : ElementName) (runningMode : UInt32)
  | setDelegatedPolicies (call : ServiceCall Reply) (parentAdmin : ElementName)
      (bundleName : String) (policies : List String)
  | setDelegatedPoliciesOfUser (call : ServiceCall Reply) (bundleName : String)
      (policies : List String) (userId : Int)
  | disableAdmin (call : ServiceCall Reply) (admin : ElementName) (userId : Int)
  | disableSuperAdmin (call : ServiceCall Reply) (bundleName : String)
  | disableDeviceAdmin (call : ServiceCall Reply) (admin : ElementName)
  | replaceSuperAdmin (call : ServiceCall Reply)
      (keep : EnterpriseDeviceMgrAbility.KeepOutcomes) (oldAdmin newAdmin : ElementName)
      (keepPolicy : Bool)
  | handleDevicePolicy (call : ServiceCall Reply) (writes : Writes) (code : UInt32)
      (bundleName permissionTag : String) (userId : Int) (request : Req)
  | subscribeManagedEvent (call : ServiceCall Reply) (answers : AdapterAnswers)
      (admin : ElementName) (events : List UInt32)
  | unsubscribeManagedEvent (call : ServiceCall Reply) (admin : ElementName) (events : List UInt32)
  | restoreSubscriptions (answers : AdapterAnswers) (appLifecycleOnly : Bool)
  | interceptHandled (write : RdbOutcome) (answers : AdapterAnswers) (enabled : Bool)
      (adminName : String) (userId : Int)

section

variable {Modules Req Reply Event : Type} (build : Build Modules Req Reply Event)

namespace EnterpriseDeviceMgrAbility

/-- `HandleDevicePolicy` up to the update of the policy, and the update. -/
def setDevicePolicy (call : ServiceCall Reply) (s : Service Modules) (writes : Writes)
    (code : UInt32) (bundleName permissionTag : String) (userId : Int) (request : Req) :
    ErrCode × Service Modules :=
  match handleDevicePolicy build.pcOnly call.managers.toExternalManagers build.registry s.container
      call.caller code bundleName permissionTag userId with
  | .error ret => (ret, s)
  | .ok _ =>
    let s := s.getUserPolicyMgr userId
    let (ret, device) :=
      build.plugins.updateDevicePolicy s.device writes code bundleName request userId
    (ret, { s with device })

end EnterpriseDeviceMgrAbility

open EnterpriseDeviceMgrAbility

/-- The code that a request returns, and the service after it. -/
def applyOp (s : Service Modules) : ServiceOp Req Reply → ErrCode × Service Modules
  | .enableAdmin call admin entInfo type userId permission enableSource =>
    enableAdminWithPermission build call s admin entInfo type userId permission enableSource
  | .enableDeviceAdmin call admin => enableDeviceAdmin build call s admin
  | .authorizeAdmin call admin bundleName => authorizeAdmin build call s admin bundleName
  | .setAdminRunningMode call admin runningMode =>
    setAdminRunningMode build call s admin runningMode
  | .setDelegatedPolicies call parentAdmin bundleName policies =>
    setDelegatedPolicies build call s parentAdmin bundleName policies
  | .setDelegatedPoliciesOfUser call bundleName policies userId =>
    setDelegatedPoliciesOfUser build call s bundleName policies userId
  | .disableAdmin call admin userId => disableAdmin build call s admin userId
  | .disableSuperAdmin call bundleName => disableSuperAdmin build call s bundleName
  | .disableDeviceAdmin call admin => disableDeviceAdmin build call s admin
  | .replaceSuperAdmin call keep oldAdmin newAdmin keepPolicy =>
    replaceSuperAdmin build call s keep oldAdmin newAdmin keepPolicy
  | .handleDevicePolicy call writes code bundleName permissionTag userId request =>
    setDevicePolicy build call s writes code bundleName permissionTag userId request
  | .subscribeManagedEvent call answers admin events =>
    subscribeManagedEvent build call answers s admin events
  | .unsubscribeManagedEvent call admin events =>
    unsubscribeManagedEvent build call s admin events
  | .restoreSubscriptions answers appLifecycleOnly =>
    (ERR_OK, restoreSubscriptions build answers s appLifecycleOnly)
  | .interceptHandled write answers enabled adminName userId =>
    (ERR_OK, onInterceptHandled build answers s write enabled adminName userId)

def serviceStep (s : Service Modules) (op : ServiceOp Req Reply) : Service Modules :=
  (applyOp build s op).2

end

/-! ### The removal of an admin of a user -/

section

variable {Modules Req Reply Event : Type} {build : Build Modules Req Reply Event}

open EnterpriseDeviceMgrAbility

theorem removeAdminItem_admins (plugins : PluginTable Modules Req Reply Event)
    (d : Device Modules) (writes : Writes) (reply : Reply)
    (adminName policyName policyValue : String) (userId : Int) :
    (plugins.removeAdminItem d writes reply adminName policyName policyValue userId).2.admins =
      d.admins := by
  unfold PluginTable.removeAdminItem
  cases plugins.pluginsName policyName <;> rfl

theorem removeAdminItems_admins (plugins : PluginTable Modules Req Reply Event)
    (removal : Removal Reply) (items : List (String × String)) (d : Device Modules) :
    (removeAdminItems plugins removal d items).2.admins = d.admins := by
  induction items generalizing d with
  | nil => rfl
  | cons item items ih =>
    obtain ⟨policyName, policyValue⟩ := item
    have hitem := removeAdminItem_admins plugins d (removal.writes policyName)
      (removal.reply policyName) removal.adminName policyName policyValue removal.userId
    rw [removeAdminItems]
    dsimp only
    split
    · exact hitem
    · rw [ih, hitem]

/-- What a removal returns, and the admins that it leaves. -/
theorem removeAdminAndAdminPolicy_admins (plugins : PluginTable Modules Req Reply Event)
    (order : HashOrder) (removal : Removal Reply) (d : Device Modules) :
    ((removeAdminAndAdminPolicy plugins d order removal).1 ≠ ERR_OK ∧
        (removeAdminAndAdminPolicy plugins d order removal).2.admins = d.admins) ∨
      (removeAdminAndAdminPolicy plugins d order removal).1 = ERR_OK ∧
        (removeAdminAndAdminPolicy plugins d order removal).2.admins =
          (AdminManager.deleteAdmin d.admins .done removal.adminName removal.userId).2 := by
  have hpolicy : (removeAdminPolicy plugins d order removal).2.admins = d.admins := by
    unfold removeAdminPolicy
    split
    · rfl
    · exact removeAdminItems_admins plugins removal _ d
  unfold removeAdminAndAdminPolicy
  generalize removeAdminPolicy plugins d order removal = r at hpolicy ⊢
  obtain ⟨ret, d₁⟩ := r
  dsimp only at hpolicy ⊢
  by_cases hret : failed ret = true
  · rw [if_pos hret]
    exact .inl ⟨bne_iff_ne.mp hret, hpolicy⟩
  · rw [if_neg hret, removeAdmin_eq]
    by_cases hdelete : d₁.admins.container.hasAdmin removal.userId = true ∧ removal.deletion ≠ .done
    · rw [if_pos hdelete]
      have hfailed : failed ERR_EDM_DEL_ADMIN_FAILED = true := by decide
      dsimp only
      rw [if_pos hfailed]
      exact .inl ⟨bne_iff_ne.mp hfailed, hpolicy⟩
    · rw [if_neg hdelete]
      have hok : failed ERR_OK = false := by decide
      dsimp only
      rw [hok]
      exact .inr ⟨rfl, by rw [if_neg Bool.false_ne_true, hpolicy]⟩

theorem removeUnnamedAdmin_admins (outcomes : RemovalOutcomes Reply) (d : Device Modules)
    (userId : Int) :
    ((removeUnnamedAdmin outcomes d userId).1 ≠ ERR_OK ∧
        (removeUnnamedAdmin outcomes d userId).2 = d) ∨
      (removeUnnamedAdmin outcomes d userId).1 = ERR_OK ∧
        (removeUnnamedAdmin outcomes d userId).2 =
          { d with admins := (AdminManager.deleteAdmin d.admins .done "" userId).2 } := by
  have hne : ERR_EDM_DEL_ADMIN_FAILED ≠ ERR_OK := by decide
  unfold removeUnnamedAdmin AdminManager.deleteAdmin
  by_cases hadmin : d.admins.container.hasAdmin userId = true
  · rw [if_pos hadmin, if_pos hadmin]
    cases outcomes.deletion "" userId with
    | unavailable => exact .inl ⟨hne, rfl⟩
    | failed => exact .inl ⟨hne, rfl⟩
    | done => exact .inr ⟨rfl, rfl⟩
  · rw [if_neg hadmin, if_neg hadmin]
    exact .inr ⟨rfl, rfl⟩

theorem getUserPolicyMgr_device (s : Service Modules) (userId : Int) :
    (s.getUserPolicyMgr userId).device = s.device := by
  unfold Service.getUserPolicyMgr
  split <;> rfl

theorem getUserPolicyMgr_relayer (s : Service Modules) (userId : Int) :
    (s.getUserPolicyMgr userId).relayer = s.relayer := by
  unfold Service.getUserPolicyMgr
  split <;> rfl

/-- What holds of both ways of taking an admin away, with a name and without, holds of a removal. -/
theorem removeAdminOfUser_outcome {P : ErrCode × Device Modules → Prop}
    {outcomes : RemovalOutcomes Reply} {s : Service Modules} {adminName : String} {userId : Int}
    (hunnamed : adminName = "" → P (removeUnnamedAdmin outcomes s.device userId))
    (hnamed : ∀ h : adminName ≠ "", P (removeAdminAndAdminPolicy build.plugins s.device
      build.itemOrder (outcomes.removal ⟨adminName, h⟩ userId))) :
    P ((removeAdminOfUser build outcomes s adminName userId).1,
      (removeAdminOfUser build outcomes s adminName userId).2.device) := by
  have hremoved : P (if h : adminName = "" then removeUnnamedAdmin outcomes s.device userId
      else removeAdminAndAdminPolicy build.plugins s.device build.itemOrder
        (outcomes.removal ⟨adminName, h⟩ userId)) := by
    split
    · exact hunnamed ‹_›
    · exact hnamed ‹_›
  unfold removeAdminOfUser
  dsimp only
  rw [getUserPolicyMgr_device]
  generalize (if h : adminName = "" then removeUnnamedAdmin outcomes s.device userId
    else removeAdminAndAdminPolicy build.plugins s.device build.itemOrder
      (outcomes.removal ⟨adminName, h⟩ userId)) = r at hremoved ⊢
  obtain ⟨ret, d⟩ := r
  dsimp only
  split <;> exact hremoved

/-- The relayer is told of the admin exactly when the removal succeeds. -/
theorem removeAdminOfUser_relayer (outcomes : RemovalOutcomes Reply) (s : Service Modules)
    (adminName : String) (userId : Int) :
    ((removeAdminOfUser build outcomes s adminName userId).1 ≠ ERR_OK ∧
        (removeAdminOfUser build outcomes s adminName userId).2.relayer = s.relayer) ∨
      (removeAdminOfUser build outcomes s adminName userId).1 = ERR_OK ∧
        (removeAdminOfUser build outcomes s adminName userId).2.relayer =
          s.relayer.onAdminRemoved build.eventOrder adminName userId := by
  rw [← getUserPolicyMgr_relayer s userId]
  unfold removeAdminOfUser
  dsimp only
  generalize (if h : adminName = "" then
      removeUnnamedAdmin outcomes (s.getUserPolicyMgr userId).device userId
    else removeAdminAndAdminPolicy build.plugins (s.getUserPolicyMgr userId).device build.itemOrder
      (outcomes.removal ⟨adminName, h⟩ userId)) = r
  obtain ⟨ret, d⟩ := r
  dsimp only
  by_cases hret : failed ret = true
  · rw [if_pos hret]
    exact .inl ⟨bne_iff_ne.mp hret, rfl⟩
  · rw [if_neg hret]
    exact .inr ⟨not_not.mp fun hne => hret (bne_iff_ne.mpr hne), rfl⟩

theorem removeAdminOfUser_admins (outcomes : RemovalOutcomes Reply) (s : Service Modules)
    (adminName : String) (userId : Int) :
    ((removeAdminOfUser build outcomes s adminName userId).1 ≠ ERR_OK ∧
        (removeAdminOfUser build outcomes s adminName userId).2.device.admins = s.device.admins) ∨
      (removeAdminOfUser build outcomes s adminName userId).1 = ERR_OK ∧
        (removeAdminOfUser build outcomes s adminName userId).2.device.admins =
          (AdminManager.deleteAdmin s.device.admins .done adminName userId).2 := by
  refine removeAdminOfUser_outcome
    (P := fun r => (r.1 ≠ ERR_OK ∧ r.2.admins = s.device.admins) ∨ r.1 = ERR_OK ∧
      r.2.admins = (AdminManager.deleteAdmin s.device.admins .done adminName userId).2)
    (fun hname => ?_) fun hname =>
      removeAdminAndAdminPolicy_admins build.plugins build.itemOrder _ s.device
  subst hname
  rcases removeUnnamedAdmin_admins outcomes s.device userId with ⟨hret, hd⟩ | ⟨hret, hd⟩
  · exact .inl ⟨hret, congrArg Device.admins hd⟩
  · exact .inr ⟨hret, congrArg Device.admins hd⟩

/-- A removal fails and leaves the admins and the relayer, or takes the admin away from both. -/
theorem removeAdminOfUser_cases (outcomes : RemovalOutcomes Reply) (s : Service Modules)
    (adminName : String) (userId : Int) :
    ((removeAdminOfUser build outcomes s adminName userId).1 ≠ ERR_OK ∧
        (removeAdminOfUser build outcomes s adminName userId).2.device.admins = s.device.admins ∧
        (removeAdminOfUser build outcomes s adminName userId).2.relayer = s.relayer) ∨
      (removeAdminOfUser build outcomes s adminName userId).1 = ERR_OK ∧
        (removeAdminOfUser build outcomes s adminName userId).2.device.admins =
          (AdminManager.deleteAdmin s.device.admins .done adminName userId).2 ∧
        (removeAdminOfUser build outcomes s adminName userId).2.relayer =
          s.relayer.onAdminRemoved build.eventOrder adminName userId := by
  have hadmins := @removeAdminOfUser_admins _ _ _ _ build outcomes s adminName userId
  have hrelayer := @removeAdminOfUser_relayer _ _ _ _ build outcomes s adminName userId
  rcases hadmins with ⟨hret, hd⟩ | ⟨hret, hd⟩
  · exact .inl ⟨hret, hd, (hrelayer.resolve_right fun hok => hret hok.1).2⟩
  · exact .inr ⟨hret, hd, (hrelayer.resolve_left fun hfailed => hfailed.1 hret).2⟩

/-- The admins that a deletion leaves. -/
theorem adminsOf_deleteAdmin_done (s : AdminState) (packageName : String) (u v : Int) :
    (AdminManager.deleteAdmin s .done packageName u).2.container.adminsOf v =
      if v = u then (s.container.adminsOf v).filter fun admin => admin.packageName != packageName
      else s.container.adminsOf v := by
  unfold AdminManager.deleteAdmin
  by_cases hadmin : s.container.hasAdmin u = true
  · rw [if_pos hadmin]
    exact s.container.adminsOf_deleteAdmin packageName u v
  · rw [if_neg hadmin]
    by_cases hv : v = u
    · subst hv
      have hnone : s.container.lookup v = none := by
        unfold AdminContainer.hasAdmin at hadmin
        rwa [Bool.not_eq_true, Option.isSome_eq_false_iff, Option.isNone_iff_eq_none] at hadmin
      rw [if_pos rfl, AdminContainer.adminsOf, hnone]
      rfl
    · rw [if_neg hv]

end

/-! ### The loops of a removal -/

section

variable {Modules Req Reply Event : Type} {build : Build Modules Req Reply Event}
  {outcomes : RemovalOutcomes Reply} {P : Service Modules → Prop}

open EnterpriseDeviceMgrAbility

/-- What every removal of an admin of a user keeps. -/
abbrev KeptByRemoval (build : Build Modules Req Reply Event) (outcomes : RemovalOutcomes Reply)
    (P : Service Modules → Prop) : Prop :=
  ∀ s adminName userId, P s → P (removeAdminOfUser build outcomes s adminName userId).2

theorem KeptByRemoval.subOrSuper (h : KeptByRemoval build outcomes P) (bundleName : String)
    (userIds : List Int) {s : Service Modules} (hs : P s) :
    P (removeSubOrSuperAdminAndAdminPolicy build outcomes bundleName s userIds).2 := by
  induction userIds generalizing s with
  | nil => exact h s bundleName DEFAULT_USER_ID hs
  | cons userId userIds ih =>
    rw [removeSubOrSuperAdminAndAdminPolicy]
    have hnext := h s bundleName userId hs
    generalize removeAdminOfUser build outcomes s bundleName userId = r at hnext ⊢
    obtain ⟨ret, s'⟩ := r
    dsimp only at hnext ⊢
    split
    · exact hnext
    · exact ih hnext

theorem KeptByRemoval.subAdmins (h : KeptByRemoval build outcomes P) (userIds : List Int)
    (names : List String) {s : Service Modules} (hs : P s) :
    P (removeSubAdmins build outcomes userIds s names).2 := by
  induction names generalizing s with
  | nil => exact hs
  | cons name names ih =>
    rw [removeSubAdmins]
    have hnext := h.subOrSuper name userIds hs
    generalize removeSubOrSuperAdminAndAdminPolicy build outcomes name s userIds = r at hnext ⊢
    obtain ⟨ret, s'⟩ := r
    dsimp only at hnext ⊢
    split
    · exact hnext
    · exact ih hnext

theorem KeptByRemoval.super (h : KeptByRemoval build outcomes P) (bundleName : String)
    {s : Service Modules} (hs : P s) :
    P (removeSuperAdminAndAdminPolicy build outcomes s bundleName).2 := by
  unfold removeSuperAdminAndAdminPolicy
  have hnext := h.subAdmins (getPolicyUserIds build s)
    (AdminManager.getSubSuperAdminsByParentName s.container bundleName) hs
  dsimp only
  generalize removeSubAdmins build outcomes (getPolicyUserIds build s) s
    (AdminManager.getSubSuperAdminsByParentName s.container bundleName) = r at hnext ⊢
  obtain ⟨ret, s'⟩ := r
  dsimp only at hnext ⊢
  split
  · exact hnext
  · exact h.subOrSuper bundleName _ hnext

theorem KeptByRemoval.disable {call : ServiceCall Reply}
    (h : KeptByRemoval build call.outcomes P) (admin : Admin) (userId : Int)
    {s : Service Modules} (hs : P s) : P (doDisableAdmin build call s admin userId).2 := by
  have hremoved : P (removeDisabledAdmin build call s admin userId).2 := by
    unfold removeDisabledAdmin
    dsimp only
    split
    · exact h.super _ hs
    · split
      · exact h.subOrSuper _ _ hs
      · exact h s _ _ hs
  unfold doDisableAdmin
  dsimp only
  split <;> exact hremoved

/-! ### What a successful removal leaves -/

/-- The packages `names` are gone from the users `userIds` and the default user, and nothing else
is. -/
def RemovedFrom (names : List String) (userIds : List Int) (c c' : AdminContainer) : Prop :=
  ∀ v, c'.adminsOf v =
    if v ∈ userIds ∨ v = DEFAULT_USER_ID then
      (c.adminsOf v).filter fun admin => !names.contains admin.packageName
    else c.adminsOf v

theorem RemovedFrom.trans {names names' : List String} {userIds : List Int}
    {c c₁ c' : AdminContainer} (h : RemovedFrom names userIds c c₁)
    (h' : RemovedFrom names' userIds c₁ c') : RemovedFrom (names ++ names') userIds c c' := by
  intro v
  rw [h' v, h v]
  split
  · rw [List.filter_filter]
    refine List.filter_congr fun admin _ => ?_
    rw [Bool.eq_iff_iff]
    simp [and_comm]
  · rfl

theorem del_admin_failed_ne : ERR_EDM_DEL_ADMIN_FAILED ≠ ERR_OK := by decide

variable {s : Service Modules} {bundleName : String}

/-- The removal from one user that succeeds. -/
theorem removeAdminOfUser_ok {userId : Int}
    (h : (removeAdminOfUser build outcomes s bundleName userId).1 = ERR_OK) (v : Int) :
    (removeAdminOfUser build outcomes s bundleName userId).2.container.adminsOf v =
      if v = userId then
        (s.container.adminsOf v).filter fun admin => admin.packageName != bundleName
      else s.container.adminsOf v := by
  rcases removeAdminOfUser_cases outcomes s bundleName userId with ⟨hne, -⟩ | ⟨-, hadmins, -⟩
  · exact absurd h hne
  · unfold Service.container
    rw [hadmins]
    exact adminsOf_deleteAdmin_done s.device.admins bundleName userId v

theorem removeSubOrSuper_ok {userIds : List Int}
    (h : (removeSubOrSuperAdminAndAdminPolicy build outcomes bundleName s userIds).1 = ERR_OK) :
    RemovedFrom [bundleName] userIds s.container
      (removeSubOrSuperAdminAndAdminPolicy build outcomes bundleName s userIds).2.container := by
  have hname : ∀ admin : AdminInfo,
      (!([bundleName].contains admin.packageName)) = (admin.packageName != bundleName) := by
    intro admin
    rw [List.contains_cons, List.contains_nil, Bool.or_false]
    rfl
  induction userIds generalizing s with
  | nil =>
    intro v
    simp only [hname, List.not_mem_nil, false_or]
    exact removeAdminOfUser_ok h v
  | cons userId userIds ih =>
    intro v
    rw [removeSubOrSuperAdminAndAdminPolicy] at h ⊢
    have hfirst := @removeAdminOfUser_ok _ _ _ _ build outcomes s bundleName userId
    generalize removeAdminOfUser build outcomes s bundleName userId = r at h hfirst ⊢
    obtain ⟨ret, s'⟩ := r
    dsimp only at h hfirst ⊢
    split at h <;> rename_i hret
    · exact absurd h del_admin_failed_ne
    · rw [if_neg hret]
      have hok : ret = ERR_OK := by simpa using hret
      rw [ih h v, hfirst hok v]
      simp only [hname, List.mem_cons]
      by_cases hv : v = userId
      · subst hv
        simp
      · simp [hv]

theorem removeSubAdmins_ok {userIds : List Int} {names : List String}
    (h : (removeSubAdmins build outcomes userIds s names).1 = ERR_OK) :
    RemovedFrom names userIds s.container
      (removeSubAdmins build outcomes userIds s names).2.container := by
  induction names generalizing s with
  | nil =>
    intro v
    simp [removeSubAdmins]
  | cons name names ih =>
    rw [removeSubAdmins] at h ⊢
    have hfirst := @removeSubOrSuper_ok _ _ _ _ build outcomes s name userIds
    generalize removeSubOrSuperAdminAndAdminPolicy build outcomes name s userIds = r at h hfirst ⊢
    obtain ⟨ret, s'⟩ := r
    dsimp only at h hfirst ⊢
    split at h <;> rename_i hret
    · exact absurd h del_admin_failed_ne
    · rw [if_neg hret]
      have hok : ret = ERR_OK := by simpa using hret
      exact (hfirst hok).trans (ih h)

/-- The names that the removal of a super admin is about: its children and itself. -/
def familyNames (c : AdminContainer) (bundleName : String) : List String :=
  AdminManager.getSubSuperAdminsByParentName c bundleName ++ [bundleName]

theorem removeSuper_ok
    (h : (removeSuperAdminAndAdminPolicy build outcomes s bundleName).1 = ERR_OK) :
    RemovedFrom (familyNames s.container bundleName) (getPolicyUserIds build s) s.container
      (removeSuperAdminAndAdminPolicy build outcomes s bundleName).2.container := by
  unfold removeSuperAdminAndAdminPolicy at h ⊢
  have hchildren := @removeSubAdmins_ok _ _ _ _ build outcomes s (getPolicyUserIds build s)
    (AdminManager.getSubSuperAdminsByParentName s.container bundleName)
  dsimp only at h ⊢
  generalize removeSubAdmins build outcomes (getPolicyUserIds build s) s
    (AdminManager.getSubSuperAdminsByParentName s.container bundleName) = r at h hchildren ⊢
  obtain ⟨ret, s'⟩ := r
  dsimp only at h hchildren ⊢
  split at h <;> rename_i hret
  · exact absurd h (bne_iff_ne.mp hret)
  · rw [if_neg hret]
    have hok : ret = ERR_OK := by simpa [failed] using hret
    exact (hchildren hok).trans (removeSubOrSuper_ok h)

theorem mem_familyNames (c : AdminContainer) (bundleName : String) :
    bundleName ∈ familyNames c bundleName :=
  List.mem_append_right _ (List.mem_singleton_self bundleName)

/-- Disabling a super admin successfully. -/
theorem doDisableAdmin_super_ok {call : ServiceCall Reply} {admin : Admin} {userId : Int}
    {s' : Service Modules} (hsuper : admin.isSuperAdmin = true)
    (h : doDisableAdmin build call s admin userId = (ERR_OK, s')) :
    RemovedFrom (familyNames s.container admin.adminInfo.packageName) (getPolicyUserIds build s)
      s.container s'.container := by
  have hremove := @removeSuper_ok _ _ _ _ build call.outcomes s admin.adminInfo.packageName
  unfold doDisableAdmin removeDisabledAdmin at h
  dsimp only at h
  rw [if_pos hsuper] at h
  generalize removeSuperAdminAndAdminPolicy build call.outcomes s admin.adminInfo.packageName = r
    at h hremove
  obtain ⟨ret, s₁⟩ := r
  dsimp only at h hremove
  split at h <;> rename_i hret
  · have hne : EdmReturnErrCode.DISABLE_ADMIN_FAILED ≠ ERR_OK := by decide
    exact absurd (congrArg Prod.fst h) hne
  · cases h
    exact hremove (bne_eq_false_iff_eq.mp (Bool.eq_false_iff.mpr hret))

theorem RemovedFrom.population {names : List String} {userIds : List Int} {c c' : AdminContainer}
    (h : RemovedFrom names userIds c c') :
    c'.population DEFAULT_USER_ID =
      (c.population DEFAULT_USER_ID).filter fun admin => !names.contains admin.packageName := by
  unfold AdminContainer.population
  rw [h DEFAULT_USER_ID, if_pos (.inr rfl), List.filter_map]
  rfl

/-! ### What any removal leaves -/

/-- Some admins of the packages `names` may be gone, and nothing else is. -/
structure Trimmed (names : List String) (c c' : AdminContainer) : Prop where
  subset : ∀ v item, item ∈ c'.adminsOf v → item ∈ c.adminsOf v
  others : ∀ v item, item ∈ c.adminsOf v → item.packageName ∉ names → item ∈ c'.adminsOf v

theorem Trimmed.refl (names : List String) (c : AdminContainer) : Trimmed names c c :=
  ⟨fun _ _ h => h, fun _ _ h _ => h⟩

theorem Trimmed.trans {names : List String} {c c₁ c' : AdminContainer} (h : Trimmed names c c₁)
    (h' : Trimmed names c₁ c') : Trimmed names c c' :=
  ⟨fun v item hitem => h.subset v item (h'.subset v item hitem),
    fun v item hitem hname => h'.others v item (h.others v item hitem hname) hname⟩

theorem Trimmed.mono {names names' : List String} {c c' : AdminContainer} (h : Trimmed names c c')
    (hnames : ∀ name, name ∈ names → name ∈ names') : Trimmed names' c c' :=
  ⟨h.subset, fun v item hitem hname => h.others v item hitem fun hx => hname (hnames _ hx)⟩

theorem removeAdminOfUser_trimmed (s : Service Modules) (bundleName : String) (userId : Int) :
    Trimmed [bundleName] s.container
      (removeAdminOfUser build outcomes s bundleName userId).2.container := by
  rcases @removeAdminOfUser_cases _ _ _ _ build outcomes s bundleName userId with
    ⟨-, hadmins, -⟩ | ⟨-, hadmins, -⟩
  · unfold Service.container
    rw [hadmins]
    exact .refl _ _
  · unfold Service.container
    rw [hadmins]
    constructor
    · intro v item hitem
      rw [adminsOf_deleteAdmin_done] at hitem
      split at hitem
      · exact (List.mem_filter.mp hitem).1
      · exact hitem
    · intro v item hitem hname
      rw [adminsOf_deleteAdmin_done]
      split
      · exact List.mem_filter.mpr ⟨hitem, bne_iff_ne.mpr fun hx => hname (hx ▸ List.mem_singleton_self _)⟩
      · exact hitem

theorem removeSubOrSuper_trimmed (s : Service Modules) (bundleName : String)
    (userIds : List Int) :
    Trimmed [bundleName] s.container
      (removeSubOrSuperAdminAndAdminPolicy build outcomes bundleName s userIds).2.container := by
  induction userIds generalizing s with
  | nil => exact removeAdminOfUser_trimmed s bundleName DEFAULT_USER_ID
  | cons userId userIds ih =>
    rw [removeSubOrSuperAdminAndAdminPolicy]
    have hnext := @removeAdminOfUser_trimmed _ _ _ _ build outcomes s bundleName userId
    generalize removeAdminOfUser build outcomes s bundleName userId = r at hnext ⊢
    obtain ⟨ret, s'⟩ := r
    dsimp only at hnext ⊢
    split
    · exact hnext
    · exact hnext.trans (ih s')

theorem removeSubAdmins_trimmed (s : Service Modules) (userIds : List Int) (names : List String) :
    Trimmed names s.container (removeSubAdmins build outcomes userIds s names).2.container := by
  induction names generalizing s with
  | nil => exact .refl _ _
  | cons name names ih =>
    rw [removeSubAdmins]
    have hnext := (@removeSubOrSuper_trimmed _ _ _ _ build outcomes s name userIds).mono
      fun x (hx : x ∈ [name]) => (List.mem_singleton.mp hx ▸ List.mem_cons_self : x ∈ name :: names)
    generalize removeSubOrSuperAdminAndAdminPolicy build outcomes name s userIds = r at hnext ⊢
    obtain ⟨ret, s'⟩ := r
    dsimp only at hnext ⊢
    split
    · exact hnext
    · exact hnext.trans ((ih s').mono fun x hx => List.mem_cons_of_mem name hx)

theorem removeSuper_trimmed (s : Service Modules) (bundleName : String) :
    Trimmed (familyNames s.container bundleName) s.container
      (removeSuperAdminAndAdminPolicy build outcomes s bundleName).2.container := by
  unfold removeSuperAdminAndAdminPolicy familyNames
  have hchildren := (@removeSubAdmins_trimmed _ _ _ _ build outcomes s (getPolicyUserIds build s)
    (AdminManager.getSubSuperAdminsByParentName s.container bundleName)).mono
    fun x hx => List.mem_append_left [bundleName] hx
  dsimp only
  generalize removeSubAdmins build outcomes (getPolicyUserIds build s) s
    (AdminManager.getSubSuperAdminsByParentName s.container bundleName) = r at hchildren ⊢
  obtain ⟨ret, s'⟩ := r
  dsimp only at hchildren ⊢
  split
  · exact hchildren
  · exact hchildren.trans ((removeSubOrSuper_trimmed s' bundleName _).mono
      fun x hx => List.mem_append_right _ hx)

/-- The default user comes last, so a removal that fails leaves its admins. -/
theorem removeSubOrSuper_failed {userIds : List Int} (hdefault : DEFAULT_USER_ID ∉ userIds)
    (h : (removeSubOrSuperAdminAndAdminPolicy build outcomes bundleName s userIds).1 ≠ ERR_OK) :
    (removeSubOrSuperAdminAndAdminPolicy build outcomes bundleName s userIds).2.container.adminsOf
      DEFAULT_USER_ID = s.container.adminsOf DEFAULT_USER_ID := by
  induction userIds generalizing s with
  | nil =>
    rcases @removeAdminOfUser_cases _ _ _ _ build outcomes s bundleName DEFAULT_USER_ID with
      ⟨-, hadmins, -⟩ | ⟨hok, -, -⟩
    · exact congrArg (fun admins : AdminState => admins.container.adminsOf DEFAULT_USER_ID) hadmins
    · exact absurd hok h
  | cons userId userIds ih =>
    have hne : DEFAULT_USER_ID ≠ userId := fun hx => hdefault (hx ▸ List.mem_cons_self)
    have hfirst : (removeAdminOfUser build outcomes s bundleName userId).2.container.adminsOf
        DEFAULT_USER_ID = s.container.adminsOf DEFAULT_USER_ID := by
      unfold Service.container
      rcases @removeAdminOfUser_cases _ _ _ _ build outcomes s bundleName userId with
        ⟨-, hadmins, -⟩ | ⟨-, hadmins, -⟩
      · rw [hadmins]
      · rw [hadmins, adminsOf_deleteAdmin_done, if_neg hne]
    rw [removeSubOrSuperAdminAndAdminPolicy] at h ⊢
    generalize removeAdminOfUser build outcomes s bundleName userId = r at h hfirst ⊢
    obtain ⟨ret, s'⟩ := r
    dsimp only at h hfirst ⊢
    split at h <;> rename_i hret
    · rw [if_pos hret]
      exact hfirst
    · rw [if_neg hret]
      exact (ih (fun hx => hdefault (List.mem_cons_of_mem _ hx)) h).trans hfirst

end

/-! ### A system that agrees to everything -/

/-- The system as `bundleName` sees it, while `userId` is in the foreground. -/
def AbilityManagers.agreeing (bundleName : String) (userId : Int) : AbilityManagers where
  getNameForUid _ := (ERR_OK, bundleName)
  verifyCallingPermission _ _ := true
  isSystemAppOrNative _ := true
  queryActiveOsAccountIds := (ERR_OK, [userId])
  isOsAccountExists _ := true
  isDebug := false
  getHapTokenBundleName _ := bundleName
  queryExtensionAbilityInfos bundleName abilityName _ := [(bundleName, abilityName)]
  queryExtensionAbilityInfos_bundle bundleName abilityName _ info h := by
    rw [List.mem_singleton.mp h]
  getBundleInfo _ _ := some []
  isBundleInstalled _ _ := true
  getApplicationInfo _ _ := APP_TYPE_ENTERPRISE_MDM
  getExtensionEnterpriseAdminName _ _ := "Ability"
  securityMode := false
  maintenanceMode := false

/-- A call whose statements all take effect. -/
def ServiceCall.agreeing {Reply : Type} (reply : Reply) (bundleName : String) (userId : Int) :
    ServiceCall Reply where
  managers := .agreeing bundleName userId
  caller := ⟨20010001, 1⟩
  outcomes := ⟨fun _ _ _ => ⟨.done, .done⟩, fun _ _ _ => reply, fun _ _ => .done⟩
  write := .done

def eventsAscending : KeyOrder ManagedEvent := .sorted (· ≤ ·)

/-- A service without plugins. -/
def Build.bare : Build Unit Unit Unit Unit where
  cjson := .standard
  pcOnly := false
  plugins :=
    { pluginsCode := fun _ => none, pluginsName := fun _ => none
      pluginsName_policyName := fun _ _ h => nomatch h }
  registry _ := none
  policyPlugins _ := none
  registry_policyName _ _ h := nomatch h
  itemOrder := .byKey
  userOrder := .ascending
  eventOrder := eventsAscending

end Edm
