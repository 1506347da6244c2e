import Edm.Ability.RemovalPlan
import Edm.Ability.PopulationRun

/-! What every write to the container of the admins keeps, every request to the service keeps. -/

set_option autoImplicit false

namespace Edm

open Library Library.UnorderedMap EnterpriseDeviceMgrAbility

/-- A property that the methods of the container keep. -/
structure AdminContainer.KeptByWrites (P : AdminContainer → Prop) : Prop where
  set : ∀ c userId adminItem, P c → P (c.setAdminByUserId userId adminItem)
  delete : ∀ c packageName userId, P c → P (AdminContainer.deleteAdmin c packageName userId)
  update : ∀ c userId packageName code adminInfo, P c →
    P (c.updateAdmin userId packageName code adminInfo)
  parent : ∀ c userId parentAdminName updateName, P c →
    P (c.updateParentAdminName userId parentAdminName updateName)

namespace AdminContainer.KeptByWrites

variable {P : AdminContainer → Prop} (h : KeptByWrites P)

include h

/-! ### The manager of the admins -/

theorem setAdminValue {C : CJson} {s : AdminState} (hs : P s.container) (write : RdbOutcome)
    (u : Int) (item : AdminInfo) : P (AdminManager.setAdminValue C s write u item).2.container := by
  rcases AdminManager.setAdminValue_cases C s write u item with hsame | ⟨-, -, hdone⟩ | ⟨-, -, hdone⟩
  · rw [hsame]
    exact hs
  · rw [hdone]
    exact h.update _ _ _ _ _ hs
  · rw [hdone]
    exact h.set _ _ _ hs

theorem replace {C : CJson} {s : AdminState} (hs : P s.container) (write : RdbOutcome)
    (parents : Option Nat) (packageName : String) (item : AdminInfo) :
    P (AdminManager.replaceSuperAdminByPackageName C s write parents packageName
      item).2.container := by
  rcases AdminManager.replace_cases C s write parents packageName item with
    ⟨-, hsame⟩ | ⟨-, hdone⟩
  · rw [hsame]
    exact hs
  · rw [hdone]
    exact h.parent _ _ _ _ (h.update _ _ _ _ _ hs)

theorem events {c c' : AdminContainer} {packageName : String} {u : Int} (hc : P c)
    (hwritten : AdminManager.EventsWritten c packageName u c') : P c' := by
  rcases hwritten with rfl | ⟨adminInfo, rfl⟩
  · exact hc
  · exact h.update _ _ _ _ _ hc

/-! ### The service -/

variable {Modules Req Reply Event : Type} {build : Build Modules Req Reply Event}

theorem removal {outcomes : RemovalOutcomes Reply} :
    KeptByRemoval build outcomes fun s => P s.container := by
  intro s adminName userId hs
  unfold Service.container
  rcases @removeAdminOfUser_cases _ _ _ _ build outcomes s adminName userId with
    ⟨-, hadmins, -⟩ | ⟨-, hadmins, -⟩
  · rw [hadmins]
    exact hs
  · rw [hadmins]
    unfold AdminManager.deleteAdmin
    split
    · exact h.delete _ _ _ hs
    · exact hs

theorem handleKeepPolicy {s : Service Modules} (hs : P s.container) (keep : KeepOutcomes)
    (adminName newAdminName : String) (edmAdminInfo oldAdminInfo : AdminInfo) :
    P (handleKeepPolicy build s keep adminName newAdminName edmAdminInfo
      oldAdminInfo).2.container := by
  rcases handleKeepPolicy_admins build s keep adminName newAdminName edmAdminInfo oldAdminInfo with
    ⟨-, hsame⟩ | ⟨-, hdone | hdone⟩
  · rw [hsame]
    exact hs
  · unfold Service.container
    rw [hdone]
    exact h.replace hs _ _ _ _
  · unfold Service.container
    rw [hdone]
    exact h.replace (h.replace hs _ _ _ _) _ _ _ _

theorem replaceSuperAdmin {s : Service Modules} (hs : P s.container) (call : ServiceCall Reply)
    (keep : KeepOutcomes) (oldAdmin newAdmin : ElementName) (keepPolicy : Bool) :
    P (replaceSuperAdmin build call s keep oldAdmin newAdmin keepPolicy).2.container := by
  unfold EnterpriseDeviceMgrAbility.replaceSuperAdmin
  split
  · exact hs
  · split
    · exact hs
    · split
      · exact hs
      · rename_i adminPtr hfound
        dsimp only
        split
        · exact h.handleKeepPolicy hs keep _ _ _ _
        · have hremoved : P (doDisableAdmin build call s adminPtr DEFAULT_USER_ID).2.container :=
            h.removal.disable _ _ hs
          generalize doDisableAdmin build call s adminPtr DEFAULT_USER_ID = r at hremoved ⊢
          obtain ⟨res, s₁⟩ := r
          dsimp only at hremoved ⊢
          split
          · exact hremoved
          · split <;> exact h.setAdminValue hremoved _ _ _

/-- Every request keeps it. -/
theorem step (s : Service Modules) (op : ServiceOp Req Reply) (hs : P s.container) :
    P (serviceStep build s op).container := by
  have hset : ∀ {call : ServiceCall Reply} {u : Int} {item : AdminInfo},
      P (EnterpriseDeviceMgrAbility.setAdminValue build call s u item).2.container :=
    h.setAdminValue hs _ _ _
  have hadded : ∀ {answers : AdapterAnswers} {write : RdbOutcome} {adminName : String} {u : Int}
      {events : List UInt32},
      P (addManagedEvents build answers s write adminName u events).container :=
    h.events hs (AdminManager.eventsWritten_save _ _ _ _ _ _)
  have hremoved : ∀ {write : RdbOutcome} {adminName : String} {u : Int} {events : List UInt32},
      P (removeManagedEvents build s write adminName u events).container :=
    h.events hs (AdminManager.eventsWritten_remove _ _ _ _ _ _)
  cases op with
  | enableAdmin call admin entInfo type userId permission enableSource =>
    show P (enableAdminWithPermission _ _ _ _ _ _ _ _ _).2.container
    unfold enableAdminWithPermission
    split
    · exact hs
    · dsimp only
      split <;> exact hset
  | enableDeviceAdmin call admin =>
    show P (enableDeviceAdmin _ _ _ _).2.container
    unfold enableDeviceAdmin
    split
    · exact hs
    · exact hs
    · dsimp only
      split <;> exact hset
  | authorizeAdmin call admin bundleName =>
    show P (authorizeAdmin _ _ _ _ _).2.container
    unfold authorizeAdmin
    split
    · exact hs
    · exact hset
  | setAdminRunningMode call admin runningMode =>
    show P (setAdminRunningMode _ _ _ _ _).2.container
    unfold setAdminRunningMode
    split
    · exact hs
    · exact hset
  | setDelegatedPolicies call parentAdmin bundleName policies =>
    show P (setDelegatedPolicies _ _ _ _ _ _).2.container
    unfold setDelegatedPolicies
    split
    · exact hs
    · split
      · exact hs
      · split
        · exact h.removal.subOrSuper bundleName _ hs
        · split
          · exact hs
          · exact hset
  | setDelegatedPoliciesOfUser call bundleName policies userId =>
    show P (setDelegatedPoliciesOfUser _ _ _ _ _ _).2.container
    unfold setDelegatedPoliciesOfUser
    split
    · exact hs
    · exact hset
  | disableAdmin call admin userId =>
    show P (disableAdmin _ _ _ _ _).2.container
    unfold disableAdmin
    split
    · exact hs
    · dsimp only
      split
      · exact hs
      · exact h.removal.disable _ _ hs
  | disableSuperAdmin call bundleName =>
    show P (disableSuperAdmin _ _ _ _).2.container
    unfold disableSuperAdmin
    split
    · exact hs
    · dsimp only
      split
      · exact hs
      · exact h.removal.disable _ _ hs
  | disableDeviceAdmin call admin =>
    show P (disableDeviceAdmin _ _ _ _).2.container
    unfold disableDeviceAdmin
    split
    · exact hs
    · dsimp only
      split
      · exact hs
      · exact h.removal.disable _ _ hs
  | replaceSuperAdmin call keep oldAdmin newAdmin keepPolicy =>
    exact h.replaceSuperAdmin hs call keep oldAdmin newAdmin keepPolicy
  | handleDevicePolicy call writes code bundleName permissionTag userId request =>
    have hadmins := @setDevicePolicy_admins _ _ _ _ build call s writes code bundleName
      permissionTag userId request
    show P (setDevicePolicy _ _ _ _ _ _ _ _ _).2.device.admins.container
    rw [hadmins]
    exact hs
  | subscribeManagedEvent call answers admin events =>
    show P (subscribeManagedEvent _ _ _ _ _ _).2.container
    unfold subscribeManagedEvent
    dsimp only
    split
    · exact hs
    · exact hadded
  | unsubscribeManagedEvent call admin events =>
    show P (unsubscribeManagedEvent _ _ _ _ _).2.container
    unfold unsubscribeManagedEvent
    dsimp only
    split
    · exact hs
    · exact hremoved
  | restoreSubscriptions answers appLifecycleOnly => exact hs
  | interceptHandled write answers enabled adminName userId =>
    show P (onInterceptHandled _ _ _ _ _ _ _).container
    unfold onInterceptHandled
    dsimp only
    split
    · exact hadded
    · exact hremoved

end AdminContainer.KeptByWrites

/-! ### Users without admins -/

theorem populated_of_lookup {c c' : AdminContainer} {userId : Int} {f : AdminInfo → AdminInfo}
    (h : c.Populated)
    (hmapped : ∀ u, c'.lookup u =
      if u = userId then (c.lookup u).map (List.map f) else c.lookup u) : c'.Populated := by
  intro u hadmin
  have hadmins := AdminContainer.adminsOf_mapped hmapped u
  have hsome : c.hasAdmin u = true := by
    unfold AdminContainer.hasAdmin at hadmin ⊢
    rw [hmapped] at hadmin
    split at hadmin
    · rwa [Option.isSome_map] at hadmin
    · exact hadmin
  rw [hadmins]
  split
  · exact fun hnil => h u hsome (List.map_eq_nil_iff.mp hnil)
  · exact h u hsome

/-- No write leaves an entry without admins. -/
theorem keptByWrites_populated : AdminContainer.KeptByWrites AdminContainer.Populated where
  set c userId adminItem h u hadmin := by
    unfold AdminContainer.adminsOf
    unfold AdminContainer.hasAdmin at hadmin
    rw [c.lookup_setAdminByUserId] at hadmin ⊢
    split
    · exact fun hnil => List.cons_ne_nil _ _ (List.append_eq_nil_iff.mp hnil).2
    · rename_i hu
      rw [if_neg hu] at hadmin
      exact h u hadmin
  delete _ packageName userId h := h.deleteAdmin packageName userId
  update c userId packageName code adminInfo h :=
    populated_of_lookup h fun u => c.lookup_updateAdmin userId u packageName code adminInfo
  parent c userId parentAdminName updateName h :=
    populated_of_lookup h fun u =>
      c.lookup_updateParentAdminName userId u parentAdminName updateName

theorem populated_boot {Modules : Type} (modules : Modules) :
    (Service.boot modules).container.Populated := by
  intro u hadmin
  cases hadmin

end Edm
