import Edm.Library.SeparatedKey
import Edm.Plugin.InstallLocalEnterpriseAppPlugins

/-! What the two plugins for offline installation make of parameter, accounts and settings when the
calls to the system succeed.  A request has a target: the device, or an account. -/

set_option autoImplicit false

namespace Edm.InstallLocalEnterpriseApp

open Library InstallLocalEnterpriseAppPolicyUtils EdmConstants

inductive Level where
  | device | account
  deriving DecidableEq

/-- The account that the policy of a level is for, or none for the device. -/
def Level.target (userId : Int) : Level → Option Int
  | .device => none
  | .account => some userId

/-- The calls succeed.  The account service lists the accounts, and reports a constraint of the
device owner while that was the last to be set. -/
structure Answers.Succeed (userIds : List Int) (answers : Answers) : Prop where
  setParameter : answers.setParameter = true
  setPersistParam : answers.setPersistParam = true
  localIds : answers.getOsAccountLocalIds = (ERR_OK, userIds)
  isConstraintEnable : ∀ userId account,
    (answers.isOsAccountConstraintEnable userId account).1 = ERR_OK
  querySourceTypes : ∀ userId account,
    (answers.queryOsAccountConstraintSourceTypes userId account).1 = ERR_OK
  deviceOwner_iff : ∀ userId account,
    (answers.isOsAccountConstraintEnable userId account).2 = true ∧
      .deviceOwner ∈ (answers.queryOsAccountConstraintSourceTypes userId account).2 ↔
        account.deviceOwner = true
  setConstraints : ∀ userId, answers.setOsAccountConstraints userId = ERR_OK
  setSpecificConstraints : answers.setSpecificOsAccountConstraints = ERR_OK
  updateSettings : answers.updateSettingsData = ERR_OK

def pluginOf (order : HashOrder) (level : Level) (userId : Int) :
    Plugin Modules Request Answers Empty :=
  match level with
  | .device => InstallLocalEnterpriseAppEnabledPlugin.plugin order
  | .account => InstallLocalEnterpriseAppEnabledForAccountPlugin.plugin order userId

/-- The users among whose policies those of a target are. -/
def Covers : Option Int → Int → Prop
  | none, _ => True
  | some account, userId => userId = account

/-- The device's value, or the enterprise value of an account. -/
def actual (modules : Modules) : Option Int → Bool
  | none => getDeviceActualPolicyValue modules
  | some userId => (modules.accounts userId).deviceOwner

/-- What was last written to the settings. -/
def setting (modules : Modules) : Option Int → String
  | none => modules.settings SETTINGS_DATA_BASE_URI KEY_INSTALL_LOCAL_APP_POLICY
  | some userId => modules.settings (userUri userId) KEY_INSTALL_LOCAL_APP_USER_POLICY

/-- The text that is written for a policy. -/
def policyText (policyValue : Int32) : String := Int.repr policyValue.toInt

/-! ### The system -/

section System

variable {userIds : List Int} {answers : Answers} {modules modules' : Modules}

theorem userUri_inj {m n : Int} : userUri m = userUri n ↔ m = n := by
  refine ⟨fun h => ?_, congrArg userUri⟩
  rw [userUri, userUri, String.append_left_inj, String.append_right_inj] at h
  rwa [Int.repr_inj] at h

theorem keys_ne : KEY_INSTALL_LOCAL_APP_POLICY ≠ KEY_INSTALL_LOCAL_APP_USER_POLICY := by decide

/-- The constraints of some accounts, set anew. -/
def reset (modules : Modules) (userIds : List Int) : Modules :=
  { modules with
    accounts := fun userId =>
      if userId ∈ userIds then
        { modules.accounts userId with
          constraint := getDeviceActualPolicyValue modules ||
            (modules.accounts userId).deviceOwner }
      else modules.accounts userId }

theorem getUserActualPolicyValue_eq (h : answers.Succeed userIds) (modules : Modules)
    (userId : Int) : getUserActualPolicyValue answers modules userId =
      (ERR_OK, (modules.accounts userId).deviceOwner) := by
  have henable := h.isConstraintEnable userId (modules.accounts userId)
  have htypes := h.querySourceTypes userId (modules.accounts userId)
  have howner := h.deviceOwner_iff userId (modules.accounts userId)
  have hok : failed ERR_OK = false := by decide
  unfold getUserActualPolicyValue
  dsimp only
  rw [henable, hok, if_neg Bool.false_ne_true, htypes]
  cases hvalue : (answers.isOsAccountConstraintEnable userId (modules.accounts userId)).2 with
  | false =>
    rw [hvalue] at howner
    rw [if_neg Bool.false_ne_true]
    refine congrArg _ (Eq.symm (Bool.eq_false_iff.mpr fun htrue => ?_))
    exact Bool.false_ne_true (howner.mpr htrue).1
  | true =>
    rw [hvalue] at howner
    rw [if_pos rfl, if_neg (Bool.eq_false_iff.mp hok)]
    refine congrArg _ ?_
    rw [Bool.eq_iff_iff, ← howner, List.any_eq_true]
    simp

theorem updateAccount_eq (h : answers.Succeed userIds) (modules : Modules) (deviceActual : Bool)
    (userId : Int) : updateAccount answers modules deviceActual userId =
      (ERR_OK,
        { modules with
          accounts := Function.update modules.accounts userId
            { modules.accounts userId with
              constraint := deviceActual || (modules.accounts userId).deviceOwner } }) := by
  have hok : failed ERR_OK = false := by decide
  unfold updateAccount updateOsAccountConstraint
  rw [getUserActualPolicyValue_eq h, h.setConstraints userId]
  simp only [hok, Bool.false_eq_true, if_false]

/-- The loop sets the constraints of all its accounts. -/
theorem updateAccounts_eq (h : answers.Succeed userIds) (deviceActual : Bool) (ids : List Int)
    (modules : Modules) : updateAccounts answers deviceActual modules ids =
      (ERR_OK,
        { modules with
          accounts := fun userId =>
            if userId ∈ ids then
              { modules.accounts userId with
                constraint := deviceActual || (modules.accounts userId).deviceOwner }
            else modules.accounts userId }) := by
  have hok : failed ERR_OK = false := by decide
  induction ids generalizing modules with
  | nil => rfl
  | cons first ids ih =>
    rw [updateAccounts, updateAccount_eq h]
    show (if failed ERR_OK = true then _ else _) = _
    rw [hok, if_neg Bool.false_ne_true, ih]
    refine congrArg (fun accounts => (ERR_OK, { modules with accounts })) (funext fun userId => ?_)
    by_cases hfirst : userId = first
    · subst hfirst
      simp
    · simp [hfirst]

/-- The accounts whose constraints are set for a target. -/
def usersOf (userIds : List Int) : Option Int → List Int
  | none => userIds
  | some userId => [userId]

theorem updatePolicyByUser_eq (h : answers.Succeed userIds) (modules : Modules)
    (target : Option Int) : updatePolicyByUser answers modules target =
      (ERR_OK, reset modules (usersOf userIds target)) := by
  have hok : failed ERR_OK = false := by decide
  cases target with
  | none =>
    unfold updatePolicyByUser
    rw [h.localIds]
    show (if failed ERR_OK = true then _ else _) = _
    rw [hok, if_neg Bool.false_ne_true, updateAccounts_eq h]
    rfl
  | some userId =>
    show updateAccount answers modules _ userId = _
    rw [updateAccount_eq h]
    refine congrArg (fun accounts => (ERR_OK, { modules with accounts })) (funext fun other => ?_)
    by_cases hother : other = userId
    · subst hother
      simp [usersOf]
    · simp [usersOf, hother]

/-- What a target's value and policy become, with the constraints that depend on it. -/
structure Follows (userIds : List Int) (modules modules' : Modules) (target : Option Int)
    (on : Bool) (policyValue : Int32) : Prop where
  actual : actual modules' = Function.update (actual modules) target on
  constraint : ∀ userId, userId ∈ userIds → Covers target userId →
    (modules'.accounts userId).constraint =
      (InstallLocalEnterpriseApp.actual modules' none ||
        InstallLocalEnterpriseApp.actual modules' (some userId))
  other : ∀ userId, ¬Covers target userId →
    (modules'.accounts userId).constraint = (modules.accounts userId).constraint
  setting : setting modules' = Function.update (setting modules) target (policyText policyValue)

theorem actual_reset (modules : Modules) (ids : List Int) :
    actual (reset modules ids) = actual modules := by
  funext target
  cases target with
  | none => rfl
  | some userId =>
    show OsAccount.deviceOwner (if userId ∈ ids then _ else _) = _
    split <;> rfl

theorem setting_write (modules : Modules) (target : Option Int) (text : String)
    (hsettings : modules'.settings = (match target with
      | none => Function.update modules.settings SETTINGS_DATA_BASE_URI
          (Function.update (modules.settings SETTINGS_DATA_BASE_URI) KEY_INSTALL_LOCAL_APP_POLICY
            text)
      | some userId => Function.update modules.settings (userUri userId)
          (Function.update (modules.settings (userUri userId)) KEY_INSTALL_LOCAL_APP_USER_POLICY
            text))) :
    setting modules' = Function.update (setting modules) target text := by
  have hwrite : ∀ uri key uri' key', (uri' = uri → key' ≠ key) →
      Function.update modules.settings uri (Function.update (modules.settings uri) key text) uri'
        key' = modules.settings uri' key' := by
    intro uri key uri' key' hne
    by_cases huri : uri' = uri
    · rw [huri, Function.update_self, Function.update_of_ne (hne huri)]
    · rw [Function.update_of_ne huri]
  funext other
  by_cases hother : other = target
  · subst hother
    rw [Function.update_self]
    cases other with
    | none =>
      rw [setting, hsettings]
      dsimp only
      rw [Function.update_self, Function.update_self]
    | some userId =>
      rw [setting, hsettings]
      dsimp only
      rw [Function.update_self, Function.update_self]
  · rw [Function.update_of_ne hother]
    cases other with
    | none =>
      cases target with
      | none => exact absurd rfl hother
      | some userId =>
        rw [setting, hsettings]
        exact hwrite _ _ _ _ fun _ => keys_ne
    | some userId =>
      rw [setting, hsettings]
      cases target with
      | none => exact hwrite _ _ _ _ fun _ => keys_ne.symm
      | some userId' =>
        exact hwrite _ _ _ _ fun heq => absurd (congrArg some (userUri_inj.mp heq)) hother

/-- Constraints and settings after a call that succeeds. -/
theorem setSettingsDataAndUserPolicy_spec (h : answers.Succeed userIds) (modules : Modules)
    (policyValue : Int32) (target : Option Int) :
    ∃ modules', setSettingsDataAndUserPolicy answers modules policyValue target =
        (ERR_OK, modules') ∧
      Follows userIds modules modules' target (actual modules target) policyValue := by
  have hok : failed ERR_OK = false := by decide
  obtain ⟨modules', hcall⟩ : ∃ modules',
      setSettingsDataAndUserPolicy answers modules policyValue target = (ERR_OK, modules') ∧
        modules'.parameter = modules.parameter ∧
        modules'.accounts = (reset modules (usersOf userIds target)).accounts ∧
        modules'.settings = (match target with
          | none => Function.update modules.settings SETTINGS_DATA_BASE_URI
              (Function.update (modules.settings SETTINGS_DATA_BASE_URI)
                KEY_INSTALL_LOCAL_APP_POLICY (policyText policyValue))
          | some userId => Function.update modules.settings (userUri userId)
              (Function.update (modules.settings (userUri userId))
                KEY_INSTALL_LOCAL_APP_USER_POLICY (policyText policyValue))) := by
    unfold setSettingsDataAndUserPolicy
    rw [updatePolicyByUser_eq h]
    dsimp only
    rw [hok, if_neg Bool.false_ne_true]
    cases target with
    | none =>
      rw [updateSettingsPolicy, writeDeviceSettingsData, updateSettingsData, h.updateSettings, hok,
        if_neg Bool.false_ne_true]
      exact ⟨_, rfl, rfl, rfl, rfl⟩
    | some userId =>
      rw [updateSettingsPolicy, writeUserSettingsData, updateSettingsData, h.updateSettings, hok,
        if_neg Bool.false_ne_true]
      exact ⟨_, rfl, rfl, rfl, rfl⟩
  obtain ⟨hcall, hparameter, haccounts, hsettings⟩ := hcall
  have hactual : actual modules' = actual modules := by
    rw [← actual_reset modules (usersOf userIds target)]
    funext other
    cases other with
    | none =>
      show getDeviceActualPolicyValue _ = getDeviceActualPolicyValue _
      unfold getDeviceActualPolicyValue
      rw [hparameter]
      rfl
    | some userId =>
      show (modules'.accounts userId).deviceOwner = _
      rw [haccounts]
      rfl
  have husers : ∀ userId, userId ∈ userIds → Covers target userId →
      userId ∈ usersOf userIds target := by
    intro userId hid hcovers
    cases target with
    | none => exact hid
    | some account => exact List.mem_singleton.mpr hcovers
  refine ⟨modules', hcall, ?_, fun userId hid hcovers => ?_, fun userId hcovers => ?_,
    setting_write modules target _ hsettings⟩
  · rw [hactual, Function.update_eq_self]
  · rw [hactual, haccounts]
    show OsAccount.constraint (if userId ∈ usersOf userIds target then _ else _) = _
    rw [if_pos (husers userId hid hcovers)]
    rfl
  · rw [haccounts]
    show OsAccount.constraint (if userId ∈ usersOf userIds target then _ else _) = _
    cases target with
    | none => exact absurd trivial hcovers
    | some account =>
      have hmem : userId ∉ usersOf userIds (some account) :=
        fun hmem => hcovers (List.mem_singleton.mp hmem)
      rw [if_neg hmem]

/-- A value that was set before constraints and settings follow it. -/
theorem Follows.after {target : Option Int} {on : Bool} {policyValue : Int32} {start : Modules}
    (h : Follows userIds modules modules' target on policyValue)
    (hactual : InstallLocalEnterpriseApp.actual modules =
      Function.update (InstallLocalEnterpriseApp.actual start) target on)
    (hconstraint : ∀ userId, (modules.accounts userId).constraint =
      (start.accounts userId).constraint)
    (hsettings : modules.settings = start.settings) :
    Follows userIds start modules' target on policyValue where
  actual := by rw [h.actual, hactual, Function.update_idem]
  constraint := h.constraint
  other userId hcovers := (h.other userId hcovers).trans (hconstraint userId)
  setting := by
    have hsame : InstallLocalEnterpriseApp.setting modules =
        InstallLocalEnterpriseApp.setting start := by
      funext other
      cases other with
      | none => rw [InstallLocalEnterpriseApp.setting, hsettings]; rfl
      | some userId => rw [InstallLocalEnterpriseApp.setting, hsettings]; rfl
    rw [h.setting, hsame]

end System

/-! ### The handlers -/

section Handlers

variable {userIds : List Int} {answers : Answers}

theorem parse_boolText (b : Bool) : (boolText b == CONST_TRUE) = b := by
  cases b <;> decide

/-- The parameter, written. -/
theorem actual_setParameter (modules : Modules) (data : Bool) :
    actual { modules with parameter := boolText data } =
      Function.update (actual modules) none data := by
  funext other
  cases other with
  | none =>
    rw [Function.update_self]
    show ((if boolText data = "" then "false" else boolText data) == "true") = data
    revert data
    decide
  | some userId =>
    rw [Function.update_of_ne (Option.some_ne_none userId)]
    rfl

/-- The device owner's constraint, set. -/
theorem actual_setEnterpriseUserPolicy (modules : Modules) (data : Bool) (userId : Int) :
    actual { modules with
        accounts := Function.update modules.accounts userId
          { modules.accounts userId with deviceOwner := data } } =
      Function.update (actual modules) (some userId) data := by
  funext other
  cases other with
  | none =>
    rw [Function.update_of_ne (Option.some_ne_none userId).symm]
    rfl
  | some other =>
    show OsAccount.deviceOwner (Function.update modules.accounts userId _ other) = _
    by_cases hother : other = userId
    · subst hother
      rw [Function.update_self, Function.update_self]
    · have hsome : some other ≠ some userId := fun heq => hother (Option.some.inj heq)
      rw [Function.update_of_ne hother, Function.update_of_ne hsome]
      rfl

theorem constraint_setEnterpriseUserPolicy (modules : Modules) (data : Bool) (userId other : Int) :
    (Function.update modules.accounts userId
      { modules.accounts userId with deviceOwner := data } other).constraint =
        (modules.accounts other).constraint := by
  by_cases hother : other = userId
  · subst hother
    rw [Function.update_self]
  · rw [Function.update_of_ne hother]

variable (h : answers.Succeed userIds) (modules : Modules)
include h

theorem device_setOtherModulePolicy_spec (data : Bool) :
    ∃ modules', InstallLocalEnterpriseAppEnabledPlugin.setOtherModulePolicy answers modules data =
        (ERR_OK, modules') ∧ Follows userIds modules modules' none data (policyOf data) := by
  have hok : failed ERR_OK = false := by decide
  obtain ⟨modules', hcall, hfollows⟩ := setSettingsDataAndUserPolicy_spec h
    { modules with parameter := boolText data } (policyOf data) none
  have hactual := actual_setParameter modules data
  refine ⟨modules', ?_, ?_⟩
  · unfold InstallLocalEnterpriseAppEnabledPlugin.setOtherModulePolicy setParameter
    rw [if_pos h.setParameter]
    dsimp only
    rw [hcall]
    rfl
  · rw [hactual, Function.update_self] at hfollows
    exact hfollows.after hactual (fun _ => rfl) rfl

theorem account_setOtherModulePolicy_spec (userId : Int) (data : Bool) :
    ∃ modules', InstallLocalEnterpriseAppEnabledForAccountPlugin.setOtherModulePolicy userId answers
        modules data = (ERR_OK, modules') ∧
      Follows userIds modules modules' (some userId) data (policyOf data) := by
  have hok : failed ERR_OK = false := by decide
  obtain ⟨modules', hcall, hfollows⟩ := setSettingsDataAndUserPolicy_spec h
    { modules with
      accounts := Function.update modules.accounts userId
        { modules.accounts userId with deviceOwner := data } } (policyOf data) (some userId)
  have hactual := actual_setEnterpriseUserPolicy modules data userId
  refine ⟨modules', ?_, ?_⟩
  · unfold InstallLocalEnterpriseAppEnabledForAccountPlugin.setOtherModulePolicy
      setEnterpriseUserPolicy
    rw [h.setSpecificConstraints, hok, if_neg Bool.false_ne_true]
    dsimp only
    rw [hok, if_neg Bool.false_ne_true, hcall]
    rfl
  · rw [hactual, Function.update_self] at hfollows
    exact hfollows.after hactual
      (constraint_setEnterpriseUserPolicy modules data userId) rfl

theorem device_onAdminRemove_spec (data mergeData : Bool) :
    ∃ modules' ret, InstallLocalEnterpriseAppEnabledPlugin.onAdminRemove modules answers data
        mergeData = (ret, modules') ∧
      Follows userIds modules modules' none (if !mergeData && data then false
        else actual modules none) POLICY_NO_CONTROLL := by
  unfold InstallLocalEnterpriseAppEnabledPlugin.onAdminRemove setParameter
  by_cases hlast : (!mergeData && data) = true
  · obtain ⟨modules', hcall, hfollows⟩ := setSettingsDataAndUserPolicy_spec h
      { modules with parameter := boolText false } POLICY_NO_CONTROLL none
    have hactual := actual_setParameter modules false
    rw [if_pos hlast, if_pos hlast, if_pos h.setParameter]
    dsimp only
    rw [hcall]
    rw [hactual, Function.update_self] at hfollows
    exact ⟨modules', _, rfl, hfollows.after hactual (fun _ => rfl) rfl⟩
  · obtain ⟨modules', hcall, hfollows⟩ :=
      setSettingsDataAndUserPolicy_spec h modules POLICY_NO_CONTROLL none
    rw [if_neg hlast, if_neg hlast]
    dsimp only
    rw [hcall]
    exact ⟨modules', _, rfl, hfollows⟩

theorem account_onAdminRemove_spec (userId : Int) (data mergeData : Bool) :
    ∃ modules' ret, InstallLocalEnterpriseAppEnabledForAccountPlugin.onAdminRemove userId modules
        answers data mergeData = (ret, modules') ∧
      Follows userIds modules modules' (some userId) (if !mergeData && data then false
        else actual modules (some userId)) POLICY_NO_CONTROLL := by
  have hok : failed ERR_OK = false := by decide
  unfold InstallLocalEnterpriseAppEnabledForAccountPlugin.onAdminRemove setEnterpriseUserPolicy
  by_cases hlast : (!mergeData && data) = true
  · obtain ⟨modules', hcall, hfollows⟩ := setSettingsDataAndUserPolicy_spec h
      { modules with
        accounts := Function.update modules.accounts userId
          { modules.accounts userId with deviceOwner := false } } POLICY_NO_CONTROLL (some userId)
    have hactual := actual_setEnterpriseUserPolicy modules false userId
    rw [if_pos hlast, if_pos hlast, h.setSpecificConstraints, hok, if_neg Bool.false_ne_true]
    dsimp only
    rw [hok, if_neg Bool.false_ne_true, hcall]
    rw [hactual, Function.update_self] at hfollows
    exact ⟨modules', _, rfl, hfollows.after hactual
      (constraint_setEnterpriseUserPolicy modules false userId) rfl⟩
  · obtain ⟨modules', hcall, hfollows⟩ :=
      setSettingsDataAndUserPolicy_spec h modules POLICY_NO_CONTROLL (some userId)
    rw [if_neg hlast, if_neg hlast]
    dsimp only
    rw [hok, if_neg Bool.false_ne_true, hcall]
    exact ⟨modules', _, rfl, hfollows⟩

end Handlers

section Plugins

variable {userIds : List Int}

/-- A second write of the parameter changes nothing. -/
theorem Follows.persist {modules modules' : Modules} {data : Bool} {policyValue : Int32}
    (h : Follows userIds modules modules' none data policyValue) :
    Follows userIds modules { modules' with parameter := boolText data } none data policyValue := by
  have hactual : InstallLocalEnterpriseApp.actual { modules' with parameter := boolText data } =
      InstallLocalEnterpriseApp.actual modules' := by
    rw [actual_setParameter, h.actual, Function.update_idem]
  exact {
    actual := hactual.trans h.actual
    constraint := fun userId hid hcovers => by
      rw [hactual]
      exact h.constraint userId hid hcovers
    other := h.other
    setting := h.setting }

/-- The handler, whose modules are called unless another admin enables. -/
theorem onHandlePolicy_spec {request : Request} (h : request.answers.Succeed userIds)
    (order : HashOrder) (level : Level) (userId : Int) (manager : UserPolicyManager)
    (modules : Modules) (policyData : HandlePolicyData) :
    ∃ modules' merged, (pluginOf order level userId).onHandlePolicy manager modules request
        policyData =
          (ERR_OK, modules', ⟨boolText request.data, merged,
            policyData.policyData != boolText request.data⟩) ∧
      ((policyData.mergePolicyData == CONST_TRUE) = true → modules' = modules) ∧
      ((policyData.mergePolicyData == CONST_TRUE) = false →
        Follows userIds modules modules' (level.target userId) request.data
          (policyOf request.data)) := by
  have hok : (ERR_OK != ERR_OK) = false := by decide
  have hfailed : failed ERR_OK = false := by decide
  cases hmerge : policyData.mergePolicyData == CONST_TRUE with
  | true =>
    refine ⟨modules, boolText true, ?_, fun _ => rfl, fun hfalse => absurd hfalse nofun⟩
    have hcall : ∀ config setOtherModulePolicy, onHandlePolicy config setOtherModulePolicy modules
        request policyData = (ERR_OK, modules, ⟨boolText request.data, boolText true,
          policyData.policyData != boolText request.data⟩) := by
      intro config setOtherModulePolicy
      unfold onHandlePolicy onSetPolicy
      rw [hmerge]
      rfl
    cases level with
    | device =>
      exact hcall InstallLocalEnterpriseAppEnabledPlugin.config
        InstallLocalEnterpriseAppEnabledPlugin.setOtherModulePolicy
    | account =>
      exact hcall InstallLocalEnterpriseAppEnabledForAccountPlugin.config
        (InstallLocalEnterpriseAppEnabledForAccountPlugin.setOtherModulePolicy userId)
  | false =>
    cases level with
    | device =>
      have hparam : InstallLocalEnterpriseAppEnabledPlugin.config.persistParam ≠ "" := by decide
      obtain ⟨modules', hcall, hfollows⟩ :=
        device_setOtherModulePolicy_spec h modules request.data
      refine ⟨_, boolText request.data, ?_, fun htrue => absurd htrue nofun,
        fun _ => hfollows.persist⟩
      show onHandlePolicy InstallLocalEnterpriseAppEnabledPlugin.config
        InstallLocalEnterpriseAppEnabledPlugin.setOtherModulePolicy modules request policyData = _
      unfold onHandlePolicy onSetPolicy
      rw [hmerge]
      dsimp only
      rw [hcall, if_neg Bool.false_ne_true]
      dsimp only
      rw [hfailed, if_neg Bool.false_ne_true, if_neg hparam, setParameter,
        if_pos h.setPersistParam]
      rfl
    | account =>
      have hparam : InstallLocalEnterpriseAppEnabledForAccountPlugin.config.persistParam = "" := rfl
      obtain ⟨modules', hcall, hfollows⟩ :=
        account_setOtherModulePolicy_spec h modules userId request.data
      refine ⟨_, boolText request.data, ?_, fun htrue => absurd htrue nofun, fun _ => hfollows⟩
      show onHandlePolicy InstallLocalEnterpriseAppEnabledForAccountPlugin.config
        (InstallLocalEnterpriseAppEnabledForAccountPlugin.setOtherModulePolicy userId) modules
        request policyData = _
      unfold onHandlePolicy onSetPolicy
      rw [hmerge]
      dsimp only
      rw [hcall, if_neg Bool.false_ne_true]
      dsimp only
      rw [hfailed, if_neg Bool.false_ne_true, if_pos hparam]
      rfl

/-- The removal of an admin's value, which writes the settings in any case. -/
theorem onAdminRemove_spec {answers : Answers} (h : answers.Succeed userIds) (order : HashOrder)
    (level : Level) (userId : Int) (modules : Modules) (policyData mergeData : String) :
    Follows userIds modules
      ((pluginOf order level userId).onAdminRemove modules answers policyData mergeData).2
      (level.target userId)
      (if !(mergeData == CONST_TRUE) && (policyData == CONST_TRUE) then false
        else actual modules (level.target userId)) POLICY_NO_CONTROLL := by
  cases level with
  | device =>
    obtain ⟨modules', ret, hcall, hfollows⟩ := device_onAdminRemove_spec h modules
      (policyData == CONST_TRUE) (mergeData == CONST_TRUE)
    show Follows userIds modules (InstallLocalEnterpriseAppEnabledPlugin.onAdminRemove modules
      answers _ _).2 none _ _
    rw [hcall]
    exact hfollows
  | account =>
    obtain ⟨modules', ret, hcall, hfollows⟩ := account_onAdminRemove_spec h modules userId
      (policyData == CONST_TRUE) (mergeData == CONST_TRUE)
    show Follows userIds modules (InstallLocalEnterpriseAppEnabledForAccountPlugin.onAdminRemove
      userId modules answers _ _).2 (some userId) _ _
    rw [hcall]
    exact hfollows

end Plugins

end Edm.InstallLocalEnterpriseApp
