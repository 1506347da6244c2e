import Edm.Plugin.PolicyRun

/-! `BasicBoolPlugin`: a switch that is on while some admin turns it on.  Other modules and a persist
parameter enforce the switch.  Over runs of updates and removals the combined policy and the enforced
switch stay the disjunction of the admins' values until a write of `SetPolicy` is lost. -/

set_option autoImplicit false

namespace Edm

open Library Library.UnorderedMap

def CONST_TRUE : String := "true"

/-- `b ? EdmConstants::CONST_TRUE : ""`. -/
def switchValue (b : Bool) : String := if b then CONST_TRUE else ""

theorem switchValue_eq_true {b : Bool} : switchValue b = CONST_TRUE ↔ b = true := by
  revert b
  decide

theorem switchValue_eq_empty {b : Bool} : switchValue b = "" ↔ b = false := by
  revert b
  decide

namespace BasicBoolPlugin

/-- The members of the plugin that its handlers read. -/
structure Config where
  policyName : String
  policyName_ne : policyName ≠ ""
  persistParam : String

/-- The answers of `CheckConflictPolicy`, `SetOtherModulePolicy` and `SetParameter`. -/
structure Answers where
  checkConflictPolicy : ErrCode
  setOtherModulePolicy : ErrCode
  setParameter : Bool

/-- The modules and the parameter store what they are given. -/
def Answers.Store (answers : Answers) : Prop :=
  failed answers.setOtherModulePolicy = false ∧ answers.setParameter = true

/-- The last values that the modules and the persist parameter took. -/
structure Switch where
  otherModule : Bool
  parameter : Bool

structure Request where
  data : Bool
  answers : Answers

variable (config : Config)

/-- `SetOtherModulePolicy` and then `SetParameter`, when there is a parameter. -/
def setSwitch (answers : Answers) (switch : Switch) (data : Bool) : ErrCode × Switch :=
  if failed answers.setOtherModulePolicy then (answers.setOtherModulePolicy, switch)
  else
    let switch := { switch with otherModule := data }
    if config.persistParam = "" then (ERR_OK, switch)
    else if answers.setParameter then (ERR_OK, { switch with parameter := data })
    else (EdmReturnErrCode.SYSTEM_ABNORMALLY, switch)

def onSetPolicy (answers : Answers) (switch : Switch) (data currentData mergePolicy : Bool) :
    ErrCode × Switch × Bool × Bool :=
  if mergePolicy then (ERR_OK, switch, data, mergePolicy)
  else if data && failed answers.checkConflictPolicy then
    (answers.checkConflictPolicy, switch, currentData, mergePolicy)
  else
    let (ret, switch) := setSwitch config answers switch data
    if failed ret then (ret, switch, currentData, mergePolicy)
    else (ERR_OK, switch, data, data)

def onHandlePolicy (switch : Switch) (request : Request) (policyData : HandlePolicyData) :
    ErrCode × Switch × HandlePolicyData :=
  let currentData := policyData.policyData == CONST_TRUE
  let mergeData := policyData.mergePolicyData == CONST_TRUE
  let (result, switch, currentData, mergeData) :=
    onSetPolicy config request.answers switch request.data currentData mergeData
  if failed result then (result, switch, policyData)
  else
    (ERR_OK, switch,
      { policyData := switchValue currentData
        mergePolicyData := switchValue mergeData
        isChanged := policyData.policyData != switchValue currentData })

def onAdminRemove (switch : Switch) (answers : Answers) (policyData mergeData : String) :
    ErrCode × Switch :=
  if mergeData != CONST_TRUE && policyData == CONST_TRUE then
    setSwitch config answers switch false
  else (ERR_OK, switch)

def getOthersMergePolicyData (order : HashOrder) (m : UserPolicyManager) (adminName : String) :
    String :=
  let adminValues := (m.adminValues config.policyName).erase adminName
  switchValue ((order.entries adminValues).any fun item => item.2 == CONST_TRUE)

/-- The plugin as its listeners make it. -/
def plugin (order : HashOrder) : Plugin Switch Request Answers Unit where
  policyName := config.policyName
  needSave := true
  getOthersMergePolicyData := getOthersMergePolicyData config order
  onHandlePolicy _ := onHandlePolicy config
  onAdminRemove := onAdminRemove config
  onPluginEvent policyData _ := policyData

abbrev Op := PolicyOp Request Answers

def answers : Op → Answers
  | .update _ _ request => request.answers
  | .removeAdmin _ _ answers => answers

section Run

variable (order : HashOrder)

abbrev step : PluginState Switch → Op → PluginState Switch := policyStep (plugin config order)

/-- A user without policies, and the switch off. -/
abbrev boot (userId : Int) : PluginState Switch := PluginState.boot ⟨false, false⟩ userId

variable (s : PluginState Switch)

/-- The admin has the switch on. -/
def Holds (admin : AdminName) : Prop :=
  s.store.manager.policyValue admin config.policyName = CONST_TRUE

instance (admin : AdminName) : Decidable (Holds config s admin) :=
  inferInstanceAs (Decidable (_ = _))

def OtherHolds (admin : AdminName) : Prop := ∃ other, other ≠ admin ∧ Holds config s other

/-- The combined policy and the enforced switch are on exactly when some admin has the switch on. -/
structure Invariant : Prop where
  store : GoodStore s.store
  admin_value : ∀ admin : AdminName, s.store.manager.policyValue admin config.policyName = "" ∨
    s.store.manager.policyValue admin config.policyName = CONST_TRUE
  combined_iff : s.store.manager.policyValue "" config.policyName = CONST_TRUE ↔
    ∃ admin, Holds config s admin
  otherModule_iff : s.modules.otherModule = true ↔
    s.store.manager.policyValue "" config.policyName = CONST_TRUE
  parameter_iff : config.persistParam ≠ "" → (s.modules.parameter = true ↔
    s.store.manager.policyValue "" config.policyName = CONST_TRUE)

/-- The writes of an operation that changes an admin's value take effect.  When another admin has
the switch on, only an insert that fails after `GetInstance` matters. -/
def Lands : Op → Prop
  | .update admin writes request =>
    (request.data = true ↔ Holds config s admin) ∨
      (OtherHolds config s admin ∧ (request.data = true → writes.admin ≠ .failed)) ∨
      (¬OtherHolds config s admin ∧
        (request.data = true ∧ failed request.answers.checkConflictPolicy = true ∨
          writes = ⟨.done, .done⟩))
  | .removeAdmin admin writes _ =>
    Holds config s admin → ¬OtherHolds config s admin → writes = ⟨.done, .done⟩

end Run

/-! ### Values after a save -/

section Save

variable {config : Config} {s s' : PluginState Switch} {admin : AdminName} {writes : Writes}
  {d m : Bool}

theorem exists_holds_iff (admin : AdminName) :
    (∃ other, Holds config s other) ↔ Holds config s admin ∨ OtherHolds config s admin := by
  constructor
  · rintro ⟨other, hother⟩
    by_cases heq : other = admin
    · exact .inl (heq ▸ hother)
    · exact .inr ⟨other, heq, hother⟩
  · rintro (hadmin | ⟨other, -, hother⟩)
    · exact ⟨admin, hadmin⟩
    · exact ⟨other, hother⟩

theorem Invariant.value_cases (h : Invariant config s) (admin : AdminName) :
    s.store.manager.policyValue admin config.policyName = "" ∧ ¬Holds config s admin ∨
      s.store.manager.policyValue admin config.policyName = CONST_TRUE ∧ Holds config s admin := by
  rcases h.admin_value admin with hvalue | hvalue
  · refine .inl ⟨hvalue, fun hholds => ?_⟩
    rw [Holds, hvalue] at hholds
    exact absurd hholds (by decide)
  · exact .inr ⟨hvalue, hvalue⟩

/-- The invariant after a `SetPolicy` with any outcome of its writes. -/
theorem invariant_setPolicy (h : Invariant config s)
    (hstore : s'.store = (s.store.setPolicy writes admin config.policyName (switchValue d)
      (switchValue m)).2) :
    Invariant config s' ↔
      (writes.admin = .failed → d = true → Holds config s admin) ∧
      ((if writes.combined = .done then m = true
          else Holds config s admin ∨ OtherHolds config s admin) ↔
        (if writes.admin = .done then d = true else Holds config s admin) ∨
          OtherHolds config s admin) ∧
      (s'.modules.otherModule = true ↔ if writes.combined = .done then m = true
        else Holds config s admin ∨ OtherHolds config s admin) ∧
      (config.persistParam ≠ "" → (s'.modules.parameter = true ↔
        if writes.combined = .done then m = true
        else Holds config s admin ∨ OtherHolds config s admin)) := by
  have hself := setPolicy_value_self s.store (switchValue d) (switchValue m) writes admin.2
    config.policyName_ne
  have hother : ∀ other : AdminName, other ≠ admin →
      s'.store.manager.policyValue other config.policyName =
        s.store.manager.policyValue other config.policyName := fun other hne => by
    rw [hstore]
    exact setPolicy_value_other _ _ _ _ admin.2 config.policyName_ne other.2
      fun heq => hne (Subtype.ext heq.1)
  have hcombined : s'.store.manager.policyValue "" config.policyName = CONST_TRUE ↔
      if writes.combined = .done then m = true
        else Holds config s admin ∨ OtherHolds config s admin := by
    rw [hstore, setPolicy_value_combined _ _ _ _ admin.2 config.policyName_ne,
      ← exists_holds_iff admin, ← h.combined_iff]
    split
    · exact switchValue_eq_true
    · exact Iff.rfl
  rw [← hstore] at hself
  have hholds : Holds config s' admin ↔
      if writes.admin = .done then d = true else Holds config s admin := by
    rw [Holds, hself]
    split
    · exact switchValue_eq_true
    · exact Iff.rfl
  have hothers : OtherHolds config s' admin ↔ OtherHolds config s admin :=
    exists_congr fun other => and_congr_right fun hne => by rw [Holds, Holds, hother other hne]
  have hgood : GoodStore s'.store ↔ (writes.admin = .failed → d = true → Holds config s admin) := by
    rw [hstore, h.store.setPolicy_iff writes admin.2 config.policyName_ne, h.store.lookup_admin,
      switchValue_eq_empty]
    rcases h.value_cases admin with ⟨hvalue, hnot⟩ | ⟨hvalue, hadmin⟩
    · rw [hvalue, entry_empty]
      cases d <;> simp [hnot]
    · rw [hvalue]
      cases d <;> simp [hadmin, switchValue, entry, CONST_TRUE]
  have hvalues : ∀ other : AdminName, s'.store.manager.policyValue other config.policyName = "" ∨
      s'.store.manager.policyValue other config.policyName = CONST_TRUE := fun other => by
    by_cases hne : other = admin
    · subst hne
      rw [hself]
      split
      · cases d
        · exact .inl rfl
        · exact .inr rfl
      · exact h.admin_value other
    · rw [hother other hne]
      exact h.admin_value other
  have hexists : (∃ other, Holds config s' other) ↔
      (if writes.admin = .done then d = true else Holds config s admin) ∨
        OtherHolds config s admin := by
    rw [exists_holds_iff admin, hholds, hothers]
  rw [← hgood, ← hexists, ← hcombined]
  constructor
  · intro h'
    exact ⟨h'.store, h'.combined_iff, h'.otherModule_iff, h'.parameter_iff⟩
  · rintro ⟨hgood, hiff, hmodule, hparam⟩
    exact ⟨hgood, hvalues, hiff, hmodule, hparam⟩

/-- The invariant speaks of the values and of the enforced switch only. -/
theorem Invariant.congr (h : Invariant config s) (hstore : s'.store = s.store)
    (hmodule : s'.modules.otherModule = s.modules.otherModule)
    (hparam : config.persistParam ≠ "" → s'.modules.parameter = s.modules.parameter) :
    Invariant config s' := by
  have hvalue : ∀ a, s'.store.manager.policyValue a config.policyName =
      s.store.manager.policyValue a config.policyName := fun a => by rw [hstore]
  exact {
    store := hstore ▸ h.store
    admin_value := fun admin => by rw [hvalue]; exact h.admin_value admin
    combined_iff := by simpa only [Holds, hvalue] using h.combined_iff
    otherModule_iff := by rw [hmodule, hvalue, h.otherModule_iff]
    parameter_iff := fun hne => by rw [hparam hne, hvalue, h.parameter_iff hne] }

theorem not_holds_boot (userId : Int) (admin : AdminName) : ¬Holds config (boot userId) admin := by
  have hvalue : (boot userId).store.manager.policyValue admin config.policyName = "" :=
    policyValue_new userId admin config.policyName
  rw [Holds, hvalue]
  decide

theorem invariant_boot (userId : Int) : Invariant config (boot userId) := by
  have hvalue : ∀ a, (boot userId).store.manager.policyValue a config.policyName = "" :=
    fun a => policyValue_new userId a config.policyName
  have hcombined : (boot userId).store.manager.policyValue "" config.policyName ≠ CONST_TRUE := by
    rw [hvalue]
    decide
  exact {
    store := goodStore_new userId
    admin_value := fun admin => .inl (hvalue admin)
    combined_iff := iff_of_false hcombined fun ⟨admin, hadmin⟩ => not_holds_boot userId admin hadmin
    otherModule_iff := iff_of_false Bool.false_ne_true hcombined
    parameter_iff := fun _ => iff_of_false Bool.false_ne_true hcombined }

end Save

/-! ### The handlers -/

section Handlers

variable {config : Config} {s : PluginState Switch}

/-- `GetOthersMergePolicyData` tells whether another admin has the switch on. -/
theorem getOthersMergePolicyData_eq_true (order : HashOrder) {store : UserStore}
    (h : GoodStore store) (admin : AdminName) :
    getOthersMergePolicyData config order store.manager admin = CONST_TRUE ↔
      ∃ other : AdminName, other ≠ admin ∧
        store.manager.policyValue other config.policyName = CONST_TRUE := by
  unfold getOthersMergePolicyData
  dsimp only
  rw [switchValue_eq_true, List.any_eq_true]
  obtain ⟨-, hmem⟩ := order.enumerates
    ((store.manager.adminValues config.policyName).erase admin.1)
  constructor
  · rintro ⟨⟨x, v⟩, hentry, hv⟩
    obtain ⟨hx, hne, rfl, -⟩ := (h.lookup_others admin _ x v).mp ((hmem x v).mp hentry)
    exact ⟨⟨x, hx⟩, hne, beq_iff_eq.mp hv⟩
  · rintro ⟨other, hne, hother⟩
    refine ⟨(other.1, CONST_TRUE), (hmem _ _).mpr ?_, beq_self_eq_true _⟩
    exact (h.lookup_others admin _ _ _).mpr ⟨other.2, hne, hother.symm, by decide⟩

theorem getOthersMergePolicyData_eq (order : HashOrder) (h : Invariant config s)
    (admin : AdminName) [Decidable (OtherHolds config s admin)] :
    getOthersMergePolicyData config order s.store.manager admin =
      switchValue (decide (OtherHolds config s admin)) := by
  have htrue : getOthersMergePolicyData config order s.store.manager admin = CONST_TRUE ↔
      OtherHolds config s admin := getOthersMergePolicyData_eq_true order h.store admin
  unfold getOthersMergePolicyData at htrue ⊢
  dsimp only at htrue ⊢
  rw [switchValue_eq_true] at htrue
  congr 1
  rw [Bool.eq_iff_iff, htrue, decide_eq_true_iff]

/-- What the modules keep of a value that is set. -/
def Switch.set (config : Config) (switch : Switch) (data : Bool) : Switch where
  otherModule := data
  parameter := if config.persistParam = "" then switch.parameter else data

theorem setSwitch_store {answers : Answers} (hstores : answers.Store) (switch : Switch)
    (data : Bool) : setSwitch config answers switch data = (ERR_OK, switch.set config data) := by
  unfold setSwitch Switch.set
  rw [hstores.1, hstores.2]
  by_cases hparam : config.persistParam = "" <;> simp [hparam]

/-- The handler, from the admin's value and what the others have. -/
theorem onHandlePolicy_eq {request : Request} (hstores : request.answers.Store) (switch : Switch)
    (current others : Bool) :
    onHandlePolicy config switch request ⟨switchValue current, switchValue others, false⟩ =
      if others then
        (ERR_OK, switch, ⟨switchValue request.data, switchValue true, current != request.data⟩)
      else if request.data && failed request.answers.checkConflictPolicy then
        (request.answers.checkConflictPolicy, switch,
          ⟨switchValue current, switchValue others, false⟩)
      else
        (ERR_OK, switch.set config request.data,
          ⟨switchValue request.data, switchValue request.data, current != request.data⟩) := by
  obtain ⟨data, answers⟩ := request
  have hread : ∀ b, (switchValue b == CONST_TRUE) = b := by decide
  have hchanged : ∀ b c, (switchValue b != switchValue c) = (b != c) := by decide
  have hok : failed ERR_OK = false := by decide
  unfold onHandlePolicy onSetPolicy
  dsimp only
  rw [hread, hread, setSwitch_store hstores]
  cases others with
  | true => simp [hok, hchanged]
  | false =>
    by_cases hconflict : data = true ∧ failed answers.checkConflictPolicy = true
    · obtain ⟨rfl, hfailed⟩ := hconflict
      simp [hfailed]
    · have hconflict' : (data && failed answers.checkConflictPolicy) = false := by
        simpa using hconflict
      simp [hconflict', hok, hchanged]

/-- What the handler of an update starts from. -/
theorem handlePolicyData_eq (order : HashOrder) (h : Invariant config s) (admin : AdminName)
    [Decidable (OtherHolds config s admin)] :
    PluginManager.handlePolicyData (plugin config order) s admin =
      ⟨switchValue (decide (Holds config s admin)),
        switchValue (decide (OtherHolds config s admin)), false⟩ := by
  have hvalue : s.store.manager.policyValue admin config.policyName =
      switchValue (decide (Holds config s admin)) := by
    rcases h.value_cases admin with ⟨hvalue, hnot⟩ | ⟨hvalue, hholds⟩
    · simp [hvalue, hnot, switchValue]
    · simp [hvalue, hholds, switchValue]
  rw [← hvalue, ← getOthersMergePolicyData_eq order h admin]
  rfl

/-- An update whose handler succeeds writes when the admin's value changes. -/
theorem step_update_handled (order : HashOrder) {admin : AdminName} {request : Request}
    {switch : Switch} {d m : Bool}
    (hcall : (plugin config order).onHandlePolicy s.store.manager s.modules request
      (PluginManager.handlePolicyData (plugin config order) s admin) =
        (ERR_OK, switch, ⟨switchValue d, switchValue m, decide (Holds config s admin) != d⟩))
    (writes : Writes) :
    (step config order s (.update admin writes request)).modules = switch ∧
      (step config order s (.update admin writes request)).store =
        if d = true ↔ Holds config s admin then s.store
        else (s.store.setPolicy writes admin config.policyName (switchValue d)
          (switchValue m)).2 := by
  have hsame : (decide (Holds config s admin) != d) = false ↔
      (d = true ↔ Holds config s admin) := by
    by_cases hholds : Holds config s admin <;> cases d <;> simp [hholds]
  simp only [step, policyStep]
  by_cases heq : d = true ↔ Holds config s admin
  · rw [PluginManager.updateDevicePolicy_unchanged hcall (hsame.mpr heq), if_pos heq]
    exact ⟨rfl, rfl⟩
  · have hchanged : (decide (Holds config s admin) != d) = true :=
      Bool.eq_true_of_not_eq_false fun hfalse => heq (hsame.mp hfalse)
    rw [PluginManager.updateDevicePolicy_changed hcall hchanged, if_neg heq]
    exact ⟨rfl, rfl⟩

end Handlers

/-! ### One operation -/

section Step

variable {config : Config} {s : PluginState Switch}

theorem Invariant.otherModule_held (h : Invariant config s) (admin : AdminName) :
    s.modules.otherModule = true ↔ Holds config s admin ∨ OtherHolds config s admin := by
  rw [h.otherModule_iff, h.combined_iff, exists_holds_iff admin]

theorem Invariant.parameter_held (h : Invariant config s) (hparam : config.persistParam ≠ "")
    (admin : AdminName) :
    s.modules.parameter = true ↔ Holds config s admin ∨ OtherHolds config s admin := by
  rw [h.parameter_iff hparam, h.combined_iff, exists_holds_iff admin]

/-- An update keeps the invariant exactly when its writes land. -/
theorem invariant_update (order : HashOrder) (h : Invariant config s) (admin : AdminName)
    (writes : Writes) (request : Request) (hstores : request.answers.Store) :
    Invariant config (step config order s (.update admin writes request)) ↔
      Lands config s (.update admin writes request) := by
  classical
  have hdata := handlePolicyData_eq order h admin
  have hcall : (plugin config order).onHandlePolicy s.store.manager _ _ _ = _ :=
    onHandlePolicy_eq hstores s.modules (decide (Holds config s admin))
      (decide (OtherHolds config s admin))
  rw [← hdata] at hcall
  by_cases hother : OtherHolds config s admin
  · rw [decide_eq_true hother, if_pos rfl] at hcall
    obtain ⟨hmodules, hstore⟩ := step_update_handled order hcall writes
    by_cases hsame : request.data = true ↔ Holds config s admin
    · rw [if_pos hsame] at hstore
      exact iff_of_true (h.congr hstore (by rw [hmodules]) fun _ => by rw [hmodules]) (.inl hsame)
    · rw [if_neg hsame] at hstore
      rw [invariant_setPolicy h hstore, hmodules, h.otherModule_held admin]
      have hparam := fun hne => h.parameter_held hne admin
      simp [Lands, hother, hsame] at hparam ⊢
      tauto
  · rw [decide_eq_false hother, if_neg Bool.false_ne_true] at hcall
    by_cases hconflict : request.data = true ∧ failed request.answers.checkConflictPolicy = true
    · rw [if_pos (Bool.and_eq_true_iff.mpr hconflict)] at hcall
      simp only [step, policyStep]
      rw [PluginManager.updateDevicePolicy_failed hcall hconflict.2]
      exact iff_of_true (h.congr rfl rfl fun _ => rfl) (.inr (.inr ⟨hother, .inl hconflict⟩))
    · rw [if_neg fun hand => hconflict (Bool.and_eq_true_iff.mp hand)] at hcall
      obtain ⟨hmodules, hstore⟩ := step_update_handled order hcall writes
      generalize step config order s (.update admin writes request) = s' at hmodules hstore ⊢
      by_cases hsame : request.data = true ↔ Holds config s admin
      · rw [if_pos hsame] at hstore
        refine iff_of_true (h.congr hstore ?_ fun hparam => ?_) (.inl hsame)
        · rw [hmodules, Bool.eq_iff_iff, h.otherModule_held admin]
          simp [Switch.set, hother, hsame]
        · rw [hmodules, Bool.eq_iff_iff, h.parameter_held hparam admin]
          simp [Switch.set, hparam, hother, hsame]
      · rw [if_neg hsame] at hstore
        rw [invariant_setPolicy h hstore, hmodules]
        constructor
        · rintro ⟨-, hcombined, hmodule, -⟩
          have hdone : writes.combined = .done := by
            by_contra hne
            rw [if_neg hne] at hmodule
            exact hsame (by simpa [Switch.set, hother] using hmodule)
          have hdone' : writes.admin = .done := by
            by_contra hne
            rw [if_pos hdone, if_neg hne] at hcombined
            exact hsame (by simpa [hother] using hcombined)
          exact .inr (.inr ⟨hother, .inr (Writes.eq_done hdone hdone')⟩)
        · intro hlands
          obtain rfl : writes = ⟨.done, .done⟩ := by
            simpa [Lands, hother, hsame, hconflict] using hlands
          refine ⟨by simp, by simp [hother], by simp [Switch.set], fun hparam => ?_⟩
          simp [Switch.set, hparam]

/-- A removal keeps the invariant exactly when its writes land. -/
theorem invariant_removeAdmin (order : HashOrder) (h : Invariant config s) (admin : AdminName)
    (writes : Writes) (answers : Answers) (hstores : answers.Store) :
    Invariant config (step config order s (.removeAdmin admin writes answers)) ↔
      Lands config s (.removeAdmin admin writes answers) := by
  classical
  by_cases hholds : Holds config s admin
  · have hvalue : s.store.manager.policyValue admin (plugin config order).policyName ≠ "" := by
      have hvalue : s.store.manager.policyValue admin (plugin config order).policyName =
        CONST_TRUE := hholds
      rw [hvalue]
      decide
    obtain ⟨subscribed, hremove⟩ := policyStep_removeAdmin_held (plugin config order) admin writes
      answers h.store rfl hvalue
    have hothers : (plugin config order).getOthersMergePolicyData s.store.manager admin =
      switchValue (decide (OtherHolds config s admin)) := getOthersMergePolicyData_eq order h admin
    rw [hothers] at hremove
    have hstore : (step config order s (.removeAdmin admin writes answers)).store =
        (s.store.setPolicy writes admin config.policyName (switchValue false)
          (switchValue (decide (OtherHolds config s admin)))).2 := by
      rw [step, hremove]
      rfl
    have hmodules : (step config order s (.removeAdmin admin writes answers)).modules =
        if OtherHolds config s admin then s.modules else s.modules.set config false := by
      rw [step, hremove]
      have hread : (s.store.manager.policyValue admin (plugin config order).policyName ==
        CONST_TRUE) = true := beq_iff_eq.mpr hholds
      dsimp only [plugin, onAdminRemove] at hread ⊢
      rw [hread, setSwitch_store hstores]
      by_cases hother : OtherHolds config s admin
      · simp [hother, switchValue]
      · simp [hother, switchValue, CONST_TRUE]
    rw [invariant_setPolicy h hstore, hmodules]
    by_cases hother : OtherHolds config s admin
    · have hmodule := (h.otherModule_held admin).mpr (.inl hholds)
      have hparam := fun hne => (h.parameter_held hne admin).mpr (.inl hholds)
      simp only [Lands, hholds, hother]
      simpa [hmodule] using hparam
    · simp only [Lands, hholds, hother]
      constructor
      · rintro ⟨-, hcombined, hmodule, -⟩ - -
        have hdone : writes.combined = .done := by
          by_contra hne
          simp [hne, Switch.set] at hmodule
        have hdone' : writes.admin = .done := by
          by_contra hne
          simp [hdone, hne] at hcombined
        exact Writes.eq_done hdone hdone'
      · intro hlands
        obtain rfl := hlands trivial not_false
        refine ⟨by simp, by simp, by simp [Switch.set], fun hparam => ?_⟩
        simp [Switch.set, hparam]
  · have hvalue : s.store.manager.policyValue admin (plugin config order).policyName = "" :=
      (h.admin_value admin).resolve_right hholds
    rw [step, policyStep_removeAdmin_none (plugin config order) admin writes answers h.store hvalue]
    exact iff_of_true h fun hholds' => absurd hholds' hholds

end Step

/-! ### Runs -/

theorem lands_of_done {config : Config} {s : PluginState Switch} {op : Op}
    (h : op.writes = ⟨.done, .done⟩) : Lands config s op := by
  cases op with
  | update admin writes request =>
    obtain rfl : writes = ⟨.done, .done⟩ := h
    by_cases hother : OtherHolds config s admin
    · exact .inr (.inl ⟨hother, fun _ => by decide⟩)
    · exact .inr (.inr ⟨hother, .inr rfl⟩)
  | removeAdmin admin writes answers => exact fun _ _ => h

/-- The combined policy and the enforced switch are on exactly when some admin has the switch on,
throughout a run, exactly when every operation's writes land. -/
theorem always_switch_iff (config : Config) (order : HashOrder) (userId : Int) (ops : List Op)
    (hstores : ∀ op, op ∈ ops → (answers op).Store) :
    Always (step config order) (Invariant config) (boot userId) ops ↔
      Each (step config order) (Lands config) (boot userId) ops := by
  refine always_iff_each_of (I := fun _ => True) (fun _ _ _ _ _ _ => trivial) ?_ trivial
    (invariant_boot userId) ops hstores
  rintro s op hop - h
  cases op with
  | update admin writes request => exact invariant_update order h admin writes request hop
  | removeAdmin admin writes answers => exact invariant_removeAdmin order h admin writes answers hop

/-- A switch that other modules enforce. -/
def cameraSwitch : Config where
  policyName := "disable_camera"
  policyName_ne := by decide
  persistParam := ""

/-- Two admins turn the switch on, and one of them is removed. -/
theorem always_switch_iff_two :
    Always (step cameraSwitch HashOrder.byKey) (Invariant cameraSwitch) (boot 100)
      [.update ⟨"com.admin", by decide⟩ ⟨.done, .done⟩ ⟨true, ⟨ERR_OK, ERR_OK, true⟩⟩,
        .update ⟨"com.other", by decide⟩ ⟨.done, .done⟩ ⟨true, ⟨ERR_OK, ERR_OK, true⟩⟩,
        .removeAdmin ⟨"com.admin", by decide⟩ ⟨.done, .done⟩ ⟨ERR_OK, ERR_OK, true⟩] := by
  refine (always_switch_iff cameraSwitch HashOrder.byKey 100 _ fun op hop => ?_).mpr ?_
  · simp only [List.mem_cons, List.not_mem_nil, or_false] at hop
    rcases hop with rfl | rfl | rfl <;> exact ⟨by decide, rfl⟩
  · exact ⟨lands_of_done rfl, lands_of_done rfl, lands_of_done rfl, trivial⟩

/-- The writes of the first admin's value fail; the update succeeds, and the switch stays on. -/
theorem lost_write_leaves_switch_on :
    ¬ ∀ (config : Config) (order : HashOrder) (userId : Int) (ops : List Op),
      (∀ op, op ∈ ops → (answers op).Store) →
      ∀ (admin : AdminName) (writes : Writes) (request : Request), request.answers.Store →
      let s := run (step config order) (boot userId) ops
      (PluginManager.updateDevicePolicy (plugin config order) s writes admin request).1 = ERR_OK →
      let s' := step config order s (.update admin writes request)
      (s'.store.manager.policyValue "" config.policyName = CONST_TRUE ↔
          ∃ admin, Holds config s' admin) ∧
        (s'.modules.otherModule = true ↔
          s'.store.manager.policyValue "" config.policyName = CONST_TRUE) := by
  intro h
  let admin : AdminName := ⟨"com.admin", by decide⟩
  let request : Request := ⟨true, ⟨ERR_OK, ERR_OK, true⟩⟩
  have hstores : request.answers.Store := ⟨by decide, rfl⟩
  have hcall : (plugin cameraSwitch HashOrder.byKey).onHandlePolicy (boot 100).store.manager
      (boot 100).modules request
      (PluginManager.handlePolicyData (plugin cameraSwitch HashOrder.byKey) (boot 100) admin) =
        (ERR_OK, ⟨true, false⟩, ⟨switchValue true, switchValue true, true⟩) := by
    classical
    have hnone : ∀ admin, ¬Holds cameraSwitch (boot 100) admin := not_holds_boot 100
    have hother : ¬OtherHolds cameraSwitch (boot 100) admin := fun ⟨other, _, hholds⟩ =>
      hnone other hholds
    rw [handlePolicyData_eq HashOrder.byKey (invariant_boot 100) admin,
      decide_eq_false (hnone admin), decide_eq_false hother]
    rfl
  have hlost := setPolicy_value_combined (boot 100).store (switchValue true) (switchValue true)
    ⟨.failed, .failed⟩ admin.2 cameraSwitch.policyName_ne
  have hboth := h cameraSwitch HashOrder.byKey 100 [] (by simp) admin ⟨.failed, .failed⟩ request
    hstores
  simp only [run_nil, step, policyStep, PluginManager.updateDevicePolicy_changed hcall rfl] at hboth
  have hon := (hboth trivial).2.mp trivial
  have hoff : (boot 100).store.manager.policyValue "" cameraSwitch.policyName = "" :=
    policyValue_new 100 "" _
  rw [if_neg (by decide), hoff] at hlost
  exact absurd (hlost.symm.trans hon) (by decide)

end BasicBoolPlugin

end Edm
