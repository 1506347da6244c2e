import Edm.Admin.Admin
import Edm.Plugin.TemplatePolicy

/-! `DisallowMobileDataPlugin` and `TurnOnOffMobileDataPlugin`, which write the same parameter.
Only the first has a policy, whose combined value is that of the last admin to set it. -/

set_option autoImplicit false

namespace Edm

open Library

def POLICY_DISALLOW_MOBILE_DATA : String := "disallow_mobile_data"

namespace EdmConstants.MobileData

def FORCE_OPEN : Int32 := 2
def DISALLOW_FLAG : String := "DisallowMobileData"
def FORCE_FLAG : String := "ForceMobileData"

end EdmConstants.MobileData

namespace Telephony

def TELEPHONY_ERR_SUCCESS : Int32 := 0

end Telephony

namespace MobileData

def MOBILE_DATA_NONE : String := "none"
def MOBILE_DATA_DISALLOW : String := "disallow"
def MOBILE_DATA_FORCE_OPEN : String := "force_open"

/-- The parameter, which is empty while it is absent, and whether cellular data is enabled. -/
structure Modules where
  parameter : String
  enabled : Bool

/-- Whether the parameter can be written, and what `EnableCellularData` returns, if there is a
manager. -/
structure Answers where
  parameter : Bool
  cellularData : Option Int32

def setParameter (answers : Answers) (value : String) (modules : Modules) : Bool × Modules :=
  if answers.parameter then (true, { modules with parameter := value }) else (false, modules)

def enableCellularData (answers : Answers) (enable : Bool) (modules : Modules) :
    ErrCode × Modules :=
  match answers.cellularData with
  | none => (EdmReturnErrCode.SYSTEM_ABNORMALLY, modules)
  | some ret =>
    if ret ≠ Telephony.TELEPHONY_ERR_SUCCESS then (EdmReturnErrCode.SYSTEM_ABNORMALLY, modules)
    else (ERR_OK, { modules with enabled := enable })

end MobileData

namespace DisallowMobileDataPlugin

open MobileData

structure Request where
  type : FuncOperateType
  flag : String
  isDisallow : Bool
  forceOpen : Int32
  answers : Answers

def onHandleForceOpen (modules : Modules) (request : Request) : ErrCode × Modules :=
  if request.forceOpen ≠ EdmConstants.MobileData.FORCE_OPEN then
    (EdmReturnErrCode.SYSTEM_ABNORMALLY, modules)
  else if modules.parameter = MOBILE_DATA_DISALLOW then
    (EdmReturnErrCode.ENTERPRISE_POLICES_DENIED, modules)
  else
    let (written, modules) := setParameter request.answers MOBILE_DATA_FORCE_OPEN modules
    if !written then (EdmReturnErrCode.SYSTEM_ABNORMALLY, modules)
    else enableCellularData request.answers true modules

def onHandlePolicy (modules : Modules) (request : Request) (policyData : HandlePolicyData) :
    ErrCode × Modules × HandlePolicyData :=
  if request.type ≠ .set then (EdmReturnErrCode.SYSTEM_ABNORMALLY, modules, policyData)
  else if request.flag = "" ∨ request.flag = EdmConstants.MobileData.DISALLOW_FLAG then
    if request.isDisallow then
      let (written, modules) := setParameter request.answers MOBILE_DATA_DISALLOW modules
      if !written then (EdmReturnErrCode.SYSTEM_ABNORMALLY, modules, policyData)
      else
        let (ret, modules) := enableCellularData request.answers false modules
        if ret ≠ ERR_OK then (ret, modules, policyData)
        else (ERR_OK, modules, ⟨"disallow", "disallow", true⟩)
    else
      let (written, modules) := setParameter request.answers MOBILE_DATA_NONE modules
      if !written then (EdmReturnErrCode.SYSTEM_ABNORMALLY, modules, policyData)
      else (ERR_OK, modules, ⟨"none", "none", true⟩)
  else if request.flag = EdmConstants.MobileData.FORCE_FLAG then
    let (ret, modules) := onHandleForceOpen modules request
    if ret ≠ ERR_OK then (ret, modules, policyData)
    else (ERR_OK, modules, ⟨"force_open", "force_open", true⟩)
  else (EdmReturnErrCode.SYSTEM_ABNORMALLY, modules, policyData)

def onAdminRemove (modules : Modules) (accepted : Bool) : ErrCode × Modules :=
  let (written, modules) := setParameter ⟨accepted, none⟩ MOBILE_DATA_NONE modules
  (if !written then EdmReturnErrCode.SYSTEM_ABNORMALLY else ERR_OK, modules)

/-- The merge of the others is the empty one of `IPlugin`. -/
def plugin : Plugin Modules Request Bool Empty where
  policyName := POLICY_DISALLOW_MOBILE_DATA
  needSave := true
  getOthersMergePolicyData _ _ := ""
  onHandlePolicy _ := onHandlePolicy
  onAdminRemove modules accepted _ _ := onAdminRemove modules accepted
  onPluginEvent _ event := nomatch event

end DisallowMobileDataPlugin

namespace TurnOnOffMobileDataPlugin

open MobileData

structure Request where
  type : FuncOperateType
  policy : Bool
  answers : Answers

def onSetPolicy (modules : Modules) (isForce : Bool) (answers : Answers) : ErrCode × Modules :=
  if modules.parameter = "disallow" then (EdmReturnErrCode.ENTERPRISE_POLICES_DENIED, modules)
  else
    let (written, modules) :=
      if isForce then (true, modules) else setParameter answers "none" modules
    if !written then (EdmReturnErrCode.SYSTEM_ABNORMALLY, modules)
    else enableCellularData answers true modules

def onRemovePolicy (modules : Modules) (answers : Answers) : ErrCode × Modules :=
  if modules.parameter = "disallow" then (EdmReturnErrCode.ENTERPRISE_POLICES_DENIED, modules)
  else
    let (written, modules) := setParameter answers "none" modules
    if !written then (EdmReturnErrCode.SYSTEM_ABNORMALLY, modules)
    else enableCellularData answers false modules

def onHandlePolicy (modules : Modules) (request : Request) (policyData : HandlePolicyData) :
    ErrCode × Modules × HandlePolicyData :=
  let (ret, modules) :=
    match request.type with
    | .set => onSetPolicy modules request.policy request.answers
    | .remove => onRemovePolicy modules request.answers
    | _ => (EdmReturnErrCode.SYSTEM_ABNORMALLY, modules)
  (ret, modules, policyData)

def plugin : Plugin Modules Request Unit Empty where
  policyName := "turnon_mobile_data"
  needSave := false
  getOthersMergePolicyData _ _ := ""
  onHandlePolicy _ := onHandlePolicy
  onAdminRemove modules _ _ _ := (ERR_OK, modules)
  onPluginEvent _ event := nomatch event

end TurnOnOffMobileDataPlugin

namespace MobileData

/-! ### Runs -/

/-- A user's policy with the parameter, and the successful sets of the policy by the admins that
have not been removed since, the latest first. -/
structure State where
  state : PluginState Modules
  sets : List (AdminName × String)

inductive Op where
  | disallow (admin : AdminName) (writes : Writes) (request : DisallowMobileDataPlugin.Request)
  | turnOnOff (admin : AdminName) (writes : Writes) (request : TurnOnOffMobileDataPlugin.Request)
  | removeAdmin (admin : AdminName) (writes : Writes) (accepted : Bool)

/-- The value that a request asks for, unless it is refused as it stands. -/
def requested (modules : Modules) (request : DisallowMobileDataPlugin.Request) : Option String :=
  if request.type ≠ .set then none
  else if request.flag = "" ∨ request.flag = EdmConstants.MobileData.DISALLOW_FLAG then
    some (if request.isDisallow then MOBILE_DATA_DISALLOW else MOBILE_DATA_NONE)
  else if request.flag = EdmConstants.MobileData.FORCE_FLAG then
    if request.forceOpen ≠ EdmConstants.MobileData.FORCE_OPEN ∨
      modules.parameter = MOBILE_DATA_DISALLOW then none
    else some MOBILE_DATA_FORCE_OPEN
  else none

/-- Whether a request to turn mobile data on or off writes the parameter. -/
def Resets (modules : Modules) (request : TurnOnOffMobileDataPlugin.Request) : Prop :=
  (request.type = .set ∧ request.policy = false ∨ request.type = .remove) ∧
    modules.parameter ≠ MOBILE_DATA_DISALLOW ∧ request.answers.parameter = true

/-- The code of an operation, and the state after it. -/
def stepCode (s : State) : Op → ErrCode × State
  | .disallow admin writes request =>
    let op : PolicyOp DisallowMobileDataPlugin.Request Bool := .update admin writes request
    let ret := policyCode DisallowMobileDataPlugin.plugin s.state op
    (ret,
      { state := policyStep DisallowMobileDataPlugin.plugin s.state op
        sets := if ret = ERR_OK then
            (admin, (requested s.state.modules request).getD MOBILE_DATA_NONE) :: s.sets
          else s.sets })
  | .turnOnOff admin writes request =>
    let op : PolicyOp TurnOnOffMobileDataPlugin.Request Unit := .update admin writes request
    (policyCode TurnOnOffMobileDataPlugin.plugin s.state op,
      { s with state := policyStep TurnOnOffMobileDataPlugin.plugin s.state op })
  | .removeAdmin admin writes accepted =>
    let op : PolicyOp DisallowMobileDataPlugin.Request Bool := .removeAdmin admin writes accepted
    (policyCode DisallowMobileDataPlugin.plugin s.state op,
      { state := policyStep DisallowMobileDataPlugin.plugin s.state op
        sets := s.sets.filter fun set => set.1 ≠ admin })

def step (s : State) (op : Op) : State := (stepCode s op).2

/-- A user without policies, and no parameter. -/
def boot (enabled : Bool) (userId : Int) : State where
  state := PluginState.boot ⟨"", enabled⟩ userId
  sets := []

/-- A value, where none is `none`. -/
def orNone (value : String) : String := if value = "" then MOBILE_DATA_NONE else value

def lastSet (sets : List (AdminName × String)) : String :=
  (sets.head?.map Prod.snd).getD MOBILE_DATA_NONE

def combined (s : State) : String :=
  orNone (s.state.store.manager.policyValue "" POLICY_DISALLOW_MOBILE_DATA)

def inForce (s : State) : String := orNone s.state.modules.parameter

/-- The combined policy and the parameter are the value that was set last. -/
structure Agree (s : State) : Prop where
  combined : combined s = lastSet s.sets
  parameter : inForce s = lastSet s.sets

/-- A request that fails leaves the combined policy and the parameter. -/
def Right (s : State) (op : Op) : Prop :=
  (∀ admin writes accepted, op ≠ .removeAdmin admin writes accepted) →
    failed (stepCode s op).1 = true →
      combined (step s op) = combined s ∧ inForce (step s op) = inForce s

/-- Policy writes take effect.  A set that writes a new value into the parameter, other than `none`,
enables or disables cellular data with success.  A request to turn mobile data on or off writes the
parameter only when it is `none`.  When an admin with a value is removed, the parameter can be
written or is `none`, and the last set by another admin, if any, is `none`. -/
def Keeps (s : State) : Op → Prop
  | .disallow _ writes request =>
    writes = ⟨.done, .done⟩ ∧ ∀ value, requested s.state.modules request = some value →
      request.answers.parameter = true → value = MOBILE_DATA_NONE ∨ value = inForce s ∨
        request.answers.cellularData = some Telephony.TELEPHONY_ERR_SUCCESS
  | .turnOnOff _ _ request => Resets s.state.modules request → inForce s = MOBILE_DATA_NONE
  | .removeAdmin admin writes accepted =>
    writes = ⟨.done, .done⟩ ∧
      (s.state.store.manager.policyValue admin POLICY_DISALLOW_MOBILE_DATA ≠ "" →
        (accepted = true ∨ inForce s = MOBILE_DATA_NONE) ∧
          lastSet (s.sets.filter fun set => set.1 ≠ admin) = MOBILE_DATA_NONE)

/-! ### One operation -/

theorem setParameter_true {answers : Answers} (h : answers.parameter = true) (value : String)
    (modules : Modules) :
    setParameter answers value modules = (true, { modules with parameter := value }) := if_pos h

theorem setParameter_false {answers : Answers} (h : answers.parameter = false) (value : String)
    (modules : Modules) : setParameter answers value modules = (false, modules) :=
  if_neg (Bool.eq_false_iff.mp h)

/-- Cellular data may not be enabled or disabled, and the parameter stays. -/
theorem enableCellularData_cases (answers : Answers) (enable : Bool) (modules : Modules) :
    answers.cellularData = some Telephony.TELEPHONY_ERR_SUCCESS ∧
        enableCellularData answers enable modules =
          (ERR_OK, { modules with enabled := enable }) ∨
      answers.cellularData ≠ some Telephony.TELEPHONY_ERR_SUCCESS ∧
        enableCellularData answers enable modules =
          (EdmReturnErrCode.SYSTEM_ABNORMALLY, modules) := by
  unfold enableCellularData
  cases answers.cellularData with
  | none => exact .inr ⟨nofun, rfl⟩
  | some ret =>
    by_cases hret : ret = Telephony.TELEPHONY_ERR_SUCCESS
    · exact .inl ⟨congrArg some hret, if_neg (not_not.mpr hret)⟩
    · exact .inr ⟨fun heq => hret (Option.some.inj heq), if_pos hret⟩

theorem enableCellularData_parameter (answers : Answers) (enable : Bool) (modules : Modules) :
    (enableCellularData answers enable modules).2.parameter = modules.parameter := by
  rcases enableCellularData_cases answers enable modules with ⟨-, heq⟩ | ⟨-, heq⟩
  · rw [heq]
  · rw [heq]

/-- What a request comes to: it fails and leaves the parameter, it fails with its value in the
parameter, or it succeeds. -/
inductive Handled (modules : Modules) (request : DisallowMobileDataPlugin.Request) : Prop
  | unchanged (ret : ErrCode) (hret : ret ≠ ERR_OK)
      (hcall : ∀ policyData, DisallowMobileDataPlugin.onHandlePolicy modules request policyData =
        (ret, modules, policyData))
  | half (ret : ErrCode) (value : String) (hret : ret ≠ ERR_OK)
      (hrequested : requested modules request = some value)
      (hwritten : request.answers.parameter = true) (hvalue : value ≠ MOBILE_DATA_NONE)
      (hcellular : request.answers.cellularData ≠ some Telephony.TELEPHONY_ERR_SUCCESS)
      (hcall : ∀ policyData, DisallowMobileDataPlugin.onHandlePolicy modules request policyData =
        (ret, { modules with parameter := value }, policyData))
  | done (value : String) (enabled : Bool) (hrequested : requested modules request = some value)
      (hvalue : value ≠ "")
      (hcall : ∀ policyData, DisallowMobileDataPlugin.onHandlePolicy modules request policyData =
        (ERR_OK, ⟨value, enabled⟩, ⟨value, value, true⟩))

section Handler

variable (modules : Modules) {request : DisallowMobileDataPlugin.Request}

theorem handled_disallow (htype : request.type = .set)
    (hflag : request.flag = "" ∨ request.flag = EdmConstants.MobileData.DISALLOW_FLAG) :
    Handled modules request := by
  have hrequested : requested modules request =
      some (if request.isDisallow then MOBILE_DATA_DISALLOW else MOBILE_DATA_NONE) := by
    rw [requested, if_neg (not_not.mpr htype), if_pos hflag]
  cases hwritten : request.answers.parameter with
  | false =>
    refine .unchanged EdmReturnErrCode.SYSTEM_ABNORMALLY (by decide) fun policyData => ?_
    rw [DisallowMobileDataPlugin.onHandlePolicy, if_neg (not_not.mpr htype), if_pos hflag,
      setParameter_false hwritten, setParameter_false hwritten]
    split <;> rfl
  | true =>
    cases hdisallow : request.isDisallow with
    | false =>
      rw [hdisallow] at hrequested
      refine .done MOBILE_DATA_NONE modules.enabled hrequested (by decide) fun policyData => ?_
      rw [DisallowMobileDataPlugin.onHandlePolicy, if_neg (not_not.mpr htype), if_pos hflag,
        hdisallow, setParameter_true hwritten, setParameter_true hwritten]
      rfl
    | true =>
      rw [hdisallow] at hrequested
      have hcall : ∀ policyData,
          DisallowMobileDataPlugin.onHandlePolicy modules request policyData =
          let (ret, modules) := enableCellularData request.answers false
            { modules with parameter := MOBILE_DATA_DISALLOW }
          if ret ≠ ERR_OK then (ret, modules, policyData)
          else (ERR_OK, modules, ⟨"disallow", "disallow", true⟩) := by
        intro policyData
        rw [DisallowMobileDataPlugin.onHandlePolicy, if_neg (not_not.mpr htype), if_pos hflag,
          hdisallow, setParameter_true hwritten]
        rfl
      rcases enableCellularData_cases request.answers false
        { modules with parameter := MOBILE_DATA_DISALLOW } with ⟨-, heq⟩ | ⟨hcellular, heq⟩
      · refine .done MOBILE_DATA_DISALLOW false hrequested (by decide) fun policyData => ?_
        rw [hcall, heq]
        rfl
      · refine .half EdmReturnErrCode.SYSTEM_ABNORMALLY MOBILE_DATA_DISALLOW (by decide) hrequested
          hwritten (by decide) hcellular fun policyData => ?_
        rw [hcall, heq]
        rfl

theorem handled_force (htype : request.type = .set)
    (hflag : ¬ (request.flag = "" ∨ request.flag = EdmConstants.MobileData.DISALLOW_FLAG))
    (hforce : request.flag = EdmConstants.MobileData.FORCE_FLAG) : Handled modules request := by
  have hcall : ∀ policyData, DisallowMobileDataPlugin.onHandlePolicy modules request policyData =
      let (ret, modules) := DisallowMobileDataPlugin.onHandleForceOpen modules request
      if ret ≠ ERR_OK then (ret, modules, policyData)
      else (ERR_OK, modules, ⟨"force_open", "force_open", true⟩) := by
    intro policyData
    rw [DisallowMobileDataPlugin.onHandlePolicy, if_neg (not_not.mpr htype), if_neg hflag,
      if_pos hforce]
  by_cases hopen : request.forceOpen = EdmConstants.MobileData.FORCE_OPEN
  · by_cases hdisallow : modules.parameter = MOBILE_DATA_DISALLOW
    · refine .unchanged EdmReturnErrCode.ENTERPRISE_POLICES_DENIED (by decide) fun policyData => ?_
      rw [hcall, DisallowMobileDataPlugin.onHandleForceOpen, if_neg (not_not.mpr hopen),
        if_pos hdisallow]
      rfl
    have hrequested : requested modules request = some MOBILE_DATA_FORCE_OPEN := by
      rw [requested, if_neg (not_not.mpr htype), if_neg hflag, if_pos hforce, if_neg]
      exact fun hrefused => hrefused.elim (absurd hopen) hdisallow
    cases hwritten : request.answers.parameter with
    | false =>
      refine .unchanged EdmReturnErrCode.SYSTEM_ABNORMALLY (by decide) fun policyData => ?_
      rw [hcall, DisallowMobileDataPlugin.onHandleForceOpen, if_neg (not_not.mpr hopen),
        if_neg hdisallow, setParameter_false hwritten]
      rfl
    | true =>
      have hopened : DisallowMobileDataPlugin.onHandleForceOpen modules request =
          enableCellularData request.answers true
            { modules with parameter := MOBILE_DATA_FORCE_OPEN } := by
        rw [DisallowMobileDataPlugin.onHandleForceOpen, if_neg (not_not.mpr hopen),
          if_neg hdisallow, setParameter_true hwritten]
        rfl
      rcases enableCellularData_cases request.answers true
        { modules with parameter := MOBILE_DATA_FORCE_OPEN } with ⟨-, heq⟩ | ⟨hcellular, heq⟩
      · refine .done MOBILE_DATA_FORCE_OPEN true hrequested (by decide) fun policyData => ?_
        rw [hcall, hopened, heq]
        rfl
      · refine .half EdmReturnErrCode.SYSTEM_ABNORMALLY MOBILE_DATA_FORCE_OPEN (by decide)
          hrequested hwritten (by decide) hcellular fun policyData => ?_
        rw [hcall, hopened, heq]
        rfl
  · refine .unchanged EdmReturnErrCode.SYSTEM_ABNORMALLY (by decide) fun policyData => ?_
    rw [hcall, DisallowMobileDataPlugin.onHandleForceOpen, if_pos hopen]
    rfl

theorem handled (request : DisallowMobileDataPlugin.Request) : Handled modules request := by
  by_cases htype : request.type = .set
  · by_cases hflag : request.flag = "" ∨ request.flag = EdmConstants.MobileData.DISALLOW_FLAG
    · exact handled_disallow modules htype hflag
    by_cases hforce : request.flag = EdmConstants.MobileData.FORCE_FLAG
    · exact handled_force modules htype hflag hforce
    · refine .unchanged EdmReturnErrCode.SYSTEM_ABNORMALLY (by decide) fun policyData => ?_
      rw [DisallowMobileDataPlugin.onHandlePolicy, if_neg (not_not.mpr htype), if_neg hflag,
        if_neg hforce]
  · exact .unchanged EdmReturnErrCode.SYSTEM_ABNORMALLY (by decide) fun _ => if_pos htype

end Handler

section TurnOnOff

variable (modules : Modules) (answers : Answers)

theorem onSetPolicy_cases (isForce : Bool) :
    (TurnOnOffMobileDataPlugin.onSetPolicy modules isForce answers).2.parameter =
        modules.parameter ∨
      isForce = false ∧ modules.parameter ≠ MOBILE_DATA_DISALLOW ∧ answers.parameter = true ∧
        (TurnOnOffMobileDataPlugin.onSetPolicy modules isForce answers).2.parameter =
          MOBILE_DATA_NONE := by
  unfold TurnOnOffMobileDataPlugin.onSetPolicy
  by_cases hdisallow : modules.parameter = "disallow"
  · rw [if_pos hdisallow]
    exact .inl rfl
  rw [if_neg hdisallow]
  cases isForce with
  | true => exact .inl (enableCellularData_parameter answers true modules)
  | false =>
    cases hwritten : answers.parameter with
    | false =>
      rw [setParameter_false hwritten]
      exact .inl rfl
    | true =>
      rw [setParameter_true hwritten]
      exact .inr ⟨rfl, hdisallow, rfl, enableCellularData_parameter answers true _⟩

theorem onRemovePolicy_cases :
    (TurnOnOffMobileDataPlugin.onRemovePolicy modules answers).2.parameter = modules.parameter ∨
      modules.parameter ≠ MOBILE_DATA_DISALLOW ∧ answers.parameter = true ∧
        (TurnOnOffMobileDataPlugin.onRemovePolicy modules answers).2.parameter =
          MOBILE_DATA_NONE := by
  unfold TurnOnOffMobileDataPlugin.onRemovePolicy
  by_cases hdisallow : modules.parameter = "disallow"
  · rw [if_pos hdisallow]
    exact .inl rfl
  rw [if_neg hdisallow]
  cases hwritten : answers.parameter with
  | false =>
    rw [setParameter_false hwritten]
    exact .inl rfl
  | true =>
    rw [setParameter_true hwritten]
    exact .inr ⟨hdisallow, rfl, enableCellularData_parameter answers false _⟩

/-- A request to turn mobile data on or off leaves the policy, and the parameter but for `none`. -/
theorem turnOnOff_cases (request : TurnOnOffMobileDataPlugin.Request) :
    ∃ ret modules', (∀ policyData, TurnOnOffMobileDataPlugin.onHandlePolicy modules request
        policyData = (ret, modules', policyData)) ∧
      (modules'.parameter = modules.parameter ∨
        Resets modules request ∧ modules'.parameter = MOBILE_DATA_NONE) := by
  obtain ⟨type, policy, answers⟩ := request
  cases type with
  | set =>
    refine ⟨_, _, fun _ => rfl, (onSetPolicy_cases modules answers policy).imp_right ?_⟩
    rintro ⟨hpolicy, hdisallow, hwritten, hnone⟩
    exact ⟨⟨.inl ⟨rfl, hpolicy⟩, hdisallow, hwritten⟩, hnone⟩
  | remove =>
    refine ⟨_, _, fun _ => rfl, (onRemovePolicy_cases modules answers).imp_right ?_⟩
    rintro ⟨hdisallow, hwritten, hnone⟩
    exact ⟨⟨.inr rfl, hdisallow, hwritten⟩, hnone⟩
  | get => exact ⟨_, modules, fun _ => rfl, .inl rfl⟩
  | unknown => exact ⟨_, modules, fun _ => rfl, .inl rfl⟩

end TurnOnOff

/-! ### Runs whose steps keep the policy -/

section Step

variable {s : State} {admin : AdminName}

/-- Beside `Agree`: an admin without a value has no successful set. -/
structure Good (s : State) : Prop where
  store : GoodStore s.state.store
  agree : Agree s
  holder : ∀ set, set ∈ s.sets →
    s.state.store.manager.policyValue set.1 POLICY_DISALLOW_MOBILE_DATA ≠ ""

theorem policyName_ne : DisallowMobileDataPlugin.plugin.policyName ≠ "" := by decide

/-- The values stay, and the parameter but for its absence. -/
theorem good_unchanged (h : Good s) {t : State} (hstore : t.state.store = s.state.store)
    (hsets : t.sets = s.sets) (hparameter : inForce t = inForce s) : Good t where
  store := hstore ▸ h.store
  agree := {
    combined := by
      rw [combined, hstore, hsets]
      exact h.agree.combined
    parameter := by
      rw [hparameter, hsets]
      exact h.agree.parameter }
  holder set hset := by
    rw [hstore]
    exact h.holder set (hsets ▸ hset)

theorem orNone_orNone (value : String) : orNone (orNone value) = orNone value := by
  by_cases hvalue : value = ""
  · rw [hvalue]
    rfl
  · rw [orNone, orNone, if_neg hvalue, if_neg hvalue]

theorem combined_eq {t : State} (hstore : t.state.store = s.state.store) :
    combined t = combined s := by
  rw [combined, hstore]
  rfl

/-- The admins of the other sets keep their values. -/
theorem holder_other (h : Good s) {t : State} {v merged : String}
    (hsaved : Saved s.state.store t.state.store admin POLICY_DISALLOW_MOBILE_DATA v merged)
    {set : AdminName × String} (hset : set ∈ s.sets) (hne : set.1 ≠ admin) :
    t.state.store.manager.policyValue set.1 POLICY_DISALLOW_MOBILE_DATA ≠ "" := by
  rw [hsaved.value_other set.1.2 fun heq => hne (Subtype.ext heq.1)]
  exact h.holder set hset

/-- A request that fails. -/
theorem disallow_failed (h : Good s) {request : DisallowMobileDataPlugin.Request} {ret : ErrCode}
    {modules : Modules} (hret : ret ≠ ERR_OK)
    (hcall : ∀ policyData, DisallowMobileDataPlugin.onHandlePolicy s.state.modules request
      policyData = (ret, modules, policyData)) (hparameter : orNone modules.parameter = inForce s) :
    Good (step s (.disallow admin ⟨.done, .done⟩ request)) ∧
      Right s (.disallow admin ⟨.done, .done⟩ request) := by
  have hcode : policyCode DisallowMobileDataPlugin.plugin s.state
      (.update admin ⟨.done, .done⟩ request) = ret :=
    policyCode_update DisallowMobileDataPlugin.plugin admin ⟨.done, .done⟩ (hcall _)
  obtain ⟨hmodules, hstore⟩ := update_unchanged DisallowMobileDataPlugin.plugin admin h.store
    policyName_ne (hcall _)
  have hsets : (step s (.disallow admin ⟨.done, .done⟩ request)).sets = s.sets :=
    if_neg (hcode.symm ▸ hret)
  have hforce : inForce (step s (.disallow admin ⟨.done, .done⟩ request)) = inForce s := by
    refine Eq.trans ?_ hparameter
    exact congrArg (fun modules => orNone modules.parameter) hmodules
  exact ⟨good_unchanged h hstore hsets hforce, fun _ _ => ⟨combined_eq hstore, hforce⟩⟩

/-- A request that succeeds. -/
theorem disallow_done (h : Good s) {request : DisallowMobileDataPlugin.Request} {value : String}
    {enabled : Bool} (hrequested : requested s.state.modules request = some value)
    (hvalue : value ≠ "")
    (hcall : ∀ policyData, DisallowMobileDataPlugin.onHandlePolicy s.state.modules request
      policyData = (ERR_OK, ⟨value, enabled⟩, ⟨value, value, true⟩)) :
    Good (step s (.disallow admin ⟨.done, .done⟩ request)) ∧
      Right s (.disallow admin ⟨.done, .done⟩ request) := by
  have hcode : policyCode DisallowMobileDataPlugin.plugin s.state
      (.update admin ⟨.done, .done⟩ request) = ERR_OK :=
    policyCode_update DisallowMobileDataPlugin.plugin admin ⟨.done, .done⟩ (hcall _)
  obtain ⟨hmodules, ⟨hfalse | hfalse, -⟩ | ⟨-, -, hsaved⟩⟩ :=
    policyStep_update_cases DisallowMobileDataPlugin.plugin admin h.store policyName_ne (hcall _)
  · cases hfalse
  · cases hfalse
  have hsets : (step s (.disallow admin ⟨.done, .done⟩ request)).sets =
      (admin, value) :: s.sets := by
    refine (if_pos hcode).trans ?_
    rw [hrequested]
    rfl
  refine ⟨⟨h.store.saved admin.2 hsaved, ⟨?_, ?_⟩, ?_⟩, fun _ hfailed => ?_⟩
  · rw [hsets]
    refine (congrArg orNone hsaved.value_combined).trans (if_neg hvalue)
  · rw [hsets]
    refine (congrArg (fun modules => orNone modules.parameter) hmodules).trans ?_
    exact if_neg hvalue
  · rw [hsets]
    have hself := hsaved.value_self admin.2
    rintro set (_ | ⟨_, hset⟩)
    · exact hself ▸ hvalue
    · by_cases hadmin : set.1 = admin
      · rw [hadmin]
        exact hself ▸ hvalue
      · exact holder_other h hsaved hset hadmin
  · rw [stepCode] at hfailed
    dsimp only at hfailed
    rw [hcode] at hfailed
    cases hfailed

theorem disallow_step (h : Good s) {request : DisallowMobileDataPlugin.Request}
    (hkeeps : Keeps s (.disallow admin ⟨.done, .done⟩ request)) :
    Good (step s (.disallow admin ⟨.done, .done⟩ request)) ∧
      Right s (.disallow admin ⟨.done, .done⟩ request) := by
  cases handled s.state.modules request with
  | unchanged ret hret hcall => exact disallow_failed h hret hcall rfl
  | half ret value hret hrequested hwritten hvalue hcellular hcall =>
    refine disallow_failed h hret hcall ?_
    rcases hkeeps.2 value hrequested hwritten with hnone | rfl | hok
    · exact absurd hnone hvalue
    · exact orNone_orNone s.state.modules.parameter
    · exact absurd hok hcellular
  | done value enabled hrequested hvalue hcall => exact disallow_done h hrequested hvalue hcall

theorem turnOnOff_step (h : Good s) {writes : Writes} {request : TurnOnOffMobileDataPlugin.Request}
    (hkeeps : Keeps s (.turnOnOff admin writes request)) :
    Good (step s (.turnOnOff admin writes request)) ∧
      Right s (.turnOnOff admin writes request) := by
  obtain ⟨ret, modules, hcall, hparameter⟩ := turnOnOff_cases s.state.modules request
  obtain ⟨hmodules, hstore⟩ := update_notSaved TurnOnOffMobileDataPlugin.plugin admin rfl writes
    (hcall (PluginManager.handlePolicyData TurnOnOffMobileDataPlugin.plugin s.state admin))
  have hforce : inForce (step s (.turnOnOff admin writes request)) = inForce s := by
    refine (congrArg (fun modules => orNone modules.parameter) hmodules).trans ?_
    rcases hparameter with hsame | ⟨hresets, hnone⟩
    · exact congrArg orNone hsame
    · exact (congrArg orNone hnone).trans (hkeeps hresets).symm
  exact ⟨good_unchanged h hstore rfl hforce, fun _ _ => ⟨combined_eq hstore, hforce⟩⟩

theorem removeAdmin_step (h : Good s) {accepted : Bool}
    (hkeeps : Keeps s (.removeAdmin admin ⟨.done, .done⟩ accepted)) :
    Good (step s (.removeAdmin admin ⟨.done, .done⟩ accepted)) ∧
      Right s (.removeAdmin admin ⟨.done, .done⟩ accepted) := by
  rcases policyStep_removeAdmin_cases DisallowMobileDataPlugin.plugin admin h.store policyName_ne
    rfl accepted with ⟨hvalue, hsame⟩ | ⟨hvalue, hmodules, hsaved⟩
  · have hstep : step s (.removeAdmin admin ⟨.done, .done⟩ accepted) = s := by
      have hsets : s.sets.filter (fun set => set.1 ≠ admin) = s.sets := by
        refine List.filter_eq_self.mpr fun set hset => decide_eq_true fun hadmin => ?_
        exact h.holder set hset (hadmin ▸ hvalue)
      show State.mk (policyStep DisallowMobileDataPlugin.plugin s.state _) _ = s
      rw [hsame, hsets]
    rw [Right, hstep]
    exact ⟨h, fun _ _ => ⟨rfl, rfl⟩⟩
  · obtain ⟨hwritten, hlast⟩ := hkeeps.2 hvalue
    have hforce : inForce (step s (.removeAdmin admin ⟨.done, .done⟩ accepted)) =
        MOBILE_DATA_NONE := by
      refine (congrArg (fun modules => orNone modules.parameter) hmodules).trans ?_
      cases accepted with
      | true => rfl
      | false => exact hwritten.resolve_left Bool.false_ne_true
    refine ⟨⟨h.store.saved admin.2 hsaved, ⟨?_, hforce.trans hlast.symm⟩, ?_⟩, ?_⟩
    · exact (congrArg orNone hsaved.value_combined).trans hlast.symm
    · intro set hset
      obtain ⟨hset, hother⟩ := List.mem_filter.mp hset
      exact holder_other h hsaved hset (of_decide_eq_true hother)
    · exact fun hrequest => absurd rfl (hrequest admin ⟨.done, .done⟩ accepted)

theorem good_step (h : Good s) (op : Op) (hkeeps : Keeps s op) : Good (step s op) ∧ Right s op := by
  cases op with
  | disallow admin writes request =>
    obtain rfl : writes = ⟨.done, .done⟩ := hkeeps.1
    exact disallow_step h hkeeps
  | turnOnOff admin writes request => exact turnOnOff_step h hkeeps
  | removeAdmin admin writes accepted =>
    obtain rfl : writes = ⟨.done, .done⟩ := hkeeps.1
    exact removeAdmin_step h hkeeps

theorem good_boot (enabled : Bool) (userId : Int) : Good (boot enabled userId) where
  store := goodStore_new userId
  agree := ⟨congrArg orNone (policyValue_new userId "" POLICY_DISALLOW_MOBILE_DATA), rfl⟩
  holder _ hset := absurd hset List.not_mem_nil

end Step

/-- In a run whose operations all meet `Keeps`, the combined policy and the parameter are the value
that was set last throughout, and a request that fails leaves both. -/
theorem mobileData_agrees (enabled : Bool) (userId : Int) (ops : List Op)
    (h : Each step Keeps (boot enabled userId) ops) :
    Always step Agree (boot enabled userId) ops ∧ Each step Right (boot enabled userId) ops := by
  have hstep : ∀ s op, Good s → Keeps s op → Good (step s op) :=
    fun s op hs hkeeps => (good_step hs op hkeeps).1
  have hright : ∀ s op, Good s → Keeps s op → Right s op :=
    fun s op hs hkeeps => (good_step hs op hkeeps).2
  exact ⟨(always_of_each hstep (good_boot enabled userId) h).mono fun s hs => hs.agree,
    each_of_each hstep hright (good_boot enabled userId) h⟩

/-- Everything succeeds. -/
def accepts : Answers := ⟨true, some Telephony.TELEPHONY_ERR_SUCCESS⟩

def setOp (admin : AdminName) (isDisallow : Bool) (answers : Answers) : Op :=
  .disallow admin ⟨.done, .done⟩ ⟨.set, "", isDisallow, 0, answers⟩

/-- The admin that disallowed mobile data last is removed. -/
theorem mobileData_agrees_removed :
    Always step Agree (boot true 100)
        [setOp firstAdmin true accepts, .removeAdmin firstAdmin ⟨.done, .done⟩ true] ∧
      Each step Right (boot true 100)
        [setOp firstAdmin true accepts, .removeAdmin firstAdmin ⟨.done, .done⟩ true] :=
  mobileData_agrees true 100 _ ⟨⟨rfl, fun _ _ _ => .inr (.inr rfl)⟩,
    ⟨rfl, fun _ => ⟨.inl rfl, by decide +kernel⟩⟩, trivial⟩

/-- The removal of an admin resets what another disallowed later. -/
theorem removal_resets_other :
    ¬ ∀ (enabled : Bool) (userId : Int) (ops : List Op),
      Always step Agree (boot enabled userId) ops := by
  intro h
  have hlast : Agree (run step (boot true 100) [setOp firstAdmin false accepts,
      setOp secondAdmin true accepts, .removeAdmin firstAdmin ⟨.done, .done⟩ true]) :=
    (h true 100 [setOp firstAdmin false accepts, setOp secondAdmin true accepts,
      .removeAdmin firstAdmin ⟨.done, .done⟩ true]).2.2.2
  have hnone : inForce (run step (boot true 100) [setOp firstAdmin false accepts,
      setOp secondAdmin true accepts, .removeAdmin firstAdmin ⟨.done, .done⟩ true]) =
        MOBILE_DATA_NONE := by decide +kernel
  have hset : lastSet (run step (boot true 100) [setOp firstAdmin false accepts,
      setOp secondAdmin true accepts, .removeAdmin firstAdmin ⟨.done, .done⟩ true]).sets =
        MOBILE_DATA_DISALLOW := by decide +kernel
  exact absurd (hnone.symm.trans (hlast.parameter.trans hset)) (by decide)

end MobileData

end Edm
