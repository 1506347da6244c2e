import Edm.Admin.Admin
import Edm.Plugin.PasswordPolicySerializer
import Edm.Plugin.TemplatePolicy

/-! `PasswordPolicyPlugin`: the validity period and the algorithm of PINs, which the user-auth
service is told, and the policy file. -/

set_option autoImplicit false

namespace Edm

open Library

def POLICY_PASSWORD_POLICY : String := "password_policy"

namespace PasswordPolicyPlugin

open PasswordSerializer

/-- What the user-auth service was told last, and the policy file. -/
structure Modules where
  pinExpiredPeriod : Int64
  pinAlgoType : Int32
  file : String

/-- Whether the service accepts a period and an algorithm, and whether the file can be opened. -/
structure Answers where
  period : Bool
  algo : Bool
  saved : Bool

def setAlgoType (modules : Modules) (answers : Answers) (passwordAlgs : Int32) : Modules :=
  if answers.algo then { modules with pinAlgoType := passwordAlgs } else modules

def setGlobalConfigParam (modules : Modules) (answers : Answers) (policy : PasswordPolicy) :
    Modules :=
  let modules :=
    if answers.period then { modules with pinExpiredPeriod := policy.validityPeriod } else modules
  if policy.passwordAlgs ≠ PasswordAlgs.NONE then setAlgoType modules answers policy.passwordAlgs
  else modules

variable (C : LongCJson) (validRegex : String → Bool)

def updatePasswordPolicy (modules : Modules) (answers : Answers) (mergeData : PasswordPolicy) :
    Bool × Modules :=
  if answers.saved then
    (true,
      { modules with file := PasswordPolicyUtils.updatePasswordPolicy C modules.file mergeData })
  else (false, modules)

/-- `validRegex` is whether `std::regex` accepts an expression. -/
def onSetPolicy (answers : Answers) (modules : Modules)
    (policy currentData mergeData : PasswordPolicy) :
    ErrCode × Modules × PasswordPolicy × PasswordPolicy :=
  if validRegex policy.complexityReg = false then
    (EdmReturnErrCode.PARAM_ERROR, modules, currentData, mergeData)
  else if policy.passwordAlgs ≠ PasswordAlgs.NONE ∧
      policy.passwordAlgs ≠ PasswordAlgs.SCRYPT_HKDF_AES ∧
      policy.passwordAlgs ≠ PasswordAlgs.SCRYPT_HKDF_SM4 then
    (EdmReturnErrCode.PARAMETER_VERIFICATION_FAILED, modules, currentData, mergeData)
  else
    let modules := setGlobalConfigParam modules answers policy
    let mergeData := mergePolicy [policy] mergeData
    let (updated, modules) := updatePasswordPolicy C modules answers mergeData
    if updated then (ERR_OK, modules, policy, mergeData)
    else (EdmReturnErrCode.SYSTEM_ABNORMALLY, modules, policy, mergeData)

structure Request where
  type : FuncOperateType
  policy : PasswordPolicy
  answers : Answers

def onHandlePolicy (modules : Modules) (request : Request) (policyData : HandlePolicyData) :
    ErrCode × Modules × HandlePolicyData :=
  match request.type with
  | .set =>
    IPluginTemplate.handlePolicy (serializer C) (onSetPolicy C validRegex request.answers) modules
      (some request.policy) policyData
  | _ => (ERR_OK, modules, policyData)

def onAdminRemove (answers : Answers) (modules : Modules) (data mergeData : PasswordPolicy) :
    ErrCode × Modules :=
  if answers.period = false then (EdmReturnErrCode.SYSTEM_ABNORMALLY, modules)
  else
    let modules := { modules with pinExpiredPeriod := 0 }
    let modules :=
      if data.passwordAlgs ≠ PasswordAlgs.NONE ∧
          data.passwordAlgs ≠ PasswordAlgs.SCRYPT_HKDF_AES then
        setAlgoType modules answers PasswordAlgs.SCRYPT_HKDF_AES
      else modules
    let (updated, modules) := updatePasswordPolicy C modules answers mergeData
    if updated then (ERR_OK, modules) else (EdmReturnErrCode.SYSTEM_ABNORMALLY, modules)

def onOtherServiceStart (modules : Modules) (answers : Answers) : Modules :=
  match PasswordPolicyUtils.getPasswordPolicy C modules.file with
  | none => modules
  | some policy => setGlobalConfigParam modules answers policy

def plugin (order : HashOrder) : Plugin Modules Request Answers Empty where
  policyName := POLICY_PASSWORD_POLICY
  needSave := true
  getOthersMergePolicyData :=
    IPluginTemplate.getOthersMergePolicyData (serializer C) order POLICY_PASSWORD_POLICY
  onHandlePolicy _ := onHandlePolicy C validRegex
  onAdminRemove modules answers :=
    IPluginTemplate.adminRemove (serializer C) (onAdminRemove C answers) modules
  onPluginEvent _ event := nomatch event

/-! ### Runs -/

/-- An operation on a policy, with the order of the others' values, or a start of the service. -/
inductive Op where
  | policy (order : HashOrder) (op : PolicyOp Request Answers)
  | otherServiceStart (answers : Answers)

abbrev State := PluginState Modules

def step (s : State) : Op → State
  | .policy order op => policyStep (plugin C validRegex order) s op
  | .otherServiceStart answers => { s with modules := onOtherServiceStart C s.modules answers }

/-- A user without policies, no file, and a service that was told nothing. -/
def boot (userId : Int) : State := PluginState.boot ⟨0, PasswordAlgs.SCRYPT_HKDF_AES, ""⟩ userId

/-- The policy that a text stands for. -/
def policyOf (text : String) : PasswordPolicy := (deserialize C text).getD .initial

/-- The algorithm that a policy asks for. -/
def algoOf (policy : PasswordPolicy) : Int32 :=
  if policy.passwordAlgs = PasswordAlgs.NONE then PasswordAlgs.SCRYPT_HKDF_AES
  else policy.passwordAlgs

section Run

variable (s : State)

/-- The policy that an admin stores. -/
def stored (admin : AdminName) : PasswordPolicy :=
  policyOf C (s.store.manager.policyValue admin POLICY_PASSWORD_POLICY)

def combined : PasswordPolicy :=
  policyOf C (s.store.manager.policyValue "" POLICY_PASSWORD_POLICY)

structure InForce : Prop where
  period : s.modules.pinExpiredPeriod = (combined C s).validityPeriod
  algo : s.modules.pinAlgoType = algoOf (combined C s)

/-- An operation that removes an admin's policy. -/
def Removes : Op → Prop
  | .policy _ (.removeAdmin admin writes _) =>
    writes = ⟨.done, .done⟩ ∧ s.store.manager.policyValue admin POLICY_PASSWORD_POLICY ≠ ""
  | _ => False

/-- The stored texts are ones that the serializer wrote. -/
abbrev Readable : Prop :=
  TextStore (fun text => text = "" ∨ ∃ policy, text = serialize C policy) POLICY_PASSWORD_POLICY
    s.store

/-- Another removal that leaves the same policies of the admins, in whatever order it reads them,
leaves the same combined policy. -/
def Right (op : Op) : Prop :=
  Removes s op → ∀ (t : State) (op' : Op), Readable C t → Removes t op' →
    (∀ admin : AdminName,
      (step C validRegex t op').store.manager.policyValue admin POLICY_PASSWORD_POLICY =
        (step C validRegex s op).store.manager.policyValue admin POLICY_PASSWORD_POLICY) →
    (step C validRegex t op').store.manager.policyValue "" POLICY_PASSWORD_POLICY =
      (step C validRegex s op).store.manager.policyValue "" POLICY_PASSWORD_POLICY

/-- The other admins that set an algorithm set this one, and it is the default if none does. -/
structure AlgoFits (admin : AdminName) (algo : Int32) : Prop where
  set : ∀ other, other ≠ admin → (stored C s other).passwordAlgs ≠ PasswordAlgs.NONE →
    (stored C s other).passwordAlgs = algo
  default : (∀ other, other ≠ admin → (stored C s other).passwordAlgs = PasswordAlgs.NONE) →
    algo = PasswordAlgs.SCRYPT_HKDF_AES

/-- Two policies agree on what both set. -/
structure Compatible (policy other : PasswordPolicy) : Prop where
  complexityReg : policy.complexityReg ≠ "" → other.complexityReg ≠ "" →
    policy.complexityReg = other.complexityReg
  additionalDescription : policy.additionalDescription ≠ "" → other.additionalDescription ≠ "" →
    policy.additionalDescription = other.additionalDescription

/-- The request sets a period, of at most what the library writes exactly, unless no other admin
does, and an algorithm, unless the one in force is that of the others. -/
structure SetKeeps (admin : AdminName) (policy : PasswordPolicy) : Prop where
  exact : C.getLong (C.createLong policy.validityPeriod) = policy.validityPeriod
  period : policy.validityPeriod = 0 →
    ∀ other, other ≠ admin → (stored C s other).validityPeriod = 0
  algo : policy.passwordAlgs = PasswordAlgs.NONE → AlgoFits C s admin s.modules.pinAlgoType

/-- The request has nothing new for the service. -/
def Told (modules : Modules) (policy : PasswordPolicy) : Prop :=
  modules.pinExpiredPeriod = policy.validityPeriod ∧
    (policy.passwordAlgs ≠ PasswordAlgs.NONE → modules.pinAlgoType = policy.passwordAlgs)

/-- The algorithm that is in force after a removal. -/
def algoLeft (modules : Modules) (own : PasswordPolicy) : Int32 :=
  if own.passwordAlgs ≠ PasswordAlgs.NONE ∧ own.passwordAlgs ≠ PasswordAlgs.SCRYPT_HKDF_AES then
    PasswordAlgs.SCRYPT_HKDF_AES
  else modules.pinAlgoType

/-- No other admin sets a period, the algorithm that is left is that of the others, and the others
agree on the rest. -/
structure RemoveKeeps (admin : AdminName) : Prop where
  period : ∀ other, other ≠ admin → (stored C s other).validityPeriod = 0
  algo : AlgoFits C s admin (algoLeft s.modules (stored C s admin))
  compatible : ∀ a b, a ≠ admin → b ≠ admin → Compatible (stored C s a) (stored C s b)

/-- Whether a request is one that the plugin acts on. -/
def Accepted (request : Request) : Prop :=
  request.type = .set ∧ validRegex request.policy.complexityReg = true ∧
    (request.policy.passwordAlgs = PasswordAlgs.NONE ∨
      request.policy.passwordAlgs = PasswordAlgs.SCRYPT_HKDF_AES ∨
      request.policy.passwordAlgs = PasswordAlgs.SCRYPT_HKDF_SM4)

/-- The service accepts what it is told, and writes take effect.  An accepted request whose file is
not written, or that is the admin's stored policy, has nothing new for the service. -/
def Keeps : Op → Prop
  | .policy _ (.update admin writes request) =>
    writes = ⟨.done, .done⟩ ∧ request.answers.period = true ∧ request.answers.algo = true ∧
      (Accepted validRegex request →
        if request.answers.saved then
          SetKeeps C s admin request.policy ∧
            (s.store.manager.policyValue admin POLICY_PASSWORD_POLICY = serialize C request.policy →
              Told s.modules request.policy)
        else Told s.modules request.policy)
  | .policy _ (.removeAdmin admin writes answers) =>
    writes = ⟨.done, .done⟩ ∧ answers.period = true ∧ answers.algo = true ∧
      (s.store.manager.policyValue admin POLICY_PASSWORD_POLICY ≠ "" →
        answers.saved = true ∧ RemoveKeeps C s admin)
  | .otherServiceStart answers => answers.period = true ∧ answers.algo = true

end Run

/-! ### Texts -/

section Texts

variable {C} {validRegex}

def IsText (C : LongCJson) (text : String) : Prop := text = "" ∨ ∃ policy, text = serialize C policy

theorem read_initial : read C .initial = .initial := by
  rw [PasswordSerializer.read, PasswordPolicy.initial, C.getLong_createLong 0 (by decide)]

theorem policyOf_empty : policyOf C "" = .initial := rfl

theorem policyOf_serialize (policy : PasswordPolicy) :
    policyOf C (serialize C policy) = read C policy := by
  rw [policyOf, deserialize_serialize]
  rfl

theorem IsText.deserialize {text : String} (h : IsText C text) :
    deserialize C text = some (policyOf C text) := by
  rcases h with rfl | ⟨policy, rfl⟩
  · rfl
  · rw [policyOf_serialize, deserialize_serialize]

theorem IsText.deserializeNonempty {text : String} (h : IsText C text) :
    IPluginTemplate.deserializeNonempty (serializer C) text = some (policyOf C text) := by
  rw [IPluginTemplate.deserializeNonempty]
  split
  · rename_i hempty
    rw [hempty]
    rfl
  · exact h.deserialize

theorem IsText.getPasswordPolicy {text : String} (h : IsText C text) :
    PasswordPolicyUtils.getPasswordPolicy C text = some (policyOf C text) := by
  rcases h with rfl | ⟨policy, rfl⟩
  · rfl
  · rw [policyOf_serialize, getPasswordPolicy_serialize]

theorem IsText.updatePasswordPolicy {text : String} (h : IsText C text) (policy : PasswordPolicy) :
    PasswordPolicyUtils.updatePasswordPolicy C text policy = serialize C policy := by
  rcases h with rfl | ⟨previous, rfl⟩
  · exact updatePasswordPolicy_empty policy
  · exact updatePasswordPolicy_serialize policy previous

theorem policyName_ne : POLICY_PASSWORD_POLICY ≠ "" := by decide

end Texts

/-! ### The others' policies -/

section Others

variable {C} {validRegex} {s : State} {order : HashOrder} {admin : AdminName}

/-- The values that are merged. -/
abbrev values (order : HashOrder) (s : State) (admin : AdminName) : List String :=
  othersValues order s.store.manager POLICY_PASSWORD_POLICY admin

/-- The others' merged policy, before it is written. -/
def merged (C : LongCJson) (order : HashOrder) (s : State) (admin : AdminName) : PasswordPolicy :=
  mergePolicy ((values order s admin).map (policyOf C)) .initial

variable (h : Readable C s)
include h

theorem mem_values {v : String} : v ∈ values order s admin ↔ v ≠ "" ∧ ∃ other : AdminName,
    other ≠ admin ∧ s.store.manager.policyValue other POLICY_PASSWORD_POLICY = v :=
  h.good.mem_othersValues order admin

theorem othersText : (plugin C validRegex order).getOthersMergePolicyData s.store.manager admin =
    if values order s admin = [] then "" else serialize C (merged C order s admin) := by
  have hread : ∀ v, v ∈ values order s admin →
      (serializer C).deserialize v = some (policyOf C v) := by
    intro v hv
    obtain ⟨-, other, -, rfl⟩ := (mem_values h).mp hv
    exact IsText.deserialize (h.text other)
  exact getOthersMergePolicyData_read _ h.good order admin hread

theorem isText_others (validRegex : String → Bool) (order : HashOrder) (admin : AdminName) :
    IsText C ((plugin C validRegex order).getOthersMergePolicyData s.store.manager admin) := by
  rw [othersText h]
  split
  · exact .inl rfl
  · exact .inr ⟨_, rfl⟩

theorem policyOf_others :
    policyOf C ((plugin C validRegex order).getOthersMergePolicyData s.store.manager admin) =
      read C (merged C order s admin) := by
  rw [othersText h]
  split
  · rename_i hnone
    have hmerged : merged C order s admin = .initial := by
      rw [merged, hnone]
      rfl
    rw [hmerged, read_initial, policyOf_empty]
  · exact policyOf_serialize _

/-- A setting of the merged policy is that of another admin. -/
theorem merged_setting {α : Type} [DecidableEq α] (field : PasswordPolicy → α) (unset : α)
    (hinitial : field .initial = unset) :
    (∀ other, other ≠ admin → field (stored C s other) = unset) ∧
        lastSet unset (((values order s admin).map (policyOf C)).map field) unset = unset ∨
      ∃ other, other ≠ admin ∧ field (stored C s other) ≠ unset ∧
        lastSet unset (((values order s admin).map (policyOf C)).map field) unset =
          field (stored C s other) := by
  rcases lastSet_cases unset (((values order s admin).map (policyOf C)).map field) unset with
    ⟨hunset, hmerge⟩ | ⟨hmem, hset⟩
  · refine .inl ⟨fun other hother => ?_, hmerge⟩
    by_cases hempty : s.store.manager.policyValue other POLICY_PASSWORD_POLICY = ""
    · rw [stored, hempty]
      exact hinitial
    · exact hunset _ (List.mem_map_of_mem (List.mem_map_of_mem
        ((mem_values h).mpr ⟨hempty, other, hother, rfl⟩)))
  · obtain ⟨policy, hpolicy, hfield⟩ := List.mem_map.mp hmem
    obtain ⟨v, hv, rfl⟩ := List.mem_map.mp hpolicy
    obtain ⟨-, other, hother, rfl⟩ := (mem_values h).mp hv
    have hfield : field (stored C s other) =
      lastSet unset (((values order s admin).map (policyOf C)).map field) unset := hfield
    exact .inr ⟨other, hother, hfield ▸ hset, hfield.symm⟩

theorem merged_period
    (hzero : ∀ other, other ≠ admin → (stored C s other).validityPeriod = 0) :
    (merged C order s admin).validityPeriod = 0 := by
  refine (mergePolicy_validityPeriod _ _).trans ?_
  rcases merged_setting h PasswordPolicy.validityPeriod 0 rfl with
    ⟨-, hmerge⟩ | ⟨other, hother, hset, -⟩
  · exact hmerge
  · exact absurd (hzero other hother) hset

theorem algoOf_merged {algo : Int32} (hfits : AlgoFits C s admin algo) :
    algoOf (merged C order s admin) = algo := by
  have hmerged : (merged C order s admin).passwordAlgs = _ := mergePolicy_passwordAlgs _ _
  rw [algoOf, hmerged]
  rcases merged_setting h PasswordPolicy.passwordAlgs PasswordAlgs.NONE rfl with
    ⟨hnone, hmerge⟩ | ⟨other, hother, hset, hmerge⟩
  · exact (if_pos hmerge).trans (hfits.default hnone).symm
  · have hmerge : lastSet PasswordAlgs.NONE (((values order s admin).map (policyOf C)).map
        PasswordPolicy.passwordAlgs) PasswordPolicy.initial.passwordAlgs =
      (stored C s other).passwordAlgs := hmerge
    rw [hmerge, if_neg hset]
    exact hfits.set other hother hset

/-- Settings that agree where they are set are merged to the same in any order. -/
theorem merged_setting_congr {t : State} {order' : HashOrder} {admin' : AdminName}
    (hvalues : ∀ v, v ∈ values order' t admin' ↔ v ∈ values order s admin) {α : Type}
    [DecidableEq α] (field : PasswordPolicy → α) (unset : α)
    (hagree : ∀ a b, a ≠ admin → b ≠ admin → field (stored C s a) ≠ unset →
      field (stored C s b) ≠ unset → field (stored C s a) = field (stored C s b)) :
    lastSet unset (((values order' t admin').map (policyOf C)).map field) unset =
      lastSet unset (((values order s admin).map (policyOf C)).map field) unset := by
  have hfield : ∀ x, x ∈ ((values order s admin).map (policyOf C)).map field →
      ∃ a, a ≠ admin ∧ field (stored C s a) = x := by
    intro x hx
    obtain ⟨policy, hpolicy, rfl⟩ := List.mem_map.mp hx
    obtain ⟨v, hv, rfl⟩ := List.mem_map.mp hpolicy
    obtain ⟨-, a, ha, rfl⟩ := (mem_values h).mp hv
    exact ⟨a, ha, rfl⟩
  have hmem : ∀ x, x ∈ ((values order' t admin').map (policyOf C)).map field ↔
      x ∈ ((values order s admin).map (policyOf C)).map field := by
    intro x
    simp only [List.map_map, List.mem_map, hvalues]
  refine lastSet_congr hmem fun x hx y hy hxset hyset => ?_
  obtain ⟨a, ha, rfl⟩ := hfield x ((hmem x).mp hx)
  obtain ⟨b, hb, rfl⟩ := hfield y ((hmem y).mp hy)
  exact hagree a b ha hb hxset hyset

theorem othersText_congr (hkeeps : RemoveKeeps C s admin) {t : State} (ht : Readable C t)
    {order' : HashOrder} {admin' : AdminName}
    (hvalues : ∀ v, v ∈ values order' t admin' ↔ v ∈ values order s admin) :
    (plugin C validRegex order').getOthersMergePolicyData t.store.manager admin' =
      (plugin C validRegex order).getOthersMergePolicyData s.store.manager admin := by
  have hmerged : merged C order' t admin' = merged C order s admin := by
    have hreg := merged_setting_congr h hvalues PasswordPolicy.complexityReg ""
      fun a b ha hb => (hkeeps.compatible a b ha hb).complexityReg
    have hperiod := merged_setting_congr h hvalues PasswordPolicy.validityPeriod 0
      fun a b ha hb hset _ => absurd (hkeeps.period a ha) hset
    have hdescription := merged_setting_congr h hvalues PasswordPolicy.additionalDescription ""
      fun a b ha hb => (hkeeps.compatible a b ha hb).additionalDescription
    have halgs := merged_setting_congr h hvalues PasswordPolicy.passwordAlgs PasswordAlgs.NONE
      fun a b ha hb hset hset' =>
        (hkeeps.algo.set a ha hset).trans (hkeeps.algo.set b hb hset').symm
    apply PasswordPolicy.ext
    · exact (mergePolicy_complexityReg _ _).trans
        (hreg.trans (mergePolicy_complexityReg _ .initial).symm)
    · exact (mergePolicy_validityPeriod _ _).trans
        (hperiod.trans (mergePolicy_validityPeriod _ .initial).symm)
    · exact (mergePolicy_additionalDescription _ _).trans
        (hdescription.trans (mergePolicy_additionalDescription _ .initial).symm)
    · exact (mergePolicy_passwordAlgs _ _).trans
        (halgs.trans (mergePolicy_passwordAlgs _ .initial).symm)
  have hnone : values order' t admin' = [] ↔ values order s admin = [] := by
    rw [List.eq_nil_iff_forall_not_mem, List.eq_nil_iff_forall_not_mem]
    exact forall_congr' fun v => not_congr (hvalues v)
  rw [othersText h, othersText ht, hmerged]
  by_cases hnil : values order s admin = []
  · rw [if_pos hnil, if_pos (hnone.mpr hnil)]
  · rw [if_neg hnil, if_neg fun hnil' => hnil (hnone.mp hnil')]

end Others

/-! ### One operation -/

section Step

variable {C} {validRegex} {s : State} {order : HashOrder} {admin : AdminName}

section Service

variable {modules : Modules} {answers : Answers} (hperiod : answers.period = true)
  (halgo : answers.algo = true) (policy : PasswordPolicy)
include hperiod halgo

theorem setGlobalConfigParam_accepted : setGlobalConfigParam modules answers policy =
    { modules with
      pinExpiredPeriod := policy.validityPeriod
      pinAlgoType := if policy.passwordAlgs ≠ PasswordAlgs.NONE then policy.passwordAlgs
        else modules.pinAlgoType } := by
  rw [setGlobalConfigParam, if_pos hperiod]
  split
  · rw [setAlgoType, if_pos halgo]
  · rfl

/-- A policy with nothing new leaves the service. -/
theorem setGlobalConfigParam_told (h : Told modules policy) :
    setGlobalConfigParam modules answers policy = modules := by
  rw [setGlobalConfigParam_accepted hperiod halgo, ← h.1]
  split
  · rename_i hset
    rw [← h.2 hset]
  · rfl

end Service

theorem onSetPolicy_cases (C : LongCJson) (validRegex : String → Bool) (request : Request)
    (htype : request.type = .set) (modules : Modules) (current others : PasswordPolicy) :
    (∃ ret, ret ≠ ERR_OK ∧
        onSetPolicy C validRegex request.answers modules request.policy current others =
          (ret, modules, current, others)) ∨
      Accepted validRegex request ∧ request.answers.saved = false ∧
        onSetPolicy C validRegex request.answers modules request.policy current others =
          (EdmReturnErrCode.SYSTEM_ABNORMALLY,
            setGlobalConfigParam modules request.answers request.policy, request.policy,
            mergePolicy [request.policy] others) ∨
      Accepted validRegex request ∧ request.answers.saved = true ∧
        onSetPolicy C validRegex request.answers modules request.policy current others =
          (ERR_OK,
            { setGlobalConfigParam modules request.answers request.policy with
              file := PasswordPolicyUtils.updatePasswordPolicy C
                (setGlobalConfigParam modules request.answers request.policy).file
                (mergePolicy [request.policy] others) },
            request.policy, mergePolicy [request.policy] others) := by
  unfold onSetPolicy
  by_cases hregex : validRegex request.policy.complexityReg = false
  · rw [if_pos hregex]
    exact .inl ⟨_, by decide, rfl⟩
  rw [if_neg hregex]
  by_cases halgs : request.policy.passwordAlgs ≠ PasswordAlgs.NONE ∧
      request.policy.passwordAlgs ≠ PasswordAlgs.SCRYPT_HKDF_AES ∧
      request.policy.passwordAlgs ≠ PasswordAlgs.SCRYPT_HKDF_SM4
  · rw [if_pos halgs]
    exact .inl ⟨_, by decide, rfl⟩
  rw [if_neg halgs]
  have haccepted : Accepted validRegex request := by
    refine ⟨htype, Bool.eq_true_of_not_eq_false hregex, ?_⟩
    rw [not_and_or, not_and_or, not_not, not_not, not_not] at halgs
    exact halgs
  unfold updatePasswordPolicy
  cases hsaved : request.answers.saved with
  | false => exact .inr (.inl ⟨haccepted, rfl, rfl⟩)
  | true => exact .inr (.inr ⟨haccepted, rfl, rfl⟩)

/-- The service was told what the combined policy says, and what the file has. -/
structure Sound (C : LongCJson) (s : State) : Prop where
  readable : Readable C s
  inForce : InForce C s
  isText : IsText C s.modules.file
  told : Told s.modules (policyOf C s.modules.file)

theorem Sound.congr (h : Sound C s) {t : State} (hmodules : t.modules = s.modules)
    (hstore : t.store = s.store) : Sound C t := by
  obtain ⟨store, modules, subscribed⟩ := t
  obtain rfl : modules = s.modules := hmodules
  obtain rfl : store = s.store := hstore
  exact ⟨h.readable, ⟨h.inForce.period, h.inForce.algo⟩, h.isText, h.told⟩

/-- The policy that is sent is the one that the merged policy, once written, is read as. -/
theorem SetKeeps.merged {policy : PasswordPolicy} (h : Readable C s)
    (hkeeps : SetKeeps C s admin policy) (order : HashOrder) {algo : Int32}
    (halgo : algo = if policy.passwordAlgs ≠ PasswordAlgs.NONE then policy.passwordAlgs
      else s.modules.pinAlgoType) :
    policy.validityPeriod =
        (read C (mergePolicy [policy] (read C (merged C order s admin)))).validityPeriod ∧
      algo = algoOf (mergePolicy [policy] (read C (merged C order s admin))) := by
  constructor
  · by_cases hzero : policy.validityPeriod = 0
    · have hmerged : (mergePolicy [policy] (read C (PasswordPolicyPlugin.merged C order s
          admin))).validityPeriod = 0 := by
        refine (if_pos hzero).trans ?_
        rw [PasswordSerializer.read, merged_period h (hkeeps.period hzero)]
        exact C.getLong_createLong 0 (by decide)
      rw [PasswordSerializer.read, hmerged, hzero]
      exact (C.getLong_createLong 0 (by decide)).symm
    · have hmerged : (mergePolicy [policy] (read C (PasswordPolicyPlugin.merged C order s
          admin))).validityPeriod = policy.validityPeriod := if_neg hzero
      rw [PasswordSerializer.read, hmerged]
      exact hkeeps.exact.symm
  · by_cases hnone : policy.passwordAlgs = PasswordAlgs.NONE
    · have hmerged : (mergePolicy [policy] (read C (PasswordPolicyPlugin.merged C order s
          admin))).passwordAlgs = (PasswordPolicyPlugin.merged C order s admin).passwordAlgs :=
        if_pos hnone
      have hothers : algoOf (PasswordPolicyPlugin.merged C order s admin) = s.modules.pinAlgoType :=
        algoOf_merged h (hkeeps.algo hnone)
      rw [algoOf] at hothers ⊢
      rw [hmerged, hothers, halgo, if_neg (not_not.mpr hnone)]
    · have hmerged : (mergePolicy [policy] (read C (PasswordPolicyPlugin.merged C order s
          admin))).passwordAlgs = policy.passwordAlgs := if_neg hnone
      rw [algoOf, hmerged, halgo, if_pos hnone, if_neg hnone]

theorem Told.of_algoOf {modules : Modules} {policy : PasswordPolicy}
    (hperiod : modules.pinExpiredPeriod = policy.validityPeriod)
    (halgo : modules.pinAlgoType = algoOf policy) : Told modules policy := by
  refine ⟨hperiod, fun hset => ?_⟩
  rw [halgo, algoOf, if_neg hset]

/-- A request whose file is written. -/
theorem sound_saved (h : Sound C s) {request : Request} {t : State}
    (hperiod : request.answers.period = true) (halgo : request.answers.algo = true)
    (hkeeps : SetKeeps C s admin request.policy)
    (hsame : s.store.manager.policyValue admin POLICY_PASSWORD_POLICY =
      serialize C request.policy → Told s.modules request.policy)
    (hmodules : t.modules =
      { setGlobalConfigParam s.modules request.answers request.policy with
        file := PasswordPolicyUtils.updatePasswordPolicy C
          (setGlobalConfigParam s.modules request.answers request.policy).file
          (mergePolicy [request.policy] (read C (merged C order s admin))) })
    (hstored : Stored s.store t.store admin POLICY_PASSWORD_POLICY (serialize C request.policy)
      (serialize C (mergePolicy [request.policy] (read C (merged C order s admin))))) :
    Sound C t := by
  rw [setGlobalConfigParam_accepted hperiod halgo, h.isText.updatePasswordPolicy] at hmodules
  obtain ⟨hmergedPeriod, hmergedAlgo⟩ := hkeeps.merged h.readable order rfl
  have htold : Told t.modules (policyOf C t.modules.file) := by
    rw [hmodules, policyOf_serialize]
    exact .of_algoOf hmergedPeriod hmergedAlgo
  have hfile : IsText C t.modules.file := by
    rw [hmodules]
    exact .inr ⟨_, rfl⟩
  refine ⟨h.readable.stored hstored (.inr ⟨_, rfl⟩) (.inr ⟨_, rfl⟩), ?_, hfile, htold⟩
  rcases hstored.combined with ⟨hvalue, hcombined⟩ | ⟨-, hcombined⟩
  · -- The stored policy is set again: the combined one stays, and has what is sent.
    obtain ⟨hsamePeriod, hsameAlgo⟩ := hsame hvalue
    have hcombined : combined C t = combined C s := congrArg (policyOf C) hcombined
    refine ⟨?_, ?_⟩
    · rw [hmodules, hcombined, ← h.inForce.period]
      exact hsamePeriod.symm
    · rw [hmodules, hcombined, ← h.inForce.algo]
      dsimp only
      split
      · rename_i hset
        exact (hsameAlgo hset).symm
      · rfl
  · have hcombined : combined C t =
        read C (mergePolicy [request.policy] (read C (merged C order s admin))) :=
      (congrArg (policyOf C) hcombined).trans (policyOf_serialize _)
    refine ⟨?_, ?_⟩
    · rw [hmodules, hcombined]
      exact hmergedPeriod
    · rw [hmodules, hcombined]
      exact hmergedAlgo

theorem sound_update (h : Sound C s) (request : Request)
    (hkeeps : Keeps C validRegex s (.policy order (.update admin ⟨.done, .done⟩ request))) :
    Sound C (step C validRegex s (.policy order (.update admin ⟨.done, .done⟩ request))) := by
  obtain ⟨-, hperiod, halgo, hkeeps⟩ := hkeeps
  by_cases htype : request.type = .set
  · have hcall : ∀ policyData,
        (plugin C validRegex order).onHandlePolicy s.store.manager s.modules request policyData =
          IPluginTemplate.handlePolicy (serializer C) (onSetPolicy C validRegex request.answers)
            s.modules (some request.policy) policyData := by
      intro policyData
      show onHandlePolicy C validRegex s.modules request policyData = _
      rw [onHandlePolicy, htype]
    have hcurrent := IsText.deserializeNonempty (h.readable.text admin)
    have hothers := (isText_others h.readable validRegex order admin).deserializeNonempty
    rw [policyOf_others h.readable] at hothers
    rcases onSetPolicy_cases C validRegex request htype s.modules
      (policyOf C (s.store.manager.policyValue admin POLICY_PASSWORD_POLICY))
      (read C (merged C order s admin)) with
      ⟨ret, hret, hresult⟩ | ⟨haccepted, hsaved, hresult⟩ | ⟨haccepted, hsaved, hresult⟩
    · obtain ⟨-, hmodules, hstore⟩ := template_failed (plugin C validRegex order) admin
        h.readable.good policyName_ne request hcurrent hothers hcall hresult hret
      exact h.congr hmodules hstore
    · have htold := hkeeps haccepted
      rw [hsaved, if_neg Bool.false_ne_true] at htold
      obtain ⟨-, hmodules, hstore⟩ := template_failed (plugin C validRegex order) admin
        h.readable.good policyName_ne request hcurrent hothers hcall hresult (by decide)
      rw [setGlobalConfigParam_told hperiod halgo _ htold] at hmodules
      exact h.congr hmodules hstore
    · have hset := hkeeps haccepted
      rw [if_pos hsaved] at hset
      obtain ⟨-, hmodules, hstored⟩ := template_ok (plugin C validRegex order) admin
        h.readable.good policyName_ne rfl request hcurrent hothers hcall hresult rfl rfl
      exact sound_saved h hperiod halgo hset.1 hset.2 hmodules hstored
  · have hcall : onHandlePolicy C validRegex s.modules request
        (PluginManager.handlePolicyData (plugin C validRegex order) s admin) =
          (ERR_OK, s.modules,
            PluginManager.handlePolicyData (plugin C validRegex order) s admin) := by
      rw [onHandlePolicy]
      cases hcase : request.type with
      | set => exact absurd hcase htype
      | _ => rfl
    obtain ⟨hmodules, hstore⟩ := update_unchanged (plugin C validRegex order) admin
      h.readable.good policyName_ne hcall
    exact h.congr hmodules hstore

theorem removeAdmin_cases (h : Readable C s) (validRegex : String → Bool) (order : HashOrder)
    (admin : AdminName) (answers : Answers) :
    s.store.manager.policyValue admin POLICY_PASSWORD_POLICY = "" ∧
        step C validRegex s (.policy order (.removeAdmin admin ⟨.done, .done⟩ answers)) = s ∨
      s.store.manager.policyValue admin POLICY_PASSWORD_POLICY ≠ "" ∧
        (step C validRegex s (.policy order (.removeAdmin admin ⟨.done, .done⟩ answers))).modules =
          (onAdminRemove C answers s.modules (stored C s admin)
            (read C (merged C order s admin))).2 ∧
        Saved s.store
          (step C validRegex s (.policy order (.removeAdmin admin ⟨.done, .done⟩ answers))).store
          admin POLICY_PASSWORD_POLICY ""
          ((plugin C validRegex order).getOthersMergePolicyData s.store.manager admin) := by
  have hothers := (isText_others h validRegex order admin).deserialize
  rw [policyOf_others h] at hothers
  exact template_removeAdmin (plugin C validRegex order) admin h.good policyName_ne rfl answers
    (IsText.deserialize (h.text admin)) hothers fun _ _ => rfl

theorem onAdminRemove_answered {modules : Modules} {answers : Answers}
    (hanswers : answers = ⟨true, true, true⟩) (data mergeData : PasswordPolicy) :
    (onAdminRemove C answers modules data mergeData).2 =
      ⟨0, algoLeft modules data,
        PasswordPolicyUtils.updatePasswordPolicy C modules.file mergeData⟩ := by
  rw [hanswers]
  unfold onAdminRemove algoLeft
  rw [if_neg Bool.noConfusion]
  split <;> rfl

theorem sound_removeAdmin (h : Sound C s) (answers : Answers)
    (hkeeps : Keeps C validRegex s (.policy order (.removeAdmin admin ⟨.done, .done⟩ answers))) :
    Sound C (step C validRegex s (.policy order (.removeAdmin admin ⟨.done, .done⟩ answers))) := by
  obtain ⟨-, hperiod, halgo, hkeeps⟩ := hkeeps
  rcases removeAdmin_cases h.readable validRegex order admin answers with
    ⟨-, hsame⟩ | ⟨hvalue, hmodules, hsaved⟩
  · exact h.congr (congrArg PluginState.modules hsame) (congrArg PluginState.store hsame)
  obtain ⟨t, ht⟩ : ∃ t, t =
    step C validRegex s (.policy order (.removeAdmin admin ⟨.done, .done⟩ answers)) := ⟨_, rfl⟩
  rw [← ht] at hmodules hsaved ⊢
  obtain ⟨hwritten, hkeeps⟩ := hkeeps hvalue
  have hanswers : answers = ⟨true, true, true⟩ := by
    cases answers
    cases hperiod
    cases halgo
    cases hwritten
    rfl
  rw [onAdminRemove_answered hanswers, h.isText.updatePasswordPolicy] at hmodules
  have hzero : (read C (merged C order s admin)).validityPeriod = 0 := by
    rw [PasswordSerializer.read, merged_period h.readable hkeeps.period]
    exact C.getLong_createLong 0 (by decide)
  have hread : (read C (read C (merged C order s admin))).validityPeriod = 0 := by
    rw [PasswordSerializer.read, hzero]
    exact C.getLong_createLong 0 (by decide)
  have halgoLeft : algoLeft s.modules (stored C s admin) = algoOf (merged C order s admin) :=
    (algoOf_merged h.readable hkeeps.algo).symm
  have htold : Told t.modules (policyOf C t.modules.file) := by
    rw [hmodules, policyOf_serialize]
    exact .of_algoOf hread.symm halgoLeft
  have hfile : IsText C t.modules.file := by
    rw [hmodules]
    exact .inr ⟨_, rfl⟩
  have hcombined : combined C t = read C (merged C order s admin) :=
    (congrArg (policyOf C) hsaved.value_combined).trans (policyOf_others h.readable)
  refine ⟨h.readable.saved hsaved (.inl rfl) (isText_others h.readable validRegex order admin),
    ⟨?_, ?_⟩, hfile, htold⟩
  · rw [hmodules, hcombined]
    exact hzero.symm
  · rw [hmodules, hcombined]
    exact halgoLeft

theorem sound_start (h : Sound C s) {answers : Answers} (hperiod : answers.period = true)
    (halgo : answers.algo = true) : Sound C (step C validRegex s (.otherServiceStart answers)) := by
  refine h.congr ?_ rfl
  show onOtherServiceStart C s.modules answers = s.modules
  rw [onOtherServiceStart, h.isText.getPasswordPolicy]
  exact setGlobalConfigParam_told hperiod halgo _ h.told

theorem sound_step (h : Sound C s) (op : Op) (hkeeps : Keeps C validRegex s op) :
    Sound C (step C validRegex s op) := by
  cases op with
  | policy order op =>
    cases op with
    | update admin writes request =>
      obtain rfl : writes = ⟨.done, .done⟩ := hkeeps.1
      exact sound_update h request hkeeps
    | removeAdmin admin writes answers =>
      obtain rfl : writes = ⟨.done, .done⟩ := hkeeps.1
      exact sound_removeAdmin h answers hkeeps
  | otherServiceStart answers => exact sound_start h hkeeps.1 hkeeps.2

/-- What a removal that takes an admin's policy leaves. -/
theorem removes_cases (h : Readable C s) (validRegex : String → Bool) {op : Op}
    (hremoves : Removes s op) :
    ∃ (order : HashOrder) (admin : AdminName) (answers : Answers),
      op = .policy order (.removeAdmin admin ⟨.done, .done⟩ answers) ∧
      s.store.manager.policyValue admin POLICY_PASSWORD_POLICY ≠ "" ∧
      (step C validRegex s op).store.manager.policyValue "" POLICY_PASSWORD_POLICY =
        (plugin C validRegex order).getOthersMergePolicyData s.store.manager admin ∧
      ∀ v, v ∈ values order s admin ↔ v ≠ "" ∧ ∃ a : AdminName,
        (step C validRegex s op).store.manager.policyValue a POLICY_PASSWORD_POLICY = v := by
  cases op with
  | otherServiceStart answers => exact hremoves.elim
  | policy order op =>
    cases op with
    | update admin writes request => exact hremoves.elim
    | removeAdmin admin writes answers =>
      obtain ⟨rfl, hvalue⟩ := hremoves
      rcases removeAdmin_cases h validRegex order admin answers with ⟨hnone, -⟩ | ⟨-, -, hsaved⟩
      · exact absurd hnone hvalue
      refine ⟨order, admin, answers, rfl, hvalue, hsaved.value_combined, fun v => ?_⟩
      rw [mem_values h]
      refine and_congr_right fun hv => ⟨?_, ?_⟩
      · rintro ⟨other, hother, rfl⟩
        exact ⟨other, hsaved.value_other other.2 fun heq => hother (Subtype.ext heq.1)⟩
      · rintro ⟨a, rfl⟩
        have ha : a ≠ admin := by
          rintro rfl
          exact hv (hsaved.value_self a.2)
        exact ⟨a, ha, (hsaved.value_other a.2 fun heq => ha (Subtype.ext heq.1)).symm⟩

theorem right_step (h : Readable C s) (op : Op) (hkeeps : Keeps C validRegex s op) :
    Right C validRegex s op := by
  intro hremoves t op' ht hremoves' hsame
  obtain ⟨order, admin, answers, rfl, hvalue, hcombined, hvalues⟩ :=
    removes_cases h validRegex hremoves
  obtain ⟨order', admin', -, -, -, hcombined', hvalues'⟩ :=
    removes_cases ht validRegex hremoves'
  rw [hcombined, hcombined']
  refine othersText_congr h (hkeeps.2.2.2 hvalue).2 ht fun v => ?_
  rw [hvalues, hvalues']
  exact and_congr_right fun _ => exists_congr fun a => by rw [hsame a]

theorem sound_boot (userId : Int) : Sound C (boot userId) where
  readable := textStore_new (.inl rfl) userId
  inForce := by
    have hcombined : combined C (boot userId) = .initial :=
      congrArg (policyOf C) (policyValue_new userId "" POLICY_PASSWORD_POLICY)
    refine ⟨?_, ?_⟩
    · rw [hcombined]
      rfl
    · rw [hcombined]
      rfl
  isText := .inl rfl
  told := ⟨rfl, fun hset => absurd rfl hset⟩

end Step

def setOp (admin : AdminName) (policy : PasswordPolicy) : Op :=
  .policy .evaluated (.update admin ⟨.done, .done⟩ ⟨.set, policy, ⟨true, true, true⟩⟩)

def removeOp (admin : AdminName) : Op :=
  .policy .evaluated (.removeAdmin admin ⟨.done, .done⟩ ⟨true, true, true⟩)

/-- Everything that an operation calls takes effect. -/
def Succeeds : Op → Prop
  | .policy _ (.update _ writes request) =>
    writes = ⟨.done, .done⟩ ∧ request.answers = ⟨true, true, true⟩
  | .policy _ (.removeAdmin _ writes answers) =>
    writes = ⟨.done, .done⟩ ∧ answers = ⟨true, true, true⟩
  | .otherServiceStart answers => answers = ⟨true, true, true⟩

end PasswordPolicyPlugin

end Edm
