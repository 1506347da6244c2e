import Edm.Admin.AdminManager
import Edm.Plugin.AllOrNothing
import Edm.Plugin.FunctionPlugin
import Edm.Policy.Indexes

/-! The consumers that `IPluginTemplate` calls once a policy is handled or an admin is removed, and
whose policies the data passed to them depends on. -/

set_option autoImplicit false

namespace Edm

open Library Library.UnorderedMap

/-! ### What a user's call leaves does not depend on the tables -/

namespace UserStore

variable (m : UserPolicyManager) (t t' : PolicyTables)

theorem writeCombined_same (write : RdbOutcome) (p v : String) :
    (writeCombined ⟨m, t⟩ write p v).1 = (writeCombined ⟨m, t'⟩ write p v).1 ∧
      (writeCombined ⟨m, t⟩ write p v).2.manager = (writeCombined ⟨m, t'⟩ write p v).2.manager := by
  unfold writeCombined deleteCombinedPolicy setCombinedPolicy
  split <;> cases write <;> exact ⟨rfl, rfl⟩

theorem writeAdmin_same (write : RdbOutcome) (a p v : String) :
    (writeAdmin ⟨m, t⟩ write a p v).1 = (writeAdmin ⟨m, t'⟩ write a p v).1 ∧
      (writeAdmin ⟨m, t⟩ write a p v).2.manager = (writeAdmin ⟨m, t'⟩ write a p v).2.manager := by
  unfold writeAdmin deleteAdminPolicy setAdminPolicy
  split
  · cases write with
    | unavailable => exact ⟨rfl, rfl⟩
    | failed => exact ⟨rfl, rfl⟩
    | done =>
      dsimp only
      split <;> exact ⟨rfl, rfl⟩
  · cases write with
    | unavailable => exact ⟨rfl, rfl⟩
    | failed => exact ⟨rfl, rfl⟩
    | done =>
      dsimp only
      split <;> exact ⟨rfl, rfl⟩

theorem setPolicy_same (writes : Writes) (a p v merged : String) :
    (setPolicy ⟨m, t⟩ writes a p v merged).1 = (setPolicy ⟨m, t'⟩ writes a p v merged).1 ∧
      (setPolicy ⟨m, t⟩ writes a p v merged).2.manager =
        (setPolicy ⟨m, t'⟩ writes a p v merged).2.manager := by
  unfold setPolicy
  split
  · exact ⟨rfl, rfl⟩
  · obtain ⟨hcode, hmanager⟩ := writeCombined_same m t t' writes.combined p merged
    dsimp only
    split
    · exact ⟨hcode, hmanager⟩
    · obtain ⟨⟨code, manager, tables⟩, hfirst⟩ : ∃ result,
        writeCombined ⟨m, t⟩ writes.combined p merged = result := ⟨_, rfl⟩
      obtain ⟨⟨code', manager', tables'⟩, hsecond⟩ : ∃ result,
        writeCombined ⟨m, t'⟩ writes.combined p merged = result := ⟨_, rfl⟩
      rw [hfirst, hsecond] at hmanager ⊢
      obtain rfl : manager = manager' := hmanager
      exact writeAdmin_same manager tables tables' writes.admin a p v

end UserStore

namespace IPluginTemplate

variable {DT Modules : Type}

/-! ### The template -/

/-- What a plugin registers for an operation.  A `ReplyFunction` is a `Function` that also writes to
the reply. -/
inductive HandlePolicyFunc (Modules DT : Type) where
  | supplier (supplier : Modules → ErrCode × Modules)
  | function (function : Modules → DT → ErrCode × Modules × DT)
  | biFunction (biFunction : Int → Modules → DT → DT → DT → ErrCode × Modules × DT × DT)

inductive HandlePolicyDoneFunc where
  | boolConsumer
  | biBoolConsumer
  deriving DecidableEq

inductive AdminRemoveFunc (Modules DT : Type) where
  | supplier (supplier : Modules → ErrCode × Modules)
  | biAdminFunction (biAdminFunction : String → Int → Modules → DT → DT → ErrCode × Modules)

inductive AdminRemoveDoneFunc where
  | runner
  | biAdminConsumer
  deriving DecidableEq

/-- A call of a consumer, with its arguments. -/
inductive ConsumerCall (DT : Type) where
  | boolConsumer (isGlobalChanged : Bool)
  | biBoolConsumer (data : DT) (isGlobalChanged : Bool) (userId : Int)
  | runner
  | biAdminConsumer (adminName : String) (data : DT) (userId : Int)
  deriving DecidableEq

end IPluginTemplate

/-- An `IPluginTemplate`, with what its plugin registers. -/
structure IPluginTemplate (Modules DT : Type) where
  policyName : String
  needSave : Bool
  serializer : PolicySerializer DT
  order : HashOrder
  handlePolicyFuncMap : FuncOperateType → Option (IPluginTemplate.HandlePolicyFunc Modules DT)
  handlePolicyDoneFuncMap : FuncOperateType → Option IPluginTemplate.HandlePolicyDoneFunc
  adminRemoveFunc : Option (IPluginTemplate.AdminRemoveFunc Modules DT)
  adminRemoveDoneFunc : Option IPluginTemplate.AdminRemoveDoneFunc

namespace IPluginTemplate

variable {DT Modules : Type} (plugin : IPluginTemplate Modules DT)

def onHandlePolicy (userId : Int) (modules : Modules) (type : FuncOperateType)
    (handleData : Option DT) (policyData : HandlePolicyData) :
    ErrCode × Modules × HandlePolicyData :=
  match plugin.handlePolicyFuncMap type with
  | none => (ERR_OK, modules, policyData)
  | some (.supplier supplier) =>
    let (res, modules) := supplier modules
    (res, modules, policyData)
  | some (.function function) =>
    handleFunction plugin.serializer function modules handleData policyData
  | some (.biFunction biFunction) =>
    handlePolicy plugin.serializer (biFunction userId) modules handleData policyData

def onAdminRemove (userId : Int) (modules : Modules) (adminName currentJsonData mergeJsonData :
    String) : ErrCode × Modules :=
  match plugin.adminRemoveFunc with
  | none => (ERR_OK, modules)
  | some (.supplier supplier) => supplier modules
  | some (.biAdminFunction biAdminFunction) =>
    adminRemove plugin.serializer (biAdminFunction adminName userId) modules currentJsonData
      mergeJsonData

/-- The plugin as it works for a user.  A removal is told the admin's name. -/
def forUser (userId : Int) :
    Plugin Modules (FuncOperateType × Option DT) String Unit where
  policyName := plugin.policyName
  needSave := plugin.needSave
  getOthersMergePolicyData :=
    getOthersMergePolicyData plugin.serializer plugin.order plugin.policyName
  onHandlePolicy _ modules req := plugin.onHandlePolicy userId modules req.1 req.2
  onAdminRemove := plugin.onAdminRemove userId
  onPluginEvent handled _ := handled

/-- The values of all admins, merged.  The manager asked is that of the default user. -/
def getMergePolicyData (managers : Int → UserPolicyManager) : Option DT :=
  match plugin.order.entries ((managers DEFAULT_USER_ID).adminValues plugin.policyName) with
  | [] => some plugin.serializer.initial
  | [item] => plugin.serializer.deserialize item.2
  | items =>
    (items.mapM fun item => plugin.serializer.deserialize item.2).bind plugin.serializer.mergePolicy

/-- The consumer that is called once a request is handled. -/
def onHandlePolicyDone (managers : Int → UserPolicyManager) (type : FuncOperateType)
    (isGlobalChanged : Bool) (userId : Int) : Option (ConsumerCall DT) :=
  match plugin.handlePolicyDoneFuncMap type with
  | none => none
  | some .boolConsumer => some (.boolConsumer isGlobalChanged)
  | some .biBoolConsumer =>
    if plugin.needSave then
      (plugin.getMergePolicyData managers).map fun data =>
        .biBoolConsumer data isGlobalChanged userId
    else some (.biBoolConsumer plugin.serializer.initial isGlobalChanged userId)

/-- The consumer that is called once an admin is removed. -/
def onAdminRemoveDone (adminName currentJsonData : String) (userId : Int) :
    Option (ConsumerCall DT) :=
  match plugin.adminRemoveDoneFunc with
  | none => none
  | some .runner => some .runner
  | some .biAdminConsumer =>
    (plugin.serializer.deserialize currentJsonData).map fun data =>
      .biAdminConsumer adminName data userId

/-! ### The calls that end in a consumer -/

section Calls

variable (policies : Stores) (modules : Modules) (writes : Writes)

/-- What a user's plugin works on. -/
def state (userId : Int) : PluginState Modules :=
  { store := policies.user userId, modules, subscribed := false }

/-- Whether an update changes the combined policy. -/
def isGlobalChanged (s : PluginState Modules) (userId : Int) (bundleName : String)
    (req : FuncOperateType × Option DT) : Bool :=
  let handled := (PluginManager.handled (plugin.forUser userId) s bundleName req).2.2
  plugin.needSave && handled.isChanged &&
    s.store.manager.policyValue "" plugin.policyName != handled.mergePolicyData

/-- The consumer that `UpdateDevicePolicy` calls, if it does. -/
def updateDone (userId : Int) (bundleName : String) (req : FuncOperateType × Option DT) :
    Option (ConsumerCall DT) :=
  let s := state policies modules userId
  let (ret, s') :=
    PluginManager.updateDevicePolicy (plugin.forUser userId) s writes bundleName req
  if failed ret then none
  else
    plugin.onHandlePolicyDone (policies.setUser userId s'.store).manager req.1
      (plugin.isGlobalChanged s userId bundleName req) userId

/-- The consumer that `RemoveAdminItem` calls, if it does. -/
def removeDone (userId : Int) (adminName policyValue : String) : Option (ConsumerCall DT) :=
  let (ret, _) := PluginManager.removeAdminItem (plugin.forUser userId)
    (state policies modules userId) writes adminName adminName policyValue
  if failed ret then none else plugin.onAdminRemoveDone adminName policyValue userId

end Calls

/-! ### Whose policies the consumer sees -/

/-- Two states that differ in other users' policies only lead to the same call. -/
def NonInterfering (userId : Int) : Prop :=
  ∀ policies policies' : Stores, policies.manager userId = policies'.manager userId →
    (∀ modules writes bundleName req,
      plugin.updateDone policies modules writes userId bundleName req =
        plugin.updateDone policies' modules writes userId bundleName req) ∧
    ∀ modules writes adminName policyValue,
      plugin.removeDone policies modules writes userId adminName policyValue =
        plugin.removeDone policies' modules writes userId adminName policyValue

/-- No request of a type succeeds for a user. -/
def Idle (userId : Int) (type : FuncOperateType) : Prop :=
  ∀ (policies : Stores) (modules : Modules) writes bundleName data,
    failed (PluginManager.updateDevicePolicy (plugin.forUser userId)
      (state policies modules userId) writes bundleName (type, data)).1 = true

/-- The consumer's data is that of the default user, where a consumer of data is registered for a
type of requests that may succeed, and the merge depends on what is stored. -/
structure ReadsDefaultUser (userId : Int) : Prop where
  user : userId ≠ DEFAULT_USER_ID
  needSave : plugin.needSave = true
  consumer : ∃ type, plugin.handlePolicyDoneFuncMap type = some .biBoolConsumer ∧
    ¬plugin.Idle userId type
  depends : ∃ managers managers' : Int → UserPolicyManager,
    plugin.getMergePolicyData managers ≠ plugin.getMergePolicyData managers'

theorem handled_same {policies policies' : Stores} {userId : Int}
    (h : policies.manager userId = policies'.manager userId) (modules : Modules)
    (bundleName : String) (req : FuncOperateType × Option DT) :
    PluginManager.handled (plugin.forUser userId) (state policies modules userId) bundleName req =
      PluginManager.handled (plugin.forUser userId) (state policies' modules userId) bundleName
        req := by
  have hhandled : PluginManager.handlePolicyData (plugin.forUser userId)
      (state policies modules userId) bundleName = PluginManager.handlePolicyData
        (plugin.forUser userId) (state policies' modules userId) bundleName := by
    show HandlePolicyData.mk ((policies.manager userId).policyValue _ _) _ _ =
      HandlePolicyData.mk ((policies'.manager userId).policyValue _ _) _ _
    show HandlePolicyData.mk _ (getOthersMergePolicyData _ _ _ (policies.manager userId) _) _ =
      HandlePolicyData.mk _ (getOthersMergePolicyData _ _ _ (policies'.manager userId) _) _
    rw [h]
  unfold PluginManager.handled
  rw [hhandled]
  rfl

/-- The code of an update and the manager that it leaves. -/
theorem update_same {policies policies' : Stores} {userId : Int}
    (h : policies.manager userId = policies'.manager userId) (modules : Modules) (writes : Writes)
    (bundleName : String) (req : FuncOperateType × Option DT) :
    (PluginManager.updateDevicePolicy (plugin.forUser userId) (state policies modules userId) writes
        bundleName req).1 =
      (PluginManager.updateDevicePolicy (plugin.forUser userId) (state policies' modules userId)
        writes bundleName req).1 ∧
    (PluginManager.updateDevicePolicy (plugin.forUser userId) (state policies modules userId) writes
        bundleName req).2.store.manager =
      (PluginManager.updateDevicePolicy (plugin.forUser userId) (state policies' modules userId)
        writes bundleName req).2.store.manager := by
  have hsame := handled_same plugin h modules bundleName req
  obtain ⟨⟨ret, modules', handled⟩, hcall⟩ : ∃ called, PluginManager.handled (plugin.forUser userId)
    (state policies modules userId) bundleName req = called := ⟨_, rfl⟩
  rw [hcall] at hsame
  have hcall' := hsame.symm
  unfold PluginManager.handled at hcall hcall'
  by_cases hret : failed ret = true
  · rw [PluginManager.updateDevicePolicy_failed hcall hret,
      PluginManager.updateDevicePolicy_failed hcall' hret]
    exact ⟨rfl, h⟩
  · obtain rfl : ret = ERR_OK := not_not.mp fun hne => hret (bne_iff_ne.mpr hne)
    by_cases hchanged : ((plugin.forUser userId).needSave && handled.isChanged) = true
    · rw [PluginManager.updateDevicePolicy_changed hcall hchanged,
        PluginManager.updateDevicePolicy_changed hcall' hchanged]
      refine ⟨rfl, ?_⟩
      have hset := (UserStore.setPolicy_same (policies.manager userId) policies.tables
        policies'.tables writes bundleName plugin.policyName handled.policyData
        handled.mergePolicyData).2
      show (UserStore.setPolicy ⟨policies.manager userId, policies.tables⟩ _ _ _ _ _).2.manager =
        (UserStore.setPolicy ⟨policies'.manager userId, policies'.tables⟩ _ _ _ _ _).2.manager
      rw [← h]
      exact hset
    · rw [Bool.not_eq_true] at hchanged
      rw [PluginManager.updateDevicePolicy_unchanged hcall hchanged,
        PluginManager.updateDevicePolicy_unchanged hcall' hchanged]
      exact ⟨rfl, h⟩

variable {plugin}

theorem isGlobalChanged_same {policies policies' : Stores} {userId : Int}
    (h : policies.manager userId = policies'.manager userId) (modules : Modules)
    (bundleName : String) (req : FuncOperateType × Option DT) :
    plugin.isGlobalChanged (state policies modules userId) userId bundleName req =
      plugin.isGlobalChanged (state policies' modules userId) userId bundleName req := by
  unfold isGlobalChanged
  rw [handled_same plugin h modules bundleName req]
  show (plugin.needSave && _ && (policies.manager userId).policyValue _ _ != _) =
    (plugin.needSave && _ && (policies'.manager userId).policyValue _ _ != _)
  rw [h]

/-- The code of the statements of a removal. -/
def removalCode {Req Reply Event : Type} (plugin : Plugin Modules Req Reply Event)
    (store : UserStore) (writes : Writes) (adminName : String) : ErrCode :=
  if isEmpty (store.manager.adminValues plugin.policyName) then
    (store.setPolicy writes "" plugin.policyName "" "").1
  else
    (store.setPolicy writes adminName plugin.policyName ""
      (plugin.getOthersMergePolicyData store.manager adminName)).1

theorem removeAdminItem_code {Req Reply Event : Type} (plugin : Plugin Modules Req Reply Event)
    (s : PluginState Modules) (writes : Writes) (reply : Reply) (adminName policyValue : String) :
    (PluginManager.removeAdminItem plugin s writes reply adminName policyValue).1 =
      if (plugin.needSave && failed (removalCode plugin s.store writes adminName)) = true then
        ERR_EDM_DEL_ADMIN_FAILED
      else ERR_OK := by
  unfold PluginManager.removeAdminItem removalCode
  by_cases hsave : plugin.needSave = true
  · simp only [hsave, if_true, Bool.true_and]
    split
    · exact apply_ite Prod.fst _ _ _
    · exact apply_ite Prod.fst _ _ _
  · have hok : ¬failed ERR_OK = true := by decide
    simp only [hsave, Bool.false_eq_true, if_false, hok, Bool.false_and]

theorem removalCode_same {Req Reply Event : Type} (plugin : Plugin Modules Req Reply Event)
    (m : UserPolicyManager) (t t' : PolicyTables) (writes : Writes) (adminName : String) :
    removalCode plugin ⟨m, t⟩ writes adminName = removalCode plugin ⟨m, t'⟩ writes adminName := by
  unfold removalCode
  dsimp only
  rw [(UserStore.setPolicy_same m t t' writes _ _ _ _).1,
    (UserStore.setPolicy_same m t t' writes _ _ _ _).1]

/-- The data of a removal is the removed admin's. -/
theorem removeDone_same {policies policies' : Stores} {userId : Int}
    (h : policies.manager userId = policies'.manager userId) (modules : Modules) (writes : Writes)
    (adminName policyValue : String) :
    plugin.removeDone policies modules writes userId adminName policyValue =
      plugin.removeDone policies' modules writes userId adminName policyValue := by
  have hcode : (PluginManager.removeAdminItem (plugin.forUser userId)
      (state policies modules userId) writes adminName adminName policyValue).1 =
        (PluginManager.removeAdminItem (plugin.forUser userId)
          (state policies' modules userId) writes adminName adminName policyValue).1 := by
    rw [removeAdminItem_code, removeAdminItem_code]
    show (if (_ && failed (removalCode _ ⟨policies.manager userId, policies.tables⟩ _ _)) = true
        then _ else _) =
      if (_ && failed (removalCode _ ⟨policies'.manager userId, policies'.tables⟩ _ _)) = true
        then _ else _
    rw [← h, removalCode_same _ _ policies.tables policies'.tables]
  unfold removeDone
  dsimp only
  rw [hcode]

theorem getMergePolicyData_same {managers managers' : Int → UserPolicyManager}
    (h : managers DEFAULT_USER_ID = managers' DEFAULT_USER_ID) :
    plugin.getMergePolicyData managers = plugin.getMergePolicyData managers' := by
  unfold getMergePolicyData
  rw [h]

/-- The calls for a user are those that this user's policies decide, unless the default user's data
is read. -/
theorem nonInterfering_iff (plugin : IPluginTemplate Modules DT) (userId : Int) :
    plugin.NonInterfering userId ↔ ¬plugin.ReadsDefaultUser userId := by
  constructor
  · rintro h ⟨hne, hsave, ⟨type, hconsumer, hactive⟩, managers, managers', hdepends⟩
    unfold Idle at hactive
    push Not at hactive
    obtain ⟨policies, modules, writes, bundleName, data, hok⟩ := hactive
    -- The states agree on the user's policies; the default user's are free.
    have hcall : ∀ managers : Int → UserPolicyManager,
        let mixed : Stores :=
          { policies with manager := Function.update managers userId (policies.manager userId) }
        mixed.manager userId = policies.manager userId ∧
          plugin.updateDone mixed modules writes userId bundleName (type, data) =
            (plugin.getMergePolicyData managers).map fun merged => .biBoolConsumer merged
              (plugin.isGlobalChanged (state policies modules userId) userId bundleName
                (type, data)) userId := by
      intro managers mixed
      have huser : mixed.manager userId = policies.manager userId := Function.update_self _ _ _
      refine ⟨huser, ?_⟩
      have hcode := (update_same plugin huser modules writes bundleName (type, data)).1
      unfold updateDone
      dsimp only
      rw [hcode, if_neg hok, isGlobalChanged_same huser, onHandlePolicyDone, hconsumer]
      dsimp only
      rw [if_pos hsave]
      congr 1
      refine getMergePolicyData_same ?_
      rw [Stores.setUser_manager_of_ne _ (Ne.symm hne)]
      exact Function.update_of_ne (Ne.symm hne) _ _
    obtain ⟨hmixed, hfirst⟩ := hcall managers
    obtain ⟨hmixed', hsecond⟩ := hcall managers'
    have hsame := (h _ _ (hmixed.trans hmixed'.symm)).1 modules writes bundleName (type, data)
    rw [hfirst, hsecond] at hsame
    refine hdepends (Option.map_injective (fun merged merged' hmerged => ?_) hsame)
    cases hmerged
    rfl
  · intro h policies policies' hsame
    refine ⟨fun modules writes bundleName req => ?_, removeDone_same hsame⟩
    obtain ⟨hcode, hmanager⟩ := update_same plugin hsame modules writes bundleName req
    unfold updateDone
    dsimp only
    rw [hcode, isGlobalChanged_same hsame]
    by_cases hfailed : failed (PluginManager.updateDevicePolicy (plugin.forUser userId)
        (state policies' modules userId) writes bundleName req).1 = true
    · rw [if_pos hfailed, if_pos hfailed]
    rw [if_neg hfailed, if_neg hfailed]
    unfold onHandlePolicyDone
    cases hconsumer : plugin.handlePolicyDoneFuncMap req.1 with
    | none => rfl
    | some consumer =>
      cases consumer with
      | boolConsumer => rfl
      | biBoolConsumer =>
        dsimp only
        by_cases hsave : plugin.needSave = true
        · rw [if_pos hsave, if_pos hsave]
          congr 1
          by_cases huser : userId = DEFAULT_USER_ID
          · refine getMergePolicyData_same ?_
            rw [← huser, Stores.setUser_manager_self, Stores.setUser_manager_self, hmanager]
          · by_contra hdepends
            exact h ⟨huser, hsave, ⟨req.1, hconsumer, fun hidle =>
              hfailed (hidle policies' modules writes bundleName req.2)⟩, _, _, hdepends⟩
        · rw [if_neg hsave, if_neg hsave]

/-- A plugin that takes every number, with a consumer of the merged data. -/
def notifying : IPluginTemplate Unit Int32 where
  policyName := "notifying"
  needSave := true
  serializer := IntSerializer.serializer 0
  order := .evaluated
  handlePolicyFuncMap _ := some (.function fun modules data => (ERR_OK, modules, data))
  handlePolicyDoneFuncMap _ := some .biBoolConsumer
  adminRemoveFunc := none
  adminRemoveDoneFunc := some .biAdminConsumer

/-- A consumer for another user gets the default user's value. -/
theorem consumer_gets_default_value :
    ¬∀ (plugin : IPluginTemplate Unit Int32) (userId : Int), plugin.NonInterfering userId := by
  intro h
  have hsame := (h notifying 101 Stores.boot (Stores.boot.setUser DEFAULT_USER_ID
    ((Stores.boot.user DEFAULT_USER_ID).setPolicy ⟨.done, .done⟩ "com.first" "notifying" "5"
      "5").2) (by rfl)).1 () ⟨.done, .done⟩ "com.first" (.set, some 1)
  revert hsame
  decide +kernel

end IPluginTemplate

end Edm
