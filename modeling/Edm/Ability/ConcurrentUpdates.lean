import Edm.Ability.ConflictGroupRegistry
import Edm.Ability.Device
import Edm.Library.CriticalSections
import Edm.Policy.ManagerWrites

/-! Updates by several callers at once.  `UpdateDevicePolicy` holds the lock of the conflict group of
its policy, and only if the plugin saves it; each call that it makes to `PolicyManager` is atomic, and
so is the handler of the plugin.  The tables and `OnHandlePolicyDone` are left out.  Removals, events
and the start of other services take another lock and are not among the calls. -/

set_option autoImplicit false

namespace Edm

open Library Library.UnorderedMap Library.CriticalSection

/-- What the calls share. -/
structure SharedState (Modules : Type) where
  managers : Int → UserPolicyManager
  modules : Modules
  subscribed : String → Bool

def Device.shared {Modules : Type} (d : Device Modules) : SharedState Modules :=
  ⟨d.policies.manager, d.modules, d.subscribed⟩

/-- A call of `UpdateDevicePolicy`, with what becomes of its writes. -/
structure UpdateCall (Req : Type) where
  code : UInt32
  bundleName : String
  request : Req
  userId : Int
  writes : Writes

/-- The local variables of a call, with what it returns. -/
structure UpdateRegisters where
  ret : ErrCode
  oldCombinePolicy : String
  handlePolicyData : HandlePolicyData
  isGlobalChanged : Bool
  deriving DecidableEq, Repr

def UpdateRegisters.start : UpdateRegisters := ⟨ERR_OK, "", ⟨"", "", false⟩, false⟩

namespace UpdateDevicePolicy

variable {Modules Req Reply Event : Type}

/-- A step of a call. -/
abbrev UpdateStep (Modules : Type) :=
  UpdateRegisters → SharedState Modules → UpdateRegisters × SharedState Modules

/-- A call of a `Get` of `PolicyManager`. -/
def observe (read : (Int → UserPolicyManager) → UpdateRegisters → UpdateRegisters) :
    UpdateStep Modules :=
  fun r s => (read s.managers r, s)

section

variable (plugin : RegisteredPlugin Modules Req Reply Event) (call : UpdateCall Req)

def readCombined (managers : Int → UserPolicyManager) (r : UpdateRegisters) : UpdateRegisters :=
  { r with oldCombinePolicy := (managers call.userId).policyValue "" plugin.policyName }

def readAdmin (managers : Int → UserPolicyManager) (r : UpdateRegisters) : UpdateRegisters :=
  { r with
    handlePolicyData.policyData :=
      (managers call.userId).policyValue call.bundleName plugin.policyName }

def readOthers (managers : Int → UserPolicyManager) (r : UpdateRegisters) : UpdateRegisters :=
  { r with
    handlePolicyData.mergePolicyData :=
      plugin.getOthersMergePolicyData managers call.userId call.bundleName }

def handle : UpdateStep Modules := fun r s =>
  let (ret, modules, handlePolicyData) :=
    plugin.onHandlePolicy s.managers call.userId s.modules call.request r.handlePolicyData
  ({ r with ret, handlePolicyData }, { s with modules })

/-- Whether a call goes on to save the policy. -/
def saves (r : UpdateRegisters) : Bool :=
  !failed r.ret && (plugin.needSave && r.handlePolicyData.isChanged)

def save : UpdateStep Modules := fun r s =>
  if saves plugin r then
    ({ r with isGlobalChanged := r.oldCombinePolicy != r.handlePolicyData.mergePolicyData },
      { s with
        managers := Function.update s.managers call.userId
          ((s.managers call.userId).setPolicy call.writes call.bundleName plugin.policyName
            r.handlePolicyData.policyData r.handlePolicyData.mergePolicyData) })
  else (r, s)

/-- `SubscribeEvent` or `UnsubscribeEvent`. -/
def subscribe : UpdateStep Modules := fun r s =>
  if saves plugin r then
    (r, { s with
      subscribed := Function.update s.subscribed plugin.policyName
        (r.handlePolicyData.mergePolicyData != "") })
  else (r, s)

def steps : List (UpdateStep Modules) :=
  [observe (readCombined plugin call), observe (readAdmin plugin call),
    observe (readOthers plugin call), handle plugin call, save plugin call, subscribe plugin]

end

/-- The lock is taken once the plugin is found. -/
def updateSection (plugins : PluginTable Modules Req Reply Event) (call : UpdateCall Req) :
    CriticalSection ConflictGroupId UpdateRegisters (SharedState Modules) :=
  match plugins.getPluginByFuncCode call.code with
  | none =>
    { lock := none
      start := { UpdateRegisters.start with ret := EdmReturnErrCode.INTERFACE_UNSUPPORTED }
      code := [] }
  | some plugin =>
    { lock :=
        if plugin.needSave then
          some (ConflictGroupRegistry.getConflictGroupId (funcToPolicy call.code))
        else none
      start := UpdateRegisters.start
      code := steps plugin call }

/-! ### A call on its own -/

section Alone

variable (plugin : RegisteredPlugin Modules Req Reply Event) (call : UpdateCall Req)

/-- What a call has read before its handler runs. -/
def readAll (d : Device Modules) : UpdateRegisters where
  ret := ERR_OK
  oldCombinePolicy := (d.policies.manager call.userId).policyValue "" plugin.policyName
  handlePolicyData :=
    PluginManager.handlePolicyData (plugin.forUser d.policies.manager call.userId)
      (d.pluginState plugin.policyName call.userId) call.bundleName
  isGlobalChanged := false

variable {plugin call} {r : UpdateRegisters} {s : SharedState Modules}

theorem save_of_saves (h : saves plugin r = true) :
    save plugin call r s =
      ({ r with isGlobalChanged := r.oldCombinePolicy != r.handlePolicyData.mergePolicyData },
        { s with
          managers := Function.update s.managers call.userId
            ((s.managers call.userId).setPolicy call.writes call.bundleName plugin.policyName
              r.handlePolicyData.policyData r.handlePolicyData.mergePolicyData) }) :=
  if_pos h

theorem subscribe_of_saves (h : saves plugin r = true) :
    subscribe plugin r s =
      (r, { s with
        subscribed := Function.update s.subscribed plugin.policyName
          (r.handlePolicyData.mergePolicyData != "") }) :=
  if_pos h

theorem save_of_not (h : saves plugin r = false) : save plugin call r s = (r, s) :=
  if_neg (Bool.eq_false_iff.mp h)

theorem subscribe_of_not (h : saves plugin r = false) : subscribe plugin r s = (r, s) :=
  if_neg (Bool.eq_false_iff.mp h)

theorem setPluginState_shared (d : Device Modules) (policyName : String) (userId : Int)
    (s : PluginState Modules) :
    (d.setPluginState policyName userId s).shared =
      ⟨Function.update d.policies.manager userId s.store.manager, s.modules,
        Function.update d.subscribed policyName s.subscribed⟩ :=
  rfl

/-- The device when only the modules change. -/
theorem setPluginState_modules (d : Device Modules) (policyName : String) (userId : Int)
    (modules : Modules) :
    (d.setPluginState policyName userId
      { d.pluginState policyName userId with modules }).shared = { d.shared with modules } := by
  rw [setPluginState_shared]
  show SharedState.mk (Function.update d.policies.manager userId (d.policies.manager userId)) modules
    (Function.update d.subscribed policyName (d.subscribed policyName)) = _
  rw [Function.update_eq_self, Function.update_eq_self]
  rfl

/-- Without interruption, the steps of a plugin are its `UpdateDevicePolicy`. -/
theorem steps_eq (d : Device Modules) :
    let done := runSteps (steps plugin call) UpdateRegisters.start d.shared
    let result := PluginManager.updateDevicePolicy
      (plugin.forUser d.policies.manager call.userId)
      (d.pluginState plugin.policyName call.userId) call.writes call.bundleName call.request
    done.1.ret = result.1 ∧
      done.2 = (d.setPluginState plugin.policyName call.userId result.2).shared := by
  let forUser := plugin.forUser d.policies.manager call.userId
  let s := d.pluginState plugin.policyName call.userId
  obtain ⟨ret, modules, handled, hhandled⟩ : ∃ ret modules handled,
      forUser.onHandlePolicy s.store.manager s.modules call.request
        (PluginManager.handlePolicyData forUser s call.bundleName) = (ret, modules, handled) :=
    ⟨_, _, _, rfl⟩
  let r : UpdateRegisters := { readAll plugin call d with ret, handlePolicyData := handled }
  have hhandle : handle plugin call (readAll plugin call d) d.shared =
      (r, { d.shared with modules }) := by
    have hcall : plugin.onHandlePolicy d.policies.manager call.userId d.modules call.request
      (readAll plugin call d).handlePolicyData = (ret, modules, handled) := hhandled
    simp only [handle, Device.shared, hcall, r]
  have hrun : runSteps (steps plugin call) UpdateRegisters.start d.shared =
      subscribe plugin (save plugin call r { d.shared with modules }).1
        (save plugin call r { d.shared with modules }).2 := by
    show (let m := handle plugin call (readAll plugin call d) d.shared
      let m := save plugin call m.1 m.2
      subscribe plugin m.1 m.2) = _
    rw [hhandle]
  dsimp only
  rw [hrun]
  by_cases hfailed : failed ret = true
  · have hsaves : saves plugin r = false := by simp [saves, r, hfailed]
    rw [save_of_not hsaves, subscribe_of_not hsaves,
      PluginManager.updateDevicePolicy_failed hhandled hfailed]
    exact ⟨rfl, (setPluginState_modules d plugin.policyName call.userId modules).symm⟩
  · obtain rfl : ret = ERR_OK := by simpa [failed] using hfailed
    by_cases hchanged : (plugin.needSave && handled.isChanged) = true
    · have hsaves : saves plugin r = true := by
        have hok : failed ERR_OK = false := by decide
        simp [saves, r, hok, hchanged]
      have hsaves' : saves plugin { r with
          isGlobalChanged := r.oldCombinePolicy != r.handlePolicyData.mergePolicyData } = true :=
        hsaves
      rw [save_of_saves hsaves, subscribe_of_saves hsaves',
        PluginManager.updateDevicePolicy_changed hhandled hchanged, setPluginState_shared,
        UserStore.setPolicy_manager]
      exact ⟨rfl, rfl⟩
    · have hsaves : saves plugin r = false := by
        rw [Bool.not_eq_true] at hchanged
        simp [saves, r, hchanged]
      rw [save_of_not hsaves, subscribe_of_not hsaves,
        PluginManager.updateDevicePolicy_unchanged hhandled (Bool.eq_false_iff.mpr hchanged)]
      exact ⟨rfl, (setPluginState_modules d plugin.policyName call.userId modules).symm⟩

theorem subscribe_managers (r : UpdateRegisters) (s : SharedState Modules) :
    (subscribe plugin r s).2.managers = s.managers := by
  unfold subscribe
  split <;> rfl

variable (plugin call)

/-- What a call has handled once its handler has run. -/
def handledData (s : SharedState Modules) : ErrCode × Modules × HandlePolicyData :=
  plugin.onHandlePolicy s.managers call.userId s.modules call.request
    { policyData := (s.managers call.userId).policyValue call.bundleName plugin.policyName
      mergePolicyData :=
        plugin.getOthersMergePolicyData s.managers call.userId call.bundleName
      isChanged := false }

variable {plugin call}

/-- However far a call comes alone, it leaves the policies, or it has saved what its handler made of
them. -/
theorem runSteps_managers {done : List (UpdateStep Modules)} (hdone : done <+: steps plugin call)
    (s : SharedState Modules) :
    (runSteps done UpdateRegisters.start s).2.managers = s.managers ∨
      failed (handledData plugin call s).1 = false ∧
        (runSteps done UpdateRegisters.start s).2.managers =
          Function.update s.managers call.userId
            ((s.managers call.userId).setPolicy call.writes call.bundleName plugin.policyName
              (handledData plugin call s).2.2.policyData
              (handledData plugin call s).2.2.mergePolicyData) := by
  let r : UpdateRegisters :=
    { ret := (handledData plugin call s).1
      oldCombinePolicy := (s.managers call.userId).policyValue "" plugin.policyName
      handlePolicyData := (handledData plugin call s).2.2
      isGlobalChanged := false }
  let s' : SharedState Modules := { s with modules := (handledData plugin call s).2.1 }
  have hsaved : (save plugin call r s').2.managers = s.managers ∨
      failed (handledData plugin call s).1 = false ∧
        (save plugin call r s').2.managers =
          Function.update s.managers call.userId
            ((s.managers call.userId).setPolicy call.writes call.bundleName plugin.policyName
              (handledData plugin call s).2.2.policyData
              (handledData plugin call s).2.2.mergePolicyData) := by
    cases hsaves : saves plugin r with
    | false =>
      rw [save_of_not hsaves]
      exact .inl rfl
    | true =>
      have hret : failed r.ret = false := by
        simp only [saves, Bool.and_eq_true, Bool.not_eq_true'] at hsaves
        exact hsaves.1
      rw [save_of_saves hsaves]
      exact .inr ⟨hret, rfl⟩
  simp only [steps, List.prefix_cons_iff, List.prefix_nil] at hdone
  rcases hdone with rfl | ⟨_, rfl, rfl | ⟨_, rfl, rfl | ⟨_, rfl, rfl | ⟨_, rfl, rfl | ⟨_, rfl, rfl |
    ⟨_, rfl, rfl⟩⟩⟩⟩⟩⟩
  · exact .inl rfl
  · exact .inl rfl
  · exact .inl rfl
  · exact .inl rfl
  · exact .inl rfl
  · exact hsaved
  · have hmanagers : (runSteps [observe (readCombined plugin call), observe (readAdmin plugin call),
        observe (readOthers plugin call), handle plugin call, save plugin call, subscribe plugin]
        UpdateRegisters.start s).2.managers = (save plugin call r s').2.managers :=
      subscribe_managers ..
    rw [hmanagers]
    exact hsaved

end Alone

/-- Without interruption, the steps are `UpdateDevicePolicy`. -/
theorem runSteps_eq (plugins : PluginTable Modules Req Reply Event) (call : UpdateCall Req)
    (d : Device Modules) :
    let done := runSteps (updateSection plugins call).code (updateSection plugins call).start
      d.shared
    let result := plugins.updateDevicePolicy d call.writes call.code call.bundleName call.request
      call.userId
    done.1.ret = result.1 ∧ done.2 = result.2.shared := by
  unfold updateSection PluginTable.updateDevicePolicy
  cases plugins.getPluginByFuncCode call.code with
  | none => exact ⟨rfl, rfl⟩
  | some plugin => exact steps_eq d

/-! ### Calls that may overlap -/

/-- The indexes of every user are inverse. -/
def Inverse (s : SharedState Modules) : Prop := ∀ u, IndexesInverse (s.managers u)

/-- The handler of a plugin does not read a policy. -/
def Ignores (plugin : RegisteredPlugin Modules Req Reply Event) (policyName : String) : Prop :=
  ∀ managers managers' : Int → UserPolicyManager,
    (∀ u q, q ≠ policyName → UserPolicyManager.SamePolicy (managers u) (managers' u) q) →
    plugin.onHandlePolicy managers = plugin.onHandlePolicy managers'

/-- Neither call reads the policy that the other saves, and their handlers drive modules apart. -/
structure PluginsApart (plugin plugin' : RegisteredPlugin Modules Req Reply Event)
    (call call' : UpdateCall Req) : Prop where
  policyName_ne : plugin.needSave = true ∨ plugin'.needSave = true →
    plugin.policyName ≠ plugin'.policyName
  ignores : plugin'.needSave = true → Ignores plugin plugin'.policyName
  ignored : plugin.needSave = true → Ignores plugin' plugin.policyName
  handlers : Independent Inverse (handle plugin call) (handle plugin' call')

section Independence

variable {plugin plugin' : RegisteredPlugin Modules Req Reply Event} {call call' : UpdateCall Req}

theorem PluginsApart.symm (h : PluginsApart plugin plugin' call call') :
    PluginsApart plugin' plugin call' call where
  policyName_ne hsave := (h.policyName_ne hsave.symm).symm
  ignores := h.ignored
  ignored := h.ignores
  handlers := h.handlers.symm

theorem needSave_of_saves {r : UpdateRegisters} (h : saves plugin r = true) :
    plugin.needSave = true := by
  simp only [saves, Bool.and_eq_true] at h
  exact h.2.1

/-- A save leaves the other policies of all users. -/
theorem save_samePolicy (hwrites : call.writes.admin ≠ .failed) {s : SharedState Modules}
    (hs : Inverse s) (r : UpdateRegisters) {q : String}
    (hq : plugin.needSave = true → q ≠ plugin.policyName) (u : Int) :
    UserPolicyManager.SamePolicy ((save plugin call r s).2.managers u) (s.managers u) q := by
  by_cases hsaves : saves plugin r = true
  · rw [save_of_saves hsaves]
    by_cases hu : u = call.userId
    · subst hu
      simp only [Function.update_self]
      exact UserPolicyManager.setPolicy_samePolicy (hs _) hwrites plugin.policyName_ne
        (hq (needSave_of_saves hsaves))
    · simp only [Function.update_of_ne hu]
      exact .refl _ q
  · rw [save_of_not (Bool.not_eq_true _ ▸ hsaves)]
    exact .refl _ q

/-- Every step leaves the policies that its plugin does not save. -/
theorem step_samePolicy (hwrites : call.writes.admin ≠ .failed) {f : UpdateStep Modules}
    (hf : f ∈ steps plugin call) {s : SharedState Modules} (hs : Inverse s) (r : UpdateRegisters)
    {q : String} (hq : plugin.needSave = true → q ≠ plugin.policyName) (u : Int) :
    UserPolicyManager.SamePolicy ((f r s).2.managers u) (s.managers u) q := by
  simp only [steps, List.mem_cons, List.not_mem_nil, or_false] at hf
  rcases hf with rfl | rfl | rfl | rfl | rfl | rfl
  · exact .refl _ q
  · exact .refl _ q
  · exact .refl _ q
  · exact .refl _ q
  · exact save_samePolicy hwrites hs r hq u
  · unfold subscribe
    split <;> exact .refl _ q

theorem step_inverse (hwrites : call.writes.admin ≠ .failed) {f : UpdateStep Modules}
    (hf : f ∈ steps plugin call) (r : UpdateRegisters) {s : SharedState Modules} (hs : Inverse s) :
    Inverse (f r s).2 := by
  simp only [steps, List.mem_cons, List.not_mem_nil, or_false] at hf
  rcases hf with rfl | rfl | rfl | rfl | rfl | rfl
  · exact hs
  · exact hs
  · exact hs
  · exact hs
  · unfold save
    split
    · intro u
      by_cases hu : u = call.userId
      · subst hu
        simp only [Function.update_self]
        exact UserPolicyManager.setPolicy_inverse (hs _) hwrites
      · simp only [Function.update_of_ne hu]
        exact hs u
    · exact hs
  · unfold subscribe
    split <;> exact hs

/-- Reading the policy of a plugin, before or after a step of a call that does not save it. -/
theorem independent_observe (hwrites : call'.writes.admin ≠ .failed)
    (hname : plugin'.needSave = true → plugin.policyName ≠ plugin'.policyName)
    {read : (Int → UserPolicyManager) → UpdateRegisters → UpdateRegisters}
    (hread : ∀ managers managers' : Int → UserPolicyManager,
      (∀ u, UserPolicyManager.SamePolicy (managers u) (managers' u) plugin.policyName) →
      read managers = read managers')
    {g : UpdateStep Modules} (hg : g ∈ steps plugin' call') :
    Independent Inverse (observe read) g where
  left r r' s hs := by
    show read (g r' s).2.managers r = read s.managers r
    rw [hread _ s.managers fun u => step_samePolicy hwrites hg hs r' hname u]
  right r r' s hs := rfl
  shared r r' s hs := rfl

theorem readCombined_same (managers managers' : Int → UserPolicyManager)
    (h : ∀ u, UserPolicyManager.SamePolicy (managers u) (managers' u) plugin.policyName) :
    readCombined plugin call managers = readCombined plugin call managers' := by
  funext r
  unfold readCombined
  rw [(h call.userId).policyValue]

theorem readAdmin_same (managers managers' : Int → UserPolicyManager)
    (h : ∀ u, UserPolicyManager.SamePolicy (managers u) (managers' u) plugin.policyName) :
    readAdmin plugin call managers = readAdmin plugin call managers' := by
  funext r
  unfold readAdmin
  rw [(h call.userId).policyValue]

theorem readOthers_same (managers managers' : Int → UserPolicyManager)
    (h : ∀ u, UserPolicyManager.SamePolicy (managers u) (managers' u) plugin.policyName) :
    readOthers plugin call managers = readOthers plugin call managers' := by
  funext r
  unfold readOthers
  rw [plugin.reads_own_policy managers managers' (fun u => (h u).adminValues)
    fun u => (h u).policyValue ""]

theorem handle_eq (r : UpdateRegisters) (s : SharedState Modules) :
    handle plugin call r s =
      let result :=
        plugin.onHandlePolicy s.managers call.userId s.modules call.request r.handlePolicyData
      ({ r with ret := result.1, handlePolicyData := result.2.2 },
        { s with modules := result.2.1 }) :=
  rfl

/-- A handler before or after a save of a policy that it does not read. -/
theorem independent_handle_save (hwrites : call'.writes.admin ≠ .failed)
    (hignores : plugin'.needSave = true → Ignores plugin plugin'.policyName) :
    Independent Inverse (handle plugin call) (save plugin' call') := by
  have hsame : ∀ r' s, Inverse s → saves plugin' r' = true →
      plugin.onHandlePolicy (save plugin' call' r' s).2.managers =
        plugin.onHandlePolicy s.managers := fun r' s hs hsaves =>
    hignores (needSave_of_saves hsaves) _ _ fun u q hq =>
      save_samePolicy hwrites hs r' (fun _ => hq) u
  constructor
  · intro r r' s hs
    cases hsaves : saves plugin' r' with
    | false => rw [save_of_not hsaves]
    | true =>
      have hsame := hsame r' s hs hsaves
      rw [save_of_saves hsaves] at hsame ⊢
      simp only [handle_eq, hsame]
  · intro r r' s hs
    cases hsaves : saves plugin' r' with
    | false => rw [save_of_not hsaves, save_of_not hsaves]
    | true => rw [save_of_saves hsaves, save_of_saves hsaves]
  · intro r r' s hs
    cases hsaves : saves plugin' r' with
    | false => rw [save_of_not hsaves, save_of_not hsaves]
    | true =>
      have hsame := hsame r' s hs hsaves
      rw [save_of_saves hsaves] at hsame ⊢
      rw [save_of_saves hsaves]
      simp only [handle_eq, hsame]

/-- A step that has nothing to do with subscriptions. -/
theorem independent_subscribe {f : UpdateStep Modules}
    (hreads : ∀ r (s : SharedState Modules) subscribed,
      f r { s with subscribed } = ((f r s).1, { (f r s).2 with subscribed }))
    (hkeeps : ∀ r s, (f r s).2.subscribed = s.subscribed) :
    Independent Inverse f (subscribe plugin') := by
  constructor
  · intro r r' s hs
    unfold subscribe
    split
    · rw [hreads]
    · rfl
  · intro r r' s hs
    unfold subscribe
    split <;> rfl
  · intro r r' s hs
    unfold subscribe
    split
    · rw [hreads, hkeeps]
    · rfl

theorem independent_handle_subscribe :
    Independent Inverse (handle plugin call) (subscribe plugin') :=
  independent_subscribe (fun _ _ _ => rfl) fun _ _ => rfl

theorem independent_save_subscribe :
    Independent Inverse (save plugin call) (subscribe plugin') := by
  refine independent_subscribe (fun r s subscribed => ?_) fun r s => ?_
  · unfold save
    split <;> rfl
  · unfold save
    split <;> rfl

theorem independent_subscribe_subscribe
    (hname : plugin.needSave = true ∨ plugin'.needSave = true →
      plugin.policyName ≠ plugin'.policyName) :
    Independent Inverse (subscribe plugin : UpdateStep Modules) (subscribe plugin') := by
  constructor
  · intro r r' s hs
    unfold subscribe
    split <;> split <;> rfl
  · intro r r' s hs
    unfold subscribe
    split <;> split <;> rfl
  · intro r r' s hs
    cases hsaves : saves plugin r with
    | false => simp only [subscribe_of_not hsaves]
    | true =>
      cases hsaves' : saves plugin' r' with
      | false => simp only [subscribe_of_not hsaves']
      | true =>
        have hne := hname (.inl (needSave_of_saves hsaves))
        simp only [subscribe_of_saves hsaves, subscribe_of_saves hsaves']
        rw [Function.update_comm hne]

/-- Saves of two policies. -/
theorem independent_save_save (hwrites : call.writes.admin ≠ .failed)
    (hwrites' : call'.writes.admin ≠ .failed)
    (hname : plugin.needSave = true ∨ plugin'.needSave = true →
      plugin.policyName ≠ plugin'.policyName) :
    Independent Inverse (save plugin call) (save plugin' call') := by
  constructor
  · intro r r' s hs
    unfold save
    split <;> split <;> rfl
  · intro r r' s hs
    unfold save
    split <;> split <;> rfl
  · intro r r' s hs
    cases hsaves : saves plugin r with
    | false => simp only [save_of_not hsaves]
    | true =>
      cases hsaves' : saves plugin' r' with
      | false => simp only [save_of_not hsaves']
      | true =>
        have hne := hname (.inl (needSave_of_saves hsaves))
        simp only [save_of_saves hsaves, save_of_saves hsaves']
        by_cases hu : call.userId = call'.userId
        · simp only [hu, Function.update_self, Function.update_idem]
          rw [UserPolicyManager.setPolicy_comm (hs _) hwrites' hwrites plugin'.policyName_ne
            plugin.policyName_ne hne.symm]
        · simp only [Function.update_of_ne hu, Function.update_of_ne (Ne.symm hu)]
          rw [Function.update_comm hu]

/-- A step that only reads, or one of the steps that write. -/
theorem mem_steps {f : UpdateStep Modules} (hf : f ∈ steps plugin call) :
    (∃ read, f = observe read ∧ ∀ managers managers' : Int → UserPolicyManager,
        (∀ u, UserPolicyManager.SamePolicy (managers u) (managers' u) plugin.policyName) →
        read managers = read managers') ∨
      f = handle plugin call ∨ f = save plugin call ∨ f = subscribe plugin := by
  simp only [steps, List.mem_cons, List.not_mem_nil, or_false] at hf
  rcases hf with rfl | rfl | rfl | hf
  · exact .inl ⟨_, rfl, readCombined_same⟩
  · exact .inl ⟨_, rfl, readAdmin_same⟩
  · exact .inl ⟨_, rfl, readOthers_same⟩
  · exact .inr hf

/-- The steps of two calls that are apart. -/
theorem PluginsApart.independent (h : PluginsApart plugin plugin' call call')
    (hwrites : call.writes.admin ≠ .failed) (hwrites' : call'.writes.admin ≠ .failed)
    {f g : UpdateStep Modules} (hf : f ∈ steps plugin call) (hg : g ∈ steps plugin' call') :
    Independent Inverse f g := by
  rcases mem_steps hf with ⟨read, rfl, hread⟩ | hwriting
  · exact independent_observe hwrites' (fun hsave => h.policyName_ne (.inr hsave)) hread hg
  rcases mem_steps hg with ⟨read, rfl, hread⟩ | hwriting'
  · exact (independent_observe hwrites (fun hsave => h.symm.policyName_ne (.inr hsave)) hread
      hf).symm
  rcases hwriting with rfl | rfl | rfl <;> rcases hwriting' with rfl | rfl | rfl
  · exact h.handlers
  · exact independent_handle_save hwrites' h.ignores
  · exact independent_handle_subscribe
  · exact (independent_handle_save hwrites h.ignored).symm
  · exact independent_save_save hwrites hwrites' h.policyName_ne
  · exact independent_save_subscribe
  · exact independent_handle_subscribe.symm
  · exact independent_save_subscribe.symm
  · exact independent_subscribe_subscribe h.policyName_ne

end Independence

/-! ### Runs -/

section Runs

variable {ι : Type} (plugins : PluginTable Modules Req Reply Event) (calls : ι → UpdateCall Req)

/-- The sections of the calls. -/
def updateSections (i : ι) :
    CriticalSection ConflictGroupId UpdateRegisters (SharedState Modules) :=
  updateSection plugins (calls i)

/-- Calls that do not wait for each other are of plugins that are apart. -/
def CallsApart : Prop :=
  ∀ i j, i ≠ j → ¬Excludes (updateSections plugins calls) i j → ∀ plugin plugin',
    plugins.getPluginByFuncCode (calls i).code = some plugin →
    plugins.getPluginByFuncCode (calls j).code = some plugin' →
    PluginsApart plugin plugin' (calls i) (calls j)

/-- The calls one after the other. -/
def updateAll (d : Device Modules) (order : List ι) : Device Modules :=
  order.foldl (fun d i => (plugins.updateDevicePolicy d (calls i).writes (calls i).code
    (calls i).bundleName (calls i).request (calls i).userId).2) d

variable {plugins calls}

theorem mem_code {call : UpdateCall Req} {f : UpdateStep Modules}
    (hf : f ∈ (updateSection plugins call).code) :
    ∃ plugin, plugins.getPluginByFuncCode call.code = some plugin ∧ f ∈ steps plugin call := by
  unfold updateSection at hf
  cases hplugin : plugins.getPluginByFuncCode call.code with
  | none =>
    rw [hplugin] at hf
    exact absurd hf List.not_mem_nil
  | some plugin =>
    rw [hplugin] at hf
    exact ⟨plugin, rfl, hf⟩

/-- The sections of calls that are apart, when no write fails after the second index took its
value. -/
theorem CallsApart.sections (h : CallsApart plugins calls)
    (hwrites : ∀ i, (calls i).writes.admin ≠ .failed) :
    Apart (updateSections plugins calls) Inverse where
  keeps i f hf r s hs := by
    obtain ⟨plugin, -, hsteps⟩ := mem_code hf
    exact step_inverse (hwrites i) hsteps r hs
  independent i j hne hexcludes f hf g hg := by
    obtain ⟨plugin, hplugin, hsteps⟩ := mem_code hf
    obtain ⟨plugin', hplugin', hsteps'⟩ := mem_code hg
    exact (h i j hne hexcludes plugin plugin' hplugin hplugin').independent (hwrites i) (hwrites j)
      hsteps hsteps'

theorem alone_eq (d : Device Modules) (i : ι) :
    let done := alone (updateSections plugins calls) i d.shared
    let result := plugins.updateDevicePolicy d (calls i).writes (calls i).code (calls i).bundleName
      (calls i).request (calls i).userId
    done.1.ret = result.1 ∧ done.2 = result.2.shared :=
  runSteps_eq plugins (calls i) d

theorem foldl_alone (d : Device Modules) (order : List ι) :
    order.foldl (fun s i => (alone (updateSections plugins calls) i s).2) d.shared =
      (updateAll plugins calls d order).shared := by
  induction order generalizing d with
  | nil => rfl
  | cons i order ih =>
    rw [List.foldl_cons, (alone_eq d i).2, ih]
    rfl

end Runs

end UpdateDevicePolicy

open UpdateDevicePolicy

/-- However the steps of concurrent updates interleave, they leave what the updates leave one after
the other, in the order in which they took their locks, and each returns what it returns there. -/
theorem updates_linearizable {Modules Req Reply Event : Type} {ι : Type} [DecidableEq ι]
    (plugins : PluginTable Modules Req Reply Event) (calls : ι → UpdateCall Req)
    (d : Device Modules) (hinverse : ∀ u, IndexesInverse (d.policies.manager u))
    (hwrites : ∀ i, (calls i).writes.admin ≠ .failed) (hapart : CallsApart plugins calls)
    {events : List (SectionEvent ι)} {c : Config UpdateRegisters (SharedState Modules) ι}
    (hrun : Run (updateSections plugins calls)
      (Config.start (updateSections plugins calls) d.shared) events c)
    (hleft : ∀ i, i ∈ entered events → c.phase i = .left) :
    c.memory.2 = (updateAll plugins calls d (entered events)).shared ∧
      ∀ before i after, entered events = before ++ i :: after →
        (c.memory.1 i).ret =
          (plugins.updateDevicePolicy (updateAll plugins calls d before) (calls i).writes
            (calls i).code (calls i).bundleName (calls i).request (calls i).userId).1 := by
  have hstart : Inverse d.shared := hinverse
  obtain ⟨hshared, hregisters⟩ := linearizable (hapart.sections hwrites) hstart hrun hleft
  refine ⟨hshared.trans (foldl_alone d _), fun before i after horder => ?_⟩
  rw [hregisters before i after horder, foldl_alone]
  exact (alone_eq _ i).1

end Edm
