import Edm.Ability.Holdings

/-! How the admins of the service come to hold policies over its runs: by setting them, or by taking
over those of the super admin that they replace.  The users whose policies admins hold are those that
a removal visits. -/

set_option autoImplicit false

namespace Edm

open Library Library.UnorderedMap EnterpriseDeviceMgrAbility

variable {Modules Req Reply Event : Type} {build : Build Modules Req Reply Event}

/-- Admins hold policies of the default user and of those that have a policy manager, and the second
index of each lists them. -/
structure Service.Sound (s : Service Modules) : Prop where
  listed : s.device.policies.Listed
  users : ∀ u a p, s.Holds u a p → u ∈ s.policyUserIds ∨ u = DEFAULT_USER_ID
  default : DEFAULT_USER_ID ∉ s.policyUserIds

theorem sound_boot (modules : Modules) : (Service.boot modules).Sound where
  listed u := UserPolicyManager.listed_new u
  users _ a p h := absurd (lookup₂_empty a p) h
  default := Finset.notMem_empty _

theorem Shrunk.sound {s s' : Service Modules} (h : Shrunk s s') (hs : s.Sound) : s'.Sound where
  listed := h.listed hs.listed
  users u a p hheld := (hs.users u a p (h.holds u a p hheld)).imp_left fun hu => h.users hu
  default := h.default hs.default

/-- Nothing is written to the policies. -/
theorem Shrunk.of_same {s s' : Service Modules} (hpolicies : s'.device.policies = s.device.policies)
    (husers : s'.policyUserIds = s.policyUserIds) : Shrunk s s' := by
  refine ⟨fun u a p h => ?_, fun h => hpolicies ▸ h, fun u h => husers ▸ h, fun h => husers ▸ h⟩
  unfold Service.Holds at h ⊢
  rw [hpolicies] at h
  exact h

theorem Shrunk.trans {s s₁ s' : Service Modules} (h : Shrunk s s₁) (h' : Shrunk s₁ s') :
    Shrunk s s' :=
  ⟨fun u a p hheld => h.holds u a p (h'.holds u a p hheld), fun hs => h'.listed (h.listed hs),
    fun _ hu => h'.users (h.users hu), fun hs => h'.default (h.default hs)⟩

/-! ### The requests that set no policy -/

section

variable {call : ServiceCall Reply} {s : Service Modules}

theorem setAdminValue_shrunk (u : Int) (item : AdminInfo) :
    Shrunk s (setAdminValue build call s u item).2 := .of_same rfl rfl

theorem enableAdmin_shrunk {admin : ElementName} {entInfo : EntInfo} {type : AdminType}
    {userId : Int} {permission : String} {enableSource : EnableSource} :
    Shrunk s (enableAdminWithPermission build call s admin entInfo type userId permission
      enableSource).2 := by
  unfold enableAdminWithPermission
  split
  · exact .refl s
  · dsimp only
    split <;> exact setAdminValue_shrunk _ _

theorem enableDeviceAdmin_shrunk {admin : ElementName} :
    Shrunk s (enableDeviceAdmin build call s admin).2 := by
  unfold enableDeviceAdmin
  split
  · exact .refl s
  · exact .refl s
  · dsimp only
    split <;> exact setAdminValue_shrunk _ _

theorem authorizeAdmin_shrunk {admin : ElementName} {bundleName : String} :
    Shrunk s (authorizeAdmin build call s admin bundleName).2 := by
  unfold authorizeAdmin
  split
  · exact .refl s
  · exact setAdminValue_shrunk _ _

theorem setAdminRunningMode_shrunk {admin : ElementName} {runningMode : UInt32} :
    Shrunk s (setAdminRunningMode build call s admin runningMode).2 := by
  unfold setAdminRunningMode
  split
  · exact .refl s
  · exact setAdminValue_shrunk _ _

theorem setDelegatedPolicies_shrunk {parentAdmin : ElementName} {bundleName : String}
    {policies : List String} :
    Shrunk s (setDelegatedPolicies build call s parentAdmin bundleName policies).2 := by
  unfold setDelegatedPolicies
  split
  · exact .refl s
  · split
    · exact .refl s
    · split
      · exact shrunk_removal.subOrSuper bundleName _ (.refl s)
      · split
        · exact .refl s
        · exact setAdminValue_shrunk _ _

theorem setDelegatedPoliciesOfUser_shrunk {bundleName : String} {policies : List String}
    {userId : Int} :
    Shrunk s (setDelegatedPoliciesOfUser build call s bundleName policies userId).2 := by
  unfold setDelegatedPoliciesOfUser
  split
  · exact .refl s
  · exact setAdminValue_shrunk _ _

theorem disableAdmin_shrunk (admin : ElementName) (userId : Int) :
    Shrunk s (disableAdmin build call s admin userId).2 := by
  unfold disableAdmin
  split
  · exact .refl s
  · dsimp only
    split
    · exact .refl s
    · exact shrunk_removal.disable _ _ (.refl s)

theorem disableSuperAdmin_shrunk (bundleName : String) :
    Shrunk s (disableSuperAdmin build call s bundleName).2 := by
  unfold disableSuperAdmin
  split
  · exact .refl s
  · dsimp only
    split
    · exact .refl s
    · exact shrunk_removal.disable _ _ (.refl s)

theorem disableDeviceAdmin_shrunk (admin : ElementName) :
    Shrunk s (disableDeviceAdmin build call s admin).2 := by
  unfold disableDeviceAdmin
  split
  · exact .refl s
  · dsimp only
    split
    · exact .refl s
    · exact shrunk_removal.disable _ _ (.refl s)

theorem subscribeManagedEvent_shrunk {answers : AdapterAnswers} {admin : ElementName}
    {events : List UInt32} :
    Shrunk s (subscribeManagedEvent build call answers s admin events).2 := by
  unfold subscribeManagedEvent
  dsimp only
  split
  · exact .refl s
  · exact .of_same rfl rfl

theorem unsubscribeManagedEvent_shrunk {admin : ElementName} {events : List UInt32} :
    Shrunk s (unsubscribeManagedEvent build call s admin events).2 := by
  unfold unsubscribeManagedEvent
  dsimp only
  split
  · exact .refl s
  · exact .of_same rfl rfl

theorem onInterceptHandled_shrunk {write : RdbOutcome} {answers : AdapterAnswers} {enabled : Bool}
    {adminName : String} {userId : Int} :
    Shrunk s (onInterceptHandled build answers s write enabled adminName userId) := by
  unfold onInterceptHandled
  dsimp only
  split <;> exact .of_same rfl rfl

end

/-! ### Setting a policy -/

section

variable {s : Service Modules}

theorem mem_getUserPolicyMgr (s : Service Modules) (userId : Int) :
    s.policyUserIds ⊆ (s.getUserPolicyMgr userId).policyUserIds ∧
      (userId ∈ (s.getUserPolicyMgr userId).policyUserIds ∨ userId = DEFAULT_USER_ID) ∧
      (DEFAULT_USER_ID ∉ s.policyUserIds →
        DEFAULT_USER_ID ∉ (s.getUserPolicyMgr userId).policyUserIds) := by
  unfold Service.getUserPolicyMgr
  split <;> rename_i hu
  · exact ⟨fun _ h => h, .inr hu, fun h => h⟩
  · refine ⟨Finset.subset_insert _ _, .inl (Finset.mem_insert_self _ _), fun h hmem => ?_⟩
    rcases Finset.mem_insert.mp hmem with heq | hold
    · exact hu heq.symm
    · exact h hold

/-- The values of a user after a write to its store. -/
theorem holds_setUser {s : Stores} {v u : Int} {store : UserStore} {a p : String}
    (h : ((s.setUser v store).manager u).Holds a p) :
    (u = v ∧ store.manager.Holds a p) ∨ u ≠ v ∧ (s.manager u).Holds a p := by
  by_cases hu : u = v
  · subst hu
    rw [Stores.setUser_manager_self] at h
    exact .inl ⟨rfl, h⟩
  · rw [Stores.setUser_manager_of_ne s hu] at h
    exact .inr ⟨hu, h⟩

theorem listed_setUser {s : Stores} {v : Int} {store : UserStore} (h : s.Listed)
    (hstore : store.manager.Listed) : (s.setUser v store).Listed := by
  intro u
  by_cases hu : u = v
  · subst hu
    rw [Stores.setUser_manager_self]
    exact hstore
  · rw [Stores.setUser_manager_of_ne s hu]
    exact h u

/-- A request that passes its checks sets the policy of its plugin, or leaves the policies. -/
theorem setDevicePolicy_cases (call : ServiceCall Reply) (s : Service Modules) (writes : Writes)
    (code : UInt32) (bundleName permissionTag : String) (userId : Int) (request : Req) :
    (setDevicePolicy build call s writes code bundleName permissionTag userId request).2 = s ∨
      Admitted build.pcOnly call.managers.toExternalManagers build.registry s.container call.caller
          permissionTag code bundleName userId ∧
        (setDevicePolicy build call s writes code bundleName permissionTag userId
          request).2.policyUserIds = (s.getUserPolicyMgr userId).policyUserIds ∧
        ((setDevicePolicy build call s writes code bundleName permissionTag userId
            request).2.device.policies = s.device.policies ∨
          ∃ v merged, (setDevicePolicy build call s writes code bundleName permissionTag userId
            request).2.device.policies =
            s.device.policies.setUser userId ((s.device.policies.user userId).setPolicy writes
              bundleName (PluginManager.getPolicyName build.registry code) v merged).2) := by
  unfold setDevicePolicy
  split
  · exact .inl rfl
  · rename_i invocation hcheck
    refine .inr ⟨(handleDevicePolicy_ok.mp hcheck).2, rfl, ?_⟩
    dsimp only
    rw [getUserPolicyMgr_device]
    unfold PluginTable.updateDevicePolicy
    cases hplugin : build.plugins.getPluginByFuncCode code with
    | none => exact .inl rfl
    | some plugin =>
      have hname : PluginManager.getPolicyName build.registry code = plugin.policyName := by
        unfold PluginTable.getPluginByFuncCode at hplugin
        split at hplugin
        · rename_i hflag
          have hregistry := build.registry_policyName _ _ hplugin
          obtain ⟨policyPlugin, hfound, hpolicy⟩ := Option.map_eq_some_iff.mp hregistry
          unfold PluginManager.getPolicyName PluginManager.getPluginByFuncCode
          rw [if_pos hflag, hfound]
          exact hpolicy
        · contradiction
      rw [hname]
      dsimp only
      rcases PluginManager.updateDevicePolicy_store
        (plugin.forUser s.device.policies.manager userId)
        (s.device.pluginState plugin.policyName userId) writes bundleName request with
        hsame | ⟨v, merged, hset⟩
      · refine .inl ?_
        show s.device.policies.setUser userId _ = _
        rw [hsame]
        exact s.device.policies.setUser_user userId
      · refine .inr ⟨v, merged, ?_⟩
        show s.device.policies.setUser userId _ = _
        rw [hset]
        rfl

theorem setDevicePolicy_held {call : ServiceCall Reply} {writes : Writes} {code : UInt32}
    {bundleName permissionTag : String} {userId : Int} {request : Req} {u : Int} {a p : String}
    (h : (setDevicePolicy build call s writes code bundleName permissionTag userId
      request).2.Holds u a p) :
    s.Holds u a p ∨ u = userId ∧ a = bundleName ∧
      p = PluginManager.getPolicyName build.registry code ∧
      Admitted build.pcOnly call.managers.toExternalManagers build.registry s.container call.caller
        permissionTag code bundleName userId := by
  unfold Service.Holds at h
  rcases @setDevicePolicy_cases _ _ _ _ build call s writes code bundleName permissionTag userId
    request with hsame | ⟨hadmitted, -, hpolicies⟩
  · rw [hsame] at h
    exact .inl h
  · rcases hpolicies with hpolicies | ⟨v, merged, hpolicies⟩
    · rw [hpolicies] at h
      exact .inl h
    · rw [hpolicies] at h
      rcases holds_setUser h with ⟨rfl, hstore⟩ | ⟨-, hold⟩
      · exact (UserStore.holds_of_setPolicy hstore).imp_right fun hx =>
          ⟨rfl, hx.1, hx.2.2.1, hadmitted⟩
      · exact .inl hold

theorem setDevicePolicy_sound (call : ServiceCall Reply) (hs : s.Sound) (writes : Writes)
    (code : UInt32) (bundleName permissionTag : String) (userId : Int) (request : Req) :
    (setDevicePolicy build call s writes code bundleName permissionTag userId request).2.Sound := by
  have husers := mem_getUserPolicyMgr s userId
  rcases @setDevicePolicy_cases _ _ _ _ build call s writes code bundleName permissionTag
    userId request with hsame | ⟨-, hids, hpolicies⟩
  · rw [hsame]
    exact hs
  · rcases hpolicies with hpolicies | ⟨v, merged, hpolicies⟩
    · exact {
        listed := by rw [hpolicies]; exact hs.listed
        users := fun u a p h => by
          unfold Service.Holds at h
          rw [hpolicies] at h
          rw [hids]
          exact (hs.users u a p h).imp_left fun hu => husers.1 hu
        default := by rw [hids]; exact husers.2.2 hs.default }
    · exact {
        listed := by
          rw [hpolicies]
          exact listed_setUser hs.listed (UserStore.listed_setPolicy (hs.listed userId))
        users := fun u a p h => by
          unfold Service.Holds at h
          rw [hpolicies] at h
          rw [hids]
          rcases holds_setUser h with ⟨rfl, -⟩ | ⟨-, hold⟩
          · exact husers.2.1
          · exact (hs.users u a p hold).imp_left fun hu => husers.1 hu
        default := by rw [hids]; exact husers.2.2 hs.default }

end

/-! ### Replacing the super admin -/

section

variable {s : Service Modules}

/-- What a replacement that keeps the policies may make of them: the new admin may hold more. -/
structure KeptPolicies (newAdminName : String) (s s' : Service Modules) : Prop where
  holds : ∀ u a p, s'.Holds u a p → s.Holds u a p ∨ u = DEFAULT_USER_ID ∧ a = newAdminName
  listed : s.device.policies.Listed → s'.device.policies.Listed
  users : s'.policyUserIds = s.policyUserIds

theorem KeptPolicies.of_same {newAdminName : String} {s' : Service Modules}
    (hpolicies : s'.device.policies = s.device.policies)
    (husers : s'.policyUserIds = s.policyUserIds) : KeptPolicies newAdminName s s' := by
  refine ⟨fun u a p h => .inl ?_, fun h => hpolicies ▸ h, husers⟩
  unfold Service.Holds at h ⊢
  rw [hpolicies] at h
  exact h

theorem KeptPolicies.trans {newAdminName : String} {s₁ s' : Service Modules}
    (h : KeptPolicies newAdminName s s₁) (h' : KeptPolicies newAdminName s₁ s') :
    KeptPolicies newAdminName s s' :=
  ⟨fun u a p hheld => (h'.holds u a p hheld).elim (h.holds u a p) .inr,
    fun hs => h'.listed (h.listed hs), h'.users.trans h.users⟩

theorem KeptPolicies.sound {newAdminName : String} {s' : Service Modules}
    (h : KeptPolicies newAdminName s s') (hs : s.Sound) : s'.Sound where
  listed := h.listed hs.listed
  users u a p hheld := by
    rw [h.users]
    rcases h.holds u a p hheld with hold | ⟨hu, -⟩
    · exact hs.users u a p hold
    · exact .inr hu
  default := by rw [h.users]; exact hs.default

/-- A write to the default user's policies that only the new admin can gain from. -/
theorem keptPolicies_setUserStore {newAdminName : String} {store : UserStore}
    (hholds : ∀ a p, store.manager.Holds a p →
      (s.device.policies.manager DEFAULT_USER_ID).Holds a p ∨ a = newAdminName)
    (hlisted : s.device.policies.Listed → store.manager.Listed) :
    KeptPolicies newAdminName s (s.setUserStore DEFAULT_USER_ID store) where
  holds u a p h := by
    rcases holds_setUser h with ⟨rfl, hstore⟩ | ⟨-, hold⟩
    · exact (hholds a p hstore).imp_right fun ha => ⟨rfl, ha⟩
    · exact .inl hold
  listed h := listed_setUser h (hlisted h)
  users := rfl

theorem handleKeepPolicy_kept (keep : KeepOutcomes) (adminName newAdminName : String)
    (edmAdminInfo oldAdminInfo : AdminInfo) :
    KeptPolicies newAdminName s
      (handleKeepPolicy build s keep adminName newAdminName edmAdminInfo oldAdminInfo).2 := by
  have hadmins : ∀ {s' : Service Modules} (admins : AdminState), KeptPolicies newAdminName s s' →
      KeptPolicies newAdminName s (s'.setAdmins admins) :=
    fun admins h => h.trans (.of_same rfl rfl)
  have hreplaced : ∀ {s' : Service Modules}, KeptPolicies newAdminName s s' →
      KeptPolicies newAdminName s (s'.setUserStore DEFAULT_USER_ID
        ((s'.device.policies.user DEFAULT_USER_ID).replacePolicyByAdminName keep.replacePolicies
          DEFAULT_USER_ID adminName newAdminName).2) :=
    fun h => h.trans (keptPolicies_setUserStore (fun _ _ => UserStore.holds_of_replace)
      fun hs => UserStore.listed_replace (hs DEFAULT_USER_ID) _ _)
  have hset : ∀ {s' : Service Modules} (p v merged : String), KeptPolicies newAdminName s s' →
      KeptPolicies newAdminName s (s'.setUserStore DEFAULT_USER_ID
        ((s'.device.policies.user DEFAULT_USER_ID).setPolicy keep.uninstallPolicy newAdminName p v
          merged).2) :=
    fun p v merged h => h.trans (keptPolicies_setUserStore
      (fun a q hheld => (UserStore.holds_of_setPolicy hheld).imp_right And.left)
      fun hs => UserStore.listed_setPolicy (hs DEFAULT_USER_ID))
  have hfirst := hadmins (AdminManager.replaceSuperAdminByPackageName build.cjson s.device.admins
    keep.replaceAdmin keep.parents adminName edmAdminInfo).2 (.of_same rfl rfl)
  unfold handleKeepPolicy
  dsimp only
  split
  · exact hfirst
  · split
    · exact hadmins _ (hreplaced hfirst)
    · split
      · exact hreplaced hfirst
      · split
        · exact hreplaced hfirst
        · split
          · exact hreplaced hfirst
          · split
            · exact hreplaced hfirst
            · exact hset _ _ _ (hreplaced hfirst)

/-- A replacement that does not keep the policies only removes some. -/
theorem replaceSuperAdmin_shrunk {call : ServiceCall Reply} {keep : KeepOutcomes}
    {oldAdmin newAdmin : ElementName} :
    Shrunk s (replaceSuperAdmin build call s keep oldAdmin newAdmin false).2 := by
  unfold replaceSuperAdmin
  split
  · exact .refl s
  · split
    · exact .refl s
    · split
      · exact .refl s
      · rename_i adminPtr hfound
        have hremoved : Shrunk s (doDisableAdmin build call s adminPtr DEFAULT_USER_ID).2 :=
          shrunk_removal.disable _ _ (.refl s)
        dsimp only
        rw [if_neg Bool.false_ne_true]
        generalize doDisableAdmin build call s adminPtr DEFAULT_USER_ID = r at hremoved ⊢
        obtain ⟨res, s₁⟩ := r
        dsimp only at hremoved ⊢
        split
        · exact hremoved
        · split <;> exact hremoved.trans (setAdminValue_shrunk _ _)

theorem replaceSuperAdmin_kept {call : ServiceCall Reply} {keep : KeepOutcomes}
    {oldAdmin newAdmin : ElementName} :
    KeptPolicies newAdmin.bundleName s
      (replaceSuperAdmin build call s keep oldAdmin newAdmin true).2 := by
  unfold replaceSuperAdmin
  split
  · exact .of_same rfl rfl
  · split
    · exact .of_same rfl rfl
    · split
      · exact .of_same rfl rfl
      · dsimp only
        rw [if_pos rfl]
        exact handleKeepPolicy_kept keep _ _ _ _

end

/-! ### Any request -/

/-- A request by which the admin comes to hold the policy of the user. -/
def ServiceOp.Gains (build : Build Modules Req Reply Event) (s : Service Modules) (u : Int)
    (a p : String) : ServiceOp Req Reply → Prop
  | .handleDevicePolicy call _ code bundleName permissionTag userId _ =>
    u = userId ∧ a = bundleName ∧ p = PluginManager.getPolicyName build.registry code ∧
      Admitted build.pcOnly call.managers.toExternalManagers build.registry s.container call.caller
        permissionTag code bundleName userId
  | .replaceSuperAdmin _ _ _ newAdmin true => u = DEFAULT_USER_ID ∧ a = newAdmin.bundleName
  | _ => False

theorem Shrunk.held {s : Service Modules} {op : ServiceOp Req Reply} {u : Int} {a p : String}
    (h : Shrunk s (serviceStep build s op)) (hheld : (serviceStep build s op).Holds u a p) :
    s.Holds u a p ∨ op.Gains build s u a p := .inl (h.holds u a p hheld)

/-- What an admin holds after a request, it held before or gained by the request. -/
theorem holds_step {s : Service Modules} (op : ServiceOp Req Reply) {u : Int} {a p : String}
    (h : (serviceStep build s op).Holds u a p) : s.Holds u a p ∨ op.Gains build s u a p := by
  cases op with
  | enableAdmin => exact enableAdmin_shrunk.held h
  | enableDeviceAdmin => exact enableDeviceAdmin_shrunk.held h
  | authorizeAdmin => exact authorizeAdmin_shrunk.held h
  | setAdminRunningMode => exact setAdminRunningMode_shrunk.held h
  | setDelegatedPolicies => exact setDelegatedPolicies_shrunk.held h
  | setDelegatedPoliciesOfUser => exact setDelegatedPoliciesOfUser_shrunk.held h
  | disableAdmin call admin userId => exact (disableAdmin_shrunk admin userId).held h
  | disableSuperAdmin call bundleName => exact (disableSuperAdmin_shrunk bundleName).held h
  | disableDeviceAdmin call admin => exact (disableDeviceAdmin_shrunk admin).held h
  | replaceSuperAdmin call keep oldAdmin newAdmin keepPolicy =>
    cases keepPolicy with
    | false => exact replaceSuperAdmin_shrunk.held h
    | true => exact replaceSuperAdmin_kept.holds u a p h
  | handleDevicePolicy call writes code bundleName permissionTag userId request =>
    exact setDevicePolicy_held h
  | subscribeManagedEvent => exact subscribeManagedEvent_shrunk.held h
  | unsubscribeManagedEvent => exact unsubscribeManagedEvent_shrunk.held h
  | restoreSubscriptions => exact .inl h
  | interceptHandled => exact onInterceptHandled_shrunk.held h

/-- Every request keeps the service sound. -/
theorem sound_step (s : Service Modules) (op : ServiceOp Req Reply) (h : s.Sound) :
    (serviceStep build s op).Sound := by
  cases op with
  | enableAdmin => exact enableAdmin_shrunk.sound h
  | enableDeviceAdmin => exact enableDeviceAdmin_shrunk.sound h
  | authorizeAdmin => exact authorizeAdmin_shrunk.sound h
  | setAdminRunningMode => exact setAdminRunningMode_shrunk.sound h
  | setDelegatedPolicies => exact setDelegatedPolicies_shrunk.sound h
  | setDelegatedPoliciesOfUser => exact setDelegatedPoliciesOfUser_shrunk.sound h
  | disableAdmin call admin userId => exact (disableAdmin_shrunk admin userId).sound h
  | disableSuperAdmin call bundleName => exact (disableSuperAdmin_shrunk bundleName).sound h
  | disableDeviceAdmin call admin => exact (disableDeviceAdmin_shrunk admin).sound h
  | replaceSuperAdmin call keep oldAdmin newAdmin keepPolicy =>
    cases keepPolicy with
    | false => exact replaceSuperAdmin_shrunk.sound h
    | true => exact replaceSuperAdmin_kept.sound h
  | handleDevicePolicy call writes code bundleName permissionTag userId request =>
    exact setDevicePolicy_sound call h writes code bundleName permissionTag userId request
  | subscribeManagedEvent => exact subscribeManagedEvent_shrunk.sound h
  | unsubscribeManagedEvent => exact unsubscribeManagedEvent_shrunk.sound h
  | restoreSubscriptions => exact ⟨h.listed, h.users, h.default⟩
  | interceptHandled => exact onInterceptHandled_shrunk.sound h

end Edm
