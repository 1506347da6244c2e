import Edm.Ability.Holdings
import Edm.Ability.Restrictions
import Edm.SystemManager.TimerRun

/-! What the removal of a user takes away: its admins, their policies and events, and with them the
timers of every admin of that name, since timers are kept by bundle and not by user. -/

set_option autoImplicit false

namespace Edm

open Library Library.UnorderedMap EnterpriseDeviceMgrAbility

/-- The service with the timers of the admins. -/
structure TimedService (Modules Callback : Type) where
  service : Service Modules
  timers : SystemTimerManager Callback

namespace UserRemoval

variable {Modules Req Reply Event Callback : Type} [DecidableEq Callback]
  (build : Build Modules Req Reply Event) (time : TimeService) (outcomes : RemovalOutcomes Reply)

/-- `RemoveAdminAndAdminPolicy`.  There are no timers on a PC. -/
def removeAdminAndAdminPolicy (s : TimedService Modules Callback) (adminName : String)
    (userId : Int) : ErrCode × TimedService Modules Callback :=
  let timers := if build.pcOnly then s.timers else (s.timers.onAdminRemove time adminName).timers
  let (ret, service) := removeAdminOfUser build outcomes s.service adminName userId
  (ret, ⟨service, timers⟩)

/-- A loop over admins, with the codes that are logged. -/
def removeAll (userId : Int) (s : TimedService Modules Callback) :
    List String → List ErrCode × TimedService Modules Callback
  | [] => ([], s)
  | adminName :: adminNames =>
    let (ret, s) := removeAdminAndAdminPolicy build time outcomes s adminName userId
    let (rets, s) := removeAll userId s adminNames
    (ret :: rets, s)

/-- The packages of the admins of a user. -/
def adminNames (s : TimedService Modules Callback) (userId : Int) : List String :=
  (AdminManager.getAdminByUserId s.service.container userId).map fun item =>
    item.adminInfo.packageName

/-- The packages of the admins of the default user that act across accounts. -/
def acrossAccountNames (s : TimedService Modules Callback) : List String :=
  ((AdminManager.getAdminByUserId s.service.container DEFAULT_USER_ID).filter
    Admin.isAllowedAcrossAccountSetPolicy).map fun subAdmin => subAdmin.adminInfo.packageName

/-- The state after the admins of the user are removed. -/
def afterOwn (s : TimedService Modules Callback) (userIdToRemove : Int) :
    List ErrCode × TimedService Modules Callback :=
  removeAll build time outcomes userIdToRemove s (adminNames s userIdToRemove)

def onCommonEventUserRemoved (s : TimedService Modules Callback) (userIdToRemove : Int) :
    List ErrCode × TimedService Modules Callback :=
  if userIdToRemove < 0 then ([], s)
  else
    let (rets, s) := afterOwn build time outcomes s userIdToRemove
    let (rets', s) := removeAll build time outcomes userIdToRemove s (acrossAccountNames s)
    (rets ++ rets', s)

/-- Every name that a removal is called for. -/
def removedNames (s : TimedService Modules Callback) (userIdToRemove : Int) : List String :=
  adminNames s userIdToRemove ++
    acrossAccountNames (afterOwn build time outcomes s userIdToRemove).2

end UserRemoval

open UserRemoval

/-! ### One removal -/

section Removal

variable {Modules Req Reply Event : Type} {build : Build Modules Req Reply Event}
  {outcomes : RemovalOutcomes Reply} {s : Service Modules} {userId : Int}

theorem removeAdminItem_manager_of_ne (plugins : PluginTable Modules Req Reply Event)
    (d : Device Modules) (writes : Writes) (reply : Reply)
    (adminName policyName policyValue : String) {v : Int} (hv : v ≠ userId) :
    (plugins.removeAdminItem d writes reply adminName policyName policyValue
      userId).2.policies.manager v = d.policies.manager v := by
  unfold PluginTable.removeAdminItem
  cases plugins.pluginsName policyName with
  | none => rfl
  | some plugin => exact Stores.setUser_manager_of_ne _ hv _

theorem removeAdminItems_manager_of_ne (plugins : PluginTable Modules Req Reply Event)
    (removal : Removal Reply) (items : List (String × String)) (d : Device Modules) {v : Int}
    (hv : v ≠ removal.userId) :
    (removeAdminItems plugins removal d items).2.policies.manager v = d.policies.manager v := by
  induction items generalizing d with
  | nil => rfl
  | cons item items ih =>
    obtain ⟨policyName, policyValue⟩ := item
    have hitem := removeAdminItem_manager_of_ne plugins d (removal.writes policyName)
      (removal.reply policyName) removal.adminName policyName policyValue hv
    rw [removeAdminItems]
    dsimp only
    split
    · exact hitem
    · rw [ih, hitem]

/-- The managers of the other users. -/
theorem removeAdminOfUser_manager_of_ne (adminName : String) {v : Int} (hv : v ≠ userId) :
    (removeAdminOfUser build outcomes s adminName userId).2.device.policies.manager v =
      s.device.policies.manager v := by
  refine removeAdminOfUser_outcome
    (P := fun r => r.2.policies.manager v = s.device.policies.manager v)
    (fun _ => ?_) fun hname => ?_
  · rcases removeUnnamedAdmin_admins outcomes s.device userId with ⟨-, hd⟩ | ⟨-, hd⟩ <;> rw [hd]
  · rw [removeAdminAndAdminPolicy_policies]
    unfold removeAdminPolicy
    split
    · rfl
    · exact removeAdminItems_manager_of_ne build.plugins
        (outcomes.removal ⟨adminName, hname⟩ userId) _ s.device hv

end Removal

/-! ### The relayed events -/

namespace MdmEventRelayer

theorem makeAdminKey_inj {a a' : String} {u u' : Int} :
    makeAdminKey a u = makeAdminKey a' u' ↔ a = a' ∧ u = u' := by
  have hnone : ∀ n : Int, '_' ∉ (Int.repr n).toList := notMem_intRepr (by decide) (by decide)
  unfold makeAdminKey
  rw [append_separator_inj rfl (hnone u) (hnone u'), Int.repr_inj]

theorem lookup_unsubscribe (m : EventSubscriptionManager EventCallback) {handleId other : UInt32}
    (hne : other ≠ handleId) :
    (m.unsubscribe handleId).2.subscriptions.lookup other = m.subscriptions.lookup other := by
  unfold EventSubscriptionManager.unsubscribe
  split
  · rfl
  · have herase : (m.subscriptions.erase handleId).lookup other = m.subscriptions.lookup other := by
      rw [lookup_erase_eq, if_neg hne]
    dsimp only
    split <;> exact herase

theorem lookup_release {handles : List UInt32} (m : EventSubscriptionManager EventCallback)
    {other : UInt32} (hother : other ∉ handles) :
    (handles.foldl release m).subscriptions.lookup other = m.subscriptions.lookup other := by
  induction handles generalizing m with
  | nil => rfl
  | cons handleId handles ih =>
    have hne : other ≠ handleId := fun heq => hother (heq ▸ List.mem_cons_self)
    rw [List.foldl_cons, ih _ fun hin => hother (List.mem_cons_of_mem handleId hin)]
    unfold release
    split
    · rfl
    · exact lookup_unsubscribe m hne

variable (r : MdmEventRelayer) (order : KeyOrder ManagedEvent) (adminName : String) (userId : Int)

theorem onAdminRemoved_handles (key : String) :
    (r.onAdminRemoved order adminName userId).adminSubscriptionHandles.lookup key =
      if key = makeAdminKey adminName userId then none
      else r.adminSubscriptionHandles.lookup key := by
  unfold onAdminRemoved
  dsimp only
  cases hhandles : r.adminSubscriptionHandles.lookup (makeAdminKey adminName userId) with
  | none =>
    by_cases hkey : key = makeAdminKey adminName userId
    · rw [if_pos hkey, hkey, hhandles]
    · rw [if_neg hkey]
  | some handles => exact lookup_erase_eq ..

/-- The subscriptions that no handle of the admin stands for. -/
theorem onAdminRemoved_subscriptions {handleId : UInt32}
    (h : ∀ event, lookup₂ r.adminSubscriptionHandles (makeAdminKey adminName userId) event ≠
      some handleId) :
    (r.onAdminRemoved order adminName userId).manager.subscriptions.lookup handleId =
      r.manager.subscriptions.lookup handleId := by
  unfold onAdminRemoved
  dsimp only
  cases hhandles : r.adminSubscriptionHandles.lookup (makeAdminKey adminName userId) with
  | none => rfl
  | some handles =>
    refine lookup_release r.manager fun hin => ?_
    obtain ⟨event, -, hevent⟩ := List.mem_filterMap.mp hin
    exact h event (by rw [lookup₂_some hhandles, hevent])

end MdmEventRelayer

/-! ### What the other users keep -/

/-- Nothing of the users other than `u` has changed, and no subscription is gone that no admin of `u`
had. -/
structure OnlyUser {Modules : Type} (u : Int) (s s' : Service Modules) : Prop where
  admins : ∀ v, v ≠ u → s'.container.adminsOf v = s.container.adminsOf v
  policies : ∀ v, v ≠ u → s'.device.policies.manager v = s.device.policies.manager v
  handles : ∀ adminName v, v ≠ u →
    s'.relayer.adminSubscriptionHandles.lookup (MdmEventRelayer.makeAdminKey adminName v) =
      s.relayer.adminSubscriptionHandles.lookup (MdmEventRelayer.makeAdminKey adminName v)
  shrunk : ∀ key event handleId,
    lookup₂ s'.relayer.adminSubscriptionHandles key event = some handleId →
      lookup₂ s.relayer.adminSubscriptionHandles key event = some handleId
  subscriptions : ∀ handleId,
    (∀ adminName event, lookup₂ s.relayer.adminSubscriptionHandles
      (MdmEventRelayer.makeAdminKey adminName u) event ≠ some handleId) →
    s'.relayer.manager.subscriptions.lookup handleId =
      s.relayer.manager.subscriptions.lookup handleId

section Kept

variable {Modules Req Reply Event Callback : Type} [DecidableEq Callback]
  {build : Build Modules Req Reply Event} {time : TimeService} {outcomes : RemovalOutcomes Reply}
  {u : Int}

theorem OnlyUser.refl (s : Service Modules) : OnlyUser u s s :=
  ⟨fun _ _ => rfl, fun _ _ => rfl, fun _ _ _ => rfl, fun _ _ _ h => h, fun _ _ => rfl⟩

theorem OnlyUser.trans {s s₁ s' : Service Modules} (h : OnlyUser u s s₁) (h' : OnlyUser u s₁ s') :
    OnlyUser u s s' where
  admins v hv := (h'.admins v hv).trans (h.admins v hv)
  policies v hv := (h'.policies v hv).trans (h.policies v hv)
  handles adminName v hv := (h'.handles adminName v hv).trans (h.handles adminName v hv)
  shrunk key event handleId hhandle :=
    h.shrunk key event handleId (h'.shrunk key event handleId hhandle)
  subscriptions handleId hfree :=
    (h'.subscriptions handleId fun adminName event hhandle =>
      hfree adminName event (h.shrunk _ event handleId hhandle)).trans
      (h.subscriptions handleId hfree)

/-- One removal. -/
theorem onlyUser_removeAdminOfUser (s : Service Modules) (adminName : String) :
    OnlyUser u s (removeAdminOfUser build outcomes s adminName u).2 := by
  have hpolicies : ∀ v, v ≠ u →
      (removeAdminOfUser build outcomes s adminName u).2.device.policies.manager v =
        s.device.policies.manager v := fun v hv => removeAdminOfUser_manager_of_ne adminName hv
  have hcases := @removeAdminOfUser_cases _ _ _ _ build outcomes s adminName u
  rcases hcases with ⟨-, hadmins, hrelayer⟩ | ⟨-, hadmins, hrelayer⟩
  · refine ⟨fun v _ => ?_, hpolicies, fun _ _ _ => ?_, fun _ _ _ h => ?_, fun _ _ => ?_⟩
    · rw [Service.container, hadmins]
    · rw [hrelayer]
    · rwa [hrelayer] at h
    · rw [hrelayer]
  · refine ⟨fun v hv => ?_, hpolicies, fun name v hv => ?_, fun key event handleId h => ?_,
      fun handleId hfree => ?_⟩
    · rw [Service.container, hadmins, adminsOf_deleteAdmin_done, if_neg hv]
    · rw [hrelayer, MdmEventRelayer.onAdminRemoved_handles, if_neg]
      exact fun hkey => hv (MdmEventRelayer.makeAdminKey_inj.mp hkey).2
    · rw [hrelayer, lookup₂, MdmEventRelayer.onAdminRemoved_handles] at h
      split at h
      · contradiction
      · exact h
    · rw [hrelayer]
      exact s.relayer.onAdminRemoved_subscriptions build.eventOrder adminName u (hfree adminName)

/-! ### The loops -/

theorem lookup_onAdminRemove (m : SystemTimerManager Callback) (adminName : String) (id : Nat)
    (entry : TimerEntry Callback) :
    (m.onAdminRemove time adminName).timers.timerMap.lookup id = some entry ↔
      m.timerMap.lookup id = some entry ∧ entry.adminBundleName ≠ adminName := by
  have hmap : (m.onAdminRemove time adminName).timers.timerMap =
      filterValues (fun entry => entry.adminBundleName != adminName) m.timerMap :=
    SystemTimerManager.releaseAll_timerMap _ _
  rw [hmap, lookup_filterValues, Option.filter_eq_some_iff, bne_iff_ne]

/-- The timers after a removal are those of the other bundles. -/
theorem lookup_removeAdmin (s : TimedService Modules Callback) (adminName : String) (id : Nat)
    (entry : TimerEntry Callback) :
    (UserRemoval.removeAdminAndAdminPolicy build time outcomes s adminName
      u).2.timers.timerMap.lookup id = some entry ↔
      s.timers.timerMap.lookup id = some entry ∧
        (build.pcOnly = true ∨ entry.adminBundleName ≠ adminName) := by
  show (if build.pcOnly then s.timers
    else (s.timers.onAdminRemove time adminName).timers).timerMap.lookup id = some entry ↔ _
  cases hpc : build.pcOnly with
  | true => simp
  | false => simpa using lookup_onAdminRemove s.timers adminName id entry

theorem removeAll_cons (s : TimedService Modules Callback) (name : String) (names : List String) :
    removeAll build time outcomes u s (name :: names) =
      let first := UserRemoval.removeAdminAndAdminPolicy build time outcomes s name u
      let rest := removeAll build time outcomes u first.2 names
      (first.1 :: rest.1, rest.2) :=
  rfl

section Related

variable {R : Service Modules → Service Modules → Prop} (hrefl : ∀ s, R s s)
  (htrans : ∀ s s₁ s', R s s₁ → R s₁ s' → R s s')
  (hstep : ∀ s adminName, R s (removeAdminOfUser build outcomes s adminName u).2)

include hrefl htrans hstep

/-- A loop relates its ends when each removal does. -/
theorem removeAll_related (names : List String) (s : TimedService Modules Callback) :
    R s.service (removeAll build time outcomes u s names).2.service := by
  induction names generalizing s with
  | nil => exact hrefl s.service
  | cons name names ih =>
    have hfirst : R s.service
        (UserRemoval.removeAdminAndAdminPolicy build time outcomes s name u).2.service :=
      hstep s.service name
    exact htrans _ _ _ hfirst (ih _)

theorem onCommonEventUserRemoved_related (s : TimedService Modules Callback) :
    R s.service (onCommonEventUserRemoved build time outcomes s u).2.service := by
  have hloop : ∀ (names : List String) (s : TimedService Modules Callback),
      R s.service (removeAll build time outcomes u s names).2.service :=
    removeAll_related hrefl htrans hstep
  unfold onCommonEventUserRemoved
  split
  · exact hrefl s.service
  · exact htrans _ _ _ (hloop (adminNames s u) s) (hloop _ _)

end Related

theorem onlyUser_removeAll (names : List String) (s : TimedService Modules Callback) :
    OnlyUser u s.service (removeAll build time outcomes u s names).2.service :=
  removeAll_related .refl (fun _ _ _ h h' => h.trans h') onlyUser_removeAdminOfUser names s

theorem lookup_removeAll (names : List String) (s : TimedService Modules Callback) (id : Nat)
    (entry : TimerEntry Callback) :
    (removeAll build time outcomes u s names).2.timers.timerMap.lookup id = some entry ↔
      s.timers.timerMap.lookup id = some entry ∧
        (build.pcOnly = true ∨ entry.adminBundleName ∉ names) := by
  induction names generalizing s with
  | nil => simp [removeAll]
  | cons name names ih =>
    rw [removeAll_cons]
    dsimp only
    rw [ih, lookup_removeAdmin, List.mem_cons]
    tauto

/-- The timers that are left belong to none of the removed names. -/
theorem lookup_onCommonEventUserRemoved (s : TimedService Modules Callback) (id : Nat)
    (entry : TimerEntry Callback) :
    (onCommonEventUserRemoved build time outcomes s u).2.timers.timerMap.lookup id = some entry ↔
      s.timers.timerMap.lookup id = some entry ∧
        (u < 0 ∨ build.pcOnly = true ∨
          entry.adminBundleName ∉ removedNames build time outcomes s u) := by
  unfold onCommonEventUserRemoved
  by_cases hu : u < 0
  · simp [hu]
  · rw [if_neg hu]
    refine (lookup_removeAll _ _ id entry).trans ?_
    unfold removedNames afterOwn
    rw [lookup_removeAll, List.mem_append]
    tauto

end Kept

/-! ### What the removal of a user leaves -/

/-- The other users keep their admins, and these keep their policies, events and timers. -/
structure KeepsOthers {Modules Callback : Type} (u : Int) (s s' : TimedService Modules Callback) :
    Prop where
  onlyUser : OnlyUser u s.service s'.service
  timers : ∀ v, v ≠ u → ∀ admin, admin ∈ s.service.container.adminsOf v → ∀ id entry,
    s.timers.timerMap.lookup id = some entry → entry.adminBundleName = admin.packageName →
    s'.timers.timerMap.lookup id = some entry

section Gone

variable {Modules Req Reply Event Callback : Type} [DecidableEq Callback]
  {build : Build Modules Req Reply Event} {time : TimeService} {outcomes : RemovalOutcomes Reply}
  {u : Int}

/-- An admin of user `u` that left no policy that is saved, no relayed event and no record. -/
structure GoneFrom (build : Build Modules Req Reply Event) (u : Int) (s : Service Modules)
    (adminName : String) : Prop where
  admin : ∀ admin, admin ∈ s.container.adminsOf u → admin.packageName ≠ adminName
  policies : adminName ≠ "" → ∀ p, build.plugins.needSave p = true → ¬s.Holds u adminName p
  events : s.relayer.adminSubscriptionHandles.lookup
    (MdmEventRelayer.makeAdminKey adminName u) = none

/-- Further removals for the user bring nothing back. -/
structure Dwindled (u : Int) (s s' : Service Modules) : Prop where
  admins : ∀ admin, admin ∈ s'.container.adminsOf u → admin ∈ s.container.adminsOf u
  holds : ∀ a p, s'.Holds u a p → s.Holds u a p
  listed : s.device.policies.Listed → s'.device.policies.Listed
  handles : ∀ key, s.relayer.adminSubscriptionHandles.lookup key = none →
    s'.relayer.adminSubscriptionHandles.lookup key = none

theorem dwindled_removeAdminOfUser (s : Service Modules) (adminName : String) :
    Dwindled u s (removeAdminOfUser build outcomes s adminName u).2 := by
  have hpolicies := (@removeAdminOfUser_policies _ _ _ _ build outcomes s adminName u).1
  have hcases := @removeAdminOfUser_cases _ _ _ _ build outcomes s adminName u
  refine ⟨fun admin hadmin => ?_, hpolicies.shrunk u, hpolicies.listed, fun key hkey => ?_⟩
  · rcases hcases with ⟨-, hadmins, -⟩ | ⟨-, hadmins, -⟩
    · rwa [Service.container, hadmins] at hadmin
    · rw [Service.container, hadmins, adminsOf_deleteAdmin_done, if_pos rfl] at hadmin
      exact List.mem_of_mem_filter hadmin
  · rcases hcases with ⟨-, -, hrelayer⟩ | ⟨-, -, hrelayer⟩
    · rw [hrelayer, hkey]
    · rw [hrelayer, MdmEventRelayer.onAdminRemoved_handles, hkey, ite_self]

theorem GoneFrom.dwindled {s s' : Service Modules} {adminName : String}
    (h : GoneFrom build u s adminName) (hs : Dwindled u s s') : GoneFrom build u s' adminName where
  admin admin hadmin := h.admin admin (hs.admins admin hadmin)
  policies hname p hsave hheld := h.policies hname p hsave (hs.holds adminName p hheld)
  events := hs.handles _ h.events

theorem Dwindled.refl (s : Service Modules) : Dwindled u s s :=
  ⟨fun _ h => h, fun _ _ h => h, fun h => h, fun _ h => h⟩

theorem Dwindled.trans {s s₁ s' : Service Modules} (h : Dwindled u s s₁) (h' : Dwindled u s₁ s') :
    Dwindled u s s' :=
  ⟨fun admin hadmin => h.admins admin (h'.admins admin hadmin),
    fun a p hheld => h.holds a p (h'.holds a p hheld), fun hlisted => h'.listed (h.listed hlisted),
    fun key hkey => h'.handles key (h.handles key hkey)⟩

theorem dwindled_removeAll (names : List String) (s : TimedService Modules Callback) :
    Dwindled u s.service (removeAll build time outcomes u s names).2.service :=
  removeAll_related .refl (fun _ _ _ h h' => h.trans h') dwindled_removeAdminOfUser names s

theorem dwindled_onCommonEventUserRemoved (s : TimedService Modules Callback) :
    Dwindled u s.service (onCommonEventUserRemoved build time outcomes s u).2.service :=
  onCommonEventUserRemoved_related .refl (fun _ _ _ h h' => h.trans h')
    dwindled_removeAdminOfUser s

/-- A removal that succeeds. -/
theorem goneFrom_removeAdminOfUser {s : Service Modules} (hlisted : s.device.policies.Listed)
    {adminName : String} (hok : (removeAdminOfUser build outcomes s adminName u).1 = ERR_OK) :
    GoneFrom build u (removeAdminOfUser build outcomes s adminName u).2 adminName := by
  have hcases := @removeAdminOfUser_cases _ _ _ _ build outcomes s adminName u
  obtain ⟨-, hadmins, hrelayer⟩ := hcases.resolve_left fun hfailed => hfailed.1 hok
  refine ⟨fun admin hadmin => ?_, fun hname p hsave => ?_, ?_⟩
  · rw [Service.container, hadmins, adminsOf_deleteAdmin_done, if_pos rfl] at hadmin
    exact bne_iff_ne.mp (List.mem_filter.mp hadmin).2
  · exact (removeAdminOfUser_policies adminName u).2 hok hname hlisted p hsave
  · rw [hrelayer, MdmEventRelayer.onAdminRemoved_handles, if_pos rfl]

theorem goneFrom_removeAll {names : List String} {s : TimedService Modules Callback}
    (hlisted : s.service.device.policies.Listed)
    (hok : ∀ ret, ret ∈ (removeAll build time outcomes u s names).1 → ret = ERR_OK) {name : String}
    (hname : name ∈ names) :
    GoneFrom build u (removeAll build time outcomes u s names).2.service name := by
  induction names generalizing s with
  | nil => exact absurd hname List.not_mem_nil
  | cons first names ih =>
    rw [removeAll_cons] at hok ⊢
    have hfirst : Dwindled u s.service
        (UserRemoval.removeAdminAndAdminPolicy build time outcomes s first u).2.service :=
      dwindled_removeAdminOfUser s.service first
    rcases List.mem_cons.mp hname with rfl | hname
    · have hgone : GoneFrom build u
          (UserRemoval.removeAdminAndAdminPolicy build time outcomes s name u).2.service name :=
        goneFrom_removeAdminOfUser hlisted (hok _ List.mem_cons_self)
      exact hgone.dwindled (dwindled_removeAll names _)
    · exact ih (hfirst.listed hlisted) (fun ret hret => hok ret (List.mem_cons_of_mem _ hret)) hname

theorem acrossAccountNames_afterOwn (hu : u ≠ DEFAULT_USER_ID)
    (s : TimedService Modules Callback) :
    acrossAccountNames (afterOwn build time outcomes s u).2 = acrossAccountNames s := by
  have hsame : (afterOwn build time outcomes s u).2.service.container.adminsOf DEFAULT_USER_ID =
      s.service.container.adminsOf DEFAULT_USER_ID :=
    (onlyUser_removeAll (adminNames s u) s).admins DEFAULT_USER_ID hu.symm
  unfold acrossAccountNames
  rw [AdminManager.getAdminByUserId_eq, AdminManager.getAdminByUserId_eq, hsame]

/-- The admins that act across accounts lose their timers with every other user that is removed. -/
theorem acrossAccount_timers_gone (hu : 0 ≤ u) (hdefault : u ≠ DEFAULT_USER_ID)
    (hpc : build.pcOnly = false) (s : TimedService Modules Callback) {name : String}
    (hname : name ∈ acrossAccountNames s) (id : Nat) {entry : TimerEntry Callback}
    (hentry : (onCommonEventUserRemoved build time outcomes s u).2.timers.timerMap.lookup id =
      some entry) : entry.adminBundleName ≠ name := by
  rw [lookup_onCommonEventUserRemoved] at hentry
  rintro rfl
  rcases hentry.2 with hneg | hpc' | hremoved
  · omega
  · rw [hpc] at hpc'
    contradiction
  · refine hremoved (List.mem_append_right _ ?_)
    rwa [acrossAccountNames_afterOwn hdefault]

end Gone

/-- When every removal succeeds, user `u` has no admins left, and every admin that it had and every
admin that acts across accounts has neither policies nor relayed events of `u`. -/
theorem userRemoved_complete {Modules Req Reply Event Callback : Type} [DecidableEq Callback]
    (build : Build Modules Req Reply Event) (time : TimeService)
    (outcomes : RemovalOutcomes Reply) (s : TimedService Modules Callback) {u : Int} (hu : 0 ≤ u)
    (hlisted : s.service.device.policies.Listed)
    (hok : ∀ ret, ret ∈ (onCommonEventUserRemoved build time outcomes s u).1 → ret = ERR_OK) :
    AdminManager.getAdminByUserId
        (onCommonEventUserRemoved build time outcomes s u).2.service.container u = [] ∧
      ∀ name, name ∈ removedNames build time outcomes s u →
        GoneFrom build u (onCommonEventUserRemoved build time outcomes s u).2.service name := by
  have hgone : ∀ name, name ∈ removedNames build time outcomes s u →
      GoneFrom build u (onCommonEventUserRemoved build time outcomes s u).2.service name := by
    have hrun : onCommonEventUserRemoved build time outcomes s u =
        let own := afterOwn build time outcomes s u
        let rest := removeAll build time outcomes u own.2 (acrossAccountNames own.2)
        (own.1 ++ rest.1, rest.2) := by
      unfold onCommonEventUserRemoved
      rw [if_neg (by omega)]
    rw [hrun] at hok ⊢
    intro name hname
    have hown : Dwindled u s.service (afterOwn build time outcomes s u).2.service :=
      dwindled_removeAll (adminNames s u) s
    rcases List.mem_append.mp hname with hname | hname
    · have hfirst : GoneFrom build u (afterOwn build time outcomes s u).2.service name :=
        goneFrom_removeAll hlisted (fun ret hret => hok ret (List.mem_append_left _ hret)) hname
      exact hfirst.dwindled (dwindled_removeAll _ _)
    · exact goneFrom_removeAll (hown.listed hlisted)
        (fun ret hret => hok ret (List.mem_append_right _ hret)) hname
  refine ⟨List.eq_nil_iff_forall_not_mem.mpr fun admin hadmin => ?_, hgone⟩
  -- an admin that is left was an admin before, and its name is among the removed ones
  obtain ⟨item, hitem, hcopy⟩ := AdminManager.mem_getAdminByUserId.mp hadmin
  have hbefore : admin ∈ AdminManager.getAdminByUserId s.service.container u :=
    AdminManager.mem_getAdminByUserId.mpr
      ⟨item, (dwindled_onCommonEventUserRemoved s).admins item hitem, hcopy⟩
  have hname : admin.adminInfo.packageName ∈ removedNames build time outcomes s u :=
    List.mem_append_left _ (List.mem_map_of_mem hbefore)
  have hid := congrArg AdminId.packageName (AdminManager.createAdmin_id hcopy)
  exact (hgone _ hname).admin item hitem hid.symm

namespace UserRemoval

open BasicBoolPlugin

/-- An admin of user 101, and one of the default user that acts across accounts. -/
def admins : AdminState :=
  (AdminManager.setAdminValue CJson.standard
    (AdminManager.setAdminValue CJson.standard AdminState.boot .done DEFAULT_USER_ID
      { packageName := "com.super", adminType := .ent }).2
    .done 101 { packageName := "com.admin", adminType := .normal }).2

def service : TimedService (String → Switch) Unit :=
  ⟨(Service.boot switchesOff).setAdmins admins, .new Unit⟩

def outcomes : RemovalOutcomes Answers :=
  ⟨fun _ _ _ => ⟨.done, .done⟩, fun _ _ _ => .agreeing, fun _ _ => .done⟩

/-- A time service that takes every call. -/
def agreeing : TimeService := ⟨true, 0, (0, 0), 0, 0⟩

end UserRemoval

theorem userRemoved_complete_101 :
    removedNames (Build.restricting []) UserRemoval.agreeing UserRemoval.outcomes
        UserRemoval.service 101 = ["com.admin", "com.super"] ∧
      AdminManager.getAdminByUserId (onCommonEventUserRemoved (Build.restricting [])
        UserRemoval.agreeing UserRemoval.outcomes UserRemoval.service 101).2.service.container
        101 = [] := by
  refine ⟨by rfl, (userRemoved_complete (Build.restricting []) UserRemoval.agreeing
    UserRemoval.outcomes UserRemoval.service (by decide) (fun v => ?_) fun ret hret => ?_).1⟩
  · exact UserPolicyManager.listed_new v
  · have hrets : (onCommonEventUserRemoved (Build.restricting []) UserRemoval.agreeing
        UserRemoval.outcomes UserRemoval.service 101).1 = [ERR_OK, ERR_OK] := by
      rfl
    rw [hrets] at hret
    simpa using hret

end Edm
