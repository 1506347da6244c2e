import Edm.Ability.ConcurrentUpdates
import Edm.Ability.Restrictions
import Edm.Admin.AdminManager

/-! Restrictions whose `CheckConflictPolicy` reads policies of their own conflict group.  Their updates
may overlap, and of two that check each other at most one is in force, also while updates run. -/

set_option autoImplicit false

namespace Edm

open Library Library.UnorderedMap Library.CriticalSection UpdateDevicePolicy

namespace PolicyName

def POLICY_DISABLED_SUDO : String := "disabled_sudo"
def POLICY_DISALLOWED_DEVICE_SUDO : String := "disallowed_device_sudo"

end PolicyName

namespace BasicBoolPlugin

/-- A restriction with its `CheckConflictPolicy`, and the policies that the check reads. -/
structure GuardedRestriction extends Restriction where
  checkConflictPolicy : (Int → UserPolicyManager) → Int → ErrCode
  checked : List String
  reads_checked : ∀ managers managers' : Int → UserPolicyManager,
    (∀ u q, q ∈ checked → UserPolicyManager.SamePolicy (managers u) (managers' u) q) →
    checkConflictPolicy managers = checkConflictPolicy managers'

/-- The check that another policy is not in force for the user that `user` picks. -/
def refuseIfTrue (user : Int → Int) (policyName : String) (managers : Int → UserPolicyManager)
    (userId : Int) : ErrCode :=
  if (managers (user userId)).policyValue "" policyName = CONST_TRUE then
    EdmReturnErrCode.CONFIGURATION_CONFLICT_FAILED
  else ERR_OK

theorem refuseIfTrue_same (user : Int → Int) (policyName : String)
    (managers managers' : Int → UserPolicyManager)
    (h : ∀ u q, q ∈ [policyName] → UserPolicyManager.SamePolicy (managers u) (managers' u) q) :
    refuseIfTrue user policyName managers = refuseIfTrue user policyName managers' := by
  funext userId
  unfold refuseIfTrue
  rw [(h (user userId) policyName (List.mem_singleton.mpr rfl)).policyValue]

theorem refuseIfTrue_failed (user : Int → Int) (policyName : String) (userId : Int)
    {managers : Int → UserPolicyManager}
    (h : (managers (user userId)).policyValue "" policyName = CONST_TRUE) :
    failed (refuseIfTrue user policyName managers userId) = true := by
  rw [refuseIfTrue, if_pos h]
  decide

/-- The answer about conflicts comes from the policies. -/
def Request.checking (request : Request) (checkConflictPolicy : ErrCode) : Request :=
  { request with answers := { request.answers with checkConflictPolicy } }

namespace GuardedRestriction

variable (guarded : GuardedRestriction) (order : HashOrder)

def registered : RegisteredPlugin (String → Switch) Request Answers Unit :=
  { guarded.toRestriction.registered order with
    onHandlePolicy := fun managers userId modules request =>
      (guarded.toRestriction.registered order).onHandlePolicy managers userId modules
        (request.checking (guarded.checkConflictPolicy managers userId)) }

def conflictGroupId : ConflictGroupId :=
  ConflictGroupRegistry.getConflictGroupId guarded.policyCode

end GuardedRestriction

variable (guardeds : List GuardedRestriction) (order : HashOrder)

/-- The plugins that are loaded. -/
def guardedTable : PluginTable (String → Switch) Request Answers Unit where
  pluginsCode policyCode :=
    (guardeds.find? fun guarded => guarded.policyCode == policyCode).map (·.registered order)
  pluginsName policyName :=
    (guardeds.find? fun guarded => guarded.policyName == policyName).map (·.registered order)
  pluginsName_policyName policyName registered h := by
    obtain ⟨guarded, hfound, rfl⟩ := Option.map_eq_some_iff.mp h
    have hname := List.find?_some hfound
    exact beq_iff_eq.mp hname

/-- Every restriction has a policy of its own, and checks no policy of another conflict group. -/
structure Separated : Prop where
  policyNames : (guardeds.map fun guarded => guarded.policyName).Nodup
  checks : ∀ guarded, guarded ∈ guardeds → ∀ other, other ∈ guardeds →
    guarded.conflictGroupId ≠ other.conflictGroupId → other.policyName ∉ guarded.checked

variable {guardeds order}

theorem getPluginByFuncCode_guarded {code : UInt32}
    {plugin : RegisteredPlugin (String → Switch) Request Answers Unit}
    (h : (guardedTable guardeds order).getPluginByFuncCode code = some plugin) :
    ∃ guarded, guarded ∈ guardeds ∧ guarded.policyCode = funcToPolicy code ∧
      plugin = guarded.registered order := by
  unfold PluginTable.getPluginByFuncCode at h
  split at h
  · obtain ⟨guarded, hfound, rfl⟩ := Option.map_eq_some_iff.mp h
    have hcode := List.find?_some hfound
    exact ⟨guarded, List.mem_of_find?_eq_some hfound, beq_iff_eq.mp hcode, rfl⟩
  · contradiction

theorem Separated.policyName_inj (h : Separated guardeds) {guarded other : GuardedRestriction}
    (hguarded : guarded ∈ guardeds) (hother : other ∈ guardeds)
    (hname : guarded.policyName = other.policyName) : guarded = other :=
  List.inj_on_of_nodup_map h.policyNames hguarded hother hname

/-- The handler drives the module under the policy name. -/
theorem onHandlePolicy_guarded (guarded : GuardedRestriction)
    (managers : Int → UserPolicyManager) (userId : Int) (modules : String → Switch)
    (request : Request) (policyData : HandlePolicyData) :
    (guarded.registered order).onHandlePolicy managers userId modules request policyData =
      let result := onHandlePolicy guarded.toConfig (modules guarded.policyName)
        (request.checking (guarded.checkConflictPolicy managers userId)) policyData
      (result.1, Function.update modules guarded.policyName result.2.1, result.2.2) :=
  rfl

theorem handle_guarded (guarded : GuardedRestriction) (call : UpdateCall Request)
    (r : UpdateRegisters) (s : SharedState (String → Switch)) :
    handle (guarded.registered order) call r s =
      let result := onHandlePolicy guarded.toConfig (s.modules guarded.policyName)
        (call.request.checking (guarded.checkConflictPolicy s.managers call.userId))
        r.handlePolicyData
      ({ r with ret := result.1, handlePolicyData := result.2.2 },
        { s with modules := Function.update s.modules guarded.policyName result.2.1 }) :=
  rfl

/-- Two restrictions of different groups. -/
theorem Separated.pluginsApart (h : Separated guardeds) {guarded other : GuardedRestriction}
    (hguarded : guarded ∈ guardeds) (hother : other ∈ guardeds)
    (hgroup : guarded.conflictGroupId ≠ other.conflictGroupId) (call call' : UpdateCall Request) :
    PluginsApart (guarded.registered order) (other.registered order) call call' := by
  have hname : guarded.policyName ≠ other.policyName := fun heq =>
    hgroup (by rw [h.policyName_inj hguarded hother heq])
  have hignores : ∀ {g g' : GuardedRestriction}, g'.policyName ∉ g.checked →
      Ignores (g.registered order) g'.policyName := fun {g g'} hchecked managers managers' hsame => by
    have hcheck := g.reads_checked managers managers' fun u q hq =>
      hsame u q fun heq => hchecked (heq ▸ hq)
    funext userId modules request policyData
    rw [onHandlePolicy_guarded, onHandlePolicy_guarded, hcheck]
  constructor
  · exact fun _ => hname
  · exact fun _ => hignores (h.checks guarded hguarded other hother hgroup)
  · exact fun _ => hignores (h.checks other hother guarded hguarded hgroup.symm)
  · constructor
    · intro r r' s hs
      simp only [handle_guarded, Function.update_of_ne hname]
    · intro r r' s hs
      simp only [handle_guarded, Function.update_of_ne hname.symm]
    · intro r r' s hs
      simp only [handle_guarded, Function.update_of_ne hname, Function.update_of_ne hname.symm]
      rw [Function.update_comm hname]

/-- Updates of restrictions need no other order than that of their locks. -/
theorem Separated.callsApart (h : Separated guardeds) {ι : Type} (calls : ι → UpdateCall Request) :
    CallsApart (guardedTable guardeds order) calls := by
  intro i j hne hexcludes plugin plugin' hplugin hplugin'
  obtain ⟨guarded, hguarded, hcode, rfl⟩ := getPluginByFuncCode_guarded hplugin
  obtain ⟨other, hother, hcode', rfl⟩ := getPluginByFuncCode_guarded hplugin'
  refine h.pluginsApart hguarded hother (fun hgroup => hexcludes ?_) (calls i) (calls j)
  have hlock : ∀ {k : ι} {g : GuardedRestriction},
      (guardedTable guardeds order).getPluginByFuncCode (calls k).code =
        some (g.registered order) → g.policyCode = funcToPolicy (calls k).code →
      (updateSections (guardedTable guardeds order) calls k).lock = some g.conflictGroupId := by
    intro k g hfound hpolicy
    unfold updateSections updateSection GuardedRestriction.conflictGroupId
    rw [hfound, hpolicy]
    rfl
  unfold Excludes
  rw [hlock hplugin hcode, hlock hplugin' hcode', hgroup]
  exact ⟨Option.some_ne_none _, rfl⟩

/-! ### What an update makes of a switch -/

/-- While another admin has the switch on, or the update turns it on, the combined value is on; and
only an update that passes the check turns it on. -/
theorem onHandlePolicy_merged (config : Config) (switch : Switch) (request : Request)
    {policyData : HandlePolicyData}
    (hok : failed (onHandlePolicy config switch request policyData).1 = false) :
    let handled := (onHandlePolicy config switch request policyData).2.2
    (policyData.mergePolicyData = CONST_TRUE → handled.mergePolicyData = CONST_TRUE) ∧
      (handled.policyData = CONST_TRUE → handled.mergePolicyData = CONST_TRUE) ∧
      (handled.mergePolicyData = CONST_TRUE → policyData.mergePolicyData = CONST_TRUE ∨
        failed request.answers.checkConflictPolicy = false) := by
  unfold onHandlePolicy at hok ⊢
  by_cases hmerge : policyData.mergePolicyData = CONST_TRUE
  · simp [onSetPolicy, hmerge, failed, switchValue]
  · have hmerge' : (policyData.mergePolicyData == CONST_TRUE) = false := by simpa using hmerge
    simp only [hmerge'] at hok ⊢
    by_cases hconflict : (request.data && failed request.answers.checkConflictPolicy) = true
    · obtain ⟨hdata, hfailed⟩ := Bool.and_eq_true_iff.mp hconflict
      simp [onSetPolicy, hdata, hfailed] at hok
    · obtain ⟨ret, switch', hset⟩ : ∃ ret switch',
        setSwitch config request.answers switch request.data = (ret, switch') := ⟨_, _, rfl⟩
      cases hret : failed ret with
      | true => simp [onSetPolicy, hconflict, hset, hret] at hok
      | false =>
        have hok' : failed ERR_OK = false := by decide
        simp only [onSetPolicy, hconflict, hset, hret, hok', Bool.false_eq_true, if_false]
        refine ⟨fun h => absurd h hmerge, id, fun htrue => .inr ?_⟩
        have hdata : request.data = true := switchValue_eq_true.mp htrue
        simpa [hdata] using hconflict

/-- The others' value is on exactly when another key of the admins' values has the switch on. -/
theorem others_eq_true_iff (config : Config) (order : HashOrder) (m : UserPolicyManager)
    (adminName : String) :
    getOthersMergePolicyData config order m adminName = CONST_TRUE ↔
      ∃ other, other ≠ adminName ∧
        (m.adminValues config.policyName).lookup other = some CONST_TRUE := by
  have henum := order.enumerates ((m.adminValues config.policyName).erase adminName)
  unfold getOthersMergePolicyData
  rw [switchValue_eq_true, List.any_eq_true]
  constructor
  · rintro ⟨⟨other, value⟩, hmem, hvalue⟩
    obtain rfl : value = CONST_TRUE := beq_iff_eq.mp hvalue
    have hlookup := (henum.mem_iff other _).mp hmem
    rw [lookup_erase_eq] at hlookup
    split at hlookup
    · contradiction
    · rename_i hne
      exact ⟨other, hne, hlookup⟩
  · rintro ⟨other, hne, hlookup⟩
    refine ⟨(other, CONST_TRUE), (henum.mem_iff other _).mpr ?_, beq_iff_eq.mpr rfl⟩
    rw [lookup_erase_eq, if_neg hne]
    exact hlookup

/-! ### Two restrictions that check each other -/

/-- The combined value of a switch is on while some admin has it on, and nobody has the empty name. -/
structure Backed (policyName : String) (m : UserPolicyManager) : Prop where
  named : (m.adminValues policyName).lookup "" = none
  combined : ∀ admin, (m.adminValues policyName).lookup admin = some CONST_TRUE →
    m.policyValue "" policyName = CONST_TRUE

/-- Both writes of a `SetPolicy` take effect or none does. -/
def Together (writes : Writes) : Prop :=
  writes.admin ≠ .failed ∧ (writes.combined = .done ↔ writes.admin = .done)

theorem Backed.samePolicy {policyName : String} {m m' : UserPolicyManager} (h : Backed policyName m)
    (hsame : UserPolicyManager.SamePolicy m' m policyName) : Backed policyName m' where
  named := by rw [hsame.adminValues, h.named]
  combined admin hlookup := by
    rw [hsame.adminValues] at hlookup
    rw [hsame.policyValue]
    exact h.combined admin hlookup

theorem lookup_adminValues_setPolicy {m : UserPolicyManager} (h : IndexesInverse m)
    {writes : Writes} {a p v merged : String} (hwrites : writes.admin ≠ .failed) (hp : p ≠ "")
    (x : String) :
    ((m.setPolicy writes a p v merged).adminValues p).lookup x =
      if (a ≠ "" ∧ writes.admin = .done) ∧ x = a then entry v
      else (m.adminValues p).lookup x := by
  rw [UserPolicyManager.lookup_adminValues,
    ← (UserPolicyManager.setPolicy_inverse h hwrites).inverse,
    UserPolicyManager.setPolicy_admins hp, h.inverse, UserPolicyManager.lookup_adminValues]
  simp

theorem policyValue_setPolicy {m : UserPolicyManager} {writes : Writes} {a p v merged : String}
    (hp : p ≠ "") (q : String) :
    (m.setPolicy writes a p v merged).policyValue "" q =
      if q = p ∧ writes.combined = .done then merged else m.policyValue "" q :=
  UserStore.policyValue_setPolicy ⟨m, PolicyTables.empty⟩ writes a v merged hp q

theorem Backed.setPolicy {m : UserPolicyManager} {writes : Writes} {a p v merged : String}
    (h : Backed p m) (hinverse : IndexesInverse m) (hwrites : Together writes) (hp : p ≠ "")
    (hothers : (∃ other, other ≠ a ∧ (m.adminValues p).lookup other = some CONST_TRUE) →
      merged = CONST_TRUE)
    (hvalue : v = CONST_TRUE → merged = CONST_TRUE) :
    Backed p (m.setPolicy writes a p v merged) where
  named := by
    rw [lookup_adminValues_setPolicy hinverse hwrites.1 hp, if_neg fun hset => hset.1.1 hset.2.symm]
    exact h.named
  combined x hlookup := by
    rw [lookup_adminValues_setPolicy hinverse hwrites.1 hp] at hlookup
    rw [policyValue_setPolicy hp]
    by_cases hcombined : writes.combined = .done
    · rw [if_pos ⟨rfl, hcombined⟩]
      split at hlookup
      · exact hvalue (entry_eq_some hlookup).1.symm
      · rename_i hnot
        refine hothers ⟨x, fun hxa => hnot ⟨⟨fun ha => ?_, hwrites.2.mp hcombined⟩, hxa⟩, hlookup⟩
        rw [hxa, ha, h.named] at hlookup
        contradiction
    · rw [if_neg fun hdone => hcombined hdone.2]
      rw [if_neg fun hdone => hcombined (hwrites.2.mpr hdone.1.2)] at hlookup
      exact h.combined x hlookup

/-- At most one of two switches is on for a user. -/
structure Exclusive (p q : String) (m : UserPolicyManager) : Prop where
  backed : Backed p m
  backed' : Backed q m
  not_both : ¬(m.policyValue "" p = CONST_TRUE ∧ m.policyValue "" q = CONST_TRUE)

/-- The check of a restriction refuses while the other is on for a user. -/
def Refuses (guarded other : GuardedRestriction) (userId : Int) : Prop :=
  ∀ managers : Int → UserPolicyManager,
    (managers userId).policyValue "" other.policyName = CONST_TRUE →
    failed (guarded.checkConflictPolicy managers userId) = true

theorem Exclusive.symm {p q : String} {m : UserPolicyManager} (h : Exclusive p q m) :
    Exclusive q p m :=
  ⟨h.backed', h.backed, fun hboth => h.not_both hboth.symm⟩

theorem Exclusive.samePolicies {p q : String} {m m' : UserPolicyManager} (h : Exclusive p q m)
    (hp : UserPolicyManager.SamePolicy m' m p) (hq : UserPolicyManager.SamePolicy m' m q) :
    Exclusive p q m' where
  backed := h.backed.samePolicy hp
  backed' := h.backed'.samePolicy hq
  not_both := by
    rw [hp.policyValue, hq.policyValue]
    exact h.not_both

/-- What an update of a restriction saves. -/
theorem Exclusive.setPolicy {first second : GuardedRestriction} (call : UpdateCall Request)
    (hne : first.policyName ≠ second.policyName) (hrefuses : Refuses first second call.userId)
    (hwrites : Together call.writes) {s : SharedState (String → Switch)} (hs : Inverse s)
    (h : Exclusive first.policyName second.policyName (s.managers call.userId))
    (hok : failed (handledData (first.registered order) call s).1 = false) :
    Exclusive first.policyName second.policyName
      ((s.managers call.userId).setPolicy call.writes call.bundleName first.policyName
        (handledData (first.registered order) call s).2.2.policyData
        (handledData (first.registered order) call s).2.2.mergePolicyData) := by
  obtain ⟨hothers, hvalue, hmerged⟩ := onHandlePolicy_merged first.toConfig
    (s.modules first.policyName)
    (call.request.checking (first.checkConflictPolicy s.managers call.userId)) hok
  have hheld := others_eq_true_iff first.toConfig order (s.managers call.userId) call.bundleName
  constructor
  · exact h.backed.setPolicy (hs _) hwrites first.policyName_ne
      (fun hother => hothers (hheld.mpr hother)) hvalue
  · exact h.backed'.samePolicy (UserPolicyManager.setPolicy_samePolicy (hs _) hwrites.1
      first.policyName_ne hne.symm)
  · rintro ⟨hfirst, hsecond⟩
    rw [policyValue_setPolicy first.policyName_ne] at hfirst
    rw [policyValue_setPolicy first.policyName_ne, if_neg fun heq => hne heq.1.symm] at hsecond
    split at hfirst
    · -- the combined value is on: it was on before, or the check has seen that the other is off
      rcases hmerged hfirst with hother | hcheck
      · obtain ⟨other, -, hlookup⟩ := hheld.mp hother
        exact h.not_both ⟨h.backed.combined other hlookup, hsecond⟩
      · have hrefused := hrefuses s.managers hsecond
        have hcheck : failed (first.checkConflictPolicy s.managers call.userId) = false := hcheck
        rw [hrefused] at hcheck
        contradiction
    · exact h.not_both ⟨hfirst, hsecond⟩

section Run

variable {first second : GuardedRestriction} {userId : Int}

/-- An update of any restriction, as far as it comes alone. -/
theorem Exclusive.runSteps (hsep : Separated guardeds) (hfirst : first ∈ guardeds)
    (hsecond : second ∈ guardeds) (hne : first.policyName ≠ second.policyName)
    (hrefuses : Refuses first second userId) (hrefuses' : Refuses second first userId)
    (call : UpdateCall Request) (hwrites : Together call.writes)
    {done : List (UpdateStep (String → Switch))}
    (hdone : done <+: (updateSection (guardedTable guardeds order) call).code)
    {s : SharedState (String → Switch)} (hs : Inverse s)
    (h : Exclusive first.policyName second.policyName (s.managers userId)) :
    Exclusive first.policyName second.policyName
      ((CriticalSection.runSteps done (updateSection (guardedTable guardeds order) call).start
        s).2.managers userId) := by
  unfold updateSection at hdone ⊢
  cases hplugin : (guardedTable guardeds order).getPluginByFuncCode call.code with
  | none =>
    rw [hplugin] at hdone
    obtain rfl := List.prefix_nil.mp hdone
    exact h
  | some plugin =>
    rw [hplugin] at hdone
    obtain ⟨guarded, hguarded, -, rfl⟩ := getPluginByFuncCode_guarded hplugin
    show Exclusive _ _
      ((CriticalSection.runSteps done UpdateRegisters.start s).2.managers userId)
    rcases runSteps_managers hdone s with hstay | ⟨hok, hsaved⟩
    · rw [hstay]
      exact h
    · rw [hsaved]
      by_cases huser : userId = call.userId
      · subst huser
        rw [Function.update_self]
        by_cases hguardedFirst : guarded.policyName = first.policyName
        · obtain rfl := hsep.policyName_inj hguarded hfirst hguardedFirst
          exact h.setPolicy call hne hrefuses hwrites hs hok
        · by_cases hguardedSecond : guarded.policyName = second.policyName
          · obtain rfl := hsep.policyName_inj hguarded hsecond hguardedSecond
            exact (h.symm.setPolicy call hne.symm hrefuses' hwrites hs hok).symm
          · exact h.samePolicies
              (UserPolicyManager.setPolicy_samePolicy (hs _) hwrites.1 guarded.policyName_ne
                (Ne.symm hguardedFirst))
              (UserPolicyManager.setPolicy_samePolicy (hs _) hwrites.1 guarded.policyName_ne
                (Ne.symm hguardedSecond))
      · rw [Function.update_of_ne huser]
        exact h

theorem inverse_runSteps {ι : Type} {calls : ι → UpdateCall Request}
    (hwrites : ∀ i, Together (calls i).writes) (hsep : Separated guardeds) {i : ι}
    {done : List (UpdateStep (String → Switch))}
    (hdone : done <+: (updateSections (guardedTable guardeds order) calls i).code)
    (r : UpdateRegisters) {s : SharedState (String → Switch)} (hs : Inverse s) :
    Inverse (CriticalSection.runSteps done r s).2 := by
  have hcalls : CallsApart (guardedTable guardeds order) calls := hsep.callsApart calls
  have hkeeps := hcalls.sections fun i => (hwrites i).1
  have hmem : ∀ f, f ∈ done → f ∈ (updateSections (guardedTable guardeds order) calls i).code :=
    fun f hf => hdone.subset hf
  clear hdone
  induction done generalizing r s with
  | nil => exact hs
  | cons f done ih =>
    exact ih _ (hkeeps.keeps i f (hmem f List.mem_cons_self) r s hs)
      fun g hg => hmem g (List.mem_cons_of_mem f hg)

/-- Of two restrictions that check each other for a user, at most one is on at any time, however the
updates interleave. -/
theorem exclusive_of_refuses {ι : Type} [DecidableEq ι] (hsep : Separated guardeds)
    (hfirst : first ∈ guardeds) (hsecond : second ∈ guardeds)
    (hne : first.policyName ≠ second.policyName) (hrefuses : Refuses first second userId)
    (hrefuses' : Refuses second first userId) (calls : ι → UpdateCall Request)
    (hwrites : ∀ i, Together (calls i).writes) {s : SharedState (String → Switch)} (hs : Inverse s)
    (hstart : Exclusive first.policyName second.policyName (s.managers userId))
    {events : List (SectionEvent ι)} {c : CriticalSection.Config UpdateRegisters (SharedState (String → Switch)) ι}
    (hrun : Run (updateSections (guardedTable guardeds order) calls)
      (CriticalSection.Config.start (updateSections (guardedTable guardeds order) calls) s) events c) :
    Exclusive first.policyName second.policyName (c.memory.2.managers userId) := by
  have hcalls : CallsApart (guardedTable guardeds order) calls := hsep.callsApart calls
  have hapart := hcalls.sections fun i => (hwrites i).1
  refine (Run.shared_inv hapart (P := fun s => Inverse s ∧
    Exclusive first.policyName second.policyName (s.managers userId)) ?_ hs ⟨hs, hstart⟩ hrun).2
  rintro i done hdone s ⟨hs, hexclusive⟩
  exact ⟨inverse_runSteps hwrites hsep hdone _ hs,
    hexclusive.runSteps hsep hfirst hsecond hne hrefuses hrefuses' (calls i) (hwrites i) hdone hs⟩

end Run

/-! ### The two policies about sudo -/

def disableSudoPlugin : GuardedRestriction where
  policyCode := EdmInterfaceCode.DISALLOWED_SUDO
  policyName := PolicyName.POLICY_DISABLED_SUDO
  policyName_ne := by decide
  permissionConfig :=
    { typePermissions := [(.superDeviceAdmin, "ohos.permission.ENTERPRISE_MANAGE_RESTRICTIONS")]
      apiType := .publicApi }
  persistParam := ""
  checkConflictPolicy :=
    refuseIfTrue (fun _ => DEFAULT_USER_ID) PolicyName.POLICY_DISALLOWED_DEVICE_SUDO
  checked := [PolicyName.POLICY_DISALLOWED_DEVICE_SUDO]
  reads_checked := refuseIfTrue_same _ _

def disallowedDeviceSudoPlugin : GuardedRestriction where
  policyCode := EdmInterfaceCode.DISALLOWED_DEVICE_SUDO
  policyName := PolicyName.POLICY_DISALLOWED_DEVICE_SUDO
  policyName_ne := by decide
  permissionConfig :=
    { typePermissions := [(.superDeviceAdmin, "ohos.permission.ENTERPRISE_MANAGE_RESTRICTIONS")]
      apiType := .publicApi }
  persistParam := "persist.edm.sudo_disable"
  checkConflictPolicy := refuseIfTrue (fun userId => userId) PolicyName.POLICY_DISABLED_SUDO
  checked := [PolicyName.POLICY_DISABLED_SUDO]
  reads_checked := refuseIfTrue_same _ _

theorem refuses_disableSudoPlugin :
    Refuses disableSudoPlugin disallowedDeviceSudoPlugin DEFAULT_USER_ID := fun _ hvalue =>
  refuseIfTrue_failed (fun _ => DEFAULT_USER_ID) _ DEFAULT_USER_ID hvalue

theorem refuses_disallowedDeviceSudoPlugin :
    Refuses disallowedDeviceSudoPlugin disableSudoPlugin DEFAULT_USER_ID := fun _ hvalue =>
  refuseIfTrue_failed (fun userId => userId) _ _ hvalue

/-- Sudo is never forbidden to the default user and on the device at the same time, at any point of
any interleaving of updates. -/
theorem sudo_exclusive {ι : Type} [DecidableEq ι] (order : HashOrder)
    (others : List GuardedRestriction)
    (hsep : Separated (disableSudoPlugin :: disallowedDeviceSudoPlugin :: others))
    (calls : ι → UpdateCall Request) (hwrites : ∀ i, Together (calls i).writes)
    (d : Device (String → Switch)) (hinverse : ∀ u, IndexesInverse (d.policies.manager u))
    (hstart : Exclusive PolicyName.POLICY_DISABLED_SUDO PolicyName.POLICY_DISALLOWED_DEVICE_SUDO
      (d.policies.manager DEFAULT_USER_ID))
    {events : List (SectionEvent ι)}
    {c : CriticalSection.Config UpdateRegisters (SharedState (String → Switch)) ι}
    (hrun : Run (updateSections
        (guardedTable (disableSudoPlugin :: disallowedDeviceSudoPlugin :: others) order) calls)
      (CriticalSection.Config.start (updateSections
        (guardedTable (disableSudoPlugin :: disallowedDeviceSudoPlugin :: others) order) calls)
        d.shared) events c) :
    ¬((c.memory.2.managers DEFAULT_USER_ID).policyValue "" PolicyName.POLICY_DISABLED_SUDO =
          CONST_TRUE ∧
        (c.memory.2.managers DEFAULT_USER_ID).policyValue ""
          PolicyName.POLICY_DISALLOWED_DEVICE_SUDO = CONST_TRUE) := by
  have hne : disableSudoPlugin.policyName ≠ disallowedDeviceSudoPlugin.policyName := by decide
  have hs : Inverse d.shared := hinverse
  exact (exclusive_of_refuses hsep List.mem_cons_self
    (List.mem_cons_of_mem _ List.mem_cons_self) hne refuses_disableSudoPlugin
    refuses_disallowedDeviceSudoPlugin calls hwrites hs hstart hrun).not_both

/-- A call that turns a restriction on. -/
def turnOn (policyCode : UInt32) (bundleName : String) : UpdateCall Request where
  code := policyFuncCode 1 policyCode
  bundleName := bundleName
  request := ⟨true, .agreeing⟩
  userId := DEFAULT_USER_ID
  writes := ⟨.done, .done⟩

/-- Two admins forbid sudo, one to the default user and one on the device. -/
def sudoCalls : Bool → UpdateCall Request
  | false => turnOn EdmInterfaceCode.DISALLOWED_SUDO "com.admin"
  | true => turnOn EdmInterfaceCode.DISALLOWED_DEVICE_SUDO "com.other"

/-- Unmuting is checked against nothing. -/
def unmuteRestriction : GuardedRestriction where
  toRestriction := disallowUnmuteDevicePlugin
  checkConflictPolicy _ _ := ERR_OK
  checked := []
  reads_checked _ _ _ := rfl

theorem separated_sudo_unmute :
    Separated [disableSudoPlugin, disallowedDeviceSudoPlugin, unmuteRestriction] where
  policyNames := by decide
  checks := by
    intro guarded hguarded other hother hgroup
    simp only [List.mem_cons, List.not_mem_nil, or_false] at hguarded hother
    rcases hguarded with rfl | rfl | rfl <;> rcases hother with rfl | rfl | rfl
    all_goals first | decide | exact absurd rfl hgroup

theorem exclusive_boot :
    Exclusive PolicyName.POLICY_DISABLED_SUDO PolicyName.POLICY_DISALLOWED_DEVICE_SUDO
      ((Device.boot switchesOff).policies.manager DEFAULT_USER_ID) := by
  have hbacked : ∀ p, Backed p (UserPolicyManager.new DEFAULT_USER_ID) := fun p =>
    ⟨rfl, fun admin hlookup => by
      simp [UserPolicyManager.lookup_adminValues, UserPolicyManager.new] at hlookup⟩
  refine ⟨hbacked _, hbacked _, fun hboth => ?_⟩
  have hvalue := hboth.1
  have hempty : ((Device.boot switchesOff).policies.manager DEFAULT_USER_ID).policyValue ""
    PolicyName.POLICY_DISABLED_SUDO = "" := rfl
  rw [hempty] at hvalue
  exact absurd hvalue (by decide)

/-- The first call has saved its policy and the second waits for the lock. -/
theorem sudo_exclusive_saved :
    ∃ events c,
      Run (updateSections (guardedTable [disableSudoPlugin, disallowedDeviceSudoPlugin,
          unmuteRestriction] .byKey) sudoCalls)
        (CriticalSection.Config.start (updateSections (guardedTable [disableSudoPlugin,
          disallowedDeviceSudoPlugin, unmuteRestriction] .byKey) sudoCalls)
          (Device.boot switchesOff).shared) events c ∧
      events = .enter false :: List.replicate 5 (.move false) ∧
      ¬((c.memory.2.managers DEFAULT_USER_ID).policyValue "" PolicyName.POLICY_DISABLED_SUDO =
          CONST_TRUE ∧
        (c.memory.2.managers DEFAULT_USER_ID).policyValue ""
          PolicyName.POLICY_DISALLOWED_DEVICE_SUDO = CONST_TRUE) := by
  let sections := updateSections (guardedTable [disableSudoPlugin, disallowedDeviceSudoPlugin,
    unmuteRestriction] .byKey) sudoCalls
  let c₀ := CriticalSection.Config.start sections (Device.boot switchesOff).shared
  let c₁ := { c₀ with phase := Function.update c₀.phase false (.inside (sections false).code) }
  have hentered : Run sections c₀ [.enter false] c₁ :=
    Run.start.step (.enter rfl fun j rest hinside => by cases hinside)
  have hinside : c₁.phase false =
      .inside ((sections false).code.take 5 ++ (sections false).code.drop 5) := by simp [c₁]
  have hmoved := hentered.moves hinside
  refine ⟨_, _, hmoved, rfl, ?_⟩
  exact sudo_exclusive .byKey [unmuteRestriction] separated_sudo_unmute sudoCalls
    (fun i => by cases i <;> exact ⟨by decide, by decide⟩) (Device.boot switchesOff)
    indexesInverse_new exclusive_boot hmoved

/-- Two calls that hold different locks. -/
def overlappingCalls : Bool → UpdateCall Request
  | false => turnOn EdmInterfaceCode.DISALLOWED_SUDO "com.admin"
  | true => turnOn disallowUnmuteDevicePlugin.policyCode "com.other"

/-- The second call starts and returns while the first is under way. -/
theorem updates_linearizable_overlapping :
    ∃ events c,
      Run (updateSections (guardedTable [disableSudoPlugin, disallowedDeviceSudoPlugin,
          unmuteRestriction] .byKey) overlappingCalls)
        (CriticalSection.Config.start (updateSections (guardedTable [disableSudoPlugin,
          disallowedDeviceSudoPlugin, unmuteRestriction] .byKey) overlappingCalls)
          (Device.boot switchesOff).shared) events c ∧
      entered events = [false, true] ∧
      c.memory.2 = (updateAll (guardedTable [disableSudoPlugin, disallowedDeviceSudoPlugin,
        unmuteRestriction] .byKey) overlappingCalls (Device.boot switchesOff)
        (entered events)).shared := by
  let sections := updateSections (guardedTable [disableSudoPlugin, disallowedDeviceSudoPlugin,
    unmuteRestriction] .byKey) overlappingCalls
  let c₀ := CriticalSection.Config.start sections (Device.boot switchesOff).shared
  let c₁ := { c₀ with phase := Function.update c₀.phase false (.inside (sections false).code) }
  have hfirst : Run sections c₀ [.enter false] c₁ :=
    Run.start.step (.enter rfl fun j rest hinside => by cases hinside)
  let c₂ : CriticalSection.Config UpdateRegisters (SharedState (String → Switch)) Bool :=
    ⟨runCode false ((sections false).code.take 4) c₁.memory,
      Function.update c₁.phase false (.inside ((sections false).code.drop 4))⟩
  have hhandled : Run sections c₀ _ c₂ := hfirst.moves (by simp [c₁])
  have hfree : ∀ j rest, c₂.phase j = .inside rest → ¬Excludes sections true j := by
    intro j rest hinside hexcludes
    cases j with
    | false => exact absurd hexcludes.2 (by decide)
    | true => cases hinside
  let c₃ := { c₂ with phase := Function.update c₂.phase true (.inside (sections true).code) }
  have hsecond : Run sections c₀ _ c₃ := hhandled.step (.enter rfl hfree)
  let c₄ : CriticalSection.Config UpdateRegisters (SharedState (String → Switch)) Bool :=
    ⟨runCode true (sections true).code c₃.memory, Function.update c₃.phase true (.inside [])⟩
  have hdone : Run sections c₀ _ c₄ := hsecond.moves (by simp [c₃])
  let c₅ := { c₄ with phase := Function.update c₄.phase true .left }
  have hleft : Run sections c₀ _ c₅ := hdone.step (.leave (by simp [c₄]))
  let c₆ : CriticalSection.Config UpdateRegisters (SharedState (String → Switch)) Bool :=
    ⟨runCode false ((sections false).code.drop 4) c₅.memory,
      Function.update c₅.phase false (.inside [])⟩
  have hsaved : Run sections c₀ _ c₆ := hleft.moves (by simp [c₅, c₄, c₃, c₂])
  let c₇ := { c₆ with phase := Function.update c₆.phase false .left }
  have hlast : Run sections c₀ _ c₇ := hsaved.step (.leave (by simp [c₆]))
  have hphase : ∀ i, c₇.phase i = .left := fun i => by cases i <;> rfl
  refine ⟨_, c₇, hlast, rfl, ?_⟩
  exact (updates_linearizable (guardedTable [disableSudoPlugin, disallowedDeviceSudoPlugin,
    unmuteRestriction] .byKey) overlappingCalls (Device.boot switchesOff) indexesInverse_new
    (fun i => by cases i <;> decide) (separated_sudo_unmute.callsApart _) hlast
    fun i _ => hphase i).1

end BasicBoolPlugin

end Edm
