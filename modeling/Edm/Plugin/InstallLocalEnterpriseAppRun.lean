import Edm.Admin.AdminManager
import Edm.Plugin.InstallLocalEnterpriseAppCalls
import Edm.Plugin.ItemPolicy

/-! Runs of the two policies on offline installation in which the calls to the system succeed:
updates and removals by any admins, among the policies of any users. -/

set_option autoImplicit false

namespace Edm.InstallLocalEnterpriseApp

open Library InstallLocalEnterpriseAppPolicyUtils

abbrev State := AccountsState Modules

/-- An operation on the policy of a level, among the policies of a user. -/
structure Op where
  level : Level
  userId : Int
  op : PolicyOp Request Answers

def Op.Succeeds (userIds : List Int) (op : Op) : Prop :=
  match op.op with
  | .update _ _ request => request.answers.Succeed userIds
  | .removeAdmin _ _ answers => answers.Succeed userIds

abbrev Op.target (op : Op) : Option Int := op.level.target op.userId

def step (order : HashOrder) (s : State) (op : Op) : State :=
  accountStep (pluginOf order op.level) s ⟨op.userId, op.op⟩

/-- No policies, no parameter, no constraints and no settings. -/
def boot : State := AccountsState.boot ⟨"", fun _ => ⟨false, false⟩, fun _ _ => ""⟩

section Run

def policyName : Option Int → String
  | none => POLICY_SET_INSTALL_LOCAL_ENTERPRISE_APP_ENABLED
  | some _ => POLICY_INSTALL_LOCAL_ENTERPRISE_APP_ENABLED_FOR_ACCOUNT

variable (s : State)

/-- What an admin stores among a user's policies. -/
def value (target : Option Int) (holder : Int × AdminName) : String :=
  (s.stores holder.1).manager.policyValue holder.2 (policyName target)

/-- Some admin stores a value of a kind for the target. -/
def Held (target : Option Int) (P : String → Prop) : Prop :=
  ∃ holder : Int × AdminName, Covers target holder.1 ∧ P (value s target holder)

/-- Some admin enables offline installation. -/
abbrev Enabled (target : Option Int) : Prop := Held s target (· = CONST_TRUE)

abbrev Stored (target : Option Int) : Prop := Held s target (· ≠ "")

/-- The settings tell what is stored.  They have no control before they are written. -/
structure Tells (text : String) (enabled stored : Prop) : Prop where
  forceEnable : text = policyText POLICY_FORCE_ENABLE ↔ enabled
  forceDisable : text = policyText POLICY_FORCE_DISABLE ↔ stored ∧ ¬enabled
  noControll : text = "" ∨ text = policyText POLICY_NO_CONTROLL ↔ ¬stored

/-- The constraint of an account is the disjunction of the device's value and its own.  Values and
settings follow what the admins store. -/
structure Coherent (userIds : List Int) : Prop where
  constraint : ∀ userId, userId ∈ userIds → (s.modules.accounts userId).constraint =
    (actual s.modules none || actual s.modules (some userId))
  actual : ∀ target, actual s.modules target = true ↔ Enabled s target
  setting : ∀ target, Tells (setting s.modules target) (Enabled s target) (Stored s target)

/-- An admin that disables leaves no other user's admin that enables, unless one of its own user
does.  No admin with a value is removed while another admin stores one. -/
def LeavesNone (op : Op) : Prop :=
  match op.op with
  | .update admin _ request =>
    request.data = true ∨
      (∃ other, other ≠ admin ∧ value s op.target (op.userId, other) = CONST_TRUE) ∨
        ∀ holder, holder.1 ≠ op.userId → Covers op.target holder.1 →
          value s op.target holder ≠ CONST_TRUE
  | .removeAdmin admin _ _ =>
    value s op.target (op.userId, admin) = "" ∨
      ∀ holder, holder ≠ (op.userId, admin) → Covers op.target holder.1 →
        value s op.target holder = ""

def Keeps (op : Op) : Prop := op.op.writes = ⟨.done, .done⟩ ∧ LeavesNone s op

end Run

/-! ### What is stored -/

section Values

variable {s s' : State} {level : Level} {userId : Int} {admin : AdminName} {text : String}

/-- An admin of a user stores another text for the target of a level. -/
def Changed (s s' : State) (level : Level) (userId : Int) (admin : AdminName) (text : String) :
    Prop :=
  ∀ target holder, Covers target holder.1 → value s' target holder =
    if target = level.target userId ∧ holder = (userId, admin) then text else value s target holder

theorem policyNames_ne : POLICY_SET_INSTALL_LOCAL_ENTERPRISE_APP_ENABLED ≠
    POLICY_INSTALL_LOCAL_ENTERPRISE_APP_ENABLED_FOR_ACCOUNT := by decide

theorem covers_target (level : Level) (userId : Int) : Covers (level.target userId) userId := by
  cases level with
  | device => trivial
  | account => exact rfl

theorem pluginOf_policyName (order : HashOrder) (level : Level) (userId : Int) :
    (pluginOf order level userId).policyName = policyName (level.target userId) := by
  cases level <;> rfl

/-- The policies of a user are of one target of a level. -/
theorem policyName_eq_iff {target : Option Int} (hcovers : Covers target userId) :
    policyName target = policyName (level.target userId) ↔ target = level.target userId := by
  refine ⟨fun h => ?_, congrArg policyName⟩
  cases target with
  | none =>
    cases level with
    | device => rfl
    | account => exact absurd h policyNames_ne
  | some account =>
    obtain rfl : userId = account := hcovers
    cases level with
    | device => exact absurd h policyNames_ne.symm
    | account => rfl

theorem Changed.held_other (h : Changed s s' level userId admin text) {target : Option Int}
    (hne : target ≠ level.target userId) (P : String → Prop) :
    Held s' target P ↔ Held s target P := by
  refine exists_congr fun holder => and_congr_right fun hcovers => ?_
  rw [h target holder hcovers, if_neg fun heq => hne heq.1]

theorem Changed.held_self (h : Changed s s' level userId admin text) (P : String → Prop) :
    Held s' (level.target userId) P ↔
      P text ∨ ∃ holder, holder ≠ (userId, admin) ∧ Covers (level.target userId) holder.1 ∧
        P (value s (level.target userId) holder) := by
  constructor
  · rintro ⟨holder, hcovers, hP⟩
    rw [h _ holder hcovers] at hP
    by_cases hself : holder = (userId, admin)
    · rw [if_pos ⟨rfl, hself⟩] at hP
      exact .inl hP
    · rw [if_neg fun heq => hself heq.2] at hP
      exact .inr ⟨holder, hself, hcovers, hP⟩
  · rintro (hP | ⟨holder, hself, hcovers, hP⟩)
    · refine ⟨(userId, admin), covers_target level userId, ?_⟩
      rwa [h _ _ (covers_target level userId), if_pos ⟨rfl, rfl⟩]
    · refine ⟨holder, hcovers, ?_⟩
      rwa [h _ holder hcovers, if_neg fun heq => hself heq.2]

/-- What the stores keep beside their values. -/
def Good (s : State) : Prop := ∀ userId, GoodStore (s.stores userId)

end Values

section Step

variable {s : State} {userIds : List Int} {op : Op}

theorem policyName_ne : ∀ target : Option Int, policyName target ≠ ""
  | none => by decide
  | some _ => by
    show POLICY_INSTALL_LOCAL_ENTERPRISE_APP_ENABLED_FOR_ACCOUNT ≠ ""
    decide

/-- The states after operations of a level whose store saves a text. -/
theorem changed_saved (order : HashOrder) {text merged : String}
    (hstore : s.stores op.userId = ((step order s op).account op.userId).store ∧
        value s op.target (op.userId, op.op.admin) = text ∨
      Saved (s.stores op.userId) ((step order s op).account op.userId).store op.op.admin
        (policyName op.target) text merged) :
    Changed s (step order s op) op.level op.userId op.op.admin text := by
  have hstep : accountStep (pluginOf order op.level) s ⟨op.userId, op.op⟩ = step order s op := rfl
  rintro target ⟨holderUser, holder⟩ hcovers
  by_cases huser : holderUser = op.userId
  · subst huser
    show ((step order s op).account op.userId).store.manager.policyValue _ _ = _
    rcases hstore with ⟨hsame, hvalue⟩ | hsaved
    · rw [← hsame]
      split
      · rename_i heq
        obtain ⟨rfl, hholder⟩ := heq
        obtain rfl : holder = op.op.admin := congrArg Prod.snd hholder
        exact hvalue
      · rfl
    · by_cases hself : target = op.target ∧ holder = op.op.admin
      · obtain ⟨rfl, rfl⟩ := hself
        rw [if_pos ⟨rfl, rfl⟩]
        exact hsaved.value_self op.op.admin.2
      · rw [if_neg fun heq => hself ⟨heq.1, congrArg Prod.snd heq.2⟩]
        refine hsaved.value_other holder.2 fun heq => hself ⟨?_, Subtype.ext heq.1⟩
        exact (policyName_eq_iff hcovers).mp heq.2
  · rw [if_neg fun heq => huser (congrArg Prod.fst heq.2)]
    show ((step order s op).stores holderUser).manager.policyValue _ _ = _
    rw [stores_accountStep hstep huser]
    rfl

/-- What an operation does: a text for its admin, and modules that follow it or stay. -/
structure Outcome (userIds : List Int) (s s' : State) (op : Op) (text : String) (on : Bool)
    (policyValue : Int32) : Prop where
  good : Good s'
  changed : Changed s s' op.level op.userId op.op.admin text
  follows : Follows userIds s.modules s'.modules op.target on policyValue

/-- The properties of a state after an operation, from those that speak of its target. -/
theorem Outcome.coherent_iff {s' : State} {text : String} {on : Bool} {policyValue : Int32}
    (h : Outcome userIds s s' op text on policyValue) (hcoherent : Coherent s userIds) :
    Coherent s' userIds ↔ (on = true ↔ Enabled s' op.target) ∧
      Tells (policyText policyValue) (Enabled s' op.target) (InstallLocalEnterpriseApp.Stored s'
        op.target) := by
  have hself : actual s'.modules op.target = on := by
    rw [h.follows.actual, Function.update_self]
  have hsetting : setting s'.modules op.target = policyText policyValue := by
    rw [h.follows.setting, Function.update_self]
  constructor
  · intro hcoherent'
    rw [← hself, ← hsetting]
    exact ⟨hcoherent'.actual op.target, hcoherent'.setting op.target⟩
  · rintro ⟨hactual, htells⟩
    refine ⟨fun userId hid => ?_, fun target => ?_, fun target => ?_⟩
    · by_cases hcovers : Covers op.target userId
      · exact h.follows.constraint userId hid hcovers
      · -- The operation is for another account.
        have hdevice : none ≠ op.target := fun heq => hcovers (heq ▸ trivial)
        have haccount : some userId ≠ op.target := fun heq => hcovers (heq ▸ rfl)
        rw [h.follows.other userId hcovers, h.follows.actual, Function.update_of_ne hdevice,
          Function.update_of_ne haccount]
        exact hcoherent.constraint userId hid
    · by_cases htarget : target = op.target
      · rw [htarget, hself]
        exact hactual
      · have henabled : Enabled s' target ↔ Enabled s target := h.changed.held_other htarget _
        rw [h.follows.actual, Function.update_of_ne htarget, henabled]
        exact hcoherent.actual target
    · by_cases htarget : target = op.target
      · rw [htarget, hsetting]
        exact htells
      · have henabled : Enabled s' target ↔ Enabled s target := h.changed.held_other htarget _
        have hstored : InstallLocalEnterpriseApp.Stored s' target ↔
            InstallLocalEnterpriseApp.Stored s target := h.changed.held_other htarget _
        rw [h.follows.setting, Function.update_of_ne htarget, henabled, hstored]
        exact hcoherent.setting target

theorem tells_enable {enabled stored : Prop} (henabled : enabled) (hstored : stored) :
    Tells (policyText POLICY_FORCE_ENABLE) enabled stored where
  forceEnable := iff_of_true rfl henabled
  forceDisable := iff_of_false (by decide) fun h => h.2 henabled
  noControll := iff_of_false (by decide) fun h => h hstored

theorem tells_disable {enabled stored : Prop} (hstored : stored) :
    Tells (policyText POLICY_FORCE_DISABLE) enabled stored ↔ ¬enabled := by
  constructor
  · intro h
    exact (h.forceDisable.mp rfl).2
  · intro henabled
    exact {
      forceEnable := iff_of_false (by decide) henabled
      forceDisable := iff_of_true rfl ⟨hstored, henabled⟩
      noControll := iff_of_false (by decide) fun h => h hstored }

theorem tells_noControll {enabled stored : Prop} (himp : enabled → stored) :
    Tells (policyText POLICY_NO_CONTROLL) enabled stored ↔ ¬stored := by
  constructor
  · intro h
    exact h.noControll.mp (.inr rfl)
  · intro hstored
    exact {
      forceEnable := iff_of_false (by decide) fun h => hstored (himp h)
      forceDisable := iff_of_false (by decide) fun h => hstored h.1
      noControll := iff_of_true (.inr rfl) hstored }

/-- Values are empty, or texts of truth values. -/
theorem enabled_stored {s : State} {target : Option Int} (h : Enabled s target) :
    InstallLocalEnterpriseApp.Stored s target := by
  obtain ⟨holder, hcovers, hvalue⟩ := h
  refine ⟨holder, hcovers, ?_⟩
  show value s target holder ≠ ""
  rw [hvalue]
  decide

theorem boolText_ne (b : Bool) : boolText b ≠ "" := by
  revert b
  decide

theorem boolText_eq_true {b : Bool} : boolText b = CONST_TRUE ↔ b = true := by
  revert b
  decide

theorem pluginOf_needSave (order : HashOrder) (level : Level) (userId : Int) :
    (pluginOf order level userId).needSave = true := by
  cases level <;> rfl

/-- The others' merged value tells whether one of them enables. -/
theorem othersMerge_eq_true (order : HashOrder) (hgood : Good s) (level : Level) (userId : Int)
    (admin : AdminName) :
    ((pluginOf order level userId).getOthersMergePolicyData (s.stores userId).manager admin ==
        CONST_TRUE) = true ↔
      ∃ other, other ≠ admin ∧ value s (level.target userId) (userId, other) = CONST_TRUE := by
  rw [beq_iff_eq]
  cases level with
  | device => exact BasicBoolPlugin.getOthersMergePolicyData_eq_true order (hgood userId) admin
  | account => exact BasicBoolPlugin.getOthersMergePolicyData_eq_true order (hgood userId) admin

/-- The stores of the other users stay. -/
theorem good_step (order : HashOrder) (hgood : Good s)
    (hself : GoodStore ((step order s op).account op.userId).store) : Good (step order s op) := by
  have hstep : accountStep (pluginOf order op.level) s ⟨op.userId, op.op⟩ = step order s op := rfl
  exact fun userId => accountStep_stores (P := GoodStore) hgood hstep hself userId

/-- What an update makes: a text for the admin, and modules that follow it unless another admin
enables. -/
theorem update_outcome (order : HashOrder) {level : Level} {userId : Int} {admin : AdminName}
    (request : Request) (hgood : Good s) (hsucceed : request.answers.Succeed userIds)
    (hop : op = ⟨level, userId, .update admin ⟨.done, .done⟩ request⟩) :
    Good (step order s op) ∧
      Changed s (step order s op) level userId admin (boolText request.data) ∧
      ((∃ other, other ≠ admin ∧ value s (level.target userId) (userId, other) = CONST_TRUE) →
        (step order s op).modules = s.modules) ∧
      ((¬∃ other, other ≠ admin ∧ value s (level.target userId) (userId, other) = CONST_TRUE) →
        Follows userIds s.modules (step order s op).modules (level.target userId) request.data
          (policyOf request.data)) := by
  have hname := pluginOf_policyName order level userId
  have hplugin : (pluginOf order level userId).policyName ≠ "" :=
    hname.trans_ne (policyName_ne _)
  have hothers := othersMerge_eq_true order hgood level userId admin
  obtain ⟨modules', merged, hcall, hmerged, halone⟩ : ∃ modules' merged,
      (pluginOf order level userId).onHandlePolicy (s.account userId).store.manager
        (s.account userId).modules request
        (PluginManager.handlePolicyData (pluginOf order level userId) (s.account userId) admin) =
          (ERR_OK, modules', ⟨boolText request.data, merged,
            (s.account userId).store.manager.policyValue admin
              (pluginOf order level userId).policyName != boolText request.data⟩) ∧ _ ∧ _ :=
    onHandlePolicy_spec hsucceed order level userId _ _ _
  obtain ⟨hmodules, hstore⟩ := policyStep_update_ok (pluginOf order level userId) admin
    (s := s.account userId) (hgood userId) hplugin (pluginOf_needSave order level userId) hcall
      bne_iff_ne
  have haccount : (step order s op).account userId =
      policyStep (pluginOf order level userId) (s.account userId)
        (.update admin ⟨.done, .done⟩ request) := by
    rw [hop]
    exact account_accountStep rfl
  have hafter : (step order s op).modules = modules' := by
    rw [← hmodules, ← haccount]
    rfl
  rw [← haccount, hname] at hstore
  have hstored : s.stores userId = ((step order s op).account userId).store ∧
        value s (level.target userId) (userId, admin) = boolText request.data ∨
      Saved (s.stores userId) ((step order s op).account userId).store admin
        (policyName (level.target userId)) (boolText request.data) merged := by
    rcases hstore with ⟨hvalue, hsame⟩ | ⟨-, hsaved⟩
    · exact .inl ⟨hsame.symm, hvalue⟩
    · exact .inr hsaved
  have hchanged : Changed s (step order s op) level userId admin (boolText request.data) := by
    subst hop
    exact changed_saved order hstored
  have hstores : Good (step order s op) := by
    subst hop
    refine good_step order hgood ?_
    rcases hstored with ⟨hsame, -⟩ | hsaved
    · exact hsame ▸ hgood userId
    · exact (hgood userId).saved admin.2 hsaved
  refine ⟨hstores, hchanged, fun hother => ?_, fun hnone => ?_⟩
  · exact hafter.trans (hmerged (hothers.mpr hother))
  · rw [hafter]
    exact halone (Bool.eq_false_iff.mpr fun htrue => hnone (hothers.mp htrue))

/-- What a removal makes: nothing for an admin without a value. -/
theorem removeAdmin_outcome (order : HashOrder) {level : Level} {userId : Int} {admin : AdminName}
    {answers : Answers} (hgood : Good s) (hsucceed : answers.Succeed userIds)
    (hop : op = ⟨level, userId, .removeAdmin admin ⟨.done, .done⟩ answers⟩) :
    value s (level.target userId) (userId, admin) = "" ∧ step order s op = s ∨
      value s (level.target userId) (userId, admin) ≠ "" ∧ ∃ on,
        Outcome userIds s (step order s op) op "" on POLICY_NO_CONTROLL ∧
          (on = true → actual s.modules (level.target userId) = true ∧
            ¬(value s (level.target userId) (userId, admin) = CONST_TRUE ∧
              ¬∃ other, other ≠ admin ∧
                value s (level.target userId) (userId, other) = CONST_TRUE)) := by
  have hname := pluginOf_policyName order level userId
  have hplugin : (pluginOf order level userId).policyName ≠ "" :=
    hname.trans_ne (policyName_ne _)
  have hothers := othersMerge_eq_true order hgood level userId admin
  have haccount : (step order s op).account userId =
      policyStep (pluginOf order level userId) (s.account userId)
        (.removeAdmin admin ⟨.done, .done⟩ answers) := by
    rw [hop]
    exact account_accountStep rfl
  rcases policyStep_removeAdmin_cases (pluginOf order level userId) admin (s := s.account userId)
    (hgood userId) hplugin (pluginOf_needSave order level userId) answers with
    ⟨hvalue, hstep⟩ | ⟨hvalue, hmodules, hsaved⟩
  · rw [hname] at hvalue
    refine .inl ⟨hvalue, ?_⟩
    rw [hop]
    show AccountsState.mk (Function.update s.stores userId (policyStep _ _ _).store)
      (policyStep _ _ _).modules (policyStep _ _ _).subscribed = s
    rw [hstep]
    show AccountsState.mk (Function.update s.stores userId (s.stores userId)) _ _ = s
    rw [Function.update_eq_self]
    rfl
  · rw [← haccount, hname] at hsaved
    rw [← haccount, hname] at hmodules
    rw [hname] at hvalue
    have hfollows := onAdminRemove_spec hsucceed order level userId s.modules
      (value s (level.target userId) (userId, admin))
      ((pluginOf order level userId).getOthersMergePolicyData (s.stores userId).manager admin)
    obtain ⟨on, heq⟩ : ∃ on : Bool, (if (!((pluginOf order level userId).getOthersMergePolicyData
        (s.stores userId).manager admin == CONST_TRUE) &&
          (value s (level.target userId) (userId, admin) == CONST_TRUE)) = true then false
        else actual s.modules (level.target userId)) = on := ⟨_, rfl⟩
    rw [heq] at hfollows
    refine .inr ⟨hvalue, on, ⟨?_, ?_, ?_⟩, ?_⟩
    · subst hop
      exact good_step order hgood ((hgood userId).saved admin.2 hsaved)
    · subst hop
      exact changed_saved order (.inr hsaved)
    · have hafter : (step order s op).modules = ((pluginOf order level userId).onAdminRemove
          s.modules answers (value s (level.target userId) (userId, admin))
          ((pluginOf order level userId).getOthersMergePolicyData (s.stores userId).manager
            admin)).2 := hmodules
      have htarget : op.target = level.target userId := by rw [hop]
      rw [hafter, htarget]
      exact hfollows
    · intro hon
      by_cases hlast : (!((pluginOf order level userId).getOthersMergePolicyData
          (s.stores userId).manager admin == CONST_TRUE) &&
            (value s (level.target userId) (userId, admin) == CONST_TRUE)) = true
      · rw [if_pos hlast] at heq
        exact absurd (heq.trans hon) Bool.false_ne_true
      · rw [if_neg hlast] at heq
        rw [← heq] at hon
        refine ⟨hon, fun ⟨htrue, hnone⟩ => hlast ?_⟩
        rw [Bool.and_eq_true, beq_iff_eq, Bool.not_eq_true']
        exact ⟨Bool.eq_false_iff.mpr fun h => hnone (hothers.mp h), htrue⟩

end Step

/-! ### Runs -/

section Runs

variable {s : State} {userIds : List Int} {op : Op}

/-- While another admin of the user enables, an update changes neither modules nor properties. -/
theorem coherent_covered {s' : State} {level : Level} {userId : Int} {admin : AdminName}
    {data : Bool} (hcoherent : Coherent s userIds)
    (hchanged : Changed s s' level userId admin (boolText data)) (hmodules : s'.modules = s.modules)
    (hother : ∃ other, other ≠ admin ∧
      value s (level.target userId) (userId, other) = CONST_TRUE) : Coherent s' userIds := by
  obtain ⟨other, hne, hvalue⟩ := hother
  have hholder : (userId, other) ≠ (userId, admin) := fun heq => hne (congrArg Prod.snd heq)
  have hheld : ∀ (P : String → Prop) target, P CONST_TRUE →
      (Held s' target P ↔ Held s target P) := by
    intro P target hP
    by_cases htarget : target = level.target userId
    · rw [htarget]
      have hcovers := covers_target level userId
      have hsame : P (value s (level.target userId) (userId, other)) := by
        rw [hvalue]
        exact hP
      exact iff_of_true ((hchanged.held_self P).mpr (.inr ⟨_, hholder, hcovers, hsame⟩))
        ⟨_, hcovers, hsame⟩
    · exact hchanged.held_other htarget P
  refine ⟨fun id hid => ?_, fun target => ?_, fun target => ?_⟩
  · rw [hmodules]
    exact hcoherent.constraint id hid
  · have henabled : Enabled s' target ↔ Enabled s target := hheld _ target rfl
    rw [hmodules, henabled]
    exact hcoherent.actual target
  · have henabled : Enabled s' target ↔ Enabled s target := hheld _ target rfl
    have hstored : InstallLocalEnterpriseApp.Stored s' target ↔
        InstallLocalEnterpriseApp.Stored s target := hheld _ target (by decide)
    rw [hmodules, henabled, hstored]
    exact hcoherent.setting target

/-- An operation whose writes take effect keeps the properties exactly when it leaves none. -/
theorem coherent_step_iff (order : HashOrder) (hgood : Good s) (hcoherent : Coherent s userIds)
    (hsucceed : op.Succeeds userIds) (hwrites : op.op.writes = ⟨.done, .done⟩) :
    Good (step order s op) ∧ (Coherent (step order s op) userIds ↔ LeavesNone s op) := by
  obtain ⟨level, userId, policyOp⟩ := op
  cases policyOp with
  | update admin writes request =>
    obtain rfl : writes = ⟨.done, .done⟩ := hwrites
    obtain ⟨hgood', hchanged, hstays, hfollows⟩ := update_outcome order request hgood hsucceed rfl
    refine ⟨hgood', ?_⟩
    by_cases hother : ∃ other, other ≠ admin ∧
        value s (level.target userId) (userId, other) = CONST_TRUE
    · exact iff_of_true (coherent_covered hcoherent hchanged (hstays hother) hother)
        (.inr (.inl hother))
    · have houtcome : Outcome userIds s _ ⟨level, userId, .update admin ⟨.done, .done⟩ request⟩
          (boolText request.data) request.data (policyOf request.data) :=
        ⟨hgood', hchanged, hfollows hother⟩
      have henabled : Enabled _ (level.target userId) ↔ _ := hchanged.held_self (· = CONST_TRUE)
      have hstored : InstallLocalEnterpriseApp.Stored _ (level.target userId) :=
        (hchanged.held_self (· ≠ "")).mpr (.inl (boolText_ne request.data))
      rw [houtcome.coherent_iff hcoherent]
      cases hdata : request.data with
      | true =>
        have hon := henabled.mpr (.inl (boolText_eq_true.mpr hdata))
        exact iff_of_true ⟨iff_of_true rfl hon, tells_enable hon hstored⟩ (.inl hdata)
      | false =>
        have hoff : Enabled (step order s ⟨level, userId, .update admin ⟨.done, .done⟩ request⟩)
            (level.target userId) ↔ ∃ holder, holder.1 ≠ userId ∧
              Covers (level.target userId) holder.1 ∧
                value s (level.target userId) holder = CONST_TRUE := by
          rw [henabled, hdata]
          constructor
          · rintro (htext | ⟨⟨holderUser, holder⟩, hne, hcovers, hvalue⟩)
            · exact absurd (boolText_eq_true.mp htext) Bool.false_ne_true
            · refine ⟨_, fun huser => ?_, hcovers, hvalue⟩
              obtain rfl : holderUser = userId := huser
              exact hother ⟨holder, fun heq => hne (heq ▸ rfl), hvalue⟩
          · rintro ⟨holder, huser, hcovers, hvalue⟩
            exact .inr ⟨holder, fun heq => huser (congrArg Prod.fst heq), hcovers, hvalue⟩
        show (false = true ↔ Enabled _ (level.target userId)) ∧ Tells (policyText
          POLICY_FORCE_DISABLE) (Enabled _ (level.target userId)) _ ↔ _
        rw [tells_disable hstored, hoff]
        constructor
        · rintro ⟨-, hnone⟩
          exact .inr (.inr fun holder huser hcovers hvalue =>
            hnone ⟨holder, huser, hcovers, hvalue⟩)
        · rintro (htrue | hothers | hnone)
          · exact absurd (hdata.symm.trans htrue) Bool.false_ne_true
          · exact absurd hothers hother
          · have hnot : ¬∃ holder, holder.1 ≠ userId ∧ Covers (level.target userId) holder.1 ∧
                value s (level.target userId) holder = CONST_TRUE :=
              fun ⟨holder, huser, hcovers, hvalue⟩ => hnone holder huser hcovers hvalue
            exact ⟨iff_of_false Bool.false_ne_true hnot, hnot⟩
  | removeAdmin admin writes answers =>
    obtain rfl : writes = ⟨.done, .done⟩ := hwrites
    rcases removeAdmin_outcome order hgood hsucceed rfl with ⟨hvalue, hsame⟩ |
      ⟨hvalue, on, houtcome, hon⟩
    · rw [hsame]
      exact ⟨hgood, iff_of_true hcoherent (.inl hvalue)⟩
    · refine ⟨houtcome.good, ?_⟩
      have hstored : InstallLocalEnterpriseApp.Stored (step order s
          ⟨level, userId, .removeAdmin admin ⟨.done, .done⟩ answers⟩) (level.target userId) ↔ _ :=
        houtcome.changed.held_self (· ≠ "")
      rw [houtcome.coherent_iff hcoherent, tells_noControll enabled_stored]
      constructor
      · rintro ⟨-, hnone⟩
        refine .inr fun holder hne hcovers => ?_
        by_contra hheld
        exact hnone (hstored.mpr (.inr ⟨holder, hne, hcovers, hheld⟩))
      · rintro (hempty | hothers)
        · exact absurd hempty hvalue
        · have hnone : ¬InstallLocalEnterpriseApp.Stored (step order s
              ⟨level, userId, .removeAdmin admin ⟨.done, .done⟩ answers⟩)
                (level.target userId) := by
            rw [hstored]
            rintro (hne | ⟨holder, hne, hcovers, hheld⟩)
            · exact hne rfl
            · exact hheld (hothers holder hne hcovers)
          refine ⟨iff_of_false (fun htrue => ?_) fun henabled => hnone (enabled_stored henabled),
            hnone⟩
          -- The value was enabled by the removed admin only, and went with it.
          have hempty : ("" : String) ≠ CONST_TRUE := by decide
          obtain ⟨hactual, hlast⟩ := hon htrue
          obtain ⟨holder, hcovers, htext⟩ := (hcoherent.actual _).mp hactual
          have htext : value s (level.target userId) holder = CONST_TRUE := htext
          by_cases hself : holder = (userId, admin)
          · rw [hself] at htext
            refine hlast ⟨htext, fun ⟨other, hne, hother⟩ => ?_⟩
            rw [hothers (userId, other) (fun heq => hne (congrArg Prod.snd heq))
              (covers_target level userId)] at hother
            exact hempty hother
          · rw [hothers holder hself hcovers] at htext
            exact hempty htext

theorem good_boot : Good boot := fun userId => goodStore_new userId

theorem not_held_boot {target : Option Int} {P : String → Prop} (hP : ¬P "") :
    ¬Held boot target P := by
  rintro ⟨holder, -, hvalue⟩
  refine hP ?_
  have hnone : value boot target holder = "" := policyValue_new holder.1 holder.2 _
  rwa [hnone] at hvalue

theorem coherent_boot : Coherent boot userIds := by
  have hempty : ("" : String) ≠ CONST_TRUE := by decide
  have henabled : ∀ target, ¬Enabled boot target := fun _ => not_held_boot hempty
  have hstored : ∀ target, ¬InstallLocalEnterpriseApp.Stored boot target := fun _ =>
    not_held_boot (not_not.mpr rfl)
  refine ⟨fun _ _ => rfl, fun target => iff_of_false ?_ (henabled target), fun target => ?_⟩
  · cases target with
    | none =>
      show ¬getDeviceActualPolicyValue ⟨"", fun _ => ⟨false, false⟩, fun _ _ => ""⟩ = true
      decide
    | some userId => exact Bool.false_ne_true
  · have hsetting : setting boot.modules target = "" := by
      cases target with
      | none => rfl
      | some userId => rfl
    rw [hsetting]
    exact {
      forceEnable := iff_of_false (by decide) (henabled target)
      forceDisable := iff_of_false (by decide) fun h => hstored target h.1
      noControll := iff_of_true (.inl rfl) (hstored target) }

/-- In runs whose calls succeed the properties hold while operations keep them, and, as long as
writes take effect, in no others. -/
theorem always_levelsAgree (order : HashOrder) (userIds : List Int) (ops : List Op)
    (hsucceed : ∀ op, op ∈ ops → op.Succeeds userIds) :
    (Each (step order) Keeps boot ops → Always (step order) (Coherent · userIds) boot ops) ∧
      ((∀ op, op ∈ ops → op.op.writes = ⟨.done, .done⟩) →
        (Always (step order) (Coherent · userIds) boot ops ↔
          Each (step order) LeavesNone boot ops)) := by
  constructor
  · intro hkeeps
    have hstep : ∀ s op, Good s ∧ Coherent s userIds → Keeps s op ∧ op.Succeeds userIds →
        Good (step order s op) ∧ Coherent (step order s op) userIds := by
      rintro s op ⟨hgood, hcoherent⟩ ⟨⟨hwrites, hleaves⟩, hop⟩
      obtain ⟨hgood', hiff⟩ := coherent_step_iff order hgood hcoherent hop hwrites
      exact ⟨hgood', hiff.mpr hleaves⟩
    exact (always_of_each hstep ⟨good_boot, coherent_boot⟩ (hkeeps.and_all hsucceed)).mono
      fun _ h => h.2
  · intro hwrites
    have hboth : ∀ op, op ∈ ops → op.Succeeds userIds ∧ op.op.writes = ⟨.done, .done⟩ :=
      fun op hop => ⟨hsucceed op hop, hwrites op hop⟩
    refine always_iff_each_of (I := Good) (P := (Coherent · userIds)) (C := LeavesNone)
      (fun s op hop hgood hcoherent _ => ?_) (fun s op hop hgood hcoherent => ?_) good_boot
      coherent_boot ops hboth
    · exact (coherent_step_iff order hgood hcoherent hop.1 hop.2).1
    · exact (coherent_step_iff order hgood hcoherent hop.1 hop.2).2

/-- Calls that succeed, of a service that reports what was set. -/
def Answers.succeeding (userIds : List Int) : Answers where
  setParameter := true
  setPersistParam := true
  getOsAccountLocalIds := (ERR_OK, userIds)
  isOsAccountConstraintEnable _ account := (ERR_OK, account.constraint || account.deviceOwner)
  queryOsAccountConstraintSourceTypes _ account :=
    (ERR_OK, (if account.constraint then [.base] else []) ++
      if account.deviceOwner then [.deviceOwner] else [])
  setOsAccountConstraints _ := ERR_OK
  setSpecificOsAccountConstraints := ERR_OK
  updateSettingsData := ERR_OK

theorem succeed_succeeding (userIds : List Int) :
    (Answers.succeeding userIds).Succeed userIds where
  setParameter := rfl
  setPersistParam := rfl
  localIds := rfl
  isConstraintEnable _ _ := rfl
  querySourceTypes _ _ := rfl
  deviceOwner_iff _ account := by
    obtain ⟨constraint, deviceOwner⟩ := account
    show (constraint || deviceOwner) = true ∧ ConstraintSourceType.deviceOwner ∈
      (if constraint = true then [.base] else []) ++
        (if deviceOwner = true then [.deviceOwner] else []) ↔ deviceOwner = true
    revert constraint deviceOwner
    decide
  setConstraints _ := rfl
  setSpecificConstraints := rfl
  updateSettings := rfl

/-- A request on a level, among the policies of the default user, of a device with one account. -/
def setLevel (level : Level) (admin : AdminName) (data : Bool) : Op :=
  ⟨level, DEFAULT_USER_ID, .update admin ⟨.done, .done⟩ ⟨data, .succeeding [DEFAULT_USER_ID]⟩⟩

def removeLevel (level : Level) (admin : AdminName) : Op :=
  ⟨level, DEFAULT_USER_ID, .removeAdmin admin ⟨.done, .done⟩ (.succeeding [DEFAULT_USER_ID])⟩

/-- Admins of both levels, and the removal of the one of the device. -/
theorem always_levelsAgree_removed :
    Always (step .evaluated) (Coherent · [DEFAULT_USER_ID]) boot
      [setLevel .device firstAdmin true, setLevel .account secondAdmin true,
        removeLevel .device firstAdmin] := by
  have hsucceed : ∀ op, op ∈ [setLevel .device firstAdmin true, setLevel .account secondAdmin true,
      removeLevel .device firstAdmin] → op.Succeeds [DEFAULT_USER_ID] := by
    intro op hop
    simp only [List.mem_cons, List.not_mem_nil, or_false] at hop
    rcases hop with rfl | rfl | rfl <;> exact succeed_succeeding _
  refine (always_levelsAgree .evaluated _ _ hsucceed).1
    ⟨⟨rfl, .inl rfl⟩, ⟨rfl, .inl rfl⟩, ⟨rfl, .inr fun holder hne _ => ?_⟩, trivial⟩
  have hsucceeds := succeed_succeeding [DEFAULT_USER_ID]
  obtain ⟨hfirst, hdevice, -⟩ : Good (step .evaluated boot
      (setLevel .device firstAdmin true)) ∧ _ :=
    update_outcome .evaluated ⟨true, .succeeding [DEFAULT_USER_ID]⟩ good_boot hsucceeds rfl
  obtain ⟨-, haccount, -⟩ : Good (step .evaluated (step .evaluated boot
      (setLevel .device firstAdmin true)) (setLevel .account secondAdmin true)) ∧ _ :=
    update_outcome .evaluated ⟨true, .succeeding [DEFAULT_USER_ID]⟩ hfirst hsucceeds rfl
  have hnone : (none : Option Int) ≠ Level.account.target DEFAULT_USER_ID := nofun
  show value (step _ _ _) none holder = ""
  rw [haccount none holder trivial, if_neg fun heq => hnone heq.1, hdevice none holder trivial,
    if_neg fun heq => hne heq.2]
  exact policyValue_new holder.1 holder.2 _

/-- Two admins enable offline installation on the device, and one is removed. -/
theorem removed_admin_takes_control :
    ¬∀ ops : List Op, (∀ op, op ∈ ops → op.Succeeds [DEFAULT_USER_ID] ∧
        op.op.writes = ⟨.done, .done⟩ ∧ op.userId = DEFAULT_USER_ID) →
      Always (step .evaluated) (Coherent · [DEFAULT_USER_ID]) boot ops := by
  intro h
  have hlast := (h [setLevel .device firstAdmin true, setLevel .device secondAdmin true,
    removeLevel .device secondAdmin] ?_).last
  · refine (hlast.setting none).noControll.mp (.inr ?_) ⟨(DEFAULT_USER_ID, firstAdmin), trivial, ?_⟩
    · decide +kernel
    · show value _ none (DEFAULT_USER_ID, firstAdmin) ≠ ""
      decide +kernel
  · intro op hop
    simp only [List.mem_cons, List.not_mem_nil, or_false] at hop
    rcases hop with rfl | rfl | rfl <;> exact ⟨succeed_succeeding _, rfl, rfl⟩

end Runs

end Edm.InstallLocalEnterpriseApp
