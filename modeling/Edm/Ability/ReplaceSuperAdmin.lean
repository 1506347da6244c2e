import Edm.Ability.ChildAdmins
import Edm.Ability.ContainerRun
import Edm.Ability.KeepPolicy
import Edm.Admin.Reload

/-! `ReplaceSuperAdmin` as a whole: when a success leaves the new super admin in the place of the
old one, and an error everything as it was.  The result of `HandleKeepPolicy` is not looked at, and
a removal that is under way is not taken back. -/

set_option autoImplicit false

namespace Edm

open Library Library.UnorderedMap EnterpriseDeviceMgrAbility

namespace Service

variable {Modules : Type} (s s' : Service Modules) (oldName newName : String)

/-- The value of a policy of the old admin is the new admin's.  In that of the apps that may not be
uninstalled, the new name may stand for the old one. -/
def CarriedOver (u : Int) (policyName policyValue : String) : Prop :=
  lookup₂ (s'.device.policies.manager u).adminPolicies newName policyName = some policyValue ∨
    policyName = PolicyName.POLICY_DISALLOWED_UNINSTALL_BUNDLES ∧ ∃ replaced,
      replaceName oldName newName ((s.device.policies.manager u).policyValue oldName policyName) =
        some replaced ∧
      lookup₂ (s'.device.policies.manager u).adminPolicies newName policyName = some replaced

/-- The new admin is the super admin, the old one is gone for all users, its policies are carried
over or removed, and so are its children. -/
structure Replaced (keepPolicy : Bool) : Prop where
  super : s'.container.IsSuper newName
  gone : ∀ u item, item ∈ s'.container.adminsOf u → item.packageName ≠ oldName
  released : ∀ u p, ¬s'.Holds u oldName p
  carried : keepPolicy = true → ∀ u p v,
    lookup₂ (s.device.policies.manager u).adminPolicies oldName p = some v →
    s.CarriedOver s' oldName newName u p v
  childless : ∀ u item, item ∈ s'.container.adminsOf u →
    AdminContainer.isChildOf oldName item = false
  children : ∀ u item, item ∈ s.container.adminsOf u →
    AdminContainer.isChildOf oldName item = true →
    if keepPolicy then ∃ child, child ∈ s'.container.adminsOf u ∧
      child.packageName = item.packageName ∧ AdminContainer.isChildOf newName child = true
    else ∀ other, other ∈ s'.container.adminsOf u → other.packageName ≠ item.packageName

/-- A result of `ReplaceSuperAdmin` that is all or nothing. -/
def AllOrNothing (keepPolicy : Bool) (r : ErrCode × Service Modules) : Prop :=
  (r.1 = ERR_OK → s.Replaced r.2 oldName newName keepPolicy) ∧
    (r.1 ≠ ERR_OK → s.Unchanged r.2)

end Service

/-! ### The table of the admins -/

namespace AdminManager

variable {C : CJson} {s : AdminState} {write : RdbOutcome} {parents : Option Nat}
  {packageName : String} {newAdminInfo : AdminInfo}

end AdminManager

/-! ### An admin that is replaced -/

section

variable {packageName : String} {newAdminInfo item : AdminInfo} {u : Int}

end

/-! ### Keeping the policies -/

namespace Stores

variable (stores : Stores) (u : Int) (store store' : UserStore)

theorem setUser_setUser : (stores.setUser u store).setUser u store' = stores.setUser u store' := by
  unfold setUser
  rw [Function.update_idem]

end Stores

section

variable {Modules Req Reply Event : Type} {build : Build Modules Req Reply Event}
  {s : Service Modules} {keep : KeepOutcomes} {oldName newName : String}
  {edmAdminInfo oldAdminInfo : AdminInfo}

variable {oldItem : AdminInfo} (hmem : oldItem ∈ s.container.adminsOf DEFAULT_USER_ID)
  (hent : oldItem.adminType = .ent) (hname : oldItem.packageName = oldName)

include hmem hname

include hent

end

/-! ### Removing the policies -/

section

variable {Modules Req Reply Event : Type} {build : Build Modules Req Reply Event}
  {call : ServiceCall Reply} {s : Service Modules} {oldName newName : String}
  {adminInfo : AdminInfo}

section

variable (h : s.container.population.Orderly MAX_SDA_AND_DA_COUNT) (hs : s.Sound)
  (hok : (removeSuperAdminAndAdminPolicy build call.outcomes s oldName).1 = ERR_OK)
  (hnew : adminInfo.packageName = newName) (hent : adminInfo.adminType = .ent)
  (hwrite : call.write = .done)
  (habsent : newName = oldName ∨ ∀ admin, admin ∈ s.container.population DEFAULT_USER_ID →
    admin.packageName ≠ newName)

include h hok hnew hent hwrite habsent

include hs

end

end

/-! ### The call -/

section

variable {Modules Req Reply Event : Type} (build : Build Modules Req Reply Event)
  (call : ServiceCall Reply) (s : Service Modules) (keep : KeepOutcomes)
  (oldAdmin newAdmin : ElementName) (keepPolicy : Bool)

variable {build call s keep oldAdmin newAdmin keepPolicy}

variable (h : s.container.population.Orderly MAX_SDA_AND_DA_COUNT) {abilityInfo : String × String}
  (hchecked : ReplaceChecked s.container oldAdmin newAdmin abilityInfo)

include h hchecked

/-- The admin that is looked up is the super admin. -/
theorem ReplaceChecked.isSuperAdmin {adminPtr : Admin}
    (hfound : AdminManager.getAdminByPkgName s.container oldAdmin.bundleName DEFAULT_USER_ID =
      some adminPtr) : adminPtr.isSuperAdmin = true := by
  obtain ⟨old, hmem, hold, hname⟩ := hchecked.exists_old
  have hptr : adminPtr.adminInfo.id = old :=
    h.eq_of_packageName ((Population.mem_visible.mp
      (AdminManager.getAdminByPkgName_visible hfound)).elim id And.left) hmem
      ((AdminManager.getAdminByPkgName_packageName hfound).trans hname.symm)
  exact beq_iff_eq.mpr ((congrArg AdminId.adminType hptr).trans hold)

end

/-! ### Reachable states -/

section

variable {Modules Req Reply Event : Type} {build : Build Modules Req Reply Event}

/-- What is known of a service that is reached by requests. -/
structure Service.Reached (s : Service Modules) : Prop where
  orderly : s.container.population.Orderly MAX_SDA_AND_DA_COUNT
  sound : s.Sound
  populated : s.container.Populated

theorem reached_run (modules : Modules) (ops : List (ServiceOp Req Reply)) :
    (run (serviceStep build) (Service.boot modules) ops).Reached := by
  have hboot : (Service.boot modules).Reached :=
    ⟨by rw [population_boot]; exact Population.orderly_empty _, sound_boot modules,
      populated_boot modules⟩
  exact (always_of_step (fun s op (h : s.Reached) => ⟨orderly_step s op h.orderly,
    sound_step s op h.sound, keptByWrites_populated.step s op h.populated⟩) hboot ops).last

end

end Edm
