import Edm.Ability.PluginPermission
import Edm.Admin.AdminRun
import Edm.Plugin.PolicyRun
import Edm.Policy.Indexes

/-! The service as a whole: the plugins by function code and by policy name, the policies of all users
and the admins; and `RemoveAdminAndAdminPolicy` over them.  The system timers and the relayed events
of a removed admin are left out, they write neither policies nor admins. -/

set_option autoImplicit false

namespace Edm

open Library Library.UnorderedMap

/-- A plugin that serves every user.  Its `GetOthersMergePolicyData` may read the values of its own
policy, of any user. -/
structure RegisteredPlugin (Modules Req Reply Event : Type) where
  policyName : String
  policyName_ne : policyName ≠ ""
  needSave : Bool
  getOthersMergePolicyData : (Int → UserPolicyManager) → Int → String → String
  reads_own_policy : ∀ managers managers' : Int → UserPolicyManager,
    (∀ u, (managers u).adminValues policyName = (managers' u).adminValues policyName) →
    (∀ u, (managers u).policyValue "" policyName = (managers' u).policyValue "" policyName) →
    getOthersMergePolicyData managers = getOthersMergePolicyData managers'
  onHandlePolicy : (Int → UserPolicyManager) → Int → Modules → Req → HandlePolicyData →
    ErrCode × Modules × HandlePolicyData
  onAdminRemove : Int → Modules → Reply → String → String → ErrCode × Modules
  onPluginEvent : Int → HandlePolicyData → Event → HandlePolicyData

section

variable {Modules Req Reply Event : Type}

/-- The plugin as it works for one user. -/
def RegisteredPlugin.forUser (plugin : RegisteredPlugin Modules Req Reply Event)
    (managers : Int → UserPolicyManager) (userId : Int) : Plugin Modules Req Reply Event where
  policyName := plugin.policyName
  needSave := plugin.needSave
  getOthersMergePolicyData _ adminName := plugin.getOthersMergePolicyData managers userId adminName
  onHandlePolicy _ := plugin.onHandlePolicy managers userId
  onAdminRemove := plugin.onAdminRemove userId
  onPluginEvent := plugin.onPluginEvent userId

/-- A plugin that reads only what belongs to the user that it works for. -/
def Plugin.registered (plugin : Plugin Modules Req Reply Event) (hname : plugin.policyName ≠ "")
    (hown : ∀ m m' : UserPolicyManager,
      m.adminValues plugin.policyName = m'.adminValues plugin.policyName →
      m.policyValue "" plugin.policyName = m'.policyValue "" plugin.policyName →
      plugin.getOthersMergePolicyData m = plugin.getOthersMergePolicyData m') :
    RegisteredPlugin Modules Req Reply Event where
  policyName := plugin.policyName
  policyName_ne := hname
  needSave := plugin.needSave
  getOthersMergePolicyData managers userId := plugin.getOthersMergePolicyData (managers userId)
  reads_own_policy managers managers' hvalues hcombined :=
    funext fun u => hown (managers u) (managers' u) (hvalues u) (hcombined u)
  onHandlePolicy managers userId := plugin.onHandlePolicy (managers userId)
  onAdminRemove _ := plugin.onAdminRemove
  onPluginEvent _ := plugin.onPluginEvent

/-- `pluginsCode_` and `pluginsName_`. -/
structure PluginTable (Modules Req Reply Event : Type) where
  pluginsCode : UInt32 → Option (RegisteredPlugin Modules Req Reply Event)
  pluginsName : String → Option (RegisteredPlugin Modules Req Reply Event)
  pluginsName_policyName : ∀ policyName plugin, pluginsName policyName = some plugin →
    plugin.policyName = policyName

/-- The policies and the admins, the modules that the plugins drive, and the policies whose plugins
are subscribed to their events. -/
structure Device (Modules : Type) where
  policies : Stores
  admins : AdminState
  modules : Modules
  subscribed : String → Bool

/-- A device that nobody manages. -/
def Device.boot (modules : Modules) : Device Modules :=
  { policies := Stores.boot, admins := AdminState.boot, modules, subscribed := fun _ => false }

namespace Device

variable (d : Device Modules) (policyName : String) (userId : Int)

/-- What a plugin works on for one user. -/
def pluginState : PluginState Modules where
  store := d.policies.user userId
  modules := d.modules
  subscribed := d.subscribed policyName

def setPluginState (s : PluginState Modules) : Device Modules :=
  { d with
    policies := d.policies.setUser userId s.store
    modules := s.modules
    subscribed := Function.update d.subscribed policyName s.subscribed }

end Device

variable (plugins : PluginTable Modules Req Reply Event) (d : Device Modules)

namespace PluginTable

/-- Whether the plugin of a policy saves it. -/
def needSave (policyName : String) : Bool :=
  (plugins.pluginsName policyName).any RegisteredPlugin.needSave

/-- What the plugin of a policy makes of the other admins' values. -/
def othersMergePolicyData (s : Stores) (userId : Int) (adminName policyName : String) : String :=
  (plugins.pluginsName policyName).elim "" fun plugin =>
    plugin.getOthersMergePolicyData s.manager userId adminName

/-- `PluginManager::GetPluginByFuncCode`. -/
def getPluginByFuncCode (funcCode : UInt32) : Option (RegisteredPlugin Modules Req Reply Event) :=
  if funcToFlag funcCode = POLICY_FLAG then plugins.pluginsCode (funcToPolicy funcCode) else none

/-- `PluginManager::UpdateDevicePolicy`.  A request knows the operate type of its code. -/
def updateDevicePolicy (writes : Writes) (code : UInt32) (bundleName : String) (req : Req)
    (userId : Int) : ErrCode × Device Modules :=
  match plugins.getPluginByFuncCode code with
  | none => (EdmReturnErrCode.INTERFACE_UNSUPPORTED, d)
  | some plugin =>
    let (ret, s) := PluginManager.updateDevicePolicy (plugin.forUser d.policies.manager userId)
      (d.pluginState plugin.policyName userId) writes bundleName req
    (ret, d.setPluginState plugin.policyName userId s)

/-- `PluginManager::DispatchForAdmins`, for the plugin of an event. -/
def dispatchForAdmins (order : HashOrder) (writes : String → Writes) (code : UInt32)
    (event : Event) (userId : Int) : Device Modules :=
  match plugins.pluginsCode code with
  | none => d
  | some plugin =>
    (order.entries ((d.policies.manager userId).adminValues plugin.policyName)).foldl
      (fun d entry => d.setPluginState plugin.policyName userId
        (PluginManager.dispatchForAdmin (plugin.forUser d.policies.manager userId)
          (d.pluginState plugin.policyName userId) (writes entry.1) event entry.1 entry.2)) d

/-- `PluginManager::RemoveAdminItem`. -/
def removeAdminItem (writes : Writes) (reply : Reply) (adminName policyName policyValue : String)
    (userId : Int) : ErrCode × Device Modules :=
  match plugins.pluginsName policyName with
  | none => (ERR_EDM_GET_PLUGIN_MGR_FAILED, d)
  | some plugin =>
    let (ret, s) := PluginManager.removeAdminItem (plugin.forUser d.policies.manager userId)
      (d.pluginState policyName userId) writes reply adminName policyValue
    (ret, d.setPluginState policyName userId s)

end PluginTable

/-! ### Removing an admin -/

/-- The removal of an admin: what becomes of the writes for each policy, what the modules answer for
each policy, and what becomes of the statement that deletes the admin. -/
structure Removal (Reply : Type) where
  adminName : AdminName
  userId : Int
  writes : String → Writes
  reply : String → Reply
  deletion : RdbOutcome

namespace EnterpriseDeviceMgrAbility

variable (order : HashOrder) (removal : Removal Reply)

/-- The loop of `RemoveAdminPolicy`, for the items that are left. -/
def removeAdminItems (d : Device Modules) : List (String × String) → ErrCode × Device Modules
  | [] => (ERR_OK, d)
  | (policyName, policyValue) :: policyItems =>
    let (ret, d) := plugins.removeAdminItem d (removal.writes policyName)
      (removal.reply policyName) removal.adminName policyName policyValue removal.userId
    if failed ret then (ERR_EDM_DEL_ADMIN_FAILED, d) else removeAdminItems d policyItems

def removeAdminPolicy : ErrCode × Device Modules :=
  match (d.policies.manager removal.userId).getAllPolicyByAdmin removal.adminName with
  | .error _ => (ERR_OK, d)
  | .ok policyItems => removeAdminItems plugins removal d (order.entries policyItems)

def removeAdmin : ErrCode × Device Modules :=
  let (ret, admins) :=
    AdminManager.deleteAdmin d.admins removal.deletion removal.adminName removal.userId
  if ret != ERR_OK && ret != ERR_EDM_UNKNOWN_ADMIN then
    (ERR_EDM_DEL_ADMIN_FAILED, { d with admins })
  else (ERR_OK, { d with admins })

def removeAdminAndAdminPolicy : ErrCode × Device Modules :=
  let (removeAdminPolicyRet, d) := removeAdminPolicy plugins d order removal
  if failed removeAdminPolicyRet then (removeAdminPolicyRet, d)
  else
    let (removeAdminRet, d) := removeAdmin d removal
    if failed removeAdminRet then (removeAdminRet, d) else (ERR_OK, d)

end EnterpriseDeviceMgrAbility

end

end Edm
