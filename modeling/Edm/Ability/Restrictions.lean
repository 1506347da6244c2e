import Edm.Ability.ServiceRun
import Edm.Plugin.BasicBool

/-! Restrictions that a persist parameter alone enforces: each is a `BasicBoolPlugin` whose constructor
is all that it adds.  A service that has these plugins loads and no others. -/

set_option autoImplicit false

namespace Edm

open Library Library.UnorderedMap

/-- A plugin among others, each of which drives the module under its policy name. -/
def Plugin.amongOthers {Module Req Reply Event : Type} (plugin : Plugin Module Req Reply Event) :
    Plugin (String → Module) Req Reply Event where
  policyName := plugin.policyName
  needSave := plugin.needSave
  getOthersMergePolicyData := plugin.getOthersMergePolicyData
  onHandlePolicy m modules req policyData :=
    let (ret, module, policyData) :=
      plugin.onHandlePolicy m (modules plugin.policyName) req policyData
    (ret, Function.update modules plugin.policyName module, policyData)
  onAdminRemove modules reply policyData mergeData :=
    let (ret, module) :=
      plugin.onAdminRemove (modules plugin.policyName) reply policyData mergeData
    (ret, Function.update modules plugin.policyName module)
  onPluginEvent := plugin.onPluginEvent

namespace BasicBoolPlugin

/-- What the constructor of a plugin sets. -/
structure Restriction extends Config where
  policyCode : UInt32
  permissionConfig : PolicyPermissionConfig

def disallowUnmuteDevicePlugin : Restriction where
  policyCode := 1120
  policyName := PolicyName.POLICY_DISALLOW_UNMUTE_DEVICE
  policyName_ne := by decide
  permissionConfig :=
    { typePermissions := [(.superDeviceAdmin, "ohos.permission.ENTERPRISE_MANAGE_RESTRICTIONS")]
      apiType := .publicApi }
  persistParam := "persist.edm.unmute_device_disallowed"

def disallowedSMSPlugin : Restriction where
  policyCode := 1073
  policyName := PolicyName.POLICY_DISALLOWED_SMS
  policyName_ne := by decide
  permissionConfig :=
    { typePermissions := [(.superDeviceAdmin, "ohos.permission.ENTERPRISE_MANAGE_RESTRICTIONS")]
      apiType := .publicApi }
  persistParam := "persist.edm.sms_disable"

/-- The plugin reads the values of its own policy. -/
def Restriction.registered (restriction : Restriction) (order : HashOrder) :
    RegisteredPlugin (String → Switch) Request Answers Unit :=
  (plugin restriction.toConfig order).amongOthers.registered restriction.policyName_ne
    fun m m' hvalues _ => funext fun adminName => by
      show getOthersMergePolicyData restriction.toConfig order m adminName =
        getOthersMergePolicyData restriction.toConfig order m' adminName
      unfold getOthersMergePolicyData
      rw [show m.adminValues restriction.policyName = m'.adminValues restriction.policyName
        from hvalues]

def Restriction.policyPlugin (restriction : Restriction) : PolicyPlugin where
  policyName := restriction.policyName
  permissionConfig := restriction.permissionConfig

variable (restrictions : List Restriction)

def byCode (policyCode : UInt32) : Option Restriction :=
  restrictions.find? fun restriction => restriction.policyCode == policyCode

def byName (policyName : String) : Option Restriction :=
  restrictions.find? fun restriction => restriction.policyName == policyName

/-- The plugins that are loaded. -/
def pluginTable (order : HashOrder) :
    PluginTable (String → Switch) Request Answers Unit where
  pluginsCode policyCode := (byCode restrictions policyCode).map (·.registered order)
  pluginsName policyName := (byName restrictions policyName).map (·.registered order)
  pluginsName_policyName policyName registered h := by
    obtain ⟨restriction, hfound, rfl⟩ := Option.map_eq_some_iff.mp h
    have hname := List.find?_some hfound
    exact beq_iff_eq.mp hname

end BasicBoolPlugin

open BasicBoolPlugin

/-- A service with these restrictions. -/
def Build.restricting (restrictions : List Restriction) :
    Build (String → Switch) Request Answers Unit where
  cjson := .standard
  pcOnly := false
  plugins := pluginTable restrictions (.ofKeys .ascending)
  registry policyCode := (byCode restrictions policyCode).map Restriction.policyPlugin
  policyPlugins policyName := (byName restrictions policyName).map Restriction.policyPlugin
  registry_policyName policyCode registered h := by
    obtain ⟨restriction, hfound, rfl⟩ := Option.map_eq_some_iff.mp h
    rw [hfound]
    rfl
  itemOrder := .ofKeys .ascending
  userOrder := .ascending
  eventOrder := eventsAscending

/-- The answers of modules that take every switch. -/
def BasicBoolPlugin.Answers.agreeing : Answers := ⟨ERR_OK, ERR_OK, true⟩

/-- All switches are off. -/
def BasicBoolPlugin.switchesOff : String → Switch := fun _ => ⟨false, false⟩

end Edm
