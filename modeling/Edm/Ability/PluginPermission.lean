import Edm.Admin.Admin

/-! The permissions that plugins require, and how `PluginManager` finds them by function code.  The
registry holds the plugin that a policy code finds once its library is loaded. -/

set_option autoImplicit false

namespace Edm

inductive PermissionType where
  | normalDeviceAdmin
  | superDeviceAdmin
  | byodDeviceAdmin
  | unknown
  deriving DecidableEq, Repr

inductive ApiType where
  | publicApi
  | systemApi
  | unknown
  deriving DecidableEq, Repr

def NONE_PERMISSION_MATCH : String := "NA"

/-- `std::map<PermissionType, std::string>`, in the order of the keys. -/
abbrev TypePermissions := List (PermissionType × String)

structure PolicyPermissionConfig where
  tagPermissions : List (String × TypePermissions) := []
  typePermissions : TypePermissions := []
  apiType : ApiType := .unknown
  deriving DecidableEq, Repr

/-- What `IPlugin` knows about the permissions of a policy. -/
structure PolicyPlugin where
  policyName : String
  permissionConfig : PolicyPermissionConfig := {}
  permissionMap : List (FuncOperateType × PolicyPermissionConfig) := []
  deriving DecidableEq, Repr

/-- The only permission, or the one of the type where there are several. -/
def TypePermissions.pick (permissions : TypePermissions) (permissionType : PermissionType) :
    Option String :=
  match permissions with
  | [] => none
  | [(_, permission)] => some permission
  | _ => permissions.lookup permissionType

namespace PolicyPlugin

/-- A tag that is not in a nonempty table of tags matches no permission; a tag whose permissions do
not have the type falls back to the permissions without a tag. -/
def checkAndGetPermissionFromConfig (permissionType : PermissionType) (permissionTag : String)
    (config : PolicyPermissionConfig) : String :=
  let byType := (config.typePermissions.pick permissionType).getD NONE_PERMISSION_MATCH
  if permissionTag != "" && !config.tagPermissions.isEmpty then
    match config.tagPermissions.lookup permissionTag with
    | none => NONE_PERMISSION_MATCH
    | some permissions => (permissions.pick permissionType).getD byType
  else byType

def getPermission (plugin : PolicyPlugin) (operateType : FuncOperateType)
    (permissionType : PermissionType) (permissionTag : String) : String :=
  checkAndGetPermissionFromConfig permissionType permissionTag
    ((plugin.permissionMap.lookup operateType).getD plugin.permissionConfig)

def getApiType (plugin : PolicyPlugin) (operateType : FuncOperateType) : ApiType :=
  if plugin.permissionConfig.apiType = .unknown then
    match plugin.permissionMap.lookup operateType with
    | some config => config.apiType
    | none => plugin.permissionConfig.apiType
  else plugin.permissionConfig.apiType

end PolicyPlugin

/-! ### Function codes -/

/-- `FUNC_TO_POLICY` -/
def funcToPolicy (code : UInt32) : UInt32 := code &&& 0x0000FFFF

/-- `FUNC_TO_FLAG` -/
def funcToFlag (code : UInt32) : UInt32 := (code &&& 0x00300000) >>> 20

def POLICY_FLAG : UInt32 := 1

/-- `POLICY_FUNC_CODE` -/
def policyFuncCode (operateType policy : UInt32) : UInt32 :=
  (POLICY_FLAG <<< 20) ||| (operateType <<< 16) ||| policy

/-- The plugins by policy code. -/
abbrev Registry := UInt32 → Option PolicyPlugin

namespace PluginManager

variable (registry : Registry) (funcCode : UInt32)

def getPluginByFuncCode : Option PolicyPlugin :=
  if funcToFlag funcCode = POLICY_FLAG then registry (funcToPolicy funcCode) else none

def getPermission (operateType : FuncOperateType) (permissionType : PermissionType)
    (permissionTag : String) : String :=
  match getPluginByFuncCode registry funcCode with
  | none => NONE_PERMISSION_MATCH
  | some plugin => plugin.getPermission operateType permissionType permissionTag

def getPluginType (operateType : FuncOperateType) : ApiType :=
  match getPluginByFuncCode registry funcCode with
  | none => .unknown
  | some plugin => plugin.getApiType operateType

def getPolicyName : String :=
  match getPluginByFuncCode registry funcCode with
  | none => ""
  | some plugin => plugin.policyName

end PluginManager

end Edm
