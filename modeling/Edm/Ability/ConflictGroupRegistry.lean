import Edm.Ability.PluginRegistry
import Edm.EventManagement.PluginEventRouter

/-! `ConflictGroupRegistry`: the policies whose updates check each other share a group, and an update
holds the lock of the group of its policy. -/

set_option autoImplicit false

namespace Edm

namespace EdmInterfaceCode

def RESET_FACTORY : UInt32 := 1005
def DISALLOW_RUNNING_BUNDLES : UInt32 := 1015
def USB_READ_ONLY : UInt32 := 1026
def DISABLE_USB : UInt32 := 1043
def ALLOWED_USB_DEVICES : UInt32 := 1044
def DISABLE_WIFI : UInt32 := 1046
def DISABLE_BLUETOOTH : UInt32 := 1048
def ALLOWED_BLUETOOTH_DEVICES : UInt32 := 1052
def OPERATE_DEVICE : UInt32 := 1053
def SET_OTA_UPDATE_POLICY : UInt32 := 1055
def DISALLOWED_USB_DEVICES : UInt32 := 1059
def DISABLE_MTP_CLIENT : UInt32 := 1066
def ALLOWED_WIFI_LIST : UInt32 := 1070
def DISALLOWED_WIFI_LIST : UInt32 := 1071
def DISALLOWED_BLUETOOTH_DEVICES : UInt32 := 1079
def DISABLE_USER_MTP_CLIENT : UInt32 := 1085
def DISALLOWED_USB_STORAGE_DEVICE_WRITE : UInt32 := 1103
def DISALLOWED_DISTRIBUTED_TRANSMISSION : UInt32 := 1104
def DISALLOWED_SUDO : UInt32 := 1105
def DISALLOWED_NOTIFICATION : UInt32 := 1107
def ALLOW_RUNNING_BUNDLES : UInt32 := 1119
def DISALLOW_USB_SERIAL : UInt32 := 1136
def ALLOWED_NOTIFICATION_BUNDLES : UInt32 := 1147
def DISALLOWED_DISTRIBUTED_TRANSMISSION_FULL : UInt32 := 1156
def DISALLOWED_DEVICE_SUDO : UInt32 := 1159
def DISALLOWED_PERMISSIVE_USB_DEVICES : UInt32 := 1166
def ALLOWED_PRINTER_IP_ADDRESS_FOR_DEVICE : UInt32 := 1180
def ALLOWED_PRINTER_IP_ADDRESS_FOR_ACCOUNT : UInt32 := 1181

end EdmInterfaceCode

namespace EdmConstants.PolicyCode

def DISABLE_RESET_FACTORY : UInt32 := 21
def HIDDEN_SETTINGS_MENU : UInt32 := 34
def DISABLE_SUPERHUB : UInt32 := 36
def DISABLE_SECURE_ERASE : UInt32 := 39

end EdmConstants.PolicyCode

inductive ConflictGroupId where
  | NONE
  | GROUP_USB
  | GROUP_BLUETOOTH
  | GROUP_SUDO
  | GROUP_NOTIFICATION
  | GROUP_DISTRIBUTED
  | GROUP_MTP
  | GROUP_WIFI
  | GROUP_PRINTER
  | GROUP_RUNNING_BUNDLES
  | GROUP_FACTORY_RESET
  | GROUP_SUPERHUB
  | GROUP_UPDATE_POLICY
  deriving DecidableEq, Repr

namespace ConflictGroupRegistry

open EdmInterfaceCode

/-- What the constructor registers. -/
def policyToGroup : List (UInt32 × ConflictGroupId) :=
  [(DISABLE_USB, .GROUP_USB), (ALLOWED_USB_DEVICES, .GROUP_USB), (USB_READ_ONLY, .GROUP_USB),
   (DISALLOWED_USB_DEVICES, .GROUP_USB), (DISALLOWED_PERMISSIVE_USB_DEVICES, .GROUP_USB),
   (DISALLOW_USB_SERIAL, .GROUP_USB), (DISALLOWED_USB_STORAGE_DEVICE_WRITE, .GROUP_USB),
   (DISABLE_BLUETOOTH, .GROUP_BLUETOOTH), (ALLOWED_BLUETOOTH_DEVICES, .GROUP_BLUETOOTH),
   (DISALLOWED_BLUETOOTH_DEVICES, .GROUP_BLUETOOTH),
   (DISALLOWED_SUDO, .GROUP_SUDO), (DISALLOWED_DEVICE_SUDO, .GROUP_SUDO),
   (DISALLOWED_NOTIFICATION, .GROUP_NOTIFICATION),
   (ALLOWED_NOTIFICATION_BUNDLES, .GROUP_NOTIFICATION),
   (DISALLOWED_DISTRIBUTED_TRANSMISSION, .GROUP_DISTRIBUTED),
   (DISALLOWED_DISTRIBUTED_TRANSMISSION_FULL, .GROUP_DISTRIBUTED),
   (DISABLE_MTP_CLIENT, .GROUP_MTP), (DISABLE_USER_MTP_CLIENT, .GROUP_MTP),
   (DISABLE_WIFI, .GROUP_WIFI), (ALLOWED_WIFI_LIST, .GROUP_WIFI),
   (DISALLOWED_WIFI_LIST, .GROUP_WIFI),
   (ALLOWED_PRINTER_IP_ADDRESS_FOR_DEVICE, .GROUP_PRINTER),
   (ALLOWED_PRINTER_IP_ADDRESS_FOR_ACCOUNT, .GROUP_PRINTER),
   (DISALLOW_RUNNING_BUNDLES, .GROUP_RUNNING_BUNDLES),
   (ALLOW_RUNNING_BUNDLES, .GROUP_RUNNING_BUNDLES),
   (MANAGE_KEEP_ALIVE_APPS, .GROUP_RUNNING_BUNDLES),
   (OPERATE_DEVICE, .GROUP_FACTORY_RESET), (RESET_FACTORY, .GROUP_FACTORY_RESET),
   (POLICY_CODE_END.toUInt32 + EdmConstants.PolicyCode.DISABLE_RESET_FACTORY, .GROUP_FACTORY_RESET),
   (POLICY_CODE_END.toUInt32 + EdmConstants.PolicyCode.DISABLE_SECURE_ERASE, .GROUP_FACTORY_RESET),
   (MANAGE_USER_NON_STOP_APPS, .GROUP_SUPERHUB),
   (POLICY_CODE_END.toUInt32 + EdmConstants.PolicyCode.DISABLE_SUPERHUB, .GROUP_SUPERHUB),
   (POLICY_CODE_END.toUInt32 + EdmConstants.PolicyCode.HIDDEN_SETTINGS_MENU, .GROUP_SUPERHUB),
   (SET_OTA_UPDATE_POLICY, .GROUP_UPDATE_POLICY),
   (NOTIFY_UPGRADE_PACKAGES, .GROUP_UPDATE_POLICY)]

/-- No policy is in two groups, so the order of the registrations does not matter. -/
theorem policyToGroup_nodup : (policyToGroup.map Prod.fst).Nodup := by
  decide +kernel

def getConflictGroupId (policyCode : UInt32) : ConflictGroupId :=
  (policyToGroup.lookup policyCode).getD .NONE

end ConflictGroupRegistry

end Edm
