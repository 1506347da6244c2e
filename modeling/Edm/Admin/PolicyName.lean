/-! The names of the policies that the service itself decides about, and the policies that an admin
may delegate. -/

set_option autoImplicit false

namespace Edm

namespace PolicyName

def POLICY_DISALLOW_ADD_LOCAL_ACCOUNT : String := "disallow_add_local_account"
def POLICY_DISALLOW_ADD_OS_ACCOUNT_BY_USER : String := "disallow_add_os_account_by_user"
def POLICY_DISALLOW_RUNNING_BUNDLES : String := "disallow_running_bundles"
def POLICY_MANAGE_AUTO_START_APPS : String := "manage_auto_start_apps"
def POLICY_ALLOWED_BLUETOOTH_DEVICES : String := "allowed_bluetooth_devices"
def POLICY_SET_BROWSER_POLICIES : String := "set_browser_policies"
def POLICY_ALLOWED_INSTALL_BUNDLES : String := "allowed_install_bundles"
def POLICY_DISALLOWED_INSTALL_BUNDLES : String := "disallowed_install_bundles"
def POLICY_DISALLOWED_UNINSTALL_BUNDLES : String := "disallowed_uninstall_bundles"
def POLICY_SNAPSHOT_SKIP : String := "snapshot_skip"
def POLICY_LOCATION_POLICY : String := "location_policy"
def POLICY_DISABLED_NETWORK_INTERFACE : String := "disabled_network_interface"
def POLICY_GLOBAL_PROXY : String := "global_proxy"
def POLICY_DISABLED_BLUETOOTH : String := "disabled_bluetooth"
def POLICY_DISALLOW_MODIFY_DATETIME : String := "disallow_modify_datetime"
def POLICY_DISABLED_PRINTER : String := "disabled_printer"
def POLICY_POLICY_SCREEN_SHOT : String := "policy_screen_shot"
def POLICY_DISABLED_HDC : String := "disabled_hdc"
def POLICY_DISABLE_MICROPHONE : String := "disable_microphone"
def POLICY_FINGERPRINT_AUTH : String := "fingerprint_auth"
def POLICY_DISABLE_USB : String := "disable_usb"
def POLICY_DISABLE_WIFI : String := "disable_wifi"
def POLICY_DISALLOWED_TETHERING : String := "disallowed_tethering"
def POLICY_INACTIVE_USER_FREEZE : String := "inactive_user_freeze"
def POLICY_PASSWORD_POLICY : String := "password_policy"
def POLICY_CLIPBOARD_POLICY : String := "clipboard_policy"
def POLICY_NTP_SERVER : String := "ntp_server"
def POLICY_SET_UPDATE_POLICY : String := "set_update_policy"
def POLICY_NOTIFY_UPGRADE_PACKAGES : String := "notify_upgrade_packages"
def POLICY_ALLOWED_USB_DEVICES : String := "allowed_usb_devices"
def POLICY_USB_READ_ONLY : String := "usb_read_only"
def POLICY_DISALLOWED_USB_DEVICES : String := "disallowed_usb_devices"
def POLICY_GET_DEVICE_INFO : String := "get_device_info"
def POLICY_WATERMARK_IMAGE_POLICY : String := "watermark_image_policy"
def POLICY_POLICY_SCREEN_RECORD : String := "policy_screen_record"
def POLICY_DISALLOWED_SMS : String := "disallowed_sms"
def POLICY_DISALLOWED_MMS : String := "disallowed_mms"
def POLICY_DISABLE_BACKUP_AND_RESTORE : String := "disable_backup_and_restore"
def POLICY_INSTALLED_BUNDLE_INFO_LIST : String := "installed_bundle_info_list"
def POLICY_CLEAR_UP_APPLICATION_DATA : String := "clear_up_application_data"
def POLICY_ALLOW_ALL : String := "allow_all"
def POLICY_DISABLED_HDC_REMOTE : String := "disabled_hdc_remote"
def POLICY_DISALLOW_UNMUTE_DEVICE : String := "disallow_unmute_device"
def POLICY_DISALLOW_VIRTUAL_SERVICE : String := "disallow_virtual_service"
def POLICY_DISALLOW_USB_SERIAL : String := "disallow_usb_serial"
def POLICY_DISABLE_CAMERA : String := "disable_camera"
def POLICY_SET_SWITCH_STATUS : String := "set_switch_status"
def POLICY_DISABLED_MTP_SERVER : String := "disabled_mtp_server"
def POLICY_DISALLOWED_P2P : String := "disallowed_p2p"
def POLICY_MANAGED_BROWSER_POLICY : String := "managed_browser_policy"

end PolicyName

namespace PermissionChecker

open PolicyName

def allowDelegatedPolicies : List String := [
  POLICY_DISALLOW_ADD_LOCAL_ACCOUNT, POLICY_DISALLOW_ADD_OS_ACCOUNT_BY_USER,
  POLICY_DISALLOW_RUNNING_BUNDLES, POLICY_MANAGE_AUTO_START_APPS,
  POLICY_ALLOWED_BLUETOOTH_DEVICES, POLICY_SET_BROWSER_POLICIES, POLICY_ALLOWED_INSTALL_BUNDLES,
  POLICY_DISALLOWED_INSTALL_BUNDLES, POLICY_DISALLOWED_UNINSTALL_BUNDLES, POLICY_SNAPSHOT_SKIP,
  POLICY_LOCATION_POLICY, POLICY_DISABLED_NETWORK_INTERFACE, POLICY_GLOBAL_PROXY,
  POLICY_DISABLED_BLUETOOTH, POLICY_DISALLOW_MODIFY_DATETIME, POLICY_DISABLED_PRINTER,
  POLICY_POLICY_SCREEN_SHOT, POLICY_DISABLED_HDC, POLICY_DISABLE_MICROPHONE,
  POLICY_FINGERPRINT_AUTH, POLICY_DISABLE_USB, POLICY_DISABLE_WIFI, POLICY_DISALLOWED_TETHERING,
  POLICY_INACTIVE_USER_FREEZE, POLICY_PASSWORD_POLICY, POLICY_CLIPBOARD_POLICY,
  POLICY_NTP_SERVER, POLICY_SET_UPDATE_POLICY, POLICY_NOTIFY_UPGRADE_PACKAGES,
  POLICY_ALLOWED_USB_DEVICES, POLICY_USB_READ_ONLY, POLICY_DISALLOWED_USB_DEVICES,
  POLICY_GET_DEVICE_INFO, POLICY_WATERMARK_IMAGE_POLICY, POLICY_POLICY_SCREEN_RECORD,
  POLICY_DISALLOWED_SMS, POLICY_DISALLOWED_MMS, POLICY_DISABLE_BACKUP_AND_RESTORE,
  POLICY_INSTALLED_BUNDLE_INFO_LIST, POLICY_CLEAR_UP_APPLICATION_DATA, POLICY_ALLOW_ALL,
  POLICY_DISABLED_HDC_REMOTE, POLICY_DISALLOW_UNMUTE_DEVICE, POLICY_DISALLOW_VIRTUAL_SERVICE,
  POLICY_DISALLOW_USB_SERIAL]

def isAllowDelegatedPolicy (policy : String) : Bool := allowDelegatedPolicies.contains policy

end PermissionChecker

end Edm
