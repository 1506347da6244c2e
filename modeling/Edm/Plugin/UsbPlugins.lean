import Edm.Admin.AdminManager
import Edm.Plugin.ArrayUsbDeviceTypeSerializer
import Edm.Plugin.IntSerializer
import Edm.Plugin.PolicyRun

/-! The plugins that deny types of USB devices: `UsbReadOnlyPlugin` and the two plugins made from
`DisallowedUsbDevicesPluginBase`.  Each looks at the combined policies of the others, all of the
default user. -/

set_option autoImplicit false

namespace Edm

open Library

def POLICY_USB_READ_ONLY : String := "usb_read_only"
def POLICY_DISALLOWED_USB_DEVICES : String := "disallowed_usb_devices"
def POLICY_DISALLOWED_PERMISSIVE_USB_DEVICES : String := "disallowed_permissive_usb_devices"
def POLICY_ALLOWED_USB_DEVICES : String := "allowed_usb_devices"
def POLICY_DISABLE_USB : String := "disable_usb"
def POLICY_EXTERNAL_STORAGE_INTERCEPT_ENABLE : String := "external_storage_intercept_enable"

namespace EdmConstants

def STORAGE_USB_POLICY_READ_WRITE : Int32 := 0
def STORAGE_USB_POLICY_READ_ONLY : Int32 := 1
def STORAGE_USB_POLICY_DISABLED : Int32 := 2
def DISALLOWED_USB_DEVICES_TYPES_MAX_SIZE : Nat := 200
def DISALLOWED_PERMISSIVE_USB_DEVICES_TYPES_MAX_SIZE : Nat := 1000

end EdmConstants

def USB_DEVICE_TYPE_BASE_CLASS_STORAGE : Int32 := 8

/-- The types that the USB service denies, of interfaces and of devices, whether it is disabled, and
the system parameter for storage that is read only. -/
structure UsbService where
  interfaceTypes : List UsbDeviceType
  usbTypes : List UsbDeviceType
  disabled : Bool
  readOnly : Bool

namespace UsbPolicyUtils

/-- `ManageGlobalInterface`, which takes back the denied types when the service is enabled. -/
def setUsbDisabled (data : Bool) (usb : UsbService) : UsbService :=
  if data then { usb with disabled := true }
  else { usb with interfaceTypes := [], usbTypes := [], disabled := false }

/-- `ManageInterfaceType`. -/
def setDisallowedUsbDevices (data : List UsbDeviceType) (usb : UsbService) : UsbService :=
  { usb with interfaceTypes := data }

/-- `ManageUsbType`. -/
def setDisallowedPermissiveUsbDevices (data : List UsbDeviceType) (usb : UsbService) : UsbService :=
  { usb with usbTypes := data }

end UsbPolicyUtils

/-- The type for storage. -/
def storageType : UsbDeviceType where
  baseClass := USB_DEVICE_TYPE_BASE_CLASS_STORAGE
  subClass := USB_DEVICE_TYPE_BASE_CLASS_STORAGE
  protocol := USB_DEVICE_TYPE_BASE_CLASS_STORAGE
  isDeviceType := false
  isDeviceTypeAllMatch := false

/-- Whether a type is one of storage. -/
def UsbDeviceType.isStorage (t : UsbDeviceType) : Bool :=
  t.baseClass == USB_DEVICE_TYPE_BASE_CLASS_STORAGE

/-! ### Storage access -/

namespace UsbReadOnlyPlugin

open ArrayUsbDeviceTypeSerializer UsbPolicyUtils

/-- What the storage write restriction of the accounts is found to be (`none` when the accounts
cannot be found; `some false` without the feature), and whether the disks are reloaded, if need
be. -/
structure Answers where
  writeDisallowed : Option Bool
  reloadUsbDevice : Bool

structure Request where
  type : FuncOperateType
  accessPolicy : Int32
  answers : Answers

variable (C : ArrayCJson) (m : UserPolicyManager)

def getDisallowedUsbDeviceTypes : Option (List UsbDeviceType) :=
  deserialize C (m.policyValue "" POLICY_DISALLOWED_USB_DEVICES)

def isStorageDisabledByDisallowedPolicy : Option Bool :=
  (getDisallowedUsbDeviceTypes C m).map fun usbDeviceTypes =>
    usbDeviceTypes.length ≤ EdmConstants.DISALLOWED_USB_DEVICES_TYPES_MAX_SIZE &&
      usbDeviceTypes.any UsbDeviceType.isStorage

/-- `none` when it cannot be told. -/
def hasConflictPolicy (accessPolicy : Int32) (allowUsbDevice : String)
    (writeDisallowed : Option Bool) : Option Bool :=
  if accessPolicy = EdmConstants.STORAGE_USB_POLICY_DISABLED ∧ allowUsbDevice ≠ "" then some true
  else
    match isStorageDisabledByDisallowedPolicy C m with
    | none => none
    | some isDisabled =>
      if isDisabled = true ∧ (accessPolicy = EdmConstants.STORAGE_USB_POLICY_READ_WRITE ∨
          accessPolicy = EdmConstants.STORAGE_USB_POLICY_READ_ONLY) then some true
      else if m.policyValue "" POLICY_DISABLE_USB = "true" then some true
      else if m.policyValue "" POLICY_EXTERNAL_STORAGE_INTERCEPT_ENABLE = "true" then some true
      else writeDisallowed

def dealDisablePolicy (usbDeviceTypes : List UsbDeviceType) (usb : UsbService) :
    ErrCode × UsbService :=
  (ERR_OK, setDisallowedUsbDevices (setUnionPolicyData usbDeviceTypes [storageType]) usb)

/-- The types of storage are taken from the list. -/
def dealReadPolicy (reloadUsbDevice : Bool) (accessPolicy : Int32) (allowUsbDevice : String)
    (usbDeviceTypes : List UsbDeviceType) (usb : UsbService) : ErrCode × UsbService :=
  let usb := { usb with readOnly := accessPolicy == EdmConstants.STORAGE_USB_POLICY_READ_ONLY }
  let usb :=
    if allowUsbDevice = "" then
      setDisallowedUsbDevices (usbDeviceTypes.filter fun t => !t.isStorage) usb
    else usb
  if reloadUsbDevice then (ERR_OK, usb) else (EdmReturnErrCode.SYSTEM_ABNORMALLY, usb)

def setUsbStorageAccessPolicy (answers : Answers) (accessPolicy : Int32) (usb : UsbService) :
    ErrCode × UsbService :=
  let allowUsbDevicePolicy := m.policyValue "" POLICY_ALLOWED_USB_DEVICES
  match hasConflictPolicy C m accessPolicy allowUsbDevicePolicy answers.writeDisallowed with
  | none => (EdmReturnErrCode.SYSTEM_ABNORMALLY, usb)
  | some true => (EdmReturnErrCode.CONFIGURATION_CONFLICT_FAILED, usb)
  | some false =>
    match getDisallowedUsbDeviceTypes C m with
    | none => (EdmReturnErrCode.SYSTEM_ABNORMALLY, usb)
    | some usbDeviceTypes =>
      if accessPolicy = EdmConstants.STORAGE_USB_POLICY_DISABLED then
        dealDisablePolicy usbDeviceTypes usb
      else
        dealReadPolicy answers.reloadUsbDevice accessPolicy allowUsbDevicePolicy usbDeviceTypes usb

/-- The access is only set when it is above what the others ask for, or they ask for nothing. -/
def onHandlePolicy (usb : UsbService) (request : Request) (policyData : HandlePolicyData) :
    ErrCode × UsbService × HandlePolicyData :=
  match request.type with
  | .set =>
    match IntSerializer.deserialize policyData.policyData,
      IntSerializer.deserialize policyData.mergePolicyData with
    | some currentPolicy, some mergePolicy =>
      let stored (mergePolicyData : String) : HandlePolicyData :=
        { policyData := IntSerializer.serialize request.accessPolicy, mergePolicyData
          isChanged := request.accessPolicy != currentPolicy }
      if mergePolicy = 0 ∨ mergePolicy < request.accessPolicy then
        let (ret, usb) := setUsbStorageAccessPolicy C m request.answers request.accessPolicy usb
        if ret != ERR_OK then (ret, usb, policyData)
        else (ERR_OK, usb, stored (IntSerializer.serialize request.accessPolicy))
      else (ERR_OK, usb, stored policyData.mergePolicyData)
    | _, _ => (EdmReturnErrCode.SYSTEM_ABNORMALLY, usb, policyData)
  | _ => (EdmReturnErrCode.SYSTEM_ABNORMALLY, usb, policyData)

def onAdminRemove (usb : UsbService) (reloadUsbDevice : Bool) (policyData mergeData : String) :
    ErrCode × UsbService :=
  match IntSerializer.deserialize policyData, IntSerializer.deserialize mergeData with
  | some adminPolicy, some mergePolicy =>
    if mergePolicy < adminPolicy then
      match getDisallowedUsbDeviceTypes C m with
      | none => (EdmReturnErrCode.SYSTEM_ABNORMALLY, usb)
      | some usbDeviceTypes =>
        dealReadPolicy reloadUsbDevice mergePolicy (m.policyValue "" POLICY_ALLOWED_USB_DEVICES)
          usbDeviceTypes usb
    else (ERR_OK, usb)
  | _, _ => (EdmReturnErrCode.SYSTEM_ABNORMALLY, usb)

/-- The largest of the policies, and at least zero. -/
def serializer : PolicySerializer Int32 where
  initial := 0
  serialize dataObj := some (IntSerializer.serialize dataObj)
  deserialize := IntSerializer.deserialize
  mergePolicy data :=
    some (data.foldl (fun result dataItem => if result < dataItem then dataItem else result) 0)

/-- The plugin reads the others' policies as the template does.  `m` is what the store has when an
operation starts. -/
def plugin (order : HashOrder) : Plugin UsbService Request Bool Empty where
  policyName := POLICY_USB_READ_ONLY
  needSave := true
  getOthersMergePolicyData m adminName :=
    IPluginTemplate.getOthersMergePolicyData serializer order POLICY_USB_READ_ONLY m adminName
  onHandlePolicy := onHandlePolicy C
  onAdminRemove := onAdminRemove C m
  onPluginEvent _ event := nomatch event

end UsbReadOnlyPlugin

/-! ### Denied types -/

namespace DisallowedUsbDevicesPluginBase

open ArrayUsbDeviceTypeSerializer UsbPolicyUtils

/-- The virtual functions of the base class, and what the serializers are made of. -/
structure Kind where
  policyName : String
  conflictPolicyName : String
  maxSize : Nat
  deviceTypeMinValue : Int32
  setDisallowedDevices : List UsbDeviceType → UsbService → UsbService

/-- The types of a message, if they can be read, and what the storage write restriction of the
accounts is found to be. -/
structure Request where
  type : FuncOperateType
  data : Option (List UsbDeviceType)
  writeDisallowed : Option Bool

variable (C : ArrayCJson) (K : Kind) (m : UserPolicyManager)

/-- `none` when it cannot be told.  Without the feature nothing is found of the write
restriction, and the list is empty. -/
def hasConflictPolicy (usbDeviceTypes : List UsbDeviceType) (writeDisallowed : Option Bool) :
    Option Bool :=
  if m.policyValue "" POLICY_DISABLE_USB = "true" then some true
  else if m.policyValue "" POLICY_ALLOWED_USB_DEVICES ≠ "" then some true
  else if m.policyValue "" K.conflictPolicyName ≠ "" then some true
  else if m.policyValue "" POLICY_EXTERNAL_STORAGE_INTERCEPT_ENABLE = "true" then some true
  else writeDisallowed.map fun isDisallowed =>
    isDisallowed && usbDeviceTypes.any UsbDeviceType.isStorage

def combineDataWithStorageAccessPolicy (policyData : List UsbDeviceType) : List UsbDeviceType :=
  let usbStorageTypes :=
    if m.policyValue "" POLICY_USB_READ_ONLY =
        IntSerializer.serialize EdmConstants.STORAGE_USB_POLICY_DISABLED then [storageType]
    else []
  setUnionPolicyData policyData usbStorageTypes

def onSetPolicy (writeDisallowed : Option Bool) (usb : UsbService)
    (data currentData mergeData : List UsbDeviceType) :
    ErrCode × UsbService × List UsbDeviceType × List UsbDeviceType :=
  if data = [] then (ERR_OK, usb, currentData, mergeData)
  else if data.length > K.maxSize then
    (EdmReturnErrCode.PARAMETER_VERIFICATION_FAILED, usb, currentData, mergeData)
  else
    match hasConflictPolicy K m data writeDisallowed with
    | none => (EdmReturnErrCode.PARAMETER_VERIFICATION_FAILED, usb, currentData, mergeData)
    | some true => (EdmReturnErrCode.CONFIGURATION_CONFLICT_FAILED, usb, currentData, mergeData)
    | some false =>
      let afterHandle := setUnionPolicyData currentData data
      let afterMerge := setUnionPolicyData mergeData afterHandle
      if afterMerge.length > K.maxSize then
        (EdmReturnErrCode.PARAMETER_VERIFICATION_FAILED, usb, currentData, mergeData)
      else
        let usb := K.setDisallowedDevices (combineDataWithStorageAccessPolicy m afterMerge) usb
        (ERR_OK, usb, afterHandle, afterMerge)

/-- The service is enabled when nothing is left to deny. -/
def onRemovePolicy (usb : UsbService) (data currentData mergeData : List UsbDeviceType) :
    ErrCode × UsbService × List UsbDeviceType × List UsbDeviceType :=
  if data = [] then (ERR_OK, usb, currentData, mergeData)
  else if data.length > K.maxSize then
    (EdmReturnErrCode.PARAMETER_VERIFICATION_FAILED, usb, currentData, mergeData)
  else
    let afterHandle := setDifferencePolicyData data currentData
    let afterMerge := setUnionPolicyData mergeData afterHandle
    let disallowedUsbDeviceTypes := combineDataWithStorageAccessPolicy m afterMerge
    let usb :=
      if disallowedUsbDeviceTypes = [] ∧ currentData ≠ [] then setUsbDisabled false usb else usb
    (ERR_OK, K.setDisallowedDevices disallowedUsbDeviceTypes usb, afterHandle, afterMerge)

def onAdminRemove (usb : UsbService) (_data mergeData : List UsbDeviceType) :
    ErrCode × UsbService :=
  let disallowedUsbDeviceTypes := combineDataWithStorageAccessPolicy m mergeData
  if disallowedUsbDeviceTypes = [] then (ERR_OK, setUsbDisabled false usb)
  else (ERR_OK, K.setDisallowedDevices disallowedUsbDeviceTypes usb)

def onHandlePolicy (usb : UsbService) (request : Request) (policyData : HandlePolicyData) :
    ErrCode × UsbService × HandlePolicyData :=
  let data := request.data.bind (getPolicy K.deviceTypeMinValue K.maxSize)
  match request.type with
  | .set =>
    IPluginTemplate.handlePolicy (serializer C K.maxSize) (onSetPolicy K m request.writeDisallowed)
      usb data policyData
  | .remove =>
    IPluginTemplate.handlePolicy (serializer C K.maxSize) (onRemovePolicy K m) usb data policyData
  | _ => (ERR_OK, usb, policyData)

/-- `m` is what the store has when an operation starts. -/
def plugin (order : HashOrder) : Plugin UsbService Request Unit Empty where
  policyName := K.policyName
  needSave := true
  getOthersMergePolicyData m adminName :=
    IPluginTemplate.getOthersMergePolicyData (serializer C K.maxSize) order K.policyName m adminName
  onHandlePolicy := onHandlePolicy C K
  onAdminRemove usb _ :=
    IPluginTemplate.adminRemove (serializer C K.maxSize) (onAdminRemove K m) usb
  onPluginEvent _ event := nomatch event

end DisallowedUsbDevicesPluginBase

def DisallowedUsbDevicesPlugin : DisallowedUsbDevicesPluginBase.Kind where
  policyName := POLICY_DISALLOWED_USB_DEVICES
  conflictPolicyName := POLICY_DISALLOWED_PERMISSIVE_USB_DEVICES
  maxSize := EdmConstants.DISALLOWED_USB_DEVICES_TYPES_MAX_SIZE
  deviceTypeMinValue := 0
  setDisallowedDevices := UsbPolicyUtils.setDisallowedUsbDevices

def DisallowedPermissiveUsbDevicesPlugin : DisallowedUsbDevicesPluginBase.Kind where
  policyName := POLICY_DISALLOWED_PERMISSIVE_USB_DEVICES
  conflictPolicyName := POLICY_DISALLOWED_USB_DEVICES
  maxSize := EdmConstants.DISALLOWED_PERMISSIVE_USB_DEVICES_TYPES_MAX_SIZE
  deviceTypeMinValue := -1
  setDisallowedDevices := UsbPolicyUtils.setDisallowedPermissiveUsbDevices

end Edm
