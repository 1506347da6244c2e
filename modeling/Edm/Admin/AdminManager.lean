import Edm.Admin.AdminContainer
import Edm.Errors
import Edm.Storage.AdminPolicies
import Edm.Storage.DevicePolicies

/-! `AdminManager`: the admins in memory and the table behind them.  Every method that writes takes
the outcome of its statement, and returns its code with the admins it leaves. -/

set_option autoImplicit false

namespace Edm

open Library Library.UnorderedMap

/-- The user that the admins of the device belong to. -/
def DEFAULT_USER_ID : Int := 100

/-- The container, and the table of admins. -/
structure AdminState where
  container : AdminContainer
  table : AdminTable

/-- A device without admins. -/
def AdminState.boot : AdminState := ⟨∅, Table.empty⟩

namespace AdminManager

/-! ### Reading -/

section

variable (c : AdminContainer)

/-- The copies of a user's admins, none when it has no entry. -/
def getAdminByUserId (userId : Int) : List Admin := (c.getAdminCopyByUserId userId).getD []

def getAllowedAcrossAccountSetPolicyAdmin (subAdminName : String) : Option Admin :=
  (getAdminByUserId c DEFAULT_USER_ID).find? fun admin =>
    admin.adminInfo.packageName == subAdminName && admin.isAllowedAcrossAccountSetPolicy

/-- For another user than the default one, an admin of the default user that may act across accounts
comes first. -/
def getAdminByPkgName (packageName : String) (userId : Int) : Option Admin :=
  let own := (getAdminByUserId c userId).find? fun admin =>
    admin.adminInfo.packageName == packageName
  if userId = DEFAULT_USER_ID then own
  else (getAllowedAcrossAccountSetPolicyAdmin c packageName).or own

theorem getAdminByPkgName_packageName {c : AdminContainer} {packageName : String} {userId : Int}
    {admin : Admin} (h : getAdminByPkgName c packageName userId = some admin) :
    admin.adminInfo.packageName = packageName := by
  have hown : ∀ {admins : List Admin}, (admins.find? fun admin =>
      admin.adminInfo.packageName == packageName) = some admin →
      admin.adminInfo.packageName = packageName := by
    intro admins hfind
    have hfound := List.find?_some hfind
    exact beq_iff_eq.mp hfound
  unfold getAdminByPkgName at h
  split at h
  · exact hown h
  · rcases Option.or_eq_some_iff.mp h with hacross | ⟨-, hfind⟩
    · have hfound := List.find?_some hacross
      simp only [Bool.and_eq_true, beq_iff_eq] at hfound
      exact hfound.1
    · exact hown hfind

def getSubSuperAdminsByParentName (parentName : String) : List String :=
  ((getAdminByUserId c DEFAULT_USER_ID).filter fun admin =>
    (admin.getAdminType == .subSuperAdmin || admin.getAdminType == .virtualAdmin) &&
      admin.getParentAdminName == parentName).map fun admin => admin.adminInfo.packageName

end

/-! ### Writing -/

variable (C : CJson) (s : AdminState)

def updateAdmin (write : RdbOutcome) (userId : Int) (adminItem : AdminInfo)
    (code : List AdminField) : ErrCode × AdminState :=
  match write with
  | .unavailable => (ERR_GET_STORAGE_RDB_FAILED, s)
  | .failed => (EdmReturnErrCode.SYSTEM_ABNORMALLY, s)
  | .done =>
    (ERR_OK,
      { container := s.container.updateAdmin userId adminItem.packageName code adminItem
        table := AdminPoliciesStorageRdb.updateAdmin C s.table userId adminItem })

/-- The fields of an existing admin that `SetAdminValue` updates. -/
def setAdminValueCode : List AdminField :=
  [.className, .entInfo, .permission, .accessiblePolicies, .runningMode]

def setAdminValue (write : RdbOutcome) (userId : Int) (adminItem : AdminInfo) :
    ErrCode × AdminState :=
  match getAdminByPkgName s.container adminItem.packageName userId with
  | some _ => updateAdmin C s write userId adminItem setAdminValueCode
  | none =>
    match write with
    | .unavailable => (ERR_GET_STORAGE_RDB_FAILED, s)
    | .failed => (EdmReturnErrCode.SYSTEM_ABNORMALLY, s)
    | .done =>
      (ERR_OK,
        { container := s.container.setAdminByUserId userId adminItem
          table := AdminPoliciesStorageRdb.insertAdmin C s.table userId adminItem })

def updateAdminPermission (write : RdbOutcome) (bundleName : String) (userId : Int)
    (permissionList : List String) : ErrCode × AdminState :=
  updateAdmin C s write userId { packageName := bundleName, permission := permissionList }
    [.permission]

def deleteAdmin (write : RdbOutcome) (packageName : String) (userId : Int) : ErrCode × AdminState :=
  if s.container.hasAdmin userId then
    match write with
    | .unavailable => (ERR_GET_STORAGE_RDB_FAILED, s)
    | .failed => (ERR_EDM_DEL_ADMIN_FAILED, s)
    | .done =>
      (ERR_OK,
        { container := s.container.deleteAdmin packageName userId
          table := AdminPoliciesStorageRdb.deleteAdmin s.table userId packageName })
  else (ERR_EDM_UNKNOWN_ADMIN, s)

/-- The table after the updates of the parent of each of `subAdmins`. -/
def updateParentNames (t : AdminTable) (packageName newName : String) (subAdmins : List String) :
    AdminTable :=
  subAdmins.foldl
    (fun t subAdmin => AdminPoliciesStorageRdb.updateParentName t subAdmin packageName newName) t

/-- `parents` is the number of parent updates that take effect before one fails, if one does; these
stay in the table. -/
def replaceSuperAdminByPackageName (write : RdbOutcome) (parents : Option Nat)
    (packageName : String) (newAdminInfo : AdminInfo) : ErrCode × AdminState :=
  match write with
  | .unavailable => (ERR_GET_STORAGE_RDB_FAILED, s)
  | _ =>
    let newName := newAdminInfo.packageName
    let subAdmins := getSubSuperAdminsByParentName s.container packageName
    let updated := match parents with
      | none => subAdmins
      | some n => subAdmins.take n
    let table := updateParentNames s.table packageName newName updated
    if updated.length < subAdmins.length then (ERR_SET_PARENT_ADMIN_FAILED, { s with table })
    else if write = .failed then (EdmReturnErrCode.SYSTEM_ABNORMALLY, { s with table })
    else
      let container := s.container.updateAdmin DEFAULT_USER_ID packageName
        [.packageName, .className, .enableSource] newAdminInfo
      (ERR_OK,
        { container := container.updateParentAdminName DEFAULT_USER_ID packageName newName
          table := AdminPoliciesStorageRdb.replaceAdmin C table packageName DEFAULT_USER_ID
            newAdminInfo })

def setEntInfo (write : RdbOutcome) (admin : Admin) (entInfo : EntInfo) (userId : Int) :
    ErrCode × AdminState :=
  match write with
  | .unavailable => (ERR_GET_STORAGE_RDB_FAILED, s)
  | .failed => (ERR_EDM_UNKNOWN_ADMIN, s)
  | .done =>
    let packageName := admin.adminInfo.packageName
    (ERR_OK,
      { container := s.container.updateAdmin userId packageName [.entInfo] { entInfo }
        table := AdminPoliciesStorageRdb.updateEntInfo s.table userId packageName entInfo })

/-- The events of an admin with those of a request that it does not have. -/
def addEvents (managedEvents : List ManagedEvent) (events : List UInt32) : List ManagedEvent :=
  events.foldl (fun all event => if event ∈ all then all else all ++ [event]) managedEvents

def removeEvents (managedEvents : List ManagedEvent) (events : List UInt32) : List ManagedEvent :=
  managedEvents.filter fun managedEvent => !events.contains managedEvent

/-- What both methods for events do once they have the new events.  The row is written only if the
number of events changed: `SaveSubscribeEvents` asks whether it grew, `RemoveSubscribeEvents` whether
it shrank, which is all that each of them can do to it. -/
def storeEvents (write : RdbOutcome) (admin : Admin) (userId : Int)
    (managedEvents : List ManagedEvent) : ErrCode × AdminState :=
  let packageName := admin.adminInfo.packageName
  let changed := managedEvents.length != admin.adminInfo.managedEvents.length
  match write with
  | .unavailable => (ERR_GET_STORAGE_RDB_FAILED, s)
  | _ =>
    if changed && write == .failed then (ERR_EDM_UNKNOWN_ADMIN, s)
    else
      (ERR_OK,
        { container := s.container.updateAdmin userId packageName [.managedEvents]
            { admin.adminInfo with managedEvents }
          table :=
            if changed then
              AdminPoliciesStorageRdb.updateManagedEvents C s.table userId packageName managedEvents
            else s.table })

theorem storeEvents_done (admin : Admin) (userId : Int) (managedEvents : List ManagedEvent) :
    storeEvents C s .done admin userId managedEvents =
      (ERR_OK,
        { container := s.container.updateAdmin userId admin.adminInfo.packageName [.managedEvents]
            { admin.adminInfo with managedEvents }
          table :=
            if managedEvents.length = admin.adminInfo.managedEvents.length then s.table
            else AdminPoliciesStorageRdb.updateManagedEvents C s.table userId
              admin.adminInfo.packageName managedEvents }) := by
  by_cases hlength : managedEvents.length = admin.adminInfo.managedEvents.length
  · simp [storeEvents, hlength]
  · simp [storeEvents, hlength]

def saveSubscribeEvents (write : RdbOutcome) (events : List UInt32) (bundleName : String)
    (userId : Int) : ErrCode × AdminState :=
  match getAdminByPkgName s.container bundleName userId with
  | none => (ERR_EDM_UNKNOWN_ADMIN, s)
  | some admin =>
    storeEvents C s write admin userId (addEvents admin.adminInfo.managedEvents events)

def removeSubscribeEvents (write : RdbOutcome) (events : List UInt32) (bundleName : String)
    (userId : Int) : ErrCode × AdminState :=
  match getAdminByPkgName s.container bundleName userId with
  | none => (ERR_EDM_UNKNOWN_ADMIN, s)
  | some admin =>
    storeEvents C s write admin userId (removeEvents admin.adminInfo.managedEvents events)

/-- `Init`: the container is filled from the table. -/
def init (t : AdminTable) : AdminContainer :=
  AdminContainer.initAdmins ∅ (AdminPoliciesStorageRdb.queryAllAdmin C t)

end AdminManager

end Edm
