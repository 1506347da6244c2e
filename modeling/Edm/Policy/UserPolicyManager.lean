import Edm.Errors
import Edm.Storage.DevicePolicies

/-! The policies of one user: the in-memory maps of `UserPolicyManager` and the tables behind them.
Every method takes the outcome of the calls it makes into the relational store, and returns its code
with the store it leaves. -/

set_option autoImplicit false

namespace Edm

open Library Library.UnorderedMap

/-- `adminPolicies` holds the values by admin, `policyAdmins` the same values by policy. -/
structure UserPolicyManager where
  userIdState : Int
  combinedPolicies : ItemsMap
  adminPolicies : IndexMap
  policyAdmins : IndexMap

/-- A newly constructed manager. -/
def UserPolicyManager.new (userId : Int) : UserPolicyManager := ⟨userId, ∅, ∅, ∅⟩

/-- A user's manager, with the tables that it writes to. -/
structure UserStore where
  manager : UserPolicyManager
  tables : PolicyTables

/-- The outcomes of the two writes of `SetPolicy`. -/
structure Writes where
  combined : RdbOutcome
  admin : RdbOutcome
  deriving DecidableEq, Repr

theorem Writes.eq_done {writes : Writes} (hcombined : writes.combined = .done)
    (hadmin : writes.admin = .done) : writes = ⟨.done, .done⟩ := by
  obtain ⟨combined, admin⟩ := writes
  obtain rfl : combined = .done := hcombined
  obtain rfl : admin = .done := hadmin
  rfl

/-- Whether `GetInstance` and the two queries of `Init` succeed. -/
structure Reads where
  getInstance : Bool
  queryAdmin : Bool
  queryCombined : Bool
  deriving DecidableEq, Repr

/-! ### Reading -/

namespace UserPolicyManager

variable (m : UserPolicyManager)

def getAdminByPolicyName (policyName : String) : Except ErrCode ItemsMap :=
  match m.policyAdmins.lookup policyName with
  | some adminValueItems => .ok adminValueItems
  | none => .error ERR_EDM_POLICY_NOT_FOUND

def getAllPolicyByAdmin (adminName : String) : Except ErrCode ItemsMap :=
  match m.adminPolicies.lookup adminName with
  | some allAdminPolicy => .ok allAdminPolicy
  | none => .error ERR_EDM_POLICY_NOT_FIND

def getAdminPolicy (adminName policyName : String) : Except ErrCode String :=
  match lookup₂ m.adminPolicies adminName policyName with
  | some policyValue => .ok policyValue
  | none => .error ERR_EDM_POLICY_NOT_FIND

def getCombinedPolicy (policyName : String) : Except ErrCode String :=
  match m.combinedPolicies.lookup policyName with
  | some policyValue => .ok policyValue
  | none => .error ERR_EDM_POLICY_NOT_FIND

/-- The empty admin name stands for the combined policy. -/
def getPolicy (adminName policyName : String) : Except ErrCode String :=
  if adminName = "" then m.getCombinedPolicy policyName else m.getAdminPolicy adminName policyName

/-! ### The policies of the second index -/

def setAdminList (adminName policyName policyValue : String) : UserPolicyManager :=
  { m with policyAdmins := put₂ m.policyAdmins policyName adminName policyValue }

def deleteAdminList (adminName policyName : String) : UserPolicyManager :=
  match m.policyAdmins.lookup policyName with
  | none => m
  | some adminValueRef =>
    match adminValueRef.lookup adminName with
    | none => m
    | some _ =>
      { m with
        policyAdmins := storeInner m.policyAdmins policyName (adminValueRef.erase adminName) }

end UserPolicyManager

/-! ### Writing -/

namespace UserStore

variable (s : UserStore)

/-- The second index takes the value before the row is written. -/
def setAdminPolicy (write : RdbOutcome) (adminName policyName policyValue : String) :
    ErrCode × UserStore :=
  match write with
  | .unavailable => (ERR_GET_STORAGE_RDB_FAILED, s)
  | .failed =>
    (ERR_EDM_POLICY_SET_FAILED,
      { s with manager := s.manager.setAdminList adminName policyName policyValue })
  | .done =>
    let manager := s.manager.setAdminList adminName policyName policyValue
    let userId := s.manager.userIdState
    match s.manager.adminPolicies.lookup adminName with
    | none =>
      (ERR_OK,
        { manager := { manager with
            adminPolicies := manager.adminPolicies.insert adminName
              ((∅ : ItemsMap).insert policyName policyValue) }
          tables := s.tables.insertAdminPolicy userId adminName policyName policyValue })
    | some policyItem =>
      let tables :=
        match policyItem.lookup policyName with
        | some _ => s.tables.updateAdminPolicy userId adminName policyName policyValue
        | none => s.tables.insertAdminPolicy userId adminName policyName policyValue
      (ERR_OK,
        { manager := { manager with
            adminPolicies := manager.adminPolicies.insert adminName
              (policyItem.insert policyName policyValue) }
          tables })

def setCombinedPolicy (write : RdbOutcome) (policyName policyValue : String) :
    ErrCode × UserStore :=
  match write with
  | .unavailable => (ERR_GET_STORAGE_RDB_FAILED, s)
  | .failed => (ERR_EDM_POLICY_SET_FAILED, s)
  | .done =>
    let userId := s.manager.userIdState
    (ERR_OK,
      { manager := { s.manager with
          combinedPolicies := s.manager.combinedPolicies.insert policyName policyValue }
        tables :=
          match s.manager.combinedPolicies.lookup policyName with
          | some _ => s.tables.updateCombinedPolicy userId policyName policyValue
          | none => s.tables.insertCombinedPolicy userId policyName policyValue })

def deleteAdminPolicy (write : RdbOutcome) (adminName policyName : String) : ErrCode × UserStore :=
  match write with
  | .unavailable => (ERR_GET_STORAGE_RDB_FAILED, s)
  | .failed => (ERR_EDM_POLICY_DEL_FAILED, s)
  | .done =>
    let tables := s.tables.deleteAdminPolicy s.manager.userIdState adminName policyName
    match s.manager.adminPolicies.lookup adminName with
    | none => (ERR_OK, { s with tables })
    | some policyItem =>
      let manager := { s.manager with
        adminPolicies := storeInner s.manager.adminPolicies adminName
          (policyItem.erase policyName) }
      (ERR_OK, { manager := manager.deleteAdminList adminName policyName, tables })

def deleteCombinedPolicy (write : RdbOutcome) (policyName : String) : ErrCode × UserStore :=
  match write with
  | .unavailable => (ERR_GET_STORAGE_RDB_FAILED, s)
  | .failed => (ERR_EDM_POLICY_DEL_FAILED, s)
  | .done =>
    (ERR_OK,
      { manager := { s.manager with
          combinedPolicies := s.manager.combinedPolicies.erase policyName }
        tables := s.tables.deleteCombinedPolicy s.manager.userIdState policyName })

end UserStore

/-- What `ReplacePolicyByAdminName` does to the entries of one policy. -/
def replaceAdminValue (adminName newAdminName : String) (adminMap : ItemsMap) : ItemsMap :=
  match adminMap.lookup adminName with
  | none => adminMap
  | some policyValue => (adminMap.erase adminName).insert newAdminName policyValue

namespace UserStore

variable (s : UserStore)

def replacePolicyByAdminName (write : RdbOutcome) (userId : Int)
    (adminName newAdminName : String) : ErrCode × UserStore :=
  match write with
  | .unavailable => (ERR_GET_STORAGE_RDB_FAILED, s)
  | .failed => (ERR_EDM_POLICY_REPLACE_FAILED, s)
  | .done =>
    let adminPolicies :=
      match s.manager.adminPolicies.lookup adminName with
      | none => s.manager.adminPolicies
      | some policyMap => (s.manager.adminPolicies.erase adminName).insert newAdminName policyMap
    (ERR_OK,
      { manager := { s.manager with
          adminPolicies
          policyAdmins := mapValues (replaceAdminValue adminName newAdminName)
            s.manager.policyAdmins }
        tables := s.tables.replaceAdminPolicy userId adminName newAdminName })

/-- The first half of `SetPolicy`: an empty value deletes the combined policy. -/
def writeCombined (write : RdbOutcome) (policyName mergedPolicy : String) : ErrCode × UserStore :=
  if mergedPolicy = "" then s.deleteCombinedPolicy write policyName
  else s.setCombinedPolicy write policyName mergedPolicy

/-- The second half of `SetPolicy`: an empty value deletes the admin's policy. -/
def writeAdmin (write : RdbOutcome) (adminName policyName adminPolicy : String) :
    ErrCode × UserStore :=
  if adminPolicy = "" then s.deleteAdminPolicy write adminName policyName
  else s.setAdminPolicy write adminName policyName adminPolicy

/-- The code of the second half replaces the code of the first. -/
def setPolicy (writes : Writes) (adminName policyName adminPolicy mergedPolicy : String) :
    ErrCode × UserStore :=
  if policyName = "" then (ERR_EDM_POLICY_SET_FAILED, s)
  else
    let (err, s) := s.writeCombined writes.combined policyName mergedPolicy
    if adminName = "" then (err, s)
    else s.writeAdmin writes.admin adminName policyName adminPolicy

/-- Adds what the tables hold to the maps. -/
def init (reads : Reads) : UserStore :=
  if reads.getInstance && reads.queryAdmin then
    let indexes := queryAdminPolicy s.tables s.manager.userIdState
      (s.manager.adminPolicies, s.manager.policyAdmins)
    let combinedPolicies :=
      if reads.queryCombined then
        queryCombinedPolicy s.tables s.manager.userIdState s.manager.combinedPolicies
      else s.manager.combinedPolicies
    { s with
      manager := { s.manager with
        adminPolicies := indexes.1, policyAdmins := indexes.2, combinedPolicies } }
  else s

end UserStore

end Edm
