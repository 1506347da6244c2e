import Edm.Admin.Population

/-! When `SetAdminValue` takes effect where it was asked to: the lookup that decides between an
insertion and an update also finds admins of the default user, and both act on the given user. -/

set_option autoImplicit false

namespace Edm

open Library Library.UnorderedMap AdminPoliciesStorageRdb

/-- The admins of a user with a package. -/
def AdminContainer.named (c : AdminContainer) (u : Int) (packageName : String) : List AdminInfo :=
  (c.adminsOf u).filter fun item => item.packageName = packageName

/-- The rows of a user with a package. -/
def AdminPoliciesStorageRdb.named (t : AdminTable) (u : Int) (packageName : String) :
    List AdminRow :=
  t.select fun row => row.key = (u, packageName)

/-- What an admin, or a row that is read, has of an info. -/
structure Carries (item info : AdminInfo) : Prop where
  className : item.className = info.className
  adminType : item.adminType = info.adminType
  permission : item.permission = info.permission
  parentAdminName : item.parentAdminName = info.parentAdminName
  accessiblePolicies : item.accessiblePolicies = info.accessiblePolicies

variable (C : CJson) (s : AdminState) (write : RdbOutcome) (u : Int) (info : AdminInfo)

/-- The info is in force for the user, and the other users are as they were. -/
structure InForce (s' : AdminState) : Prop where
  admin : ∃ item, s'.container.named u info.packageName = [item] ∧ Carries item info
  row : ∃ row, AdminPoliciesStorageRdb.named s'.table u info.packageName = [row] ∧
    Carries (setAdminItems C row) info
  others : ∀ v, v ≠ u →
    s'.container.lookup v = s.container.lookup v ∧ rowsOf s'.table v = rowsOf s.table v

variable {C s write u info}

/-! ### The lists that are read -/

variable (C s u info)

/-- An admin of the device, and the same package delegated for another account. -/
def deviceAdmin : AdminInfo :=
  { packageName := "com.admin", className := "Entry", permission := ["SET_WIFI"]
    adminType := .ent }

end Edm
