import Edm.Admin.Admin
import Edm.Library.UnorderedMap

/-! `AdminContainer`, the admins in memory: for each user the `adminInfo_` of its admins, in the order
in which they were added.  A reader gets new objects, made of copies. -/

set_option autoImplicit false

namespace Edm

open Library Library.UnorderedMap

/-- The flags of an update code. -/
inductive AdminField where
  | packageName
  | className
  | entInfo
  | permission
  | managedEvents
  | parentAdminName
  | accessiblePolicies
  | adminType
  | isDebug
  | runningMode
  | enableSource
  deriving DecidableEq, Repr

/-- The fields of `adminInfo` that the code names, over those of `item`. -/
def AdminInfo.updated (item : AdminInfo) (updateCode : List AdminField) (adminInfo : AdminInfo) :
    AdminInfo where
  packageName := if .packageName ∈ updateCode then adminInfo.packageName else item.packageName
  className := if .className ∈ updateCode then adminInfo.className else item.className
  entInfo := if .entInfo ∈ updateCode then adminInfo.entInfo else item.entInfo
  permission := if .permission ∈ updateCode then adminInfo.permission else item.permission
  managedEvents :=
    if .managedEvents ∈ updateCode then adminInfo.managedEvents else item.managedEvents
  parentAdminName :=
    if .parentAdminName ∈ updateCode then adminInfo.parentAdminName else item.parentAdminName
  accessiblePolicies :=
    if .accessiblePolicies ∈ updateCode then adminInfo.accessiblePolicies
    else item.accessiblePolicies
  adminType := if .adminType ∈ updateCode then adminInfo.adminType else item.adminType
  isDebug := if .isDebug ∈ updateCode then adminInfo.isDebug else item.isDebug
  runningMode := if .runningMode ∈ updateCode then adminInfo.runningMode else item.runningMode
  enableSource := if .enableSource ∈ updateCode then adminInfo.enableSource else item.enableSource

/-- The admins of each user. -/
abbrev AdminContainer := UnorderedMap Int (List AdminInfo)

namespace AdminContainer

variable (c : AdminContainer)

/-- An info of unknown type is not added. -/
def setAdminByUserId (userId : Int) (adminItem : AdminInfo) : AdminContainer :=
  match createAdmin adminItem with
  | none => c
  | some admin => c.insert userId ((c.lookup userId).getD [] ++ [admin.adminInfo])

/-- A user without admins left has no entry. -/
def deleteAdmin (packageName : String) (userId : Int) : AdminContainer :=
  match c.lookup userId with
  | none => c
  | some admins =>
    let admins := admins.filter fun admin => admin.packageName != packageName
    if admins.isEmpty then c.erase userId else c.insert userId admins

def getAdminCopyByUserId (userId : Int) : Option (List Admin) :=
  (c.lookup userId).map fun admins => admins.filterMap createAdmin

def hasAdmin (userId : Int) : Bool := (c.lookup userId).isSome

/-- Every admin of the user with the package is updated. -/
def updateAdmin (userId : Int) (packageName : String) (updateCode : List AdminField)
    (adminInfo : AdminInfo) : AdminContainer :=
  match c.lookup userId with
  | none => c
  | some admins =>
    c.insert userId (admins.map fun item =>
      if item.packageName = packageName then item.updated updateCode adminInfo else item)

/-- An admin that has `parentAdminName` as its parent, by the types that have parents. -/
def isChildOf (parentAdminName : String) (admin : AdminInfo) : Bool :=
  (admin.adminType == .subSuperAdmin || admin.adminType == .virtualAdmin) &&
    admin.parentAdminName == parentAdminName

def updateParentAdminName (userId : Int) (parentAdminName updateName : String) : AdminContainer :=
  match c.lookup userId with
  | none => c
  | some admins =>
    c.insert userId (admins.map fun admin =>
      if isChildOf parentAdminName admin then { admin with parentAdminName := updateName }
      else admin)

/-- The users of `adminInfos` get the admins made of its lists, also where there are none. -/
def initAdmins (adminInfos : UnorderedMap Int (List AdminInfo)) : AdminContainer :=
  mapValues (fun infos => (infos.filterMap createAdmin).map Admin.adminInfo) adminInfos ∪ c

/-! ### The admins of a user -/

/-- The admins of a user, none when it has no entry. -/
def adminsOf (u : Int) : List AdminInfo := (c.lookup u).getD []

theorem lookup_setAdminByUserId (userId u : Int) (adminItem : AdminInfo) :
    (c.setAdminByUserId userId adminItem).lookup u =
      if u = userId ∧ adminItem.adminType ≠ .unknown then
        some (c.adminsOf u ++ [adminItem.construct])
      else c.lookup u := by
  unfold setAdminByUserId
  cases hadmin : createAdmin adminItem with
  | none =>
    have hunknown : adminItem.adminType = .unknown := by
      by_contra hknown
      simp [createAdmin, hknown] at hadmin
    simp [hunknown]
  | some admin =>
    obtain ⟨hknown, hinfo⟩ := createAdmin_eq_some hadmin
    simp only [lookup_insert_eq, hknown, ne_eq, not_false_eq_true, and_true, hinfo]
    by_cases hu : u = userId
    · subst hu
      simp [adminsOf]
    · simp [hu]

theorem lookup_deleteAdmin (packageName : String) (userId u : Int) :
    (c.deleteAdmin packageName userId).lookup u =
      if u = userId then
        (c.lookup u).bind fun admins =>
          let admins := admins.filter fun admin => admin.packageName != packageName
          if admins.isEmpty then none else some admins
      else c.lookup u := by
  unfold deleteAdmin
  cases hadmins : c.lookup userId with
  | none =>
    by_cases hu : u = userId
    · subst hu
      simp [hadmins]
    · simp [hu]
  | some admins =>
    dsimp only
    split <;> rename_i hempty
    · rw [lookup_erase_eq]
      by_cases hu : u = userId
      · subst hu
        simp only [if_true, hadmins, Option.bind_some, hempty]
      · simp [hu]
    · rw [lookup_insert_eq]
      by_cases hu : u = userId
      · subst hu
        simp only [if_true, hadmins, Option.bind_some, hempty, Bool.false_eq_true, if_false]
      · simp [hu]

theorem adminsOf_deleteAdmin (packageName : String) (userId u : Int) :
    AdminContainer.adminsOf (c.deleteAdmin packageName userId) u =
      if u = userId then (c.adminsOf u).filter fun admin => admin.packageName != packageName
      else c.adminsOf u := by
  rw [adminsOf, lookup_deleteAdmin]
  split
  · rw [adminsOf]
    cases c.lookup u with
    | none => rfl
    | some admins =>
      dsimp only [Option.bind_some, Option.getD_some]
      split <;> rename_i hempty
      · exact (List.isEmpty_iff.mp hempty).symm
      · rfl
  · rfl

theorem lookup_deleteAdmin_eq_none (packageName : String) (userId u : Int) :
    (c.deleteAdmin packageName userId).lookup u = none ↔
      if u = userId then ((c.adminsOf u).filter fun admin => admin.packageName != packageName) = []
      else c.lookup u = none := by
  rw [lookup_deleteAdmin]
  split
  · rw [adminsOf]
    cases c.lookup u with
    | none => simp
    | some admins => simp
  · rfl

/-- What an update of one user's list does to the entries. -/
theorem lookup_mapped (userId u : Int) (f : AdminInfo → AdminInfo) :
    (match c.lookup userId with
      | none => c
      | some admins => c.insert userId (admins.map f)).lookup u =
      if u = userId then (c.lookup u).map (List.map f) else c.lookup u := by
  cases hadmins : c.lookup userId with
  | none =>
    by_cases hu : u = userId
    · subst hu
      simp [hadmins]
    · simp [hu]
  | some admins =>
    dsimp only
    rw [lookup_insert_eq]
    by_cases hu : u = userId
    · subst hu
      simp [hadmins]
    · simp [hu]

theorem lookup_updateAdmin (userId u : Int) (packageName : String) (updateCode : List AdminField)
    (adminInfo : AdminInfo) :
    (c.updateAdmin userId packageName updateCode adminInfo).lookup u =
      if u = userId then
        (c.lookup u).map (List.map fun item =>
          if item.packageName = packageName then item.updated updateCode adminInfo else item)
      else c.lookup u :=
  c.lookup_mapped userId u _

theorem lookup_updateParentAdminName (userId u : Int) (parentAdminName updateName : String) :
    (c.updateParentAdminName userId parentAdminName updateName).lookup u =
      if u = userId then
        (c.lookup u).map (List.map fun admin =>
          if isChildOf parentAdminName admin then { admin with parentAdminName := updateName }
          else admin)
      else c.lookup u :=
  c.lookup_mapped userId u _

theorem lookup_initAdmins (adminInfos : UnorderedMap Int (List AdminInfo)) (u : Int) :
    (c.initAdmins adminInfos).lookup u =
      ((adminInfos.lookup u).map fun infos =>
        (infos.filterMap createAdmin).map Admin.adminInfo).or (c.lookup u) := by
  unfold initAdmins
  rw [← lookup_mapValues]
  by_cases hu : u ∈ mapValues
      (fun infos => (infos.filterMap createAdmin).map Admin.adminInfo) adminInfos
  · rw [Finmap.lookup_union_left hu]
    obtain ⟨infos, hinfos⟩ := Finmap.mem_iff.mp hu
    rw [hinfos, Option.some_or]
  · rw [Finmap.lookup_union_right hu, Finmap.lookup_eq_none.mpr hu, Option.none_or]

end AdminContainer

end Edm
