import Edm.Admin.Admin
import Edm.Library.Table
import Edm.Library.UnorderedMap
import Edm.Plugin.CJson

/-! The table of admins, and the statements that `AdminPoliciesStorageRdb` runs on it.  A values
bucket is what it does to the columns of a row. -/

set_option autoImplicit false

namespace Edm

open Library Library.UnorderedMap

/-- A row of `admin_policies`.  The columns that an insertion may leave NULL are options. -/
structure AdminRow where
  userId : Int
  adminType : AdminType
  packageName : String
  className : String
  entName : Option String
  entDesc : Option String
  permissions : Option String
  subscribeEvents : Option String
  parentAdmin : String
  isDebug : Bool
  accessiblePolicies : Option String
  runningMode : RunningMode
  enableSource : EnableSource
  deriving DecidableEq, Repr

abbrev AdminTable := Table AdminRow

/-- A row before the columns of an insertion are set. -/
def AdminRow.null : AdminRow :=
  { userId := 0, adminType := .normal, packageName := "", className := "", entName := none
    entDesc := none, permissions := none, subscribeEvents := none, parentAdmin := ""
    isDebug := false, accessiblePolicies := none, runningMode := .default
    enableSource := .deploy }

def AdminRow.key (row : AdminRow) : Int × String := (row.userId, row.packageName)

namespace AdminPoliciesStorageRdb

def DEFAULT_LOOP_MAX_SIZE : Nat := 10000

variable (C : CJson)

/-! ### Buckets -/

def stringArray (strings : List String) : String :=
  C.printUnformatted (.arr (strings.map Json.str))

def numberArray (numbers : List ManagedEvent) : String :=
  C.printUnformatted (.arr (numbers.map fun event => .number (C.createNumber event.toNat)))

/-- Empty texts and the default running mode are not written, nor are the accessible policies of an
admin that is not virtual. -/
def createUpdateValuesBucket (admin : AdminInfo) (row : AdminRow) : AdminRow :=
  { row with
    entName :=
      if admin.entInfo.enterpriseName = "" then row.entName
      else some admin.entInfo.enterpriseName
    entDesc :=
      if admin.entInfo.description = "" then row.entDesc else some admin.entInfo.description
    className := if admin.className = "" then row.className else admin.className
    permissions := some (stringArray C admin.permission)
    accessiblePolicies :=
      if admin.adminType = .virtualAdmin then some (stringArray C admin.accessiblePolicies)
      else row.accessiblePolicies
    runningMode := if admin.runningMode = .default then row.runningMode else admin.runningMode }

def createInsertValuesBucket (userId : Int) (admin : AdminInfo) (row : AdminRow) : AdminRow :=
  let row := createUpdateValuesBucket C admin
    { row with runningMode := admin.runningMode, enableSource := admin.enableSource }
  { row with
    userId, packageName := admin.packageName, className := admin.className
    adminType := admin.adminType, parentAdmin := admin.parentAdminName
    isDebug := admin.isDebug }

/-! ### Statements -/

def insertAdmin (t : AdminTable) (userId : Int) (admin : AdminInfo) : AdminTable :=
  t.insert (createInsertValuesBucket C userId admin AdminRow.null)

def updateAdmin (t : AdminTable) (userId : Int) (admin : AdminInfo) : AdminTable :=
  t.update (fun row => row.key = (userId, admin.packageName)) (createUpdateValuesBucket C admin)

def replaceAdmin (t : AdminTable) (packageName : String) (userId : Int) (newAdminInfo : AdminInfo) :
    AdminTable :=
  t.update (fun row => row.key = (userId, packageName))
    (createInsertValuesBucket C userId newAdminInfo)

/-- The statement selects rows of every user. -/
def updateParentName (t : AdminTable) (packageName currentParentName targetParentName : String) :
    AdminTable :=
  t.update
    (fun row => row.parentAdmin = currentParentName ∧ row.packageName = packageName)
    fun row => { row with parentAdmin := targetParentName }

def deleteAdmin (t : AdminTable) (userId : Int) (packageName : String) : AdminTable :=
  t.delete fun row => row.key = (userId, packageName)

def updateEntInfo (t : AdminTable) (userId : Int) (packageName : String) (entInfo : EntInfo) :
    AdminTable :=
  t.update (fun row => row.key = (userId, packageName))
    fun row =>
      { row with entName := some entInfo.enterpriseName, entDesc := some entInfo.description }

def updateManagedEvents (t : AdminTable) (userId : Int) (packageName : String)
    (managedEvents : List ManagedEvent) : AdminTable :=
  t.update (fun row => row.key = (userId, packageName))
    fun row => { row with subscribeEvents := some (numberArray C managedEvents) }

/-! ### Queries -/

/-- Longer arrays are not read. -/
def setAdminStringInfo (stringInfo : String) : List String :=
  if stringInfo = "" ∨ stringInfo = "null" then []
  else
    match C.parse stringInfo with
    | some (.arr items) =>
      if items.length > DEFAULT_LOOP_MAX_SIZE then []
      else items.filterMap fun
        | .str value => some value
        | _ => none
    | _ => []

def setManagedEventStr (managedEventsStr : String) : List ManagedEvent :=
  if managedEventsStr = "" ∨ managedEventsStr = "null" then []
  else
    match C.parse managedEventsStr with
    | none => []
    | some j =>
      if j.children.length > DEFAULT_LOOP_MAX_SIZE then []
      else j.children.filterMap fun
        | .number value => some (UInt32.ofBitVec (BitVec.ofInt 32 (C.valueint value)))
        | _ => none

def setAdminItems (row : AdminRow) : AdminInfo where
  packageName := row.packageName
  className := row.className
  entInfo := ⟨row.entName.getD "", row.entDesc.getD ""⟩
  permission := (row.permissions.map (setAdminStringInfo C)).getD []
  managedEvents := (row.subscribeEvents.map (setManagedEventStr C)).getD []
  parentAdminName := row.parentAdmin
  accessiblePolicies := (row.accessiblePolicies.map (setAdminStringInfo C)).getD []
  adminType := row.adminType
  isDebug := row.isDebug
  runningMode := row.runningMode
  enableSource := row.enableSource

/-- The rows by user, in row order. -/
def queryAllAdmin (t : AdminTable) : UnorderedMap Int (List AdminInfo) :=
  t.rows.foldl
    (fun admins row =>
      match admins.lookup row.userId with
      | some items => admins.insert row.userId (items ++ [setAdminItems C row])
      | none => admins.insert row.userId [setAdminItems C row])
    ∅

/-! ### What is written is read back -/

variable {C}

/-- The text of an array is not one of the texts that are not parsed. -/
theorem not_skipped {text : String} {items : List Json} (h : C.parse text = some (.arr items)) :
    ¬(text = "" ∨ text = "null") := by
  rintro (rfl | rfl)
  · rw [C.parse_empty] at h
    contradiction
  · rw [C.parse_null] at h
    cases h

/-- What is read of an array of strings. -/
def readBack (strings : List String) : List String :=
  if strings.length > DEFAULT_LOOP_MAX_SIZE then [] else strings

theorem readBack_of_le {strings : List String} (h : strings.length ≤ DEFAULT_LOOP_MAX_SIZE) :
    readBack strings = strings := by
  rw [readBack, if_neg (by omega)]

theorem setAdminStringInfo_stringArray (strings : List String) :
    setAdminStringInfo C (stringArray C strings) = readBack strings := by
  have hparse : C.parse (stringArray C strings) = some (.arr (strings.map Json.str)) :=
    C.parse_printUnformatted _ (by simp [Json.NumberFree, Json.numberFreeItems_iff])
  have hread : ∀ strings : List String, ((strings.map Json.str).filterMap fun
      | .str value => some value
      | _ => none) = strings := by
    intro strings
    induction strings with
    | nil => rfl
    | cons first rest ih => rw [List.map_cons, List.filterMap_cons, ih]
  rw [setAdminStringInfo, if_neg (not_skipped hparse), hparse]
  dsimp only
  rw [List.length_map, hread, readBack]

/-- Events whose codes fit an `int` are read back. -/
theorem setManagedEventStr_numberArray {events : List ManagedEvent}
    (h : events.length ≤ DEFAULT_LOOP_MAX_SIZE)
    (hcodes : ∀ event, event ∈ events → event.toNat ≤ INT_MAX) :
    setManagedEventStr C (numberArray C events) = events := by
  have hparse : C.parse (numberArray C events) =
      some (.arr (events.map fun event => .number (C.createNumber event.toNat))) := by
    have hnumbers := C.parse_numbers (events.map UInt32.toNat) (by simpa using hcodes)
    simpa [numberArray, List.map_map, Function.comp_def] using hnumbers
  have hlength : ¬(Json.arr (events.map fun event =>
      .number (C.createNumber event.toNat))).children.length > DEFAULT_LOOP_MAX_SIZE := by
    show ¬(events.map _).length > DEFAULT_LOOP_MAX_SIZE
    rw [List.length_map]
    omega
  have hcast : ∀ event : ManagedEvent, UInt32.ofBitVec (BitVec.ofInt 32 event.toNat) = event := by
    intro event
    simp
  rw [setManagedEventStr, if_neg (not_skipped hparse), hparse]
  dsimp only
  rw [if_neg hlength]
  show List.filterMap _ (events.map _) = events
  clear h hparse hlength
  induction events with
  | nil => rfl
  | cons event rest ih =>
    rw [List.map_cons, List.filterMap_cons,
      ih fun other hother => hcodes other (List.mem_cons_of_mem event hother)]
    dsimp only
    rw [C.valueint_createNumber _ (hcodes event List.mem_cons_self), hcast]

/-! ### The rows of a user -/

/-- The rows of a user, in row order. -/
def rowsOf (t : AdminTable) (u : Int) : List AdminRow := t.select fun row => row.userId = u

theorem lookup_foldl_rows (rows : List AdminRow) (u : Int)
    (admins : UnorderedMap Int (List AdminInfo)) :
    (rows.foldl (fun admins row =>
      match admins.lookup row.userId with
      | some items => admins.insert row.userId (items ++ [setAdminItems C row])
      | none => admins.insert row.userId [setAdminItems C row]) admins).lookup u =
      let read := (rows.filter fun row => row.userId = u).map (setAdminItems C)
      if read = [] then admins.lookup u else some ((admins.lookup u).getD [] ++ read) := by
  induction rows generalizing admins with
  | nil => rfl
  | cons row rows ih =>
    rw [List.foldl_cons, ih]
    by_cases hu : row.userId = u
    · subst hu
      cases hitems : admins.lookup row.userId with
      | none => simp
      | some items => simp
    · have hother : u ≠ row.userId := fun h => hu h.symm
      have hlookup : ∀ items, (admins.insert row.userId items).lookup u = admins.lookup u := by
        intro items
        rw [lookup_insert_eq, if_neg hother]
      cases hitems : admins.lookup row.userId with
      | none => simp [hlookup, hu]
      | some items => simp [hlookup, hu]

theorem lookup_queryAllAdmin (t : AdminTable) (u : Int) :
    (queryAllAdmin C t).lookup u =
      if rowsOf t u = [] then none else some ((rowsOf t u).map (setAdminItems C)) := by
  rw [queryAllAdmin, lookup_foldl_rows]
  simp [rowsOf, Table.select]

end AdminPoliciesStorageRdb

end Edm
