import Edm.Admin.AdminManager

/-! Who is an admin: the package, the type and the debug flag of each admin of each user, and what
becomes of them when one is added, removed or renamed.  The container of the admins follows it. -/

set_option autoImplicit false

namespace Edm

open Library Library.UnorderedMap

@[ext] structure AdminId where
  packageName : String
  adminType : AdminType
  isDebug : Bool
  deriving DecidableEq, Repr

def AdminInfo.id (item : AdminInfo) : AdminId := ⟨item.packageName, item.adminType, item.isDebug⟩

@[simp] theorem AdminInfo.construct_id (item : AdminInfo) : item.construct.id = item.id := by
  unfold AdminInfo.construct AdminInfo.id
  split <;> rfl

def AdminType.isAllowedAcrossAccountSetPolicy : AdminType → Bool
  | .ent | .normal | .subSuperAdmin | .virtualAdmin => true
  | .byod | .unknown => false

/-- The admins of each user. -/
abbrev Population := Int → List AdminId

namespace Population

variable (p : Population)

def insert (u : Int) (admin : AdminId) : Population := Function.update p u (p u ++ [admin])

def remove (packageName : String) (u : Int) : Population :=
  Function.update p u ((p u).filter fun admin => admin.packageName != packageName)

def renamed (packageName newName : String) (admin : AdminId) : AdminId :=
  if admin.packageName = packageName then { admin with packageName := newName } else admin

/-- A package of the default user gets another name. -/
def rename (packageName newName : String) : Population :=
  Function.update p DEFAULT_USER_ID ((p DEFAULT_USER_ID).map (renamed packageName newName))

/-- The admins that a user sees: its own, and those of the default user that act across accounts. -/
def visible (u : Int) : List AdminId :=
  if u = DEFAULT_USER_ID then p u
  else (p DEFAULT_USER_ID).filter (fun admin => admin.adminType.isAllowedAcrossAccountSetPolicy) ++ p u

def Known : Prop := ∀ u admin, admin ∈ p u → admin.adminType ≠ .unknown

variable {p}

theorem mem_insert {u v : Int} {admin other : AdminId} :
    other ∈ p.insert u admin v ↔ other ∈ p v ∨ v = u ∧ other = admin := by
  unfold insert
  by_cases hv : v = u
  · subst hv
    simp
  · simp [hv]

theorem mem_remove {u v : Int} {packageName : String} {admin : AdminId} :
    admin ∈ p.remove packageName u v ↔
      admin ∈ p v ∧ (v = u → admin.packageName ≠ packageName) := by
  unfold remove
  by_cases hv : v = u
  · subst hv
    simp
  · simp [hv]

theorem mem_visible {u : Int} {admin : AdminId} :
    admin ∈ p.visible u ↔ admin ∈ p u ∨
      admin ∈ p DEFAULT_USER_ID ∧ admin.adminType.isAllowedAcrossAccountSetPolicy = true := by
  unfold visible
  by_cases hu : u = DEFAULT_USER_ID
  · subst hu
    rw [if_pos rfl]
    exact ⟨.inl, fun h => h.elim id And.left⟩
  · rw [if_neg hu, List.mem_append, List.mem_filter]
    exact or_comm

theorem Known.insert (h : p.Known) {u : Int} {admin : AdminId} (hadmin : admin.adminType ≠ .unknown) :
    (p.insert u admin).Known := by
  intro v other hother
  rcases mem_insert.mp hother with hold | ⟨-, rfl⟩
  · exact h v other hold
  · exact hadmin

theorem Known.remove (h : p.Known) (packageName : String) (u : Int) :
    (p.remove packageName u).Known :=
  fun v admin hadmin => h v admin (mem_remove.mp hadmin).1

theorem mem_rename_of_ne {packageName newName : String} {v : Int} (hv : v ≠ DEFAULT_USER_ID)
    {admin : AdminId} : admin ∈ p.rename packageName newName v ↔ admin ∈ p v := by
  rw [rename, Function.update_of_ne hv]

theorem mem_rename_default {packageName newName : String} {admin : AdminId} :
    admin ∈ p.rename packageName newName DEFAULT_USER_ID ↔
      ∃ old, old ∈ p DEFAULT_USER_ID ∧ renamed packageName newName old = admin := by
  rw [rename, Function.update_self, List.mem_map]

theorem renamed_adminType (packageName newName : String) (admin : AdminId) :
    (renamed packageName newName admin).adminType = admin.adminType := by
  unfold renamed
  split <;> rfl

theorem renamed_isDebug (packageName newName : String) (admin : AdminId) :
    (renamed packageName newName admin).isDebug = admin.isDebug := by
  unfold renamed
  split <;> rfl

/-- A name that nobody has can be taken back. -/
theorem rename_rename {packageName newName : String}
    (h : newName = packageName ∨ ∀ admin, admin ∈ p DEFAULT_USER_ID → admin.packageName ≠ newName) :
    (p.rename packageName newName).rename newName packageName = p := by
  unfold rename
  rw [Function.update_self, Function.update_idem, List.map_map, Function.update_eq_self_iff]
  refine (List.map_congr_left fun admin hadmin => ?_).trans (List.map_id _)
  unfold renamed
  dsimp only [Function.comp_apply]
  split <;> rename_i hname
  · rw [if_pos rfl]
    exact AdminId.ext hname.symm rfl rfl
  · rcases h with rfl | h
    · rw [if_neg hname]
      rfl
    · rw [if_neg (h admin hadmin)]
      rfl

end Population

/-! ### The population of a container -/

namespace AdminContainer

variable (c : AdminContainer)

def population : Population := fun u => (c.adminsOf u).map AdminInfo.id

variable {c}

theorem mem_population {u : Int} {admin : AdminId} :
    admin ∈ c.population u ↔ ∃ item, item ∈ c.adminsOf u ∧ item.id = admin := List.mem_map

theorem population_setAdminByUserId {u : Int} {item : AdminInfo} (h : item.adminType ≠ .unknown) :
    population (c.setAdminByUserId u item) = c.population.insert u item.id := by
  funext v
  unfold population Population.insert
  rw [adminsOf, lookup_setAdminByUserId]
  by_cases hv : v = u
  · subst hv
    simp [h]
  · rw [if_neg fun hx => hv hx.1, Function.update_of_ne hv]
    rfl

theorem population_deleteAdmin (packageName : String) (u : Int) :
    population (c.deleteAdmin packageName u) = c.population.remove packageName u := by
  funext v
  unfold population Population.remove
  rw [adminsOf_deleteAdmin]
  by_cases hv : v = u
  · subst hv
    rw [if_pos rfl, Function.update_self, List.filter_map]
    rfl
  · rw [if_neg hv, Function.update_of_ne hv]

/-- The admins after a change of each admin of one user. -/
theorem adminsOf_mapped {c' : AdminContainer} {u : Int} {f : AdminInfo → AdminInfo}
    (h : ∀ v, c'.lookup v = if v = u then (c.lookup v).map (List.map f) else c.lookup v) (v : Int) :
    c'.adminsOf v = if v = u then (c.adminsOf v).map f else c.adminsOf v := by
  unfold adminsOf
  rw [h]
  split
  · cases c.lookup v <;> rfl
  · rfl

theorem adminsOf_updateAdmin (userId v : Int) (packageName : String) (code : List AdminField)
    (adminInfo : AdminInfo) :
    AdminContainer.adminsOf (c.updateAdmin userId packageName code adminInfo) v =
      if v = userId then (c.adminsOf v).map fun item =>
        if item.packageName = packageName then item.updated code adminInfo else item
      else c.adminsOf v :=
  adminsOf_mapped (fun v => c.lookup_updateAdmin userId v packageName code adminInfo) v

theorem adminsOf_updateParentAdminName (userId v : Int) (parentAdminName updateName : String) :
    AdminContainer.adminsOf (c.updateParentAdminName userId parentAdminName updateName) v =
      if v = userId then (c.adminsOf v).map fun admin =>
        if isChildOf parentAdminName admin then { admin with parentAdminName := updateName }
        else admin
      else c.adminsOf v :=
  adminsOf_mapped (fun v => c.lookup_updateParentAdminName userId v parentAdminName updateName) v

/-- An update that leaves the package, the type and the flag. -/
theorem population_updateAdmin {code : List AdminField} (hname : .packageName ∉ code)
    (htype : .adminType ∉ code) (hdebug : .isDebug ∉ code) (userId : Int) (packageName : String)
    (adminInfo : AdminInfo) :
    population (c.updateAdmin userId packageName code adminInfo) = c.population := by
  funext v
  unfold population
  rw [adminsOf_updateAdmin]
  split
  · rw [List.map_map]
    refine List.map_congr_left fun item _ => ?_
    dsimp only [Function.comp_apply]
    split
    · unfold AdminInfo.id AdminInfo.updated
      rw [if_neg hname, if_neg htype, if_neg hdebug]
    · rfl
  · rfl

theorem population_updateParentAdminName (userId : Int) (parentAdminName updateName : String) :
    population (c.updateParentAdminName userId parentAdminName updateName) = c.population := by
  funext v
  unfold population
  rw [adminsOf_updateParentAdminName]
  split
  · rw [List.map_map]
    refine List.map_congr_left fun item _ => ?_
    dsimp only [Function.comp_apply]
    split <;> rfl
  · rfl

/-- The update that replaces a super admin. -/
theorem population_updateAdmin_name (packageName : String) (adminInfo : AdminInfo) :
    population (c.updateAdmin DEFAULT_USER_ID packageName [.packageName, .className, .enableSource]
      adminInfo) = c.population.rename packageName adminInfo.packageName := by
  funext v
  unfold population Population.rename
  rw [adminsOf_updateAdmin]
  by_cases hv : v = DEFAULT_USER_ID
  · subst hv
    rw [if_pos rfl, Function.update_self, List.map_map, List.map_map]
    refine List.map_congr_left fun item _ => ?_
    dsimp only [Function.comp_apply, Population.renamed, AdminInfo.id]
    split
    · simp [AdminInfo.updated]
    · rfl
  · rw [if_neg hv, Function.update_of_ne hv]

theorem getSuperDeviceAdminAndDeviceAdminCount_eq :
    ((c.adminsOf DEFAULT_USER_ID).filter fun item =>
      item.adminType == .ent || item.adminType == .normal).length =
      (c.population DEFAULT_USER_ID).countP fun admin =>
        admin.adminType == .ent || admin.adminType == .normal := by
  rw [population, List.countP_map, List.countP_eq_length_filter]
  rfl

end AdminContainer

/-! ### Looking up an admin -/

namespace AdminManager

variable {c : AdminContainer}

/-- A copy of an admin has its identity. -/
theorem createAdmin_id {item : AdminInfo} {admin : Admin} (h : createAdmin item = some admin) :
    admin.adminInfo.id = item.id := by
  rw [(createAdmin_eq_some h).2, AdminInfo.construct_id]

theorem isAllowedAcrossAccountSetPolicy_eq (admin : Admin) :
    admin.isAllowedAcrossAccountSetPolicy =
      admin.adminInfo.id.adminType.isAllowedAcrossAccountSetPolicy := rfl

theorem getAdminByUserId_eq (u : Int) :
    getAdminByUserId c u = (c.adminsOf u).filterMap createAdmin := by
  unfold getAdminByUserId AdminContainer.getAdminCopyByUserId AdminContainer.adminsOf
  cases c.lookup u <;> rfl

theorem mem_getAdminByUserId {u : Int} {admin : Admin} :
    admin ∈ getAdminByUserId c u ↔ ∃ item, item ∈ c.adminsOf u ∧ createAdmin item = some admin := by
  rw [getAdminByUserId_eq, List.mem_filterMap]

/-- The admins that can be copied are those of a known type. -/
theorem exists_copy (h : c.population.Known) {u : Int} {item : AdminInfo}
    (hitem : item ∈ c.adminsOf u) : ∃ admin, createAdmin item = some admin := by
  have hknown : item.adminType ≠ .unknown := h u item.id (List.mem_map_of_mem hitem)
  unfold createAdmin
  rw [dif_neg hknown]
  exact ⟨_, rfl⟩

/-- What a lookup finds. -/
theorem getAdminByPkgName_some {packageName : String} {u : Int} {admin : Admin}
    (h : getAdminByPkgName c packageName u = some admin) :
    ∃ v item, (v = u ∨ v = DEFAULT_USER_ID ∧ admin.isAllowedAcrossAccountSetPolicy = true) ∧
      item ∈ c.adminsOf v ∧ createAdmin item = some admin ∧ item.packageName = packageName := by
  have hown : ((getAdminByUserId c u).find? fun admin =>
      admin.adminInfo.packageName == packageName) = some admin →
      ∃ v item, (v = u ∨ v = DEFAULT_USER_ID ∧ admin.isAllowedAcrossAccountSetPolicy = true) ∧
        item ∈ c.adminsOf v ∧ createAdmin item = some admin ∧ item.packageName = packageName := by
    intro hfind
    obtain ⟨item, hitem, hcopy⟩ := mem_getAdminByUserId.mp (List.mem_of_find?_eq_some hfind)
    have hname := List.find?_some hfind
    have hid := congrArg AdminId.packageName (createAdmin_id hcopy)
    exact ⟨u, item, .inl rfl, hitem, hcopy, hid.symm.trans (beq_iff_eq.mp hname)⟩
  unfold getAdminByPkgName at h
  split at h
  · exact hown h
  · rcases Option.or_eq_some_iff.mp h with hacross | ⟨-, hfind⟩
    · have hfound := List.find?_some hacross
      simp only [Bool.and_eq_true, beq_iff_eq] at hfound
      obtain ⟨item, hitem, hcopy⟩ := mem_getAdminByUserId.mp (List.mem_of_find?_eq_some hacross)
      have hid := congrArg AdminId.packageName (createAdmin_id hcopy)
      exact ⟨DEFAULT_USER_ID, item, .inr ⟨rfl, hfound.2⟩, hitem, hcopy, hid.symm.trans hfound.1⟩
    · exact hown hfind

theorem getAdminByPkgName_visible {packageName : String} {u : Int} {admin : Admin}
    (h : getAdminByPkgName c packageName u = some admin) :
    admin.adminInfo.id ∈ c.population.visible u := by
  obtain ⟨v, item, hv, hitem, hcopy, -⟩ := getAdminByPkgName_some h
  have hmem : admin.adminInfo.id ∈ c.population v :=
    AdminContainer.mem_population.mpr ⟨item, hitem, (createAdmin_id hcopy).symm⟩
  rcases hv with rfl | ⟨rfl, hacross⟩
  · exact Population.mem_visible.mpr (.inl hmem)
  · exact Population.mem_visible.mpr (.inr ⟨hmem, hacross⟩)

/-- A lookup finds nothing exactly when the user sees no admin of the package. -/
theorem getAdminByPkgName_eq_none (h : c.population.Known) {packageName : String} {u : Int} :
    getAdminByPkgName c packageName u = none ↔
      ∀ admin, admin ∈ c.population.visible u → admin.packageName ≠ packageName := by
  constructor
  · intro hnone admin hvisible hname
    rcases Population.mem_visible.mp hvisible with hmem | ⟨hmem, hacross⟩
    · obtain ⟨item, hitem, rfl⟩ := AdminContainer.mem_population.mp hmem
      obtain ⟨copy, hcopy⟩ := exists_copy h hitem
      have hown : ((getAdminByUserId c u).find? fun admin =>
          admin.adminInfo.packageName == packageName) = none := by
        unfold getAdminByPkgName at hnone
        split at hnone
        · exact hnone
        · exact (Option.or_eq_none_iff.mp hnone).2
      have hother := List.find?_eq_none.mp hown copy (mem_getAdminByUserId.mpr ⟨item, hitem, hcopy⟩)
      have hid := congrArg AdminId.packageName (createAdmin_id hcopy)
      exact hother (beq_iff_eq.mpr (hid.trans hname))
    · obtain ⟨item, hitem, rfl⟩ := AdminContainer.mem_population.mp hmem
      obtain ⟨copy, hcopy⟩ := exists_copy h hitem
      have hid := createAdmin_id hcopy
      have hcopied := mem_getAdminByUserId.mpr ⟨item, hitem, hcopy⟩
      have hcopyName : copy.adminInfo.packageName = packageName :=
        (congrArg AdminId.packageName hid).trans hname
      unfold getAdminByPkgName at hnone
      split at hnone <;> rename_i hu
      · subst hu
        exact List.find?_eq_none.mp hnone copy hcopied (beq_iff_eq.mpr hcopyName)
      · have hacrossNone := (Option.or_eq_none_iff.mp hnone).1
        refine List.find?_eq_none.mp hacrossNone copy hcopied ?_
        rw [isAllowedAcrossAccountSetPolicy_eq, hid, hacross, hcopyName, beq_self_eq_true]
        rfl
  · intro hnone
    by_contra hsome
    obtain ⟨admin, hfound⟩ := Option.ne_none_iff_exists'.mp hsome
    exact hnone _ (getAdminByPkgName_visible hfound)
      (getAdminByPkgName_packageName hfound)

/-- `SetAdminValue` leaves the container, updates what it finds, or adds the admin. -/
theorem setAdminValue_cases (C : CJson) (s : AdminState) (write : RdbOutcome) (u : Int)
    (item : AdminInfo) :
    (setAdminValue C s write u item).2.container = s.container ∨
      (write = .done ∧ getAdminByPkgName s.container item.packageName u ≠ none ∧
        (setAdminValue C s write u item).2.container =
          s.container.updateAdmin u item.packageName setAdminValueCode item) ∨
      write = .done ∧ getAdminByPkgName s.container item.packageName u = none ∧
        (setAdminValue C s write u item).2.container = s.container.setAdminByUserId u item := by
  unfold setAdminValue
  cases hfound : getAdminByPkgName s.container item.packageName u with
  | some admin =>
    cases write with
    | unavailable => exact .inl rfl
    | failed => exact .inl rfl
    | done => exact .inr (.inl ⟨rfl, Option.some_ne_none admin, rfl⟩)
  | none =>
    cases write with
    | unavailable => exact .inl rfl
    | failed => exact .inl rfl
    | done => exact .inr (.inr ⟨rfl, rfl, rfl⟩)

/-- An admin after `SetAdminValue` was there before, was updated, or is the one that was set. -/
theorem mem_setAdminValue {C : CJson} {s : AdminState} {write : RdbOutcome} {u v : Int}
    {adminItem item : AdminInfo}
    (h : item ∈ (setAdminValue C s write u adminItem).2.container.adminsOf v) :
    item ∈ s.container.adminsOf v ∨
      (v = u ∧ ∃ old, old ∈ s.container.adminsOf u ∧ old.packageName = adminItem.packageName ∧
        item = old.updated setAdminValueCode adminItem) ∨
      v = u ∧ getAdminByPkgName s.container adminItem.packageName u = none ∧
        item = adminItem.construct := by
  rcases setAdminValue_cases C s write u adminItem with hsame | ⟨-, -, hupdated⟩ | ⟨-, hnone, hadded⟩
  · rw [hsame] at h
    exact .inl h
  · rw [hupdated, AdminContainer.adminsOf_updateAdmin] at h
    split at h
    · rename_i hv
      subst hv
      obtain ⟨old, hold, rfl⟩ := List.mem_map.mp h
      split
      · rename_i hname
        exact .inr (.inl ⟨rfl, old, hold, hname, rfl⟩)
      · exact .inl hold
    · exact .inl h
  · rw [hadded, AdminContainer.adminsOf, AdminContainer.lookup_setAdminByUserId] at h
    split at h
    · rename_i hv
      obtain ⟨rfl, -⟩ := hv
      rw [Option.getD_some, List.mem_append, List.mem_singleton] at h
      exact h.imp_right fun hitem => .inr ⟨rfl, hnone, hitem⟩
    · exact .inl h

/-- `SetAdminValue` leaves the population, or adds an admin that the user does not see yet. -/
theorem population_setAdminValue {C : CJson} {s : AdminState} (h : s.container.population.Known)
    (write : RdbOutcome) (u : Int) {item : AdminInfo} (hitem : item.adminType ≠ .unknown) :
    (setAdminValue C s write u item).2.container.population = s.container.population ∨
      write = .done ∧
      (∀ admin, admin ∈ s.container.population.visible u →
        admin.packageName ≠ item.packageName) ∧
      (setAdminValue C s write u item).2.container.population =
        s.container.population.insert u item.id := by
  rcases setAdminValue_cases C s write u item with hsame | ⟨-, -, hupdated⟩ | ⟨hwrite, hnone, hadded⟩
  · exact .inl (congrArg AdminContainer.population hsame)
  · rw [hupdated]
    exact .inl (AdminContainer.population_updateAdmin (by decide) (by decide) (by decide) _ _ _)
  · rw [hadded]
    exact .inr ⟨hwrite, (getAdminByPkgName_eq_none h).mp hnone,
      AdminContainer.population_setAdminByUserId hitem⟩

/-- `ReplaceSuperAdminByPackageName` fails and leaves the container, or updates it. -/
theorem replace_cases (C : CJson) (s : AdminState) (write : RdbOutcome) (parents : Option Nat)
    (packageName : String) (newAdminInfo : AdminInfo) :
    ((replaceSuperAdminByPackageName C s write parents packageName newAdminInfo).1 ≠ ERR_OK ∧
        (replaceSuperAdminByPackageName C s write parents packageName newAdminInfo).2.container =
          s.container) ∨
      (replaceSuperAdminByPackageName C s write parents packageName newAdminInfo).1 = ERR_OK ∧
        (replaceSuperAdminByPackageName C s write parents packageName newAdminInfo).2.container =
          AdminContainer.updateParentAdminName (s.container.updateAdmin DEFAULT_USER_ID packageName
            [.packageName, .className, .enableSource] newAdminInfo) DEFAULT_USER_ID packageName
            newAdminInfo.packageName := by
  have hrdb : ERR_GET_STORAGE_RDB_FAILED ≠ ERR_OK := by decide
  have hparent : ERR_SET_PARENT_ADMIN_FAILED ≠ ERR_OK := by decide
  have habnormal : EdmReturnErrCode.SYSTEM_ABNORMALLY ≠ ERR_OK := by decide
  unfold replaceSuperAdminByPackageName
  cases write with
  | unavailable => exact .inl ⟨hrdb, rfl⟩
  | failed =>
    refine .inl ?_
    cases parents <;> dsimp only <;> split
    · exact ⟨hparent, rfl⟩
    · exact ⟨habnormal, rfl⟩
    · exact ⟨hparent, rfl⟩
    · exact ⟨habnormal, rfl⟩
  | done =>
    cases parents <;> dsimp only <;> split
    · exact .inl ⟨hparent, rfl⟩
    · exact .inr ⟨rfl, rfl⟩
    · exact .inl ⟨hparent, rfl⟩
    · exact .inr ⟨rfl, rfl⟩

/-- `ReplaceSuperAdminByPackageName` fails and leaves the population, or renames the package. -/
theorem population_replace (C : CJson) (s : AdminState) (write : RdbOutcome) (parents : Option Nat)
    (packageName : String) (newAdminInfo : AdminInfo) :
    ((replaceSuperAdminByPackageName C s write parents packageName newAdminInfo).1 ≠ ERR_OK ∧
        (replaceSuperAdminByPackageName C s write parents packageName
          newAdminInfo).2.container.population = s.container.population) ∨
      (replaceSuperAdminByPackageName C s write parents packageName newAdminInfo).1 = ERR_OK ∧
        (replaceSuperAdminByPackageName C s write parents packageName
          newAdminInfo).2.container.population =
          s.container.population.rename packageName newAdminInfo.packageName := by
  rcases replace_cases C s write parents packageName newAdminInfo with ⟨hret, hsame⟩ | ⟨hret, hdone⟩
  · exact .inl ⟨hret, congrArg AdminContainer.population hsame⟩
  · rw [hdone, AdminContainer.population_updateParentAdminName,
      AdminContainer.population_updateAdmin_name]
    exact .inr ⟨hret, rfl⟩

/-- `DeleteAdmin` leaves the population, or removes the package. -/
theorem population_deleteAdmin (s : AdminState) (write : RdbOutcome) (packageName : String)
    (u : Int) :
    (deleteAdmin s write packageName u).2.container.population = s.container.population ∨
      (deleteAdmin s write packageName u).2.container.population =
        s.container.population.remove packageName u := by
  unfold deleteAdmin
  split
  · cases write with
    | unavailable => exact .inl rfl
    | failed => exact .inl rfl
    | done => exact .inr (AdminContainer.population_deleteAdmin packageName u)
  · exact .inl rfl

/-- The admins after their events were stored, if they were. -/
theorem storeEvents_container (C : CJson) (s : AdminState) (write : RdbOutcome) (admin : Admin)
    (userId : Int) (managedEvents : List ManagedEvent) :
    (storeEvents C s write admin userId managedEvents).2.container = s.container ∨
      (storeEvents C s write admin userId managedEvents).2.container =
        s.container.updateAdmin userId admin.adminInfo.packageName [.managedEvents]
          { admin.adminInfo with managedEvents } := by
  unfold storeEvents
  cases write with
  | unavailable => exact .inl rfl
  | failed =>
    dsimp only
    split
    · exact .inl rfl
    · exact .inr rfl
  | done =>
    dsimp only
    split
    · exact .inl rfl
    · exact .inr rfl

/-- Events are written for one admin of one user, or not at all. -/
def EventsWritten (c : AdminContainer) (packageName : String) (u : Int) (c' : AdminContainer) :
    Prop :=
  c' = c ∨ ∃ adminInfo, c' = c.updateAdmin u packageName [.managedEvents] adminInfo

theorem eventsWritten_save (C : CJson) (s : AdminState) (write : RdbOutcome) (events : List UInt32)
    (packageName : String) (u : Int) :
    EventsWritten s.container packageName u
      (saveSubscribeEvents C s write events packageName u).2.container := by
  unfold saveSubscribeEvents
  cases hfound : getAdminByPkgName s.container packageName u with
  | none => exact .inl rfl
  | some admin =>
    rw [← getAdminByPkgName_packageName hfound]
    exact (storeEvents_container C s write admin u _).imp_right fun hx => ⟨_, hx⟩

theorem eventsWritten_remove (C : CJson) (s : AdminState) (write : RdbOutcome)
    (events : List UInt32) (packageName : String) (u : Int) :
    EventsWritten s.container packageName u
      (removeSubscribeEvents C s write events packageName u).2.container := by
  unfold removeSubscribeEvents
  cases hfound : getAdminByPkgName s.container packageName u with
  | none => exact .inl rfl
  | some admin =>
    rw [← getAdminByPkgName_packageName hfound]
    exact (storeEvents_container C s write admin u _).imp_right fun hx => ⟨_, hx⟩

theorem EventsWritten.population {packageName : String} {u : Int} {c' : AdminContainer}
    (h : EventsWritten c packageName u c') : c'.population = c.population := by
  rcases h with rfl | ⟨adminInfo, rfl⟩
  · rfl
  · exact AdminContainer.population_updateAdmin (by decide) (by decide) (by decide) _ _ _

end AdminManager

end Edm
