import Edm.Admin.AdminManager
import Edm.Library.Run

/-! The admins in memory as a cache of the table.  A restart reads the container back from the table;
it finds the admins that were there while no operation has written a field to one of the two only. -/

set_option autoImplicit false

namespace Edm

open Library Library.UnorderedMap AdminPoliciesStorageRdb

/-- The fields that are compared: all but the debug flag and the source. -/
def AdminInfo.view (item : AdminInfo) : AdminInfo :=
  { item with isDebug := false, enableSource := .deploy }

/-- The admin that a restart makes of a row. -/
def AdminRow.read (C : CJson) (row : AdminRow) : AdminInfo := (setAdminItems C row).construct.view

/-- A restart finds the admins that are in memory. -/
def Reloads (C : CJson) (s : AdminState) : Prop :=
  ∀ u, ((AdminManager.init C s.table).lookup u).map (List.map AdminInfo.view) =
    (s.container.lookup u).map (List.map AdminInfo.view)

/-- Rows and admins correspond, one by one. -/
structure MirrorsTable (C : CJson) (s : AdminState) : Prop where
  users : ∀ u, s.container.lookup u = none ↔ rowsOf s.table u = []
  admins : ∀ u, (rowsOf s.table u).map (AdminRow.read C) =
    (s.container.adminsOf u).map AdminInfo.view
  known : ∀ u item, item ∈ s.container.adminsOf u → item.adminType ≠ .unknown

variable {C : CJson}

@[simp] theorem AdminRow.read_adminType (row : AdminRow) :
    (row.read C).adminType = row.adminType :=
  AdminInfo.construct_adminType _

@[simp] theorem AdminRow.read_packageName (row : AdminRow) :
    (row.read C).packageName = row.packageName :=
  AdminInfo.construct_packageName _

@[simp] theorem AdminRow.read_parentAdminName (row : AdminRow) :
    (row.read C).parentAdminName = row.parentAdmin :=
  AdminInfo.construct_parentAdminName _

theorem mirrorsTable_boot : MirrorsTable C AdminState.boot where
  users u := by simp [AdminState.boot, rowsOf, Table.select, Table.empty]
  admins u := by
    simp [AdminState.boot, rowsOf, Table.select, Table.empty, AdminContainer.adminsOf]
  known u item h := by simp [AdminState.boot, AdminContainer.adminsOf] at h

/-- Infos of known types all become admins. -/
theorem map_createAdmin {infos : List AdminInfo}
    (h : ∀ info, info ∈ infos → info.adminType ≠ .unknown) :
    (infos.filterMap createAdmin).map Admin.adminInfo = infos.map AdminInfo.construct := by
  induction infos with
  | nil => rfl
  | cons info infos ih =>
    have hinfo := createAdmin_of_known (h info List.mem_cons_self)
    obtain ⟨admin, hadmin, hconstruct⟩ := Option.map_eq_some_iff.mp hinfo
    rw [List.filterMap_cons, hadmin, List.map_cons, hconstruct, List.map_cons,
      ih fun other hother => h other (List.mem_cons_of_mem info hother)]

namespace MirrorsTable

variable {s s' : AdminState}

theorem exists_item (h : MirrorsTable C s) {u : Int} {row : AdminRow}
    (hrow : row ∈ rowsOf s.table u) :
    ∃ item, item ∈ s.container.adminsOf u ∧ item.view = row.read C := by
  have hread : row.read C ∈ (s.container.adminsOf u).map AdminInfo.view := by
    rw [← h.admins]
    exact List.mem_map_of_mem hrow
  exact List.mem_map.mp hread

theorem row_known (h : MirrorsTable C s) {u : Int} {row : AdminRow} (hrow : row ∈ rowsOf s.table u) :
    row.adminType ≠ .unknown := by
  obtain ⟨item, hitem, hview⟩ := h.exists_item hrow
  rw [← AdminRow.read_adminType (C := C), ← hview]
  exact h.known u item hitem

theorem lookup_eq (h : MirrorsTable C s) (u : Int) :
    s.container.lookup u =
      if rowsOf s.table u = [] then none else some (s.container.adminsOf u) := by
  split <;> rename_i hrows
  · exact (h.users u).mpr hrows
  · cases hlookup : s.container.lookup u with
    | none => exact absurd ((h.users u).mp hlookup) hrows
    | some admins => simp [AdminContainer.adminsOf, hlookup]

theorem reloads (h : MirrorsTable C s) : Reloads C s := by
  intro u
  rw [AdminManager.init, AdminContainer.lookup_initAdmins, lookup_queryAllAdmin, h.lookup_eq]
  by_cases hrows : rowsOf s.table u = []
  · simp [hrows]
  · have hknown : ∀ info, info ∈ (rowsOf s.table u).map (setAdminItems C) →
        info.adminType ≠ .unknown := by
      intro info hinfo
      obtain ⟨row, hrow, rfl⟩ := List.mem_map.mp hinfo
      exact h.row_known hrow
    simp only [hrows, if_false, Option.map_some, Option.some_or, map_createAdmin hknown,
      List.map_map, Option.some.injEq]
    exact h.admins u

/-- An operation that changes rows and admins one by one, in step. -/
theorem map (h : MirrorsTable C s) {g : AdminRow → AdminRow} {f G : Int → AdminInfo → AdminInfo}
    (hrows : ∀ u, rowsOf s'.table u = (rowsOf s.table u).map g)
    (hlookup : ∀ u, s'.container.lookup u = (s.container.lookup u).map (List.map (f u)))
    (hread : ∀ u row, row ∈ rowsOf s.table u → (g row).read C = G u (row.read C))
    (hview : ∀ u item, item ∈ s.container.adminsOf u →
      G u item.view = (f u item).view ∧ (f u item).adminType = item.adminType) :
    MirrorsTable C s' := by
  have hadmins : ∀ u, s'.container.adminsOf u = (s.container.adminsOf u).map (f u) := by
    intro u
    rw [AdminContainer.adminsOf, hlookup, AdminContainer.adminsOf]
    cases s.container.lookup u <;> rfl
  refine ⟨fun u => ?_, fun u => ?_, fun u item hitem => ?_⟩
  · rw [hlookup, hrows, Option.map_eq_none_iff, List.map_eq_nil_iff, h.users]
  · calc (rowsOf s'.table u).map (AdminRow.read C)
        = (rowsOf s.table u).map fun row => G u (row.read C) := by
          rw [hrows, List.map_map]
          exact List.map_congr_left fun row hrow => hread u row hrow
      _ = ((s.container.adminsOf u).map AdminInfo.view).map (G u) := by
          rw [← h.admins, List.map_map]
          rfl
      _ = (s'.container.adminsOf u).map AdminInfo.view := by
          rw [hadmins, List.map_map, List.map_map]
          exact List.map_congr_left fun item hitem => (hview u item hitem).1
  · rw [hadmins] at hitem
    obtain ⟨old, hold, rfl⟩ := List.mem_map.mp hitem
    rw [(hview u old hold).2]
    exact h.known u old hold

end MirrorsTable

/-! ### Updates of a row -/

/-- What `CreateUpdateValuesBucket` makes of the admin that a restart reads. -/
def AdminInfo.overwritten (item adminItem : AdminInfo) : AdminInfo :=
  { item with
    className := if adminItem.className = "" then item.className else adminItem.className
    entInfo :=
      { enterpriseName :=
          if adminItem.entInfo.enterpriseName = "" then item.entInfo.enterpriseName
          else adminItem.entInfo.enterpriseName
        description :=
          if adminItem.entInfo.description = "" then item.entInfo.description
          else adminItem.entInfo.description }
    permission := readBack adminItem.permission
    accessiblePolicies :=
      if item.adminType ≠ .byod ∧ adminItem.adminType = .virtualAdmin then
        readBack adminItem.accessiblePolicies
      else item.accessiblePolicies
    runningMode :=
      if adminItem.runningMode = .default then item.runningMode else adminItem.runningMode }

theorem getD_written (column : Option String) (text : String) :
    (if text = "" then column else some text).getD "" =
      if text = "" then column.getD "" else text := by
  split <;> rfl

theorem read_createUpdateValuesBucket (adminItem : AdminInfo) (row : AdminRow) :
    (createUpdateValuesBucket C adminItem row).read C = (row.read C).overwritten adminItem := by
  by_cases hbyod : row.adminType = .byod
  · simp [AdminRow.read, setAdminItems, createUpdateValuesBucket, AdminInfo.construct, hbyod,
      AdminInfo.overwritten, AdminInfo.view, setAdminStringInfo_stringArray, getD_written]
  · rw [AdminRow.read, AdminRow.read, AdminInfo.construct_of_ne_byod hbyod,
      AdminInfo.construct_of_ne_byod hbyod]
    simp only [setAdminItems, createUpdateValuesBucket, AdminInfo.overwritten, AdminInfo.view,
      getD_written, Option.map_some, setAdminStringInfo_stringArray, Option.getD_some, hbyod,
      ne_eq, not_false_eq_true, true_and, AdminInfo.mk.injEq]
    split <;> simp [setAdminStringInfo_stringArray]

/-- A field that a statement skips at one value: what is then in the table and in memory is equal. -/
def SkippedKeeps {α : Type} (skipped : α) (flagged : Prop) (new old : α) : Prop :=
  (flagged → new = skipped → old = skipped) ∧ (¬flagged → new = skipped ∨ new = old)

theorem SkippedKeeps.eq {α : Type} [DecidableEq α] {skipped new old : α} {flagged : Prop}
    [Decidable flagged] (h : SkippedKeeps skipped flagged new old) :
    (if new = skipped then old else new) = if flagged then new else old := by
  by_cases hflagged : flagged
  · by_cases hnew : new = skipped
    · rw [if_pos hnew, if_pos hflagged, h.1 hflagged hnew, hnew]
    · rw [if_neg hnew, if_pos hflagged]
  · by_cases hnew : new = skipped
    · rw [if_pos hnew, if_neg hflagged]
    · rw [if_neg hnew, if_neg hflagged, (h.2 hflagged).resolve_left hnew]

/-- An array that a statement writes. -/
def ArrayKeeps (flagged : Prop) (new old : List String) : Prop :=
  (flagged → new.length ≤ DEFAULT_LOOP_MAX_SIZE) ∧ (¬flagged → readBack new = old)

theorem ArrayKeeps.eq {new old : List String} {flagged : Prop} [Decidable flagged]
    (h : ArrayKeeps flagged new old) : readBack new = if flagged then new else old := by
  by_cases hflagged : flagged
  · rw [if_pos hflagged, readBack_of_le (h.1 hflagged)]
  · rw [if_neg hflagged, h.2 hflagged]

/-- The updates of an admin that change the same in the table and in memory: what the bucket skips
is not flagged or not there, and what is flagged is written. -/
structure UpdateKeeps (code : List AdminField) (adminItem item : AdminInfo) : Prop where
  className : SkippedKeeps "" (.className ∈ code) adminItem.className item.className
  enterpriseName : SkippedKeeps "" (.entInfo ∈ code) adminItem.entInfo.enterpriseName
    item.entInfo.enterpriseName
  description : SkippedKeeps "" (.entInfo ∈ code) adminItem.entInfo.description
    item.entInfo.description
  permission : ArrayKeeps (.permission ∈ code) adminItem.permission item.permission
  managedEvents : .managedEvents ∈ code → adminItem.managedEvents = item.managedEvents
  parentAdminName : .parentAdminName ∈ code → adminItem.parentAdminName = item.parentAdminName
  accessible_written : item.adminType ≠ .byod ∧ adminItem.adminType = .virtualAdmin →
    ArrayKeeps (.accessiblePolicies ∈ code) adminItem.accessiblePolicies item.accessiblePolicies
  accessible_skipped : ¬(item.adminType ≠ .byod ∧ adminItem.adminType = .virtualAdmin) →
    .accessiblePolicies ∈ code → adminItem.accessiblePolicies = item.accessiblePolicies
  adminType : .adminType ∈ code → adminItem.adminType = item.adminType
  runningMode : SkippedKeeps .default (.runningMode ∈ code) adminItem.runningMode item.runningMode

theorem ite_flagged {α : Type} {flagged : Prop} [Decidable flagged] {new old : α}
    (h : flagged → new = old) : old = if flagged then new else old := by
  split
  · rename_i hflagged
    exact (h hflagged).symm
  · rfl

theorem UpdateKeeps.view_eq {code : List AdminField} {adminItem item : AdminInfo}
    (h : UpdateKeeps code adminItem item) (hname : item.packageName = adminItem.packageName) :
    item.view.overwritten adminItem = (item.updated code adminItem).view := by
  ext1
  · exact ite_flagged fun _ => hname.symm
  · exact h.className.eq
  · show _ = if _ then _ else _
    ext1
    · rw [apply_ite EntInfo.enterpriseName]
      exact h.enterpriseName.eq
    · rw [apply_ite EntInfo.description]
      exact h.description.eq
  · exact h.permission.eq
  · exact ite_flagged h.managedEvents
  · exact ite_flagged h.parentAdminName
  · show (if item.adminType ≠ .byod ∧ adminItem.adminType = .virtualAdmin then _ else _) = _
    split <;> rename_i hwritten
    · exact (h.accessible_written hwritten).eq
    · exact ite_flagged (h.accessible_skipped hwritten)
  · exact ite_flagged h.adminType
  · rfl
  · exact h.runningMode.eq
  · rfl

/-! ### One operation -/

theorem rowsOf_update (t : AdminTable) (pred : AdminRow → Bool) (set : AdminRow → AdminRow)
    (huser : ∀ row, pred row = true → (set row).userId = row.userId) (u : Int) :
    rowsOf (t.update pred set) u =
      (rowsOf t u).map fun row => if pred row then set row else row :=
  Table.select_update t pred set fun row hrow => by rw [huser row hrow]

section Operation

variable {s s' : AdminState}

/-- An operation that changes the rows and the admins of one package of a user. -/
theorem MirrorsTable.update (h : MirrorsTable C s) (written : AdminInfo → AdminInfo) {u : Int}
    {p : String} {set : AdminRow → AdminRow} {change : AdminInfo → AdminInfo}
    (htable : s'.table = s.table.update (fun row => row.key = (u, p)) set)
    (hcontainer : ∀ v, s'.container.lookup v =
      if v = u then
        (s.container.lookup v).map (List.map fun item =>
          if item.packageName = p then change item else item)
      else s.container.lookup v)
    (huser : ∀ row, (set row).userId = row.userId)
    (hread : (∃ item, item ∈ s.container.adminsOf u ∧ item.packageName = p) →
      ∀ row, (set row).read C = written (row.read C))
    (hview : ∀ item, item ∈ s.container.adminsOf u → item.packageName = p →
      written item.view = (change item).view ∧ (change item).adminType = item.adminType) :
    MirrorsTable C s' := by
  refine h.map
    (g := fun row => if row.key = (u, p) then set row else row)
    (f := fun v item => if v = u ∧ item.packageName = p then change item else item)
    (G := fun v item => if v = u ∧ item.packageName = p then written item else item)
    (fun v => ?_) (fun v => ?_) (fun v row hrow => ?_) (fun v item hitem => ?_)
  · rw [htable, rowsOf_update _ _ _ fun row _ => huser row]
    simp only [decide_eq_true_eq]
  · rw [hcontainer]
    by_cases hv : v = u
    · simp [hv]
    · simp [hv]
  · have huser : row.userId = v := by simpa using (List.mem_filter.mp hrow).2
    simp only [AdminRow.key, Prod.mk.injEq, AdminRow.read_packageName, huser]
    split <;> rename_i hkey
    · obtain ⟨rfl, hname⟩ := hkey
      obtain ⟨item, hitem, hitemView⟩ := h.exists_item hrow
      refine hread ⟨item, hitem, ?_⟩ row
      rw [← hname, ← AdminRow.read_packageName (C := C), ← hitemView]
      rfl
    · rfl
  · by_cases hentry : v = u ∧ item.packageName = p
    · obtain ⟨rfl, hname⟩ := hentry
      obtain ⟨hwritten, htype⟩ := hview item hitem hname
      have hviewName : item.view.packageName = p := hname
      simp only [hname, hviewName, and_self, if_true]
      exact ⟨hwritten, htype⟩
    · have hviewEntry : ¬(v = u ∧ item.view.packageName = p) := hentry
      rw [if_neg hentry, if_neg hviewEntry]
      exact ⟨rfl, rfl⟩

theorem mirrorsTable_updateAdmin (h : MirrorsTable C s) {u : Int} {adminItem : AdminInfo}
    {code : List AdminField}
    (hkeeps : ∀ item, item ∈ s.container.adminsOf u → item.packageName = adminItem.packageName →
      UpdateKeeps code adminItem item) :
    MirrorsTable C (AdminManager.updateAdmin C s .done u adminItem code).2 :=
  h.update (fun item => item.overwritten adminItem) rfl
    (fun _ => AdminContainer.lookup_updateAdmin _ _ _ _ _ _) (fun _ => rfl)
    (fun _ => read_createUpdateValuesBucket adminItem) fun item hitem hname =>
      ⟨(hkeeps item hitem hname).view_eq hname,
        (ite_flagged (hkeeps item hitem hname).adminType).symm⟩

theorem mirrorsTable_setEntInfo (h : MirrorsTable C s) (admin : Admin) (entInfo : EntInfo)
    (u : Int) : MirrorsTable C (AdminManager.setEntInfo s .done admin entInfo u).2 := by
  refine h.update (fun item => { item with entInfo }) rfl
    (fun _ => AdminContainer.lookup_updateAdmin _ _ _ _ _ _) (fun _ => rfl) (fun _ row => ?_)
    fun item _ _ => ⟨rfl, rfl⟩
  unfold AdminRow.read AdminInfo.construct AdminInfo.view setAdminItems
  dsimp only
  cases row.adminType <;> rfl

/-- The events that are the same in the table and in memory once they are stored. -/
def EventsKeep (managedEvents : List ManagedEvent) (admin item : AdminInfo) : Prop :=
  if managedEvents.length = admin.managedEvents.length then item.managedEvents = managedEvents
  else
    managedEvents.length ≤ DEFAULT_LOOP_MAX_SIZE ∧
      ∀ event, event ∈ managedEvents → event.toNat ≤ INT_MAX

theorem mirrorsTable_storeEvents (h : MirrorsTable C s) {admin : Admin} {u : Int}
    {managedEvents : List ManagedEvent}
    (hkeep : ∀ item, item ∈ s.container.adminsOf u →
      item.packageName = admin.adminInfo.packageName →
        EventsKeep managedEvents admin.adminInfo item) :
    MirrorsTable C (AdminManager.storeEvents C s .done admin u managedEvents).2 := by
  rw [AdminManager.storeEvents_done]
  by_cases hlength : managedEvents.length = admin.adminInfo.managedEvents.length
  · rw [if_pos hlength]
    refine h.update id ?_ (fun _ => AdminContainer.lookup_updateAdmin _ _ _ _ _ _)
      (fun _ => rfl) (fun _ _ => rfl) fun item hitem hname => ⟨?_, rfl⟩
    · simp [Table.update]
    · have hevents := hkeep item hitem hname
      rw [EventsKeep, if_pos hlength] at hevents
      show item.view = { item.view with managedEvents }
      rw [← hevents]
      rfl
  · rw [if_neg hlength]
    refine h.update (fun item => { item with managedEvents }) rfl
      (fun _ => AdminContainer.lookup_updateAdmin _ _ _ _ _ _) (fun _ => rfl) ?_
      fun item _ _ => ⟨rfl, rfl⟩
    rintro ⟨item, hitem, hname⟩ row
    have hevents := hkeep item hitem hname
    rw [EventsKeep, if_neg hlength] at hevents
    have hread := setManagedEventStr_numberArray (C := C) hevents.1 hevents.2
    unfold AdminRow.read AdminInfo.construct AdminInfo.view setAdminItems
    dsimp only [Option.map_some, Option.getD_some]
    rw [hread]
    cases row.adminType <;> rfl

/-- The new admins that a restart reads back as they were added. -/
structure InsertKeeps (adminItem : AdminInfo) : Prop where
  known : adminItem.adminType ≠ .unknown
  permission : adminItem.permission.length ≤ DEFAULT_LOOP_MAX_SIZE
  managedEvents : adminItem.managedEvents = []
  accessible_written : adminItem.adminType = .virtualAdmin →
    adminItem.accessiblePolicies.length ≤ DEFAULT_LOOP_MAX_SIZE
  accessible_skipped : adminItem.adminType ≠ .virtualAdmin → adminItem.adminType ≠ .byod →
    adminItem.accessiblePolicies = []

theorem read_inserted {adminItem : AdminInfo} (h : InsertKeeps adminItem) (u : Int) :
    (createInsertValuesBucket C u adminItem AdminRow.null).read C = adminItem.construct.view := by
  have hpermission := readBack_of_le h.permission
  have htext : ∀ text : String, (if text = "" then none else some text).getD "" = text := by
    intro text
    split <;> rename_i htext
    · exact htext.symm
    · rfl
  by_cases hbyod : adminItem.adminType = .byod
  · simp [AdminRow.read, setAdminItems, createInsertValuesBucket, createUpdateValuesBucket,
      AdminInfo.construct, hbyod, AdminInfo.view, setAdminStringInfo_stringArray, hpermission,
      h.managedEvents, AdminRow.null, htext]
  · have htype : (setAdminItems C
        (createInsertValuesBucket C u adminItem AdminRow.null)).adminType ≠ .byod := hbyod
    rw [AdminRow.read, AdminInfo.construct_of_ne_byod htype, AdminInfo.construct_of_ne_byod hbyod]
    have haccessible : (if adminItem.adminType = .virtualAdmin then
        some (readBack adminItem.accessiblePolicies) else none).getD [] =
        adminItem.accessiblePolicies := by
      split <;> rename_i hvirtual
      · exact readBack_of_le (h.accessible_written hvirtual)
      · exact (h.accessible_skipped hvirtual hbyod).symm
    simp [setAdminItems, createInsertValuesBucket, createUpdateValuesBucket, AdminInfo.view,
      setAdminStringInfo_stringArray, hpermission, h.managedEvents, AdminRow.null, htext,
      haccessible]

theorem mirrorsTable_insert (h : MirrorsTable C s) {u : Int} {adminItem : AdminInfo}
    (hkeeps : InsertKeeps adminItem) :
    MirrorsTable C
      { container := s.container.setAdminByUserId u adminItem
        table := insertAdmin C s.table u adminItem } := by
  have hlookup : ∀ v, (s.container.setAdminByUserId u adminItem).lookup v =
      if v = u then some (s.container.adminsOf v ++ [adminItem.construct])
      else s.container.lookup v := by
    intro v
    rw [AdminContainer.lookup_setAdminByUserId]
    simp [hkeeps.known]
  have hadmins : ∀ v, AdminContainer.adminsOf (s.container.setAdminByUserId u adminItem) v =
      s.container.adminsOf v ++ if v = u then [adminItem.construct] else [] := by
    intro v
    rw [AdminContainer.adminsOf, hlookup]
    split
    · rfl
    · rw [List.append_nil, AdminContainer.adminsOf]
  have hrows : ∀ v, rowsOf (insertAdmin C s.table u adminItem) v =
      rowsOf s.table v ++
        if v = u then [createInsertValuesBucket C u adminItem AdminRow.null] else [] := by
    intro v
    rw [insertAdmin, rowsOf, Table.select_insert]
    have huser : (createInsertValuesBucket C u adminItem AdminRow.null).userId = u := rfl
    simp only [huser, decide_eq_true_eq, rowsOf, eq_comm (a := u)]
  refine ⟨fun v => ?_, fun v => ?_, fun v item hitem => ?_⟩
  · rw [hlookup, hrows]
    by_cases hv : v = u
    · simp [hv]
    · simp [hv, h.users]
  · rw [hadmins, hrows, List.map_append, List.map_append, h.admins]
    by_cases hv : v = u
    · simp [hv, read_inserted hkeeps]
    · simp [hv]
  · rw [hadmins, List.mem_append] at hitem
    rcases hitem with hold | hnew
    · exact h.known v item hold
    · split at hnew
      · rw [List.mem_singleton.mp hnew, AdminInfo.construct_adminType]
        exact hkeeps.known
      · contradiction

theorem mirrorsTable_deleteAdmin (h : MirrorsTable C s) (packageName : String) (u : Int) :
    MirrorsTable C (AdminManager.deleteAdmin s .done packageName u).2 := by
  unfold AdminManager.deleteAdmin
  split <;> rename_i hadmin
  · have hrows : ∀ v, rowsOf (AdminPoliciesStorageRdb.deleteAdmin s.table u packageName) v =
        if v = u then (rowsOf s.table v).filter fun row => row.packageName != packageName
        else rowsOf s.table v := by
      intro v
      rw [AdminPoliciesStorageRdb.deleteAdmin, rowsOf, Table.select_delete]
      have huser : ∀ row, row ∈ rowsOf s.table v → row.userId = v := by
        intro row hrow
        simpa using (List.mem_filter.mp hrow).2
      split <;> rename_i hv
      · refine List.filter_congr fun row hrow => ?_
        by_cases hname : row.packageName = packageName
        · simp [AdminRow.key, huser row hrow, hv, hname]
        · simp [AdminRow.key, hname]
      · refine List.filter_eq_self.mpr fun row hrow => ?_
        simp [AdminRow.key, huser row hrow, hv]
    have hread : ((rowsOf s.table u).filter fun row => row.packageName != packageName).map
        (AdminRow.read C) = ((s.container.adminsOf u).filter fun item =>
          item.packageName != packageName).map AdminInfo.view := by
      have hkept := congrArg (List.filter fun item => item.packageName != packageName) (h.admins u)
      rw [List.filter_map, List.filter_map] at hkept
      simp only [Function.comp_def, AdminRow.read_packageName] at hkept
      exact hkept
    refine ⟨fun v => ?_, fun v => ?_, fun v item hitem => ?_⟩
    · rw [hrows, AdminContainer.lookup_deleteAdmin_eq_none]
      split <;> rename_i hv
      · rw [hv, ← List.map_eq_nil_iff (f := AdminInfo.view), ← hread, List.map_eq_nil_iff]
      · exact h.users v
    · rw [hrows, AdminContainer.adminsOf_deleteAdmin]
      split <;> rename_i hv
      · rw [hv]
        exact hread
      · exact h.admins v
    · rw [AdminContainer.adminsOf_deleteAdmin] at hitem
      split at hitem
      · exact h.known v item (List.mem_filter.mp hitem).1
      · exact h.known v item hitem
  · exact h

/-! ### The replacement of a super admin -/

theorem updateParentNames_eq (t : AdminTable) (packageName newName : String)
    (subAdmins : List String) :
    AdminManager.updateParentNames t packageName newName subAdmins =
      t.update (fun row => row.parentAdmin = packageName ∧ row.packageName ∈ subAdmins)
        fun row => { row with parentAdmin := newName } := by
  induction subAdmins generalizing t with
  | nil => simp [AdminManager.updateParentNames, Table.update]
  | cons subAdmin subAdmins ih =>
    have hcons : AdminManager.updateParentNames t packageName newName (subAdmin :: subAdmins) =
        AdminManager.updateParentNames (updateParentName t subAdmin packageName newName) packageName
          newName subAdmins := rfl
    rw [hcons, ih]
    unfold updateParentName Table.update
    rw [List.map_map]
    congr 1
    refine List.map_congr_left fun row _ => ?_
    simp only [Function.comp_apply, decide_eq_true_eq, List.mem_cons]
    by_cases hparent : row.parentAdmin = packageName
    · by_cases hname : row.packageName = subAdmin
      · simp [hparent, hname]
      · simp [hparent, hname]
    · simp [hparent]

theorem read_createInsertValuesBucket {adminItem : AdminInfo} {row : AdminRow}
    (htype : row.adminType = adminItem.adminType) (u : Int) :
    (createInsertValuesBucket C u adminItem row).read C =
      { (row.read C).overwritten adminItem with
        packageName := adminItem.packageName, className := adminItem.className
        parentAdminName := adminItem.parentAdminName, runningMode := adminItem.runningMode } := by
  rw [← read_createUpdateValuesBucket]
  unfold AdminRow.read AdminInfo.construct AdminInfo.view setAdminItems createInsertValuesBucket
    createUpdateValuesBucket
  dsimp only
  rw [← htype]
  cases row.adminType <;> simp

/-- The replaced admin is the same in the table, where the new info is written as a whole, and in
memory, where only its names are. -/
structure ReplacedKeeps (packageName : String) (newAdminInfo item : AdminInfo) : Prop where
  enterpriseName : newAdminInfo.entInfo.enterpriseName = "" ∨
    newAdminInfo.entInfo.enterpriseName = item.entInfo.enterpriseName
  description : newAdminInfo.entInfo.description = "" ∨
    newAdminInfo.entInfo.description = item.entInfo.description
  permission : readBack newAdminInfo.permission = item.permission
  parentAdminName : newAdminInfo.parentAdminName =
    if AdminContainer.isChildOf packageName item then newAdminInfo.packageName
    else item.parentAdminName
  accessiblePolicies : item.adminType = .virtualAdmin →
    readBack newAdminInfo.accessiblePolicies = item.accessiblePolicies
  adminType : newAdminInfo.adminType = item.adminType
  runningMode : newAdminInfo.runningMode = item.runningMode

/-- The rows whose parent is updated belong to the admins whose parent is. -/
structure ReplaceKeeps (c : AdminContainer) (packageName : String) (newAdminInfo : AdminInfo) :
    Prop where
  children : ∀ u item, item ∈ c.adminsOf u → ¬(u = DEFAULT_USER_ID ∧ item.packageName = packageName) →
    item.parentAdminName = packageName →
    item.packageName ∈ AdminManager.getSubSuperAdminsByParentName c packageName →
    newAdminInfo.packageName = packageName ∨
      u = DEFAULT_USER_ID ∧ AdminContainer.isChildOf packageName item = true
  replaced : ∀ item, item ∈ c.adminsOf DEFAULT_USER_ID → item.packageName = packageName →
    ReplacedKeeps packageName newAdminInfo item

theorem mem_getSubSuperAdmins {c : AdminContainer} {item : AdminInfo} {parentName : String}
    (hitem : item ∈ c.adminsOf DEFAULT_USER_ID)
    (hchild : AdminContainer.isChildOf parentName item = true) :
    item.packageName ∈ AdminManager.getSubSuperAdminsByParentName c parentName := by
  have hknown : item.adminType ≠ .unknown := by
    rintro htype
    simp [AdminContainer.isChildOf, htype] at hchild
  obtain ⟨admin, hadmin, hinfo⟩ := Option.map_eq_some_iff.mp (createAdmin_of_known hknown)
  have hadmins : admin ∈ AdminManager.getAdminByUserId c DEFAULT_USER_ID := by
    unfold AdminContainer.adminsOf at hitem
    unfold AdminManager.getAdminByUserId AdminContainer.getAdminCopyByUserId
    cases hlookup : c.lookup DEFAULT_USER_ID with
    | none => simp [hlookup] at hitem
    | some admins =>
      rw [hlookup, Option.getD_some] at hitem
      exact List.mem_filterMap.mpr ⟨item, hitem, hadmin⟩
  refine List.mem_map.mpr ⟨admin, List.mem_filter.mpr ⟨hadmins, ?_⟩, ?_⟩
  · simpa [AdminContainer.isChildOf, Admin.getAdminType, Admin.getParentAdminName, hinfo] using
      hchild
  · rw [hinfo, AdminInfo.construct_packageName]

/-- What the replacement does to an admin in memory. -/
def replacedItem (packageName : String) (newAdminInfo : AdminInfo) (u : Int) (item : AdminInfo) :
    AdminInfo :=
  if u = DEFAULT_USER_ID then
    let item := if item.packageName = packageName then
      item.updated [.packageName, .className, .enableSource] newAdminInfo else item
    if AdminContainer.isChildOf packageName item then
      { item with parentAdminName := newAdminInfo.packageName }
    else item
  else item

theorem isChildOf_updated (packageName : String) (newAdminInfo item : AdminInfo) :
    AdminContainer.isChildOf packageName
      (item.updated [.packageName, .className, .enableSource] newAdminInfo) =
      AdminContainer.isChildOf packageName item := by
  simp [AdminContainer.isChildOf, AdminInfo.updated]

theorem replacedItem_of_ne {packageName : String} {newAdminInfo item : AdminInfo} {u : Int}
    (h : ¬(u = DEFAULT_USER_ID ∧ item.packageName = packageName)) :
    replacedItem packageName newAdminInfo u item =
      if u = DEFAULT_USER_ID ∧ AdminContainer.isChildOf packageName item = true then
        { item with parentAdminName := newAdminInfo.packageName }
      else item := by
  unfold replacedItem
  by_cases hu : u = DEFAULT_USER_ID
  · have hname : item.packageName ≠ packageName := fun hname => h ⟨hu, hname⟩
    simp [hu, hname]
  · simp [hu]

theorem replacedItem_entry {packageName : String} {newAdminInfo item : AdminInfo}
    (h : item.packageName = packageName) :
    replacedItem packageName newAdminInfo DEFAULT_USER_ID item =
      { item with
        packageName := newAdminInfo.packageName, className := newAdminInfo.className
        enableSource := newAdminInfo.enableSource
        parentAdminName :=
          if AdminContainer.isChildOf packageName item = true then newAdminInfo.packageName
          else item.parentAdminName } := by
  simp only [replacedItem, if_true, h, isChildOf_updated]
  split <;> simp [AdminInfo.updated]

/-- What the replacement does to a row. -/
def replacedRow (C : CJson) (packageName : String) (newAdminInfo : AdminInfo)
    (subAdmins : List String) (row : AdminRow) : AdminRow :=
  let row :=
    if row.parentAdmin = packageName ∧ row.packageName ∈ subAdmins then
      { row with parentAdmin := newAdminInfo.packageName }
    else row
  if row.key = (DEFAULT_USER_ID, packageName) then
    createInsertValuesBucket C DEFAULT_USER_ID newAdminInfo row
  else row

theorem rowsOf_replaceAdmin (t : AdminTable) (packageName : String) (newAdminInfo : AdminInfo)
    (subAdmins : List String) (u : Int) :
    rowsOf (replaceAdmin C (AdminManager.updateParentNames t packageName newAdminInfo.packageName
      subAdmins) packageName DEFAULT_USER_ID newAdminInfo) u =
      (rowsOf t u).map (replacedRow C packageName newAdminInfo subAdmins) := by
  rw [replaceAdmin, rowsOf_update, updateParentNames_eq, rowsOf_update, List.map_map]
  · refine List.map_congr_left fun row _ => ?_
    simp only [Function.comp_apply, decide_eq_true_eq, replacedRow]
  · intro row _
    rfl
  · intro row hrow
    have hkey : row.key = (DEFAULT_USER_ID, packageName) := of_decide_eq_true hrow
    exact (congrArg Prod.fst hkey).symm

theorem read_parentAdmin (row : AdminRow) (parentAdmin : String) :
    ({ row with parentAdmin } : AdminRow).read C =
      { row.read C with parentAdminName := parentAdmin } := by
  unfold AdminRow.read AdminInfo.construct AdminInfo.view setAdminItems
  dsimp only
  cases row.adminType <;> rfl

theorem ite_skipped {α : Type} [DecidableEq α] {skipped new old : α}
    (h : new = skipped ∨ new = old) : (if new = skipped then old else new) = old := by
  split <;> rename_i hnew
  · rfl
  · exact h.resolve_left hnew

theorem read_replacedRow_entry {packageName : String} {newAdminInfo : AdminInfo} {row : AdminRow}
    (hkeeps : ReplacedKeeps packageName newAdminInfo (row.read C)) (subAdmins : List String)
    (hkey : row.key = (DEFAULT_USER_ID, packageName)) :
    (replacedRow C packageName newAdminInfo subAdmins row).read C =
      (replacedItem packageName newAdminInfo DEFAULT_USER_ID (row.read C)).view := by
  have hname : (row.read C).packageName = packageName := by
    rw [AdminRow.read_packageName]
    exact congrArg Prod.snd hkey
  have htype : row.adminType = newAdminInfo.adminType := by
    rw [hkeeps.adminType, AdminRow.read_adminType]
  have haccessible : (if (row.read C).adminType ≠ .byod ∧ newAdminInfo.adminType = .virtualAdmin then
      readBack newAdminInfo.accessiblePolicies else (row.read C).accessiblePolicies) =
      (row.read C).accessiblePolicies := by
    split <;> rename_i hvirtual
    · exact hkeeps.accessiblePolicies (hkeeps.adminType.symm.trans hvirtual.2)
    · rfl
  have hwritten : ∀ row' : AdminRow, row'.key = row.key → row'.adminType = row.adminType →
      (row'.read C = row.read C ∨ ∃ parent,
        row'.read C = { row.read C with parentAdminName := parent }) →
      (if row'.key = (DEFAULT_USER_ID, packageName) then
        createInsertValuesBucket C DEFAULT_USER_ID newAdminInfo row' else row').read C =
        (replacedItem packageName newAdminInfo DEFAULT_USER_ID (row.read C)).view := by
    intro row' hkey' htype' hread
    rw [if_pos (hkey'.trans hkey), read_createInsertValuesBucket (htype'.trans htype),
      replacedItem_entry hname]
    rcases hread with hread | ⟨parent, hread⟩ <;> rw [hread]
    all_goals
      ext1
      · rfl
      · rfl
      · exact EntInfo.ext (ite_skipped hkeeps.enterpriseName) (ite_skipped hkeeps.description)
      · exact hkeeps.permission
      · rfl
      · exact hkeeps.parentAdminName
      · exact haccessible
      · rfl
      · rfl
      · exact hkeeps.runningMode
      · rfl
  unfold replacedRow
  split
  · exact hwritten _ rfl rfl (.inr ⟨_, read_parentAdmin row _⟩)
  · exact hwritten _ rfl rfl (.inl rfl)

theorem read_replacedRow_of_ne {packageName : String} {newAdminInfo : AdminInfo} {row : AdminRow}
    {subAdmins : List String} (hkey : row.key ≠ (DEFAULT_USER_ID, packageName)) :
    (replacedRow C packageName newAdminInfo subAdmins row).read C =
      if row.parentAdmin = packageName ∧ row.packageName ∈ subAdmins then
        { row.read C with parentAdminName := newAdminInfo.packageName }
      else row.read C := by
  unfold replacedRow
  split
  · have hkey' : ({ row with parentAdmin := newAdminInfo.packageName } : AdminRow).key ≠
        (DEFAULT_USER_ID, packageName) := hkey
    rw [if_neg hkey', read_parentAdmin]
  · rw [if_neg hkey]

theorem mirrorsTable_replace (h : MirrorsTable C s) {packageName : String}
    {newAdminInfo : AdminInfo} (hkeeps : ReplaceKeeps s.container packageName newAdminInfo) :
    MirrorsTable C
      (AdminManager.replaceSuperAdminByPackageName C s .done none packageName newAdminInfo).2 := by
  have hdone : (AdminManager.replaceSuperAdminByPackageName C s .done none packageName
      newAdminInfo).2 =
      { container := AdminContainer.updateParentAdminName
          (s.container.updateAdmin DEFAULT_USER_ID packageName
            [.packageName, .className, .enableSource] newAdminInfo) DEFAULT_USER_ID packageName
            newAdminInfo.packageName
        table := replaceAdmin C (AdminManager.updateParentNames s.table packageName
          newAdminInfo.packageName
          (AdminManager.getSubSuperAdminsByParentName s.container packageName)) packageName
          DEFAULT_USER_ID newAdminInfo } := by
    simp [AdminManager.replaceSuperAdminByPackageName]
  rw [hdone]
  refine h.map (f := replacedItem packageName newAdminInfo)
    (G := fun u item => (replacedItem packageName newAdminInfo u item).view)
    (fun u => rowsOf_replaceAdmin s.table packageName newAdminInfo _ u) (fun u => ?_)
    (fun u row hrow => ?_) (fun u item hitem => ⟨?_, ?_⟩)
  · rw [AdminContainer.lookup_updateParentAdminName, AdminContainer.lookup_updateAdmin]
    by_cases hu : u = DEFAULT_USER_ID
    · rw [if_pos hu, if_pos hu, Option.map_map]
      congr 1
      funext admins
      rw [Function.comp_apply, List.map_map]
      refine List.map_congr_left fun item _ => ?_
      simp only [Function.comp_apply, replacedItem, if_pos hu]
    · have hsame : ∀ item, replacedItem packageName newAdminInfo u item = item := by
        intro item
        rw [replacedItem, if_neg hu]
      rw [if_neg hu, if_neg hu, funext hsame]
      simp
  · obtain ⟨item, hitem, hview⟩ := h.exists_item hrow
    have huser : row.userId = u := by simpa using (List.mem_filter.mp hrow).2
    have hname : row.packageName = item.packageName := by
      rw [← AdminRow.read_packageName (C := C), ← hview]
      rfl
    by_cases hentry : u = DEFAULT_USER_ID ∧ row.packageName = packageName
    · obtain ⟨rfl, hpackage⟩ := hentry
      refine read_replacedRow_entry ?_ _ (Prod.ext huser hpackage)
      have hreplaced := hkeeps.replaced item hitem (hname.symm.trans hpackage)
      rw [← hview]
      exact ⟨hreplaced.enterpriseName, hreplaced.description, hreplaced.permission,
        hreplaced.parentAdminName, hreplaced.accessiblePolicies, hreplaced.adminType,
        hreplaced.runningMode⟩
    · have hkey : row.key ≠ (DEFAULT_USER_ID, packageName) := by
        intro hkey
        obtain ⟨hdefault, hpackage⟩ := Prod.mk.inj hkey
        exact hentry ⟨huser.symm.trans hdefault, hpackage⟩
      have hparent : row.parentAdmin = item.parentAdminName := by
        rw [← AdminRow.read_parentAdminName (C := C), ← hview]
        rfl
      have hchild : AdminContainer.isChildOf packageName (row.read C) =
          AdminContainer.isChildOf packageName item := by
        rw [← hview]
        rfl
      rw [read_replacedRow_of_ne hkey,
        replacedItem_of_ne (by rwa [AdminRow.read_packageName])]
      by_cases hselected : row.parentAdmin = packageName ∧
          row.packageName ∈ AdminManager.getSubSuperAdminsByParentName s.container packageName
      · rw [if_pos hselected]
        rcases hkeeps.children u item hitem (by rwa [← hname]) (hparent.symm.trans hselected.1)
          (hname ▸ hselected.2) with hsame | ⟨hu, hitemChild⟩
        · have hold : { row.read C with parentAdminName := newAdminInfo.packageName } =
              row.read C := by
            rw [hsame, ← hselected.1, ← AdminRow.read_parentAdminName (C := C)]
          rw [hold, ite_self]
          rfl
        · rw [if_pos ⟨hu, hchild.trans hitemChild⟩]
          rfl
      · rw [if_neg hselected, if_neg]
        · rfl
        · rintro ⟨rfl, hrowChild⟩
          have hitemChild := hchild.symm.trans hrowChild
          refine hselected ⟨?_, hname ▸ mem_getSubSuperAdmins hitem hitemChild⟩
          simp only [AdminContainer.isChildOf, Bool.and_eq_true, beq_iff_eq] at hitemChild
          exact hparent.trans hitemChild.2
  · by_cases hentry : u = DEFAULT_USER_ID ∧ item.packageName = packageName
    · obtain ⟨rfl, hname⟩ := hentry
      have hviewName : item.view.packageName = packageName := hname
      rw [replacedItem_entry hname, replacedItem_entry hviewName]
      rfl
    · have hviewEntry : ¬(u = DEFAULT_USER_ID ∧ item.view.packageName = packageName) := hentry
      have hchild : AdminContainer.isChildOf packageName item.view =
          AdminContainer.isChildOf packageName item := rfl
      rw [replacedItem_of_ne hentry, replacedItem_of_ne hviewEntry, hchild]
      split <;> rfl
  · by_cases hentry : u = DEFAULT_USER_ID ∧ item.packageName = packageName
    · obtain ⟨rfl, hname⟩ := hentry
      rw [replacedItem_entry hname]
    · rw [replacedItem_of_ne hentry]
      split <;> rfl

end Operation

end Edm
