import Edm.Admin.Reload

/-! Runs of `AdminManager`, from a device without admins, with statements that all take effect. -/

set_option autoImplicit false

namespace Edm

open Library AdminPoliciesStorageRdb

/-- An operation that writes admins. -/
inductive AdminOp where
  | setAdminValue (userId : Int) (adminItem : AdminInfo)
  | updateAdmin (userId : Int) (adminItem : AdminInfo) (code : List AdminField)
  | updateAdminPermission (bundleName : String) (userId : Int) (permissionList : List String)
  | setEntInfo (admin : Admin) (entInfo : EntInfo) (userId : Int)
  | saveSubscribeEvents (events : List UInt32) (bundleName : String) (userId : Int)
  | removeSubscribeEvents (events : List UInt32) (bundleName : String) (userId : Int)
  | replaceSuperAdminByPackageName (packageName : String) (newAdminInfo : AdminInfo)
  | deleteAdmin (packageName : String) (userId : Int)

def AdminOp.step (C : CJson) (s : AdminState) : AdminOp → AdminState
  | .setAdminValue u adminItem => (AdminManager.setAdminValue C s .done u adminItem).2
  | .updateAdmin u adminItem code => (AdminManager.updateAdmin C s .done u adminItem code).2
  | .updateAdminPermission bundleName u permissionList =>
    (AdminManager.updateAdminPermission C s .done bundleName u permissionList).2
  | .setEntInfo admin entInfo u => (AdminManager.setEntInfo s .done admin entInfo u).2
  | .saveSubscribeEvents events bundleName u =>
    (AdminManager.saveSubscribeEvents C s .done events bundleName u).2
  | .removeSubscribeEvents events bundleName u =>
    (AdminManager.removeSubscribeEvents C s .done events bundleName u).2
  | .replaceSuperAdminByPackageName packageName newAdminInfo =>
    (AdminManager.replaceSuperAdminByPackageName C s .done none packageName newAdminInfo).2
  | .deleteAdmin packageName u => (AdminManager.deleteAdmin s .done packageName u).2

/-- The admins of a package of a user. -/
def AdminContainer.entries (c : AdminContainer) (u : Int) (packageName : String) :
    List AdminInfo :=
  (c.adminsOf u).filter fun item => item.packageName = packageName

theorem AdminContainer.mem_entries {c : AdminContainer} {u : Int} {packageName : String}
    {item : AdminInfo} :
    item ∈ c.entries u packageName ↔ item ∈ c.adminsOf u ∧ item.packageName = packageName := by
  simp [entries]

/-- The operations after which the table and the container still say the same. -/
def AdminOp.Keeps (c : AdminContainer) : AdminOp → Prop
  | .setAdminValue u adminItem =>
    match AdminManager.getAdminByPkgName c adminItem.packageName u with
    | some _ => ∀ item, item ∈ c.entries u adminItem.packageName →
        UpdateKeeps AdminManager.setAdminValueCode adminItem item
    | none => InsertKeeps adminItem
  | .updateAdmin u adminItem code =>
    ∀ item, item ∈ c.entries u adminItem.packageName → UpdateKeeps code adminItem item
  | .updateAdminPermission bundleName u permissionList =>
    c.entries u bundleName ≠ [] → permissionList.length ≤ DEFAULT_LOOP_MAX_SIZE
  | .saveSubscribeEvents events bundleName u =>
    ∀ admin, AdminManager.getAdminByPkgName c bundleName u = some admin →
      ∀ item, item ∈ c.entries u admin.adminInfo.packageName →
        EventsKeep (AdminManager.addEvents admin.adminInfo.managedEvents events) admin.adminInfo item
  | .removeSubscribeEvents events bundleName u =>
    ∀ admin, AdminManager.getAdminByPkgName c bundleName u = some admin →
      ∀ item, item ∈ c.entries u admin.adminInfo.packageName →
        EventsKeep (AdminManager.removeEvents admin.adminInfo.managedEvents events) admin.adminInfo
          item
  | .replaceSuperAdminByPackageName packageName newAdminInfo =>
    ReplaceKeeps c packageName newAdminInfo
  | .setEntInfo .. => True
  | .deleteAdmin .. => True

/-- An update of the permissions alone. -/
theorem updateKeeps_permission {bundleName : String} {permissionList : List String}
    (h : permissionList.length ≤ DEFAULT_LOOP_MAX_SIZE) (item : AdminInfo) :
    UpdateKeeps [.permission] { packageName := bundleName, permission := permissionList } item where
  className := ⟨by simp, fun _ => .inl rfl⟩
  enterpriseName := ⟨by simp, fun _ => .inl rfl⟩
  description := ⟨by simp, fun _ => .inl rfl⟩
  permission := ⟨fun _ => h, by simp⟩
  managedEvents := by simp
  parentAdminName := by simp
  accessible_written := by simp
  accessible_skipped := by simp
  adminType := by simp
  runningMode := ⟨by simp, fun _ => .inl rfl⟩

theorem mirrorsTable_step {C : CJson} {s : AdminState} (op : AdminOp) (h : MirrorsTable C s)
    (hkeeps : op.Keeps s.container) : MirrorsTable C (op.step C s) := by
  cases op with
  | setAdminValue u adminItem =>
    simp only [AdminOp.Keeps] at hkeeps
    simp only [AdminOp.step, AdminManager.setAdminValue]
    cases hfound : AdminManager.getAdminByPkgName s.container adminItem.packageName u with
    | some admin =>
      rw [hfound] at hkeeps
      exact mirrorsTable_updateAdmin h fun item hitem hname =>
        hkeeps item (AdminContainer.mem_entries.mpr ⟨hitem, hname⟩)
    | none =>
      rw [hfound] at hkeeps
      exact mirrorsTable_insert h hkeeps
  | updateAdmin u adminItem code =>
    exact mirrorsTable_updateAdmin h fun item hitem hname =>
      hkeeps item (AdminContainer.mem_entries.mpr ⟨hitem, hname⟩)
  | updateAdminPermission bundleName u permissionList =>
    exact mirrorsTable_updateAdmin h fun item hitem hname =>
      updateKeeps_permission
        (hkeeps (List.ne_nil_of_mem (AdminContainer.mem_entries.mpr ⟨hitem, hname⟩))) item
  | setEntInfo admin entInfo u => exact mirrorsTable_setEntInfo h admin entInfo u
  | saveSubscribeEvents events bundleName u =>
    simp only [AdminOp.step, AdminManager.saveSubscribeEvents]
    cases hfound : AdminManager.getAdminByPkgName s.container bundleName u with
    | none => exact h
    | some admin =>
      exact mirrorsTable_storeEvents h fun item hitem hname =>
        hkeeps admin hfound item (AdminContainer.mem_entries.mpr ⟨hitem, hname⟩)
  | removeSubscribeEvents events bundleName u =>
    simp only [AdminOp.step, AdminManager.removeSubscribeEvents]
    cases hfound : AdminManager.getAdminByPkgName s.container bundleName u with
    | none => exact h
    | some admin =>
      exact mirrorsTable_storeEvents h fun item hitem hname =>
        hkeeps admin hfound item (AdminContainer.mem_entries.mpr ⟨hitem, hname⟩)
  | replaceSuperAdminByPackageName packageName newAdminInfo => exact mirrorsTable_replace h hkeeps
  | deleteAdmin packageName u => exact mirrorsTable_deleteAdmin h packageName u

/-- A restart finds the admins in memory after every operation of a run whose operations all keep
the table and the container the same. -/
theorem always_reloads (C : CJson) {ops : List AdminOp}
    (h : Each (AdminOp.step C) (fun s op => op.Keeps s.container) AdminState.boot ops) :
    Always (AdminOp.step C) (Reloads C) AdminState.boot ops := by
  have hmirrors : Always (AdminOp.step C) (MirrorsTable C) AdminState.boot ops :=
    always_of_each (fun _ op => mirrorsTable_step op) mirrorsTable_boot h
  exact hmirrors.mono fun _ hs => hs.reloads

/-- A super admin whose enterprise has the name. -/
def acmeAdmin (enterpriseName : String) : AdminInfo :=
  { packageName := "com.acme", className := "Ability", entInfo := { enterpriseName }
    permission := ["ohos.permission.ENTERPRISE_MANAGE_WIFI"], adminType := .ent }

/-- An admin is added, its events are stored, and it is set again with another enterprise. -/
theorem always_reloads_three :
    Always (AdminOp.step CJson.standard) (Reloads CJson.standard) AdminState.boot
      [.setAdminValue 100 (acmeAdmin "Acme"), .saveSubscribeEvents [0, 11] "com.acme" 100,
        .setAdminValue 100 (acmeAdmin "Acme Labs")] := by
  refine always_reloads CJson.standard ⟨?_, ?_, ?_, trivial⟩
  · exact (⟨by decide, by decide, rfl, by decide, by decide⟩ : InsertKeeps (acmeAdmin "Acme"))
  · intro admin hfound item hitem
    obtain rfl := Option.some.inj hfound
    obtain rfl := List.mem_singleton.mp hitem
    have hevents : AdminManager.addEvents [] [0, 11] = [0, 11] := by decide
    refine ⟨by decide, ?_⟩
    intro event hevent
    have hevent' : event ∈ [(0 : UInt32), 11] := hevents ▸ hevent
    simp only [List.mem_cons, List.not_mem_nil, or_false] at hevent'
    rcases hevent' with rfl | rfl <;> decide
  · intro item hitem
    obtain rfl := List.mem_singleton.mp hitem
    exact {
      className := ⟨by decide, by decide⟩
      enterpriseName := ⟨by decide, by decide⟩
      description := ⟨by decide, by decide⟩
      permission := ⟨by decide, by decide⟩
      managedEvents := by decide
      parentAdminName := by decide
      accessible_written := fun hwritten => absurd hwritten.2 (by decide)
      accessible_skipped := by decide
      adminType := by decide
      runningMode := ⟨by decide, by decide⟩ }

/-- An admin that is set again without an enterprise name keeps the old name in the table. -/
theorem cleared_name_returns :
    ¬ ∀ ops, Always (AdminOp.step CJson.standard) (Reloads CJson.standard) AdminState.boot ops := by
  intro h
  have hreloads := (h [.setAdminValue 100 (acmeAdmin "Acme"), .setAdminValue 100 (acmeAdmin "")]).2.2
  have hnames := congrArg (Option.map (List.map fun item : AdminInfo => item.entInfo.enterpriseName))
    (hreloads 100)
  have : some ["Acme"] = some [""] := hnames
  simp at this

end Edm
