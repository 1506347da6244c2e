import Edm.Plugin.DisallowedPermissionPlugin

/-! Runs on `DisallowedPermissionPlugin` and `AllowedPermissionBundlePlugin` of all users.  An instance
can be allowed for an account other than the user whose lists it is in. -/

set_option autoImplicit false

namespace Edm

open Library

namespace DisallowedPermissionPlugin

open AllowedPermissionBundleSerializer

/-! ### Cleaning -/

section Clean

variable {C : IntCJson} {permissionName : String} {data : PermissionApps}

/-- The entries that an admin, or all together for the empty name, have in the lists of a user. -/
def allowedEntries (C : IntCJson) (store : UserStore) (a : String) : Set AllowedEntry :=
  AllowedPermissionBundlePlugin.itemsOf C
    (store.manager.policyValue a POLICY_ALLOWED_PERMISSION_BUNDLE)

abbrev AllowedTexts (C : IntCJson) (store : UserStore) : Prop :=
  TextStore (AllowedPermissionBundlePlugin.IsText C) POLICY_ALLOWED_PERMISSION_BUNDLE store

theorem proper_erasePermission (h : Proper data) : Proper (erasePermission permissionName data) where
  ascend := h.ascend.sublist (List.filter_sublist.map Prod.fst)
  nonempty pair hpair := h.nonempty pair (List.mem_filter.mp hpair).1

theorem mem_entries_erasePermission {x : AllowedEntry} :
    x ∈ entries (erasePermission permissionName data) ↔
      x ∈ entries data ∧ x.permission ≠ permissionName := by
  rw [mem_entries, mem_entries]
  constructor
  · rintro ⟨pair, hpair, app, happ, rfl⟩
    obtain ⟨hpair, hne⟩ := List.mem_filter.mp hpair
    exact ⟨⟨pair, hpair, app, happ, rfl⟩, bne_iff_ne.mp hne⟩
  · rintro ⟨⟨pair, hpair, app, happ, rfl⟩, hne⟩
    exact ⟨pair, List.mem_filter.mpr ⟨hpair, bne_iff_ne.mpr hne⟩, app, happ, rfl⟩

/-- A text of the entries that are not for a permission. -/
structure Erased (C : IntCJson) (permissionName policy policy' : String) : Prop where
  text : AllowedPermissionBundlePlugin.IsText C policy'
  mem : ∀ x, x ∈ AllowedPermissionBundlePlugin.itemsOf C policy' ↔
    x ∈ AllowedPermissionBundlePlugin.itemsOf C policy ∧ x.permission ≠ permissionName

theorem erased_text {policy : String} (h : AllowedPermissionBundlePlugin.IsText C policy) :
    Erased C permissionName policy
      (serialize C (erasePermission permissionName (deserialize C policy).2)) := by
  obtain ⟨data, hdata, rfl⟩ := h
  have hread : (deserialize C (serialize C data)).2 = data := by
    rw [deserialize_serialize hdata]
  rw [hread]
  refine ⟨⟨_, proper_erasePermission hdata, rfl⟩, fun x => ?_⟩
  rw [AllowedPermissionBundlePlugin.itemsOf_serialize (proper_erasePermission hdata),
    AllowedPermissionBundlePlugin.itemsOf_serialize hdata]
  exact mem_entries_erasePermission

/-- A map without the permission. -/
theorem permission_ne_of_not_hasKey {policy : String}
    (h : ¬ hasKey Prod.fst permissionName (deserialize C policy).2 = true) {x : AllowedEntry}
    (hx : x ∈ AllowedPermissionBundlePlugin.itemsOf C policy) : x.permission ≠ permissionName := by
  rintro rfl
  obtain ⟨pair, hpair, app, -, rfl⟩ := mem_entries.mp hx
  exact h (hasKey_iff.mpr (List.mem_map_of_mem hpair))

theorem erased_combined {store : UserStore} (h : AllowedTexts C store) :
    Erased C permissionName
      (store.manager.policyValue "" POLICY_ALLOWED_PERMISSION_BUNDLE)
      (getCombinedPolicy C permissionName store.manager) := by
  have htext := h.text ""
  unfold getCombinedPolicy
  dsimp only
  by_cases hempty : store.manager.policyValue "" POLICY_ALLOWED_PERMISSION_BUNDLE = ""
  · rw [if_pos hempty, hempty]
    refine ⟨AllowedPermissionBundlePlugin.isText_empty, fun x => ?_⟩
    rw [AllowedPermissionBundlePlugin.itemsOf_empty]
    exact (and_iff_left_of_imp fun hx => absurd hx (Set.notMem_empty x)).symm
  · rw [if_neg hempty]
    exact erased_text htext

/-- The entries of a set of permissions are taken from all lists of a user, and nothing else
changes. -/
structure Cleaned (C : IntCJson) (gone : Set String) (store store' : UserStore) : Prop where
  texts : AllowedTexts C store'
  other : ∀ q, q ≠ POLICY_ALLOWED_PERMISSION_BUNDLE → ∀ a,
    store'.manager.policyValue a q = store.manager.policyValue a q
  mem : ∀ a x, x ∈ allowedEntries C store' a ↔
    x ∈ allowedEntries C store a ∧ x.permission ∉ gone

/-- The lists of some admins lose the entries of a permission, and the combined list becomes
`combinePolicy` unless none of the admins has such an entry. -/
structure Swept (C : IntCJson) (permissionName combinePolicy : String)
    (admins : List (String × String)) (store store' : UserStore) : Prop where
  texts : AllowedTexts C store'
  other : ∀ q, q ≠ POLICY_ALLOWED_PERMISSION_BUNDLE → ∀ a,
    store'.manager.policyValue a q = store.manager.policyValue a q
  mem : ∀ a x, a ≠ "" → (x ∈ allowedEntries C store' a ↔ x ∈ allowedEntries C store a ∧
    (a ∈ admins.map Prod.fst → x.permission ≠ permissionName))
  combined : store'.manager.policyValue "" POLICY_ALLOWED_PERMISSION_BUNDLE = combinePolicy ∨
    store'.manager.policyValue "" POLICY_ALLOWED_PERMISSION_BUNDLE =
        store.manager.policyValue "" POLICY_ALLOWED_PERMISSION_BUNDLE ∧
      ∀ admin, admin ∈ admins → ∀ x,
        x ∈ AllowedPermissionBundlePlugin.itemsOf C admin.2 → x.permission ≠ permissionName

theorem swept_nil {combinePolicy : String} {store : UserStore} (h : AllowedTexts C store) :
    Swept C permissionName combinePolicy [] store store where
  texts := h
  other _ _ _ := rfl
  mem _ _ _ := (and_iff_left fun hnil => absurd hnil List.not_mem_nil).symm
  combined := .inr ⟨rfl, fun _ hadmin => absurd hadmin List.not_mem_nil⟩

/-- The value of the snapshot is the stored one. -/
theorem swept_cleanAdmin {writes : String → Writes} (hwrites : ∀ a, writes a = ⟨.done, .done⟩)
    {policy combinePolicy : String} (hcombine : Erased C permissionName policy combinePolicy)
    {store : UserStore} (h : AllowedTexts C store) {admin : String × String} (hname : admin.1 ≠ "")
    (hnonempty : admin.2 ≠ "")
    (hvalue : store.manager.policyValue admin.1 POLICY_ALLOWED_PERMISSION_BUNDLE = admin.2) :
    Swept C permissionName combinePolicy [admin] store
        (cleanAdmin C permissionName combinePolicy writes store admin) ∧
      ∀ a, a ≠ "" → a ≠ admin.1 →
        (cleanAdmin C permissionName combinePolicy writes store admin).manager.policyValue a
            POLICY_ALLOWED_PERMISSION_BUNDLE =
          store.manager.policyValue a POLICY_ALLOWED_PERMISSION_BUNDLE := by
  unfold cleanAdmin
  rw [if_neg hnonempty, hwrites]
  dsimp only
  by_cases hkey : hasKey Prod.fst permissionName (deserialize C admin.2).2 = true
  · rw [if_pos hkey]
    have herased : Erased C permissionName admin.2
        (serialize C (erasePermission permissionName (deserialize C admin.2).2)) :=
      erased_text (hvalue ▸ h.text admin.1)
    have hsaved : Saved store _ (⟨admin.1, hname⟩ : AdminName) POLICY_ALLOWED_PERMISSION_BUNDLE
        (serialize C (erasePermission permissionName (deserialize C admin.2).2)) combinePolicy :=
      saved_setPolicy h.good.inverse hname AllowedPermissionBundlePlugin.policyName_ne _ _
    refine ⟨⟨h.saved hsaved herased.text hcombine.text, fun q hq => hsaved.value_policy hq,
      fun a x ha => ?_, .inl hsaved.value_combined⟩, fun a ha hne =>
        hsaved.value_other ha fun heq => hne heq.1⟩
    rw [List.map_singleton, List.mem_singleton]
    by_cases heq : a = admin.1
    · rw [heq, allowedEntries, allowedEntries, hsaved.value_self hname, herased.mem, ← hvalue]
      exact and_congr_right fun _ => ⟨fun hne _ => hne, fun hne => hne rfl⟩
    · rw [allowedEntries, allowedEntries, hsaved.value_other ha fun h => heq h.1]
      exact (and_iff_left fun h => absurd h heq).symm
  · rw [if_neg hkey]
    have hnone : ∀ x, x ∈ AllowedPermissionBundlePlugin.itemsOf C admin.2 →
        x.permission ≠ permissionName := fun x hx => permission_ne_of_not_hasKey hkey hx
    refine ⟨⟨h, fun _ _ _ => rfl, fun a x _ => (and_iff_left_of_imp fun hx hmem => ?_).symm,
      .inr ⟨rfl, fun other hother => ?_⟩⟩, fun _ _ _ => rfl⟩
    · rw [List.mem_singleton.mp hmem, allowedEntries, hvalue] at hx
      exact hnone x hx
    · rw [List.mem_singleton.mp hother]
      exact hnone

/-- The loop over the admins of the snapshot.  The values of those that are still to come are the
stored ones. -/
theorem swept_foldl {writes : String → Writes} (hwrites : ∀ a, writes a = ⟨.done, .done⟩)
    {policy combinePolicy : String} (hcombine : Erased C permissionName policy combinePolicy)
    (admins : List (String × String)) (hnodup : (admins.map Prod.fst).Nodup) {store : UserStore}
    (h : AllowedTexts C store)
    (hvalue : ∀ admin, admin ∈ admins → admin.1 ≠ "" ∧ admin.2 ≠ "" ∧
      store.manager.policyValue admin.1 POLICY_ALLOWED_PERMISSION_BUNDLE = admin.2) :
    Swept C permissionName combinePolicy admins store
      (admins.foldl (cleanAdmin C permissionName combinePolicy writes) store) := by
  induction admins generalizing store with
  | nil => exact swept_nil h
  | cons admin admins ih =>
    obtain ⟨hfirst, hnodup⟩ := List.nodup_cons.mp hnodup
    obtain ⟨hname, hnonempty, hadmin⟩ := hvalue admin List.mem_cons_self
    obtain ⟨hstep, hsame⟩ := swept_cleanAdmin hwrites hcombine h hname hnonempty hadmin
    have hrest := ih hnodup hstep.texts fun next hnext => by
      obtain ⟨hnextName, hnextNonempty, hnextValue⟩ := hvalue next (List.mem_cons_of_mem admin hnext)
      refine ⟨hnextName, hnextNonempty, (hsame next.1 hnextName ?_).trans hnextValue⟩
      exact fun heq => hfirst (heq ▸ List.mem_map_of_mem hnext)
    rw [List.foldl_cons]
    refine ⟨hrest.texts, fun q hq a => (hrest.other q hq a).trans (hstep.other q hq a),
      fun a x ha => ?_, ?_⟩
    · have hnames : a ∈ (admin :: admins).map Prod.fst ↔
          a ∈ [admin].map Prod.fst ∨ a ∈ admins.map Prod.fst := by
        simp only [List.map_cons, List.map_nil, List.mem_cons, List.not_mem_nil, or_false]
      rw [hrest.mem a x ha, hstep.mem a x ha, hnames, or_imp, and_assoc]
    · rcases hrest.combined with hcombined | ⟨hcombined, hnone⟩
      · exact .inl hcombined
      · rcases hstep.combined with hfirst | ⟨hfirst, hnoneFirst⟩
        · exact .inl (hcombined.trans hfirst)
        · refine .inr ⟨hcombined.trans hfirst, fun next hnext => ?_⟩
          rcases List.mem_cons.mp hnext with rfl | htail
          · exact hnoneFirst next (List.mem_singleton.mpr rfl)
          · exact hnone next htail

/-- The combined list of a user has no more than the admins' lists. -/
def CombinedHeld (C : IntCJson) (store : UserStore) : Prop :=
  ∀ x, x ∈ allowedEntries C store "" → ∃ admin : AdminName, x ∈ allowedEntries C store admin

theorem cleaned_cleanAdminAllowedPermissionBundle (order : HashOrder) {writes : String → Writes}
    (hwrites : ∀ a, writes a = ⟨.done, .done⟩) {store : UserStore} (h : AllowedTexts C store)
    (hheld : CombinedHeld C store) :
    Cleaned C {permissionName} store
      (cleanAdminAllowedPermissionBundle C order writes permissionName
        (getCombinedPolicy C permissionName store.manager) store) := by
  have henumerates := order.enumerates
    (store.manager.adminValues POLICY_ALLOWED_PERMISSION_BUNDLE)
  have hentry : ∀ a v, (a, v) ∈ order.entries
      (store.manager.adminValues POLICY_ALLOWED_PERMISSION_BUNDLE) ↔ ∃ _ : a ≠ "",
        v = store.manager.policyValue a POLICY_ALLOWED_PERMISSION_BUNDLE ∧ v ≠ "" := fun a v =>
    (henumerates.mem_iff a v).trans (h.good.lookup_values _ a v)
  have herased : Erased C permissionName _ _ := erased_combined h
  have hswept := swept_foldl hwrites herased _ henumerates.nodup h fun admin hadmin => by
    obtain ⟨hname, hvalue, hnonempty⟩ := (hentry admin.1 admin.2).mp hadmin
    exact ⟨hname, hnonempty, hvalue.symm⟩
  -- An admin outside the snapshot has no entries.
  have hlisted : ∀ a x, a ≠ "" → x ∈ allowedEntries C store a →
      (a, store.manager.policyValue a POLICY_ALLOWED_PERMISSION_BUNDLE) ∈ order.entries
        (store.manager.adminValues POLICY_ALLOWED_PERMISSION_BUNDLE) := by
    intro a x ha hx
    refine (hentry a _).mpr ⟨ha, rfl, fun hempty => ?_⟩
    rw [allowedEntries, hempty, AllowedPermissionBundlePlugin.itemsOf_empty] at hx
    exact hx
  refine ⟨hswept.texts, hswept.other, fun a x => ?_⟩
  show _ ↔ _ ∧ ¬ x.permission = permissionName
  by_cases ha : a = ""
  · subst ha
    rcases hswept.combined with hcombined | ⟨hcombined, hnone⟩
    · rw [cleanAdminAllowedPermissionBundle, allowedEntries, hcombined, herased.mem]
      exact Iff.rfl
    · rw [cleanAdminAllowedPermissionBundle, allowedEntries, hcombined]
      refine (and_iff_left_of_imp fun hx => ?_).symm
      obtain ⟨admin, hadmin⟩ := hheld x hx
      exact hnone _ (hlisted admin x admin.2 hadmin) x hadmin
  · rw [cleanAdminAllowedPermissionBundle, hswept.mem a x ha]
    refine and_congr_right fun hx => ⟨fun hne => hne ?_, fun hne _ => hne⟩
    exact List.mem_map_of_mem (hlisted a x ha hx)

theorem Cleaned.combinedHeld {gone : Set String} {store store' : UserStore}
    (h : Cleaned C gone store store') (hheld : CombinedHeld C store) : CombinedHeld C store' := by
  intro x hx
  obtain ⟨hx, hnot⟩ := (h.mem "" x).mp hx
  obtain ⟨admin, hadmin⟩ := hheld x hx
  exact ⟨admin, (h.mem admin x).mpr ⟨hadmin, hnot⟩⟩

theorem cleaned_cleanAllowedPermissionBundles (order : HashOrder) {writes : String → String → Writes}
    (names : List String) (hwrites : ∀ p, p ∈ names → ∀ a, writes p a = ⟨.done, .done⟩)
    {store : UserStore} (h : AllowedTexts C store) (hheld : CombinedHeld C store) :
    Cleaned C {p | p ∈ names} store (cleanAllowedPermissionBundles C order writes names store) := by
  induction names generalizing store with
  | nil =>
    refine ⟨h, fun _ _ _ => rfl, fun a x => (and_iff_left ?_).symm⟩
    exact List.not_mem_nil
  | cons name names ih =>
    have hfirst : Cleaned C {name} store _ :=
      cleaned_cleanAdminAllowedPermissionBundle order (hwrites name List.mem_cons_self) h hheld
    have hrest := ih (fun p hp => hwrites p (List.mem_cons_of_mem name hp)) hfirst.texts
      (hfirst.combinedHeld hheld)
    refine ⟨hrest.texts, fun q hq a => (hrest.other q hq a).trans (hfirst.other q hq a),
      fun a x => ?_⟩
    show x ∈ allowedEntries C (cleanAllowedPermissionBundles C order writes names _) a ↔ _
    rw [hrest.mem, hfirst.mem, and_assoc]
    refine and_congr_right fun _ => ?_
    show x.permission ≠ name ∧ x.permission ∉ names ↔ x.permission ∉ name :: names
    rw [List.mem_cons, not_or]

end Clean

end DisallowedPermissionPlugin

/-! ### Runs -/

namespace PermissionRun

open AllowedPermissionBundleSerializer DisallowedPermissionPlugin

/-- The lists of the users, the permissions restricted for them, and the whitelists. -/
structure State where
  stores : Int → UserStore
  restricted : Int → Finset String
  whitelist : AllowedPermissionBundlePlugin.Whitelist

/-- An operation on the lists of a user.  An operation that lifts a restriction also writes the lists
of allowed bundles, for each permission and each admin. -/
inductive Op where
  | disallowed (userId : Int) (op : DisallowedPermissionPlugin.Op)
    (cleanWrites : String → String → Writes)
  | allowed (userId : Int) (op : AllowedPermissionBundlePlugin.Op)

section Steps

variable (C : IntCJson) (order : HashOrder) (s : State)

/-- What `CheckPermissionDisallowed` looks for, in the combined list of the account. -/
def isDisallowed (permissionName : String) (accountId : Int) : Bool :=
  ((ArrayStringSerializer.deserialize C.toCJson ((s.stores accountId).manager.policyValue ""
    POLICY_DISALLOWED_PERMISSION)).getD []).contains permissionName

/-- The permission of an entry is in the combined disallowed list of the account of the entry. -/
def EntryDisallowed (x : AllowedEntry) : Prop :=
  x.permission ∈ combined C.toCJson (s.stores x.accountId.toInt)

/-- The request with the answer to `CheckPermissionDisallowed`. -/
def answered (request : AllowedPermissionBundlePlugin.Request) :
    AllowedPermissionBundlePlugin.Request :=
  match request.parcel with
  | none => request
  | some parcel =>
    { request with answers := { request.answers with
        permissionDisallowed := isDisallowed C s parcel.permission
          parcel.appInstance.accountId.toInt } }

def answeredOp : AllowedPermissionBundlePlugin.Op → AllowedPermissionBundlePlugin.Op
  | .update admin writes request => .update admin writes (answered C s request)
  | .removeAdmin admin writes getAccessTokenId => .removeAdmin admin writes getAccessTokenId

/-- The handler cleans the lists before its own ones are stored.  Neither reads what the other
writes. -/
def step : Op → State
  | .disallowed userId op cleanWrites =>
    let after := policyStep (DisallowedPermissionPlugin.plugin C.toCJson order)
      (userState (s.stores userId) (s.restricted userId)) op
    { s with
      stores := Function.update s.stores userId
        (cleanAllowedPermissionBundles C order cleanWrites after.modules.cleaned after.store)
      restricted := Function.update s.restricted userId after.modules.restricted }
  | .allowed userId op =>
    let after := policyStep (AllowedPermissionBundlePlugin.plugin C order)
      ⟨s.stores userId, s.whitelist, false⟩ (answeredOp C s op)
    { s with stores := Function.update s.stores userId after.store, whitelist := after.modules }

def boot : State where
  stores userId := ⟨UserPolicyManager.new userId, PolicyTables.empty⟩
  restricted _ := ∅
  whitelist _ := false

/-- The permissions restricted for a user are the combined list of the user, and every entry of an
admin or of the combined map of any user is for a permission that is disallowed for its account. -/
structure Consistent : Prop where
  restricted : ∀ userId p, p ∈ s.restricted userId ↔ p ∈ combined C.toCJson (s.stores userId)
  allowed : ∀ userId a x, x ∈ allowedEntries C (s.stores userId) a → EntryDisallowed C s x

/-- The writes of an operation take effect.  An operation on disallowed permissions has calls that
all succeed, or of which already the first one fails, and none of the permissions that it lifts has an
entry for the user in the lists of another user. -/
def Keeps : Op → Prop
  | .disallowed userId op cleanWrites =>
    op.writes = ⟨.done, .done⟩ ∧ CallsKeep C.toCJson (s.stores userId) op ∧
      ∀ p, p ∈ liftedBy C.toCJson (s.stores userId) op →
        (∀ a, cleanWrites p a = ⟨.done, .done⟩) ∧
          ∀ other (admin : AdminName) x, other ≠ userId →
            x ∈ allowedEntries C (s.stores other) admin → x.accountId.toInt = userId →
              x.permission ≠ p
  | .allowed _ op => op.writes = ⟨.done, .done⟩

end Steps

section Step

variable {C : IntCJson} {order : HashOrder} {s : State}

/-- What holds of all users in every state. -/
structure Good (C : IntCJson) (s : State) : Prop where
  restricts : ∀ userId, Restricts C.toCJson (s.stores userId) (s.restricted userId)
  texts : ∀ userId, AllowedTexts C (s.stores userId)
  combinedHeld : ∀ userId, CombinedHeld C (s.stores userId)
  allowed : ∀ userId (admin : AdminName) x, x ∈ allowedEntries C (s.stores userId) admin →
    EntryDisallowed C s x

theorem Good.consistent (h : Good C s) : Consistent C s where
  restricted userId := (h.restricts userId).restricted
  allowed userId a x hx := by
    by_cases ha : a = ""
    · subst ha
      obtain ⟨admin, hadmin⟩ := h.combinedHeld userId x hx
      exact h.allowed userId admin x hadmin
    · exact h.allowed userId ⟨a, ha⟩ x hx

theorem good_boot (C : IntCJson) : Good C boot where
  restricts userId := by
    have hcombined : combined C.toCJson (boot.stores userId) = ∅ := by
      show ArrayStringSerializer.itemsOf C.toCJson
        ((UserPolicyManager.new userId).policyValue "" POLICY_DISALLOWED_PERMISSION) = ∅
      rw [policyValue_new]
      exact ArrayStringSerializer.itemsOf_empty
    refine ⟨textStore_new ArrayStringSerializer.isText_empty userId, ?_, fun x => ?_⟩
    · rw [hcombined]
      exact (held_new ArrayStringSerializer.itemsOf_empty userId).symm
    · rw [hcombined]
      exact iff_of_false (Finset.notMem_empty x) (Set.notMem_empty x)
  texts userId := textStore_new AllowedPermissionBundlePlugin.isText_empty userId
  combinedHeld userId x hx := by
    have hnone : allowedEntries C (boot.stores userId) "" = ∅ := by
      show AllowedPermissionBundlePlugin.itemsOf C ((UserPolicyManager.new userId).policyValue "" _) = ∅
      rw [policyValue_new]
      exact AllowedPermissionBundlePlugin.itemsOf_empty
    rw [hnone] at hx
    exact absurd hx (Set.notMem_empty x)
  allowed userId admin x hx := by
    have hnone : allowedEntries C (boot.stores userId) admin = ∅ :=
      itemsHeld_new AllowedPermissionBundlePlugin.itemsOf_empty userId admin
    rw [hnone] at hx
    exact absurd hx (Set.notMem_empty x)

/-- The values of the other policies do not matter. -/
theorem restricts_congr {C : CJson} {store store' : UserStore} {restricted : Finset String}
    (h : Restricts C store restricted) (hgood : GoodStore store')
    (hvalue : ∀ a, store'.manager.policyValue a POLICY_DISALLOWED_PERMISSION =
      store.manager.policyValue a POLICY_DISALLOWED_PERMISSION) :
    Restricts C store' restricted := by
  have hcombined : combined C store' = combined C store := by
    rw [combined, combined, hvalue]
  have hlisted : listed C store' = listed C store := by
    funext admin
    rw [listed, listed, itemsHeld, itemsHeld, hvalue]
  refine ⟨h.texts.congr hgood hvalue, ?_, fun x => ?_⟩
  · rw [hcombined, hlisted]
    exact h.combined
  · rw [hcombined]
    exact h.restricted x

theorem policyName_ne_allowed : POLICY_DISALLOWED_PERMISSION ≠ POLICY_ALLOWED_PERMISSION_BUNDLE := by
  decide

/-- An operation on disallowed permissions leaves the lists of allowed bundles, but for the entries of
the permissions that it cleans. -/
theorem good_disallowed (h : Good C s) {userId : Int} {op : DisallowedPermissionPlugin.Op}
    {cleanWrites : String → String → Writes}
    (hkeeps : Keeps C s (.disallowed userId op cleanWrites)) :
    Good C (step C order s (.disallowed userId op cleanWrites)) := by
  obtain ⟨hwrites, hcalls, hlifted⟩ := hkeeps
  have heffect : Effect C.toCJson (s.stores userId) op
      (policyStep (DisallowedPermissionPlugin.plugin C.toCJson order)
        (userState (s.stores userId) (s.restricted userId)) op) :=
    step_effect (h.restricts userId) hwrites hcalls
  obtain ⟨after, hafter⟩ : ∃ after, policyStep (DisallowedPermissionPlugin.plugin C.toCJson order)
    (userState (s.stores userId) (s.restricted userId)) op = after := ⟨_, rfl⟩
  have hother : ∀ a, after.store.manager.policyValue a POLICY_ALLOWED_PERMISSION_BUNDLE =
      (s.stores userId).manager.policyValue a POLICY_ALLOWED_PERMISSION_BUNDLE := by
    rw [← hafter]
    exact policyStep_other _ (h.restricts userId).texts.good DisallowedPermissionPlugin.policyName_ne
      rfl hwrites policyName_ne_allowed.symm
  rw [hafter] at heffect
  have hsame : ∀ a, allowedEntries C after.store a = allowedEntries C (s.stores userId) a := by
    intro a
    rw [allowedEntries, allowedEntries, hother]
  have hheld : CombinedHeld C after.store := by
    intro x hx
    rw [hsame] at hx
    obtain ⟨admin, hadmin⟩ := h.combinedHeld userId x hx
    exact ⟨admin, by rwa [hsame]⟩
  have hclean := cleaned_cleanAllowedPermissionBundles order after.modules.cleaned
    (fun p hp => (hlifted p (heffect.cleaned p hp)).1)
    ((h.texts userId).congr heffect.restricts.texts.good hother) hheld
  obtain ⟨store, hstore⟩ : ∃ store, cleanAllowedPermissionBundles C order cleanWrites
    after.modules.cleaned after.store = store := ⟨_, rfl⟩
  rw [hstore] at hclean
  have hstores : (step C order s (.disallowed userId op cleanWrites)).stores =
      Function.update s.stores userId store := by
    rw [← hstore, ← hafter]
    rfl
  have hrestricted : (step C order s (.disallowed userId op cleanWrites)).restricted =
      Function.update s.restricted userId after.modules.restricted := by
    rw [← hafter]
    rfl
  have hcombined : combined C.toCJson store = combined C.toCJson after.store := by
    rw [combined, combined, hclean.other _ policyName_ne_allowed]
  -- A permission that is no longer in the combined list is cleaned.
  have hstays : ∀ x : AllowedEntry, EntryDisallowed C s x →
      (x.accountId.toInt = userId → x.permission ∉ after.modules.cleaned) →
        EntryDisallowed C (step C order s (.disallowed userId op cleanWrites)) x := by
    intro x hx hnot
    rw [EntryDisallowed, hstores]
    by_cases haccount : x.accountId.toInt = userId
    · rw [EntryDisallowed, haccount] at hx
      rw [haccount, Function.update_self, hcombined]
      exact (heffect.dropped x.permission hx).resolve_right (hnot haccount)
    · rw [Function.update_of_ne haccount]
      exact hx
  refine ⟨fun other => ?_, fun other => ?_, fun other => ?_, fun other admin x hx => ?_⟩
  · rw [hstores, hrestricted]
    by_cases hother : other = userId
    · subst hother
      rw [Function.update_self, Function.update_self]
      exact restricts_congr heffect.restricts hclean.texts.good
        (hclean.other _ policyName_ne_allowed)
    · rw [Function.update_of_ne hother, Function.update_of_ne hother]
      exact h.restricts other
  · rw [hstores]
    exact (Function.forall_update_iff s.stores fun _ store => AllowedTexts C store).mpr
      ⟨hclean.texts, fun other _ => h.texts other⟩ other
  · rw [hstores]
    exact (Function.forall_update_iff s.stores fun _ store => CombinedHeld C store).mpr
      ⟨hclean.combinedHeld hheld, fun other _ => h.combinedHeld other⟩ other
  · rw [hstores] at hx
    by_cases hother : other = userId
    · subst hother
      rw [Function.update_self, hclean.mem, hsame] at hx
      exact hstays x (h.allowed other admin x hx.1) fun _ => hx.2
    · rw [Function.update_of_ne hother] at hx
      refine hstays x (h.allowed other admin x hx) fun haccount hcleaned => ?_
      exact (hlifted _ (heffect.cleaned _ hcleaned)).2 other admin x hother hx haccount rfl

/-- The parameters are those of the parcel, but for the bundle name. -/
theorem readParameters_parcel {request : AllowedPermissionBundlePlugin.Request}
    {params : AllowedPermissionBundlePlugin.PolicyOperationParams}
    (h : AllowedPermissionBundlePlugin.readParameters request = .ok params) :
    ∃ parcel, request.parcel = some parcel ∧ params.permission = parcel.permission ∧
      params.appInstance.accountId = parcel.appInstance.accountId := by
  unfold AllowedPermissionBundlePlugin.readParameters at h
  cases hparcel : request.parcel with
  | none =>
    rw [hparcel] at h
    cases h
  | some parcel =>
    rw [hparcel] at h
    refine ⟨parcel, rfl, ?_⟩
    dsimp only at h
    generalize (if parcel.sceneTag = SCENE_APP_UNINSTALL then
      AllowedPermissionBundlePlugin.PolicyScene.appUninstall
      else if request.type = .set then .policyAdd else .policyRemove) = scene at h
    split at h
    · cases h
    · split at h
      · split at h
        · cases h
        · cases h
          exact ⟨rfl, rfl⟩
      · cases h
        exact ⟨rfl, rfl⟩

/-- A request that passes the check has an entry of a disallowed permission. -/
theorem entryDisallowed_answered {request : AllowedPermissionBundlePlugin.Request}
    {params : AllowedPermissionBundlePlugin.PolicyOperationParams}
    (hparams : AllowedPermissionBundlePlugin.readParameters (answered C s request) = .ok params)
    (h : (answered C s request).answers.permissionDisallowed = true) :
    EntryDisallowed C s (entryOf params.permission params.appInstance) := by
  obtain ⟨parcel, hparcel, hpermission, haccount⟩ := readParameters_parcel hparams
  have hrequest : request.parcel = some parcel := by
    unfold answered at hparcel
    split at hparcel
    · exact hparcel
    · exact hparcel
  rw [answered, hrequest] at h
  have h : isDisallowed C s parcel.permission parcel.appInstance.accountId.toInt = true := h
  rw [isDisallowed, List.contains_iff_mem] at h
  rw [EntryDisallowed]
  show params.permission ∈ combined C.toCJson (s.stores params.appInstance.accountId.toInt)
  rw [hpermission, haccount]
  exact h

/-- What an operation on allowed bundles makes of the lists of a user. -/
structure AllowedEffect (C : IntCJson) (s : State) (store store' : UserStore) : Prop where
  texts : AllowedTexts C store'
  combinedHeld : CombinedHeld C store'
  mem : ∀ (admin : AdminName) x, x ∈ allowedEntries C store' admin →
    (∃ other : AdminName, x ∈ allowedEntries C store other) ∨ EntryDisallowed C s x

/-- The list of one admin changes, and the combined list has no more than all lists. -/
theorem allowedEffect_of_update {after after' : PluginState AllowedPermissionBundlePlugin.Whitelist}
    {admin : AdminName} {items : Set AllowedEntry}
    (htexts : AllowedPermissionBundlePlugin.Readable C after')
    (hlisted : AllowedPermissionBundlePlugin.listed C after' =
      Function.update (AllowedPermissionBundlePlugin.listed C after) admin items)
    (hitems : ∀ x, x ∈ items →
      x ∈ AllowedPermissionBundlePlugin.listed C after admin ∨ EntryDisallowed C s x)
    (hcombined : ∀ x, x ∈ AllowedPermissionBundlePlugin.combined C after' →
      x ∈ heldByOthers (AllowedPermissionBundlePlugin.listed C after) admin ∨ x ∈ items) :
    AllowedEffect C s after.store after'.store := by
  have hentries : ∀ (other : AdminName) x, x ∈ allowedEntries C after'.store other →
      x ∈ Function.update (AllowedPermissionBundlePlugin.listed C after) admin items other := by
    intro other x hx
    rw [← hlisted]
    exact hx
  refine ⟨htexts, fun x hx => ?_, fun other x hx => ?_⟩
  · exact (AllowedPermissionBundlePlugin.held_after hlisted x).mpr (hcombined x hx)
  · have hx := hentries other x hx
    by_cases hother : other = admin
    · subst hother
      rw [Function.update_self] at hx
      exact (hitems x hx).imp_left fun hown => ⟨other, hown⟩
    · rw [Function.update_of_ne hother] at hx
      exact .inl ⟨other, hx⟩

theorem allowedEffect_unchanged (h : Good C s) {userId : Int} {store' : UserStore}
    (hstore : store' = s.stores userId) : AllowedEffect C s (s.stores userId) store' := by
  rw [hstore]
  exact ⟨h.texts userId, h.combinedHeld userId, fun admin x hx => .inl ⟨admin, hx⟩⟩

theorem allowedEffect (h : Good C s) {userId : Int} {op : AllowedPermissionBundlePlugin.Op}
    (hwrites : op.writes = ⟨.done, .done⟩) :
    AllowedEffect C s (s.stores userId)
      (policyStep (AllowedPermissionBundlePlugin.plugin C order)
        ⟨s.stores userId, s.whitelist, false⟩ (answeredOp C s op)).store := by
  obtain ⟨before, hbefore⟩ : ∃ before : PluginState AllowedPermissionBundlePlugin.Whitelist,
    ⟨s.stores userId, s.whitelist, false⟩ = before := ⟨_, rfl⟩
  have hstore : s.stores userId = before.store := by rw [← hbefore]
  have htexts : AllowedPermissionBundlePlugin.Readable C before := by
    show AllowedTexts C before.store
    rw [← hstore]
    exact h.texts userId
  rw [hbefore]
  cases op with
  | update admin writes request =>
    obtain rfl : writes = ⟨.done, .done⟩ := hwrites
    obtain ⟨after, hafter⟩ : ∃ after, policyStep (AllowedPermissionBundlePlugin.plugin C order)
      before (.update admin ⟨.done, .done⟩ (answered C s request)) = after := ⟨_, rfl⟩
    have houtcome := AllowedPermissionBundlePlugin.outcome_update order htexts
      (answered C s request) hafter
    show AllowedEffect C s _ (policyStep (AllowedPermissionBundlePlugin.plugin C order)
      before (.update admin ⟨.done, .done⟩ (answered C s request))).store
    rw [hafter]
    obtain ⟨htexts', houtcome⟩ := houtcome
    cases houtcome with
    | failed hmodules hsame => exact allowedEffect_unchanged h (hsame.trans hstore.symm)
    | set params x hparams htype hdisallowed hentry hlisted hcombined hmodules =>
      rw [hstore]
      refine allowedEffect_of_update htexts' hlisted (fun y hy => ?_) fun y hy => ?_
      · rcases hy with rfl | hy
        · rw [hentry]
          exact .inr (entryDisallowed_answered hparams hdisallowed)
        · exact .inl hy
      · rw [hcombined, AllowedPermissionBundlePlugin.held_before admin] at hy
        rcases hy with rfl | hother | hown
        · exact .inr (.inl rfl)
        · exact .inl hother
        · exact .inr (.inr hown)
    | absent params x hparams htype hdisallowed hentry hnone hlisted hcombined hmodules =>
      rw [hstore]
      refine allowedEffect_of_update htexts'
        (hlisted.trans (Function.update_eq_self admin _).symm) (fun y hy => .inl hy) fun y hy => ?_
      exact .inl ((hcombined y).mp hy)
    | removed params x hparams htype hdisallowed hentry hsome hlisted hcombined hmodules =>
      rw [hstore]
      refine allowedEffect_of_update htexts' hlisted (fun y hy => .inl hy.1) fun y hy => ?_
      exact ((hcombined y).mp hy).symm
  | removeAdmin admin writes getAccessTokenId =>
    obtain rfl : writes = ⟨.done, .done⟩ := hwrites
    obtain ⟨after, hafter⟩ : ∃ after, policyStep (AllowedPermissionBundlePlugin.plugin C order)
      before (.removeAdmin admin ⟨.done, .done⟩ getAccessTokenId) = after := ⟨_, rfl⟩
    have hcases := policyStep_removeAdmin_cases (AllowedPermissionBundlePlugin.plugin C order) admin
      htexts.good AllowedPermissionBundlePlugin.policyName_ne rfl getAccessTokenId
    obtain ⟨others, hothers, htext, hmem⟩ :=
      AllowedPermissionBundlePlugin.getOthersMergePolicyData_text order htexts admin
    show AllowedEffect C s _ (policyStep (AllowedPermissionBundlePlugin.plugin C order)
      before (.removeAdmin admin ⟨.done, .done⟩ getAccessTokenId)).store
    rw [hafter, htext] at hcases
    rw [hafter]
    rcases hcases with ⟨-, rfl⟩ | ⟨-, -, hsaved⟩
    · exact allowedEffect_unchanged h hstore.symm
    · have hlisted : AllowedPermissionBundlePlugin.listed C after = Function.update
          (AllowedPermissionBundlePlugin.listed C before) admin ∅ :=
        (itemsHeld_saved hsaved).trans
          (congrArg _ AllowedPermissionBundlePlugin.itemsOf_empty)
      have hcombined : AllowedPermissionBundlePlugin.combined C after = {x | x ∈ entries others} :=
        (congrArg (AllowedPermissionBundlePlugin.itemsOf C) hsaved.value_combined).trans
          (AllowedPermissionBundlePlugin.itemsOf_serialize hothers)
      rw [hstore]
      refine allowedEffect_of_update (htexts.saved hsaved AllowedPermissionBundlePlugin.isText_empty
        ⟨others, hothers, rfl⟩) hlisted (fun y hy => absurd hy (Set.notMem_empty y)) fun y hy => ?_
      rw [hcombined] at hy
      exact .inl ((hmem y).mp hy)

theorem answeredOp_writes (op : AllowedPermissionBundlePlugin.Op) :
    (answeredOp C s op).writes = op.writes := by
  cases op <;> rfl

/-- An operation on allowed bundles leaves what is disallowed. -/
theorem good_allowed (h : Good C s) {userId : Int} {op : AllowedPermissionBundlePlugin.Op}
    (hkeeps : Keeps C s (.allowed userId op)) : Good C (step C order s (.allowed userId op)) := by
  have hwrites : op.writes = ⟨.done, .done⟩ := hkeeps
  have heffect : AllowedEffect C s (s.stores userId)
      (policyStep (AllowedPermissionBundlePlugin.plugin C order)
        ⟨s.stores userId, s.whitelist, false⟩ (answeredOp C s op)).store := allowedEffect h hwrites
  obtain ⟨after, hafter⟩ : ∃ after, policyStep (AllowedPermissionBundlePlugin.plugin C order)
    ⟨s.stores userId, s.whitelist, false⟩ (answeredOp C s op) = after := ⟨_, rfl⟩
  have hother : ∀ a, after.store.manager.policyValue a POLICY_DISALLOWED_PERMISSION =
      (s.stores userId).manager.policyValue a POLICY_DISALLOWED_PERMISSION := by
    rw [← hafter]
    exact policyStep_other _ (h.texts userId).good AllowedPermissionBundlePlugin.policyName_ne rfl
      ((answeredOp_writes op).trans hwrites) policyName_ne_allowed
  rw [hafter] at heffect
  have hstores : (step C order s (.allowed userId op)).stores =
      Function.update s.stores userId after.store := by
    rw [← hafter]
    rfl
  have hrestricted : (step C order s (.allowed userId op)).restricted = s.restricted := rfl
  have hcombined : ∀ other, combined C.toCJson ((step C order s (.allowed userId op)).stores other) =
      combined C.toCJson (s.stores other) := by
    intro other
    rw [hstores]
    by_cases heq : other = userId
    · subst heq
      rw [Function.update_self, combined, combined, hother]
    · rw [Function.update_of_ne heq]
  have hdisallowed : ∀ x, EntryDisallowed C s x →
      EntryDisallowed C (step C order s (.allowed userId op)) x := by
    intro x hx
    rw [EntryDisallowed, hcombined]
    exact hx
  refine ⟨fun other => ?_, fun other => ?_, fun other => ?_, fun other admin x hx => ?_⟩
  · rw [hstores, hrestricted]
    exact (Function.forall_update_iff s.stores fun other store =>
      Restricts C.toCJson store (s.restricted other)).mpr
        ⟨restricts_congr (h.restricts userId) heffect.texts.good hother,
          fun other _ => h.restricts other⟩ other
  · rw [hstores]
    exact (Function.forall_update_iff s.stores fun _ store => AllowedTexts C store).mpr
      ⟨heffect.texts, fun other _ => h.texts other⟩ other
  · rw [hstores]
    exact (Function.forall_update_iff s.stores fun _ store => CombinedHeld C store).mpr
      ⟨heffect.combinedHeld, fun other _ => h.combinedHeld other⟩ other
  · rw [hstores] at hx
    by_cases heq : other = userId
    · subst heq
      rw [Function.update_self] at hx
      rcases heffect.mem admin x hx with ⟨holder, hheld⟩ | hnew
      · exact hdisallowed x (h.allowed other holder x hheld)
      · exact hdisallowed x hnew
    · rw [Function.update_of_ne heq] at hx
      exact hdisallowed x (h.allowed other admin x hx)

theorem good_step (h : Good C s) (op : Op) (hkeeps : Keeps C s op) : Good C (step C order s op) := by
  cases op with
  | disallowed userId op cleanWrites => exact good_disallowed h hkeeps
  | allowed userId op => exact good_allowed h hkeeps

end Step

/-- In a run whose operations all meet `Keeps`, the restricted permissions are the combined list of
each user, and every allowed entry is for a permission that is disallowed for its account. -/
theorem always_consistent (C : IntCJson) (order : HashOrder) (ops : List Op)
    (h : Each (step C order) (Keeps C) boot ops) :
    Always (step C order) (Consistent C) boot ops := by
  have hstep : ∀ s op, Good C s → Keeps C s op → Good C (step C order s op) :=
    fun s op hs hkeeps => good_step hs op hkeeps
  have hrun : Always (step C order) (Good C) boot ops := always_of_each hstep (good_boot C) h
  exact hrun.mono fun s hs => hs.consistent

/-- All calls succeed. -/
def acceptAll : Answers := ⟨fun _ => some .aplNormal, fun _ => true⟩

def accepted (type : FuncOperateType) (data : List String) : Op :=
  .disallowed 100 (.update firstAdmin ⟨.done, .done⟩ ⟨type, some data, acceptAll⟩)
    fun _ _ => ⟨.done, .done⟩

def allowCamera : Op :=
  .allowed 100 (.update secondAdmin ⟨.done, .done⟩
    (AllowedPermissionBundlePlugin.OtherAccount.request .set 100))

theorem keeps_accepted (C : IntCJson) {s : State} (type : FuncOperateType) (data : List String)
    (hothers : ∀ other (admin : AdminName), other ≠ 100 →
      allowedEntries C (s.stores other) admin = ∅) : Keeps C s (accepted type data) := by
  have hsucceeds : ∀ p, Succeeds acceptAll p := fun p => ⟨.inr rfl, rfl⟩
  refine ⟨rfl, fun _ _ => ⟨fun _ _ => .inl fun p _ => hsucceeds p,
    fun _ _ => .inl fun p _ => hsucceeds p⟩, fun p _ => ⟨fun _ => rfl, ?_⟩⟩
  intro other admin x hother hx
  rw [hothers other admin hother] at hx
  exact absurd hx (Set.notMem_empty x)

/-- A permission is disallowed, an application keeps it, and the restriction is lifted. -/
theorem always_consistent_lifted :
    Always (step .standard .evaluated) (Consistent .standard) boot
      [accepted .set ["camera"], allowCamera, accepted .remove ["camera"]] := by
  have hboot : ∀ other (admin : AdminName), allowedEntries .standard (boot.stores other) admin = ∅ :=
    fun other admin => itemsHeld_new AllowedPermissionBundlePlugin.itemsOf_empty other admin
  refine always_consistent .standard .evaluated _
    ⟨keeps_accepted .standard .set _ fun other admin _ => hboot other admin, rfl,
      keeps_accepted .standard .remove _ fun other admin hother => ?_, trivial⟩
  show allowedEntries .standard (Function.update (Function.update boot.stores 100 _) 100 _ other)
    admin = ∅
  rw [Function.update_of_ne hother, Function.update_of_ne hother]
  exact hboot other admin

/-- The call for the second of two permissions fails. -/
def halfway : Op :=
  .disallowed 100
    (.update firstAdmin ⟨.done, .done⟩
      ⟨.set, some ["camera", "microphone"], ⟨fun _ => some .aplNormal, fun p => p == "camera"⟩⟩)
    fun _ _ => ⟨.done, .done⟩

/-- The first permission stays restricted, and no list has it. -/
theorem halfway_not_consistent :
    ¬ ∀ (C : IntCJson) (order : HashOrder) (ops : List Op),
      Always (step C order) (Consistent C) boot ops := by
  intro h
  have hlast : Consistent .standard (step .standard .evaluated boot halfway) :=
    (h .standard .evaluated [halfway]).2
  have hrestricted : "camera" ∈ (step .standard .evaluated boot halfway).restricted 100 := by
    decide +kernel
  have hlisted : "camera" ∉ (ArrayStringSerializer.deserialize IntCJson.standard.toCJson
      (((step .standard .evaluated boot halfway).stores 100).manager.policyValue ""
        POLICY_DISALLOWED_PERMISSION)).getD [] := by
    decide +kernel
  exact hlisted ((hlast.restricted 100 "camera").mp hrestricted)

end PermissionRun

end Edm
