import Edm.Admin.AdminManager
import Edm.Library.Strictest
import Edm.Plugin.ClipboardPolicyPlugin

/-! Runs of clipboard policies in any users, with applications that are removed.  The pasteboard
service accepts every call.  It has one share option for a token, whichever user's policies ask for
it. -/

set_option autoImplicit false

namespace Edm

open Library Library.UnorderedMap

namespace ClipboardPolicyPlugin

open ClipboardSerializer

structure State where
  stores : Int → UserStore
  options : ShareOptions
  subscribed : Bool

namespace State

/-- What the plugin works on for a user. -/
def user (s : State) (userId : Int) : PluginState ShareOptions :=
  { store := s.stores userId, modules := s.options, subscribed := s.subscribed }

def setUser (s : State) (userId : Int) (p : PluginState ShareOptions) : State where
  stores := Function.update s.stores userId p.store
  options := p.modules
  subscribed := p.subscribed

variable (s : State) (userId : Int) (p q : PluginState ShareOptions)

@[simp] theorem setUser_stores : (s.setUser userId p).stores userId = p.store := by
  show Function.update s.stores userId p.store userId = p.store
  rw [Function.update_self]

@[simp] theorem setUser_user : (s.setUser userId p).user userId = p := by
  unfold user
  rw [setUser_stores]
  rfl

theorem setUser_self : s.setUser userId (s.user userId) = s := by
  unfold setUser user
  rw [Function.update_eq_self]

theorem setUser_setUser : (s.setUser userId p).setUser userId q = s.setUser userId q := by
  unfold setUser
  rw [Function.update_idem]

/-- Users without policies, and applications without share options. -/
def boot : State where
  stores userId := ⟨UserPolicyManager.new userId, PolicyTables.empty⟩
  options _ := none
  subscribed := false

end State

/-- A bundle's removal is dispatched to the admins of the default user.  Each visit asks for the
bundle's token. -/
inductive Op where
  | set (userId : Int) (admin : AdminName) (writes : Writes) (request : Request)
  | removeAdmin (userId : Int) (admin : AdminName) (writes : Writes)
  | bundleRemoved (bundleName : String) (userId : Int32) (tokenIds : String → TokenIds)
      (writes : String → Writes)

variable (C : ArrayCJson) (order : HashOrder)

abbrev acceptingPlugin : EventPlugin ShareOptions Request Unit BundleRemoved :=
  plugin C order (some .accepting)

def step (s : State) : Op → State
  | .set userId admin writes request =>
    s.setUser userId (policyStep (acceptingPlugin C order).toPlugin (s.user userId)
      (.update admin writes request))
  | .removeAdmin userId admin writes =>
    s.setUser userId (policyStep (acceptingPlugin C order).toPlugin (s.user userId)
      (.removeAdmin admin writes ()))
  | .bundleRemoved bundleName userId tokenIds writes =>
    s.setUser DEFAULT_USER_ID ((acceptingPlugin C order).dispatchForAdmins order writes
      (fun adminName => ⟨bundleName, userId, tokenIds adminName⟩) (s.user DEFAULT_USER_ID))

section Run

variable (s : State) (userId : Int)

/-- The map that a value stands for. -/
def mapOf (adminName : String) : ClipboardMap :=
  (deserialize C ((s.stores userId).manager.policyValue adminName POLICY_CLIPBOARD_POLICY)).2

abbrev stored (admin : AdminName) : ClipboardMap := mapOf C s userId admin

abbrev combined : ClipboardMap := mapOf C s userId ""

/-- The other admins' values, merged. -/
def othersMap (admin : AdminName) : ClipboardMap :=
  (deserialize C ((acceptingPlugin C order).getOthersMergePolicyData (s.stores userId).manager
    admin)).2

/-- How strict the admins of a user are on a token. -/
def levels (t : Int32) (admin : AdminName) : Nat := (stored C s userId admin).level t

/-- How strict a share option is. -/
def optionLevel : Option ShareOption → Nat
  | none => 0
  | some .crossDevice => 1
  | some .localDevice => 2
  | some .inApp => 3

/-- The combined policy of a user is the strictest of its admins' values for each token, and the
share option the strictest of all. -/
structure Strictest : Prop where
  combined : ∀ userId t,
    IsLUB (Set.range (levels C s userId t)) ((combined C s userId).level t)
  enforced : ∀ t, IsLUB (Set.range fun holder : Int × AdminName => levels C s holder.1 t holder.2)
    (optionLevel (s.options t))

/-- The map has an entry of a bundle of a user. -/
def HasBundle (bundleName : String) (user : Int32) (m : ClipboardMap) : Prop :=
  ∃ entry, entry ∈ m.entries ∧ entry.2.userId = user ∧ entry.2.bundleName = bundleName

/-- Once a removal has been dispatched, no value has an entry of the bundle. -/
def Right (op : Op) : Prop :=
  match op with
  | .set _ _ _ _ => True
  | .removeAdmin _ _ _ => True
  | .bundleRemoved bundleName user _ _ =>
    ∀ userId, (∀ admin, ¬HasBundle bundleName user (stored C (step C order s op) userId admin)) ∧
      ¬HasBundle bundleName user (combined C (step C order s op) userId)

/-- No admin of another user is stricter on a token than `n` and the other admins of the user. -/
def CoveredElsewhere (admin : AdminName) (t : Int32) (n : Nat) : Prop :=
  ∀ userId', userId' ≠ userId → ∀ admin', levels C s userId' t admin' ≤ n ∨
    ∃ other, other ≠ admin ∧ levels C s userId' t admin' ≤ levels C s userId t other

/-- The condition on a visit: the admin's map has one entry of the bundle at most, and an entry is
left in it. -/
structure VisitKeeps (event : BundleRemoved) (admin : AdminName) : Prop where
  left : (after event.tokenIds (0, event.info) (stored C s userId admin)).entries ≠ []
  gone : ¬HasBundle event.bundleName event.userId
    (after event.tokenIds (0, event.info) (stored C s userId admin))
  covered : CoveredElsewhere C s userId admin
    (target event.tokenIds (0, event.info) (stored C s userId admin)) 0

/-- Writes take effect.  No admin of another user is stricter on a token whose share option is set
than the admins that are looked at.  When a bundle is removed, every visit leaves an entry and none
of the bundle, and the other users have none of it. -/
def Keeps (op : Op) : Prop :=
  match op with
  | .set userId admin writes request =>
    Accepted request.tokenIds (getPolicy request.parcel) (stored C s userId admin)
        (othersMap C order s userId admin) →
      writes = ⟨.done, .done⟩ ∧ CoveredElsewhere C s userId admin
        (target request.tokenIds (getPolicy request.parcel) (stored C s userId admin))
        (getPolicy request.parcel).2.policy.strictness
  | .removeAdmin userId admin writes =>
    writes = ⟨.done, .done⟩ ∧ ∀ t, (stored C s userId admin).find t ≠ none →
      CoveredElsewhere C s userId admin t 0
  | .bundleRemoved bundleName user tokenIds writes =>
    (∀ adminName, writes adminName = ⟨.done, .done⟩) ∧
      (acceptingPlugin C order).EachVisit order writes
        (fun adminName => ⟨bundleName, user, tokenIds adminName⟩)
        (fun p admin => VisitKeeps C (s.setUser DEFAULT_USER_ID p) DEFAULT_USER_ID
          ⟨bundleName, user, tokenIds admin⟩ admin) (s.user DEFAULT_USER_ID) ∧
      ∀ userId, userId ≠ DEFAULT_USER_ID → ∀ admin,
        ¬HasBundle bundleName user (stored C s userId admin)

end Run

/-! ### Values -/

section Values

variable {C} {order} {s : State} {userId : Int}

theorem policyName_ne : POLICY_CLIPBOARD_POLICY ≠ "" := by decide

theorem optionLevel_shareOption (policy : ClipboardPolicy) :
    optionLevel (shareOption policy) = policy.strictness := by
  cases policy <;> rfl

/-- The texts of maps of restrictions. -/
def IsText (C : ArrayCJson) (text : String) : Prop :=
  ∃ m : ClipboardMap, m.Restricts ∧ text = write C m

/-- Beside `Strictest`: the values can be read, the combined policies have entries of the admins,
and they are not too large. -/
structure Good (C : ArrayCJson) (s : State) : Prop where
  text : ∀ userId, TextStore (IsText C) POLICY_CLIPBOARD_POLICY (s.stores userId)
  entries : ∀ userId entry, entry ∈ (combined C s userId).entries →
    ∃ admin, entry ∈ (stored C s userId admin).entries
  size : ∀ userId, (combined C s userId).entries.length ≤ MAX_PASTEBOARD_POLICY_NUM
  strictest : Strictest C s

/-- What the texts stand for. -/
theorem mapOf_spec (h : TextStore (IsText C) POLICY_CLIPBOARD_POLICY (s.stores userId))
    (adminName : String) :
    (mapOf C s userId adminName).Restricts ∧
      (s.stores userId).manager.policyValue adminName POLICY_CLIPBOARD_POLICY =
        write C (mapOf C s userId adminName) := by
  obtain ⟨m, hm, htext⟩ := h.text adminName
  have hmap : mapOf C s userId adminName = m := by
    rw [mapOf, htext, deserialize_write]
  rw [hmap]
  exact ⟨hm, htext⟩

theorem mapOf_of_text {adminName : String} {m : ClipboardMap}
    (h : (s.stores userId).manager.policyValue adminName POLICY_CLIPBOARD_POLICY = write C m) :
    mapOf C s userId adminName = m := by
  rw [mapOf, h, deserialize_write]

/-- The others' maps, merged. -/
theorem othersMap_spec (h : TextStore (IsText C) POLICY_CLIPBOARD_POLICY (s.stores userId))
    (order : HashOrder) (admin : AdminName) :
    (othersMap C order s userId admin).Restricts ∧
      (acceptingPlugin C order).getOthersMergePolicyData (s.stores userId).manager admin =
        write C (othersMap C order s userId admin) ∧
      (∀ t, IsLUB (levelsOfOthers (levels C s userId t) admin)
        ((othersMap C order s userId admin).level t)) ∧
      ∀ entry, entry ∈ (othersMap C order s userId admin).entries →
        ∃ other, other ≠ admin ∧ entry ∈ (stored C s userId other).entries := by
  obtain ⟨values, hvalues⟩ : ∃ values, values =
    othersValues order (s.stores userId).manager POLICY_CLIPBOARD_POLICY admin := ⟨_, rfl⟩
  obtain ⟨entries, hentries⟩ : ∃ entries, entries = ((values.map fun v =>
    (deserialize C v).2).map ClipboardMap.entries).flatten := ⟨_, rfl⟩
  have hmem : ∀ entry, entry ∈ entries ↔
      ∃ other, other ≠ admin ∧ entry ∈ (stored C s userId other).entries := by
    intro entry
    rw [hentries, List.mem_flatten]
    constructor
    · rintro ⟨_, hmap, hentry⟩
      obtain ⟨m, hm, rfl⟩ := List.mem_map.mp hmap
      obtain ⟨v, hv, rfl⟩ := List.mem_map.mp hm
      rw [hvalues] at hv
      obtain ⟨-, other, hother, rfl⟩ := (h.good.mem_othersValues order admin).mp hv
      exact ⟨other, hother, hentry⟩
    · rintro ⟨other, hother, hentry⟩
      refine ⟨_, List.mem_map_of_mem (List.mem_map_of_mem ?_), hentry⟩
      rw [hvalues]
      refine (h.good.mem_othersValues order admin).mpr ⟨fun hempty => ?_, other, hother, rfl⟩
      unfold stored mapOf at hentry
      rw [hempty, deserialize_empty] at hentry
      cases hentry
  have hrestricts : ∀ entry, entry ∈ entries → entry.2.policy.Restricts := by
    intro entry hentry
    obtain ⟨other, -, hentry⟩ := (hmem entry).mp hentry
    exact (mapOf_spec h other.1).1 entry hentry
  have htext : (acceptingPlugin C order).getOthersMergePolicyData (s.stores userId).manager admin =
      write C (ClipboardMap.empty.mergeAll entries) := by
    have hread : ∀ v, v ∈ othersValues order (s.stores userId).manager POLICY_CLIPBOARD_POLICY
        admin → (serializer C).deserialize v = some (deserialize C v).2 := by
      intro v hv
      obtain ⟨-, other, -, rfl⟩ := (h.good.mem_othersValues order admin).mp hv
      obtain ⟨m, -, htext⟩ := h.text other.1
      rw [htext, roundTrip.deserialize, deserialize_write]
    refine (getOthersMergePolicyData_read (serializer C) h.good order admin hread).trans ?_
    rw [← hvalues]
    by_cases hnil : values = []
    · rw [if_pos hnil, hentries, hnil]
      rfl
    · have hmerge : mergePolicy (values.map fun v => (deserialize C v).2) =
          some (ClipboardMap.empty.mergeAll entries) := by
        rw [hentries] at hrestricts ⊢
        exact if_pos fun entry hentry => (hrestricts entry hentry).1
      rw [if_neg hnil]
      show ((mergePolicy _).bind _).getD "" = _
      rw [hmerge]
      rfl
  have hmap : othersMap C order s userId admin = ClipboardMap.empty.mergeAll entries := by
    rw [othersMap, htext, deserialize_write]
  rw [hmap]
  refine ⟨ClipboardMap.restricts_empty.mergeAll hrestricts, htext, fun t => ?_, fun entry h => ?_⟩
  · refine isLUB_iff_le_iff.mpr fun n => ?_
    rw [ClipboardMap.level_mergeAll_le ClipboardMap.restricts_empty hrestricts,
      ClipboardMap.level_empty, and_iff_right (Nat.zero_le n)]
    constructor
    · rintro h _ ⟨other, hother, rfl⟩
      exact ClipboardMap.level_le.mpr fun entry hentry =>
        h entry ((hmem entry).mpr ⟨other, hother, hentry⟩)
    · intro h entry hentry
      obtain ⟨other, hother, hentry⟩ := (hmem entry).mp hentry
      exact ClipboardMap.level_le.mp (h ⟨other, hother, rfl⟩) entry hentry
  · exact (hmem entry).mp ((ClipboardMap.mem_of_mem_mergeAll h).resolve_right List.not_mem_nil)

end Values

/-! ### One operation -/

/-- An admin's map has become `own`, and the share options follow. -/
structure Changed (C : ArrayCJson) (order : HashOrder) (s s' : State) (userId : Int)
    (admin : AdminName) (own : ClipboardMap) : Prop where
  elsewhere : ∀ userId', userId' ≠ userId → s'.stores userId' = s.stores userId'
  text : TextStore (IsText C) POLICY_CLIPBOARD_POLICY (s'.stores userId)
  self : stored C s' userId admin = own
  other : ∀ other, other ≠ admin → stored C s' userId other = stored C s userId other
  merged : ∀ t, (combined C s' userId).level t =
    own.level t ⊔ (othersMap C order s userId admin).level t
  entries : ∀ entry, entry ∈ (combined C s' userId).entries →
    ∃ admin, entry ∈ (stored C s' userId admin).entries
  size : (combined C s' userId).entries.length ≤ MAX_PASTEBOARD_POLICY_NUM
  options : ∀ t, s'.options t = s.options t ∧ own.level t = levels C s userId t admin ∨
    optionLevel (s'.options t) = own.level t ⊔ (othersMap C order s userId admin).level t ∧
      CoveredElsewhere C s userId admin t (own.level t)

section Step

variable {C} {order} {s s' : State} {userId : Int} {admin : AdminName} {own : ClipboardMap}

theorem mapOf_congr (h : s'.stores userId = s.stores userId) (adminName : String) :
    mapOf C s' userId adminName = mapOf C s userId adminName := by
  rw [mapOf, mapOf, h]

theorem Changed.levels_self (h : Changed C order s s' userId admin own) (t : Int32) :
    levels C s' userId t = Function.update (levels C s userId t) admin (own.level t) := by
  funext other
  by_cases hother : other = admin
  · rw [hother, Function.update_self, levels, h.self]
  · rw [Function.update_of_ne hother, levels, h.other other hother, levels]

theorem Changed.levels_elsewhere (h : Changed C order s s' userId admin own) {userId' : Int}
    (hne : userId' ≠ userId) (t : Int32) : levels C s' userId' t = levels C s userId' t := by
  funext other
  rw [levels, levels, stored, stored, mapOf_congr (h.elsewhere userId' hne)]

/-- The strictest of the admins of a user, after the change. -/
theorem Changed.isLUB_self (h : Changed C order s s' userId admin own) (hgood : Good C s)
    (t : Int32) : IsLUB (Set.range (levels C s' userId t))
      (own.level t ⊔ (othersMap C order s userId admin).level t) := by
  rw [h.levels_self t]
  exact isLUB_update ((othersMap_spec (hgood.text userId) order admin).2.2.1 t) (own.level t)

theorem Changed.strictest (h : Changed C order s s' userId admin own) (hgood : Good C s) :
    Strictest C s' where
  combined userId' t := by
    by_cases hne : userId' = userId
    · rw [hne, h.merged]
      exact h.isLUB_self hgood t
    · rw [h.levels_elsewhere hne, combined, mapOf_congr (h.elsewhere userId' hne)]
      exact hgood.strictest.combined userId' t
  enforced t := by
    rcases h.options t with ⟨hoption, hlevel⟩ | ⟨hoption, hcovered⟩
    · have hsame : (fun holder : Int × AdminName => levels C s' holder.1 t holder.2) =
          fun holder => levels C s holder.1 t holder.2 := by
        funext holder
        by_cases hne : holder.1 = userId
        · rw [hne, h.levels_self, hlevel, Function.update_eq_self]
        · rw [h.levels_elsewhere hne]
      rw [hsame, hoption]
      exact hgood.strictest.enforced t
    · rw [hoption]
      refine isLUB_iff_le_iff.mpr fun n => ?_
      have hself := isLUB_iff_le_iff.mp (h.isLUB_self hgood t) n
      constructor
      · rintro hn _ ⟨⟨userId', admin'⟩, rfl⟩
        show levels C s' userId' t admin' ≤ n
        by_cases hne : userId' = userId
        · rw [hne]
          exact hself.mp hn ⟨admin', rfl⟩
        · rw [h.levels_elsewhere hne]
          -- What another user asks for is covered by the admin or by an admin beside it.
          have hothers := ((othersMap_spec (hgood.text userId) order admin).2.2.1 t).1
          rcases hcovered userId' hne admin' with hle | ⟨other, hother, hle⟩
          · exact hle.trans (le_sup_left.trans hn)
          · exact hle.trans ((hothers ⟨other, hother, rfl⟩).trans (le_sup_right.trans hn))
      · intro hn
        refine hself.mpr ?_
        rintro _ ⟨admin', rfl⟩
        exact hn ⟨(userId, admin'), rfl⟩

theorem Changed.good (h : Changed C order s s' userId admin own) (hgood : Good C s) :
    Good C s' where
  text userId' := by
    by_cases hne : userId' = userId
    · exact hne ▸ h.text
    · rw [h.elsewhere userId' hne]
      exact hgood.text userId'
  entries userId' entry hentry := by
    by_cases hne : userId' = userId
    · subst hne
      exact h.entries entry hentry
    · rw [combined, mapOf_congr (h.elsewhere userId' hne)] at hentry
      obtain ⟨admin', hadmin⟩ := hgood.entries userId' entry hentry
      refine ⟨admin', ?_⟩
      rw [stored, mapOf_congr (h.elsewhere userId' hne)]
      exact hadmin
  size userId' := by
    by_cases hne : userId' = userId
    · rw [hne]
      exact h.size
    · rw [combined, mapOf_congr (h.elsewhere userId' hne)]
      exact hgood.size userId'
  strictest := h.strictest hgood

/-- A map whose policies the combined policy has is not larger. -/
theorem length_le_combined {m m' : ClipboardMap} (h : m.Restricts) (h' : m'.Restricts)
    (hle : ∀ t, m.level t ≤ m'.level t) : m.entries.length ≤ m'.entries.length := by
  have hkeys : m.entries.map Prod.fst ⊆ m'.entries.map Prod.fst := by
    intro t ht
    obtain ⟨entry, hentry, rfl⟩ := List.mem_map.mp ht
    by_contra hnot
    have hnone : m'.level entry.1 = 0 := h'.level_eq_zero.mpr (valueAt_eq_none.mpr hnot)
    have hpos := ClipboardPolicy.strictness_pos (h entry hentry)
    rw [← ClipboardMap.level_of_mem hentry] at hpos
    have := hle entry.1
    omega
  have hlength := (List.Nodup.subperm m.ascend.nodup hkeys).length_le
  rwa [List.length_map, List.length_map] at hlength

/-- What is left of the combined policy when an admin's map becomes less strict. -/
theorem length_merged_le (hgood : Good C s) (hown : own.Restricts)
    (hle : ∀ t, own.level t ≤ levels C s userId t admin) :
    ((othersMap C order s userId admin).mergeAll own.entries).entries.length ≤
      MAX_PASTEBOARD_POLICY_NUM := by
  obtain ⟨hothers, -, hlub, -⟩ := othersMap_spec (hgood.text userId) order admin
  refine le_trans (length_le_combined (hothers.mergeAll hown)
    (mapOf_spec (hgood.text userId) "").1 fun t => ?_) (hgood.size userId)
  have hcombined := (hgood.strictest.combined userId t).1
  rw [ClipboardMap.level_merge hothers hown]
  refine sup_le ((hle t).trans (hcombined ⟨admin, rfl⟩)) ((hlub t).2 ?_)
  rintro _ ⟨other, -, rfl⟩
  exact hcombined ⟨other, rfl⟩

/-- What a new value is saved with. -/
theorem changed_of_saved (hgood : Good C s) (hown : own.Restricts) {p : PluginState ShareOptions}
    (hsaved : Saved (s.stores userId) p.store admin POLICY_CLIPBOARD_POLICY (write C own)
      (write C ((othersMap C order s userId admin).mergeAll own.entries)))
    (hsize : ((othersMap C order s userId admin).mergeAll own.entries).entries.length ≤
      MAX_PASTEBOARD_POLICY_NUM)
    (hoptions : ∀ t, p.modules t = s.options t ∧ own.level t = levels C s userId t admin ∨
      optionLevel (p.modules t) = own.level t ⊔ (othersMap C order s userId admin).level t ∧
        CoveredElsewhere C s userId admin t (own.level t)) :
    Changed C order s (s.setUser userId p) userId admin own := by
  obtain ⟨hothers, -, -, hentries⟩ := othersMap_spec (hgood.text userId) order admin
  have hstore : (s.setUser userId p).stores userId = p.store := Function.update_self _ _ _
  have hself : stored C (s.setUser userId p) userId admin = own := by
    refine mapOf_of_text ?_
    rw [hstore]
    exact hsaved.value_self admin.2
  have hother : ∀ other, other ≠ admin →
      stored C (s.setUser userId p) userId other = stored C s userId other := by
    intro other hne
    rw [stored, stored, mapOf, mapOf, hstore,
      hsaved.value_other other.2 fun heq => hne (Subtype.ext heq.1)]
  have hcombined : combined C (s.setUser userId p) userId =
      (othersMap C order s userId admin).mergeAll own.entries := by
    refine mapOf_of_text ?_
    rw [hstore]
    exact hsaved.value_combined
  refine
    { elsewhere := fun userId' hne => Function.update_of_ne hne _ _
      text := hstore ▸ (hgood.text userId).saved hsaved ⟨own, hown, rfl⟩
        ⟨_, hothers.mergeAll hown, rfl⟩
      self := hself
      other := hother
      merged := fun t => by rw [hcombined, ClipboardMap.level_merge hothers hown]
      entries := fun entry hentry => ?_
      size := hcombined ▸ hsize
      options := hoptions }
  rw [hcombined] at hentry
  rcases ClipboardMap.mem_of_mem_mergeAll hentry with hentry | hentry
  · exact ⟨admin, hself ▸ hentry⟩
  · obtain ⟨other, hne, hentry⟩ := hentries entry hentry
    exact ⟨other, hother other hne ▸ hentry⟩

/-- A value that the admin had already. -/
theorem changed_of_same (hgood : Good C s) {p : PluginState ShareOptions}
    (hstore : p.store = s.stores userId) (hown : stored C s userId admin = own)
    (hoptions : ∀ t, p.modules t = s.options t ∧ own.level t = levels C s userId t admin ∨
      optionLevel (p.modules t) = own.level t ⊔ (othersMap C order s userId admin).level t ∧
        CoveredElsewhere C s userId admin t (own.level t)) :
    Changed C order s (s.setUser userId p) userId admin own := by
  obtain ⟨-, -, hlub, -⟩ := othersMap_spec (hgood.text userId) order admin
  have hsame : (s.setUser userId p).stores userId = s.stores userId :=
    (Function.update_self _ _ _).trans hstore
  have hmap : ∀ adminName, mapOf C (s.setUser userId p) userId adminName =
      mapOf C s userId adminName := mapOf_congr hsame
  refine
    { elsewhere := fun userId' hne => Function.update_of_ne hne _ _
      text := hsame.symm ▸ hgood.text userId
      self := (hmap admin.1).trans hown
      other := fun other _ => hmap other.1
      merged := fun t => ?_
      entries := fun entry hentry => ?_
      size := (congrArg (fun m => m.entries.length) (hmap "")).trans_le (hgood.size userId)
      options := hoptions }
  · rw [combined, hmap, ← hown]
    exact (hgood.strictest.combined userId t).unique (isLUB_range (hlub t))
  · rw [combined, hmap] at hentry
    obtain ⟨admin', hadmin⟩ := hgood.entries userId entry hentry
    refine ⟨admin', ?_⟩
    rw [stored, hmap]
    exact hadmin

/-- The share options after an accepted request. -/
theorem accepted_options (hgood : Good C s) {tokenIds : TokenIds}
    {request : Int32 × ClipboardInfo} {options : ShareOptions}
    (hpolicy : request.2.policy ≠ .unknown)
    (hcovered : CoveredElsewhere C s userId admin
      (target tokenIds request (stored C s userId admin)) request.2.policy.strictness)
    (hoptions : ∀ t, options t = if t = target tokenIds request (stored C s userId admin) then
      shareOption (((othersMap C order s userId admin).mergeAll
        (after tokenIds request (stored C s userId admin)).entries).policyAt t)
      else s.options t) (t : Int32) :
    options t = s.options t ∧ (after tokenIds request (stored C s userId admin)).level t =
        levels C s userId t admin ∨
      optionLevel (options t) = (after tokenIds request (stored C s userId admin)).level t ⊔
          (othersMap C order s userId admin).level t ∧
        CoveredElsewhere C s userId admin t
          ((after tokenIds request (stored C s userId admin)).level t) := by
  obtain ⟨hothers, -⟩ := othersMap_spec (hgood.text userId) order admin
  have hown := (mapOf_spec (hgood.text userId) admin.1).1
  rw [hoptions t, level_after t]
  by_cases ht : t = target tokenIds request (stored C s userId admin)
  · rw [if_pos ht, if_pos ht]
    refine .inr ⟨?_, ht ▸ hcovered⟩
    rw [optionLevel_shareOption]
    show ClipboardMap.level _ t = _
    rw [ClipboardMap.level_merge hothers (restricts_after hown hpolicy), level_after, if_pos ht]
  · rw [if_neg ht, if_neg ht]
    exact .inl ⟨rfl, rfl⟩

/-- A request that is not refused. -/
theorem good_accepted (hgood : Good C s) {request : Request}
    (haccepted : Accepted request.tokenIds (getPolicy request.parcel) (stored C s userId admin)
      (othersMap C order s userId admin))
    (hcovered : CoveredElsewhere C s userId admin
      (target request.tokenIds (getPolicy request.parcel) (stored C s userId admin))
      (getPolicy request.parcel).2.policy.strictness) :
    Good C (step C order s (.set userId admin ⟨.done, .done⟩ request)) := by
  obtain ⟨hothers, hmerge, -, -⟩ := othersMap_spec (hgood.text userId) order admin
  obtain ⟨hown, hvalue⟩ := mapOf_spec (hgood.text userId) admin.1
  obtain ⟨options, hresult, hoptions⟩ := onSetPolicy_accepted s.options hown hothers haccepted
  have hafter : (after request.tokenIds (getPolicy request.parcel)
      (stored C s userId admin)).Restricts := restricts_after hown haccepted.policy
  obtain ⟨-, hmodules, hstored⟩ := update_ok (acceptingPlugin C order).toPlugin admin roundTrip
    (s := s.user userId) (hgood.text userId).good policyName_ne request hvalue hmerge
    (fun _ => rfl) rfl hresult
  have hfollow := accepted_options hgood haccepted.policy hcovered hoptions
  rw [← hmodules] at hfollow
  rcases hstored with ⟨hsame, hstore⟩ | ⟨-, hsaved⟩
  · refine (changed_of_same hgood hstore ?_ hfollow).good hgood
    exact mapOf_of_text hsame
  · exact (changed_of_saved hgood hafter hsaved haccepted.size hfollow).good hgood

/-- A request that is refused. -/
theorem step_refused (hgood : Good C s) {request : Request} (writes : Writes)
    (hrefused : ¬Accepted request.tokenIds (getPolicy request.parcel) (stored C s userId admin)
      (othersMap C order s userId admin)) :
    step C order s (.set userId admin writes request) = s := by
  obtain ⟨-, hmerge, -, -⟩ := othersMap_spec (hgood.text userId) order admin
  obtain ⟨-, hvalue⟩ := mapOf_spec (hgood.text userId) admin.1
  have hresult := onSetPolicy_refused hrefused (some .accepting) s.options
  have hfailed : failed EdmReturnErrCode.PARAM_ERROR = true := by decide
  have hcurrent : IPluginTemplate.deserializeNonempty (serializer C)
      ((s.stores userId).manager.policyValue admin POLICY_CLIPBOARD_POLICY) =
        some (stored C s userId admin) := hvalue ▸ roundTrip.deserializeNonempty _
  have hothers : IPluginTemplate.deserializeNonempty (serializer C)
      ((acceptingPlugin C order).getOthersMergePolicyData (s.stores userId).manager admin) =
        some (othersMap C order s userId admin) := hmerge ▸ roundTrip.deserializeNonempty _
  obtain ⟨policyData, hpolicyData⟩ : ∃ policyData, policyData = PluginManager.handlePolicyData
    (acceptingPlugin C order).toPlugin (s.user userId) admin := ⟨_, rfl⟩
  have hcall : (acceptingPlugin C order).onHandlePolicy (s.user userId).store.manager
      (s.user userId).modules request policyData =
        (EdmReturnErrCode.PARAM_ERROR, s.options, policyData) := by
    subst hpolicyData
    exact IPluginTemplate.handlePolicy_failed hcurrent hothers hresult (by decide)
  rw [hpolicyData] at hcall
  have hstep : PluginManager.updateDevicePolicy (acceptingPlugin C order).toPlugin (s.user userId)
      writes admin request = (EdmReturnErrCode.PARAM_ERROR, s.user userId) :=
    PluginManager.updateDevicePolicy_failed hcall hfailed
  show s.setUser userId (PluginManager.updateDevicePolicy _ _ writes admin request).2 = s
  rw [hstep]
  exact s.setUser_self userId

/-- A removal of an admin. -/
theorem good_removeAdmin (hgood : Good C s)
    (hcovered : ∀ t, (stored C s userId admin).find t ≠ none →
      CoveredElsewhere C s userId admin t 0) :
    Good C (step C order s (.removeAdmin userId admin ⟨.done, .done⟩)) := by
  obtain ⟨hothers, hmerge, -, -⟩ := othersMap_spec (hgood.text userId) order admin
  obtain ⟨hown, hvalue⟩ := mapOf_spec (hgood.text userId) admin.1
  have hstore : GoodStore (s.user userId).store := (hgood.text userId).good
  rcases removeAdmin_template (acceptingPlugin C order).toPlugin admin roundTrip hstore
    policyName_ne rfl () hvalue hmerge (fun _ _ => rfl) with
    ⟨-, hsame⟩ | ⟨-, hmodules, hsaved⟩
  · have hstep : step C order s (.removeAdmin userId admin ⟨.done, .done⟩) = s := by
      show s.setUser userId (policyStep _ _ _) = s
      rw [hsame]
      exact s.setUser_self userId
    rw [hstep]
    exact hgood
  · refine (changed_of_saved hgood ClipboardMap.restricts_empty hsaved ?_ fun t => ?_).good hgood
    · exact length_merged_le hgood ClipboardMap.restricts_empty fun t => Nat.zero_le _
    · have hoption := onAdminRemove_accepting s.options (stored C s userId admin) hothers t
      have hmodule : (policyStep (acceptingPlugin C order).toPlugin (s.user userId)
          (.removeAdmin admin ⟨.done, .done⟩ ())).modules t =
            if (stored C s userId admin).find t = none then s.options t
            else shareOption ((othersMap C order s userId admin).policyAt t) :=
        (congrFun hmodules t).trans hoption
      rw [hmodule]
      by_cases hfind : (stored C s userId admin).find t = none
      · rw [if_pos hfind]
        exact .inl ⟨rfl, (hown.level_eq_zero.mpr hfind).symm⟩
      · rw [if_neg hfind, optionLevel_shareOption]
        exact .inr ⟨(sup_eq_right.mpr (Nat.zero_le _)).symm, hcovered t hfind⟩

/-! ### The removal of a bundle -/

/-- The event asks for the default policy, by bundle. -/
theorem onPluginEvent_eq {options : ShareOptions} {own others : ClipboardMap} (hown : own.Restricts)
    (hothers : others.Restricts) (event : BundleRemoved)
    (hleft : (after event.tokenIds (0, event.info) own).entries ≠ [])
    (hsize : (others.mergeAll (after event.tokenIds (0, event.info) own).entries).entries.length ≤
      MAX_PASTEBOARD_POLICY_NUM) :
    ∃ options', onPluginEvent C (some .accepting) options
        ⟨write C own, write C others, false⟩ event =
          (options', ⟨write C (after event.tokenIds (0, event.info) own), write C (others.mergeAll
            (after event.tokenIds (0, event.info) own).entries), false⟩) ∧
      ∀ t, options' t = if t = target event.tokenIds (0, event.info) own then
        shareOption ((others.mergeAll
          (after event.tokenIds (0, event.info) own).entries).policyAt t) else options t := by
  have hunknown : event.info.policy ≠ .unknown := nofun
  have haccepted : Accepted event.tokenIds (0, event.info) own others :=
    ⟨hunknown, fun _ hne => absurd rfl hne, hsize⟩
  obtain ⟨options', hresult, hoptions⟩ := onSetPolicy_accepted options hown hothers haccepted
  refine ⟨options', ?_, hoptions⟩
  have hmerged : (others.mergeAll (after event.tokenIds (0, event.info) own).entries).entries ≠
      [] := by
    intro hnil
    obtain ⟨entry, hentry⟩ := List.exists_mem_of_ne_nil _ hleft
    have hafter : (after event.tokenIds (0, event.info) own).Restricts :=
      restricts_after hown hunknown
    have hlevel := ClipboardMap.level_merge hothers hafter entry.1
    have hpos := ClipboardPolicy.strictness_pos (hafter entry hentry)
    rw [← ClipboardMap.level_of_mem hentry] at hpos
    have hempty : others.mergeAll (after event.tokenIds (0, event.info) own).entries = .empty :=
      ClipboardMap.ext hnil
    rw [hempty, ClipboardMap.level_empty] at hlevel
    have := le_sup_left.trans_eq hlevel.symm
    omega
  unfold onPluginEvent
  dsimp only
  rw [deserialize_write, deserialize_write]
  dsimp only
  rw [hresult]
  dsimp only
  rw [serialize_eq_write hleft, serialize_eq_write hmerged]

/-- A visit of an admin. -/
theorem changed_visit (order : HashOrder) (hgood : Good C s) (event : BundleRemoved)
    (h : VisitKeeps C s DEFAULT_USER_ID event admin) :
    Changed C order s (s.setUser DEFAULT_USER_ID ((acceptingPlugin C order).visit ⟨.done, .done⟩
      event (s.user DEFAULT_USER_ID) admin
        ((s.stores DEFAULT_USER_ID).manager.policyValue admin POLICY_CLIPBOARD_POLICY)))
      DEFAULT_USER_ID admin
      (after event.tokenIds (0, event.info) (stored C s DEFAULT_USER_ID admin)) := by
  obtain ⟨hothers, hmerge, -, -⟩ := othersMap_spec (hgood.text DEFAULT_USER_ID) order admin
  obtain ⟨hown, hvalue⟩ := mapOf_spec (hgood.text DEFAULT_USER_ID) admin.1
  have hunknown : event.info.policy ≠ .unknown := nofun
  have hafter : (after event.tokenIds (0, event.info)
      (stored C s DEFAULT_USER_ID admin)).Restricts := restricts_after hown hunknown
  have hle : ∀ t, (after event.tokenIds (0, event.info)
      (stored C s DEFAULT_USER_ID admin)).level t ≤ levels C s DEFAULT_USER_ID t admin := by
    intro t
    rw [level_after]
    split
    · exact Nat.zero_le _
    · exact le_rfl
  have hsize : ((othersMap C order s DEFAULT_USER_ID admin).mergeAll (after event.tokenIds
      (0, event.info) (stored C s DEFAULT_USER_ID admin)).entries).entries.length ≤
        MAX_PASTEBOARD_POLICY_NUM := length_merged_le hgood hafter hle
  obtain ⟨options, hevent, hoptions⟩ : ∃ options, onPluginEvent C (some .accepting) s.options
      ⟨write C (stored C s DEFAULT_USER_ID admin),
        write C (othersMap C order s DEFAULT_USER_ID admin), false⟩ event = (options, _) ∧ _ :=
    onPluginEvent_eq hown hothers event h.left hsize
  rw [← hvalue, ← hmerge] at hevent
  obtain ⟨hmodules, hsaved⟩ := (acceptingPlugin C order).visit_saved
    (s := s.user DEFAULT_USER_ID) (hgood.text DEFAULT_USER_ID).good policyName_ne rfl event admin
    hevent
  have hfollow := accepted_options hgood hunknown h.covered hoptions
  rw [← hmodules] at hfollow
  exact changed_of_saved hgood hafter hsaved hsize hfollow

/-- A visit leaves no entry of the bundle. -/
theorem good_visit {p : PluginState ShareOptions} (hp : Good C (s.setUser DEFAULT_USER_ID p))
    (event : BundleRemoved)
    (h : VisitKeeps C (s.setUser DEFAULT_USER_ID p) DEFAULT_USER_ID event admin) :
    Good C (s.setUser DEFAULT_USER_ID ((acceptingPlugin C order).visit ⟨.done, .done⟩ event p admin
        (p.store.manager.policyValue admin POLICY_CLIPBOARD_POLICY))) ∧
      ¬HasBundle event.bundleName event.userId (deserialize C
        (((acceptingPlugin C order).visit ⟨.done, .done⟩ event p admin
          (p.store.manager.policyValue admin POLICY_CLIPBOARD_POLICY)).store.manager.policyValue
            admin POLICY_CLIPBOARD_POLICY)).2 := by
  have hchanged := changed_visit order hp event h
  rw [State.setUser_setUser, State.setUser_user, State.setUser_stores] at hchanged
  refine ⟨hchanged.good hp, ?_⟩
  have hgone := h.gone
  rw [← hchanged.self, stored, mapOf, State.setUser_stores] at hgone
  exact hgone

/-- A removal that is dispatched. -/
theorem good_dispatched (hgood : Good C s) {bundleName : String} {user : Int32}
    {tokenIds : String → TokenIds} {writes : String → Writes}
    (hwrites : ∀ adminName, writes adminName = ⟨.done, .done⟩)
    (hvisits : (acceptingPlugin C order).EachVisit order writes
      (fun adminName => ⟨bundleName, user, tokenIds adminName⟩)
      (fun p admin => VisitKeeps C (s.setUser DEFAULT_USER_ID p) DEFAULT_USER_ID
        ⟨bundleName, user, tokenIds admin⟩ admin) (s.user DEFAULT_USER_ID)) :
    Good C (step C order s (.bundleRemoved bundleName user tokenIds writes)) ∧
      ∀ admin, ¬HasBundle bundleName user
        (stored C (step C order s (.bundleRemoved bundleName user tokenIds writes))
          DEFAULT_USER_ID admin) := by
  have hstore : ∀ p, Good C (s.setUser DEFAULT_USER_ID p) → GoodStore p.store := by
    intro p hp
    have hstore := (hp.text DEFAULT_USER_ID).good
    rwa [State.setUser_stores] at hstore
  have hfirst : Good C (s.setUser DEFAULT_USER_ID (s.user DEFAULT_USER_ID)) :=
    (s.setUser_self DEFAULT_USER_ID).symm ▸ hgood
  have hvisit : ∀ (p : PluginState ShareOptions) (admin : AdminName),
      Good C (s.setUser DEFAULT_USER_ID p) →
      VisitKeeps C (s.setUser DEFAULT_USER_ID p) DEFAULT_USER_ID
        ⟨bundleName, user, tokenIds admin⟩ admin →
      p.store.manager.policyValue admin POLICY_CLIPBOARD_POLICY ≠ "" →
      Good C (s.setUser DEFAULT_USER_ID ((acceptingPlugin C order).visit (writes admin)
          ⟨bundleName, user, tokenIds admin⟩ p admin
            (p.store.manager.policyValue admin POLICY_CLIPBOARD_POLICY))) ∧
        ¬HasBundle bundleName user (deserialize C
          (((acceptingPlugin C order).visit (writes admin) ⟨bundleName, user, tokenIds admin⟩ p
            admin (p.store.manager.policyValue admin
              POLICY_CLIPBOARD_POLICY)).store.manager.policyValue admin
                POLICY_CLIPBOARD_POLICY)).2 := by
    intro p admin hp hK _
    rw [hwrites]
    exact good_visit hp ⟨bundleName, user, tokenIds admin⟩ hK
  obtain ⟨hlast, hvalues⟩ := (acceptingPlugin C order).dispatchForAdmins_visited
    (I := fun p => Good C (s.setUser DEFAULT_USER_ID p))
    (Q := fun _ text => ¬HasBundle bundleName user (deserialize C text).2)
    policyName_ne hstore hfirst hvisits hvisit
  refine ⟨hlast, fun admin => ?_⟩
  obtain ⟨hvisited, hnone⟩ := hvalues admin
  rw [stored, mapOf, step, State.setUser_stores]
  by_cases hvalue : (s.stores DEFAULT_USER_ID).manager.policyValue admin POLICY_CLIPBOARD_POLICY =
    ""
  · have hempty : ((acceptingPlugin C order).dispatchForAdmins order writes (fun adminName =>
        ⟨bundleName, user, tokenIds adminName⟩) (s.user DEFAULT_USER_ID)).store.manager.policyValue
          admin POLICY_CLIPBOARD_POLICY = "" := hnone hvalue
    rw [hempty, deserialize_empty]
    rintro ⟨entry, hentry, -⟩
    cases hentry
  · exact hvisited hvalue

theorem step_good (hgood : Good C s) (op : Op) (hkeeps : Keeps C order s op) :
    Good C (step C order s op) ∧ Right C order s op := by
  cases op with
  | set userId admin writes request =>
    refine ⟨?_, trivial⟩
    by_cases haccepted : Accepted request.tokenIds (getPolicy request.parcel)
      (stored C s userId admin) (othersMap C order s userId admin)
    · obtain ⟨rfl, hcovered⟩ := hkeeps haccepted
      exact good_accepted hgood haccepted hcovered
    · rw [step_refused hgood writes haccepted]
      exact hgood
  | removeAdmin userId admin writes =>
    obtain ⟨rfl, hcovered⟩ := hkeeps
    exact ⟨good_removeAdmin hgood hcovered, trivial⟩
  | bundleRemoved bundleName user tokenIds writes =>
    obtain ⟨hwrites, hvisits, helsewhere⟩ := hkeeps
    obtain ⟨hlast, hgone⟩ := good_dispatched hgood hwrites hvisits
    have hstored : ∀ userId admin, ¬HasBundle bundleName user
        (stored C (step C order s (.bundleRemoved bundleName user tokenIds writes)) userId
          admin) := by
      intro userId admin
      by_cases huser : userId = DEFAULT_USER_ID
      · rw [huser]
        exact hgone admin
      · have hsame : (step C order s (.bundleRemoved bundleName user tokenIds writes)).stores
          userId = s.stores userId := Function.update_of_ne huser _ _
        rw [stored, mapOf_congr hsame]
        exact helsewhere userId huser admin
    refine ⟨hlast, fun userId => ⟨hstored userId, ?_⟩⟩
    rintro ⟨entry, hentry, hbundle⟩
    obtain ⟨admin, hadmin⟩ := hlast.entries userId entry hentry
    exact hstored userId admin ⟨entry, hadmin, hbundle⟩

theorem mapOf_boot (C : ArrayCJson) (userId : Int) (adminName : String) :
    mapOf C .boot userId adminName = .empty := by
  have hvalue : (State.boot.stores userId).manager.policyValue adminName POLICY_CLIPBOARD_POLICY =
    "" := policyValue_new userId adminName _
  rw [mapOf, hvalue, deserialize_empty]

theorem good_boot (C : ArrayCJson) : Good C .boot where
  text userId := textStore_new ⟨.empty, ClipboardMap.restricts_empty, rfl⟩ userId
  entries userId entry hentry := by
    rw [combined, mapOf_boot] at hentry
    cases hentry
  size userId := by
    rw [combined, mapOf_boot]
    exact Nat.zero_le _
  strictest :=
    { combined := fun userId t => by
        have hlevels : levels C .boot userId t = fun _ => 0 := by
          funext admin
          rw [levels, stored, mapOf_boot, ClipboardMap.level_empty]
        rw [hlevels, combined, mapOf_boot, ClipboardMap.level_empty]
        have : Nonempty AdminName := ⟨firstAdmin⟩
        rw [Set.range_const]
        exact isLUB_singleton
      enforced := fun t => by
        have hlevels : (fun holder : Int × AdminName => levels C .boot holder.1 t holder.2) =
            fun _ => 0 := by
          funext holder
          rw [levels, stored, mapOf_boot, ClipboardMap.level_empty]
        have : Nonempty (Int × AdminName) := ⟨(0, firstAdmin)⟩
        rw [hlevels, Set.range_const]
        exact isLUB_singleton }

end Step

/-! ### Runs -/

/-- In a run whose operations all meet the condition, the combined policies and the share options
are the strictest that the admins ask for, and no value has an entry of a bundle whose removal has
been dispatched. -/
theorem always_strictest (C : ArrayCJson) (order : HashOrder) (ops : List Op)
    (h : Each (step C order) (Keeps C order) .boot ops) :
    Always (step C order) (Strictest C) .boot ops ∧
      Each (step C order) (Right C order) .boot ops := by
  have hstep : ∀ s op, Good C s → Keeps C order s op → Good C (step C order s op) :=
    fun s op hgood hkeeps => (step_good hgood op hkeeps).1
  exact ⟨(always_of_each hstep (good_boot C) h).mono fun s hgood => hgood.strictest,
    each_of_each hstep (fun s op hgood hkeeps => (step_good hgood op hkeeps).2) (good_boot C) h⟩

/-- An operation on the policies of the default user, whose writes take effect. -/
def Op.InDefaultUser : Op → Prop
  | .set userId _ writes _ => userId = DEFAULT_USER_ID ∧ writes = ⟨.done, .done⟩
  | .removeAdmin userId _ writes => userId = DEFAULT_USER_ID ∧ writes = ⟨.done, .done⟩
  | .bundleRemoved _ _ _ writes => ∀ adminName, writes adminName = ⟨.done, .done⟩

/-- The other users have no policies. -/
def OnlyDefaultUser (s : State) : Prop :=
  ∀ userId, userId ≠ DEFAULT_USER_ID → s.stores userId = State.boot.stores userId

theorem OnlyDefaultUser.setUser {s : State} (h : OnlyDefaultUser s) (p : PluginState ShareOptions) :
    OnlyDefaultUser (s.setUser DEFAULT_USER_ID p) :=
  fun userId hne => (Function.update_of_ne hne _ _).trans (h userId hne)

theorem OnlyDefaultUser.step {s : State} (h : OnlyDefaultUser s) (C : ArrayCJson)
    (order : HashOrder) {op : Op} (hop : op.InDefaultUser) :
    OnlyDefaultUser (step C order s op) := by
  cases op with
  | set userId admin writes request =>
    obtain ⟨rfl, -⟩ := hop
    exact h.setUser _
  | removeAdmin userId admin writes =>
    obtain ⟨rfl, -⟩ := hop
    exact h.setUser _
  | bundleRemoved bundleName user tokenIds writes => exact h.setUser _

theorem OnlyDefaultUser.covered {C : ArrayCJson} {s : State} (h : OnlyDefaultUser s)
    (admin : AdminName) (t : Int32) (n : Nat) : CoveredElsewhere C s DEFAULT_USER_ID admin t n := by
  intro userId hne other
  refine .inl ?_
  rw [levels, stored, mapOf_congr (h userId hne), mapOf_boot, ClipboardMap.level_empty]
  exact Nat.zero_le n

/-- The removal of the bundle `com.app`, whose token was 6. -/
def appRemoved : Op := .bundleRemoved "com.app" 100 (fun _ _ _ => 0) fun _ => ⟨.done, .done⟩

/-- A request of an admin by token. -/
def setToken (admin : AdminName) (tokenId policy : Int32) : Op :=
  .set DEFAULT_USER_ID admin ⟨.done, .done⟩ ⟨.setHasTokenId tokenId policy, fun _ _ => 0⟩

/-- A request of an admin for the bundle `com.app`. -/
def setApp (admin : AdminName) (policy : Int32) : Op :=
  .set DEFAULT_USER_ID admin ⟨.done, .done⟩ ⟨.setHasBundleName "com.app" 100 policy, fun _ _ => 6⟩

/-- The admin restricts the tokens 5 and 6, the latter for the bundle. -/
def twoTokens : List (Int32 × ClipboardInfo) :=
  [(5, ⟨.inApp, -1, ""⟩), (6, ⟨.localDevice, 100, "com.app"⟩)]

theorem keysAscend_twoTokens : KeysAscend Prod.fst twoTokens := by
  unfold KeysAscend twoTokens
  decide

theorem keeps_removal {s : State} (h : OnlyDefaultUser s)
    (hsnapshot : ((acceptingPlugin .standard .evaluated).snapshot .evaluated
      (s.user DEFAULT_USER_ID)).map Prod.fst = ["com.first"])
    (hstored : (stored .standard s DEFAULT_USER_ID firstAdmin).entries = twoTokens) :
    Keeps .standard .evaluated s appRemoved := by
  have hafter : (after (fun _ _ => 0) (0, ⟨.default, 100, "com.app"⟩)
      (stored .standard s DEFAULT_USER_ID firstAdmin)).entries = [(5, ⟨.inApp, -1, ""⟩)] := by
    have hmap : stored .standard s DEFAULT_USER_ID firstAdmin = ⟨twoTokens, keysAscend_twoTokens⟩ :=
      ClipboardMap.ext hstored
    rw [hmap]
    decide +kernel
  refine ⟨fun _ => rfl, ?_, fun userId hne admin => ?_⟩
  · unfold EventPlugin.EachVisit
    obtain ⟨⟨x, v⟩, hentries, rfl⟩ := List.map_eq_singleton_iff.mp hsnapshot
    rw [hentries]
    refine ⟨fun admin hadmin => ?_, trivial⟩
    obtain rfl : admin = firstAdmin := Subtype.ext hadmin
    rw [State.setUser_self]
    refine ⟨?_, ?_, h.covered _ _ _⟩
    · exact hafter.trans_ne (List.cons_ne_nil _ _)
    · rintro ⟨entry, hentry, huser, -⟩
      obtain rfl : entry = (5, ⟨.inApp, -1, ""⟩) :=
        List.mem_singleton.mp (hafter ▸ hentry)
      revert huser
      decide
  · rw [stored, mapOf_congr (h userId hne), mapOf_boot]
    rintro ⟨entry, hentry, -⟩
    cases hentry

/-- Two admins, a bundle that is removed while its admin restricts another token too, and the
removal of that admin. -/
theorem always_strictest_removed :
    Always (step .standard .evaluated) (Strictest .standard) .boot
        [setToken firstAdmin 5 1, setApp firstAdmin 2, appRemoved, setToken secondAdmin 5 3,
          .removeAdmin DEFAULT_USER_ID firstAdmin ⟨.done, .done⟩] ∧
      Each (step .standard .evaluated) (Right .standard .evaluated) .boot
        [setToken firstAdmin 5 1, setApp firstAdmin 2, appRemoved, setToken secondAdmin 5 3,
          .removeAdmin DEFAULT_USER_ID firstAdmin ⟨.done, .done⟩] := by
  have hboot : OnlyDefaultUser .boot := fun _ _ => rfl
  have hdone : ∀ op, op ∈ [setToken firstAdmin 5 1, setApp firstAdmin 2, setToken secondAdmin 5 3] →
      op.InDefaultUser := by
    intro op hop
    simp only [List.mem_cons, List.not_mem_nil, or_false] at hop
    rcases hop with rfl | rfl | rfl <;> exact ⟨rfl, rfl⟩
  have hremoved : appRemoved.InDefaultUser := fun _ => rfl
  have hfirst := hboot.step .standard .evaluated (hdone _ (.head _))
  have happ := hfirst.step .standard .evaluated (hdone _ (.tail _ (.head _)))
  have hafter := happ.step .standard .evaluated hremoved
  have hsecond := hafter.step .standard .evaluated (hdone _ (.tail _ (.tail _ (.head _))))
  refine always_strictest .standard .evaluated _ ⟨fun _ => ⟨rfl, hboot.covered _ _ _⟩,
    fun _ => ⟨rfl, hfirst.covered _ _ _⟩, ?_, fun _ => ⟨rfl, hafter.covered _ _ _⟩,
    ⟨rfl, fun t _ => hsecond.covered _ _ _⟩, trivial⟩
  exact keeps_removal happ (by decide +kernel) (by decide +kernel)

/-- The bundle is the only one that its admin restricts.  The admin's value stays as it was. -/
theorem removed_bundle_stays :
    ¬∀ ops : List Op, (∀ op, op ∈ ops → op.InDefaultUser) →
      Always (step .standard .evaluated) (Strictest .standard) .boot ops ∧
        Each (step .standard .evaluated) (Right .standard .evaluated) .boot ops := by
  intro h
  have hops : ∀ op, op ∈ [setApp firstAdmin 2, appRemoved] → op.InDefaultUser := by
    intro op hop
    simp only [List.mem_cons, List.not_mem_nil, or_false] at hop
    rcases hop with rfl | rfl
    · exact ⟨rfl, rfl⟩
    · exact fun _ => rfl
  have hright := ((h _ hops).2.2.1 DEFAULT_USER_ID).1 firstAdmin
  refine hright ⟨(6, ⟨.localDevice, 100, "com.app"⟩), ?_, rfl, rfl⟩
  decide +kernel

end ClipboardPolicyPlugin

end Edm
