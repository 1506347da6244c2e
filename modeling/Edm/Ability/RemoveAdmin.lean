import Edm.Ability.Device
import Edm.Plugin.SetAbilityDisablePlugin
import Edm.Policy.Restart

/-! `RemoveAdminAndAdminPolicy` over runs of the device. -/

set_option autoImplicit false

namespace Edm

open Library Library.UnorderedMap

/-! ### The policies of a user after a write -/

namespace Stores

variable {s : Stores}

theorem RefinesTables.mirrors (h : s.RefinesTables) (u : Int) :
    Mirrors u (s.manager u) s.tables :=
  reload_eq_iff.mp (h u)

/-- The values of a policy are those of the first index. -/
theorem RefinesTables.adminValues_congr {s' : Stores} (h : s.RefinesTables)
    (h' : s'.RefinesTables) {u : Int} {p : String}
    (hvalues : ∀ x, lookup₂ (s.manager u).adminPolicies x p =
      lookup₂ (s'.manager u).adminPolicies x p) :
    (s.manager u).adminValues p = (s'.manager u).adminValues p := by
  refine Finmap.ext_lookup fun x => ?_
  rw [UserPolicyManager.lookup_adminValues, UserPolicyManager.lookup_adminValues,
    ← (h.mirrors u).inverse, ← (h'.mirrors u).inverse, hvalues]

end Stores

section

variable {Modules Req Reply Event : Type} (plugins : PluginTable Modules Req Reply Event)
  (removal : Removal Reply)

/-- The policies `names` lose the admin's value, and take what their plugins make of the other
admins' values. -/
structure ItemsRemoved (names : List String) (s s' : Stores) : Prop where
  refines : s'.RefinesTables
  managers : ∀ u, u ≠ removal.userId → s'.manager u = s.manager u
  adminPolicies : ∀ x p, lookup₂ (s'.manager removal.userId).adminPolicies x p =
    if x = removal.adminName ∧ p ∈ names ∧ plugins.needSave p = true then none
    else lookup₂ (s.manager removal.userId).adminPolicies x p
  combinedPolicies : ∀ p, (s'.manager removal.userId).combinedPolicies.lookup p =
    if p ∈ names ∧ plugins.needSave p = true ∧ (removal.writes p).combined = .done then
      entry (plugins.othersMergePolicyData s removal.userId removal.adminName p)
    else (s.manager removal.userId).combinedPolicies.lookup p

/-- A policy that is not removed looks the same to its plugin. -/
theorem ItemsRemoved.othersMergePolicyData {names : List String} {s s' : Stores}
    {plugins : PluginTable Modules Req Reply Event} {removal : Removal Reply}
    (h : ItemsRemoved plugins removal names s s') (hs : s.RefinesTables) {p : String}
    (hp : p ∉ names) (u : Int) (a : String) :
    plugins.othersMergePolicyData s' u a p = plugins.othersMergePolicyData s u a p := by
  unfold PluginTable.othersMergePolicyData
  cases hplugin : plugins.pluginsName p with
  | none => rfl
  | some plugin =>
    have hname := plugins.pluginsName_policyName p plugin hplugin
    subst hname
    have hvalues : ∀ u', (s'.manager u').adminValues plugin.policyName =
        (s.manager u').adminValues plugin.policyName := by
      intro u'
      by_cases hu : u' = removal.userId
      · subst hu
        refine h.refines.adminValues_congr hs fun x => ?_
        rw [h.adminPolicies, if_neg fun hx => hp hx.2.1]
      · rw [h.managers u' hu]
    have hcombined : ∀ u', (s'.manager u').policyValue "" plugin.policyName =
        (s.manager u').policyValue "" plugin.policyName := by
      intro u'
      by_cases hu : u' = removal.userId
      · subst hu
        rw [UserPolicyManager.policyValue_combined, UserPolicyManager.policyValue_combined,
          h.combinedPolicies, if_neg fun hx => hp hx.1]
      · rw [h.managers u' hu]
    show plugin.getOthersMergePolicyData s'.manager u a =
      plugin.getOthersMergePolicyData s.manager u a
    rw [plugin.reads_own_policy _ _ hvalues hcombined]

theorem ItemsRemoved.cons {p : String} {names : List String} {s s₁ s' : Stores}
    {plugins : PluginTable Modules Req Reply Event} {removal : Removal Reply}
    (hs : s.RefinesTables) (h : ItemsRemoved plugins removal [p] s s₁)
    (h' : ItemsRemoved plugins removal names s₁ s') (hp : p ∉ names) :
    ItemsRemoved plugins removal (p :: names) s s' where
  refines := h'.refines
  managers u hu := (h'.managers u hu).trans (h.managers u hu)
  adminPolicies x q := by
    rw [h'.adminPolicies, h.adminPolicies]
    by_cases hq : q ∈ names
    · have hqp : q ≠ p := fun heq => hp (heq ▸ hq)
      simp [hq, hqp]
    · simp [hq]
  combinedPolicies q := by
    rw [h'.combinedPolicies, h.combinedPolicies]
    by_cases hq : q ∈ names
    · have hne : q ∉ [p] := fun hmem => hp (List.mem_singleton.mp hmem ▸ hq)
      rw [h.othersMergePolicyData hs hne]
      have hqp : q ≠ p := fun heq => hne (List.mem_singleton.mpr heq)
      simp [hq, hqp]
    · simp [hq]

end

/-! ### Removing one value -/

/-- The code of a `SetPolicy` that deletes an admin's value is that of its deletion. -/
theorem failed_setPolicy_empty (s : UserStore) (writes : Writes) {a p : String} (ha : a ≠ "")
    (hp : p ≠ "") (merged : String) :
    failed (s.setPolicy writes a p "" merged).1 = (writes.admin != .done) := by
  unfold UserStore.setPolicy UserStore.writeAdmin UserStore.deleteAdminPolicy
  rw [if_neg hp]
  dsimp only
  rw [if_neg ha, if_pos rfl]
  cases writes.admin with
  | unavailable => rfl
  | failed => rfl
  | done =>
    dsimp only
    split <;> rfl

section Item

variable {Modules Req Reply Event : Type} (plugins : PluginTable Modules Req Reply Event)
  (removal : Removal Reply)

/-- A policy that `RemoveAdminItem` removes without an error. -/
def Removal.Removable (p : String) : Prop :=
  plugins.pluginsName p ≠ none ∧
    (plugins.needSave p = true → (removal.writes p).admin = .done)

variable {plugins removal} {d : Device Modules} {p v : String}
  {plugin : RegisteredPlugin Modules Req Reply Event}

open EnterpriseDeviceMgrAbility

/-- The policies that the admin holds. -/
def Removal.Holds (removal : Removal Reply) (s : Stores) (p : String) : Prop :=
  lookup₂ (s.manager removal.userId).adminPolicies removal.adminName p ≠ none

/-- `RemoveAdmin` fails on a user with admins whose statement does not take effect. -/
theorem removeAdmin_eq (d : Device Modules) (removal : Removal Reply) :
    removeAdmin d removal =
      if d.admins.container.hasAdmin removal.userId = true ∧ removal.deletion ≠ .done then
        (ERR_EDM_DEL_ADMIN_FAILED, d)
      else
        (ERR_OK, { d with admins :=
          (AdminManager.deleteAdmin d.admins .done removal.adminName removal.userId).2 }) := by
  unfold removeAdmin AdminManager.deleteAdmin
  by_cases hadmin : d.admins.container.hasAdmin removal.userId = true
  · rw [if_pos hadmin, if_pos hadmin]
    cases removal.deletion with
    | unavailable => rw [if_pos ⟨hadmin, by decide⟩]; rfl
    | failed => rw [if_pos ⟨hadmin, by decide⟩]; rfl
    | done => rw [if_neg fun h => h.2 rfl]; rfl
  · rw [if_neg hadmin, if_neg hadmin, if_neg fun h => hadmin h.1]
    rfl

end Item

/-! ### Exact removal -/

section Exact

variable {Modules Req Reply Event : Type} (plugins : PluginTable Modules Req Reply Event)
  (merges : String → (AdminName → String) → String → Prop) (removal : Removal Reply)

/-- The admins' values of a policy of a user. -/
def Stores.values (s : Stores) (u : Int) (p : String) (a : AdminName) : String :=
  (s.manager u).policyValue a p

/-- The plugins and the statements that a removal needs are there. -/
structure Removal.Succeeds (d : Device Modules) : Prop where
  items : ∀ p, removal.Holds d.policies p → removal.Removable plugins p
  admin : d.admins.container.hasAdmin removal.userId = true → removal.deletion = .done

/-- A policy that the admin does not hold is merged already.  A policy that it holds is saved by its
plugin, and the statement on its combined value takes effect and the plugin merges the other admins'
values, or the combined value merges them already. -/
structure Removal.LeavesMerged (s : Stores) (p : String) : Prop where
  not_held : ¬removal.Holds s p →
    merges p (s.values removal.userId p) ((s.manager removal.userId).policyValue "" p)
  saved : removal.Holds s p → plugins.needSave p = true
  merged : removal.Holds s p → (removal.writes p).combined = .done →
    merges p (Function.update (s.values removal.userId p) removal.adminName "")
      (plugins.othersMergePolicyData s removal.userId removal.adminName p)
  kept : removal.Holds s p → (removal.writes p).combined ≠ .done →
    merges p (Function.update (s.values removal.userId p) removal.adminName "")
      ((s.manager removal.userId).policyValue "" p)

/-- The condition under which a removal does what it has to do. -/
def Removal.Exact (d : Device Modules) : Prop :=
  removal.Succeeds plugins d → ∀ p, removal.LeavesMerged plugins merges d.policies p

end Exact

section Removal

open EnterpriseDeviceMgrAbility

variable {Modules Req Reply Event : Type} {plugins : PluginTable Modules Req Reply Event}
  {merges : String → (AdminName → String) → String → Prop} {removal : Removal Reply}
  {d : Device Modules}

/-- The values of a policy after the removal of some policies. -/
theorem ItemsRemoved.values {names : List String} {s s' : Stores}
    (h : ItemsRemoved plugins removal names s s') (p : String) :
    s'.values removal.userId p =
      if p ∈ names ∧ plugins.needSave p = true then
        Function.update (s.values removal.userId p) removal.adminName ""
      else s.values removal.userId p := by
  funext a
  rw [Stores.values, UserPolicyManager.policyValue_admin _ a.2, h.adminPolicies]
  by_cases hp : p ∈ names ∧ plugins.needSave p = true
  · rw [if_pos hp]
    by_cases ha : a = removal.adminName
    · rw [if_pos ⟨congrArg Subtype.val ha, hp⟩, ha, Function.update_self]
      rfl
    · rw [if_neg fun h => ha (Subtype.ext h.1), Function.update_of_ne ha, Stores.values,
        UserPolicyManager.policyValue_admin _ a.2]
  · rw [if_neg hp, if_neg fun h => hp h.2, Stores.values, UserPolicyManager.policyValue_admin _ a.2]

/-- The combined value of a policy after the removal of some policies. -/
theorem ItemsRemoved.combinedValue {names : List String} {s s' : Stores}
    (h : ItemsRemoved plugins removal names s s') (p : String) :
    (s'.manager removal.userId).policyValue "" p =
      if p ∈ names ∧ plugins.needSave p = true ∧ (removal.writes p).combined = .done then
        plugins.othersMergePolicyData s removal.userId removal.adminName p
      else (s.manager removal.userId).policyValue "" p := by
  rw [UserPolicyManager.policyValue_combined, UserPolicyManager.policyValue_combined,
    h.combinedPolicies]
  split
  · exact entry_getD _
  · rfl

end Removal

end Edm
