import Edm.Library.Run
import Edm.Plugin.Values

/-! Runs on one policy of a user: updates by any admins and removals of admins. -/

set_option autoImplicit false

namespace Edm

open Library Library.UnorderedMap

/-- The name of an admin.  The empty name stands for the combined policy. -/
abbrev AdminName := { a : String // a ≠ "" }

/-- An operation on a policy, with what becomes of its writes.  A request carries the answers of the
modules, and so does a removal. -/
inductive PolicyOp (Req Reply : Type) where
  | update (admin : AdminName) (writes : Writes) (request : Req)
  | removeAdmin (admin : AdminName) (writes : Writes) (reply : Reply)

section

variable {Modules Req Reply Event : Type}

def PolicyOp.writes : PolicyOp Req Reply → Writes
  | .update _ writes _ => writes
  | .removeAdmin _ writes _ => writes

def PolicyOp.admin : PolicyOp Req Reply → AdminName
  | .update admin _ _ => admin
  | .removeAdmin admin _ _ => admin

/-- A user without policies. -/
def PluginState.boot (modules : Modules) (userId : Int) : PluginState Modules :=
  { store := ⟨UserPolicyManager.new userId, PolicyTables.empty⟩, modules, subscribed := false }

variable (plugin : Plugin Modules Req Reply Event) (s : PluginState Modules)

/-- A removal of an admin calls `RemoveAdminItem` with the value that the admin holds, if any. -/
def policyStep : PolicyOp Req Reply → PluginState Modules
  | .update admin writes request =>
    (PluginManager.updateDevicePolicy plugin s writes admin request).2
  | .removeAdmin admin writes reply =>
    match s.store.manager.getAdminPolicy admin plugin.policyName with
    | .error _ => s
    | .ok policyValue =>
      (PluginManager.removeAdminItem plugin s writes reply admin policyValue).2

/-- What holds of the store whatever the modules do: the indexes agree, and no value belongs to the
empty name. -/
structure GoodStore (s : UserStore) : Prop where
  inverse : IndexesInverse s.manager
  no_empty_admin : ∀ p, lookup₂ s.manager.adminPolicies "" p = none

end

/-! ### The store -/

section Store

variable {s s' : UserStore} {a p v merged : String}

theorem goodStore_new (userId : Int) :
    GoodStore ⟨UserPolicyManager.new userId, PolicyTables.empty⟩ where
  inverse := indexesInverse_new userId
  no_empty_admin p := by simp [UserPolicyManager.new]

theorem policyValue_new (userId : Int) (a p : String) :
    (UserPolicyManager.new userId).policyValue a p = "" := by
  by_cases ha : a = ""
  · subst ha
    rfl
  · rw [UserPolicyManager.policyValue_admin _ ha]
    rfl

theorem GoodStore.saved (h : GoodStore s) (ha : a ≠ "") (hsaved : Saved s s' a p v merged) :
    GoodStore s' where
  inverse := hsaved.inverse
  no_empty_admin q := by
    rw [hsaved.adminPolicies, if_neg fun h => ha h.1.symm]
    exact h.no_empty_admin q

/-- A failed insert leaves its value in the second index only. -/
theorem GoodStore.setPolicy_iff (h : GoodStore s) (writes : Writes) (ha : a ≠ "") (hp : p ≠ "") :
    GoodStore (s.setPolicy writes a p v merged).2 ↔
      v = "" ∨ writes.admin ≠ .failed ∨ lookup₂ s.manager.adminPolicies a p = some v := by
  rw [← setPolicy_indexesInverse s v merged writes h.inverse ha hp]
  constructor
  · exact GoodStore.inverse
  · intro hinverse
    refine ⟨hinverse, fun q => ?_⟩
    rw [setPolicy_adminPolicies s v merged writes ha hp, if_neg fun h => ha h.2.1.symm]
    exact h.no_empty_admin q

/-- An admin's entry and its value. -/
theorem GoodStore.lookup_admin (h : GoodStore s) (admin : AdminName) (p : String) :
    lookup₂ s.manager.adminPolicies admin p = entry (s.manager.policyValue admin p) := by
  rw [← lookup_adminValues_eq h.inverse admin.2, UserPolicyManager.lookup_adminValues,
    h.inverse.inverse]

/-- The admins' values. -/
theorem GoodStore.lookup_values (h : GoodStore s) (p x v : String) :
    (s.manager.adminValues p).lookup x = some v ↔
      ∃ _ : x ≠ "", v = s.manager.policyValue x p ∧ v ≠ "" := by
  by_cases hx : x = ""
  · subst hx
    rw [UserPolicyManager.lookup_adminValues, ← h.inverse.inverse, h.no_empty_admin]
    simp
  · rw [lookup_adminValues_eq h.inverse hx]
    constructor
    · intro hentry
      obtain ⟨rfl, hne⟩ := entry_eq_some hentry
      exact ⟨hx, rfl, hne⟩
    · rintro ⟨_, rfl, hne⟩
      exact entry_of_ne hne

/-- The other admins' values. -/
theorem GoodStore.lookup_others (h : GoodStore s) (admin : AdminName) (p x v : String) :
    ((s.manager.adminValues p).erase admin.1).lookup x = some v ↔
      ∃ hx : x ≠ "", (⟨x, hx⟩ : AdminName) ≠ admin ∧ v = s.manager.policyValue x p ∧ v ≠ "" := by
  rw [lookup_erase_eq]
  by_cases hadmin : x = admin.1
  · simp [hadmin]
  · rw [if_neg hadmin, h.lookup_values]
    refine exists_congr fun hx => (and_iff_right fun heq => ?_).symm
    exact hadmin (congrArg Subtype.val heq)

end Store

/-! ### Removals -/

section Removal

variable {Modules Req Reply Event : Type} (plugin : Plugin Modules Req Reply Event)
  {s : PluginState Modules} (admin : AdminName) (writes : Writes) (reply : Reply)

/-- The removal of an admin without a value does nothing. -/
theorem policyStep_removeAdmin_none (h : GoodStore s.store)
    (hvalue : s.store.manager.policyValue admin plugin.policyName = "") :
    policyStep plugin s (.removeAdmin admin writes reply) = s := by
  have hlookup := h.lookup_admin admin plugin.policyName
  rw [hvalue, entry_empty] at hlookup
  simp only [policyStep, UserPolicyManager.getAdminPolicy, hlookup]

theorem policyStep_removeAdmin_held (h : GoodStore s.store) (hsave : plugin.needSave = true)
    (hvalue : s.store.manager.policyValue admin plugin.policyName ≠ "") :
    ∃ subscribed, policyStep plugin s (.removeAdmin admin writes reply) =
      { store := (s.store.setPolicy writes admin plugin.policyName ""
          (plugin.getOthersMergePolicyData s.store.manager admin)).2
        modules := (plugin.onAdminRemove s.modules reply
          (s.store.manager.policyValue admin plugin.policyName)
          (plugin.getOthersMergePolicyData s.store.manager admin)).2
        subscribed } := by
  have hlookup := h.lookup_admin admin plugin.policyName
  rw [entry_of_ne hvalue] at hlookup
  have hentry := lookup_adminValues_eq h.inverse admin.2 plugin.policyName
  rw [entry_of_ne hvalue] at hentry
  have hnonempty : isEmpty (s.store.manager.adminValues plugin.policyName) = false :=
    Bool.eq_false_iff.mpr fun hempty => ne_empty_of_lookup hentry (isEmpty_iff.mp hempty)
  obtain ⟨subscribed, hremove⟩ := PluginManager.removeAdminItem_held plugin s writes reply admin
    (s.store.manager.policyValue admin plugin.policyName) hsave hnonempty
  refine ⟨subscribed, ?_⟩
  simp only [policyStep, UserPolicyManager.getAdminPolicy, hlookup, hremove]

end Removal

/-! ### The other admins -/

section Other

variable {Modules Req Reply Event : Type}

/-- What the removal of an item writes. -/
theorem removeAdminItem_store (plugin : Plugin Modules Req Reply Event) (s : PluginState Modules)
    (writes : Writes) (reply : Reply) (adminName v : String) :
    (PluginManager.removeAdminItem plugin s writes reply adminName v).2.store =
      if plugin.needSave then
        if isEmpty (s.store.manager.adminValues plugin.policyName) then
          (s.store.setPolicy writes "" plugin.policyName "" "").2
        else
          (s.store.setPolicy writes adminName plugin.policyName ""
            (plugin.getOthersMergePolicyData s.store.manager adminName)).2
      else s.store := by
  unfold PluginManager.removeAdminItem
  dsimp only
  by_cases hsave : plugin.needSave = true
  · rw [if_pos hsave, if_pos hsave]
    split <;> split <;> rfl
  · rw [if_neg hsave, if_neg hsave]
    split <;> rfl

/-- An operation of an admin leaves the values of the others. -/
theorem policyStep_value_other (plugin : Plugin Modules Req Reply Event) (hname : plugin.policyName ≠ "") (s : PluginState Modules)
    (op : PolicyOp Req Reply) {other : AdminName} (hother : other ≠ op.admin) :
    (policyStep plugin s op).store.manager.policyValue other plugin.policyName =
      s.store.manager.policyValue other plugin.policyName := by
  have hset : ∀ (admin : AdminName) (writes : Writes) (v merged : String), other ≠ admin →
      (s.store.setPolicy writes admin plugin.policyName v merged).2.manager.policyValue other
        plugin.policyName = s.store.manager.policyValue other plugin.policyName :=
    fun admin writes v merged hne => setPolicy_value_other s.store v merged writes admin.2 hname
      other.2 fun heq => hne (Subtype.ext heq.1)
  cases op with
  | update admin writes request =>
    show (PluginManager.updateDevicePolicy plugin s writes admin request).2.store.manager.policyValue
      _ _ = _
    unfold PluginManager.updateDevicePolicy
    dsimp only
    split
    · rfl
    · split
      · exact hset admin writes _ _ hother
      · rfl
  | removeAdmin admin writes reply =>
    unfold policyStep
    dsimp only
    split
    · rfl
    · have hcombined : (s.store.setPolicy writes "" plugin.policyName "" "").2.manager.policyValue
          other plugin.policyName = s.store.manager.policyValue other plugin.policyName := by
        rw [UserPolicyManager.policyValue_admin _ other.2, UserPolicyManager.policyValue_admin _
          other.2, UserStore.setPolicy_of_ne _ _ _ _ _ _ hname, if_pos rfl,
          UserStore.writeCombined_adminPolicies]
      rw [removeAdminItem_store]
      split
      · split
        · exact hcombined
        · exact hset admin writes _ _ hother
      · rfl

/-- An admin without operations in a run has no value. -/
theorem run_value_none (plugin : Plugin Modules Req Reply Event) (hname : plugin.policyName ≠ "")
    (modules : Modules) (userId : Int) (ops : List (PolicyOp Req Reply)) {other : AdminName}
    (h : ∀ op, op ∈ ops → other ≠ op.admin) :
    (run (policyStep plugin) (PluginState.boot modules userId) ops).store.manager.policyValue other
      plugin.policyName = "" := by
  induction ops using List.reverseRecOn with
  | nil => exact policyValue_new userId other plugin.policyName
  | append_singleton ops op ih =>
    rw [run_append, run_cons, run_nil, policyStep_value_other plugin hname _ op
      (h op (List.mem_append_right _ (List.mem_singleton.mpr rfl)))]
    exact ih fun op hop => h op (List.mem_append_left _ hop)

end Other

end Edm
