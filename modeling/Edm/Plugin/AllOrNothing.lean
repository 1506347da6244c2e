import Edm.Plugin.Manager
import Edm.Policy.Effects

/-! When a `SetPolicy` is done as a whole or not at all, and when `UpdateDevicePolicy` reports
it. -/

set_option autoImplicit false

namespace Edm

open Library Library.UnorderedMap

namespace UserStore

variable (s : UserStore) (writes : Writes) (a p v merged : String)

/-- A success leaves both values stored, and an error the maps as they were.  An empty admin name
has no value of its own. -/
structure AllOrNothing : Prop where
  admin : (s.setPolicy writes a p v merged).1 = ERR_OK → a ≠ "" →
    lookup₂ (s.setPolicy writes a p v merged).2.manager.adminPolicies a p = entry v
  combined : (s.setPolicy writes a p v merged).1 = ERR_OK →
    (s.setPolicy writes a p v merged).2.manager.combinedPolicies.lookup p = entry merged
  unchanged : (s.setPolicy writes a p v merged).1 ≠ ERR_OK →
    (s.setPolicy writes a p v merged).2.manager = s.manager

/-- Both statements take effect or neither does, unless the combined value is stored already, and a
statement that fails does not insert a new value. -/
structure WritesAgree : Prop where
  combined : (writes.combined = .done ↔ writes.admin = .done) ∨
    s.manager.combinedPolicies.lookup p = entry merged
  index : writes.admin = .failed → v = "" ∨ lookup₂ s.manager.policyAdmins p a = some v

/-! ### The code -/

theorem writeCombined_ok {write : RdbOutcome} :
    (s.writeCombined write p merged).1 = ERR_OK ↔ write = .done := by
  unfold writeCombined deleteCombinedPolicy setCombinedPolicy
  cases write with
  | unavailable =>
    rw [apply_ite Prod.fst, ite_self]
    exact iff_of_false (by decide : ERR_GET_STORAGE_RDB_FAILED ≠ ERR_OK) nofun
  | failed =>
    split
    · exact iff_of_false (by decide : ERR_EDM_POLICY_DEL_FAILED ≠ ERR_OK) nofun
    · exact iff_of_false (by decide : ERR_EDM_POLICY_SET_FAILED ≠ ERR_OK) nofun
  | done =>
    split
    · exact iff_of_true rfl rfl
    · exact iff_of_true rfl rfl

theorem writeAdmin_ok {write : RdbOutcome} :
    (s.writeAdmin write a p v).1 = ERR_OK ↔ write = .done := by
  unfold writeAdmin deleteAdminPolicy setAdminPolicy
  cases write with
  | unavailable =>
    rw [apply_ite Prod.fst, ite_self]
    exact iff_of_false (by decide : ERR_GET_STORAGE_RDB_FAILED ≠ ERR_OK) nofun
  | failed =>
    split
    · exact iff_of_false (by decide : ERR_EDM_POLICY_DEL_FAILED ≠ ERR_OK) nofun
    · exact iff_of_false (by decide : ERR_EDM_POLICY_SET_FAILED ≠ ERR_OK) nofun
  | done =>
    split
    · dsimp only
      split
      · exact iff_of_true rfl rfl
      · exact iff_of_true rfl rfl
    · dsimp only
      split
      · exact iff_of_true rfl rfl
      · exact iff_of_true rfl rfl

/-- The code is that of the last statement. -/
theorem setPolicy_ok : (s.setPolicy writes a p v merged).1 = ERR_OK ↔
    p ≠ "" ∧ if a = "" then writes.combined = .done else writes.admin = .done := by
  rw [setPolicy]
  by_cases hp : p = ""
  · rw [if_pos hp]
    exact iff_of_false (by decide : ERR_EDM_POLICY_SET_FAILED ≠ ERR_OK) fun h => h.1 hp
  rw [if_neg hp, and_iff_right hp]
  dsimp only
  by_cases ha : a = ""
  · rw [if_pos ha, if_pos ha]
    exact s.writeCombined_ok p merged
  · rw [if_neg ha, if_neg ha]
    exact writeAdmin_ok _ a p v

/-! ### What is left -/

variable {s p merged v a}

/-- A combined value that is stored already. -/
theorem writeCombined_manager {write : RdbOutcome} :
    (s.writeCombined write p merged).2.manager = s.manager ↔
      write ≠ .done ∨ s.manager.combinedPolicies.lookup p = entry merged := by
  by_cases hwrite : write = .done
  · subst hwrite
    rw [or_iff_right (not_not.mpr rfl)]
    have hlookup := s.writeCombined_done_lookup p merged
    constructor
    · intro hsame
      have hp := hlookup p
      rw [hsame, if_pos rfl] at hp
      exact hp
    · intro hp
      have hmaps : (s.writeCombined .done p merged).2.manager.combinedPolicies =
          s.manager.combinedPolicies := by
        refine Finmap.ext_lookup fun q => ?_
        rw [hlookup]
        split
        · rename_i hq
          rw [hq, hp]
        · rfl
      have hmanager : (s.writeCombined .done p merged).2.manager = { s.manager with
          combinedPolicies := (s.writeCombined .done p merged).2.manager.combinedPolicies } := by
        unfold writeCombined deleteCombinedPolicy setCombinedPolicy
        split
        · rfl
        · rfl
      rw [hmanager, hmaps]
  · rw [s.writeCombined_of_ne_done write p merged hwrite]
    exact iff_of_true rfl (.inl hwrite)

/-- A value that is in the second index already. -/
theorem setAdminList_eq {m : UserPolicyManager} :
    m.setAdminList a p v = m ↔ lookup₂ m.policyAdmins p a = some v := by
  have hlookup := fun q x => lookup₂_put₂ m.policyAdmins p q a x v
  constructor
  · intro hsame
    have hp := hlookup p a
    have hindex : put₂ m.policyAdmins p a v = m.policyAdmins :=
      congrArg UserPolicyManager.policyAdmins hsame
    rw [hindex, if_pos ⟨rfl, rfl⟩] at hp
    exact hp
  · intro hp
    have hinner : ((m.policyAdmins.lookup p).getD ∅).insert a v =
        (m.policyAdmins.lookup p).getD ∅ := by
      refine insert_lookup ?_
      cases hq : m.policyAdmins.lookup p with
      | none =>
        rw [lookup₂_none hq] at hp
        cases hp
      | some inner =>
        rw [lookup₂_some hq] at hp
        exact hp
    have hindex : put₂ m.policyAdmins p a v = m.policyAdmins := by
      rw [put₂, hinner]
      cases hq : m.policyAdmins.lookup p with
      | none =>
        rw [lookup₂_none hq] at hp
        cases hp
      | some inner => exact insert_lookup hq
    rw [UserPolicyManager.setAdminList, hindex]

theorem writeAdmin_manager {write : RdbOutcome} (hwrite : write ≠ .done) :
    (s.writeAdmin write a p v).2.manager = s.manager ↔
      (write = .failed → v = "" ∨ lookup₂ s.manager.policyAdmins p a = some v) := by
  cases write with
  | done => exact absurd rfl hwrite
  | unavailable =>
    rw [writeAdmin_unavailable]
    exact iff_of_true rfl nofun
  | failed =>
    rw [writeAdmin_failed]
    by_cases hv : v = ""
    · rw [if_pos hv]
      exact iff_of_true rfl fun _ => .inl hv
    · rw [if_neg hv]
      exact setAdminList_eq.trans ⟨fun h _ => .inr h, fun h => (h rfl).resolve_left hv⟩

theorem allOrNothing_iff :
    s.AllOrNothing writes a p v merged ↔ (p ≠ "" → a ≠ "" → s.WritesAgree writes a p v merged) := by
  by_cases hp : p = ""
  · have hcode : (s.setPolicy writes a p v merged).1 ≠ ERR_OK := fun hok =>
      (((s.setPolicy_ok writes a p v merged).mp hok).1 hp).elim
    subst hp
    exact iff_of_true ⟨fun hok => absurd hok hcode, fun hok => absurd hok hcode, fun _ => rfl⟩
      fun hne => absurd rfl hne
  have hok := s.setPolicy_ok writes a p v merged
  have hleft := s.setPolicy_of_ne writes a p v merged hp
  have hlookup := s.writeCombined_done_lookup p merged p
  rw [and_iff_right hp] at hok
  by_cases ha : a = ""
  · rw [if_pos ha] at hok hleft
    refine iff_of_true ⟨fun _ hne => absurd ha hne, fun hdone => ?_, fun hfailed => ?_⟩
      fun _ hne => absurd ha hne
    · rw [hleft, hok.mp hdone, hlookup, if_pos rfl]
    · rw [hleft, s.writeCombined_of_ne_done _ p merged fun hdone => hfailed (hok.mpr hdone)]
  rw [if_neg ha] at hok hleft
  have hfirst : (s.writeCombined writes.combined p merged).2.manager = s.manager ↔
      writes.combined ≠ .done ∨ s.manager.combinedPolicies.lookup p = entry merged :=
    writeCombined_manager
  have hcombined : (s.setPolicy writes a p v merged).2.manager.combinedPolicies =
      (s.writeCombined writes.combined p merged).2.manager.combinedPolicies := by
    rw [hleft, writeAdmin_combinedPolicies]
  have hstored : (s.setPolicy writes a p v merged).2.manager.combinedPolicies.lookup p =
      entry merged ↔
        writes.combined = .done ∨ s.manager.combinedPolicies.lookup p = entry merged := by
    rw [hcombined]
    by_cases hdone : writes.combined = .done
    · rw [hdone, hlookup, if_pos rfl]
      exact iff_of_true rfl (.inl rfl)
    · rw [s.writeCombined_of_ne_done _ p merged hdone]
      exact (or_iff_right hdone).symm
  by_cases hadmin : writes.admin = .done
  · have hcode := hok.mpr hadmin
    constructor
    · intro h _ _
      refine ⟨(hstored.mp (h.combined hcode)).imp (fun hdone => ?_) id, fun hfailed => ?_⟩
      · exact iff_of_true hdone hadmin
      · rw [hadmin] at hfailed
        cases hfailed
    · intro h
      have hcondition := (h hp ha).combined
      refine ⟨fun _ _ => ?_, fun _ => hstored.mpr (hcondition.imp (·.mpr hadmin) id),
        fun hfailed => absurd hcode hfailed⟩
      rw [hleft, hadmin, writeAdmin_done_adminPolicies, if_pos ⟨rfl, rfl⟩]
  · have hcode : (s.setPolicy writes a p v merged).1 ≠ ERR_OK := fun h => hadmin (hok.mp h)
    have hsecond := writeAdmin_manager (s := (s.writeCombined writes.combined p merged).2) (a := a)
      (p := p) (v := v) hadmin
    rw [writeCombined_policyAdmins, ← hleft] at hsecond
    have hiff : (writes.combined = .done ↔ writes.admin = .done) ↔ writes.combined ≠ .done :=
      iff_false_right hadmin
    constructor
    · intro h _ _
      have hsame := h.unchanged hcode
      have hkept : (s.writeCombined writes.combined p merged).2.manager = s.manager := by
        refine hfirst.mpr (or_iff_not_imp_left.mpr fun hdone => ?_)
        rw [← hsame]
        exact hstored.mpr (.inl (not_not.mp hdone))
      exact ⟨(hfirst.mp hkept).imp hiff.mpr id, hsecond.mp (hsame.trans hkept.symm)⟩
    · intro h
      obtain ⟨hcondition, hindex⟩ := h hp ha
      refine ⟨fun hdone => absurd hdone hcode, fun hdone => absurd hdone hcode, fun _ => ?_⟩
      exact (hsecond.mpr hindex).trans (hfirst.mpr (hcondition.imp hiff.mp id))

end UserStore

/-! ### The report -/

section Report

variable {Modules Req Reply Event : Type} (plugin : Plugin Modules Req Reply Event)
  (s : PluginState Modules) (writes : Writes) (bundleName : String) (req : Req)

/-- What the handler of an update returns. -/
def PluginManager.handled : ErrCode × Modules × HandlePolicyData :=
  plugin.onHandlePolicy s.store.manager s.modules req (handlePolicyData plugin s bundleName)

/-- The policy changed, and `UpdateDevicePolicy` writes it. -/
def PluginManager.Changed : Prop :=
  failed (handled plugin s bundleName req).1 = false ∧
    (plugin.needSave && (handled plugin s bundleName req).2.2.isChanged) = true

/-- The `SetPolicy` of an update. -/
def PluginManager.updateWrites : ErrCode × UserStore :=
  s.store.setPolicy writes bundleName plugin.policyName
    (handled plugin s bundleName req).2.2.policyData
    (handled plugin s bundleName req).2.2.mergePolicyData

/-- `UpdateDevicePolicy` reports a success for a changed policy only if its `SetPolicy` does. -/
def PluginManager.Reported : Prop :=
  Changed plugin s bundleName req →
    (updateDevicePolicy plugin s writes bundleName req).1 = ERR_OK →
      (updateWrites plugin s writes bundleName req).1 = ERR_OK

/-- The last statement for a changed policy takes effect. -/
def PluginManager.LastDone : Prop :=
  plugin.policyName ≠ "" ∧ if bundleName = "" then writes.combined = .done else writes.admin = .done

theorem PluginManager.updateDevicePolicy_changed_code (h : Changed plugin s bundleName req) :
    (updateDevicePolicy plugin s writes bundleName req).1 = ERR_OK := by
  obtain ⟨hok, hchanged⟩ := h
  unfold handled at hok hchanged
  simp only [updateDevicePolicy, hok, hchanged, Bool.false_eq_true, if_false, if_true]

/-- The code of `SetPolicy` is not looked at. -/
theorem PluginManager.reported_iff : Reported plugin s writes bundleName req ↔
    (Changed plugin s bundleName req → LastDone plugin writes bundleName) := by
  have hcode := UserStore.setPolicy_ok s.store writes bundleName plugin.policyName
    (handled plugin s bundleName req).2.2.policyData
    (handled plugin s bundleName req).2.2.mergePolicyData
  constructor
  · intro h hchanged
    exact hcode.mp (h hchanged
      (updateDevicePolicy_changed_code plugin s writes bundleName req hchanged))
  · intro h hchanged _
    exact hcode.mpr (h hchanged)

/-- The two halves of the contract, for every store and every plugin. -/
theorem setPolicy_allOrNothing_and_reported (store : UserStore) (a p v merged : String) :
    (store.AllOrNothing writes a p v merged ↔
      (p ≠ "" → a ≠ "" → store.WritesAgree writes a p v merged)) ∧
    (PluginManager.Reported plugin s writes bundleName req ↔
      (PluginManager.Changed plugin s bundleName req →
        PluginManager.LastDone plugin writes bundleName)) :=
  ⟨UserStore.allOrNothing_iff writes, PluginManager.reported_iff plugin s writes bundleName req⟩

end Report

/-- The combined statement fails, and the admin's succeeds. -/
theorem setPolicy_masks_combined :
    ¬∀ (s : UserStore) (writes : Writes) (a p v merged : String),
      s.AllOrNothing writes a p v merged := by
  intro h
  have hlost := (h ⟨UserPolicyManager.new 100, PolicyTables.empty⟩ ⟨.failed, .done⟩ "com.admin"
    "wifi" "on" "on").combined (by decide +kernel)
  revert hlost
  decide +kernel

end Edm
