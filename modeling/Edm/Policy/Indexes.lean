import Edm.Library.Run
import Edm.Policy.Effects

/-! The two indexes of a user's policies, over runs of calls to the managers of all users.  The
indexes are inverse to each other until a row write fails after the second index took its value, or
an admin is replaced by one that holds a policy the old admin does not. -/

set_option autoImplicit false

namespace Edm

open Library Library.UnorderedMap

/-- The two indexes of a manager hold the same nonempty values, and no empty inner map. -/
structure IndexesInverse (m : UserPolicyManager) : Prop where
  inverse : ∀ a p, lookup₂ m.adminPolicies a p = lookup₂ m.policyAdmins p a
  value_ne : ∀ a p v, lookup₂ m.adminPolicies a p = some v → v ≠ ""
  adminPolicies_tidy : Tidy m.adminPolicies
  policyAdmins_tidy : Tidy m.policyAdmins

theorem indexesInverse_new (u : Int) : IndexesInverse (UserPolicyManager.new u) where
  inverse a p := by simp [UserPolicyManager.new]
  value_ne a p v h := by simp [UserPolicyManager.new] at h
  adminPolicies_tidy := tidy_empty
  policyAdmins_tidy := tidy_empty

/-! ### One call -/

namespace UserStore

variable {s : UserStore}

theorem indexesInverse_init (hrows : s.NoEmptyValue) (h : IndexesInverse s.manager)
    (reads : Reads) : IndexesInverse (s.init reads).manager where
  inverse a p := by
    obtain ⟨found, -, h₁, h₂⟩ := init_indexes s reads a p
    rw [h₁, h₂, h.inverse]
  value_ne a p v hv := by
    obtain ⟨found, hfound, h₁, -⟩ := init_indexes s reads a p
    rw [h₁, Option.or_eq_some_iff] at hv
    rcases hv with hv | ⟨-, hv⟩
    · exact h.value_ne a p v hv
    · rcases hfound with rfl | rfl
      · contradiction
      · exact hrows.adminValue_ne hv
  adminPolicies_tidy := (tidy_init s reads h.adminPolicies_tidy h.policyAdmins_tidy).1
  policyAdmins_tidy := (tidy_init s reads h.adminPolicies_tidy h.policyAdmins_tidy).2

theorem indexesInverse_writeCombined {write : RdbOutcome} {p v : String} :
    IndexesInverse (s.writeCombined write p v).2.manager ↔ IndexesInverse s.manager := by
  constructor <;> intro h
  · exact ⟨by simpa using h.inverse, by simpa using h.value_ne,
      by simpa using h.adminPolicies_tidy, by simpa using h.policyAdmins_tidy⟩
  · exact ⟨by simpa using h.inverse, by simpa using h.value_ne,
      by simpa using h.adminPolicies_tidy, by simpa using h.policyAdmins_tidy⟩

theorem indexesInverse_writeAdmin_done (h : IndexesInverse s.manager) (a p v : String) :
    IndexesInverse (s.writeAdmin .done a p v).2.manager where
  inverse x q := by
    rw [writeAdmin_done_adminPolicies, writeAdmin_done_policyAdmins s a p v (h.inverse a p),
      h.inverse]
    exact if_congr and_comm rfl rfl
  value_ne x q w hw := by
    rw [writeAdmin_done_adminPolicies] at hw
    split at hw
    · exact (entry_eq_some hw).2
    · exact h.value_ne x q w hw
  adminPolicies_tidy := tidy_writeAdmin_adminPolicies s .done a p v h.adminPolicies_tidy
  policyAdmins_tidy := tidy_writeAdmin_policyAdmins s .done a p v h.policyAdmins_tidy

/-- After a failed write the indexes are inverse only if the value was there already. -/
theorem indexesInverse_writeAdmin_failed (h : IndexesInverse s.manager) {a p v : String}
    (hv : v ≠ "") :
    IndexesInverse (s.writeAdmin .failed a p v).2.manager ↔
      lookup₂ s.manager.adminPolicies a p = some v := by
  rw [writeAdmin_failed, if_neg hv]
  constructor
  · intro h'
    have hinv := h'.inverse a p
    simpa [UserPolicyManager.setAdminList, lookup₂_put₂] using hinv
  · intro hstored
    refine ⟨fun x q => ?_, h.value_ne, h.adminPolicies_tidy, tidy_put₂ h.policyAdmins_tidy _ _ _⟩
    simp only [UserPolicyManager.setAdminList, lookup₂_put₂]
    split
    · rename_i hqx
      rw [hqx.1, hqx.2, hstored]
    · exact h.inverse x q

theorem indexesInverse_writeAdmin (h : IndexesInverse s.manager) (write : RdbOutcome)
    (a p v : String) :
    IndexesInverse (s.writeAdmin write a p v).2.manager ↔
      v = "" ∨ write ≠ .failed ∨ lookup₂ s.manager.adminPolicies a p = some v := by
  cases write with
  | unavailable => simpa [writeAdmin_unavailable] using h
  | done => simpa using indexesInverse_writeAdmin_done h a p v
  | failed =>
    by_cases hv : v = ""
    · simpa [writeAdmin_failed, hv] using h
    · simpa [hv] using indexesInverse_writeAdmin_failed h hv

/-- Replacing `a` by `n` keeps the indexes inverse when `n` holds no policy that `a` does not. -/
theorem indexesInverse_replace_done (h : IndexesInverse s.manager) (userId : Int) (a n : String) :
    IndexesInverse (s.replacePolicyByAdminName .done userId a n).2.manager ↔
      a = n ∨ s.manager.adminPolicies.lookup a = none ∨
        ∀ p, lookup₂ s.manager.adminPolicies n p ≠ none →
          lookup₂ s.manager.adminPolicies a p ≠ none := by
  have htidy₁ := tidy_replace_adminPolicies s .done userId a n h.adminPolicies_tidy
  have htidy₂ := tidy_replace_policyAdmins s .done userId a n h.policyAdmins_tidy
  by_cases habsent : s.manager.adminPolicies.lookup a = none
  · refine iff_of_true ⟨fun x q => ?_, fun x q w hw => ?_, htidy₁, htidy₂⟩ (.inr (.inl habsent))
    · rw [replace_adminPolicies_absent s userId a n habsent, replace_policyAdmins, ← h.inverse,
        lookup₂_none habsent, h.inverse]
    · rw [replace_adminPolicies_absent s userId a n habsent] at hw
      exact h.value_ne x q w hw
  · have hadmin := replace_adminPolicies s userId a n habsent
    have hpolicy := replace_policyAdmins s userId a n
    constructor
    · intro h'
      by_cases han : a = n
      · exact .inl han
      refine .inr (.inr fun p hn ha => hn ?_)
      have hinv := h'.inverse n p
      rw [hadmin n p, hpolicy p n, if_pos rfl, ← h.inverse a p, ha] at hinv
      rw [h.inverse]
      exact hinv.symm
    · intro hsafe
      refine ⟨fun x q => ?_, fun x q w hw => ?_, htidy₁, htidy₂⟩
      · rw [hadmin x q, hpolicy q x, ← h.inverse, ← h.inverse]
        cases ha : lookup₂ s.manager.adminPolicies a q with
        | some w => rfl
        | none =>
          by_cases hx : x = n
          · subst hx
            rcases hsafe with rfl | hsafe | hsafe
            · simp [ha]
            · contradiction
            · by_contra hne
              exact hsafe q (fun hn => hne (by simp [hn])) ha
          · by_cases hxa : x = a
            · simp [hxa, ha]
            · simp [hx, hxa]
      · rw [hadmin x q] at hw
        split at hw
        · exact h.value_ne a q w hw
        · split at hw
          · contradiction
          · exact h.value_ne x q w hw

end UserStore

/-! ### Runs -/

/-- The managers of all users over the same tables. -/
structure Stores where
  tables : PolicyTables
  manager : Int → UserPolicyManager

/-- A device without policies. -/
def Stores.boot : Stores := ⟨PolicyTables.empty, UserPolicyManager.new⟩

/-- A write to a user's manager, with what becomes of its statements. -/
inductive PolicyWrite where
  | setPolicy (writes : Writes) (adminName policyName adminPolicy mergedPolicy : String)
  | replacePolicyByAdminName (write : RdbOutcome) (userId : Int) (adminName newAdminName : String)

def PolicyWrite.apply (s : UserStore) : PolicyWrite → UserStore
  | .setPolicy writes a p v merged => (s.setPolicy writes a p v merged).2
  | .replacePolicyByAdminName write userId a n => (s.replacePolicyByAdminName write userId a n).2

/-- A call to a user's manager.  `construct` replaces the manager by a new one, as a restart of the
service does. -/
inductive Call where
  | construct
  | init (reads : Reads)
  | write (w : PolicyWrite)

def Call.apply (s : UserStore) : Call → UserStore
  | .construct => { s with manager := UserPolicyManager.new s.manager.userIdState }
  | .init reads => s.init reads
  | .write w => w.apply s

namespace Stores

/-- A user's manager with the tables. -/
def user (s : Stores) (u : Int) : UserStore := ⟨s.manager u, s.tables⟩

/-- The stores after user `u`'s manager and the tables became those of `r`. -/
def setUser (s : Stores) (u : Int) (r : UserStore) : Stores :=
  { tables := r.tables, manager := Function.update s.manager u r.manager }

def step (s : Stores) (c : Int × Call) : Stores := s.setUser c.1 (c.2.apply (s.user c.1))

theorem setUser_manager_self (s : Stores) (u : Int) (r : UserStore) :
    (s.setUser u r).manager u = r.manager := by
  simp [setUser]

theorem setUser_manager_of_ne (s : Stores) {u u' : Int} (h : u' ≠ u) (r : UserStore) :
    (s.setUser u r).manager u' = s.manager u' := by
  simp [setUser, h]

@[simp] theorem setUser_user (s : Stores) (u : Int) : s.setUser u (s.user u) = s := by
  simp [setUser, user]

end Stores

/-- The writes that keep a user's indexes inverse. -/
def PolicyWrite.KeepsInverse (m : UserPolicyManager) : PolicyWrite → Prop
  | .setPolicy writes a p v _ =>
    p = "" ∨ a = "" ∨ v = "" ∨ writes.admin ≠ .failed ∨ lookup₂ m.adminPolicies a p = some v
  | .replacePolicyByAdminName write _ a n =>
    write ≠ .done ∨ a = n ∨ m.adminPolicies.lookup a = none ∨
      ∀ p, lookup₂ m.adminPolicies n p ≠ none → lookup₂ m.adminPolicies a p ≠ none

/-- The calls that keep a user's indexes inverse. -/
def Call.KeepsInverse (m : UserPolicyManager) : Call → Prop
  | .construct => True
  | .init _ => True
  | .write w => w.KeepsInverse m

/-- The indexes of every user are inverse. -/
def Stores.IndexesInverse (s : Stores) : Prop := ∀ u, Edm.IndexesInverse (s.manager u)

theorem noEmptyValue_apply {s : UserStore} (h : s.NoEmptyValue) (call : Call) :
    (call.apply s).NoEmptyValue := by
  cases call with
  | construct => exact h
  | init reads =>
    unfold UserStore.NoEmptyValue
    rwa [Call.apply, UserStore.init_tables]
  | write w =>
    cases w with
    | setPolicy writes a p v merged =>
      by_cases hp : p = ""
      · subst hp
        exact h
      · rw [Call.apply, PolicyWrite.apply, UserStore.setPolicy_of_ne s writes a p v merged hp]
        split
        · exact h.writeCombined _ _ _
        · exact (h.writeCombined _ _ _).writeAdmin _ _ _ _
    | replacePolicyByAdminName write userId a n => exact h.replace write userId a n

theorem indexesInverse_write {s : UserStore} (h : IndexesInverse s.manager) (w : PolicyWrite) :
    IndexesInverse (w.apply s).manager ↔ w.KeepsInverse s.manager := by
  cases w with
  | setPolicy writes a p v merged =>
    by_cases hp : p = ""
    · subst hp
      exact iff_of_true h (.inl rfl)
    · have hcombined : IndexesInverse (s.writeCombined writes.combined p merged).2.manager :=
        UserStore.indexesInverse_writeCombined.mpr h
      rw [PolicyWrite.apply, UserStore.setPolicy_of_ne s writes a p v merged hp]
      by_cases ha : a = ""
      · rw [if_pos ha]
        exact iff_of_true hcombined (.inr (.inl ha))
      · rw [if_neg ha, UserStore.indexesInverse_writeAdmin hcombined]
        simp [PolicyWrite.KeepsInverse, hp, ha]
  | replacePolicyByAdminName write userId a n =>
    by_cases hwrite : write = .done
    · subst hwrite
      rw [PolicyWrite.apply, UserStore.indexesInverse_replace_done h]
      simp [PolicyWrite.KeepsInverse]
    · rw [PolicyWrite.apply, UserStore.replace_of_ne_done s write userId a n hwrite]
      exact iff_of_true h (.inl hwrite)

theorem indexesInverse_apply {s : UserStore} (hrows : s.NoEmptyValue)
    (h : IndexesInverse s.manager) (call : Call) :
    IndexesInverse (call.apply s).manager ↔ call.KeepsInverse s.manager := by
  cases call with
  | construct => exact iff_of_true (indexesInverse_new _) trivial
  | init reads => exact iff_of_true (UserStore.indexesInverse_init hrows h reads) trivial
  | write w => exact indexesInverse_write h w

/-- The indexes of all users are inverse throughout a run exactly when every call of the run keeps
them inverse. -/
theorem always_indexesInverse_iff (calls : List (Int × Call)) :
    Always Stores.step Stores.IndexesInverse Stores.boot calls ↔
      Each Stores.step (fun s c => c.2.KeepsInverse (s.manager c.1)) Stores.boot calls := by
  refine always_iff_each (I := fun s => s.tables.adminRows.All fun row => row.policyValue ≠ "")
    ?_ ?_ (Table.all_empty _) indexesInverse_new calls
  · rintro s ⟨u, call⟩ hrows - -
    exact noEmptyValue_apply (s := s.user u) hrows call
  · rintro s ⟨u, call⟩ hrows h
    refine Iff.trans ?_ (indexesInverse_apply (s := s.user u) hrows (h u) call)
    constructor
    · intro h'
      have hu := h' u
      rwa [Stores.step, Stores.setUser_manager_self] at hu
    · intro hu u'
      by_cases hu' : u' = u
      · subst hu'
        rwa [Stores.step, Stores.setUser_manager_self]
      · rw [Stores.step, Stores.setUser_manager_of_ne s hu']
        exact h u'

/-- One insert that fails: the second index keeps a value that the first never takes. -/
theorem failed_insert_breaks_indexes :
    ¬ ∀ calls, Always Stores.step Stores.IndexesInverse Stores.boot calls := by
  intro h
  have hbroken := (h [(100, .write (.setPolicy ⟨.done, .failed⟩ "com.admin" "wifi" "on" "on"))]).2 100
  have : (none : Option String) = some "on" := hbroken.inverse "com.admin" "wifi"
  contradiction

end Edm
