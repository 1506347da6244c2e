import Edm.Admin.Population

/-! The populations that the service keeps: who can be an admin of which user, no package twice with a
user, and at most one super admin that is not a debug admin. -/

set_option autoImplicit false

namespace Edm

/-- The types that the default user alone has are those of super admins and device admins. -/
def AdminId.isCounted (admin : AdminId) : Bool :=
  admin.adminType == .ent || admin.adminType == .normal

/-- A super admin that is not a debug admin. -/
def AdminId.IsOfficial (admin : AdminId) : Prop := admin.adminType = .ent ∧ admin.isDebug = false

namespace Population

/-- `limit` is the number of super admins and device admins that there may be. -/
structure Orderly (limit : Nat) (p : Population) : Prop where
  known : p.Known
  home : ∀ u admin, admin ∈ p u → u ≠ DEFAULT_USER_ID →
    admin.adminType = .byod ∨ admin.adminType = .virtualAdmin
  distinct : ∀ u, ((p u).map AdminId.packageName).Nodup
  apart : ∀ admin other, admin ∈ p DEFAULT_USER_ID → other ∈ p DEFAULT_USER_ID →
    admin.adminType = .ent → other.adminType = .ent → admin.isDebug = other.isDebug
  single : ∀ admin other, admin ∈ p DEFAULT_USER_ID → other ∈ p DEFAULT_USER_ID →
    admin.IsOfficial → other.IsOfficial → admin.packageName = other.packageName
  counted : (p DEFAULT_USER_ID).countP AdminId.isCounted ≤ limit

/-- The packages that act across accounts belong to the default user alone. -/
def Apart (p : Population) : Prop :=
  ∀ admin other u, u ≠ DEFAULT_USER_ID → admin ∈ p DEFAULT_USER_ID →
    admin.adminType.isAllowedAcrossAccountSetPolicy = true → other ∈ p u →
    other.packageName ≠ admin.packageName

/-- An admin that can be added. -/
structure Insertable (limit : Nat) (p : Population) (u : Int) (admin : AdminId) : Prop where
  known : admin.adminType ≠ .unknown
  home : u ≠ DEFAULT_USER_ID → admin.adminType = .byod ∨ admin.adminType = .virtualAdmin
  absent : ∀ other, other ∈ p.visible u → other.packageName ≠ admin.packageName
  apart : ∀ other, other ∈ p DEFAULT_USER_ID → admin.adminType = .ent → other.adminType = .ent →
    other.isDebug = admin.isDebug
  single : ∀ other, other ∈ p DEFAULT_USER_ID → admin.IsOfficial → ¬other.IsOfficial
  counted : admin.isCounted = true → (p DEFAULT_USER_ID).countP AdminId.isCounted < limit

variable {limit : Nat} {p : Population}

/-- Two admins of a user with the same package are one. -/
theorem Orderly.eq_of_packageName (h : p.Orderly limit) {u : Int} {admin other : AdminId}
    (hadmin : admin ∈ p u) (hother : other ∈ p u) (hname : admin.packageName = other.packageName) :
    admin = other := List.inj_on_of_nodup_map (h.distinct u) hadmin hother hname

theorem orderly_empty (limit : Nat) : Orderly limit fun _ => [] where
  known _ _ h := nomatch h
  home _ _ h := nomatch h
  distinct _ := List.nodup_nil
  apart _ _ h := nomatch h
  single _ _ h := nomatch h
  counted := Nat.zero_le limit

theorem Orderly.insert (h : p.Orderly limit) {u : Int} {admin : AdminId}
    (hadmin : p.Insertable limit u admin) : (p.insert u admin).Orderly limit where
  known := h.known.insert hadmin.known
  home v other hother hv := by
    rcases mem_insert.mp hother with hold | ⟨rfl, rfl⟩
    · exact h.home v other hold hv
    · exact hadmin.home hv
  distinct v := by
    unfold Population.insert
    by_cases hv : v = u
    · subst hv
      rw [Function.update_self, List.map_append, List.nodup_append]
      refine ⟨h.distinct v, List.nodup_singleton _, ?_⟩
      rintro name hname name' hname' rfl
      obtain ⟨other, hother, rfl⟩ := List.mem_map.mp hname
      exact hadmin.absent other (mem_visible.mpr (.inl hother)) (List.mem_singleton.mp hname')
    · rw [Function.update_of_ne hv]
      exact h.distinct v
  apart first second hfirst hsecond hent hent' := by
    rcases mem_insert.mp hfirst with hold | ⟨-, rfl⟩
    · rcases mem_insert.mp hsecond with hold' | ⟨-, rfl⟩
      · exact h.apart first second hold hold' hent hent'
      · exact hadmin.apart first hold hent' hent
    · rcases mem_insert.mp hsecond with hold' | ⟨-, rfl⟩
      · exact (hadmin.apart second hold' hent hent').symm
      · rfl
  single first second hfirst hsecond hofficial hofficial' := by
    rcases mem_insert.mp hfirst with hold | ⟨-, rfl⟩
    · rcases mem_insert.mp hsecond with hold' | ⟨-, rfl⟩
      · exact h.single first second hold hold' hofficial hofficial'
      · exact absurd hofficial (hadmin.single first hold hofficial')
    · rcases mem_insert.mp hsecond with hold' | ⟨-, rfl⟩
      · exact absurd hofficial' (hadmin.single second hold' hofficial)
      · rfl
  counted := by
    unfold Population.insert
    by_cases hu : DEFAULT_USER_ID = u
    · subst hu
      rw [Function.update_self, List.countP_append, List.countP_singleton]
      split <;> rename_i hcounted
      · exact hadmin.counted hcounted
      · exact h.counted
    · rw [Function.update_of_ne hu]
      exact h.counted

theorem Orderly.remove (h : p.Orderly limit) (packageName : String) (u : Int) :
    (p.remove packageName u).Orderly limit where
  known := h.known.remove packageName u
  home v admin hadmin := h.home v admin (mem_remove.mp hadmin).1
  distinct v := by
    unfold Population.remove
    by_cases hv : v = u
    · subst hv
      rw [Function.update_self]
      exact (h.distinct v).sublist (List.filter_sublist.map _)
    · rw [Function.update_of_ne hv]
      exact h.distinct v
  apart first second hfirst hsecond :=
    h.apart first second (mem_remove.mp hfirst).1 (mem_remove.mp hsecond).1
  single first second hfirst hsecond :=
    h.single first second (mem_remove.mp hfirst).1 (mem_remove.mp hsecond).1
  counted := by
    unfold Population.remove
    by_cases hu : DEFAULT_USER_ID = u
    · subst hu
      rw [Function.update_self]
      exact (List.filter_sublist.countP_le).trans h.counted
    · rw [Function.update_of_ne hu]
      exact h.counted

/-- A package gets a name that the default user does not know. -/
theorem Orderly.rename (h : p.Orderly limit) {packageName newName : String}
    (hnew : newName = packageName ∨
      ∀ admin, admin ∈ p DEFAULT_USER_ID → admin.packageName ≠ newName) :
    (p.rename packageName newName).Orderly limit := by
  have hback : ∀ admin, admin ∈ p.rename packageName newName DEFAULT_USER_ID →
      ∃ old, old ∈ p DEFAULT_USER_ID ∧ renamed packageName newName old = admin :=
    fun admin hadmin => mem_rename_default.mp hadmin
  have hinj : ∀ first second, first ∈ p DEFAULT_USER_ID → second ∈ p DEFAULT_USER_ID →
      (renamed packageName newName first).packageName =
        (renamed packageName newName second).packageName →
      first.packageName = second.packageName := by
    intro first second hfirst hsecond heq
    unfold renamed at heq
    by_cases hf : first.packageName = packageName
    · by_cases hs : second.packageName = packageName
      · rw [hf, hs]
      · rw [if_pos hf, if_neg hs] at heq
        rcases hnew with rfl | hnew
        · exact hf.trans heq
        · exact absurd heq.symm (hnew second hsecond)
    · by_cases hs : second.packageName = packageName
      · rw [if_neg hf, if_pos hs] at heq
        rcases hnew with rfl | hnew
        · exact heq.trans hs.symm
        · exact absurd heq (hnew first hfirst)
      · rw [if_neg hf, if_neg hs] at heq
        exact heq
  exact {
    known := fun u admin hadmin => by
      by_cases hu : u = DEFAULT_USER_ID
      · subst hu
        obtain ⟨old, hold, rfl⟩ := hback admin hadmin
        rw [renamed_adminType]
        exact h.known _ old hold
      · exact h.known u admin ((mem_rename_of_ne hu).mp hadmin)
    home := fun u admin hadmin hu => h.home u admin ((mem_rename_of_ne hu).mp hadmin) hu
    distinct := fun u => by
      by_cases hu : u = DEFAULT_USER_ID
      · subst hu
        rw [Population.rename, Function.update_self, List.map_map]
        have hnames := h.distinct DEFAULT_USER_ID
        refine List.Nodup.map_on ?_ hnames.of_map
        intro first hfirst second hsecond heq
        exact h.eq_of_packageName hfirst hsecond (hinj first second hfirst hsecond heq)
      · rw [Population.rename, Function.update_of_ne hu]
        exact h.distinct u
    apart := fun first second hfirst hsecond hent hent' => by
      obtain ⟨old, hold, rfl⟩ := hback first hfirst
      obtain ⟨old', hold', rfl⟩ := hback second hsecond
      rw [renamed_adminType] at hent hent'
      rw [renamed_isDebug, renamed_isDebug]
      exact h.apart old old' hold hold' hent hent'
    single := fun first second hfirst hsecond hofficial hofficial' => by
      obtain ⟨old, hold, rfl⟩ := hback first hfirst
      obtain ⟨old', hold', rfl⟩ := hback second hsecond
      unfold AdminId.IsOfficial at hofficial hofficial'
      rw [renamed_adminType, renamed_isDebug] at hofficial hofficial'
      have hsame := h.eq_of_packageName hold hold' (h.single old old' hold hold' hofficial hofficial')
      rw [hsame]
    counted := by
      rw [Population.rename, Function.update_self, List.countP_map]
      refine le_of_eq_of_le (List.countP_congr fun admin _ => ?_) h.counted
      unfold AdminId.isCounted
      rw [Function.comp_apply, renamed_adminType] }

/-! ### Packages that act across accounts -/

theorem apart_empty : Apart fun _ => [] := fun _ _ _ _ h => nomatch h

theorem Apart.insert (h : p.Apart) {u : Int} {admin : AdminId}
    (hvisible : ∀ other, other ∈ p.visible u → other.packageName ≠ admin.packageName)
    (halone : u = DEFAULT_USER_ID → admin.adminType.isAllowedAcrossAccountSetPolicy = true →
      ∀ v other, v ≠ DEFAULT_USER_ID → other ∈ p v → other.packageName ≠ admin.packageName) :
    (p.insert u admin).Apart := by
  intro first second v hv hfirst hacross hsecond
  rcases mem_insert.mp hfirst with hold | ⟨hu, rfl⟩
  · rcases mem_insert.mp hsecond with hold' | ⟨rfl, rfl⟩
    · exact h first second v hv hold hacross hold'
    · exact (hvisible first (mem_visible.mpr (.inr ⟨hold, hacross⟩))).symm
  · rcases mem_insert.mp hsecond with hold' | ⟨rfl, -⟩
    · exact halone hu.symm hacross v second hv hold'
    · exact absurd hu.symm hv

theorem Apart.remove (h : p.Apart) (packageName : String) (u : Int) :
    (p.remove packageName u).Apart :=
  fun first second v hv hfirst hacross hsecond =>
    h first second v hv (mem_remove.mp hfirst).1 hacross (mem_remove.mp hsecond).1

theorem Apart.rename (h : p.Apart) {packageName newName : String}
    (hnew : ∀ v other, v ≠ DEFAULT_USER_ID → other ∈ p v → other.packageName ≠ newName) :
    (p.rename packageName newName).Apart := by
  intro first second v hv hfirst hacross hsecond
  obtain ⟨old, hold, rfl⟩ := mem_rename_default.mp hfirst
  have hsecond := (mem_rename_of_ne hv).mp hsecond
  rw [renamed_adminType] at hacross
  unfold renamed
  split
  · exact hnew v second hv hsecond
  · exact h old second v hv hold hacross hsecond

/-! ### Moves of a population -/

/-- What removals leave. -/
inductive Removed (p : Population) : Population → Prop
  | refl : Removed p p
  | remove {q : Population} (h : Removed p q) (packageName : String) (u : Int) :
      Removed p (q.remove packageName u)

theorem Removed.mem {q : Population} (h : Removed p q) {u : Int} {admin : AdminId}
    (hadmin : admin ∈ q u) : admin ∈ p u := by
  induction h with
  | refl => exact hadmin
  | remove _ packageName v ih => exact ih (mem_remove.mp hadmin).1

theorem Removed.mem_visible {q : Population} (h : Removed p q) {u : Int} {admin : AdminId}
    (hadmin : admin ∈ q.visible u) : admin ∈ p.visible u := by
  rw [Population.mem_visible] at hadmin ⊢
  exact hadmin.imp h.mem fun hx => ⟨h.mem hx.1, hx.2⟩

theorem Removed.orderly {q : Population} (h : Removed p q) (hp : p.Orderly limit) :
    q.Orderly limit := by
  induction h with
  | refl => exact hp
  | remove _ packageName u ih => exact ih.remove packageName u

theorem Removed.apart {q : Population} (h : Removed p q) (hp : p.Apart) : q.Apart := by
  induction h with
  | refl => exact hp
  | remove _ packageName u ih => exact ih.remove packageName u

/-- No user but the default one has an admin of the package. -/
def Alone (p : Population) (packageName : String) : Prop :=
  ∀ v other, v ≠ DEFAULT_USER_ID → other ∈ p v → other.packageName ≠ packageName

theorem Removed.alone {q : Population} (h : Removed p q) {packageName : String}
    (hp : p.Alone packageName) : q.Alone packageName :=
  fun v other hv hother => hp v other hv (h.mem hother)

/-- What writing an admin makes of a population.  `alone` tells that a package which comes to act
across accounts is with no other user. -/
inductive Grown (limit : Nat) (alone : Prop) (p : Population) : Population → Prop
  | same : Grown limit alone p p
  | inserted {u : Int} {admin : AdminId} (hadmin : p.Insertable limit u admin)
      (halone : alone → u = DEFAULT_USER_ID →
        admin.adminType.isAllowedAcrossAccountSetPolicy = true → p.Alone admin.packageName) :
      Grown limit alone p (p.insert u admin)

theorem Grown.of_eq {alone : Prop} {q : Population} (h : q = p) : p.Grown limit alone q := by
  subst h
  exact .same

theorem Grown.mem {alone : Prop} {q : Population} (h : p.Grown limit alone q) {u : Int}
    {admin : AdminId} (hadmin : admin ∈ p u) : admin ∈ q u := by
  cases h with
  | same => exact hadmin
  | inserted _ _ => exact mem_insert.mpr (.inl hadmin)

theorem Grown.orderly {alone : Prop} {q : Population} (h : p.Grown limit alone q)
    (hp : p.Orderly limit) : q.Orderly limit := by
  cases h with
  | same => exact hp
  | inserted hadmin _ => exact hp.insert hadmin

theorem Grown.apart {alone : Prop} {q : Population} (h : p.Grown limit alone q) (ha : alone)
    (hp : p.Apart) : q.Apart := by
  cases h with
  | same => exact hp
  | inserted hadmin halone => exact hp.insert hadmin.absent (halone ha)

/-- What one request makes of a population. -/
inductive Move (limit : Nat) (alone : Prop) (p : Population) : Population → Prop
  | grown {q r : Population} (hremoved : p.Removed q) (h : q.Grown limit alone r) :
      Move limit alone p r
  | renamed {packageName newName : String}
      (hnew : newName = packageName ∨
        ∀ admin, admin ∈ p DEFAULT_USER_ID → admin.packageName ≠ newName)
      (halone : alone → newName ≠ packageName → p.Alone newName) :
      Move limit alone p (p.rename packageName newName)

theorem Removed.move {alone : Prop} {q : Population} (h : p.Removed q) : p.Move limit alone q :=
  .grown h .same

theorem Move.same {alone : Prop} {q : Population} (h : q = p) : p.Move limit alone q :=
  .grown .refl (.of_eq h)

theorem rename_self (p : Population) (packageName : String) :
    p.rename packageName packageName = p := by
  unfold Population.rename
  rw [Function.update_eq_self_iff]
  refine (List.map_congr_left fun admin _ => ?_).trans (List.map_id _)
  unfold renamed
  split <;> rename_i hname
  · exact AdminId.ext hname.symm rfl rfl
  · rfl

theorem Move.orderly {alone : Prop} {q : Population} (h : p.Move limit alone q)
    (hp : p.Orderly limit) : q.Orderly limit := by
  cases h with
  | grown hremoved hgrown => exact hgrown.orderly (hremoved.orderly hp)
  | renamed hnew _ => exact hp.rename hnew

theorem Move.apart {alone : Prop} {q : Population} (h : p.Move limit alone q) (ha : alone)
    (hp : p.Apart) : q.Apart := by
  cases h with
  | grown hremoved hgrown => exact hgrown.apart ha (hremoved.apart hp)
  | @renamed packageName newName _ halone =>
    by_cases hname : newName = packageName
    · subst hname
      rw [rename_self]
      exact hp
    · exact hp.rename (halone ha hname)

end Population

end Edm
