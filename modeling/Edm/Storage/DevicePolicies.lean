import Edm.Library.Table
import Edm.Library.UnorderedMap

/-! The two policy tables of the relational store, and the statements that the policy managers run
on them.  No column is unique.  `Insert` adds a row; `Update` and `Delete` act on every matching row
and succeed when there is none. -/

set_option autoImplicit false

namespace Edm

open Library Library.UnorderedMap

/-- What becomes of one call into the relational store: `GetInstance` returns null, the statement
fails and leaves the tables unchanged, or it takes effect. -/
inductive RdbOutcome where
  | unavailable
  | failed
  | done
  deriving DecidableEq, Repr

/-- A row of `device_admin_policies`. -/
structure AdminPolicyRow where
  userId : Int
  adminName : String
  policyName : String
  policyValue : String
  deriving DecidableEq, Repr

/-- A row of `device_combined_policies`. -/
structure CombinedPolicyRow where
  userId : Int
  policyName : String
  policyValue : String
  deriving DecidableEq, Repr

/-- The policy tables. -/
structure PolicyTables where
  adminRows : Table AdminPolicyRow
  combinedRows : Table CombinedPolicyRow
  deriving DecidableEq, Repr

/-- `std::unordered_map<std::string, std::string>`, as `PolicyItemsMap` and `AdminValueItemsMap`. -/
abbrev ItemsMap := UnorderedMap String String

/-- A map from admins to their policies, or from policies to their admins. -/
abbrev IndexMap := UnorderedMap String ItemsMap

/-- The columns that select the rows of one admin's policy. -/
def AdminPolicyRow.key (row : AdminPolicyRow) : Int × String × String :=
  (row.userId, row.adminName, row.policyName)

/-- The columns that select the rows of one combined policy. -/
def CombinedPolicyRow.key (row : CombinedPolicyRow) : Int × String := (row.userId, row.policyName)

namespace PolicyTables

/-- The tables of a device without policies. -/
def empty : PolicyTables := ⟨Table.empty, Table.empty⟩

def insertAdminPolicy (t : PolicyTables) (userId : Int)
    (adminName policyName policyValue : String) : PolicyTables :=
  { t with adminRows := t.adminRows.insert ⟨userId, adminName, policyName, policyValue⟩ }

def updateAdminPolicy (t : PolicyTables) (userId : Int)
    (adminName policyName policyValue : String) : PolicyTables :=
  { t with
    adminRows := t.adminRows.update (fun row => row.key = (userId, adminName, policyName))
      fun row => { row with policyValue := policyValue } }

/-- Renames the admin of every row of `adminName`. -/
def replaceAdminPolicy (t : PolicyTables) (userId : Int) (adminName newAdminName : String) :
    PolicyTables :=
  { t with
    adminRows := t.adminRows.update
      (fun row => row.userId = userId ∧ row.adminName = adminName)
      fun row => { row with adminName := newAdminName } }

def deleteAdminPolicy (t : PolicyTables) (userId : Int) (adminName policyName : String) :
    PolicyTables :=
  { t with
    adminRows := t.adminRows.delete fun row => row.key = (userId, adminName, policyName) }

def insertCombinedPolicy (t : PolicyTables) (userId : Int) (policyName policyValue : String) :
    PolicyTables :=
  { t with combinedRows := t.combinedRows.insert ⟨userId, policyName, policyValue⟩ }

def updateCombinedPolicy (t : PolicyTables) (userId : Int) (policyName policyValue : String) :
    PolicyTables :=
  { t with
    combinedRows := t.combinedRows.update (fun row => row.key = (userId, policyName))
      fun row => { row with policyValue := policyValue } }

def deleteCombinedPolicy (t : PolicyTables) (userId : Int) (policyName : String) : PolicyTables :=
  { t with combinedRows := t.combinedRows.delete fun row => row.key = (userId, policyName) }

end PolicyTables

/-! ### Queries -/

def praseAdminPolicies (adminName policyName policyValue : String) (adminPolicies : IndexMap) :
    IndexMap :=
  putNew₂ adminPolicies adminName policyName policyValue

def prasePolicyAdmins (adminName policyName policyValue : String) (policyAdmins : IndexMap) :
    IndexMap :=
  putNew₂ policyAdmins policyName adminName policyValue

/-- Adds the user's rows to the two indexes, in row order. -/
def queryAdminPolicy (t : PolicyTables) (userId : Int) (indexes : IndexMap × IndexMap) :
    IndexMap × IndexMap :=
  (t.adminRows.select fun row => row.userId = userId).foldl
    (fun (adminPolicies, policyAdmins) row =>
      (praseAdminPolicies row.adminName row.policyName row.policyValue adminPolicies,
        prasePolicyAdmins row.adminName row.policyName row.policyValue policyAdmins))
    indexes

/-- Adds the user's rows to the combined policies, in row order. -/
def queryCombinedPolicy (t : PolicyTables) (userId : Int) (items : ItemsMap) : ItemsMap :=
  (t.combinedRows.select fun row => row.userId = userId).foldl
    (fun items row => insertNew items row.policyName row.policyValue) items

/-! ### What the queries find -/

namespace PolicyTables

/-- The value of the first row of an admin's policy. -/
def adminValue (t : PolicyTables) (userId : Int) (adminName policyName : String) : Option String :=
  t.adminRows.value AdminPolicyRow.key AdminPolicyRow.policyValue (userId, adminName, policyName)

/-- The value of the first row of a combined policy. -/
def combinedValue (t : PolicyTables) (userId : Int) (policyName : String) : Option String :=
  t.combinedRows.value CombinedPolicyRow.key CombinedPolicyRow.policyValue (userId, policyName)

end PolicyTables

section Query

variable (t : PolicyTables) (userId : Int)

theorem adminValue_eq_find? (a p : String) :
    t.adminValue userId a p =
      ((t.adminRows.select fun row => row.userId = userId).find?
        fun row => row.adminName = a ∧ row.policyName = p).map AdminPolicyRow.policyValue := by
  unfold PolicyTables.adminValue Table.value Table.select
  rw [List.find?_filter]
  congr 2
  funext row
  simp [AdminPolicyRow.key, Bool.decide_and]

theorem combinedValue_eq_find? (p : String) :
    t.combinedValue userId p =
      ((t.combinedRows.select fun row => row.userId = userId).find?
        fun row => row.policyName = p).map CombinedPolicyRow.policyValue := by
  unfold PolicyTables.combinedValue Table.value Table.select
  rw [List.find?_filter]
  congr 2
  funext row
  simp [CombinedPolicyRow.key, Bool.decide_and]

theorem lookup₂_queryAdminPolicy (indexes : IndexMap × IndexMap) (a p : String) :
    lookup₂ (queryAdminPolicy t userId indexes).1 a p =
        (lookup₂ indexes.1 a p).or (t.adminValue userId a p) ∧
      lookup₂ (queryAdminPolicy t userId indexes).2 p a =
        (lookup₂ indexes.2 p a).or (t.adminValue userId a p) := by
  rw [adminValue_eq_find?, queryAdminPolicy]
  induction t.adminRows.select (fun row => row.userId = userId) generalizing indexes with
  | nil => simp
  | cons row rows ih =>
    obtain ⟨h₁, h₂⟩ := ih (praseAdminPolicies row.adminName row.policyName row.policyValue indexes.1,
      prasePolicyAdmins row.adminName row.policyName row.policyValue indexes.2)
    rw [List.foldl_cons, h₁, h₂]
    simp only [praseAdminPolicies, prasePolicyAdmins, lookup₂_putNew₂, List.find?_cons]
    by_cases h : row.adminName = a ∧ row.policyName = p
    · obtain ⟨rfl, rfl⟩ := h
      simp
    · have h' : ¬(a = row.adminName ∧ p = row.policyName) := fun heq =>
        h ⟨heq.1.symm, heq.2.symm⟩
      have h'' : ¬(p = row.policyName ∧ a = row.adminName) := fun heq => h' heq.symm
      simp [h, h', h'']

theorem tidy_queryAdminPolicy (indexes : IndexMap × IndexMap) (h₁ : Tidy indexes.1)
    (h₂ : Tidy indexes.2) :
    Tidy (queryAdminPolicy t userId indexes).1 ∧ Tidy (queryAdminPolicy t userId indexes).2 := by
  rw [queryAdminPolicy]
  induction t.adminRows.select (fun row => row.userId = userId) generalizing indexes with
  | nil => exact ⟨h₁, h₂⟩
  | cons row rows ih => exact ih (_, _) (tidy_putNew₂ h₁ _ _ _) (tidy_putNew₂ h₂ _ _ _)

theorem lookup_queryCombinedPolicy (items : ItemsMap) (p : String) :
    (queryCombinedPolicy t userId items).lookup p =
      (items.lookup p).or (t.combinedValue userId p) := by
  rw [combinedValue_eq_find?, queryCombinedPolicy]
  induction t.combinedRows.select (fun row => row.userId = userId) generalizing items with
  | nil => simp
  | cons row rows ih =>
    rw [List.foldl_cons, ih, lookup_insertNew, List.find?_cons]
    by_cases h : row.policyName = p
    · simp [h]
    · simp [h, Ne.symm h]

end Query

/-! ### Replacing an admin -/

namespace PolicyTables

variable (t : PolicyTables)

/-- The value of the first row of a policy that belongs to one of two admins. -/
def mergedValue (userId : Int) (adminName newAdminName policyName : String) : Option String :=
  (t.adminRows.rows.find? fun row => row.userId = userId ∧
    (row.adminName = adminName ∨ row.adminName = newAdminName) ∧ row.policyName = policyName).map
    AdminPolicyRow.policyValue

theorem mergedValue_self (u : Int) (a p : String) : t.mergedValue u a a p = t.adminValue u a p := by
  simp [mergedValue, adminValue, Table.value, AdminPolicyRow.key]

theorem mergedValue_of_absent {u : Int} {a n p : String} (h : ∀ p, t.adminValue u a p = none) :
    t.mergedValue u a n p = t.adminValue u n p := by
  have habsent := (Table.value_eq_none_iff _ _).mp (h p)
  have hrow : ∀ row ∈ t.adminRows.rows,
      decide (row.userId = u ∧ (row.adminName = a ∨ row.adminName = n) ∧ row.policyName = p) =
        decide (row.key = (u, n, p)) := by
    intro row hrow
    have hne := habsent row hrow
    simp only [AdminPolicyRow.key, ne_eq, Prod.mk.injEq] at hne ⊢
    grind
  unfold mergedValue adminValue Table.value
  rw [List.find?_congr hrow]

theorem adminValue_of_merged_none {u : Int} {a n p : String} (h : t.mergedValue u a n p = none) :
    t.adminValue u n p = none := by
  rw [mergedValue, Option.map_eq_none_iff, List.find?_eq_none] at h
  refine (Table.value_eq_none_iff _ _).mpr fun row hrow hkey => h row hrow ?_
  simp only [AdminPolicyRow.key, Prod.mk.injEq] at hkey
  simp [hkey]

/-- Where `replaceAdminPolicy` moves the key of a row. -/
def replacedKey (userId : Int) (a n : String) (k : Int × String × String) :
    Int × String × String :=
  if k.1 = userId ∧ k.2.1 = a then (k.1, n, k.2.2) else k

theorem replacedKey_eq_iff (u userId : Int) (a n x q : String) (row : AdminPolicyRow) :
    replacedKey userId a n row.key = (u, x, q) ↔
      if u = userId ∧ x = n then
        row.userId = userId ∧ (row.adminName = a ∨ row.adminName = n) ∧ row.policyName = q
      else ¬(u = userId ∧ x = a) ∧ row.key = (u, x, q) := by
  unfold replacedKey AdminPolicyRow.key
  grind

/-- The new admin's rows are those of both admins, and the old admin has none. -/
theorem adminValue_replace (u userId : Int) (a n x q : String) :
    (t.replaceAdminPolicy userId a n).adminValue u x q =
      if u = userId ∧ x = n then t.mergedValue userId a n q
      else if u = userId ∧ x = a then none
      else t.adminValue u x q := by
  have hrekey := Table.value_rekey AdminPolicyRow.key AdminPolicyRow.policyValue t.adminRows
    (fun row => row.userId = userId ∧ row.adminName = a)
    (fun row => { row with adminName := n }) (replacedKey userId a n)
    (fun row => by
      by_cases h : row.userId = userId ∧ row.adminName = a <;>
        simp [AdminPolicyRow.key, replacedKey, h])
    (fun _ => rfl) (u, x, q)
  refine hrekey.trans ?_
  simp only [replacedKey_eq_iff]
  split
  · rfl
  · split
    · rename_i h
      simp [h]
    · rename_i h
      simp only [h, not_false_eq_true, true_and]
      rfl

end PolicyTables

end Edm
