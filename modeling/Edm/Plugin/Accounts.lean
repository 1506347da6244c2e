import Edm.Plugin.PolicyRun

/-! A policy of all accounts of the device.  Each account has a store of its own, and the accounts
share the modules. -/

set_option autoImplicit false

namespace Edm

open Library

structure AccountsState (Modules : Type) where
  stores : Int → UserStore
  modules : Modules
  subscribed : Bool

section

variable {Modules Req Reply Event : Type}

/-- What a request of an account sees. -/
def AccountsState.account (s : AccountsState Modules) (userId : Int) : PluginState Modules where
  store := s.stores userId
  modules := s.modules
  subscribed := s.subscribed

/-- Accounts without policies. -/
def AccountsState.boot (modules : Modules) : AccountsState Modules where
  stores userId := ⟨UserPolicyManager.new userId, PolicyTables.empty⟩
  modules := modules
  subscribed := false

/-- An operation on the policy of an account. -/
structure AccountOp (Req Reply : Type) where
  userId : Int
  op : PolicyOp Req Reply

variable (plugin : Int → Plugin Modules Req Reply Event)

/-- The handlers of the plugin get the account. -/
def accountStep (s : AccountsState Modules) (op : AccountOp Req Reply) : AccountsState Modules :=
  let after := policyStep (plugin op.userId) (s.account op.userId) op.op
  { stores := Function.update s.stores op.userId after.store
    modules := after.modules
    subscribed := after.subscribed }

variable {plugin} {s s' : AccountsState Modules} {op : AccountOp Req Reply}

/-- The account of an operation after it. -/
theorem account_accountStep (hs' : accountStep plugin s op = s') :
    s'.account op.userId = policyStep (plugin op.userId) (s.account op.userId) op.op := by
  rw [← hs']
  show PluginState.mk (Function.update s.stores op.userId _ op.userId) _ _ = _
  rw [Function.update_self]
  rfl

/-- The stores of the other accounts stay. -/
theorem stores_accountStep (hs' : accountStep plugin s op = s') {userId : Int}
    (h : userId ≠ op.userId) : s'.stores userId = s.stores userId := by
  rw [← hs']
  exact Function.update_of_ne h _ _

/-- What every store of an account keeps. -/
theorem accountStep_stores {P : UserStore → Prop} (h : ∀ userId, P (s.stores userId))
    (hs' : accountStep plugin s op = s') (hop : P (s'.account op.userId).store) (userId : Int) :
    P (s'.stores userId) := by
  by_cases huser : userId = op.userId
  · rw [huser]
    exact hop
  · rw [stores_accountStep hs' huser]
    exact h userId

end

end Edm
