import Edm.Library.Run
import Edm.Network.DefaultDeny

/-! Default rules over runs of requests.  A chain that denies by default has its rules exactly while
there is a rule that allows something, as long as every request keeps the two in step. -/

set_option autoImplicit false

namespace Edm.IPTABLES

open Library

/-! ### Requests -/

/-- A manager before its first request. -/
def IptablesManager.new : IptablesManager := ⟨fun _ => [], fun _ => false⟩

section Steps

variable {host : Host} {outcomes : Outcomes} {m : IptablesManager} {deny : DefaultDeny}
  {family : Family} {direction : Direction}

/-! ### Requests that are accepted -/

theorem AddKeeps.congr {sets sets' : DefaultDeny → Prop} {c : ChainName} {rule : ChainRule}
    (h : ∀ deny : DefaultDeny, c ∈ deny.allowChains → (sets deny ↔ sets' deny)) :
    AddKeeps outcomes family sets m c rule ↔ AddKeeps outcomes family sets' m c rule := by
  refine forall_congr' fun deny => imp_congr_right fun hc => ?_
  simp only [h deny hc]

/-! ### Steps -/

end Steps

/-! ### Runs -/

end Edm.IPTABLES
