import Edm.Plugin.DisabledNetworkInterfacePlugin
import Edm.Plugin.DisallowAddOsAccountByUserPlugin

/-! The policies on maps of strings together: forbidden network interfaces, and accounts that may not
add accounts. -/

set_option autoImplicit false

namespace Edm

open Library

namespace MapStringPlugins

open MapStringSerializer MapStringPolicy

/-- In runs whose operations all keep the unions, the combined maps and the restrictions follow the
admins' maps throughout, in whichever order maps are visited. -/
theorem always_followUnions (C : CJson) (order : HashOrder) (strToInt : String → Option Int32)
    (userId : Int) (networkOps : List DisabledNetworkInterfacePlugin.Op)
    (accountOps : List DisallowAddOsAccountByUserPlugin.Op)
    (hnetwork : Each (policyStep (DisabledNetworkInterfacePlugin.plugin C order))
      (DisabledNetworkInterfacePlugin.Keeps C) (DisabledNetworkInterfacePlugin.boot userId)
      networkOps)
    (haccount : Each (policyStep (DisallowAddOsAccountByUserPlugin.plugin C order strToInt))
      (DisallowAddOsAccountByUserPlugin.Keeps C strToInt)
      (DisallowAddOsAccountByUserPlugin.boot userId) accountOps) :
    (Always (policyStep (DisabledNetworkInterfacePlugin.plugin C order))
        (DisabledNetworkInterfacePlugin.FollowsUnion C)
        (DisabledNetworkInterfacePlugin.boot userId) networkOps ∧
      Each (policyStep (DisabledNetworkInterfacePlugin.plugin C order))
        (DisabledNetworkInterfacePlugin.OrderFree C order)
        (DisabledNetworkInterfacePlugin.boot userId) networkOps) ∧
      Always (policyStep (DisallowAddOsAccountByUserPlugin.plugin C order strToInt))
        (DisallowAddOsAccountByUserPlugin.FollowsUnion C strToInt)
        (DisallowAddOsAccountByUserPlugin.boot userId) accountOps ∧
      Each (policyStep (DisallowAddOsAccountByUserPlugin.plugin C order strToInt))
        (DisallowAddOsAccountByUserPlugin.OrderFree C order strToInt)
        (DisallowAddOsAccountByUserPlugin.boot userId) accountOps :=
  ⟨DisabledNetworkInterfacePlugin.always_followsUnion C order userId networkOps hnetwork,
    DisallowAddOsAccountByUserPlugin.always_followsUnion C order strToInt userId accountOps haccount⟩

namespace LastMap

def parcel (key value : String) : Parcel := ⟨some [key], some [value]⟩

def networkRequest (ifaceName value : String) :
    Request DisabledNetworkInterfacePlugin.Answers :=
  ⟨parcel ifaceName value, ⟨["eth0", "eth1", "eth2"], true⟩⟩

def accountRequest (key value : String) : Request DisallowAddOsAccountByUserPlugin.Answers :=
  ⟨parcel key value, ⟨fun _ => true, true⟩⟩

def strToInt (str : String) : Option Int32 := str.toInt?.map Int32.ofInt

def networkOps : List DisabledNetworkInterfacePlugin.Op :=
  [.update firstAdmin ⟨.done, .done⟩ (networkRequest "eth0" "true"),
    .removeAdmin firstAdmin ⟨.done, .done⟩ fun _ => true]

def accountOps : List DisallowAddOsAccountByUserPlugin.Op :=
  [.update firstAdmin ⟨.done, .done⟩ (accountRequest "100" "true")]

/-- An admin forbids an interface and is removed, and an admin restricts an account. -/
theorem always_followUnions_alone :
    (Always (policyStep (DisabledNetworkInterfacePlugin.plugin .standard .evaluated))
        (DisabledNetworkInterfacePlugin.FollowsUnion .standard)
        (DisabledNetworkInterfacePlugin.boot 100) networkOps ∧
      Each (policyStep (DisabledNetworkInterfacePlugin.plugin .standard .evaluated))
        (DisabledNetworkInterfacePlugin.OrderFree .standard .evaluated)
        (DisabledNetworkInterfacePlugin.boot 100) networkOps) ∧
      Always (policyStep (DisallowAddOsAccountByUserPlugin.plugin .standard .evaluated strToInt))
        (DisallowAddOsAccountByUserPlugin.FollowsUnion .standard strToInt)
        (DisallowAddOsAccountByUserPlugin.boot 100) accountOps ∧
      Each (policyStep (DisallowAddOsAccountByUserPlugin.plugin .standard .evaluated strToInt))
        (DisallowAddOsAccountByUserPlugin.OrderFree .standard .evaluated strToInt)
        (DisallowAddOsAccountByUserPlugin.boot 100) accountOps := by
  have hnetwork : ∀ pre, pre <+: networkOps →
      heldByOthers (DisabledNetworkInterfacePlugin.listed .standard
        (run (policyStep (DisabledNetworkInterfacePlugin.plugin .standard .evaluated))
          (DisabledNetworkInterfacePlugin.boot 100) pre)) firstAdmin = ∅ := by
    intro pre hpre
    refine heldByOthers_alone (DisabledNetworkInterfacePlugin.plugin .standard .evaluated)
      DisabledNetworkInterfacePlugin.policyName_ne keysOf_empty _ 100 pre fun op hop => ?_
    rcases List.mem_pair.mp (hpre.subset hop) with rfl | rfl <;> rfl
  have haccount : heldByOthers (DisallowAddOsAccountByUserPlugin.listed .standard
      (DisallowAddOsAccountByUserPlugin.boot 100)) firstAdmin = ∅ :=
    heldByOthers_alone (DisallowAddOsAccountByUserPlugin.plugin .standard .evaluated strToInt)
      DisallowAddOsAccountByUserPlugin.policyName_ne keysOf_empty _ 100 [] fun op hop =>
        absurd hop List.not_mem_nil
  refine always_followUnions .standard .evaluated strToInt 100 networkOps accountOps
    ⟨⟨rfl, fun item rest _ _ _ => .inr fun k hk => ?_⟩,
      ⟨rfl, .inr ⟨fun k hk => ?_, fun _ _ _ => rfl⟩⟩, trivial⟩
    ⟨⟨rfl, fun hparcel => ?_, fun item rest accountId hparcel _ _ _ =>
      ⟨.inr fun k hk => ?_, fun hne => ?_⟩⟩, trivial⟩
  · have hnone := hnetwork [] List.nil_prefix
    exact absurd (hnone ▸ hk) (Set.notMem_empty k)
  · have hnone := hnetwork networkOps.dropLast (List.dropLast_prefix networkOps)
    exact absurd (hnone ▸ hk) (Set.notMem_empty k)
  · cases hparcel
  · exact absurd (haccount ▸ hk) (Set.notMem_empty k)
  · obtain rfl : ("100", "true") = item := (List.cons.inj (Option.some.inj hparcel)).1
    exact absurd rfl hne

theorem third_ne : "com.third" ≠ "" := by decide

def thirdAdmin : AdminName := ⟨"com.third", third_ne⟩

/-- Three admins forbid an interface each. -/
def ops : List DisabledNetworkInterfacePlugin.Op :=
  [.update firstAdmin ⟨.done, .done⟩ (networkRequest "eth0" "true"),
    .update secondAdmin ⟨.done, .done⟩ (networkRequest "eth1" "true"),
    .update thirdAdmin ⟨.done, .done⟩ (networkRequest "eth2" "true")]

abbrev final : PluginState DisabledNetworkInterfacePlugin.Rules :=
  run (policyStep (DisabledNetworkInterfacePlugin.plugin .standard .evaluated))
    (DisabledNetworkInterfacePlugin.boot 100) ops

theorem listed_first :
    "eth0" ∈ DisabledNetworkInterfacePlugin.listed .standard final firstAdmin := by
  show "eth0" ∈ ((deserialize .standard _).getD []).map Prod.fst
  decide +kernel

/-- The first admin's interface is not in the combined map. -/
theorem first_not_combined :
    ¬ ∀ (C : CJson) (order : HashOrder) (strToInt : String → Option Int32) (userId : Int)
      (networkOps : List DisabledNetworkInterfacePlugin.Op)
      (accountOps : List DisallowAddOsAccountByUserPlugin.Op),
      (Always (policyStep (DisabledNetworkInterfacePlugin.plugin C order))
          (DisabledNetworkInterfacePlugin.FollowsUnion C)
          (DisabledNetworkInterfacePlugin.boot userId) networkOps ∧
        Each (policyStep (DisabledNetworkInterfacePlugin.plugin C order))
          (DisabledNetworkInterfacePlugin.OrderFree C order)
          (DisabledNetworkInterfacePlugin.boot userId) networkOps) ∧
        Always (policyStep (DisallowAddOsAccountByUserPlugin.plugin C order strToInt))
          (DisallowAddOsAccountByUserPlugin.FollowsUnion C strToInt)
          (DisallowAddOsAccountByUserPlugin.boot userId) accountOps ∧
        Each (policyStep (DisallowAddOsAccountByUserPlugin.plugin C order strToInt))
          (DisallowAddOsAccountByUserPlugin.OrderFree C order strToInt)
          (DisallowAddOsAccountByUserPlugin.boot userId) accountOps := by
  intro h
  have hlast : DisabledNetworkInterfacePlugin.FollowsUnion .standard final :=
    always_iff_prefix.mp (h .standard .evaluated strToInt 100 ops []).1.1 ops List.prefix_rfl
  have hcombined : "eth0" ∉ ((deserialize .standard (final.store.manager.policyValue ""
      POLICY_DISABLED_NETWORK_INTERFACE)).getD []).map Prod.fst := by decide +kernel
  have hheld : "eth0" ∈ held (DisabledNetworkInterfacePlugin.listed .standard final) :=
    ⟨firstAdmin, listed_first⟩
  rw [← hlast.combined] at hheld
  exact hcombined hheld

end LastMap

end MapStringPlugins

end Edm
