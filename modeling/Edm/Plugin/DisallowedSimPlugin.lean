import Edm.Admin.Admin
import Edm.Plugin.ItemPolicy
import Edm.Plugin.UIntSerializer

/-! `DisallowedSimPlugin`: SIM slots that are disabled, as the bits of a number, with a system
parameter for each slot.  `BitSerializer::GetInstance` is that of `DelayedSingleton<UIntSerializer>`,
so the policies are merged by `UIntSerializer`. -/

set_option autoImplicit false

namespace Edm

open Library

def POLICY_DISALLOWED_SIM : String := "disallowed_sim"

namespace DisallowedSimPlugin

def SOLT0_ID : UInt32 := 0
def SOLT1_ID : UInt32 := 1
def SOLT0_BIT : UInt32 := 1
def SOLT1_BIT : UInt32 := 2

/-- Whether the disable parameter of a slot is `"true"`. -/
abbrev Parameters := UInt32 → Bool

/-- Whether a parameter can be written, and what the local variables of the template have before they
are assigned. -/
structure Answers where
  setParameter : Bool
  uninitialized : UInt32

structure Request where
  type : FuncOperateType
  slotId : UInt32
  answers : Answers

/-- The card in the slot is deactivated as well. -/
def onSetPolicy (setParameter : Bool) (parameters : Parameters) (data currentData mergeData : UInt32) :
    ErrCode × Parameters × UInt32 × UInt32 :=
  let set (bit : UInt32) : ErrCode × Parameters × UInt32 × UInt32 :=
    let currentData := currentData ||| bit
    if setParameter then
      (ERR_OK, Function.update parameters data true, currentData, mergeData ||| currentData)
    else (EdmReturnErrCode.SYSTEM_ABNORMALLY, parameters, currentData, mergeData)
  if data = SOLT0_ID then set SOLT0_BIT
  else if data = SOLT1_ID then set SOLT1_BIT
  else (EdmReturnErrCode.PARAM_ERROR, parameters, currentData, mergeData)

/-- The parameter is not written when others have the slot, and the removal fails then. -/
def onRemovePolicy (setParameter : Bool) (parameters : Parameters)
    (data currentData mergeData : UInt32) : ErrCode × Parameters × UInt32 × UInt32 :=
  let remove (bit : UInt32) : ErrCode × Parameters × UInt32 × UInt32 :=
    let currentData := currentData &&& ~~~bit
    if mergeData &&& bit = 0 ∧ setParameter = true then
      (ERR_OK, Function.update parameters data false, currentData, mergeData ||| currentData)
    else (EdmReturnErrCode.SYSTEM_ABNORMALLY, parameters, currentData, mergeData)
  if data = SOLT0_ID then remove SOLT0_BIT
  else if data = SOLT1_ID then remove SOLT1_BIT
  else (EdmReturnErrCode.PARAM_ERROR, parameters, currentData, mergeData)

/-- The answers are those for each slot. -/
def onAdminRemove (setParameter : UInt32 → Bool) (parameters : Parameters) (_data mergeData : UInt32) :
    ErrCode × Parameters :=
  let parameters :=
    if mergeData &&& SOLT0_BIT = 0 ∧ setParameter SOLT0_ID = true then
      Function.update parameters SOLT0_ID false
    else parameters
  let parameters :=
    if mergeData &&& SOLT1_BIT = 0 ∧ setParameter SOLT1_ID = true then
      Function.update parameters SOLT1_ID false
    else parameters
  (ERR_OK, parameters)

def onHandlePolicy (parameters : Parameters) (request : Request) (policyData : HandlePolicyData) :
    ErrCode × Parameters × HandlePolicyData :=
  match request.type with
  | .set =>
    IPluginTemplate.handlePolicy (UIntSerializer.serializer request.answers.uninitialized)
      (onSetPolicy request.answers.setParameter) parameters (some request.slotId) policyData
  | .remove =>
    IPluginTemplate.handlePolicy (UIntSerializer.serializer request.answers.uninitialized)
      (onRemovePolicy request.answers.setParameter) parameters (some request.slotId) policyData
  | _ => (ERR_OK, parameters, policyData)

/-- `uninitialized` is what the merged data has before the others' policies are merged into it. -/
def plugin (order : HashOrder) (uninitialized : UserPolicyManager → String → UInt32) :
    Plugin Parameters Request (UInt32 → Bool) Empty where
  policyName := POLICY_DISALLOWED_SIM
  needSave := true
  getOthersMergePolicyData m adminName :=
    IPluginTemplate.getOthersMergePolicyData (UIntSerializer.serializer (uninitialized m adminName))
      order POLICY_DISALLOWED_SIM m adminName
  onHandlePolicy _ := onHandlePolicy
  onAdminRemove parameters setParameter :=
    IPluginTemplate.adminRemove (UIntSerializer.serializer 0) (onAdminRemove setParameter) parameters
  onPluginEvent _ event := nomatch event

abbrev Op := PolicyOp Request (UInt32 → Bool)

/-- A user without policies, and slots that are not disabled. -/
abbrev boot (userId : Int) : PluginState Parameters := PluginState.boot (fun _ => false) userId

section Run

variable (s : PluginState Parameters)

/-- The bits of a number. -/
def bits (n : UInt32) : Set Nat := {i | n.toBitVec.getLsbD i = true}

/-- The bits of the number that a text stands for. -/
def itemsOf (policy : String) : Set Nat := bits ((UIntSerializer.deserialize policy).getD 0)

/-- The bits that an admin stores. -/
abbrev listed (admin : AdminName) : Set Nat := itemsHeld itemsOf POLICY_DISALLOWED_SIM s.store admin

/-- The bits of the combined policy. -/
abbrev combined : Set Nat := itemsOf (s.store.manager.policyValue "" POLICY_DISALLOWED_SIM)

def ValidSlot (slotId : UInt32) : Prop := slotId = SOLT0_ID ∨ slotId = SOLT1_ID

/-- The combined policy has the bits of all admins, and a slot is disabled when its bit is set. -/
structure FollowsUnion : Prop where
  combined : ∀ i, i ∈ combined s ↔ i ∈ held (listed s)
  disabled : ∀ slotId, ValidSlot slotId → (s.modules slotId = true ↔ slotId.toNat ∈ held (listed s))

variable (order : HashOrder) (uninitialized : UserPolicyManager → String → UInt32)

/-- A request for a slot succeeds and changes the bit of the slot. -/
def OpRight : Op → Prop
  | .update admin writes request =>
    ValidSlot request.slotId → request.type = .set ∨ request.type = .remove →
      (PluginManager.updateDevicePolicy (plugin order uninitialized) s writes admin request).1 =
          ERR_OK ∧
        ∀ other, listed (policyStep (plugin order uninitialized) s (.update admin writes request))
            other =
          if other = admin then
            if request.type = .set then listed s admin ∪ {request.slotId.toNat}
            else listed s admin \ {request.slotId.toNat}
          else listed s other
  | .removeAdmin admin writes reply =>
    ∀ other, listed (policyStep (plugin order uninitialized) s (.removeAdmin admin writes reply))
      other = if other = admin then ∅ else listed s other

/-- The others' policies as they are merged. -/
def mergedOthers (admin : AdminName) : Set Nat :=
  itemsOf ((plugin order uninitialized).getOthersMergePolicyData s.store.manager admin)

/-- The merged policy of the others has all bits that others hold, up to those of the admin. -/
def Merges (admin : AdminName) : Prop :=
  ∀ i, i ∈ heldByOthers (listed s) admin → i ∈ mergedOthers s order uninitialized admin ∨
    i ∈ listed s admin

/-- The writes of an operation take effect, and the local variables are zero.  A set of a slot that
the admin does not have merges the others' bits, up to the slot; a slot is removed that no other admin
has, and the removal of a bit merges the others' bits; so does the removal of an admin that has a
value, without the admin's bits. -/
def Keeps : Op → Prop
  | .update admin writes request =>
    writes = ⟨.done, .done⟩ ∧ (ValidSlot request.slotId →
      (request.type = .set → request.answers = ⟨true, 0⟩ ∧
        uninitialized s.store.manager admin = 0 ∧
        (request.slotId.toNat ∉ listed s admin → ∀ i, i ∈ heldByOthers (listed s) admin →
          i ∈ mergedOthers s order uninitialized admin ∨ i ∈ listed s admin ∨
            i = request.slotId.toNat)) ∧
      (request.type = .remove → request.answers = ⟨true, 0⟩ ∧
        uninitialized s.store.manager admin = 0 ∧
        request.slotId.toNat ∉ heldByOthers (listed s) admin ∧
        (request.slotId.toNat ∈ listed s admin ∨
          s.store.manager.policyValue admin POLICY_DISALLOWED_SIM = "" →
            Merges s order uninitialized admin)))
  | .removeAdmin admin writes reply =>
    writes = ⟨.done, .done⟩ ∧
      (s.store.manager.policyValue admin POLICY_DISALLOWED_SIM ≠ "" →
        reply SOLT0_ID = true ∧ reply SOLT1_ID = true ∧ uninitialized s.store.manager admin = 0 ∧
          ∀ i, i ∈ heldByOthers (listed s) admin → i ∈ mergedOthers s order uninitialized admin)

end Run

/-! ### Bits -/

section Bits

variable {a b : UInt32} {i : Nat}

theorem mem_bits : i ∈ bits a ↔ a.toBitVec.getLsbD i = true := Iff.rfl

theorem mem_bits_or : i ∈ bits (a ||| b) ↔ i ∈ bits a ∨ i ∈ bits b := by
  rw [mem_bits, UInt32.toBitVec_or, BitVec.getLsbD_or, Bool.or_eq_true]
  exact Iff.rfl

theorem mem_bits_andNot : i ∈ bits (a &&& ~~~b) ↔ i ∈ bits a ∧ i ∉ bits b := by
  rw [mem_bits, UInt32.toBitVec_and, UInt32.toBitVec_not, BitVec.getLsbD_and, BitVec.getLsbD_not,
    Bool.and_eq_true, Bool.and_eq_true]
  constructor
  · rintro ⟨ha, -, hb⟩
    exact ⟨ha, fun hmem => by rw [mem_bits.mp hmem] at hb; cases hb⟩
  · rintro ⟨ha, hb⟩
    refine ⟨ha, decide_eq_true (BitVec.lt_of_getLsbD ha), ?_⟩
    rw [Bool.not_eq_true']
    exact Bool.eq_false_iff.mpr hb

theorem bits_inj (h : bits a = bits b) : a = b := by
  refine UInt32.toBitVec_inj.mp (BitVec.eq_of_getLsbD_eq fun i _ => ?_)
  exact Bool.eq_iff_iff.mpr (Set.ext_iff.mp h i)

theorem bits_zero : bits 0 = ∅ := by
  refine Set.eq_empty_iff_forall_notMem.mpr fun i hi => ?_
  have hzero : (0#32).getLsbD i = true := hi
  rw [BitVec.getLsbD_zero] at hzero
  cases hzero

/-- The bit of a slot. -/
def slotBit (slotId : UInt32) : UInt32 := if slotId = SOLT0_ID then SOLT0_BIT else SOLT1_BIT

theorem mem_bits_slotBit {slotId : UInt32} (h : ValidSlot slotId) :
    i ∈ bits (slotBit slotId) ↔ i = slotId.toNat := by
  have hpow : ∀ k n : Nat, k < 32 → n = 2 ^ k →
      ((BitVec.ofNat 32 n).getLsbD i = true ↔ i = k) := by
    rintro k n hk rfl
    rw [BitVec.getLsbD_ofNat, Nat.testBit_two_pow, Bool.and_eq_true, decide_eq_true_iff,
      decide_eq_true_iff]
    omega
  rcases h with rfl | rfl
  · exact hpow 0 1 (by decide) rfl
  · exact hpow 1 2 (by decide) rfl

theorem and_slotBit {slotId : UInt32} (h : ValidSlot slotId) :
    a &&& slotBit slotId = 0 ↔ slotId.toNat ∉ bits a := by
  have hmem : ∀ i, i ∈ bits (a &&& slotBit slotId) ↔ i ∈ bits a ∧ i = slotId.toNat := by
    intro i
    rw [mem_bits, UInt32.toBitVec_and, BitVec.getLsbD_and, Bool.and_eq_true]
    exact and_congr_right fun _ => mem_bits_slotBit h
  constructor
  · intro hzero hslot
    have hin := (hmem _).mpr ⟨hslot, rfl⟩
    rw [hzero, bits_zero] at hin
    exact hin
  · intro hslot
    refine bits_inj (Set.ext fun i => ?_)
    rw [hmem, bits_zero]
    exact iff_of_false (fun h => hslot (h.2 ▸ h.1)) (Set.notMem_empty i)

end Bits

/-! ### The handlers -/

section Handlers

variable {parameters : Parameters} {data currentData mergeData : UInt32}

theorem onSetPolicy_valid (h : ValidSlot data) :
    onSetPolicy true parameters data currentData mergeData =
      (ERR_OK, Function.update parameters data true, currentData ||| slotBit data,
        mergeData ||| (currentData ||| slotBit data)) := by
  rcases h with rfl | rfl <;> rfl

theorem onRemovePolicy_valid (h : ValidSlot data) (hothers : mergeData &&& slotBit data = 0) :
    onRemovePolicy true parameters data currentData mergeData =
      (ERR_OK, Function.update parameters data false, currentData &&& ~~~slotBit data,
        mergeData ||| (currentData &&& ~~~slotBit data)) := by
  unfold onRemovePolicy
  rcases h with rfl | rfl
  · have hothers : mergeData &&& SOLT0_BIT = 0 := hothers
    dsimp only
    rw [if_pos rfl, if_pos ⟨hothers, rfl⟩]
    rfl
  · have hothers : mergeData &&& SOLT1_BIT = 0 := hothers
    dsimp only
    rw [if_neg (by decide), if_pos rfl, if_pos ⟨hothers, rfl⟩]
    rfl

theorem policy_invalid (setParameter : Bool) (h : ¬ ValidSlot data) :
    onSetPolicy setParameter parameters data currentData mergeData =
        (EdmReturnErrCode.PARAM_ERROR, parameters, currentData, mergeData) ∧
      onRemovePolicy setParameter parameters data currentData mergeData =
        (EdmReturnErrCode.PARAM_ERROR, parameters, currentData, mergeData) := by
  obtain ⟨hzero, hone⟩ := not_or.mp h
  unfold onSetPolicy onRemovePolicy
  dsimp only
  rw [if_neg hzero, if_neg hone, if_neg hzero, if_neg hone]
  exact ⟨rfl, rfl⟩

theorem onAdminRemove_valid {reply : UInt32 → Bool} (hzero : reply SOLT0_ID = true)
    (hone : reply SOLT1_ID = true) {slotId : UInt32} (h : ValidSlot slotId) :
    (onAdminRemove reply parameters currentData mergeData).2 slotId = true ↔
      slotId.toNat ∈ bits mergeData ∧ parameters slotId = true := by
  have hne : SOLT0_ID ≠ SOLT1_ID := by decide
  have hbit : mergeData &&& slotBit slotId = 0 ↔ slotId.toNat ∉ bits mergeData := and_slotBit h
  have hclear : (onAdminRemove reply parameters currentData mergeData).2 slotId =
      if mergeData &&& slotBit slotId = 0 then false else parameters slotId := by
    unfold onAdminRemove
    dsimp only
    simp only [hzero, hone, and_true]
    rcases h with rfl | rfl
    · have hskip : ∀ p : Parameters, (if mergeData &&& SOLT1_BIT = 0 then
          Function.update p SOLT1_ID false else p) SOLT0_ID = p SOLT0_ID := by
        intro p
        split
        · exact Function.update_of_ne hne _ _
        · rfl
      rw [hskip, apply_ite (fun p : Parameters => p SOLT0_ID), Function.update_self]
      rfl
    · have hskip : (if mergeData &&& SOLT0_BIT = 0 then
          Function.update parameters SOLT0_ID false else parameters) SOLT1_ID =
            parameters SOLT1_ID := by
        split
        · exact Function.update_of_ne hne.symm _ _
        · rfl
      rw [apply_ite (fun p : Parameters => p SOLT1_ID), Function.update_self, hskip]
      rfl
  rw [hclear]
  by_cases hmem : slotId.toNat ∈ bits mergeData
  · rw [if_neg fun hz => (hbit.mp hz) hmem]
    exact (and_iff_right hmem).symm
  · rw [if_pos (hbit.mpr hmem)]
    exact iff_of_false Bool.false_ne_true fun hand => hmem hand.1

end Handlers

/-! ### One operation -/

section Step

variable {order : HashOrder} {uninitialized : UserPolicyManager → String → UInt32}
  {s s' : PluginState Parameters} {admin : AdminName}

/-- A text of a number, or none. -/
def IsText (policy : String) : Prop := policy = "" ∨ ∃ n, policy = UIntSerializer.serialize n

abbrev Readable (s : PluginState Parameters) : Prop := TextStore IsText POLICY_DISALLOWED_SIM s.store

theorem policyName_ne : POLICY_DISALLOWED_SIM ≠ "" := by decide

theorem itemsOf_serialize (n : UInt32) : itemsOf (UIntSerializer.serialize n) = bits n := by
  rw [itemsOf, UIntSerializer.deserialize_serialize]
  rfl

theorem itemsOf_empty : itemsOf "" = ∅ := by
  rw [itemsOf, UIntSerializer.deserialize_empty]
  exact bits_zero

theorem IsText.read {policy : String} (h : IsText policy) :
    ∃ n, UIntSerializer.deserialize policy = some n ∧ itemsOf policy = bits n ∧
      IPluginTemplate.deserializeNonempty (UIntSerializer.serializer 0) policy = some n := by
  rcases h with rfl | ⟨n, rfl⟩
  · exact ⟨0, rfl, rfl, rfl⟩
  · refine ⟨n, UIntSerializer.deserialize_serialize n, itemsOf_serialize n, ?_⟩
    rw [IPluginTemplate.deserializeNonempty, if_neg (UIntSerializer.serialize_ne_empty n)]
    exact UIntSerializer.deserialize_serialize n

/-- The merged policy of the others is one of theirs. -/
theorem getOthersMergePolicyData_text (order : HashOrder) (h : Readable s)
    (hzero : uninitialized s.store.manager admin = 0) :
    ∃ merged, UIntSerializer.deserialize
        ((plugin order uninitialized).getOthersMergePolicyData s.store.manager admin) = some merged ∧
      IsText ((plugin order uninitialized).getOthersMergePolicyData s.store.manager admin) ∧
      mergedOthers s order uninitialized admin = bits merged ∧
      ∀ i, i ∈ bits merged → i ∈ heldByOthers (listed s) admin := by
  have hread : ∀ v, v ∈ othersValues order s.store.manager POLICY_DISALLOWED_SIM admin →
      (UIntSerializer.serializer (uninitialized s.store.manager admin)).deserialize v =
        some ((UIntSerializer.deserialize v).getD 0) := by
    intro v hv
    obtain ⟨-, other, -, rfl⟩ := (h.good.mem_othersValues order admin).mp hv
    obtain ⟨n, hn, -, -⟩ := (h.text other).read
    show UIntSerializer.deserialize _ = _
    rw [hn]
    rfl
  have htext : (plugin order uninitialized).getOthersMergePolicyData s.store.manager admin = _ :=
    getOthersMergePolicyData_read _ h.good order admin hread
  obtain ⟨values, hvalues⟩ : ∃ values, (othersValues order s.store.manager POLICY_DISALLOWED_SIM
    admin).map (fun v => (UIntSerializer.deserialize v).getD 0) = values := ⟨_, rfl⟩
  have hmem : ∀ i, i ∈ bits (UIntSerializer.mergePolicy values 0) →
      i ∈ heldByOthers (listed s) admin := by
    intro i hi
    rcases UIntSerializer.mergePolicy_mem values 0 with hnone | hmem
    · rw [hnone, bits_zero] at hi
      exact absurd hi (Set.notMem_empty i)
    · rw [← hvalues] at hmem hi
      obtain ⟨v, hv, hvalue⟩ := List.mem_map.mp hmem
      refine (h.good.mem_heldByOthers itemsOf_empty order admin).mpr ⟨v, hv, ?_⟩
      rw [itemsOf, hvalue]
      exact hi
  have hresult : (plugin order uninitialized).getOthersMergePolicyData s.store.manager admin =
      if othersValues order s.store.manager POLICY_DISALLOWED_SIM admin = [] then ""
      else UIntSerializer.serialize (UIntSerializer.mergePolicy values 0) := by
    rw [htext, hvalues, hzero]
    rfl
  rw [mergedOthers, hresult]
  by_cases hnil : othersValues order s.store.manager POLICY_DISALLOWED_SIM admin = []
  · rw [if_pos hnil]
    refine ⟨0, rfl, .inl rfl, rfl, fun i hi => ?_⟩
    rw [bits_zero] at hi
    exact absurd hi (Set.notMem_empty i)
  · rw [if_neg hnil]
    exact ⟨_, UIntSerializer.deserialize_serialize _, .inr ⟨_, rfl⟩, itemsOf_serialize _, hmem⟩

/-- What a request that succeeds stores. -/
theorem stored_result (h : Readable s) {request : Request} {parameters : Parameters}
    {after merged : UInt32}
    (hcall : (plugin order uninitialized).onHandlePolicy s.store.manager s.modules request
      (PluginManager.handlePolicyData (plugin order uninitialized) s admin) =
        (ERR_OK, parameters, ⟨UIntSerializer.serialize after, UIntSerializer.serialize merged,
          s.store.manager.policyValue admin POLICY_DISALLOWED_SIM !=
            UIntSerializer.serialize after⟩))
    (hs' : policyStep (plugin order uninitialized) s (.update admin ⟨.done, .done⟩ request) = s') :
    Readable s' ∧ s'.modules = parameters ∧
      listed s' = Function.update (listed s) admin (bits after) ∧
      (listed s admin = bits after ∧
          s.store.manager.policyValue admin POLICY_DISALLOWED_SIM ≠ "" ∧ combined s' = combined s ∨
        s.store.manager.policyValue admin POLICY_DISALLOWED_SIM ≠ UIntSerializer.serialize after ∧
          combined s' = bits merged) := by
  obtain ⟨hmodules, hstore⟩ :=
    policyStep_update_cases (plugin order uninitialized) admin h.good policyName_ne hcall
  rw [hs'] at hmodules hstore
  rcases hstore with ⟨hok | hchanged, hstore⟩ | ⟨-, hchanged, hsaved⟩
  · cases hok
  · have hvalue : s.store.manager.policyValue admin POLICY_DISALLOWED_SIM =
        UIntSerializer.serialize after := bne_eq_false_iff_eq.mp hchanged
    have hown : listed s admin = bits after := by
      rw [listed, itemsHeld, hvalue, itemsOf_serialize]
    refine ⟨?_, hmodules, ?_, .inl ⟨hown, hvalue ▸ UIntSerializer.serialize_ne_empty after, ?_⟩⟩
    · show TextStore _ _ s'.store
      rw [hstore]
      exact h
    · rw [← hown, Function.update_eq_self]
      exact congrArg (itemsHeld _ _) hstore
    · rw [combined, hstore]
  · refine ⟨h.saved hsaved (.inr ⟨after, rfl⟩) (.inr ⟨merged, rfl⟩), hmodules, ?_, .inr ⟨?_, ?_⟩⟩
    · exact (itemsHeld_saved hsaved).trans (congrArg _ (itemsOf_serialize after))
    · exact bne_iff_ne.mp hchanged
    · exact (congrArg itemsOf hsaved.value_combined).trans (itemsOf_serialize merged)

theorem held_before (admin : AdminName) (i : Nat) : i ∈ held (listed s) ↔
    i ∈ heldByOthers (listed s) admin ∨ i ∈ listed s admin := by
  rw [held_eq _ admin]
  exact Iff.rfl

theorem held_after {items : Set Nat} (hlisted : listed s' = Function.update (listed s) admin items)
    (i : Nat) : i ∈ held (listed s') ↔ i ∈ heldByOthers (listed s) admin ∨ i ∈ items := by
  rw [hlisted, held_update]
  exact Iff.rfl

/-- A request that the template hands to a handler which succeeds. -/
theorem handlePolicy_ok (order : HashOrder) (h : Readable s) {request : Request}
    (hlocals : request.answers.uninitialized = 0)
    (hzero : uninitialized s.store.manager admin = 0)
    (handler : Parameters → UInt32 → UInt32 → UInt32 → ErrCode × Parameters × UInt32 × UInt32) :
    ∃ current merged, listed s admin = bits current ∧
      mergedOthers s order uninitialized admin = bits merged ∧
      (∀ i, i ∈ bits merged → i ∈ heldByOthers (listed s) admin) ∧
      ∀ parameters after merge,
        handler s.modules request.slotId current merged = (ERR_OK, parameters, after, merge) →
        IPluginTemplate.handlePolicy (UIntSerializer.serializer request.answers.uninitialized)
            handler s.modules (some request.slotId)
            (PluginManager.handlePolicyData (plugin order uninitialized) s admin) =
          (ERR_OK, parameters, ⟨UIntSerializer.serialize after, UIntSerializer.serialize merge,
            s.store.manager.policyValue admin POLICY_DISALLOWED_SIM !=
              UIntSerializer.serialize after⟩) := by
  obtain ⟨current, -, hown, hcurrent⟩ := (h.text admin).read
  obtain ⟨merged, hmerged, htext, hbits, hmem⟩ :=
    getOthersMergePolicyData_text order h hzero
  obtain ⟨merged', hmerged', -, hmergedRead⟩ := htext.read
  obtain rfl : merged' = merged := Option.some.inj (hmerged'.symm.trans hmerged)
  refine ⟨current, merged', hown, hbits, hmem, fun parameters after merge hhandler => ?_⟩
  rw [hlocals]
  unfold IPluginTemplate.handlePolicy
  dsimp only
  have hcurrent : IPluginTemplate.deserializeNonempty (UIntSerializer.serializer 0)
      (PluginManager.handlePolicyData (plugin order uninitialized) s admin).policyData =
        some current := hcurrent
  have hmergedRead : IPluginTemplate.deserializeNonempty (UIntSerializer.serializer 0)
      (PluginManager.handlePolicyData (plugin order uninitialized) s admin).mergePolicyData =
        some merged' := hmergedRead
  rw [hcurrent]
  dsimp only
  rw [hmergedRead]
  dsimp only
  rw [hhandler]
  rfl

/-- A value is the text of the number that it stands for. -/
theorem value_eq (h : Readable s) {n : UInt32} (hown : listed s admin = bits n)
    (hvalue : s.store.manager.policyValue admin POLICY_DISALLOWED_SIM ≠ "") :
    s.store.manager.policyValue admin POLICY_DISALLOWED_SIM = UIntSerializer.serialize n := by
  rcases h.text admin with hempty | ⟨m, hm⟩
  · exact absurd hempty hvalue
  · have hbits : bits m = bits n := by
      rw [← hown, listed, itemsHeld, hm, itemsOf_serialize]
    rw [hm, bits_inj hbits]

theorem updateDevicePolicy_code {request : Request} {parameters : Parameters}
    {handled : HandlePolicyData} (writes : Writes)
    (hcall : (plugin order uninitialized).onHandlePolicy s.store.manager s.modules request
      (PluginManager.handlePolicyData (plugin order uninitialized) s admin) =
        (ERR_OK, parameters, handled)) :
    (PluginManager.updateDevicePolicy (plugin order uninitialized) s writes admin request).1 =
      ERR_OK := by
  by_cases hchanged : ((plugin order uninitialized).needSave && handled.isChanged) = true
  · rw [PluginManager.updateDevicePolicy_changed hcall hchanged]
  · rw [PluginManager.updateDevicePolicy_unchanged hcall (Bool.eq_false_iff.mpr hchanged)]

/-- The union is followed after a request that makes the admin's bits those of `after`. -/
theorem followsUnion_stored (h : Readable s) (hunion : FollowsUnion s) {after merge : UInt32}
    {request : Request} {parameters : Parameters}
    (hcall : (plugin order uninitialized).onHandlePolicy s.store.manager s.modules request
      (PluginManager.handlePolicyData (plugin order uninitialized) s admin) =
        (ERR_OK, parameters, ⟨UIntSerializer.serialize after, UIntSerializer.serialize merge,
          s.store.manager.policyValue admin POLICY_DISALLOWED_SIM !=
            UIntSerializer.serialize after⟩))
    (hs' : policyStep (plugin order uninitialized) s (.update admin ⟨.done, .done⟩ request) = s')
    (hmerge : listed s admin ≠ bits after ∨
        s.store.manager.policyValue admin POLICY_DISALLOWED_SIM = "" →
      ∀ i, i ∈ bits merge ↔ i ∈ heldByOthers (listed s) admin ∨ i ∈ bits after)
    (hparameters : ∀ slotId, ValidSlot slotId → (parameters slotId = true ↔
      slotId.toNat ∈ heldByOthers (listed s) admin ∨ slotId.toNat ∈ bits after)) :
    (Readable s' ∧ FollowsUnion s') ∧
      listed s' = Function.update (listed s) admin (bits after) := by
  obtain ⟨hreadable, hmodules, hlisted, hcombined⟩ := stored_result h hcall hs'
  refine ⟨⟨hreadable, fun i => ?_, fun slotId hvalid => ?_⟩, hlisted⟩
  · rw [held_after hlisted]
    rcases hcombined with ⟨hown, -, hsame⟩ | ⟨hchanged, hsame⟩
    · rw [hsame, hunion.combined, held_before admin, hown]
    · rw [hsame]
      refine hmerge ?_ i
      by_contra hnot
      obtain ⟨hown, hvalue⟩ := not_or.mp hnot
      exact hchanged (value_eq h (not_not.mp hown) hvalue)
  · rw [hmodules, held_after hlisted]
    exact hparameters slotId hvalid

theorem disabled_other (hunion : FollowsUnion s) {slotId other : UInt32} (hother : ValidSlot other)
    (hne : other ≠ slotId) {items : Set Nat}
    (hitems : ∀ i, i ≠ slotId.toNat → (i ∈ items ↔ i ∈ listed s admin)) :
    s.modules other = true ↔
      other.toNat ∈ heldByOthers (listed s) admin ∨ other.toNat ∈ items := by
  rw [hunion.disabled other hother, held_before admin]
  refine or_congr_right (hitems _ fun heq => hne (UInt32.toNat_inj.mp heq)).symm

theorem set_step (h : Readable s) (hunion : FollowsUnion s) {request : Request}
    (htype : request.type = .set) (hvalid : ValidSlot request.slotId)
    (hkeeps : Keeps s order uninitialized (.update admin ⟨.done, .done⟩ request))
    (hs' : policyStep (plugin order uninitialized) s (.update admin ⟨.done, .done⟩ request) = s') :
    (Readable s' ∧ FollowsUnion s') ∧
      (PluginManager.updateDevicePolicy (plugin order uninitialized) s ⟨.done, .done⟩ admin
          request).1 = ERR_OK ∧
        listed s' = Function.update (listed s) admin
          (listed s admin ∪ {request.slotId.toNat}) := by
  obtain ⟨hanswers, hzero, hmerges⟩ := (hkeeps.2 hvalid).1 htype
  obtain ⟨current, merged, hown, hothers, hmem, hhandle⟩ := handlePolicy_ok order h
    (congrArg Answers.uninitialized hanswers) hzero (onSetPolicy request.answers.setParameter)
  have hafter : ∀ i, i ∈ bits (current ||| slotBit request.slotId) ↔
      i ∈ listed s admin ∨ i = request.slotId.toNat := by
    intro i
    rw [mem_bits_or, mem_bits_slotBit hvalid, hown]
  have hcall := hhandle _ _ _ (by rw [hanswers]; exact onSetPolicy_valid hvalid)
  have hhandler : (plugin order uninitialized).onHandlePolicy s.store.manager s.modules request
      (PluginManager.handlePolicyData (plugin order uninitialized) s admin) =
        IPluginTemplate.handlePolicy (UIntSerializer.serializer request.answers.uninitialized)
          (onSetPolicy request.answers.setParameter) s.modules (some request.slotId)
          (PluginManager.handlePolicyData (plugin order uninitialized) s admin) := by
    show onHandlePolicy s.modules request _ = _
    rw [onHandlePolicy, htype]
  have hcall := hhandler.trans hcall
  have hmerge : listed s admin ≠ bits (current ||| slotBit request.slotId) ∨
        s.store.manager.policyValue admin POLICY_DISALLOWED_SIM = "" →
      ∀ i, i ∈ bits (merged ||| (current ||| slotBit request.slotId)) ↔
        i ∈ heldByOthers (listed s) admin ∨ i ∈ bits (current ||| slotBit request.slotId) := by
    intro hchanged i
    have hnew : request.slotId.toNat ∉ listed s admin := by
      intro hin
      have hsame : listed s admin = bits (current ||| slotBit request.slotId) :=
        Set.ext fun i => ((hafter i).trans (or_iff_left_of_imp fun heq => heq ▸ hin)).symm
      rcases hchanged with hne | hempty
      · exact hne hsame
      · rw [listed, itemsHeld, hempty, itemsOf_empty] at hin
        exact hin
    rw [mem_bits_or, hafter]
    constructor
    · exact Or.imp_left (hmem i)
    · rintro (hi | hi)
      · rw [← hothers]
        exact hmerges hnew i hi
      · exact .inr hi
  have hparameters : ∀ other, ValidSlot other →
      (Function.update s.modules request.slotId true other = true ↔
        other.toNat ∈ heldByOthers (listed s) admin ∨
          other.toNat ∈ bits (current ||| slotBit request.slotId)) := by
    intro other hother
    by_cases hslot : other = request.slotId
    · rw [hslot, Function.update_self]
      exact iff_of_true rfl (.inr ((hafter _).mpr (.inr rfl)))
    · rw [Function.update_of_ne hslot]
      exact disabled_other hunion hother hslot fun i hi => (hafter i).trans (or_iff_left hi)
  obtain ⟨hinv, hlisted⟩ := followsUnion_stored h hunion hcall hs' hmerge hparameters
  refine ⟨hinv, updateDevicePolicy_code _ hcall, hlisted.trans (congrArg _ (Set.ext fun i => ?_))⟩
  exact hafter i

theorem remove_step (h : Readable s) (hunion : FollowsUnion s) {request : Request}
    (htype : request.type = .remove) (hvalid : ValidSlot request.slotId)
    (hkeeps : Keeps s order uninitialized (.update admin ⟨.done, .done⟩ request))
    (hs' : policyStep (plugin order uninitialized) s (.update admin ⟨.done, .done⟩ request) = s') :
    (Readable s' ∧ FollowsUnion s') ∧
      (PluginManager.updateDevicePolicy (plugin order uninitialized) s ⟨.done, .done⟩ admin
          request).1 = ERR_OK ∧
        listed s' = Function.update (listed s) admin
          (listed s admin \ {request.slotId.toNat}) := by
  obtain ⟨hanswers, hzero, hfree, hmerges⟩ := (hkeeps.2 hvalid).2 htype
  obtain ⟨current, merged, hown, hothers, hmem, hhandle⟩ := handlePolicy_ok order h
    (congrArg Answers.uninitialized hanswers) hzero (onRemovePolicy request.answers.setParameter)
  have hafter : ∀ i, i ∈ bits (current &&& ~~~slotBit request.slotId) ↔
      i ∈ listed s admin ∧ i ≠ request.slotId.toNat := by
    intro i
    rw [mem_bits_andNot, mem_bits_slotBit hvalid, hown]
  -- The merged policy is one of the others', so the parameter is written.
  have hwritten : merged &&& slotBit request.slotId = 0 :=
    (and_slotBit hvalid).mpr fun hin => hfree (hmem _ hin)
  have hcall := hhandle _ _ _ (by rw [hanswers]; exact onRemovePolicy_valid hvalid hwritten)
  have hhandler : (plugin order uninitialized).onHandlePolicy s.store.manager s.modules request
      (PluginManager.handlePolicyData (plugin order uninitialized) s admin) =
        IPluginTemplate.handlePolicy (UIntSerializer.serializer request.answers.uninitialized)
          (onRemovePolicy request.answers.setParameter) s.modules (some request.slotId)
          (PluginManager.handlePolicyData (plugin order uninitialized) s admin) := by
    show onHandlePolicy s.modules request _ = _
    rw [onHandlePolicy, htype]
  have hcall := hhandler.trans hcall
  have hmerge : listed s admin ≠ bits (current &&& ~~~slotBit request.slotId) ∨
        s.store.manager.policyValue admin POLICY_DISALLOWED_SIM = "" →
      ∀ i, i ∈ bits (merged ||| (current &&& ~~~slotBit request.slotId)) ↔
        i ∈ heldByOthers (listed s) admin ∨ i ∈ bits (current &&& ~~~slotBit request.slotId) := by
    intro hchanged i
    have hmerges := hmerges (hchanged.imp_left fun hne => ?_)
    · rw [mem_bits_or, hafter]
      constructor
      · exact Or.imp_left (hmem i)
      · rintro (hi | hi)
        · have hi' := hmerges i hi
          rw [hothers] at hi'
          exact hi'.imp_right fun hin => ⟨hin, fun heq => hfree (heq ▸ hi)⟩
        · exact .inr hi
    · by_contra hnot
      refine hne (Set.ext fun i => ((hafter i).trans (and_iff_left_of_imp ?_)).symm)
      exact fun hin heq => hnot (heq ▸ hin)
  have hparameters : ∀ other, ValidSlot other →
      (Function.update s.modules request.slotId false other = true ↔
        other.toNat ∈ heldByOthers (listed s) admin ∨
          other.toNat ∈ bits (current &&& ~~~slotBit request.slotId)) := by
    intro other hother
    by_cases hslot : other = request.slotId
    · rw [hslot, Function.update_self]
      refine iff_of_false Bool.false_ne_true ?_
      rintro (hin | hin)
      · exact hfree hin
      · exact ((hafter _).mp hin).2 rfl
    · rw [Function.update_of_ne hslot]
      exact disabled_other hunion hother hslot fun i hi => (hafter i).trans (and_iff_left hi)
  obtain ⟨hinv, hlisted⟩ := followsUnion_stored h hunion hcall hs' hmerge hparameters
  refine ⟨hinv, updateDevicePolicy_code _ hcall, hlisted.trans (congrArg _ (Set.ext fun i => ?_))⟩
  exact hafter i

/-- A request for no slot, or of another type, changes nothing. -/
theorem other_step (h : Readable s) {request : Request}
    (hother : ¬ (ValidSlot request.slotId ∧ (request.type = .set ∨ request.type = .remove)))
    (hs' : policyStep (plugin order uninitialized) s (.update admin ⟨.done, .done⟩ request) = s') :
    s'.modules = s.modules ∧ s'.store = s.store := by
  obtain ⟨⟨ret, parameters, handled⟩, hcall⟩ : ∃ result,
    (plugin order uninitialized).onHandlePolicy s.store.manager s.modules request
      (PluginManager.handlePolicyData (plugin order uninitialized) s admin) = result := ⟨_, rfl⟩
  have hwrapped : ∀ handler : Parameters → UInt32 → UInt32 → UInt32 →
        ErrCode × Parameters × UInt32 × UInt32,
      (∀ current merged, handler s.modules request.slotId current merged =
        (EdmReturnErrCode.PARAM_ERROR, s.modules, current, merged)) →
      IPluginTemplate.handlePolicy (UIntSerializer.serializer request.answers.uninitialized)
        handler s.modules (some request.slotId)
        (PluginManager.handlePolicyData (plugin order uninitialized) s admin) =
          (ret, parameters, handled) → parameters = s.modules ∧ failed ret = true := by
    intro handler hhandler hresult
    unfold IPluginTemplate.handlePolicy at hresult
    dsimp only at hresult
    split at hresult
    · cases hresult
      exact ⟨rfl, rfl⟩
    · split at hresult
      · cases hresult
        exact ⟨rfl, rfl⟩
      · rw [hhandler] at hresult
        have hne : (EdmReturnErrCode.PARAM_ERROR != ERR_OK) = true := by decide
        dsimp only at hresult
        rw [if_pos hne] at hresult
        cases hresult
        exact ⟨rfl, rfl⟩
  have hresult : parameters = s.modules ∧ (failed ret = true ∨ handled.isChanged = false) := by
    have hcall : onHandlePolicy s.modules request _ = _ := hcall
    unfold onHandlePolicy at hcall
    cases htype : request.type with
    | set =>
      have hinvalid : ¬ ValidSlot request.slotId := fun hv => hother ⟨hv, .inl htype⟩
      rw [htype] at hcall
      refine (hwrapped _ (fun current merged => ?_) hcall).imp_right .inl
      exact (policy_invalid request.answers.setParameter hinvalid).1
    | remove =>
      have hinvalid : ¬ ValidSlot request.slotId := fun hv => hother ⟨hv, .inr htype⟩
      rw [htype] at hcall
      refine (hwrapped _ (fun current merged => ?_) hcall).imp_right .inl
      exact (policy_invalid request.answers.setParameter hinvalid).2
    | get =>
      rw [htype] at hcall
      cases hcall
      exact ⟨rfl, .inr rfl⟩
    | unknown =>
      rw [htype] at hcall
      cases hcall
      exact ⟨rfl, .inr rfl⟩
  obtain ⟨hmodules, hstore⟩ :=
    policyStep_update_cases (plugin order uninitialized) admin h.good policyName_ne hcall
  rw [hs'] at hmodules hstore
  refine ⟨hmodules.trans hresult.1, ?_⟩
  rcases hstore with ⟨-, hstore⟩ | ⟨hok, hchanged, -⟩
  · exact hstore
  · rcases hresult.2 with hfailed | hunchanged
    · rw [hfailed] at hok
      cases hok
    · have hchanged : handled.isChanged = true := hchanged
      rw [hunchanged] at hchanged
      cases hchanged

theorem removeAdmin_step (h : Readable s) (hunion : FollowsUnion s) {reply : UInt32 → Bool}
    (hkeeps : Keeps s order uninitialized (.removeAdmin admin ⟨.done, .done⟩ reply))
    (hs' : policyStep (plugin order uninitialized) s (.removeAdmin admin ⟨.done, .done⟩ reply) =
      s') :
    (Readable s' ∧ FollowsUnion s') ∧ listed s' = Function.update (listed s) admin ∅ := by
  rcases policyStep_removeAdmin_cases (plugin order uninitialized) admin h.good policyName_ne rfl
    reply with ⟨hnone, hsame⟩ | ⟨hvalue, hmodules, hsaved⟩
  · obtain rfl := hs'.symm.trans hsame
    refine ⟨⟨h, hunion⟩, ?_⟩
    have hempty : listed s' admin = ∅ := by
      rw [listed, itemsHeld]
      exact (congrArg itemsOf hnone).trans itemsOf_empty
    rw [← hempty, Function.update_eq_self]
  · obtain ⟨hzero, hone, hlocals, hothers⟩ := hkeeps.2 hvalue
    rw [hs'] at hmodules hsaved
    obtain ⟨current, hcurrent, -, -⟩ := (h.text admin).read
    obtain ⟨merged, hmerged, htext, hbits, hmem⟩ :=
      getOthersMergePolicyData_text order h hlocals
    have hlisted : listed s' = Function.update (listed s) admin ∅ :=
      (itemsHeld_saved hsaved).trans (congrArg _ itemsOf_empty)
    have hheld : ∀ i, i ∈ held (listed s') ↔ i ∈ bits merged := by
      intro i
      rw [held_after hlisted]
      constructor
      · rintro (hi | hi)
        · rw [← hbits]
          exact hothers i hi
        · exact absurd hi (Set.notMem_empty i)
      · exact fun hi => .inl (hmem i hi)
    refine ⟨⟨h.saved hsaved (.inl rfl) htext, ⟨fun i => ?_, fun slotId hvalid => ?_⟩⟩, hlisted⟩
    · rw [hheld, ← hbits]
      exact Set.ext_iff.mp (congrArg itemsOf hsaved.value_combined) i
    · have hcall : (plugin order uninitialized).onAdminRemove s.modules reply
          (s.store.manager.policyValue admin POLICY_DISALLOWED_SIM)
          ((plugin order uninitialized).getOthersMergePolicyData s.store.manager admin) =
            onAdminRemove reply s.modules current merged := by
        have hcurrent : (UIntSerializer.serializer 0).deserialize
            (s.store.manager.policyValue admin POLICY_DISALLOWED_SIM) = some current := hcurrent
        have hmerged : (UIntSerializer.serializer 0).deserialize
            ((plugin order uninitialized).getOthersMergePolicyData s.store.manager admin) =
              some merged := hmerged
        show IPluginTemplate.adminRemove (UIntSerializer.serializer 0) (onAdminRemove reply)
          s.modules _ _ = _
        rw [IPluginTemplate.adminRemove, hcurrent, hmerged]
      have hmodules : s'.modules = (onAdminRemove reply s.modules current merged).2 :=
        hmodules.trans (congrArg Prod.snd hcall)
      rw [hmodules, onAdminRemove_valid hzero hone hvalid, hheld]
      refine and_iff_left_of_imp fun hin => (hunion.disabled slotId hvalid).mpr ?_
      exact (held_before admin _).mpr (.inl (hmem _ hin))

/-- What is disabled and what is stored decide. -/
theorem FollowsUnion.congr (h : FollowsUnion s) (hmodules : s'.modules = s.modules)
    (hstore : s'.store = s.store) : FollowsUnion s' where
  combined := by
    show ∀ i, i ∈ itemsOf (s'.store.manager.policyValue "" _) ↔
      i ∈ held (itemsHeld itemsOf _ s'.store)
    rw [hstore]
    exact h.combined
  disabled := by
    show ∀ slotId, ValidSlot slotId →
      (s'.modules slotId = true ↔ slotId.toNat ∈ held (itemsHeld itemsOf _ s'.store))
    rw [hmodules, hstore]
    exact h.disabled

theorem step_ok (h : Readable s ∧ FollowsUnion s) (op : Op)
    (hkeeps : Keeps s order uninitialized op) :
    (Readable (policyStep (plugin order uninitialized) s op) ∧
      FollowsUnion (policyStep (plugin order uninitialized) s op)) ∧
        OpRight s order uninitialized op := by
  obtain ⟨s', hs'⟩ : ∃ s', policyStep (plugin order uninitialized) s op = s' := ⟨_, rfl⟩
  have hright : ∀ {admin : AdminName} {items : Set Nat},
      listed s' = Function.update (listed s) admin items →
        ∀ other, listed s' other = if other = admin then items else listed s other := by
    intro admin items hlisted other
    rw [hlisted, Function.update_apply]
  cases op with
  | update admin writes request =>
    obtain rfl : writes = ⟨.done, .done⟩ := hkeeps.1
    by_cases hvalid : ValidSlot request.slotId ∧ (request.type = .set ∨ request.type = .remove)
    · rcases hvalid with ⟨hvalid, hset | hremove⟩
      · obtain ⟨hinv, hcode, hlisted⟩ := set_step h.1 h.2 hset hvalid hkeeps hs'
        rw [OpRight, hs']
        refine ⟨hinv, fun _ _ => ⟨hcode, ?_⟩⟩
        rw [if_pos hset]
        exact hright hlisted
      · obtain ⟨hinv, hcode, hlisted⟩ := remove_step h.1 h.2 hremove hvalid hkeeps hs'
        have hset : request.type ≠ .set := by
          rw [hremove]
          decide
        rw [OpRight, hs']
        refine ⟨hinv, fun _ _ => ⟨hcode, ?_⟩⟩
        rw [if_neg hset]
        exact hright hlisted
    · obtain ⟨hmodules, hstore⟩ := other_step h.1 hvalid hs'
      have hreadable : Readable s' := by
        show TextStore _ _ s'.store
        rw [hstore]
        exact h.1
      rw [hs']
      exact ⟨⟨hreadable, h.2.congr hmodules hstore⟩,
        fun hslot htype => absurd ⟨hslot, htype⟩ hvalid⟩
  | removeAdmin admin writes reply =>
    obtain rfl : writes = ⟨.done, .done⟩ := hkeeps.1
    obtain ⟨hinv, hlisted⟩ := removeAdmin_step h.1 h.2 hkeeps hs'
    rw [OpRight, hs']
    exact ⟨hinv, hright hlisted⟩

theorem boot_ok (userId : Int) : Readable (boot userId) ∧ FollowsUnion (boot userId) := by
  have hnone : ∀ i, i ∉ held (listed (boot userId)) :=
    Set.eq_empty_iff_forall_notMem.mp (held_new itemsOf_empty userId)
  refine ⟨textStore_new (.inl rfl) userId, fun i => ?_, fun slotId _ => ?_⟩
  · refine iff_of_false ?_ (hnone i)
    have hempty : itemsOf ((boot userId).store.manager.policyValue "" POLICY_DISALLOWED_SIM) = ∅ :=
      (congrArg itemsOf (policyValue_new userId _ _)).trans itemsOf_empty
    exact Set.eq_empty_iff_forall_notMem.mp hempty i
  · exact iff_of_false Bool.false_ne_true (hnone _)

end Step

/-! ### Runs -/

/-- In a run whose operations meet the condition, the combined policy has the bits of all admins in
every state, the disabled slots are those of its bits, and every request for a slot succeeds and
changes the bit of the slot. -/
theorem disallowedSim_followsUnion (order : HashOrder)
    (uninitialized : UserPolicyManager → String → UInt32) (userId : Int) (ops : List Op)
    (hops : Each (policyStep (plugin order uninitialized)) (Keeps · order uninitialized)
      (boot userId) ops) :
    Always (policyStep (plugin order uninitialized)) FollowsUnion (boot userId) ops ∧
      Each (policyStep (plugin order uninitialized)) (OpRight · order uninitialized)
        (boot userId) ops := by
  have hstep := fun s op (h : Readable s ∧ FollowsUnion s)
    (hkeeps : Keeps s order uninitialized op) => step_ok h op hkeeps
  refine ⟨?_, ?_⟩
  · exact (always_of_each (P := fun s => Readable s ∧ FollowsUnion s)
      (fun s op h hkeeps => (hstep s op h hkeeps).1) (boot_ok userId) hops).mono fun _ h => h.2
  · exact each_of_each (I := fun s => Readable s ∧ FollowsUnion s)
      (fun s op h hkeeps => (hstep s op h hkeeps).1) (fun s op h hkeeps => (hstep s op h hkeeps).2)
      (boot_ok userId) hops

namespace SharedSlot

/-- The local variables happen to be zero. -/
def zero : UserPolicyManager → String → UInt32 := fun _ _ => 0

def request (type : FuncOperateType) (slotId : UInt32) : Request := ⟨type, slotId, ⟨true, 0⟩⟩

/-- An admin disables a slot and is removed. -/
theorem disallowedSim_followsUnion_removed :
    Always (policyStep (plugin .evaluated zero)) FollowsUnion (boot 100)
        [.update firstAdmin ⟨.done, .done⟩ (request .set SOLT0_ID),
          .removeAdmin firstAdmin ⟨.done, .done⟩ fun _ => true] ∧
      Each (policyStep (plugin .evaluated zero)) (OpRight · .evaluated zero) (boot 100)
        [.update firstAdmin ⟨.done, .done⟩ (request .set SOLT0_ID),
          .removeAdmin firstAdmin ⟨.done, .done⟩ fun _ => true] := by
  have hothers : ∀ ops : List Op, (∀ op, op ∈ ops → op.admin = firstAdmin) →
      heldByOthers (listed (run (policyStep (plugin .evaluated zero)) (boot 100) ops)) firstAdmin =
        ∅ :=
    fun ops h => heldByOthers_alone (plugin .evaluated zero) policyName_ne itemsOf_empty
      (fun _ => false) 100 ops h
  refine disallowedSim_followsUnion .evaluated zero 100 _
    ⟨⟨rfl, fun _ => ⟨fun _ => ⟨rfl, rfl, fun _ i hi => ?_⟩, fun htype => nomatch htype⟩⟩,
      ⟨rfl, fun _ => ⟨rfl, rfl, rfl, fun i hi => ?_⟩⟩, trivial⟩
  · have hi : i ∈ (∅ : Set Nat) := hothers [] (fun op hop => absurd hop List.not_mem_nil) ▸ hi
    exact absurd hi (Set.notMem_empty i)
  · have hone := hothers [.update firstAdmin ⟨.done, .done⟩ (request .set SOLT0_ID)] fun op hop => by
      rw [List.mem_singleton.mp hop]
      rfl
    have hi : i ∈ (∅ : Set Nat) := hone ▸ hi
    exact absurd hi (Set.notMem_empty i)

/-- Two admins disable a slot, and the first of them enables it again. -/
def ops : List Op :=
  [.update firstAdmin ⟨.done, .done⟩ (request .set SOLT0_ID),
    .update secondAdmin ⟨.done, .done⟩ (request .set SOLT0_ID),
    .update firstAdmin ⟨.done, .done⟩ (request .remove SOLT0_ID)]

/-- The admin cannot withdraw its own restriction. -/
theorem shared_slot_not_removed :
    ¬ ∀ (order : HashOrder) (uninitialized : UserPolicyManager → String → UInt32) (userId : Int)
      (ops : List Op),
      Always (policyStep (plugin order uninitialized)) FollowsUnion (boot userId) ops ∧
        Each (policyStep (plugin order uninitialized)) (OpRight · order uninitialized)
          (boot userId) ops := by
  intro h
  obtain ⟨-, -, hremove, -⟩ := (h .evaluated zero 100 ops).2
  have hcode := (hremove (.inl rfl) (.inr rfl)).1
  revert hcode
  decide +kernel

end SharedSlot

end DisallowedSimPlugin

end Edm
