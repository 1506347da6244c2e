import Edm.Admin.Admin
import Edm.Plugin.Accounts
import Edm.Plugin.ArrayIntSerializer
import Edm.Plugin.ItemPolicy
import Edm.Plugin.NearlinkConfigUtils

/-! `DisallowedNearlinkProtocolsPlugin`: NearLink protocols that are denied to an account, in a file
that all accounts share. -/

set_option autoImplicit false

namespace Edm

open Library

def POLICY_DISALLOWED_NEARLINK_PROTOCOLS : String := "disallowed_nearlink_protocols"

namespace EdmConstants

def DISALLOWED_NEARLINK_PROTOCOLS_MAX_SIZE : Nat := 10

end EdmConstants

namespace DisallowedNearlinkProtocolsPlugin

open NearlinkConfigUtils NearlinkProtocolUtils ArrayIntSerializer

structure Request where
  type : FuncOperateType
  data : List Int32

/-- The protocols are updated one after the other, up to the first number that is none. -/
def updateProtocols (userId : Int) (isAdd : Bool) : Config → List Int32 → ErrCode × Config
  | config, [] => (ERR_OK, config)
  | config, value :: data =>
    match intToProtocolStr value with
    | none => (EdmReturnErrCode.PARAMETER_VERIFICATION_FAILED, config)
    | some protocol =>
      updateProtocols userId isAdd (updateProtocol config (toString userId) protocol isAdd) data

/-- The handlers of both types differ in the limit and in what becomes of the protocols. -/
def handle (limit : Nat) (isAdd : Bool) (userId : Int) (config : Config)
    (data currentData mergeData : List Int32) : ErrCode × Config × List Int32 × List Int32 :=
  if data = [] then
    (EdmReturnErrCode.PARAMETER_VERIFICATION_FAILED, config, currentData, mergeData)
  else if data.length > limit then
    (EdmReturnErrCode.PARAMETER_VERIFICATION_FAILED, config, currentData, mergeData)
  else
    let (ret, config) := updateProtocols userId isAdd config data
    if ret != ERR_OK then (ret, config, currentData, mergeData) else (ERR_OK, config, data, data)

def onSetPolicy : Int → Config → List Int32 → List Int32 → List Int32 →
    ErrCode × Config × List Int32 × List Int32 :=
  handle EdmConstants.DISALLOWED_NEARLINK_PROTOCOLS_MAX_SIZE true

/-- The removed protocols become the admin's policy. -/
def onRemovePolicy : Int → Config → List Int32 → List Int32 → List Int32 →
    ErrCode × Config × List Int32 × List Int32 :=
  handle EdmConstants.DEFAULT_LOOP_MAX_SIZE false

def onAdminRemove (config : Config) (_policyData _mergeData : List Int32) : ErrCode × Config :=
  (ERR_OK, removeProtocolDenyList config)

variable (C : ArrayCJson) (order : HashOrder)

def onHandlePolicy (userId : Int) (config : Config) (request : Request)
    (policyData : HandlePolicyData) : ErrCode × Config × HandlePolicyData :=
  match request.type with
  | .set =>
    IPluginTemplate.handlePolicy (serializer C) (onSetPolicy userId) config
      (some (getPolicy request.data)) policyData
  | .remove =>
    IPluginTemplate.handlePolicy (serializer C) (onRemovePolicy userId) config
      (some (getPolicy request.data)) policyData
  | _ => (ERR_OK, config, policyData)

def plugin (userId : Int) : Plugin Config Request Unit Empty where
  policyName := POLICY_DISALLOWED_NEARLINK_PROTOCOLS
  needSave := true
  getOthersMergePolicyData m adminName :=
    IPluginTemplate.getOthersMergePolicyData (serializer C) order
      POLICY_DISALLOWED_NEARLINK_PROTOCOLS m adminName
  onHandlePolicy _ := onHandlePolicy C userId
  onAdminRemove config _ := IPluginTemplate.adminRemove (serializer C) onAdminRemove config
  onPluginEvent _ event := nomatch event

abbrev Op := AccountOp Request Unit

abbrev step : AccountsState Config → Op → AccountsState Config := accountStep (plugin C order)

/-- Accounts without policies, and no file. -/
abbrev boot : AccountsState Config := AccountsState.boot none

section Run

variable (s : AccountsState Config)

/-- The protocols that numbers stand for. -/
def protocolsOf (data : List Int32) : List String := data.filterMap intToProtocolStr

def itemsOf (policy : String) : Set String := {p | p ∈ protocolsOf ((deserialize C policy).getD [])}

/-- What an admin stores for an account. -/
abbrev listed (userId : Int) (admin : AdminName) : Set String :=
  itemsHeld (itemsOf C) POLICY_DISALLOWED_NEARLINK_PROTOCOLS (s.stores userId) admin

/-- What the file lists for an account. -/
def denied (userId : Int) : Set String := {p | p ∈ protocols s.modules (toString userId)}

/-- The file lists for each account what the admins store for it. -/
def FollowsUnion : Prop := ∀ userId, denied s userId = held (listed C s userId)

def isProtocol (n : Int32) : Bool := (intToProtocolStr n).isSome

/-- A request that is not rejected. -/
def Accepted (limit : Nat) (data : List Int32) : Prop :=
  data ≠ [] ∧ data.length ≤ limit ∧ ∀ n, n ∈ data → isProtocol n = true

/-- The numbers whose protocols are updated, also by a request that is rejected. -/
def touched (limit : Nat) (data : List Int32) : List Int32 :=
  if data.length > limit then [] else data.takeWhile isProtocol

/-- A removal takes the protocols from what the admin stores, and the removal of an admin only drops
what no other admin stores. -/
def OpRight (op : Op) : Prop :=
  match op.op with
  | .update admin writes request =>
    request.type = .remove →
      (PluginManager.updateDevicePolicy (plugin C order op.userId) (s.account op.userId) writes
          admin request).1 = ERR_OK →
        ∀ p, p ∈ listed C (step C order s op) op.userId admin ↔
          p ∈ listed C s op.userId admin ∧ p ∉ protocolsOf (getPolicy request.data)
  | .removeAdmin .. =>
    ∀ userId p, p ∈ denied s userId → p ∉ denied (step C order s op) userId →
      p ∉ held (listed C (step C order s op) userId)

/-- The writes of an operation take effect.  A set that is accepted replaces only what it has itself
or others store, one that is rejected had nothing new to add before; a removal is rejected, with
nothing to remove before; no other admin stores anything, for any account, when an admin is
removed. -/
def Keeps (op : Op) : Prop :=
  match op.op with
  | .update admin writes request =>
    writes = ⟨.done, .done⟩ ∧
      (request.type = .set →
        (Accepted EdmConstants.DISALLOWED_NEARLINK_PROTOCOLS_MAX_SIZE (getPolicy request.data) →
          ∀ p, p ∈ listed C s op.userId admin →
            p ∈ heldByOthers (listed C s op.userId) admin ∨
              p ∈ protocolsOf (getPolicy request.data)) ∧
        (¬ Accepted EdmConstants.DISALLOWED_NEARLINK_PROTOCOLS_MAX_SIZE (getPolicy request.data) →
          ∀ p, p ∈ protocolsOf (touched EdmConstants.DISALLOWED_NEARLINK_PROTOCOLS_MAX_SIZE
            (getPolicy request.data)) → p ∈ held (listed C s op.userId))) ∧
      (request.type = .remove →
        ¬ Accepted EdmConstants.DEFAULT_LOOP_MAX_SIZE (getPolicy request.data) ∧
          ∀ p, p ∈ protocolsOf (touched EdmConstants.DEFAULT_LOOP_MAX_SIZE
            (getPolicy request.data)) → p ∉ held (listed C s op.userId))
  | .removeAdmin admin writes _ =>
    writes = ⟨.done, .done⟩ ∧
      ((s.stores op.userId).manager.policyValue admin POLICY_DISALLOWED_NEARLINK_PROTOCOLS ≠ "" →
        heldByOthers (listed C s op.userId) admin = ∅ ∧
          ∀ userId, userId ≠ op.userId → held (listed C s userId) = ∅)

end Run

/-! ### The handlers -/

section Handlers

variable {config : Config} {data : List Int32}

theorem toString_inj {m n : Int} : toString m = toString n ↔ m = n := Int.repr_inj

theorem mem_protocolsOf_cons {value : Int32} {protocol : String}
    (hvalue : intToProtocolStr value = some protocol) {p : String} :
    p ∈ protocolsOf (value :: data) ↔ p = protocol ∨ p ∈ protocolsOf data := by
  rw [protocolsOf, List.filterMap_cons_some hvalue, List.mem_cons]
  exact Iff.rfl

/-- The protocols before the first number that is none are updated. -/
theorem updateProtocols_spec (userId : Int) (isAdd : Bool) (data : List Int32)
    (h : Proper config) :
    Proper (updateProtocols userId isAdd config data).2 ∧
      (∀ other p, p ∈ protocols (updateProtocols userId isAdd config data).2 (toString other) ↔
        if other = userId ∧
            p ∈ protocolsOf (data.takeWhile isProtocol) then
          isAdd = true
        else p ∈ protocols config (toString other)) ∧
      ((∀ n, n ∈ data → isProtocol n = true) ∧
          (updateProtocols userId isAdd config data).1 = ERR_OK ∨
        ¬ (∀ n, n ∈ data → isProtocol n = true) ∧
          (updateProtocols userId isAdd config data).1 =
            EdmReturnErrCode.PARAMETER_VERIFICATION_FAILED) := by
  induction data generalizing config with
  | nil =>
    refine ⟨h, fun other p => ?_, .inl ⟨fun n hn => absurd hn List.not_mem_nil, rfl⟩⟩
    rw [if_neg fun heq => List.not_mem_nil heq.2]
    rfl
  | cons value data ih =>
    rw [updateProtocols]
    cases hvalue : intToProtocolStr value with
    | none =>
      have hnone : ¬ isProtocol value = true := by
        rw [isProtocol, hvalue]
        exact Bool.false_ne_true
      refine ⟨h, fun other p => ?_, .inr ⟨fun hall => ?_, rfl⟩⟩
      · rw [List.takeWhile_cons_of_neg hnone, if_neg fun heq => List.not_mem_nil heq.2]
      · exact hnone (hall value List.mem_cons_self)
    | some protocol =>
      have hsome : isProtocol value = true := by
        rw [isProtocol, hvalue]
        rfl
      obtain ⟨hproper, hupdate⟩ := updateProtocol_spec h (toString userId) protocol isAdd
      obtain ⟨hrest, hprotocols, hcode⟩ := ih hproper
      refine ⟨hrest, fun other p => ?_, ?_⟩
      · have hfirst : p ∈ protocols (updateProtocol config (toString userId) protocol isAdd)
            (toString other) ↔ if other = userId ∧ p = protocol then isAdd = true
              else p ∈ protocols config (toString other) := by
          simp only [hupdate, toString_inj]
        rw [hprotocols, List.takeWhile_cons_of_pos hsome]
        by_cases hother : other = userId
        · by_cases hp : p ∈ protocolsOf (data.takeWhile isProtocol)
          · rw [if_pos ⟨hother, hp⟩, if_pos ⟨hother, (mem_protocolsOf_cons hvalue).mpr (.inr hp)⟩]
          · rw [if_neg fun heq => hp heq.2, hfirst]
            simp only [mem_protocolsOf_cons hvalue, hp, or_false]
        · rw [if_neg fun heq => hother heq.1, if_neg fun heq => hother heq.1, hfirst,
            if_neg fun heq => hother heq.1]
      · have hall : (∀ n, n ∈ value :: data → isProtocol n = true) ↔
            ∀ n, n ∈ data → isProtocol n = true := by
          rw [List.forall_mem_cons]
          exact and_iff_right hsome
        rw [hall]
        exact hcode

/-- A request is accepted, or fails after what it has touched. -/
theorem handle_spec (limit : Nat) (isAdd : Bool) (userId : Int) (data : List Int32)
    (h : Proper config) (currentData mergeData : List Int32) :
    ∃ ret after current merge,
      handle limit isAdd userId config data currentData mergeData =
          (ret, after, current, merge) ∧
        Proper after ∧
        (∀ other p, p ∈ protocols after (toString other) ↔
          if other = userId ∧ p ∈ protocolsOf (touched limit data) then isAdd = true
          else p ∈ protocols config (toString other)) ∧
        (Accepted limit data ∧ touched limit data = data ∧ ret = ERR_OK ∧ current = data ∧
            merge = data ∨
          ¬ Accepted limit data ∧ ret = EdmReturnErrCode.PARAMETER_VERIFICATION_FAILED) := by
  have hsame : touched limit data = [] → ∀ other p, p ∈ protocols config (toString other) ↔
      if other = userId ∧ p ∈ protocolsOf (touched limit data) then isAdd = true
      else p ∈ protocols config (toString other) := by
    intro hnil other p
    rw [hnil, if_neg fun heq => List.not_mem_nil heq.2]
  unfold handle
  by_cases hnil : data = []
  · rw [if_pos hnil]
    refine ⟨_, _, _, _, rfl, h, hsame ?_, .inr ⟨fun haccepted => haccepted.1 hnil, rfl⟩⟩
    rw [hnil]
    exact ite_self _
  · rw [if_neg hnil]
    by_cases hlimit : data.length > limit
    · rw [if_pos hlimit]
      refine ⟨_, _, _, _, rfl, h, hsame (if_pos hlimit), .inr ⟨fun haccepted => ?_, rfl⟩⟩
      exact absurd haccepted.2.1 (Nat.not_le.mpr hlimit)
    · rw [if_neg hlimit]
      have htouched : touched limit data =
        data.takeWhile isProtocol := if_neg hlimit
      obtain ⟨hproper, hprotocols, hcode⟩ :=
        updateProtocols_spec userId isAdd data h
      dsimp only
      rw [htouched]
      rcases hcode with ⟨hall, hcode⟩ | ⟨hnot, hcode⟩
      · rw [hcode]
        refine ⟨_, _, _, _, rfl, hproper, hprotocols, .inl ⟨⟨hnil, Nat.not_lt.mp hlimit, hall⟩,
          List.takeWhile_eq_self_iff.mpr hall, rfl, rfl, rfl⟩⟩
      · rw [hcode]
        exact ⟨_, _, _, _, rfl, hproper, hprotocols,
          .inr ⟨fun haccepted => hnot haccepted.2.2, rfl⟩⟩

end Handlers

/-! ### One operation -/

section Step

variable {C : ArrayCJson} {order : HashOrder} {s s' : AccountsState Config} {userId : Int}
  {admin : AdminName}

theorem policyName_ne : POLICY_DISALLOWED_NEARLINK_PROTOCOLS ≠ "" := by decide

/-- A text of a list. -/
def IsText (C : ArrayCJson) (policy : String) : Prop := ∃ data, policy = serialize C data ""

theorem isText_empty : IsText C "" := ⟨[], rfl⟩

abbrev Readable (C : ArrayCJson) (store : UserStore) : Prop :=
  TextStore (IsText C) POLICY_DISALLOWED_NEARLINK_PROTOCOLS store

theorem itemsOf_serialize (data : List Int32) :
    itemsOf C (serialize C data "") = {p | p ∈ protocolsOf data} := by
  rw [itemsOf, deserialize_serialize]
  rfl

theorem itemsOf_empty : itemsOf C "" = ∅ :=
  (itemsOf_serialize []).trans (Set.eq_empty_iff_forall_notMem.mpr fun _ => List.not_mem_nil)

theorem IsText.read {policy : String} (h : IsText C policy) :
    ∃ data, (serializer C).deserialize policy = some data ∧
      IPluginTemplate.deserializeNonempty (serializer C) policy = some data := by
  obtain ⟨data, rfl⟩ := h
  have hread : (serializer C).deserialize (serialize C data "") = some data :=
    deserialize_serialize data
  by_cases hempty : serialize C data "" = ""
  · rw [hempty] at hread ⊢
    have hnil : [] = data := Option.some.inj (deserialize_empty.symm.trans hread)
    exact ⟨data, hread, hnil ▸ rfl⟩
  · refine ⟨data, hread, ?_⟩
    rw [IPluginTemplate.deserializeNonempty, if_neg hempty]
    exact hread

theorem getOthersMergePolicyData_text (order : HashOrder) (userId : Int) (admin : AdminName)
    {t : PluginState Config} (h : Readable C t.store) :
    IsText C ((plugin C order userId).getOthersMergePolicyData t.store.manager admin) := by
  have hread : ∀ v, v ∈ othersValues order t.store.manager POLICY_DISALLOWED_NEARLINK_PROTOCOLS
      admin → (serializer C).deserialize v = some ((deserialize C v).getD []) := by
    intro v hv
    obtain ⟨-, other, -, rfl⟩ := (h.good.mem_othersValues order admin).mp hv
    obtain ⟨data, hdata, -⟩ := (h.text other).read
    have hdata : deserialize C _ = some data := hdata
    show deserialize C _ = _
    rw [hdata]
    rfl
  have htext : (plugin C order userId).getOthersMergePolicyData t.store.manager admin = _ :=
    getOthersMergePolicyData_read _ h.good order admin hread
  rw [htext]
  split
  · exact isText_empty
  · exact ⟨_, rfl⟩

/-- A set or a removal is accepted and stored, or fails after what it has touched. -/
theorem request_spec {t : PluginState Config} (h : Readable C t.store) (hconfig : Proper t.modules)
    (order : HashOrder) (userId : Int) (admin : AdminName) (limit : Nat) (isAdd : Bool)
    (data : List Int32) :
    ∃ ret config handled, Proper config ∧
      (∀ other p, p ∈ protocols config (toString other) ↔
        if other = userId ∧ p ∈ protocolsOf (touched limit data) then isAdd = true
        else p ∈ protocols t.modules (toString other)) ∧
      IPluginTemplate.handlePolicy (serializer C) (handle limit isAdd userId) t.modules (some data)
          (PluginManager.handlePolicyData (plugin C order userId) t admin) =
        (ret, config, handled) ∧
      (Accepted limit data ∧ touched limit data = data ∧ ret = ERR_OK ∧
          handled = ⟨serialize C data "", serialize C data "",
            t.store.manager.policyValue admin POLICY_DISALLOWED_NEARLINK_PROTOCOLS !=
              serialize C data ""⟩ ∨
        ¬ Accepted limit data ∧ failed ret = true) := by
  obtain ⟨current, -, hcurrent⟩ := (h.text admin).read
  obtain ⟨merged, -, hmerged⟩ :=
    (getOthersMergePolicyData_text order userId admin h).read
  obtain ⟨ret, config, after, merge, hhandle, hproper, hprotocols, hcases⟩ :=
    handle_spec limit isAdd userId data hconfig current merged
  unfold IPluginTemplate.handlePolicy
  dsimp only
  have hcurrent : IPluginTemplate.deserializeNonempty (serializer C)
    (PluginManager.handlePolicyData (plugin C order userId) t admin).policyData = some current :=
      hcurrent
  have hmerged : IPluginTemplate.deserializeNonempty (serializer C)
    (PluginManager.handlePolicyData (plugin C order userId) t admin).mergePolicyData =
      some merged := hmerged
  rw [hcurrent]
  dsimp only
  rw [hmerged]
  dsimp only
  rw [hhandle]
  rcases hcases with ⟨haccepted, htouched, rfl, rfl, rfl⟩ | ⟨hrejected, rfl⟩
  · exact ⟨ERR_OK, config, _, hproper, hprotocols, rfl,
      .inl ⟨haccepted, htouched, rfl, rfl⟩⟩
  · exact ⟨EdmReturnErrCode.PARAMETER_VERIFICATION_FAILED, config, _, hproper, hprotocols, rfl,
      .inr ⟨hrejected, rfl⟩⟩

/-- The file is right again where it has changed as what the admins of an account store. -/
theorem FollowsUnion.written (hunion : FollowsUnion C s) {data : List Int32} {isAdd : Bool}
    (hprotocols : ∀ other p, p ∈ protocols s'.modules (toString other) ↔
      if other = userId ∧ p ∈ protocolsOf data then isAdd = true
      else p ∈ protocols s.modules (toString other))
    (hothers : ∀ other, other ≠ userId → s'.stores other = s.stores other)
    (huser : ∀ p, p ∈ held (listed C s' userId) ↔
      if p ∈ protocolsOf data then isAdd = true else p ∈ held (listed C s userId)) :
    FollowsUnion C s' := by
  intro other
  refine Set.ext fun p => (hprotocols other p).trans ?_
  have hbefore : p ∈ protocols s.modules (toString other) ↔ p ∈ held (listed C s other) :=
    Set.ext_iff.mp (hunion other) p
  by_cases hother : other = userId
  · subst hother
    rw [huser]
    simp only [true_and, hbefore]
  · rw [if_neg fun heq => hother heq.1, hbefore]
    show _ ↔ p ∈ held (itemsHeld _ _ (s'.stores other))
    rw [hothers other hother]

/-- What an operation keeps whatever it does. -/
structure Sound (C : ArrayCJson) (s : AccountsState Config) : Prop where
  readable : ∀ userId, Readable C (s.stores userId)
  config : Proper s.modules

/-- A set or a removal: what becomes of the file, and of what the admin stores. -/
theorem request_step (h : Sound C s) {request : Request} {limit : Nat} {isAdd : Bool}
    (hhandler : ∀ policyData, onHandlePolicy C userId s.modules request policyData =
      IPluginTemplate.handlePolicy (serializer C) (handle limit isAdd userId) s.modules
        (some (getPolicy request.data)) policyData)
    (hs' : step C order s ⟨userId, .update admin ⟨.done, .done⟩ request⟩ = s') :
    Sound C s' ∧
      (∀ other p, p ∈ protocols s'.modules (toString other) ↔
        if other = userId ∧ p ∈ protocolsOf (touched limit (getPolicy request.data)) then
          isAdd = true
        else p ∈ protocols s.modules (toString other)) ∧
      (Accepted limit (getPolicy request.data) ∧
          touched limit (getPolicy request.data) = getPolicy request.data ∧
          listed C s' userId = Function.update (listed C s userId) admin
            {p | p ∈ protocolsOf (getPolicy request.data)} ∨
        ¬ Accepted limit (getPolicy request.data) ∧ s'.stores userId = s.stores userId ∧
          (PluginManager.updateDevicePolicy (plugin C order userId) (s.account userId)
            ⟨.done, .done⟩ admin request).1 ≠ ERR_OK) := by
  have hreadable : Readable C (s.account userId).store := h.readable userId
  obtain ⟨ret, config, handled, hconfig, hprotocols, hcall, hcases⟩ := request_spec hreadable
    h.config order userId admin limit isAdd (getPolicy request.data)
  have hcall : (plugin C order userId).onHandlePolicy (s.account userId).store.manager
      (s.account userId).modules request
        (PluginManager.handlePolicyData (plugin C order userId) (s.account userId) admin) =
          (ret, config, handled) := (hhandler _).trans hcall
  have haccount := account_accountStep hs'
  have hstore : s'.stores userId = _ := congrArg PluginState.store haccount
  have hmodules : s'.modules = _ := congrArg PluginState.modules haccount
  rcases hcases with ⟨haccepted, htouched, rfl, rfl⟩ | ⟨hrejected, hfailed⟩
  · obtain ⟨hafter, hsaved⟩ := policyStep_update_ok (plugin C order userId) admin hreadable.good
      policyName_ne rfl hcall bne_iff_ne
    have hmodules := hmodules.trans hafter
    rw [← hstore] at hsaved
    have hown : Readable C (s'.stores userId) := by
      rcases hsaved with ⟨-, hsame⟩ | ⟨-, hsaved⟩
      · rw [hsame]
        exact hreadable
      · exact hreadable.saved hsaved ⟨_, rfl⟩ ⟨_, rfl⟩
    refine ⟨⟨accountStep_stores h.readable hs' hown, hmodules ▸ hconfig⟩, ?_, .inl ⟨haccepted,
      htouched, ?_⟩⟩
    · rw [hmodules]
      exact hprotocols
    · exact (itemsHeld_update_ok admin (itemsOf C) hsaved).trans
        (congrArg _ (itemsOf_serialize _))
  · obtain ⟨hafter, hsaved⟩ :=
      policyStep_update_cases (plugin C order userId) admin hreadable.good policyName_ne hcall
    have hmodules := hmodules.trans hafter
    have hsame : s'.stores userId = s.stores userId := by
      rcases hsaved with ⟨-, hsame⟩ | ⟨hok, -, -⟩
      · exact hstore.trans hsame
      · rw [hfailed] at hok
        cases hok
    have hown : Readable C (s'.stores userId) := by
      rw [hsame]
      exact hreadable
    refine ⟨⟨accountStep_stores h.readable hs' hown, hmodules ▸ hconfig⟩, ?_, .inr ⟨hrejected,
      hsame, ?_⟩⟩
    · rw [hmodules]
      exact hprotocols
    · rw [PluginManager.updateDevicePolicy_failed hcall hfailed]
      exact bne_iff_ne.mp hfailed

theorem set_step (h : Sound C s) (hunion : FollowsUnion C s) {request : Request}
    (htype : request.type = .set)
    (hkeeps : Keeps C s ⟨userId, .update admin ⟨.done, .done⟩ request⟩)
    (hs' : step C order s ⟨userId, .update admin ⟨.done, .done⟩ request⟩ = s') :
    Sound C s' ∧ FollowsUnion C s' := by
  obtain ⟨haccepted, hrejected⟩ := hkeeps.2.1 htype
  have hhandler : ∀ policyData, onHandlePolicy C userId s.modules request policyData =
      IPluginTemplate.handlePolicy (serializer C) (onSetPolicy userId) s.modules
        (some (getPolicy request.data)) policyData := by
    intro policyData
    rw [onHandlePolicy, htype]
  obtain ⟨hsound, hprotocols, hcases⟩ := request_step h hhandler hs'
  refine ⟨hsound, hunion.written hprotocols (fun other => stores_accountStep hs') fun p => ?_⟩
  rcases hcases with ⟨hok, htouched, hlisted⟩ | ⟨hnot, hsame, -⟩
  · have hown := haccepted hok p
    rw [htouched, hlisted, held_update, held_eq (listed C s userId) admin]
    split
    · rename_i hp
      exact iff_of_true (.inr hp) rfl
    · rename_i hp
      constructor
      · exact fun hin => hin.imp_right fun hnew => absurd hnew hp
      · rintro (hin | hin)
        · exact .inl hin
        · exact hown hin
  · show p ∈ held (itemsHeld _ _ (s'.stores userId)) ↔ _
    rw [hsame]
    split
    · rename_i hp
      exact iff_of_true (hrejected hnot p hp) rfl
    · exact Iff.rfl

theorem remove_step (h : Sound C s) (hunion : FollowsUnion C s) {request : Request}
    (htype : request.type = .remove)
    (hkeeps : Keeps C s ⟨userId, .update admin ⟨.done, .done⟩ request⟩)
    (hs' : step C order s ⟨userId, .update admin ⟨.done, .done⟩ request⟩ = s') :
    (Sound C s' ∧ FollowsUnion C s') ∧
      (PluginManager.updateDevicePolicy (plugin C order userId) (s.account userId)
        ⟨.done, .done⟩ admin request).1 ≠ ERR_OK := by
  obtain ⟨hnot, htouched⟩ := hkeeps.2.2 htype
  have hhandler : ∀ policyData, onHandlePolicy C userId s.modules request policyData =
      IPluginTemplate.handlePolicy (serializer C) (onRemovePolicy userId) s.modules
        (some (getPolicy request.data)) policyData := by
    intro policyData
    rw [onHandlePolicy, htype]
  obtain ⟨hsound, hprotocols, hcases⟩ := request_step h hhandler hs'
  obtain ⟨-, hsame, hcode⟩ := hcases.resolve_left fun haccepted => hnot haccepted.1
  refine ⟨⟨hsound, hunion.written hprotocols (fun other => stores_accountStep hs') fun p => ?_⟩,
    hcode⟩
  show p ∈ held (itemsHeld _ _ (s'.stores userId)) ↔ _
  rw [hsame]
  split
  · rename_i hp
    exact iff_of_false (htouched p hp) Bool.false_ne_true
  · exact Iff.rfl

/-- A request of another type changes nothing. -/
theorem other_step (h : Sound C s) (hunion : FollowsUnion C s) {request : Request}
    (hset : request.type ≠ .set) (hremove : request.type ≠ .remove)
    (hs' : step C order s ⟨userId, .update admin ⟨.done, .done⟩ request⟩ = s') :
    Sound C s' ∧ FollowsUnion C s' := by
  have hcall : (plugin C order userId).onHandlePolicy (s.account userId).store.manager
      (s.account userId).modules request
        (PluginManager.handlePolicyData (plugin C order userId) (s.account userId) admin) =
          (ERR_OK, s.modules,
            PluginManager.handlePolicyData (plugin C order userId) (s.account userId) admin) := by
    show onHandlePolicy C userId s.modules request _ = _
    unfold onHandlePolicy
    cases htype : request.type with
    | set => exact absurd htype hset
    | remove => exact absurd htype hremove
    | get => rfl
    | unknown => rfl
  have haccount := account_accountStep hs'
  have hstore : s'.stores userId = _ := congrArg PluginState.store haccount
  have hmodules : s'.modules = _ := congrArg PluginState.modules haccount
  obtain ⟨hafter, hsaved⟩ := policyStep_update_cases (plugin C order userId) admin
    (h.readable userId).good policyName_ne hcall
  have hmodules : s'.modules = s.modules := hmodules.trans hafter
  have hsame : ∀ other, s'.stores other = s.stores other := by
    intro other
    by_cases hother : other = userId
    · subst hother
      rcases hsaved with ⟨-, hsame⟩ | ⟨-, hchanged, -⟩
      · exact hstore.trans hsame
      · cases hchanged
    · exact stores_accountStep hs' hother
  refine ⟨⟨fun other => hsame other ▸ h.readable other, hmodules ▸ h.config⟩, fun other => ?_⟩
  show {p | p ∈ protocols s'.modules _} = held (itemsHeld _ _ (s'.stores other))
  rw [hmodules, hsame]
  exact hunion other

theorem removeAdmin_step (h : Sound C s) (hunion : FollowsUnion C s)
    (hkeeps : Keeps C s ⟨userId, .removeAdmin admin ⟨.done, .done⟩ ()⟩)
    (hs' : step C order s ⟨userId, .removeAdmin admin ⟨.done, .done⟩ ()⟩ = s') :
    Sound C s' ∧ FollowsUnion C s' := by
  have hreadable : Readable C (s.account userId).store := h.readable userId
  have haccount := account_accountStep hs'
  have hstore : s'.stores userId = _ := congrArg PluginState.store haccount
  have hmodules : s'.modules = _ := congrArg PluginState.modules haccount
  rcases policyStep_removeAdmin_cases (plugin C order userId) admin hreadable.good policyName_ne
    rfl () with ⟨-, hsame⟩ | ⟨hvalue, hafter, hsaved⟩
  · rw [hsame] at hstore hmodules
    have hstores : ∀ other, s'.stores other = s.stores other := by
      intro other
      by_cases hother : other = userId
      · rw [hother]
        exact hstore
      · exact stores_accountStep hs' hother
    have hmodules : s'.modules = s.modules := hmodules
    refine ⟨⟨fun other => hstores other ▸ h.readable other, hmodules ▸ h.config⟩, fun other => ?_⟩
    show {p | p ∈ protocols s'.modules _} = held (itemsHeld _ _ (s'.stores other))
    rw [hmodules, hstores]
    exact hunion other
  · obtain ⟨hothers, haccounts⟩ := hkeeps.2 hvalue
    have htext : IsText C ((plugin C order userId).getOthersMergePolicyData
        (s.account userId).store.manager admin) := getOthersMergePolicyData_text order userId admin
      hreadable
    rw [← hstore] at hsaved
    have hnone : s'.modules = none := by
      obtain ⟨current, hcurrent, -⟩ := (hreadable.text admin).read
      obtain ⟨merged, hmerged, -⟩ := htext.read
      rw [hmodules, hafter]
      show (IPluginTemplate.adminRemove (serializer C) onAdminRemove _ _ _).2 = none
      have hcurrent : (serializer C).deserialize ((s.account userId).store.manager.policyValue
        admin (plugin C order userId).policyName) = some current := hcurrent
      rw [IPluginTemplate.adminRemove, hcurrent, hmerged]
      rfl
    have hown : Readable C (s'.stores userId) := hreadable.saved hsaved isText_empty htext
    have hlisted : listed C s' userId = Function.update (listed C s userId) admin ∅ :=
      (itemsHeld_saved hsaved).trans (congrArg _ itemsOf_empty)
    refine ⟨⟨accountStep_stores h.readable hs' hown, ?_⟩, fun other => ?_⟩
    · rw [hnone]
      exact ⟨List.nodup_nil, fun name items hlookup => nomatch hlookup⟩
    · have hempty : held (listed C s' other) = ∅ := by
        by_cases hother : other = userId
        · rw [hother, hlisted, held_update, hothers, Set.union_empty]
        · have hsame : s'.stores other = s.stores other := stores_accountStep hs' hother
          show held (itemsHeld _ _ (s'.stores other)) = ∅
          rw [hsame]
          exact haccounts other hother
      rw [hempty, denied, hnone]
      exact Set.eq_empty_iff_forall_notMem.mpr fun _ => List.not_mem_nil

theorem step_ok (order : HashOrder) (h : Sound C s ∧ FollowsUnion C s) (op : Op) (hkeeps : Keeps C s op) :
    (Sound C (step C order s op) ∧ FollowsUnion C (step C order s op)) ∧ OpRight C order s op := by
  obtain ⟨s', hs'⟩ : ∃ s', step C order s op = s' := ⟨_, rfl⟩
  obtain ⟨userId, op⟩ := op
  cases op with
  | update admin writes request =>
    obtain rfl : writes = ⟨.done, .done⟩ := hkeeps.1
    by_cases hremove : request.type = .remove
    · obtain ⟨hinv, hcode⟩ := remove_step h.1 h.2 hremove hkeeps hs'
      rw [hs']
      exact ⟨hinv, fun _ hok => absurd hok hcode⟩
    · have hright : OpRight C order s ⟨userId, .update admin ⟨.done, .done⟩ request⟩ :=
        fun htype => absurd htype hremove
      refine ⟨?_, hright⟩
      rw [hs']
      by_cases hset : request.type = .set
      · exact set_step h.1 h.2 hset hkeeps hs'
      · exact other_step h.1 h.2 hset hremove hs'
  | removeAdmin admin writes reply =>
    obtain rfl : writes = ⟨.done, .done⟩ := hkeeps.1
    obtain ⟨hsound, hunion⟩ := removeAdmin_step h.1 h.2 hkeeps hs'
    refine ⟨hs' ▸ ⟨hsound, hunion⟩, fun other p _ hp hheld => hp ?_⟩
    rw [hs'] at hheld ⊢
    rw [hunion other]
    exact hheld

theorem boot_ok : Sound C boot ∧ FollowsUnion C boot := by
  refine ⟨⟨fun userId => textStore_new isText_empty userId, List.nodup_nil,
    fun name items hlookup => nomatch hlookup⟩, fun userId => ?_⟩
  have hnone : held (listed C boot userId) = ∅ := held_new itemsOf_empty userId
  rw [hnone]
  exact Set.eq_empty_iff_forall_notMem.mpr fun _ => List.not_mem_nil

end Step

/-! ### Runs -/

namespace OneProtocol

def request (type : FuncOperateType) (admin : AdminName) (data : List Int32) : Op :=
  ⟨100, .update admin ⟨.done, .done⟩ ⟨type, data⟩⟩

/-- An admin denies two protocols and removes one of them. -/
def ops : List Op :=
  [request .set firstAdmin [SSAP, DATA_TRANSFER], request .remove firstAdmin [SSAP]]

end OneProtocol

end DisallowedNearlinkProtocolsPlugin

end Edm
