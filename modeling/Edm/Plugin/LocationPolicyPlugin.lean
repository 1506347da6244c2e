import Edm.Admin.Admin
import Edm.Plugin.IntSerializer
import Edm.Plugin.TemplatePolicy

/-! `LocationPolicyPlugin`: the location service, which one admin at a time disallows or forces
open. -/

set_option autoImplicit false

namespace Edm

open Library

def POLICY_LOCATION_POLICY : String := "location_policy"

namespace LocationPolicy

def DEFAULT_LOCATION_SERVICE : Int32 := 0
def DISALLOW_LOCATION_SERVICE : Int32 := 1
def FORCE_OPEN_LOCATION_SERVICE : Int32 := 2

end LocationPolicy

namespace LocationPolicyPlugin

/-- The parameter, which is empty while it is absent, and whether the locator is enabled. -/
structure Modules where
  parameter : String
  enabled : Bool

def setDefaultLocationPolicy (modules : Modules) : Modules where
  parameter := "none"
  enabled := if modules.parameter = "force_open" then false else modules.enabled

def onSetPolicy (modules : Modules) (data currentData mergeData : Int32) :
    ErrCode × Modules × Int32 × Int32 :=
  if mergeData ≠ LocationPolicy.DEFAULT_LOCATION_SERVICE then
    (EdmReturnErrCode.PARAM_ERROR, modules, currentData, mergeData)
  else if data = LocationPolicy.DEFAULT_LOCATION_SERVICE then
    (ERR_OK, setDefaultLocationPolicy modules, data, data)
  else if data = LocationPolicy.DISALLOW_LOCATION_SERVICE then
    (ERR_OK, ⟨"disallow", false⟩, data, data)
  else if data = LocationPolicy.FORCE_OPEN_LOCATION_SERVICE then
    (ERR_OK, ⟨"force_open", true⟩, data, data)
  else (EdmReturnErrCode.PARAM_ERROR, modules, currentData, mergeData)

structure Request where
  type : FuncOperateType
  data : Int32

def onHandlePolicy (uninitialized : Int32) (modules : Modules) (request : Request)
    (policyData : HandlePolicyData) : ErrCode × Modules × HandlePolicyData :=
  match request.type with
  | .set =>
    IPluginTemplate.handlePolicy (IntSerializer.serializer uninitialized) onSetPolicy modules
      (some request.data) policyData
  | _ => (ERR_OK, modules, policyData)

def onAdminRemove (modules : Modules) (policyData _ : Int32) : ErrCode × Modules :=
  if policyData = LocationPolicy.DEFAULT_LOCATION_SERVICE then (ERR_OK, modules)
  else (ERR_OK, setDefaultLocationPolicy modules)

/-- `uninitialized` is what the merged data has before the others' policies are merged into it, and
what the data of a handler has where no policy is stored.  One operation uses at most one of
them. -/
def plugin (order : HashOrder) (uninitialized : Int32) : Plugin Modules Request Unit Empty where
  policyName := POLICY_LOCATION_POLICY
  needSave := true
  getOthersMergePolicyData :=
    IPluginTemplate.getOthersMergePolicyData (IntSerializer.serializer uninitialized) order
      POLICY_LOCATION_POLICY
  onHandlePolicy _ := onHandlePolicy uninitialized
  onAdminRemove modules _ :=
    IPluginTemplate.adminRemove (IntSerializer.serializer uninitialized) onAdminRemove modules
  onPluginEvent _ event := nomatch event

/-! ### Runs -/

/-- An operation, with the order of the others' values and the memory it meets. -/
structure Op where
  order : HashOrder
  uninitialized : Int32
  op : PolicyOp Request Unit

abbrev State := PluginState Modules

def step (s : State) (op : Op) : State := policyStep (plugin op.order op.uninitialized) s op.op

/-- A user without policies, and no parameter. -/
def boot (enabled : Bool) (userId : Int) : State := PluginState.boot ⟨"", enabled⟩ userId

/-- The policy that a text stands for. -/
def policyOf (text : String) : Int32 := (IntSerializer.deserialize text).getD 0

section Run

variable (s : State)

/-- The policy that an admin stores. -/
def stored (admin : AdminName) : Int32 :=
  policyOf (s.store.manager.policyValue admin POLICY_LOCATION_POLICY)

def combined : Int32 := policyOf (s.store.manager.policyValue "" POLICY_LOCATION_POLICY)

/-- What the parameter is for a policy. -/
def Corresponds (policy : Int32) (parameter : String) : Prop :=
  policy = LocationPolicy.DEFAULT_LOCATION_SERVICE ∧ (parameter = "" ∨ parameter = "none") ∨
    policy = LocationPolicy.DISALLOW_LOCATION_SERVICE ∧ parameter = "disallow" ∨
    policy = LocationPolicy.FORCE_OPEN_LOCATION_SERVICE ∧ parameter = "force_open"

/-- At most one admin stores a policy other than the default, and that is the combined policy. -/
structure SingleOwner : Prop where
  single : ∀ a b, stored s a ≠ 0 → stored s b ≠ 0 → a = b
  owner : ∀ a, stored s a ≠ 0 → combined s = stored s a
  none : (∀ a, stored s a = 0) → combined s = 0
  inForce : Corresponds (combined s) s.modules.parameter

/-- An operation of another admin leaves the owner's policy. -/
def Right (op : Op) : Prop :=
  ∀ owner, owner ≠ op.op.admin → stored s owner ≠ 0 →
    stored (step s op) owner = stored s owner ∧ combined (step s op) = combined s ∧
      (step s op).modules.parameter = s.modules.parameter

/-- Writes take effect.  When an admin is removed and others store the default, only the default,
the merge finds the default in its memory. -/
def Keeps (op : Op) : Prop :=
  op.op.writes = ⟨.done, .done⟩ ∧ match op.op with
    | .update _ _ _ => True
    | .removeAdmin admin _ _ =>
      s.store.manager.policyValue admin POLICY_LOCATION_POLICY ≠ "" →
        (∃ other, other ≠ admin ∧ s.store.manager.policyValue other POLICY_LOCATION_POLICY ≠ "") →
          (∀ other, other ≠ admin → stored s other = 0) → op.uninitialized = 0

end Run

/-! ### One operation -/

def IsText (text : String) : Prop := text = "" ∨ ∃ n, text = IntSerializer.serialize n

theorem policyOf_serialize (n : Int32) : policyOf (IntSerializer.serialize n) = n := by
  rw [policyOf, IntSerializer.deserialize_serialize]
  rfl

theorem IsText.deserialize {text : String} (h : IsText text) :
    IntSerializer.deserialize text = some (policyOf text) := by
  rcases h with rfl | ⟨n, rfl⟩
  · rfl
  · rw [policyOf_serialize, IntSerializer.deserialize_serialize]

theorem policyName_ne : POLICY_LOCATION_POLICY ≠ "" := by decide

section Step

variable {s : State} {order : HashOrder} {uninitialized : Int32} {admin : AdminName}

abbrev Readable (s : State) : Prop := TextStore IsText POLICY_LOCATION_POLICY s.store

/-- The others' merged policy: none, where no other admin stores one; the memory that the merge
meets, where all others store the default; else a policy that another admin stores. -/
theorem others_cases (h : Readable s) (order : HashOrder) (uninitialized : Int32)
    (admin : AdminName) :
    (plugin order uninitialized).getOthersMergePolicyData s.store.manager admin = "" ∧
        (∀ other, other ≠ admin → stored s other = 0) ∨
      ∃ merged, (plugin order uninitialized).getOthersMergePolicyData s.store.manager admin =
          IntSerializer.serialize merged ∧
        (∃ other, other ≠ admin ∧
          s.store.manager.policyValue other POLICY_LOCATION_POLICY ≠ "") ∧
        ((∀ other, other ≠ admin → stored s other = 0) ∧ merged = uninitialized ∨
          ∃ other, other ≠ admin ∧ stored s other = merged ∧ merged ≠ 0) := by
  obtain ⟨values, hvalues⟩ : ∃ values,
    values = othersValues order s.store.manager POLICY_LOCATION_POLICY admin := ⟨_, rfl⟩
  have hmem : ∀ v, v ∈ values ↔ v ≠ "" ∧ ∃ other : AdminName, other ≠ admin ∧
      s.store.manager.policyValue other POLICY_LOCATION_POLICY = v := by
    intro v
    rw [hvalues]
    exact h.good.mem_othersValues order admin
  have hread : ∀ v, v ∈ othersValues order s.store.manager POLICY_LOCATION_POLICY admin →
      (IntSerializer.serializer uninitialized).deserialize v = some (policyOf v) := by
    intro v hv
    obtain ⟨-, other, -, rfl⟩ := (h.good.mem_othersValues order admin).mp hv
    exact (h.text other).deserialize
  have hresult : (plugin order uninitialized).getOthersMergePolicyData s.store.manager admin =
      if values = [] then ""
      else IntSerializer.serialize
        (IntSerializer.mergePolicy (values.map policyOf) uninitialized) := by
    rw [hvalues]
    exact getOthersMergePolicyData_read _ h.good order admin hread
  -- An admin without a text stores the default.
  have hnone : ∀ other : AdminName, other ≠ admin → stored s other ≠ 0 →
      s.store.manager.policyValue other POLICY_LOCATION_POLICY ∈ values := by
    intro other hother hstored
    refine (hmem _).mpr ⟨fun hempty => hstored ?_, other, hother, rfl⟩
    rw [stored, hempty]
    rfl
  by_cases hnil : values = []
  · rw [if_pos hnil] at hresult
    refine .inl ⟨hresult, fun other hother => by_contra fun hstored => ?_⟩
    have hvalue := hnone other hother hstored
    rw [hnil] at hvalue
    exact List.not_mem_nil hvalue
  · rw [if_neg hnil] at hresult
    obtain ⟨v, hv⟩ := List.exists_mem_of_ne_nil values hnil
    obtain ⟨hne, holder, hholder, rfl⟩ := (hmem v).mp hv
    refine .inr ⟨_, hresult, ⟨holder, hholder, hne⟩, ?_⟩
    rcases IntSerializer.mergePolicy_cases (values.map policyOf) uninitialized with
      ⟨hzero, hmerge⟩ | ⟨hmerged, hne⟩
    · refine .inl ⟨fun other hother => by_contra fun hstored => hstored ?_, hmerge⟩
      exact hzero _ (List.mem_map_of_mem (hnone other hother hstored))
    · obtain ⟨w, hw, hpolicy⟩ := List.mem_map.mp hmerged
      obtain ⟨-, other, hother, rfl⟩ := (hmem w).mp hw
      exact .inr ⟨other, hother, hpolicy, hne⟩

/-- A handler reads the default only where no other admin stores another policy. -/
theorem others_read (h : Readable s) (order : HashOrder) (uninitialized : Int32)
    (admin : AdminName) :
    ∃ others, IPluginTemplate.deserializeNonempty (IntSerializer.serializer uninitialized)
        ((plugin order uninitialized).getOthersMergePolicyData s.store.manager admin) =
          some others ∧
      (others = 0 → ∀ other, other ≠ admin → stored s other = 0) := by
  rcases others_cases h order uninitialized admin with ⟨htext, hzero⟩ | ⟨merged, htext, -, hmerged⟩
  · rw [htext]
    exact ⟨uninitialized, rfl, fun _ => hzero⟩
  · rw [htext]
    refine ⟨merged, ?_, ?_⟩
    · rw [IPluginTemplate.deserializeNonempty, if_neg (IntSerializer.serialize_ne_empty merged)]
      exact IntSerializer.deserialize_serialize merged
    · rcases hmerged with ⟨hzero, -⟩ | ⟨-, -, -, hne⟩
      · exact fun _ => hzero
      · exact fun hmerged => absurd hmerged hne

theorem own_read (h : Readable s) (uninitialized : Int32) (admin : AdminName) :
    ∃ current, IPluginTemplate.deserializeNonempty (IntSerializer.serializer uninitialized)
      (s.store.manager.policyValue admin POLICY_LOCATION_POLICY) = some current := by
  rcases h.text admin with htext | ⟨n, htext⟩
  · rw [htext]
    exact ⟨uninitialized, rfl⟩
  · rw [htext, IPluginTemplate.deserializeNonempty,
      if_neg (IntSerializer.serialize_ne_empty n)]
    exact ⟨n, IntSerializer.deserialize_serialize n⟩

/-- A set fails, or no other admin stores a policy other than the default. -/
theorem onSetPolicy_cases (modules : Modules) (data current others : Int32) :
    (∃ ret, ret ≠ ERR_OK ∧
        onSetPolicy modules data current others = (ret, modules, current, others)) ∨
      others = 0 ∧ ∃ modules', Corresponds data modules'.parameter ∧
        onSetPolicy modules data current others = (ERR_OK, modules', data, data) := by
  unfold onSetPolicy
  by_cases hothers : others = LocationPolicy.DEFAULT_LOCATION_SERVICE
  · rw [if_neg (not_not.mpr hothers)]
    by_cases hdefault : data = LocationPolicy.DEFAULT_LOCATION_SERVICE
    · rw [if_pos hdefault]
      exact .inr ⟨hothers, _, .inl ⟨hdefault, .inr rfl⟩, rfl⟩
    rw [if_neg hdefault]
    by_cases hdisallow : data = LocationPolicy.DISALLOW_LOCATION_SERVICE
    · rw [if_pos hdisallow]
      exact .inr ⟨hothers, _, .inr (.inl ⟨hdisallow, rfl⟩), rfl⟩
    rw [if_neg hdisallow]
    by_cases hforce : data = LocationPolicy.FORCE_OPEN_LOCATION_SERVICE
    · rw [if_pos hforce]
      exact .inr ⟨hothers, _, .inr (.inr ⟨hforce, rfl⟩), rfl⟩
    · rw [if_neg hforce]
      exact .inl ⟨_, by decide, rfl⟩
  · rw [if_pos hothers]
    exact .inl ⟨_, by decide, rfl⟩

/-- The policy after an admin's has become the combined one, where all others store the default. -/
theorem singleOwner_of_set {t : State} {data : Int32} (hself : stored t admin = data)
    (hothers : ∀ other, other ≠ admin → stored t other = 0) (hcombined : combined t = data)
    (hforce : Corresponds data t.modules.parameter) : SingleOwner t where
  single a b ha hb :=
    (by_contra fun hne => ha (hothers a hne) : a = admin).trans
      (by_contra fun hne => hb (hothers b fun heq => hne heq.symm) : admin = b)
  owner a ha := by
    obtain rfl : a = admin := by_contra fun hne => ha (hothers a hne)
    rw [hcombined, hself]
  none hnone := hcombined.trans (hself.symm.trans (hnone admin))
  inForce := hcombined ▸ hforce

/-- What holds of the values and the parameter holds of the same ones. -/
theorem SingleOwner.congr (h : SingleOwner s) {t : State} (hstored : ∀ a, stored t a = stored s a)
    (hcombined : combined t = combined s) (hparameter : t.modules.parameter = s.modules.parameter) :
    SingleOwner t where
  single a b ha hb := h.single a b (hstored a ▸ ha) (hstored b ▸ hb)
  owner a ha := by
    rw [hcombined, hstored]
    exact h.owner a (hstored a ▸ ha)
  none hnone := by
    rw [hcombined]
    exact h.none fun a => hstored a ▸ hnone a
  inForce := by
    rw [hcombined, hparameter]
    exact h.inForce

/-- What an operation leaves. -/
def Sound (s : State) (op : Op) : Prop :=
  Readable (step s op) ∧ SingleOwner (step s op) ∧ Right s op

theorem sound_same (howner : SingleOwner s) {op : Op} (hread : Readable (step s op))
    (hstored : ∀ a, stored (step s op) a = stored s a)
    (hcombined : combined (step s op) = combined s)
    (hparameter : (step s op).modules.parameter = s.modules.parameter) : Sound s op :=
  ⟨hread, howner.congr hstored hcombined hparameter,
    fun owner _ _ => ⟨hstored owner, hcombined, hparameter⟩⟩

theorem sound_unchanged (h : Readable s) (howner : SingleOwner s) {op : Op}
    (hmodules : (step s op).modules = s.modules) (hstore : (step s op).store = s.store) :
    Sound s op := by
  refine sound_same howner ?_ (fun a => ?_) ?_ (congrArg Modules.parameter hmodules)
  · rw [Readable, hstore]
    exact h
  · rw [stored, hstore]
    rfl
  · rw [combined, hstore]
    rfl

theorem sound_set (h : Readable s) (howner : SingleOwner s) (data : Int32) :
    Sound s ⟨order, uninitialized, .update admin ⟨.done, .done⟩ ⟨.set, data⟩⟩ := by
  obtain ⟨current, hcurrent⟩ := own_read h uninitialized admin
  obtain ⟨others, hothers, hzero⟩ := others_read h order uninitialized admin
  rcases onSetPolicy_cases s.modules data current others with
    ⟨ret, hret, hresult⟩ | ⟨hothers0, modules', hforce, hresult⟩
  · obtain ⟨-, hmodules, hstore⟩ := template_failed (plugin order uninitialized) admin h.good
      policyName_ne ⟨.set, data⟩ hcurrent hothers (fun _ => rfl) hresult hret
    exact sound_unchanged h howner hmodules hstore
  · obtain ⟨-, hmodules, hstored⟩ := template_ok (plugin order uninitialized) admin h.good
      policyName_ne rfl ⟨.set, data⟩ hcurrent hothers (fun _ => rfl) hresult rfl rfl
    have hzero := hzero hothers0
    have hdata : stored (step s ⟨order, uninitialized, .update admin ⟨.done, .done⟩ ⟨.set, data⟩⟩)
        admin = data :=
      (congrArg policyOf hstored.value_self).trans (policyOf_serialize data)
    have hother : ∀ other, other ≠ admin → stored (step s ⟨order, uninitialized,
        .update admin ⟨.done, .done⟩ ⟨.set, data⟩⟩) other = 0 := fun other hne =>
      (congrArg policyOf (hstored.value_other hne)).trans (hzero other hne)
    have hcombined : combined (step s ⟨order, uninitialized,
        .update admin ⟨.done, .done⟩ ⟨.set, data⟩⟩) = data := by
      rcases hstored.combined with ⟨hvalue, hsame⟩ | ⟨-, hmerged⟩
      · have hself : stored s admin = data :=
          (congrArg policyOf hvalue).trans (policyOf_serialize data)
        refine (congrArg policyOf hsame).trans ?_
        by_cases hdefault : data = 0
        · rw [hdefault]
          refine howner.none fun a => ?_
          by_cases ha : a = admin
          · rw [ha, hself, hdefault]
          · exact hzero a ha
        · exact (howner.owner admin (hself ▸ hdefault)).trans hself
      · exact (congrArg policyOf hmerged).trans (policyOf_serialize data)
    refine ⟨h.stored hstored (.inr ⟨data, rfl⟩) (.inr ⟨data, rfl⟩), ?_, ?_⟩
    · exact singleOwner_of_set hdata hother hcombined (hmodules ▸ hforce)
    · exact fun owner hne hstored => absurd (hzero owner hne) hstored

theorem sound_update (h : Readable s) (howner : SingleOwner s) (request : Request) :
    Sound s ⟨order, uninitialized, .update admin ⟨.done, .done⟩ request⟩ := by
  obtain ⟨type, data⟩ := request
  by_cases htype : type = .set
  · rw [htype]
    exact sound_set h howner data
  · have hcall : onHandlePolicy uninitialized s.modules ⟨type, data⟩
        (PluginManager.handlePolicyData (plugin order uninitialized) s admin) =
          (ERR_OK, s.modules,
            PluginManager.handlePolicyData (plugin order uninitialized) s admin) := by
      cases type with
      | set => exact absurd rfl htype
      | _ => rfl
    obtain ⟨hmodules, hstore⟩ := update_unchanged (plugin order uninitialized) admin h.good
      policyName_ne hcall
    exact sound_unchanged h howner hmodules hstore

/-- What is left when an admin is removed and all others store the default. -/
theorem sound_removeAdmin_last (howner : SingleOwner s) {op : Op} (hread : Readable (step s op))
    (hop : op.op.admin = admin) (hzero : ∀ other, other ≠ admin → stored s other = 0)
    (hself : stored (step s op) admin = 0)
    (hother : ∀ other, other ≠ admin → stored (step s op) other = stored s other)
    (hcombined : combined (step s op) = 0) {others : Int32}
    (hmodules : (step s op).modules = (onAdminRemove s.modules (stored s admin) others).2) :
    Sound s op := by
  refine ⟨hread, singleOwner_of_set hself (fun other hne => (hother other hne).trans
    (hzero other hne)) hcombined ?_, fun owner hne hstored => ?_⟩
  · rw [hmodules, onAdminRemove]
    by_cases hadmin : stored s admin = LocationPolicy.DEFAULT_LOCATION_SERVICE
    · rw [if_pos hadmin]
      have hnone : combined s = 0 := howner.none fun a => by
        by_cases ha : a = admin
        · rw [ha]
          exact hadmin
        · exact hzero a ha
      exact hnone ▸ howner.inForce
    · rw [if_neg hadmin]
      exact .inl ⟨rfl, .inr rfl⟩
  · exact absurd (hzero owner (hop ▸ hne)) hstored

/-- What is left when an admin is removed and another owns the policy. -/
theorem sound_removeAdmin_other (howner : SingleOwner s) {op : Op} (hread : Readable (step s op))
    {other : AdminName} (hne : other ≠ admin) (hstored : stored s other ≠ 0)
    (hself : stored (step s op) admin = 0)
    (hother : ∀ other, other ≠ admin → stored (step s op) other = stored s other)
    (hcombined : combined (step s op) = stored s other) {others : Int32}
    (hmodules : (step s op).modules = (onAdminRemove s.modules (stored s admin) others).2) :
    Sound s op := by
  have hadmin : stored s admin = LocationPolicy.DEFAULT_LOCATION_SERVICE :=
    by_contra fun hadmin => hne (howner.single other admin hstored hadmin)
  have hsame : combined (step s op) = combined s :=
    hcombined.trans (howner.owner other hstored).symm
  refine sound_same howner hread (fun a => ?_) hsame ?_
  · by_cases ha : a = admin
    · rw [ha, hself, hadmin]
      rfl
    · exact hother a ha
  · rw [hmodules, onAdminRemove, if_pos hadmin]

theorem sound_removeAdmin (h : Readable s) (howner : SingleOwner s)
    (hkeeps : Keeps s ⟨order, uninitialized, .removeAdmin admin ⟨.done, .done⟩ ()⟩) :
    Sound s ⟨order, uninitialized, .removeAdmin admin ⟨.done, .done⟩ ()⟩ := by
  have hothers := others_cases h order uninitialized admin
  have hmerged : IsText ((plugin order uninitialized).getOthersMergePolicyData s.store.manager
      admin) := by
    rcases hothers with ⟨htext, -⟩ | ⟨merged, htext, -⟩
    · exact .inl htext
    · exact .inr ⟨merged, htext⟩
  rcases template_removeAdmin (plugin order uninitialized) admin h.good policyName_ne rfl ()
    (h.text admin).deserialize hmerged.deserialize fun _ _ => rfl with
    ⟨-, hsame⟩ | ⟨hvalue, hmodules, hsaved⟩
  · exact sound_unchanged h howner (congrArg PluginState.modules hsame)
      (congrArg PluginState.store hsame)
  obtain ⟨op, hop⟩ : ∃ op : Op,
    op = ⟨order, uninitialized, .removeAdmin admin ⟨.done, .done⟩ ()⟩ := ⟨_, rfl⟩
  obtain ⟨merged, hmergedText⟩ : ∃ merged,
    merged = (plugin order uninitialized).getOthersMergePolicyData s.store.manager admin := ⟨_, rfl⟩
  have hstep : step s op =
      policyStep (plugin order uninitialized) s (.removeAdmin admin ⟨.done, .done⟩ ()) := by
    rw [hop]
    rfl
  rw [← hstep] at hmodules hsaved
  rw [← hop]
  have hself : stored (step s op) admin = 0 := congrArg policyOf (hsaved.value_self admin.2)
  have hother : ∀ other, other ≠ admin → stored (step s op) other = stored s other :=
    fun other hne =>
      congrArg policyOf (hsaved.value_other other.2 fun heq => hne (Subtype.ext heq.1))
  have hcombined : combined (step s op) = policyOf merged := by
    rw [hmergedText]
    exact congrArg policyOf hsaved.value_combined
  have hread := h.saved hsaved (.inl rfl) hmerged
  have hadmin : op.op.admin = admin := by
    rw [hop]
    rfl
  rw [← hmergedText] at hothers
  rcases hothers with ⟨htext, hzero⟩ |
    ⟨merged, htext, hholder, ⟨hzero, hmerge⟩ | ⟨other, hne, hstored, hne0⟩⟩
  · rw [htext] at hcombined
    exact sound_removeAdmin_last howner hread hadmin hzero hself hother hcombined hmodules
  · have hmemory : uninitialized = 0 := hkeeps.2 hvalue hholder hzero
    rw [htext, policyOf_serialize, hmerge, hmemory] at hcombined
    exact sound_removeAdmin_last howner hread hadmin hzero hself hother hcombined hmodules
  · rw [htext, policyOf_serialize, ← hstored] at hcombined
    exact sound_removeAdmin_other howner hread hne (hstored ▸ hne0) hself hother hcombined hmodules

theorem sound_step (h : Readable s) (howner : SingleOwner s) (op : Op) (hkeeps : Keeps s op) :
    Sound s op := by
  obtain ⟨order, uninitialized, op⟩ := op
  cases op with
  | update admin writes request =>
    obtain rfl : writes = ⟨.done, .done⟩ := hkeeps.1
    exact sound_update h howner request
  | removeAdmin admin writes reply =>
    obtain rfl : writes = ⟨.done, .done⟩ := hkeeps.1
    exact sound_removeAdmin h howner hkeeps

theorem sound_boot (enabled : Bool) (userId : Int) :
    Readable (boot enabled userId) ∧ SingleOwner (boot enabled userId) := by
  have hvalue : ∀ a, policyOf ((UserPolicyManager.new userId).policyValue a
      POLICY_LOCATION_POLICY) = 0 := by
    intro a
    rw [policyValue_new]
    rfl
  refine ⟨textStore_new (.inl rfl) userId, ?_⟩
  have hfirst : stored (boot enabled userId) firstAdmin = 0 := hvalue firstAdmin
  exact singleOwner_of_set hfirst (fun other _ => hvalue other) (hvalue "") (.inl ⟨rfl, .inl rfl⟩)

end Step

/-- In a run whose operations all meet `Keeps`, at most one admin owns the policy throughout, and
the others leave it. -/
theorem always_singleOwner (enabled : Bool) (userId : Int) (ops : List Op)
    (h : Each step Keeps (boot enabled userId) ops) :
    Always step SingleOwner (boot enabled userId) ops ∧
      Each step Right (boot enabled userId) ops := by
  have hstep : ∀ s op, (Readable s ∧ SingleOwner s) → Keeps s op →
      Readable (step s op) ∧ SingleOwner (step s op) :=
    fun s op hs hkeeps => ⟨(sound_step hs.1 hs.2 op hkeeps).1, (sound_step hs.1 hs.2 op hkeeps).2.1⟩
  have hright : ∀ s op, (Readable s ∧ SingleOwner s) → Keeps s op → Right s op :=
    fun s op hs hkeeps => (sound_step hs.1 hs.2 op hkeeps).2.2
  exact ⟨(always_of_each hstep (sound_boot enabled userId) h).mono fun s hs => hs.2,
    each_of_each hstep hright (sound_boot enabled userId) h⟩

def setOp (uninitialized : Int32) (admin : AdminName) (data : Int32) : Op where
  order := .evaluated
  uninitialized
  op := .update admin ⟨.done, .done⟩ ⟨.set, data⟩

def removeOp (uninitialized : Int32) (admin : AdminName) : Op where
  order := .evaluated
  uninitialized
  op := .removeAdmin admin ⟨.done, .done⟩ ()

/-- An admin disallows the location service and is removed, while another stores the default. -/
theorem always_singleOwner_removed :
    Always step SingleOwner (boot true 100)
        [setOp 0 firstAdmin 0, setOp 0 secondAdmin 1, removeOp 0 secondAdmin] ∧
      Each step Right (boot true 100)
        [setOp 0 firstAdmin 0, setOp 0 secondAdmin 1, removeOp 0 secondAdmin] :=
  always_singleOwner true 100 _ ⟨⟨rfl, trivial⟩, ⟨rfl, trivial⟩, ⟨rfl, fun _ _ _ => rfl⟩, trivial⟩

/-- The merge of stored defaults is what its memory has. -/
theorem removal_merges_memory :
    ¬ ∀ (enabled : Bool) (userId : Int) (ops : List Op),
      Always step SingleOwner (boot enabled userId) ops := by
  intro h
  have hlast : SingleOwner (run step (boot true 100)
      [setOp 0 firstAdmin 0, setOp 0 secondAdmin 1, removeOp 1 secondAdmin]) :=
    (h true 100 [setOp 0 firstAdmin 0, setOp 0 secondAdmin 1, removeOp 1 secondAdmin]).2.2.2
  have hcombined : combined (run step (boot true 100)
      [setOp 0 firstAdmin 0, setOp 0 secondAdmin 1, removeOp 1 secondAdmin]) = 1 := by
    decide +kernel
  have hparameter : (run step (boot true 100)
      [setOp 0 firstAdmin 0, setOp 0 secondAdmin 1, removeOp 1 secondAdmin]).modules.parameter =
        "none" := by decide +kernel
  have hforce := hlast.inForce
  rw [hcombined, hparameter] at hforce
  revert hforce
  unfold Corresponds
  decide

end LocationPolicyPlugin

end Edm
