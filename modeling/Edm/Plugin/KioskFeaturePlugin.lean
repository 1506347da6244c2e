import Edm.Admin.AdminManager
import Edm.Plugin.ArrayIntSerializer
import Edm.Plugin.TemplatePolicy

/-! `KioskFeaturePlugin`: the features that kiosk mode allows, with a system parameter for each. -/

set_option autoImplicit false

namespace Edm

open Library

def POLICY_SET_KIOSK_FEATURE : String := "kiosk_feature"

inductive KioskFeature where
  | ALLOW_NOTIFICATION_CENTER
  | ALLOW_CONTROL_CENTER
  | ALLOW_GESTURE_CONTROL
  | ALLOW_SIDE_DOCK
  deriving DecidableEq

namespace KioskFeature

def code : KioskFeature → Int32
  | .ALLOW_NOTIFICATION_CENTER => 1
  | .ALLOW_CONTROL_CENTER => 2
  | .ALLOW_GESTURE_CONTROL => 3
  | .ALLOW_SIDE_DOCK => 4

def ofCode (data : Int32) : Option KioskFeature :=
  if data = 1 then some .ALLOW_NOTIFICATION_CENTER
  else if data = 2 then some .ALLOW_CONTROL_CENTER
  else if data = 3 then some .ALLOW_GESTURE_CONTROL
  else if data = 4 then some .ALLOW_SIDE_DOCK
  else none

theorem ofCode_eq_some {data : Int32} {f : KioskFeature} :
    ofCode data = some f ↔ data = f.code := by
  constructor
  · intro h
    unfold ofCode at h
    split at h
    · cases h
      assumption
    split at h
    · cases h
      assumption
    split at h
    · cases h
      assumption
    split at h
    · cases h
      assumption
    · cases h
  · rintro rfl
    cases f <;> rfl

theorem code_injective : Function.Injective code := by
  intro f g h
  exact Option.some.inj ((ofCode_eq_some.mpr rfl).symm.trans (ofCode_eq_some.mpr h))

end KioskFeature

namespace KioskFeaturePlugin

open ArrayIntSerializer

/-- The parameters of the features. -/
abbrev Parameters := KioskFeature → Bool

def setDefaultKioskFeatures (isDisallow : Bool) : Parameters := fun _ => isDisallow

def setSpecifiedKioskFeatures (data : Int32) (parameters : Parameters) : ErrCode × Parameters :=
  match KioskFeature.ofCode data with
  | some f => (ERR_OK, Function.update parameters f true)
  | none => (EdmReturnErrCode.PARAMETER_VERIFICATION_FAILED, parameters)

/-- The loop over the features, which ends at the first illegal one. -/
def setFeatures : List Int32 → Parameters → ErrCode × Parameters
  | [], parameters => (ERR_OK, parameters)
  | item :: data, parameters =>
    let (ret, parameters) := setSpecifiedKioskFeatures item parameters
    if ret != ERR_OK then (ret, parameters) else setFeatures data parameters

def onSetPolicy (parameters : Parameters) (data currentData mergeData : List Int32) :
    ErrCode × Parameters × List Int32 × List Int32 :=
  if data = [] then (ERR_OK, setDefaultKioskFeatures false, currentData, mergeData)
  else if EdmConstants.DEFAULT_LOOP_MAX_SIZE < data.length then
    (EdmReturnErrCode.PARAMETER_VERIFICATION_FAILED, parameters, currentData, mergeData)
  else
    let (ret, parameters) := setFeatures data parameters
    if ret != ERR_OK then (ret, parameters, currentData, mergeData)
    else (ERR_OK, parameters, data, data)

/-- A request without a vector cannot be read. -/
structure Request where
  type : FuncOperateType
  data : Option (List Int32)

variable (C : ArrayCJson)

def onHandlePolicy (parameters : Parameters) (request : Request) (policyData : HandlePolicyData) :
    ErrCode × Parameters × HandlePolicyData :=
  match request.type with
  | .set =>
    IPluginTemplate.handlePolicy (serializer C) onSetPolicy parameters
      (request.data.map getPolicy) policyData
  | _ => (ERR_OK, parameters, policyData)

def onAdminRemove (_ : Parameters) (_ _ : List Int32) : ErrCode × Parameters :=
  (ERR_OK, setDefaultKioskFeatures false)

def plugin (order : HashOrder) : Plugin Parameters Request Unit Empty where
  policyName := POLICY_SET_KIOSK_FEATURE
  needSave := true
  getOthersMergePolicyData :=
    IPluginTemplate.getOthersMergePolicyData (serializer C) order POLICY_SET_KIOSK_FEATURE
  onHandlePolicy _ := onHandlePolicy C
  onAdminRemove parameters _ := IPluginTemplate.adminRemove (serializer C) onAdminRemove parameters
  onPluginEvent _ event := nomatch event

abbrev Op := PolicyOp Request Unit

/-- A set whose writes take effect. -/
abbrev setOp (admin : AdminName) (data : List Int32) : Op :=
  .update admin ⟨.done, .done⟩ ⟨.set, some data⟩

/-- A user without policies, and no feature allowed. -/
abbrev boot (userId : Int) : PluginState Parameters :=
  PluginState.boot (setDefaultKioskFeatures false) userId

/-! ### Features -/

/-- The features of a list. -/
def features (data : List Int32) : Set KioskFeature := {f | f.code ∈ data}

/-- Whether all values of a list are features. -/
def Legal (data : List Int32) : Prop :=
  ∀ item, item ∈ data → (KioskFeature.ofCode item).isSome = true

instance (data : List Int32) : Decidable (Legal data) :=
  List.decidableBAll (fun item => (KioskFeature.ofCode item).isSome = true) data

/-- The features before the first illegal value. -/
def beforeIllegal (data : List Int32) : Set KioskFeature :=
  features (data.takeWhile fun item => (KioskFeature.ofCode item).isSome)

section Run

variable (s : PluginState Parameters)

/-- The list that a text stands for. -/
def listOf (policy : String) : List Int32 := (deserialize C policy).getD []

def itemsOf (policy : String) : Set KioskFeature := features (listOf C policy)

/-- The list that an admin stores. -/
abbrev own (admin : AdminName) : List Int32 :=
  listOf C (s.store.manager.policyValue admin POLICY_SET_KIOSK_FEATURE)

/-- The features that an admin stores. -/
abbrev listed (admin : AdminName) : Set KioskFeature :=
  itemsHeld (itemsOf C) POLICY_SET_KIOSK_FEATURE s.store admin

/-- The features of the combined policy. -/
abbrev combined : Set KioskFeature :=
  itemsOf C (s.store.manager.policyValue "" POLICY_SET_KIOSK_FEATURE)

/-- The features whose parameter is true are those of the combined policy. -/
def InForce : Prop := ∀ f, s.modules f = true ↔ f ∈ combined C s

/-- An update that fails leaves the parameters and the store, and a set with the empty list leaves
no feature. -/
structure Right (order : HashOrder) (op : Op) : Prop where
  failed : ∀ admin writes request, op = .update admin writes request →
    failed (policyCode (plugin C order) s op) = true →
      (policyStep (plugin C order) s op).modules = s.modules ∧
        (policyStep (plugin C order) s op).store = s.store
  empty : ∀ admin writes, op = .update admin writes ⟨.set, some []⟩ →
    (∀ f, (policyStep (plugin C order) s op).modules f = false) ∧
      combined C (policyStep (plugin C order) s op) = ∅

/-- A set with a list.  An empty list finds no feature in the combined policy; one with an illegal
value has only features before it that are allowed already; a new list of the admin has all features
of the combined policy, and the list that the admin has already has no others. -/
structure SetKeeps (admin : AdminName) (data : List Int32) : Prop where
  empty : data = [] → combined C s = ∅
  illegal : data.length ≤ EdmConstants.DEFAULT_LOOP_MAX_SIZE → ¬ Legal data →
    beforeIllegal data ⊆ combined C s
  replaced : data ≠ [] → data.length ≤ EdmConstants.DEFAULT_LOOP_MAX_SIZE → Legal data →
    own C s admin ≠ data → combined C s ⊆ features data
  repeated : data.length ≤ EdmConstants.DEFAULT_LOOP_MAX_SIZE → Legal data →
    own C s admin = data → features data ⊆ combined C s

/-- The writes of an operation take effect, and it meets `SetKeeps`.  When an admin with a list is
removed, the others have no feature. -/
def Keeps : Op → Prop
  | .update admin writes request =>
    writes = ⟨.done, .done⟩ ∧ (request.type = .set → ∀ data, request.data = some data →
      SetKeeps C s admin (getPolicy data))
  | .removeAdmin admin writes _ =>
    writes = ⟨.done, .done⟩ ∧ (own C s admin ≠ [] → heldByOthers (listed C s) admin = ∅)

end Run

theorem setFeatures_cons_some {item : Int32} {f : KioskFeature}
    (h : KioskFeature.ofCode item = some f) (data : List Int32) (parameters : Parameters) :
    setFeatures (item :: data) parameters =
      setFeatures data (Function.update parameters f true) := by
  rw [setFeatures, setSpecifiedKioskFeatures, h]
  rfl

/-- What the loop leaves: the features before the first illegal value are allowed. -/
theorem setFeatures_spec (data : List Int32) (parameters : Parameters) :
    ∃ ret parameters', setFeatures data parameters = (ret, parameters') ∧
      (ret = ERR_OK ↔ Legal data) ∧
      ∀ f, parameters' f = true ↔ parameters f = true ∨ f ∈ beforeIllegal data := by
  induction data generalizing parameters with
  | nil =>
    refine ⟨ERR_OK, parameters, rfl, ?_, fun f => (or_iff_left List.not_mem_nil).symm⟩
    exact iff_of_true rfl fun item hitem => absurd hitem List.not_mem_nil
  | cons item data ih =>
    cases hitem : KioskFeature.ofCode item with
    | none =>
      refine ⟨EdmReturnErrCode.PARAMETER_VERIFICATION_FAILED, parameters, ?_, ?_, fun f => ?_⟩
      · rw [setFeatures, setSpecifiedKioskFeatures, hitem]
        rfl
      · refine iff_of_false (by decide) fun hlegal => ?_
        have hsome := hlegal item List.mem_cons_self
        rw [hitem] at hsome
        cases hsome
      · refine (or_iff_left ?_).symm
        rw [beforeIllegal, List.takeWhile_cons_of_neg (by rw [hitem]; exact Bool.false_ne_true)]
        exact List.not_mem_nil
    | some g =>
      obtain ⟨ret, parameters', hresult, hret, hmem⟩ := ih (Function.update parameters g true)
      refine ⟨ret, parameters', (setFeatures_cons_some hitem data parameters).trans hresult,
        hret.trans ?_, fun f => (hmem f).trans ?_⟩
      · constructor
        · rintro hlegal other (_ | ⟨_, hother⟩)
          · rw [hitem]
            rfl
          · exact hlegal other hother
        · exact fun hlegal other hother => hlegal other (List.mem_cons_of_mem item hother)
      · have hcons : f ∈ beforeIllegal (item :: data) ↔ f = g ∨ f ∈ beforeIllegal data := by
          rw [beforeIllegal, List.takeWhile_cons_of_pos (by rw [hitem]; rfl)]
          show f.code ∈ item :: _ ↔ _
          rw [List.mem_cons]
          refine or_congr_left ?_
          rw [KioskFeature.ofCode_eq_some.mp hitem]
          exact ⟨fun hcode => KioskFeature.code_injective hcode, congrArg KioskFeature.code⟩
        rw [hcons]
        by_cases hf : f = g
        · subst hf
          rw [Function.update_self]
          exact iff_of_true (.inl rfl) (.inr (.inl rfl))
        · rw [Function.update_of_ne hf, or_iff_right hf]

/-- All values are before the first illegal one when there is none. -/
theorem beforeIllegal_of_legal {data : List Int32} (h : Legal data) :
    beforeIllegal data = features data := by
  rw [beforeIllegal, List.takeWhile_eq_self_iff.mpr h]

/-! ### One operation -/

section Step

variable {C : ArrayCJson} {order : HashOrder} {s : PluginState Parameters} {admin : AdminName}

theorem roundTrip (C : ArrayCJson) :
    RoundTrip (serializer C) fun data => ArrayIntSerializer.serialize C data "" where
  serialize _ := rfl
  deserialize := deserialize_serialize
  write_initial := if_pos rfl

abbrev IsText (C : ArrayCJson) : String → Prop :=
  Written fun data => ArrayIntSerializer.serialize C data ""

theorem listOf_serialize (data : List Int32) :
    listOf C (ArrayIntSerializer.serialize C data "") = data := by
  rw [listOf, deserialize_serialize]
  rfl

theorem itemsOf_serialize (data : List Int32) :
    itemsOf C (ArrayIntSerializer.serialize C data "") = features data := by
  rw [itemsOf, listOf_serialize]

theorem itemsOf_empty : itemsOf C "" = ∅ := by
  rw [itemsOf, listOf, deserialize_empty]
  exact Set.eq_empty_iff_forall_notMem.mpr fun f => List.not_mem_nil

theorem policyName_ne : POLICY_SET_KIOSK_FEATURE ≠ "" := by decide

abbrev Readable (C : ArrayCJson) (s : PluginState Parameters) : Prop :=
  TextStore (IsText C) POLICY_SET_KIOSK_FEATURE s.store

theorem Readable.own_text (h : Readable C s) (admin : AdminName) :
    s.store.manager.policyValue admin POLICY_SET_KIOSK_FEATURE =
      ArrayIntSerializer.serialize C (own C s admin) "" := by
  obtain ⟨data, hdata⟩ := h.text admin
  rw [own, hdata, listOf_serialize]

/-- The others' list as it is merged. -/
theorem getOthersMergePolicyData_text (h : Readable C s) (order : HashOrder) (admin : AdminName) :
    ∃ others : List Int32,
      (plugin C order).getOthersMergePolicyData s.store.manager admin =
        ArrayIntSerializer.serialize C others "" ∧
      ∀ f, f ∈ features others ↔ f ∈ heldByOthers (listed C s) admin := by
  refine ⟨_, (roundTrip C).getOthersMergePolicyData h order admin (fun _ => rfl) rfl (listOf C)
    listOf_serialize, fun f => ?_⟩
  show f.code ∈ ArrayIntSerializer.mergePolicy _ ↔ _
  rw [ArrayIntSerializer.mergePolicy, mem_stdSet, List.mem_flatten,
    h.good.mem_heldByOthers itemsOf_empty order admin]
  constructor
  · rintro ⟨list, hlist, hf⟩
    obtain ⟨v, hv, rfl⟩ := List.mem_map.mp hlist
    exact ⟨v, hv, hf⟩
  · rintro ⟨v, hv, hf⟩
    exact ⟨_, List.mem_map_of_mem hv, hf⟩

/-- What a set with a list does. -/
def AfterSet (C : ArrayCJson) (order : HashOrder) (s : PluginState Parameters) (admin : AdminName)
    (data : List Int32) (ret : ErrCode) (parameters : Parameters) : Prop :=
  policyCode (plugin C order) s (setOp admin data) = ret ∧
    (policyStep (plugin C order) s (setOp admin data)).modules = parameters

/-- A set whose handler fails. -/
theorem set_failed (h : Readable C s) (order : HashOrder) (admin : AdminName)
    {data : List Int32} {ret : ErrCode} {parameters : Parameters}
    (hresult : ∀ current others, onSetPolicy s.modules (getPolicy data) current others =
      (ret, parameters, current, others)) (hret : ret ≠ ERR_OK) :
    AfterSet C order s admin data ret parameters ∧
      (policyStep (plugin C order) s (setOp admin data)).store = s.store := by
  obtain ⟨others, hothers, -⟩ := getOthersMergePolicyData_text h order admin
  obtain ⟨hcode, hmodules, hstore⟩ := update_failed (plugin C order) admin (roundTrip C) h.good
    policyName_ne ⟨.set, some data⟩ (h.own_text admin) hothers (fun _ => rfl)
    (hresult _ _) hret
  exact ⟨⟨hcode, hmodules⟩, hstore⟩

/-- A set whose handler succeeds. -/
theorem set_ok (h : Readable C s) (order : HashOrder) (admin : AdminName)
    {data after : List Int32} {parameters : Parameters} (merged : List Int32 → List Int32)
    (hresult : ∀ others, onSetPolicy s.modules (getPolicy data) (own C s admin) others =
      (ERR_OK, parameters, after, merged others)) :
    AfterSet C order s admin data ERR_OK parameters ∧ ∃ others,
      Stored s.store (policyStep (plugin C order) s (setOp admin data)).store admin
        POLICY_SET_KIOSK_FEATURE (ArrayIntSerializer.serialize C after "")
        (ArrayIntSerializer.serialize C (merged others) "") := by
  obtain ⟨others, hothers, -⟩ := getOthersMergePolicyData_text h order admin
  obtain ⟨hcode, hmodules, hstored⟩ := update_ok (plugin C order) admin (roundTrip C) h.good
    policyName_ne ⟨.set, some data⟩ (h.own_text admin) hothers (fun _ => rfl) rfl
    (hresult others)
  exact ⟨⟨hcode, hmodules⟩, others, hstored⟩

theorem onSetPolicy_empty (parameters : Parameters) (current others : List Int32) :
    onSetPolicy parameters [] current others =
      (ERR_OK, setDefaultKioskFeatures false, current, others) := rfl

theorem onSetPolicy_long {data : List Int32}
    (hlength : EdmConstants.DEFAULT_LOOP_MAX_SIZE < data.length) (parameters : Parameters)
    (current others : List Int32) : onSetPolicy parameters data current others =
      (EdmReturnErrCode.PARAMETER_VERIFICATION_FAILED, parameters, current, others) := by
  have hdata : data ≠ [] := by
    rintro rfl
    exact absurd hlength (Nat.not_lt_zero _)
  rw [onSetPolicy, if_neg hdata, if_pos hlength]

/-- The handler on a list that is neither empty nor too long. -/
theorem onSetPolicy_features {data : List Int32} (hdata : data ≠ [])
    (hlength : data.length ≤ EdmConstants.DEFAULT_LOOP_MAX_SIZE) (parameters : Parameters) :
    ∃ parameters' : Parameters,
      (∀ f, parameters' f = true ↔ parameters f = true ∨ f ∈ beforeIllegal data) ∧
        ((Legal data ∧ ∀ current others,
            onSetPolicy parameters data current others = (ERR_OK, parameters', data, data)) ∨
          ¬ Legal data ∧ ∃ ret, ret ≠ ERR_OK ∧ ∀ current others,
            onSetPolicy parameters data current others = (ret, parameters', current, others)) := by
  obtain ⟨ret, parameters', hset, hret, hmem⟩ := setFeatures_spec data parameters
  have hresult : ∀ current others, onSetPolicy parameters data current others =
      if ret != ERR_OK then (ret, parameters', current, others)
      else (ERR_OK, parameters', data, data) := by
    intro current others
    rw [onSetPolicy, if_neg hdata, if_neg (Nat.not_lt.mpr hlength), hset]
  refine ⟨parameters', hmem, ?_⟩
  by_cases hok : ret = ERR_OK
  · refine .inl ⟨hret.mp hok, fun current others => (hresult current others).trans ?_⟩
    rw [hok]
    rfl
  · refine .inr ⟨fun hlegal => hok (hret.mpr hlegal), ret, hok, fun current others => ?_⟩
    rw [hresult, if_pos (bne_iff_ne.mpr hok)]

/-- A set with an empty list. -/
theorem set_empty (h : Readable C s) (order : HashOrder) (admin : AdminName) {data : List Int32}
    (hdata : getPolicy data = []) :
    AfterSet C order s admin data ERR_OK (setDefaultKioskFeatures false) ∧
      (policyStep (plugin C order) s (setOp admin data)).store = s.store := by
  have hresult : ∀ others, onSetPolicy s.modules (getPolicy data) (own C s admin) others =
      (ERR_OK, setDefaultKioskFeatures false, own C s admin, id others) := by
    intro others
    rw [hdata]
    rfl
  obtain ⟨hafter, others, ⟨-, hstore⟩ | ⟨hne, -⟩⟩ := set_ok h order admin id hresult
  · exact ⟨hafter, hstore⟩
  · exact absurd (h.own_text admin) hne

/-- What an operation leaves. -/
def Sound (C : ArrayCJson) (order : HashOrder) (s : PluginState Parameters) (op : Op) : Prop :=
  Readable C (policyStep (plugin C order) s op) ∧ InForce C (policyStep (plugin C order) s op) ∧
    Right C s order op

/-- An operation that leaves the parameters and the store, and is no set with the empty list. -/
theorem sound_unchanged (h : Readable C s) (hforce : InForce C s) {op : Op}
    (hmodules : (policyStep (plugin C order) s op).modules = s.modules)
    (hstore : (policyStep (plugin C order) s op).store = s.store)
    (hop : ∀ admin writes, op ≠ .update admin writes ⟨.set, some []⟩) : Sound C order s op := by
  refine ⟨?_, ?_, fun _ _ _ _ _ => ⟨hmodules, hstore⟩,
    fun admin writes heq => absurd heq (hop admin writes)⟩
  · rw [Readable, hstore]
    exact h
  · intro f
    rw [hmodules, combined, hstore]
    exact hforce f

theorem ne_setOp_empty {data : List Int32} (hdata : getPolicy data ≠ []) (other : AdminName)
    (writes : Writes) : setOp admin data ≠ .update other writes ⟨.set, some []⟩ := by
  intro heq
  cases heq
  exact hdata rfl

/-- A set that has a result is no failure. -/
theorem AfterSet.not_failed {data : List Int32} {parameters : Parameters}
    (h : AfterSet C order s admin data ERR_OK parameters) :
    failed (policyCode (plugin C order) s (setOp admin data)) ≠ true := by
  rw [h.1]
  decide

/-- Features of a combined policy that has been written. -/
theorem inForce_of_combined {t : PluginState Parameters} {data : List Int32}
    (hcombined : t.store.manager.policyValue "" POLICY_SET_KIOSK_FEATURE =
      ArrayIntSerializer.serialize C data "")
    (hmodules : ∀ f, t.modules f = true ↔ f ∈ features data) : InForce C t := by
  intro f
  rw [combined, hcombined, itemsOf_serialize]
  exact hmodules f

theorem sound_set (h : Readable C s) (hforce : InForce C s) {data : List Int32}
    (hkeeps : SetKeeps C s admin (getPolicy data)) : Sound C order s (setOp admin data) := by
  by_cases hdata : getPolicy data = []
  · obtain ⟨hafter, hstore⟩ := set_empty h order admin hdata
    have hcombined : combined C (policyStep (plugin C order) s (setOp admin data)) = ∅ := by
      rw [combined, hstore]
      exact hkeeps.empty hdata
    refine ⟨?_, fun f => ?_, fun _ _ _ _ hfailed => absurd hfailed hafter.not_failed,
      fun _ _ _ => ⟨congrFun hafter.2, hcombined⟩⟩
    · rw [Readable, hstore]
      exact h
    · rw [hafter.2, hcombined]
      exact iff_of_false Bool.false_ne_true (Set.notMem_empty f)
  by_cases hlength : (getPolicy data).length ≤ EdmConstants.DEFAULT_LOOP_MAX_SIZE
  · obtain ⟨parameters', hmem, ⟨hlegal, hresult⟩ | ⟨hillegal, ret, hret, hresult⟩⟩ :=
      onSetPolicy_features hdata hlength s.modules
    · rw [beforeIllegal_of_legal hlegal] at hmem
      obtain ⟨hafter, others, hstored⟩ := set_ok h order admin (fun _ => getPolicy data)
        fun others => hresult _ others
      refine ⟨h.stored hstored ⟨_, rfl⟩ ⟨_, rfl⟩, ?_,
        fun _ _ _ _ hfailed => absurd hfailed hafter.not_failed,
        fun other writes heq => absurd heq (ne_setOp_empty hdata other writes)⟩
      rcases hstored.combined with ⟨hvalue, hcombined⟩ | ⟨hvalue, hcombined⟩
      · have hown : own C s admin = getPolicy data := by
          rw [own, hvalue, listOf_serialize]
        have hsame : combined C (policyStep (plugin C order) s (setOp admin data)) = combined C s :=
          congrArg (itemsOf C) hcombined
        intro f
        rw [hafter.2, hmem, hforce f, hsame]
        exact or_iff_left_of_imp fun hf => hkeeps.repeated hlength hlegal hown hf
      · have hown : own C s admin ≠ getPolicy data := by
          intro hown
          rw [h.own_text admin, hown] at hvalue
          exact hvalue rfl
        refine inForce_of_combined hcombined fun f => ?_
        rw [hafter.2, hmem, hforce f]
        exact or_iff_right_of_imp fun hf => hkeeps.replaced hdata hlength hlegal hown hf
    · obtain ⟨hafter, hstore⟩ := set_failed h order admin hresult hret
      have hsame : parameters' = s.modules := by
        funext f
        refine Bool.eq_iff_iff.mpr ((hmem f).trans (or_iff_left_of_imp fun hf => ?_))
        exact (hforce f).mpr (hkeeps.illegal hlength hillegal hf)
      exact sound_unchanged h hforce (hafter.2.trans hsame) hstore (ne_setOp_empty hdata)
  · obtain ⟨hafter, hstore⟩ := set_failed h order admin
      (onSetPolicy_long (Nat.lt_of_not_le hlength) s.modules) (by decide)
    exact sound_unchanged h hforce hafter.2 hstore (ne_setOp_empty hdata)

/-- An update that is no set with a list changes nothing. -/
theorem sound_update (h : Readable C s) (hforce : InForce C s) {request : Request}
    (hrequest : request.type = .set → request.data = none) :
    Sound C order s (.update admin ⟨.done, .done⟩ request) := by
  obtain ⟨type, data⟩ := request
  have hcall : ∃ ret, onHandlePolicy C s.modules ⟨type, data⟩
      (PluginManager.handlePolicyData (plugin C order) s admin) =
        (ret, s.modules, PluginManager.handlePolicyData (plugin C order) s admin) := by
    by_cases htype : type = .set
    · obtain rfl := htype
      obtain rfl : data = none := hrequest rfl
      exact ⟨ERR_EDM_OPERATE_PARCEL, rfl⟩
    · cases type with
      | set => exact absurd rfl htype
      | _ => exact ⟨ERR_OK, rfl⟩
  obtain ⟨ret, hcall⟩ := hcall
  obtain ⟨hmodules, hstore⟩ := update_unchanged (plugin C order) admin h.good policyName_ne hcall
  refine sound_unchanged h hforce hmodules hstore fun other writes heq => ?_
  cases heq
  exact absurd (hrequest rfl) nofun

theorem sound_removeAdmin (h : Readable C s) (hforce : InForce C s)
    (hkeeps : own C s admin ≠ [] → heldByOthers (listed C s) admin = ∅) :
    Sound C order s (.removeAdmin admin ⟨.done, .done⟩ ()) := by
  obtain ⟨others, hothers, hmem⟩ := getOthersMergePolicyData_text h order admin
  rcases removeAdmin_template (plugin C order) admin (roundTrip C) h.good policyName_ne rfl ()
    (h.own_text admin) hothers fun _ _ => rfl with ⟨-, hsame⟩ | ⟨hvalue, hmodules, hsaved⟩
  · exact sound_unchanged h hforce (congrArg PluginState.modules hsame)
      (congrArg PluginState.store hsame) nofun
  · have hown : own C s admin ≠ [] := by
      intro hnil
      rw [hnil] at hvalue
      exact hvalue rfl
    refine ⟨h.saved hsaved (roundTrip C).written_empty ⟨_, rfl⟩, ?_, nofun, nofun⟩
    refine inForce_of_combined hsaved.value_combined fun f => ?_
    rw [hmodules, hmem, hkeeps hown]
    exact iff_of_false Bool.false_ne_true (Set.notMem_empty f)

theorem sound_step (h : Readable C s) (hforce : InForce C s) {op : Op} (hkeeps : Keeps C s op) :
    Sound C order s op := by
  cases op with
  | update admin writes request =>
    obtain ⟨rfl, hset⟩ := hkeeps
    by_cases hdata : request.type = .set ∧ ∃ data, request.data = some data
    · obtain ⟨type, data⟩ := request
      obtain ⟨rfl, data, rfl⟩ := hdata
      exact sound_set h hforce (hset rfl data rfl)
    · refine sound_update h hforce fun htype => Option.eq_none_iff_forall_ne_some.mpr ?_
      exact fun data heq => hdata ⟨htype, data, heq⟩
  | removeAdmin admin writes reply =>
    obtain ⟨rfl, hown⟩ := hkeeps
    exact sound_removeAdmin h hforce hown

theorem sound_boot (C : ArrayCJson) (userId : Int) :
    Readable C (boot userId) ∧ InForce C (boot userId) := by
  refine ⟨textStore_new (roundTrip C).written_empty userId, fun f => ?_⟩
  show _ ↔ f ∈ itemsOf C ((UserPolicyManager.new userId).policyValue "" POLICY_SET_KIOSK_FEATURE)
  rw [policyValue_new, itemsOf_empty]
  exact iff_of_false Bool.false_ne_true (Set.notMem_empty f)

end Step

/-- In a run whose operations all meet `Keeps`, the parameters are those of the combined policy
throughout, and every operation does what it should. -/
theorem kioskFeatures_inForce (C : ArrayCJson) (order : HashOrder) (userId : Int) (ops : List Op)
    (h : Each (policyStep (plugin C order)) (Keeps C) (boot userId) ops) :
    Always (policyStep (plugin C order)) (InForce C) (boot userId) ops ∧
      Each (policyStep (plugin C order)) (fun s op => Right C s order op) (boot userId) ops := by
  have hstep : ∀ s op, (Readable C s ∧ InForce C s) → Keeps C s op →
      Readable C (policyStep (plugin C order) s op) ∧
        InForce C (policyStep (plugin C order) s op) :=
    fun s op hs hkeeps => ⟨(sound_step hs.1 hs.2 hkeeps).1, (sound_step hs.1 hs.2 hkeeps).2.1⟩
  have hright : ∀ s op, (Readable C s ∧ InForce C s) → Keeps C s op → Right C s order op :=
    fun s op hs hkeeps => (sound_step hs.1 hs.2 hkeeps).2.2
  exact ⟨(always_of_each hstep (sound_boot C userId) h).mono fun s hs => hs.2,
    each_of_each hstep hright (sound_boot C userId) h⟩

/-- A list with new features and all of the combined policy. -/
theorem SetKeeps.of_extends {C : ArrayCJson} {s : PluginState Parameters} {admin : AdminName}
    {data : List Int32} (hdata : data ≠ []) (hlegal : Legal data) (hown : own C s admin ≠ data)
    (hextends : listOf C (s.store.manager.policyValue "" POLICY_SET_KIOSK_FEATURE) ⊆ data) :
    SetKeeps C s admin data where
  empty h := absurd h hdata
  illegal _ h := absurd hlegal h
  replaced _ _ _ _ := fun _ hf => hextends hf
  repeated _ _ h := absurd h hown

/-- An admin sets a list and extends it. -/
theorem always_inForce_extended :
    Always (policyStep (plugin .standard .evaluated)) (InForce .standard) (boot 100)
        [setOp firstAdmin [1], setOp firstAdmin [2, 1]] ∧
      Each (policyStep (plugin .standard .evaluated))
        (fun s op => Right .standard s .evaluated op) (boot 100)
        [setOp firstAdmin [1], setOp firstAdmin [2, 1]] := by
  refine kioskFeatures_inForce .standard .evaluated 100 _ ⟨⟨rfl, ?_⟩, ⟨rfl, ?_⟩, trivial⟩
  · rintro - data ⟨⟩
    exact .of_extends (by decide +kernel) (by decide) (by decide +kernel) (by decide +kernel)
  · rintro - data ⟨⟩
    exact .of_extends (by decide +kernel) (by decide) (by decide +kernel) (by decide +kernel)

/-- A list that replaces another leaves the features of the other. -/
theorem replaced_list_keeps_features :
    ¬ ∀ (C : ArrayCJson) (order : HashOrder) (userId : Int) (ops : List Op),
      Always (policyStep (plugin C order)) (InForce C) (boot userId) ops := by
  intro h
  have hlast : InForce .standard (run (policyStep (plugin .standard .evaluated)) (boot 100)
      [setOp firstAdmin [1], setOp firstAdmin [2]]) :=
    (h .standard .evaluated 100 [setOp firstAdmin [1], setOp firstAdmin [2]]).2.2
  have hparameter : (run (policyStep (plugin .standard .evaluated)) (boot 100)
      [setOp firstAdmin [1], setOp firstAdmin [2]]).modules .ALLOW_NOTIFICATION_CENTER = true := by
    decide +kernel
  have hlisted : (1 : Int32) ∉ listOf .standard
      ((run (policyStep (plugin .standard .evaluated)) (boot 100)
        [setOp firstAdmin [1], setOp firstAdmin [2]]).store.manager.policyValue ""
          POLICY_SET_KIOSK_FEATURE) := by decide +kernel
  exact hlisted ((hlast .ALLOW_NOTIFICATION_CENTER).mp hparameter)

end KioskFeaturePlugin

end Edm
