import Edm.Admin.Admin
import Edm.Plugin.AllOrNothing
import Edm.Plugin.ArraySerializer
import Edm.Plugin.TemplatePolicy

/-! What an operation does when the other admins' values cannot be merged: neither caller of
`GetOthersMergePolicyData` looks at its code, and the merged text is empty. -/

set_option autoImplicit false

namespace Edm

open Library Library.UnorderedMap

/-- A plugin over sets of items, made of `IPluginTemplate`.  `next` are the caller's items after a
request for `data`, `dropped` the items that the modules let go of. -/
structure MergingPlugin (Modules DT Item : Type) where
  policyName : String
  policyName_ne : policyName ≠ ""
  serializer : PolicySerializer DT
  order : HashOrder
  biFunction : FuncOperateType → Modules → DT → DT → DT → ErrCode × Modules × DT × DT
  biAdminFunction : Modules → DT → DT → ErrCode × Modules
  items : DT → Set Item
  /-- The items of a stored text, which need not be one that can be read. -/
  itemsOf : String → Set Item
  enforced : Modules → Set Item
  next : FuncOperateType → Set Item → Set Item → Set Item
  dropped : FuncOperateType → Set Item → Set Item → Set Item → Set Item
  droppedWith : Set Item → Set Item → Set Item
  itemsOf_empty : itemsOf "" = ∅
  items_initial : items serializer.initial = ∅
  items_deserialize_empty : ∀ data, serializer.deserialize "" = some data → items data = ∅
  itemsOf_serialize : ∀ data text, serializer.serialize data = some text →
    itemsOf text = items data
  biFunction_ok : ∀ type modules data current merge modules' current' merge',
    biFunction type modules data current merge = (ERR_OK, modules', current', merge') →
      items current' = next type (items data) (items current) ∧
        items merge' = items merge ∪ next type (items data) (items current) ∧
        ∀ x, x ∈ enforced modules →
          (x ∈ enforced modules' ↔ x ∉ dropped type (items data) (items current) (items merge))
  biFunction_failed : ∀ type modules data current merge,
    (biFunction type modules data current merge).1 ≠ ERR_OK →
      enforced (biFunction type modules data current merge).2.1 = enforced modules
  biAdminFunction_ok : ∀ modules current merge,
    (biAdminFunction modules current merge).1 = ERR_OK → ∀ x, x ∈ enforced modules →
      (x ∈ enforced (biAdminFunction modules current merge).2 ↔
        x ∉ droppedWith (items current) (items merge))
  biAdminFunction_failed : ∀ modules current merge,
    (biAdminFunction modules current merge).1 ≠ ERR_OK →
      enforced (biAdminFunction modules current merge).2 = enforced modules

namespace MergingPlugin

variable {Modules DT Item : Type} (plugin : MergingPlugin Modules DT Item)

abbrev toPlugin : Plugin Modules (FuncOperateType × Option DT) Unit Unit where
  policyName := plugin.policyName
  needSave := true
  getOthersMergePolicyData :=
    IPluginTemplate.getOthersMergePolicyData plugin.serializer plugin.order plugin.policyName
  onHandlePolicy _ modules req :=
    IPluginTemplate.handlePolicy plugin.serializer (plugin.biFunction req.1) modules req.2
  onAdminRemove modules _ :=
    IPluginTemplate.adminRemove plugin.serializer plugin.biAdminFunction modules
  onPluginEvent handled _ := handled

abbrev Op (DT : Type) := PolicyOp (FuncOperateType × Option DT) Unit

section Call

variable (s : PluginState Modules) (op : Op DT)

abbrev step : PluginState Modules := policyStep plugin.toPlugin s op

/-- What an admin has stored. -/
def stored (admin : AdminName) : String := s.store.manager.policyValue admin plugin.policyName

def combined : String := s.store.manager.policyValue "" plugin.policyName

/-- There are others' values, and `GetOthersMergePolicyData` fails on them. -/
def MergeFails (admin : AdminName) : Prop :=
  isEmpty ((s.store.manager.adminValues plugin.policyName).erase admin.1) = false ∧
    ((IPluginTemplate.deserializeValues plugin.serializer
        (othersValues plugin.order s.store.manager plugin.policyName admin)).bind
      plugin.serializer.mergePolicy).bind plugin.serializer.serialize = none

/-- The operation writes a combined policy. -/
def StoresCombined : Prop :=
  match op with
  | .update admin writes req =>
    PluginManager.Changed plugin.toPlugin s admin req ∧ writes.combined = .done
  | .removeAdmin admin writes _ =>
    (∃ v, s.store.manager.getAdminPolicy admin plugin.policyName = .ok v) ∧ writes.combined = .done

/-- A failed merge costs no other admin an item, neither in the combined policy nor in what is
enforced, and no combined policy is written that lacks one. -/
def KeepsOthers : Prop :=
  plugin.MergeFails s op.admin → ∀ other, other ≠ op.admin →
    ∀ x, x ∈ plugin.itemsOf (plugin.stored s other) →
      (x ∈ plugin.itemsOf (plugin.combined s) →
          x ∈ plugin.itemsOf (plugin.combined (plugin.step s op))) ∧
        (x ∈ plugin.enforced s.modules → x ∈ plugin.enforced (plugin.step s op).modules) ∧
        (plugin.StoresCombined s op → x ∈ plugin.itemsOf (plugin.combined (plugin.step s op)))

/-- The request is read, with the caller's value, and the modules take it. -/
def Accepts (admin : AdminName) (type : FuncOperateType) (data current : DT) : Prop :=
  IPluginTemplate.deserializeNonempty plugin.serializer (plugin.stored s admin) = some current ∧
    (plugin.biFunction type s.modules data current plugin.serializer.initial).1 = ERR_OK

/-- The result can be written, and is a new value of the caller. -/
def Rewrites (admin : AdminName) (type : FuncOperateType) (data current : DT) : Prop :=
  let (_, _, after, merged) :=
    plugin.biFunction type s.modules data current plugin.serializer.initial
  ∃ text mergedText, plugin.serializer.serialize after = some text ∧
    plugin.serializer.serialize merged = some mergedText ∧ plugin.stored s admin ≠ text

/-- The caller holds what the others hold, as far as the operation goes by the caller alone. -/
def CallerHolds : Prop :=
  ∀ other, other ≠ op.admin → ∀ x, x ∈ plugin.itemsOf (plugin.stored s other) →
    match op with
    | .update admin writes (type, request) =>
      ∀ data current, request = some data → plugin.Accepts s admin type data current →
        (x ∈ plugin.enforced s.modules →
            x ∉ plugin.dropped type (plugin.items data) (plugin.items current) ∅) ∧
          (plugin.Rewrites s admin type data current → writes.combined = .done →
            x ∈ plugin.next type (plugin.items data) (plugin.items current))
    | .removeAdmin admin writes _ =>
      ∀ v, s.store.manager.getAdminPolicy admin plugin.policyName = .ok v →
        writes.combined ≠ .done ∧
          ∀ current merge, plugin.serializer.deserialize v = some current →
            plugin.serializer.deserialize "" = some merge →
            (plugin.biAdminFunction s.modules current merge).1 = ERR_OK →
            x ∈ plugin.enforced s.modules → x ∉ plugin.droppedWith (plugin.items current) ∅

end Call

/-! ### The merge that fails -/

/-- One value that cannot be read is enough. -/
theorem deserializeValues_none {serializer : PolicySerializer DT} {values : List String}
    {v : String} (hmem : v ∈ values) (hv : v ≠ "") (hread : serializer.deserialize v = none) :
    IPluginTemplate.deserializeValues serializer values = none := by
  unfold IPluginTemplate.deserializeValues
  have hfilter : v ∈ values.filter fun value => value != "" :=
    List.mem_filter.mpr ⟨hmem, bne_iff_ne.mpr hv⟩
  generalize values.filter (fun value => value != "") = values at hfilter
  induction values with
  | nil => cases hfilter
  | cons value values ih =>
    rw [List.mapM_cons]
    rcases List.mem_cons.mp hfilter with rfl | htail
    · rw [hread]
      rfl
    · cases serializer.deserialize value with
      | none => rfl
      | some data =>
        rw [ih htail]
        rfl

variable {plugin} {s : PluginState Modules}

theorem MergeFails.getOthersMergePolicyData {admin : AdminName} (h : plugin.MergeFails s admin) :
    plugin.toPlugin.getOthersMergePolicyData s.store.manager admin = "" := by
  obtain ⟨hothers, hmerge⟩ := h
  show IPluginTemplate.getOthersMergePolicyData _ _ _ _ _ = ""
  unfold IPluginTemplate.getOthersMergePolicyData
  dsimp only
  rw [hothers, if_neg Bool.false_ne_true]
  unfold othersValues at hmerge
  rw [Option.bind_assoc] at hmerge
  exact congrArg (Option.getD · "") hmerge

/-! ### An update -/

section Update

variable {admin : AdminName} {writes : Writes} {type : FuncOperateType} {request : Option DT}

theorem update_modules (req : FuncOperateType × Option DT) :
    (plugin.step s (.update admin writes req)).modules =
      (PluginManager.handled plugin.toPlugin s admin req).2.1 := by
  show (PluginManager.updateDevicePolicy plugin.toPlugin s writes admin req).2.modules = _
  unfold PluginManager.updateDevicePolicy PluginManager.handled
  dsimp only
  split
  · rfl
  · split <;> rfl

theorem update_combined (admin : AdminName) (writes : Writes) (req : FuncOperateType × Option DT) :
    (plugin.StoresCombined s (.update admin writes req) →
      plugin.combined (plugin.step s (.update admin writes req)) =
        (PluginManager.handled plugin.toPlugin s admin req).2.2.mergePolicyData) ∧
    (¬plugin.StoresCombined s (.update admin writes req) →
      plugin.combined (plugin.step s (.update admin writes req)) = plugin.combined s) := by
  obtain ⟨⟨ret, modules, handled⟩, hcall⟩ : ∃ called,
    PluginManager.handled plugin.toPlugin s admin req = called := ⟨_, rfl⟩
  have hstores : plugin.StoresCombined s (.update admin writes req) ↔
      (failed ret = false ∧ handled.isChanged = true) ∧ writes.combined = .done := by
    show PluginManager.Changed plugin.toPlugin s admin req ∧ _ ↔ _
    unfold PluginManager.Changed
    rw [hcall, Bool.true_and]
  rw [hstores, hcall]
  show (_ → (PluginManager.updateDevicePolicy plugin.toPlugin s writes admin
      req).2.store.manager.policyValue "" plugin.policyName = _) ∧
    (_ → (PluginManager.updateDevicePolicy plugin.toPlugin s writes admin
      req).2.store.manager.policyValue "" plugin.policyName = _)
  unfold PluginManager.handled at hcall
  unfold PluginManager.updateDevicePolicy
  rw [hcall]
  dsimp only
  by_cases hret : failed ret = true
  · rw [if_pos hret]
    exact ⟨fun h => absurd (h.1.1.symm.trans hret) Bool.false_ne_true, fun _ => rfl⟩
  · rw [if_neg hret, Bool.true_and]
    by_cases hchanged : handled.isChanged = true
    · rw [if_pos hchanged, setPolicy_value_combined s.store _ _ writes admin.2 plugin.policyName_ne]
      exact ⟨fun h => if_pos h.2, fun h =>
        if_neg fun hdone => h ⟨⟨Bool.eq_false_iff.mpr hret, hchanged⟩, hdone⟩⟩
    · rw [if_neg hchanged]
      exact ⟨fun h => absurd h.1.2 hchanged, fun _ => rfl⟩

/-- What the handler starts from. -/
theorem MergeFails.handled (hfail : plugin.MergeFails s admin) :
    PluginManager.handled plugin.toPlugin s admin (type, request) =
      IPluginTemplate.handlePolicy plugin.serializer (plugin.biFunction type) s.modules request
        ⟨plugin.stored s admin, "", false⟩ := by
  have hmerge : PluginManager.handlePolicyData plugin.toPlugin s admin =
      ⟨plugin.stored s admin, "", false⟩ := by
    show HandlePolicyData.mk _ (plugin.toPlugin.getOthersMergePolicyData _ _) _ = _
    rw [hfail.getOthersMergePolicyData]
    rfl
  show IPluginTemplate.handlePolicy _ _ _ _ (PluginManager.handlePolicyData _ _ _) = _
  rw [hmerge]

/-- A request that is not taken. -/
theorem handlePolicy_refused {policyData : HandlePolicyData}
    (hpolicy : policyData = ⟨plugin.stored s admin, "", false⟩)
    (h : ∀ data current, request = some data → ¬plugin.Accepts s admin type data current) :
    let called := IPluginTemplate.handlePolicy plugin.serializer (plugin.biFunction type) s.modules
      request policyData
    failed called.1 = true ∧ plugin.enforced called.2.1 = plugin.enforced s.modules := by
  subst hpolicy
  unfold IPluginTemplate.handlePolicy
  cases request with
  | none => exact ⟨(by decide : failed ERR_EDM_OPERATE_PARCEL = true), rfl⟩
  | some data =>
    dsimp only
    cases hcurrent : IPluginTemplate.deserializeNonempty plugin.serializer
      (plugin.stored s admin) with
    | none => exact ⟨(by decide : failed ERR_EDM_OPERATE_JSON = true), rfl⟩
    | some current =>
      have hresult := fun hok => h data current rfl ⟨hcurrent, hok⟩
      have hkept := plugin.biFunction_failed type s.modules data current plugin.serializer.initial
        hresult
      have hempty : IPluginTemplate.deserializeNonempty plugin.serializer "" =
        some plugin.serializer.initial := if_pos rfl
      dsimp only
      rw [hempty]
      dsimp only
      rw [if_pos (bne_iff_ne.mpr hresult)]
      exact ⟨bne_iff_ne.mpr hresult, hkept⟩

/-- A request that is taken. -/
theorem handlePolicy_accepted {policyData : HandlePolicyData} {data current : DT}
    (hpolicy : policyData = ⟨plugin.stored s admin, "", false⟩)
    (h : plugin.Accepts s admin type data current) :
    let called := IPluginTemplate.handlePolicy plugin.serializer (plugin.biFunction type) s.modules
      (some data) policyData
    (∀ x, x ∈ plugin.enforced s.modules → (x ∈ plugin.enforced called.2.1 ↔
        x ∉ plugin.dropped type (plugin.items data) (plugin.items current) ∅)) ∧
      (failed called.1 = false ∧ called.2.2.isChanged = true ↔
        plugin.Rewrites s admin type data current) ∧
      (failed called.1 = false → plugin.itemsOf called.2.2.mergePolicyData =
        plugin.next type (plugin.items data) (plugin.items current)) := by
  subst hpolicy
  obtain ⟨hcurrent, hok⟩ := h
  have hempty : IPluginTemplate.deserializeNonempty plugin.serializer "" =
    some plugin.serializer.initial := if_pos rfl
  obtain ⟨⟨ret, modules, after, merged⟩, hcall⟩ : ∃ called, plugin.biFunction type s.modules data
    current plugin.serializer.initial = called := ⟨_, rfl⟩
  unfold IPluginTemplate.handlePolicy Rewrites
  simp only [hcurrent, hempty, hcall]
  rw [hcall] at hok
  obtain rfl : ret = ERR_OK := hok
  obtain ⟨-, hmerged, henforced⟩ := plugin.biFunction_ok _ _ _ _ _ _ _ _ hcall
  rw [plugin.items_initial] at henforced hmerged
  rw [Set.empty_union] at hmerged
  have hne : ¬(ERR_OK != ERR_OK) = true := by decide
  have hjson : ¬failed ERR_EDM_OPERATE_JSON = false := by decide
  rw [if_neg hne]
  cases hafter : plugin.serializer.serialize after with
  | none =>
    refine ⟨henforced, iff_of_false (fun h => hjson h.1) ?_, fun h => absurd h hjson⟩
    rintro ⟨text, mergedText, htext, -⟩
    cases htext
  | some text =>
    cases hmergedText : plugin.serializer.serialize merged with
    | none =>
      refine ⟨henforced, iff_of_false (fun h => hjson h.1) ?_, fun h => absurd h hjson⟩
      rintro ⟨_, mergedText, -, htext, -⟩
      cases htext
    | some mergedText =>
      refine ⟨henforced, ?_, fun _ => ?_⟩
      · constructor
        · rintro ⟨-, hchanged⟩
          exact ⟨text, mergedText, rfl, rfl, bne_iff_ne.mp hchanged⟩
        · rintro ⟨_, _, htext, -, hchanged⟩
          cases htext
          exact ⟨(by decide : failed ERR_OK = false), bne_iff_ne.mpr hchanged⟩
      · rw [← hmerged]
        exact plugin.itemsOf_serialize merged mergedText hmergedText

/-- What a request does to an item that another admin has stored. -/
theorem update_item (hfail : plugin.MergeFails s admin) (writes : Writes)
    (type : FuncOperateType) (request : Option DT) (x : Item) :
    ((x ∈ plugin.enforced s.modules →
        x ∈ plugin.enforced (PluginManager.handled plugin.toPlugin s admin (type, request)).2.1) ∧
      (plugin.StoresCombined s (.update admin writes (type, request)) → x ∈ plugin.itemsOf
        (PluginManager.handled plugin.toPlugin s admin (type, request)).2.2.mergePolicyData)) ↔
      ∀ data current, request = some data → plugin.Accepts s admin type data current →
        (x ∈ plugin.enforced s.modules →
            x ∉ plugin.dropped type (plugin.items data) (plugin.items current) ∅) ∧
          (plugin.Rewrites s admin type data current → writes.combined = .done →
            x ∈ plugin.next type (plugin.items data) (plugin.items current)) := by
  have hstores : plugin.StoresCombined s (.update admin writes (type, request)) ↔
      (failed (PluginManager.handled plugin.toPlugin s admin (type, request)).1 = false ∧
        (PluginManager.handled plugin.toPlugin s admin (type, request)).2.2.isChanged = true) ∧
          writes.combined = .done := Iff.rfl
  rw [hstores, hfail.handled]
  by_cases hnone : ∀ data current, request = some data → ¬plugin.Accepts s admin type data current
  · obtain ⟨hfailed, hsame⟩ := handlePolicy_refused rfl hnone
    rw [hsame, hfailed]
    refine iff_of_true ⟨id, fun h => (Bool.false_ne_true h.1.1.symm).elim⟩ ?_
    exact fun data current hdata h => absurd h (hnone data current hdata)
  · push Not at hnone
    obtain ⟨data, current, rfl, haccepts⟩ := hnone
    obtain ⟨henforced, hrewrites, hitems⟩ := handlePolicy_accepted rfl haccepts
    rw [hrewrites]
    constructor
    · rintro ⟨hkept, hstored⟩ data' current' hdata ⟨hcurrent, -⟩
      cases hdata
      obtain rfl : current = current' := Option.some.inj (haccepts.1.symm.trans hcurrent)
      refine ⟨fun hx => (henforced x hx).mp (hkept hx), fun hnew hdone => ?_⟩
      rw [← hitems (hrewrites.mpr hnew).1]
      exact hstored ⟨hnew, hdone⟩
    · intro h
      obtain ⟨hkept, hstored⟩ := h data current rfl haccepts
      refine ⟨fun hx => (henforced x hx).mpr (hkept hx), fun hnew => ?_⟩
      rw [hitems (hrewrites.mpr hnew.1).1]
      exact hstored hnew.1 hnew.2

end Update

/-! ### A removal -/

section Removal

variable {admin : AdminName}

/-- What a removal does to an item that another admin has stored. -/
theorem removal_item (hfail : plugin.MergeFails s admin) (writes : Writes) {v : String}
    (hvalue : s.store.manager.getAdminPolicy admin plugin.policyName = .ok v) :
    plugin.combined (plugin.step s (.removeAdmin admin writes ())) =
        (if writes.combined = .done then "" else plugin.combined s) ∧
      ∀ x, x ∈ plugin.enforced s.modules →
        (x ∈ plugin.enforced (plugin.step s (.removeAdmin admin writes ())).modules ↔
          ∀ current merge, plugin.serializer.deserialize v = some current →
            plugin.serializer.deserialize "" = some merge →
            (plugin.biAdminFunction s.modules current merge).1 = ERR_OK →
            x ∉ plugin.droppedWith (plugin.items current) ∅) := by
  have hheld : isEmpty (s.store.manager.adminValues plugin.policyName) = false := by
    refine Bool.eq_false_iff.mpr fun hempty => ?_
    have hothers := hfail.1
    have herased : (s.store.manager.adminValues plugin.policyName).erase admin.1 = ∅ := by
      refine (eq_empty_iff _).mpr fun x => ?_
      rw [lookup_erase_eq, isEmpty_iff.mp hempty, Finmap.lookup_empty, ite_self]
    rw [isEmpty_iff.mpr herased] at hothers
    cases hothers
  obtain ⟨subscribed, hremove⟩ := PluginManager.removeAdminItem_held plugin.toPlugin s writes ()
    admin v rfl hheld
  have hstep : plugin.step s (.removeAdmin admin writes ()) =
      (PluginManager.removeAdminItem plugin.toPlugin s writes () admin v).2 := by
    show policyStep _ _ _ = _
    unfold policyStep
    dsimp only
    rw [hvalue]
  rw [hstep, hremove, hfail.getOthersMergePolicyData]
  refine ⟨setPolicy_value_combined s.store _ _ writes admin.2 plugin.policyName_ne, fun x hx => ?_⟩
  show x ∈ plugin.enforced (IPluginTemplate.adminRemove plugin.serializer plugin.biAdminFunction
    s.modules v "").2 ↔ _
  unfold IPluginTemplate.adminRemove
  cases hcurrent : plugin.serializer.deserialize v with
  | none => exact iff_of_true hx nofun
  | some current =>
    cases hmerge : plugin.serializer.deserialize "" with
    | none => exact iff_of_true hx nofun
    | some merge =>
      have hitems := plugin.items_deserialize_empty merge hmerge
      dsimp only
      by_cases hok : (plugin.biAdminFunction s.modules current merge).1 = ERR_OK
      · rw [plugin.biAdminFunction_ok _ _ _ hok x hx, hitems]
        constructor
        · intro h current' merge' hcurrent' hmerge' _
          cases hcurrent'
          exact h
        · intro h
          exact h current merge rfl rfl hok
      · rw [plugin.biAdminFunction_failed _ _ _ hok]
        refine iff_of_true hx fun current' merge' hcurrent' hmerge' hok' => ?_
        cases hcurrent'
        cases hmerge'
        exact absurd hok' hok

end Removal

/-- Each caller goes on with an empty merge. -/
theorem keepsOthers_iff (plugin : MergingPlugin Modules DT Item) (s : PluginState Modules)
    (op : Op DT) :
    plugin.KeepsOthers s op ↔ (plugin.MergeFails s op.admin → plugin.CallerHolds s op) := by
  refine imp_congr_right fun hfail => forall_congr' fun other => forall_congr' fun _ =>
    forall_congr' fun x => forall_congr' fun hx => ?_
  cases op with
  | update admin writes req =>
    obtain ⟨type, request⟩ := req
    have hfail : plugin.MergeFails s admin := hfail
    obtain ⟨hstored, hkept⟩ := @update_combined _ _ _ plugin s admin writes (type, request)
    refine Iff.trans ?_ (update_item hfail writes type request x)
    rw [update_modules]
    constructor
    · rintro ⟨-, henforced, hcombined⟩
      refine ⟨henforced, fun h => ?_⟩
      rw [← hstored h]
      exact hcombined h
    · rintro ⟨henforced, hcombined⟩
      refine ⟨fun hx => ?_, henforced, fun h => ?_⟩
      · by_cases h : plugin.StoresCombined s (.update admin writes (type, request))
        · rw [hstored h]
          exact hcombined h
        · rw [hkept h]
          exact hx
      · rw [hstored h]
        exact hcombined h
  | removeAdmin admin writes reply =>
    have hfail : plugin.MergeFails s admin := hfail
    refine Iff.trans ?_ (Iff.rfl : (∀ v, s.store.manager.getAdminPolicy admin plugin.policyName =
      .ok v → writes.combined ≠ .done ∧ _) ↔ _)
    cases hvalue : s.store.manager.getAdminPolicy admin plugin.policyName with
    | error _ =>
      have hstep : plugin.step s (.removeAdmin admin writes reply) = s := by
        show policyStep _ _ _ = s
        unfold policyStep
        dsimp only
        rw [hvalue]
      have hstores : ¬plugin.StoresCombined s (.removeAdmin admin writes reply) := by
        rintro ⟨⟨v, hv⟩, -⟩
        rw [hvalue] at hv
        cases hv
      rw [hstep]
      exact iff_of_true ⟨id, id, fun h => absurd h hstores⟩ nofun
    | ok v =>
      have hstores : plugin.StoresCombined s (.removeAdmin admin writes reply) ↔
          writes.combined = .done := and_iff_right ⟨v, hvalue⟩
      obtain ⟨hcombined, hmodules⟩ := removal_item hfail writes hvalue
      rw [hstores, hcombined]
      by_cases hdone : writes.combined = .done
      · rw [if_pos hdone, plugin.itemsOf_empty]
        exact iff_of_false (fun h => h.2.2 hdone) fun h => (h v rfl).1 hdone
      · rw [if_neg hdone]
        constructor
        · rintro ⟨-, henforced, -⟩ v' hv'
          cases hv'
          refine ⟨hdone, fun current merge hcurrent hmerge hok hx => ?_⟩
          exact (hmodules x hx).mp (henforced hx) current merge hcurrent hmerge hok
        · intro h
          refine ⟨id, fun hx => (hmodules x hx).mpr ?_, fun h => absurd h hdone⟩
          exact fun current merge hcurrent hmerge hok => (h v rfl).2 current merge hcurrent hmerge
            hok hx

/-! ### A list that is too long to be read -/

/-- The items of a written array, read or not. -/
def writtenItems (C : CJson) (text : String) : Set String :=
  {x | ∃ items, C.parse text = some (.arr items) ∧ .str x ∈ items}

theorem writtenItems_print (C : CJson) (texts : List String) :
    writtenItems C (C.print (.arr (texts.map .str))) = {x | x ∈ texts} := by
  refine Set.ext fun x => ?_
  unfold writtenItems
  rw [Set.mem_ofPred_eq, C.parse_print _ (ArraySerializer.numberFree_texts texts)]
  constructor
  · rintro ⟨_, hitems, hx⟩
    cases hitems
    obtain ⟨_, hmem, htext⟩ := List.mem_map.mp hx
    cases htext
    exact hmem
  · exact fun hx => ⟨_, rfl, List.mem_map_of_mem hx⟩

theorem writtenItems_empty (C : CJson) : writtenItems C "" = ∅ := by
  refine Set.eq_empty_iff_forall_notMem.mpr ?_
  rintro x ⟨items, hitems, -⟩
  rw [C.parse_empty] at hitems
  cases hitems

theorem writtenItems_serialize {C : CJson} {texts : List String} {text : String}
    (h : ArraySerializer.serialize C textSerializer texts = some text) :
    writtenItems C text = {x | x ∈ texts} := by
  rw [ArraySerializer.serialize_texts] at h
  cases h
  by_cases hnil : texts = []
  · rw [if_pos hnil, hnil, writtenItems_empty]
    exact (Set.eq_empty_iff_forall_notMem.mpr fun x => List.not_mem_nil).symm
  · rw [if_neg hnil]
    exact writtenItems_print C texts

/-- A list with the items of a request, or without them. -/
def listAfter (type : FuncOperateType) (data current : List String) : List String :=
  match type with
  | .set => current ++ data
  | _ => current.filter fun x => x ∉ data

def setAfter (type : FuncOperateType) (data current : Set String) : Set String :=
  match type with
  | .set => current ∪ data
  | _ => current \ data

theorem mem_listAfter (type : FuncOperateType) (data current : List String) (x : String) :
    x ∈ listAfter type data current ↔ x ∈ setAfter type {x | x ∈ data} {x | x ∈ current} := by
  have hremoved : (x ∈ current.filter fun x => x ∉ data) ↔ x ∈ current ∧ x ∉ data := by
    rw [List.mem_filter, decide_eq_true_iff]
  cases type with
  | set => exact List.mem_append
  | get => exact hremoved
  | remove => exact hremoved
  | unknown => exact hremoved

/-- The lists of `ArraySerializer`, merged into one that is in force. -/
def lists (C : CJson) : MergingPlugin (List String) (List String) String where
  policyName := "lists"
  policyName_ne := by decide
  serializer := ArraySerializer.serializer C textSerializer
  order := .evaluated
  biFunction type _ data current merge :=
    let after := listAfter type data current
    (ERR_OK, merge ++ after, after, merge ++ after)
  biAdminFunction _ _ merge := (ERR_OK, merge)
  items data := {x | x ∈ data}
  itemsOf := writtenItems C
  enforced modules := {x | x ∈ modules}
  next := setAfter
  dropped type data current merge := (merge ∪ setAfter type data current)ᶜ
  droppedWith _ merge := mergeᶜ
  itemsOf_empty := writtenItems_empty C
  items_initial := Set.eq_empty_iff_forall_notMem.mpr fun x => List.not_mem_nil
  items_deserialize_empty data h := by
    obtain rfl : [] = data := Option.some.inj h
    exact Set.eq_empty_iff_forall_notMem.mpr fun x => List.not_mem_nil
  itemsOf_serialize data text h := writtenItems_serialize h
  biFunction_ok type modules data current merge modules' current' merge' h := by
    cases h
    have hmerged : ∀ x, x ∈ merge ++ listAfter type data current ↔
        x ∈ {x | x ∈ merge} ∪ setAfter type {x | x ∈ data} {x | x ∈ current} := fun x =>
      List.mem_append.trans (or_congr Iff.rfl (mem_listAfter type data current x))
    exact ⟨Set.ext (mem_listAfter type data current), Set.ext hmerged, fun x _ =>
      (hmerged x).trans not_not.symm⟩
  biFunction_failed type modules data current merge h := absurd rfl h
  biAdminFunction_ok modules current merge h x hx := not_not.symm
  biAdminFunction_failed modules current merge h := absurd rfl h

variable {C : CJson}

/-- An admin that has no list yet sets one. -/
theorem lists_set {s : PluginState (List String)} {admin : AdminName} {data : List String}
    (hgood : GoodStore s.store) (hdata : data ≠ [])
    (hcurrent : (lists C).stored s admin = "")
    (hothers : (lists C).toPlugin.getOthersMergePolicyData s.store.manager admin = "") :
    Saved s.store ((lists C).step s (.update admin ⟨.done, .done⟩ (.set, some data))).store admin
      "lists" (C.print (.arr (data.map .str))) (C.print (.arr (data.map .str))) := by
  have htext : (ArraySerializer.serializer C textSerializer).serialize data =
      some (C.print (.arr (data.map .str))) :=
    (ArraySerializer.serialize_texts data).trans (congrArg some (if_neg hdata))
  have hread : IPluginTemplate.deserializeNonempty (ArraySerializer.serializer C textSerializer)
    "" = some [] := if_pos rfl
  have hvalue : IPluginTemplate.deserializeNonempty (ArraySerializer.serializer C textSerializer)
      (s.store.manager.policyValue admin "lists") = some [] :=
    (congrArg _ hcurrent).trans hread
  have hmerge : IPluginTemplate.deserializeNonempty (ArraySerializer.serializer C textSerializer)
      ((lists C).toPlugin.getOthersMergePolicyData s.store.manager admin) = some [] :=
    (congrArg _ hothers).trans hread
  have hresult : (lists C).biFunction .set s.modules data [] [] = (ERR_OK, data, data, data) := rfl
  have hset := template_ok (lists C).toPlugin admin hgood (lists C).policyName_ne rfl
    (.set, some data) hvalue hmerge (fun _ => rfl) hresult htext htext
  rcases hset.2.2 with ⟨hsame, -⟩ | ⟨-, hsaved⟩
  · have hempty : C.print (.arr (data.map .str)) = "" := hsame.symm.trans hcurrent
    exact absurd hempty (C.print_ne_empty (ArraySerializer.numberFree_texts data))
  · exact hsaved

/-- One admin has a list that is longer than what is read, and another sets one of its own. -/
theorem lists_long_lost (C : CJson) {texts data : List String} {x : String}
    (hlong : EdmConstants.DEFAULT_LOOP_MAX_SIZE < texts.length) (hitem : x ∈ texts)
    (hdata : data ≠ []) (hx : x ∉ data) :
    ∃ s, ¬(lists C).KeepsOthers s (.update firstAdmin ⟨.done, .done⟩ (.set, some data)) := by
  have hne : secondAdmin ≠ firstAdmin := by decide
  have hboot : GoodStore (PluginState.boot ([] : List String) 100).store := goodStore_new 100
  have hfirst := @lists_set C _ secondAdmin texts hboot (List.ne_nil_of_mem hitem)
    (policyValue_new 100 _ _) rfl
  obtain ⟨s, hs⟩ : ∃ s, s = (lists C).step (PluginState.boot [] 100)
    (.update secondAdmin ⟨.done, .done⟩ (.set, some texts)) := ⟨_, rfl⟩
  rw [← hs] at hfirst
  refine ⟨s, fun h => ?_⟩
  have hgood : GoodStore s.store := hboot.saved secondAdmin.2 hfirst
  have hstored : (lists C).stored s secondAdmin = C.print (.arr (texts.map .str)) :=
    hfirst.value_self secondAdmin.2
  have hcombined : (lists C).combined s = C.print (.arr (texts.map .str)) :=
    hfirst.value_combined
  have hnone : (lists C).stored s firstAdmin = "" :=
    (hfirst.value_other firstAdmin.2 fun heq => hne (Subtype.ext heq.1.symm)).trans
      (policyValue_new 100 _ _)
  -- The first admin's merge fails on the list that is too long.
  have htext : C.print (.arr (texts.map .str)) ≠ "" :=
    C.print_ne_empty (ArraySerializer.numberFree_texts texts)
  have hother : C.print (.arr (texts.map .str)) ∈
      othersValues (lists C).order s.store.manager (lists C).policyName firstAdmin :=
    (hgood.mem_othersValues _ firstAdmin).mpr ⟨htext, secondAdmin, hne, hstored⟩
  have hfail : (lists C).MergeFails s firstAdmin := by
    refine ⟨Bool.eq_false_iff.mpr fun hempty => ?_, ?_⟩
    · rw [(isEmpty_others (lists C).order firstAdmin).mp hempty] at hother
      cases hother
    · have hunread : (lists C).serializer.deserialize (C.print (.arr (texts.map .str))) = none :=
        ArraySerializer.deserialize_long hlong textSerializer
      rw [deserializeValues_none hother htext hunread]
      rfl
  have hsecond := lists_set hgood hdata hnone hfail.getOthersMergePolicyData
  have hwritten : ∀ text, text = C.print (.arr (texts.map .str)) → x ∈ (lists C).itemsOf text := by
    rintro _ rfl
    show x ∈ writtenItems C _
    rw [writtenItems_print]
    exact hitem
  have hkept := (h hfail secondAdmin hne x (hwritten _ hstored)).1 (hwritten _ hcombined)
  have hafter : (lists C).combined ((lists C).step s (.update firstAdmin ⟨.done, .done⟩
      (.set, some data))) = C.print (.arr (data.map .str)) := hsecond.value_combined
  have hlost : x ∈ writtenItems C (C.print (.arr (data.map .str))) := hafter ▸ hkept
  rw [writtenItems_print] at hlost
  exact hx hlost

/-- Ten thousand and one items are one too many. -/
theorem long_list_is_erased :
    ¬∀ (plugin : MergingPlugin (List String) (List String) String) (s : PluginState (List String))
      (op : Op (List String)), plugin.KeepsOthers s op := by
  intro h
  have hlong : EdmConstants.DEFAULT_LOOP_MAX_SIZE < ((List.range 10001).map toString).length := by
    rw [List.length_map, List.length_range]
    decide
  have hitem : "0" ∈ (List.range 10001).map toString :=
    List.mem_map.mpr ⟨0, List.mem_range.mpr (by omega), rfl⟩
  obtain ⟨s, hlost⟩ := lists_long_lost .standard hlong hitem (List.cons_ne_nil "com.app" [])
    (by decide)
  exact hlost (h _ s _)

end MergingPlugin

end Edm
