import Edm.Admin.Admin
import Edm.Plugin.EventPlugin
import Edm.Plugin.ManageAppsSerializer

/-! What the policies on lists of application instances share: how a request is handled, what the
other admins' lists merge to, and what is done when a bundle is removed. -/

set_option autoImplicit false

namespace Edm

open Library

def MANAGE_APPS_MAX_SIZE : Nat := 10

namespace ManageAppsPolicy

open ManageAppsSerializer

/-- A request with the instances that are read from it, the bundle names that the bundle manager
knows for identifiers, and the other answers. -/
structure Request (Answers : Type) where
  type : FuncOperateType
  apps : List ApplicationInstance
  getBundleNameByAppId : String → Option String
  answers : Answers

/-- The instance with its bundle name. -/
def nameBundle (getBundleNameByAppId : String → Option String) (appInstance : ApplicationInstance) :
    ApplicationInstance :=
  if appInstance.bundleName = "" then
    match getBundleNameByAppId appInstance.appIdentifier with
    | some bundleName => { appInstance with bundleName }
    | none => appInstance
  else appInstance

/-- The instances that a request is about. -/
def Request.named {Answers : Type} (request : Request Answers) : List ApplicationInstance :=
  request.apps.map (nameBundle request.getBundleNameByAppId)

/-- The code, the modules, and the lists of the admin and of all admins after the call. -/
abbrev Handler (Modules Answers : Type) :=
  Answers → Modules → List ApplicationInstance → List ApplicationInstance →
    List ApplicationInstance →
      ErrCode × Modules × List ApplicationInstance × List ApplicationInstance

variable (C : IntCJson) (policyName : String) {Modules Answers : Type}

def handle (onSetPolicy onRemovePolicy : Handler Modules Answers) (modules : Modules)
    (request : Request Answers) (currentData mergeData : List ApplicationInstance) :
    ErrCode × Modules × List ApplicationInstance × List ApplicationInstance :=
  match request.type with
  | .set => onSetPolicy request.answers modules request.named currentData mergeData
  | .remove => onRemovePolicy request.answers modules request.named currentData mergeData
  | _ => (EdmReturnErrCode.SYSTEM_ABNORMALLY, modules, currentData, mergeData)

def onHandlePolicy (onSetPolicy onRemovePolicy : Handler Modules Answers) (m : UserPolicyManager)
    (modules : Modules) (request : Request Answers) (policyData : HandlePolicyData) :
    ErrCode × Modules × HandlePolicyData :=
  if request.apps = [] ∨ MANAGE_APPS_MAX_SIZE < request.apps.length then
    (EdmReturnErrCode.PARAMETER_VERIFICATION_FAILED, modules, policyData)
  else
    let mergePolicyStr := m.policyValue "" policyName
    let (res, modules, currentData, mergeData) :=
      handle onSetPolicy onRemovePolicy modules request (deserialize C policyData.policyData).2
        (deserialize C policyData.mergePolicyData).2
    if failed res then (res, modules, policyData)
    else
      let afterHandle := serialize C currentData ""
      let afterMerge := serialize C mergeData ""
      (ERR_OK, modules,
        { policyData := afterHandle
          mergePolicyData := afterMerge
          isChanged := policyData.policyData != afterHandle || mergePolicyStr != afterMerge })

/-- The lists of the values, when all of them deserialize. -/
def deserializeValues (values : List String) : Option (List (List ApplicationInstance)) :=
  (values.filter fun value => value != "").mapM fun value =>
    match deserialize C value with
    | (true, dataItem) => some dataItem
    | (false, _) => none

/-- The text of the merged values.  The combined policy has to be readable. -/
def mergeValues (m : UserPolicyManager) (values : List String) : String :=
  match deserializeValues C values with
  | none => ""
  | some data =>
    match deserialize C (m.policyValue "" policyName) with
    | (false, _) => ""
    | (true, _) => serialize C (mergePolicy data) ""

/-- The event that a bundle of an account was removed, with the answers of the modules. -/
structure BundleRemoved (Answers : Type) where
  bundleName : String
  bundleUserId : Int32
  answers : Answers

/-- The first instance of the bundle in the admin's list is removed from it, and the code is ignored.
The lists are written over the old texts. -/
def onBundleRemoved (onRemovePolicy : Handler Modules Answers) (modules : Modules)
    (policyData : HandlePolicyData) (event : BundleRemoved Answers) : Modules × HandlePolicyData :=
  let adminData := (deserialize C policyData.policyData).2
  match adminData.find? fun app =>
    app.bundleName == event.bundleName && app.accountId == event.bundleUserId with
  | none => (modules, policyData)
  | some app =>
    let mergeData := (deserialize C policyData.mergePolicyData).2
    let (_, modules, adminData, mergeData) :=
      onRemovePolicy event.answers modules [app] adminData mergeData
    (modules,
      { policyData with
        policyData := serialize C adminData policyData.policyData
        mergePolicyData := serialize C mergeData policyData.mergePolicyData })

/-! ### The instances that the admins hold -/

/-- The instances of the list that a text stands for. -/
def itemsOf (policy : String) : Set AppKey := {x | x ∈ apps (deserialize C policy).2}

/-- A text of a list that names no instance twice. -/
def IsText (policy : String) : Prop :=
  ∃ data : List ApplicationInstance, (apps data).Nodup ∧ policy = serialize C data ""

variable {C}

theorem itemsOf_serialize (data : List ApplicationInstance) :
    itemsOf C (serialize C data "") = {x | x ∈ apps data} := by
  rw [itemsOf, deserialize_serialize]

theorem itemsOf_empty : itemsOf C "" = ∅ := by
  have h := itemsOf_serialize (C := C) []
  exact h.trans (Set.eq_empty_iff_forall_notMem.mpr fun x => List.not_mem_nil)

theorem isText_empty : IsText C "" := ⟨[], List.nodup_nil, rfl⟩

theorem isText_serialize {data : List ApplicationInstance} (h : (apps data).Nodup) :
    IsText C (serialize C data "") := ⟨data, h, rfl⟩

/-- Writing a list over the text of another list: the empty list leaves the text. -/
theorem serialize_over {old : String} (h : IsText C old) {data : List ApplicationInstance}
    (hdata : (apps data).Nodup) : IsText C (serialize C data old) := by
  by_cases hnil : data = []
  · rw [serialize, if_pos hnil]
    exact h
  · refine ⟨data, hdata, ?_⟩
    rw [serialize, serialize, if_neg hnil, if_neg hnil]

variable {policyName} {s : UserStore}

/-- What the other admins' lists merge to. -/
theorem mergeValues_text (h : TextStore (IsText C) policyName s) (order : HashOrder)
    (admin : AdminName) :
    ∃ others : List ApplicationInstance, (apps others).Nodup ∧
      (∀ x, x ∈ apps others ↔ x ∈ heldByOthers (itemsHeld (itemsOf C) policyName s) admin) ∧
      mergeValues C policyName s.manager (othersValues order s.manager policyName admin) =
        serialize C others "" := by
  obtain ⟨combined, -, hcombined⟩ := h.text ""
  have hread : ∀ v, v ∈ othersValues order s.manager policyName admin →
      (match deserialize C v with
        | (true, dataItem) => some dataItem
        | (false, _) => none) = some (deserialize C v).2 := by
    intro v hv
    obtain ⟨-, other, -, rfl⟩ := (h.good.mem_othersValues order admin).mp hv
    obtain ⟨data, -, htext⟩ := h.text other
    rw [htext, deserialize_serialize]
  have hfilter : (othersValues order s.manager policyName admin).filter (fun value => value != "") =
      othersValues order s.manager policyName admin :=
    List.filter_eq_self.mpr fun v hv =>
      bne_iff_ne.mpr ((h.good.mem_othersValues order admin).mp hv).1
  refine ⟨mergePolicy ((othersValues order s.manager policyName admin).map fun v =>
    (deserialize C v).2), nodup_apps_mergePolicy _, fun x => ?_, ?_⟩
  · rw [h.good.mem_heldByOthers itemsOf_empty order admin, mem_apps_mergePolicy]
    constructor
    · rintro ⟨list, hlist, hx⟩
      obtain ⟨v, hv, rfl⟩ := List.mem_map.mp hlist
      exact ⟨v, hv, hx⟩
    · rintro ⟨v, hv, hx⟩
      exact ⟨_, List.mem_map_of_mem hv, hx⟩
  · rw [mergeValues, deserializeValues, hfilter, mapM_some hread, hcombined, deserialize_serialize]

/-- Without other admins nothing is written. -/
theorem mergeValues_nil (m : UserPolicyManager) : mergeValues C policyName m [] = "" := by
  unfold mergeValues
  split
  · rfl
  · rename_i data hdata
    obtain rfl : ([] : List (List ApplicationInstance)) = data := Option.some.inj hdata
    split <;> rfl

/-! ### The lists after a request -/

section Lists

variable {current others data : List ApplicationInstance}

/-- The lists of the admin and of all admins after a set of `data`. -/
structure AfterSet (current others data afterHandle afterMerge : List ApplicationInstance) :
    Prop where
  nodup_handle : (apps afterHandle).Nodup
  nodup_merge : (apps afterMerge).Nodup
  merge_ne_nil : afterMerge ≠ []
  mem_handle : Set.InjOn mergeText {x | x ∈ apps current ∨ x ∈ apps data} →
    ∀ x, x ∈ apps afterHandle ↔ x ∈ apps current ∨ x ∈ apps data
  mem_merge : Set.InjOn mergeText {x | (x ∈ apps others ∨ x ∈ apps current) ∨ x ∈ apps data} →
    ∀ x, x ∈ apps afterMerge ↔ x ∈ apps others ∨ x ∈ apps current ∨ x ∈ apps data

theorem afterSet (current others : List ApplicationInstance) (hdata : data ≠ []) :
    AfterSet current others data
      (setUnionPolicyData (sort current)
        (setDifferencePolicyData [] (setDifferencePolicyData current data)))
      (setUnionPolicyData (sort others) (setUnionPolicyData (sort current)
        (setDifferencePolicyData [] (setDifferencePolicyData current data)))) := by
  have hadd : ∀ x, x ∈ apps (setDifferencePolicyData [] (setDifferencePolicyData current data)) ∨
      x ∈ apps current ↔ x ∈ apps data ∨ x ∈ apps current := by
    intro x
    have hfirst : x ∈ apps (setDifferencePolicyData current data) ∨ x ∈ apps current ↔
        x ∈ apps data ∨ x ∈ apps current := mem_apps_setDifferencePolicyData_or
    have hnext : x ∈ apps (setDifferencePolicyData [] (setDifferencePolicyData current data)) ∨
        x ∈ apps [] ↔ x ∈ apps (setDifferencePolicyData current data) ∨ x ∈ apps [] :=
      mem_apps_setDifferencePolicyData_or
    simp only [apps, List.map_nil, List.not_mem_nil, or_false] at hnext
    rw [← hfirst]
    exact or_congr_left hnext
  generalize setDifferencePolicyData [] (setDifferencePolicyData current data) = addData at hadd ⊢
  have hhandle : Set.InjOn mergeText {x | x ∈ apps current ∨ x ∈ apps data} →
      ∀ x, x ∈ apps (setUnionPolicyData (sort current) addData) ↔
        x ∈ apps current ∨ x ∈ apps data := by
    intro hinj x
    rw [mem_apps_setUnionPolicyData, mem_apps_sort, or_comm, hadd, or_comm]
    refine hinj.mono fun y hy => ?_
    have hy : y ∈ apps (sort current) ∨ y ∈ apps addData := hy
    have hor := hadd y
    rw [mem_apps_sort] at hy
    show y ∈ apps current ∨ y ∈ apps data
    tauto
  refine ⟨nodup_apps_setUnionPolicyData _ _, nodup_apps_setUnionPolicyData _ _, ?_, hhandle,
    fun hinj x => ?_⟩
  · refine setUnionPolicyData_ne_nil (.inr (setUnionPolicyData_ne_nil ?_))
    obtain ⟨item, hitem⟩ := List.exists_mem_of_ne_nil _ hdata
    rcases (hadd item.key).mpr (.inl (List.mem_map_of_mem hitem)) with hmem | hmem
    · obtain ⟨other, hother, -⟩ := List.mem_map.mp hmem
      exact .inr (List.ne_nil_of_mem hother)
    · obtain ⟨other, hother, -⟩ := List.mem_map.mp hmem
      exact .inl (List.ne_nil_of_mem (mem_sort.mpr hother))
  · have hown : Set.InjOn mergeText {x | x ∈ apps current ∨ x ∈ apps data} :=
      hinj.mono fun y hy => hy.imp_left .inr
    rw [mem_apps_setUnionPolicyData, mem_apps_sort, hhandle hown]
    refine hinj.mono fun y hy => ?_
    have hy : y ∈ apps (sort others) ∨ y ∈ apps (setUnionPolicyData (sort current) addData) := hy
    rw [mem_apps_sort, hhandle hown] at hy
    show (y ∈ apps others ∨ y ∈ apps current) ∨ y ∈ apps data
    tauto

/-- The admin's list after a removal of `data`, when it names `data` and the others do not. -/
structure AfterRemove (current others data : List ApplicationInstance) : Prop where
  only : ∀ x, x ∈ apps data → x ∈ apps current ∧ x ∉ apps others
  nodup : (apps (setDifferencePolicyData (setIntersectionPolicyData data current) current)).Nodup
  mem : ∀ x, x ∈ apps (setDifferencePolicyData (setIntersectionPolicyData data current) current) ↔
    x ∈ apps current ∧ x ∉ apps data

theorem mem_apps_needRemoveMerge {x : AppKey} :
    x ∈ apps (setNeedRemoveMergePolicyData others (setIntersectionPolicyData data current)) ↔
      (x ∈ apps data ∧ x ∈ apps current) ∧ x ∉ apps others := by
  rw [mem_apps_setNeedRemoveMergePolicyData, mem_apps_setIntersectionPolicyData]

/-- Something is removed for the last time. -/
theorem AfterRemove.needRemoveMerge_ne_nil (h : AfterRemove current others data)
    (hdata : data ≠ []) :
    setNeedRemoveMergePolicyData others (setIntersectionPolicyData data current) ≠ [] := by
  obtain ⟨item, hitem⟩ := List.exists_mem_of_ne_nil _ hdata
  have hkey : item.key ∈ apps data := List.mem_map_of_mem hitem
  obtain ⟨hlisted, hothers⟩ := h.only _ hkey
  obtain ⟨other, hother, -⟩ :=
    List.mem_map.mp (mem_apps_needRemoveMerge.mpr ⟨⟨hkey, hlisted⟩, hothers⟩)
  exact List.ne_nil_of_mem hother

/-- No requested instance fails exactly when the admin names all of them and the others none. -/
theorem failedData_eq_nil :
    setNeedRemoveMergePolicyData (setNeedRemoveMergePolicyData others
      (setIntersectionPolicyData data current)) data = [] ↔
        ∀ x, x ∈ apps data → x ∈ apps current ∧ x ∉ apps others := by
  rw [← List.map_eq_nil_iff (f := ApplicationInstance.key), List.eq_nil_iff_forall_not_mem]
  refine forall_congr' fun x => ?_
  rw [mem_apps_setNeedRemoveMergePolicyData, mem_apps_needRemoveMerge]
  tauto

theorem afterRemove (hcurrent : (apps current).Nodup)
    (hfailed : setNeedRemoveMergePolicyData (setNeedRemoveMergePolicyData others
      (setIntersectionPolicyData data current)) data = []) : AfterRemove current others data := by
  have honly := failedData_eq_nil.mp hfailed
  refine ⟨honly, nodup_apps_setDifferencePolicyData hcurrent, fun x => ?_⟩
  rw [mem_apps_setDifferencePolicyData hcurrent fun item hitem =>
    mem_of_mem_setIntersectionPolicyData hitem, mem_apps_setIntersectionPolicyData]
  have hx := honly x
  tauto

end Lists

/-! ### Operations whose writes take effect -/

theorem named_ne_nil {request : Request Answers}
    (h : ¬(request.apps = [] ∨ MANAGE_APPS_MAX_SIZE < request.apps.length)) :
    request.named ≠ [] := by
  intro hnil
  exact h (.inl (List.map_eq_nil_iff.mp hnil))

section Steps

variable {Event : Type} (plugin : Plugin Modules (Request Answers) Answers Event)
  {s : PluginState Modules} (admin : AdminName)

/-- What an update makes of the lists: the request is refused, or handled with the lists of the admin
and of the others. -/
theorem policyStep_update_apps {onSetPolicy onRemovePolicy : Handler Modules Answers}
    (h : TextStore (IsText C) plugin.policyName s.store) (hname : plugin.policyName ≠ "")
    (hsave : plugin.needSave = true)
    (hmerge : ∃ others : List ApplicationInstance, (apps others).Nodup ∧
      (∀ x, x ∈ apps others ↔
        x ∈ heldByOthers (itemsHeld (itemsOf C) plugin.policyName s.store) admin) ∧
      plugin.getOthersMergePolicyData s.store.manager admin = serialize C others "")
    (request : Request Answers)
    (hcall : ∀ policyData, plugin.onHandlePolicy s.store.manager s.modules request policyData =
      onHandlePolicy C plugin.policyName onSetPolicy onRemovePolicy s.store.manager s.modules request
        policyData) {s' : PluginState Modules}
    (hs' : policyStep plugin s (.update admin ⟨.done, .done⟩ request) = s') :
    ∃ current others : List ApplicationInstance, (apps current).Nodup ∧ (apps others).Nodup ∧
      ((deserialize C (s.store.manager.policyValue admin plugin.policyName)).2 = current ∧
        (deserialize C (plugin.getOthersMergePolicyData s.store.manager admin)).2 = others) ∧
      (∀ x, x ∈ apps current ↔ x ∈ itemsHeld (itemsOf C) plugin.policyName s.store admin) ∧
      (∀ x, x ∈ apps others ↔
        x ∈ heldByOthers (itemsHeld (itemsOf C) plugin.policyName s.store) admin) ∧
      ((request.apps = [] ∨ MANAGE_APPS_MAX_SIZE < request.apps.length) ∧
          s'.modules = s.modules ∧ s'.store = s.store ∨
        ¬(request.apps = [] ∨ MANAGE_APPS_MAX_SIZE < request.apps.length) ∧
          ∃ res current' merge',
            handle onSetPolicy onRemovePolicy s.modules request current others =
              (res, s'.modules, current', merge') ∧
            (failed res = true → s'.store = s.store) ∧
            (failed res = false → (apps current').Nodup → (apps merge').Nodup →
              TextStore (IsText C) plugin.policyName s'.store ∧
              ∀ x, x ∈ held (itemsHeld (itemsOf C) plugin.policyName s'.store) ↔
                x ∈ apps others ∨ x ∈ apps current')) := by
  obtain ⟨current, hcurrent, hvalue⟩ := h.text admin.1
  obtain ⟨others, hothers, hmem, htext⟩ := hmerge
  have hown : ∀ x, x ∈ apps current ↔ x ∈ itemsHeld (itemsOf C) plugin.policyName s.store admin := by
    intro x
    rw [itemsHeld, hvalue, itemsOf_serialize]
    exact Iff.rfl
  refine ⟨current, others, hcurrent, hothers, ⟨by rw [hvalue, deserialize_serialize],
    by rw [htext, deserialize_serialize]⟩, hown, hmem, ?_⟩
  have hdata : PluginManager.handlePolicyData plugin s admin =
      ⟨serialize C current "", serialize C others "", false⟩ := by
    rw [PluginManager.handlePolicyData, hvalue, htext]
  have hhandled := hcall (PluginManager.handlePolicyData plugin s admin)
  unfold onHandlePolicy at hhandled
  by_cases hsize : request.apps = [] ∨ MANAGE_APPS_MAX_SIZE < request.apps.length
  · rw [if_pos hsize] at hhandled
    obtain ⟨hmodules, ⟨-, hstore⟩ | ⟨hok, -, -⟩⟩ := policyStep_update_cases plugin admin h.good hname
      hhandled
    · rw [hs'] at hmodules hstore
      exact .inl ⟨hsize, hmodules, hstore⟩
    · exact absurd hok (by decide)
  rw [if_neg hsize] at hhandled
  refine .inr ⟨hsize, ?_⟩
  rcases hresult : handle onSetPolicy onRemovePolicy s.modules request current others with
    ⟨res, modules, current', merge'⟩
  rw [hdata] at hhandled
  simp only [deserialize_serialize, hresult] at hhandled
  rw [← hdata] at hhandled
  cases hres : failed res with
  | true =>
    rw [hres, if_pos rfl] at hhandled
    obtain ⟨hmodules, hstore⟩ := policyStep_update_cases plugin admin h.good hname hhandled
    rw [hs'] at hmodules hstore
    refine ⟨res, current', merge', by rw [hmodules], fun _ => ?_, fun hok => ?_⟩
    · rcases hstore with ⟨-, hstore⟩ | ⟨hok, -, -⟩
      · exact hstore
      · rw [hres] at hok
        cases hok
    · rw [hres] at hok
      cases hok
  | false =>
    rw [hres, if_neg Bool.false_ne_true] at hhandled
    obtain ⟨hmodules, hstore⟩ := policyStep_update_cases plugin admin h.good hname hhandled
    rw [hs'] at hmodules hstore
    refine ⟨res, current', merge', by rw [hmodules], fun hfailed => ?_,
      fun _ hcurrent' hmerge' => ?_⟩
    · rw [hres] at hfailed
      cases hfailed
    rcases hstore with ⟨hstay, hstore⟩ | ⟨-, -, hsaved⟩
    · -- Nothing is saved, for the texts are the same.
      have hsame : current = current' := by
        rcases hstay with hfailed | hsame
        · exact absurd hfailed (by decide)
        · rw [hsave, Bool.true_and, Bool.or_eq_false_iff] at hsame
          exact serialize_injective (bne_eq_false_iff_eq.mp hsame.1)
      rw [hstore, ← hsame]
      refine ⟨h, fun x => ?_⟩
      rw [held_eq _ admin, hown, hmem]
      exact Iff.rfl
    · refine ⟨h.saved hsaved (isText_serialize hcurrent') (isText_serialize hmerge'), fun x => ?_⟩
      rw [held_saved hsaved, itemsOf_serialize, hmem]
      exact Iff.rfl

end Steps

/-! ### The removal of a bundle -/

section Visit

/-- The first instance of the bundle in a list. -/
def firstOfBundle (event : BundleRemoved Answers) (data : List ApplicationInstance) :
    Option ApplicationInstance :=
  data.find? fun app =>
    app.bundleName == event.bundleName && app.accountId == event.bundleUserId

variable (plugin : EventPlugin Modules (Request Answers) Answers (BundleRemoved Answers))
  {s : PluginState Modules} (admin : AdminName)

/-- The texts that the visit of an admin saves: the lists that the handler leaves, written over the
texts of the old lists. -/
theorem visit_saved (onRemovePolicy : Handler Modules Answers)
    (h : TextStore (IsText C) plugin.policyName s.store) (hname : plugin.policyName ≠ "")
    (hsave : plugin.needSave = true)
    (hmerge : ∃ others : List ApplicationInstance, (apps others).Nodup ∧
      (∀ x, x ∈ apps others ↔
        x ∈ heldByOthers (itemsHeld (itemsOf C) plugin.policyName s.store) admin) ∧
      plugin.getOthersMergePolicyData s.store.manager admin = serialize C others "")
    (event : BundleRemoved Answers)
    (hevent : ∀ policyData, plugin.onEvent s.modules policyData event =
      onBundleRemoved C onRemovePolicy s.modules policyData event) {s' : PluginState Modules}
    (hs' : plugin.visit ⟨.done, .done⟩ event s admin
      (s.store.manager.policyValue admin plugin.policyName) = s') :
    ∃ current others : List ApplicationInstance, (apps current).Nodup ∧ (apps others).Nodup ∧
      s.store.manager.policyValue admin plugin.policyName = serialize C current "" ∧
      (∀ x, x ∈ apps others ↔
        x ∈ heldByOthers (itemsHeld (itemsOf C) plugin.policyName s.store) admin) ∧
      ∃ current' merge', (firstOfBundle event current = none ∧ s'.modules = s.modules ∧
            current' = current ∧ merge' = others ∨
          ∃ app res, firstOfBundle event current = some app ∧
            onRemovePolicy event.answers s.modules [app] current others =
              (res, s'.modules, current', merge')) ∧
        Saved s.store s'.store admin plugin.policyName
          (serialize C current' (serialize C current ""))
          (serialize C merge' (serialize C others "")) := by
  obtain ⟨current, hcurrent, hvalue⟩ := h.text admin.1
  obtain ⟨others, hothers, hmem, htext⟩ := hmerge
  refine ⟨current, others, hcurrent, hothers, hvalue, hmem, ?_⟩
  have hhandled := hevent ⟨serialize C current "", serialize C others "", false⟩
  unfold onBundleRemoved at hhandled
  simp only [deserialize_serialize] at hhandled
  rw [hvalue] at hs'
  have hsame : ∀ data : List ApplicationInstance,
      serialize C data (serialize C data "") = serialize C data "" := by
    intro data
    by_cases hnil : data = []
    · rw [hnil]
      rfl
    · rw [serialize, serialize, if_neg hnil, if_neg hnil]
  cases hfirst : firstOfBundle event current with
  | none =>
    unfold firstOfBundle at hfirst
    rw [hfirst] at hhandled
    dsimp only at hhandled
    rw [← htext] at hhandled
    obtain ⟨hmodules, hsaved⟩ := plugin.visit_saved h.good hname hsave event admin hhandled
    rw [hs'] at hmodules hsaved
    dsimp only at hsaved
    rw [htext, ← hsame current, ← hsame others] at hsaved
    exact ⟨current, others, .inl ⟨rfl, hmodules, rfl, rfl⟩, hsaved⟩
  | some app =>
    unfold firstOfBundle at hfirst
    rw [hfirst] at hhandled
    dsimp only at hhandled
    rcases hresult : onRemovePolicy event.answers s.modules [app] current others with
      ⟨res, modules, current', merge'⟩
    rw [hresult] at hhandled
    dsimp only at hhandled
    rw [← htext] at hhandled
    obtain ⟨hmodules, hsaved⟩ := plugin.visit_saved h.good hname hsave event admin hhandled
    rw [hs'] at hmodules hsaved
    dsimp only at hsaved
    rw [htext] at hsaved
    exact ⟨current', merge', .inr ⟨app, res, rfl, by rw [hmodules, hresult]⟩, hsaved⟩

/-- What a list is after a visit: the empty list is not written. -/
theorem deserialize_over (current' current : List ApplicationInstance) :
    deserialize C (serialize C current' (serialize C current "")) =
      (true, if current' = [] then current else current') := by
  by_cases hnil : current' = []
  · rw [serialize, if_pos hnil, if_pos hnil, deserialize_serialize]
  · have hover : serialize C current' (serialize C current "") = serialize C current' "" := by
      rw [serialize, if_neg hnil, serialize, if_neg hnil]
    rw [hover, if_neg hnil, deserialize_serialize]

/-- What the visit of an admin makes of the instances that are listed. -/
theorem visit_apps (onRemovePolicy : Handler Modules Answers)
    (h : TextStore (IsText C) plugin.policyName s.store) (hname : plugin.policyName ≠ "")
    (hsave : plugin.needSave = true)
    (hmerge : ∃ others : List ApplicationInstance, (apps others).Nodup ∧
      (∀ x, x ∈ apps others ↔
        x ∈ heldByOthers (itemsHeld (itemsOf C) plugin.policyName s.store) admin) ∧
      plugin.getOthersMergePolicyData s.store.manager admin = serialize C others "")
    (event : BundleRemoved Answers)
    (hevent : ∀ policyData, plugin.onEvent s.modules policyData event =
      onBundleRemoved C onRemovePolicy s.modules policyData event) {s' : PluginState Modules}
    (hs' : plugin.visit ⟨.done, .done⟩ event s admin
      (s.store.manager.policyValue admin plugin.policyName) = s') :
    ∃ current others : List ApplicationInstance, (apps current).Nodup ∧ (apps others).Nodup ∧
      (deserialize C (s.store.manager.policyValue admin plugin.policyName)).2 = current ∧
      (∀ x, x ∈ apps current ↔ x ∈ itemsHeld (itemsOf C) plugin.policyName s.store admin) ∧
      (∀ x, x ∈ apps others ↔
        x ∈ heldByOthers (itemsHeld (itemsOf C) plugin.policyName s.store) admin) ∧
      (firstOfBundle event current = none ∧ s'.modules = s.modules ∧
          TextStore (IsText C) plugin.policyName s'.store ∧
          (∀ x, x ∈ held (itemsHeld (itemsOf C) plugin.policyName s'.store) ↔
            x ∈ apps others ∨ x ∈ apps current) ∨
        ∃ app res current' merge', firstOfBundle event current = some app ∧ app ∈ current ∧
          onRemovePolicy event.answers s.modules [app] current others =
            (res, s'.modules, current', merge') ∧
          ((apps current').Nodup → (apps merge').Nodup →
            TextStore (IsText C) plugin.policyName s'.store ∧
            ∀ x, x ∈ held (itemsHeld (itemsOf C) plugin.policyName s'.store) ↔
              x ∈ apps others ∨ x ∈ apps (if current' = [] then current else current'))) := by
  obtain ⟨current, others, hcurrent, hothers, hvalue, hmem, current', merge', hafter, hsaved⟩ :=
    visit_saved plugin admin onRemovePolicy h hname hsave hmerge event hevent hs'
  have hown : ∀ x, x ∈ apps current ↔ x ∈ itemsHeld (itemsOf C) plugin.policyName s.store admin := by
    intro x
    rw [itemsHeld, hvalue, itemsOf_serialize]
    exact Iff.rfl
  have htexts : (apps current').Nodup → (apps merge').Nodup →
      TextStore (IsText C) plugin.policyName s'.store := fun hcurrent' hmerge' =>
    h.saved hsaved (serialize_over (isText_serialize hcurrent) hcurrent')
      (serialize_over (isText_serialize hothers) hmerge')
  have hheld : ∀ x, x ∈ held (itemsHeld (itemsOf C) plugin.policyName s'.store) ↔
      x ∈ apps others ∨ x ∈ apps (if current' = [] then current else current') := by
    intro x
    rw [held_saved hsaved, itemsOf, deserialize_over, hmem]
    exact Iff.rfl
  refine ⟨current, others, hcurrent, hothers, by rw [hvalue, deserialize_serialize], hown, hmem, ?_⟩
  rcases hafter with ⟨hfirst, hmodules, rfl, rfl⟩ | ⟨app, res, hfirst, hresult⟩
  · simp only [ite_self] at hheld
    exact .inl ⟨hfirst, hmodules, htexts hcurrent hothers, hheld⟩
  · exact .inr ⟨app, res, current', merge', hfirst, List.mem_of_find?_eq_some hfirst, hresult,
      fun hcurrent' hmerge' => ⟨htexts hcurrent' hmerge', hheld⟩⟩

end Visit

end ManageAppsPolicy

end Edm
