import Edm.Admin.AdminManager
import Edm.Plugin.ArrayStringSerializer
import Edm.Plugin.TemplatePolicy

/-! `SetAllowedKioskAppsPlugin`: the kiosk list, which three services hold. -/

set_option autoImplicit false

namespace Edm

open Library

def POLICY_ALLOWED_KIOSK_APPS : String := "allowed_kiosk_apps"

def EdmConstants.POLICIES_MAX_SIZE : Nat := 200

namespace SetAllowedKioskAppsPlugin

open ArrayStringSerializer

/-- The bundle names that the ability manager and the window manager hold, and the text that the
notification service holds. -/
structure Modules where
  ams : List String
  wms : List String
  notification : String
  deriving DecidableEq

/-- Whether there is a bundle manager, and whether each call succeeds. -/
structure Answers where
  bundleMgr : Bool
  ams : Bool
  wms : Bool
  notification : Bool
  /-- The calls that clear the lists. -/
  amsCleared : Bool
  wmsCleared : Bool

def setKioskAppsToAms (answer : Bool) (modules : Modules) (bundleNames : List String) :
    ErrCode × Modules :=
  if answer then (ERR_OK, { modules with ams := bundleNames })
  else (EdmReturnErrCode.SYSTEM_ABNORMALLY, modules)

def setKioskAppsToWms (answer : Bool) (modules : Modules) (bundleNames : List String) :
    ErrCode × Modules :=
  if answer then (ERR_OK, { modules with wms := bundleNames })
  else (EdmReturnErrCode.SYSTEM_ABNORMALLY, modules)

variable (C : CJson) (resolve : String → Option String)

def setKioskAppsToNotification (answer : Bool) (modules : Modules) (bundleNames : List String) :
    ErrCode × Modules :=
  if answer then (ERR_OK, { modules with notification := serialize C bundleNames })
  else (EdmReturnErrCode.SYSTEM_ABNORMALLY, modules)

/-- The bundle names of the identifiers that resolve, and these identifiers.  `resolve` is
`GetBundleNameByAppId`. -/
def convertAppIdentifierToBundleNames (appIdentifiers : List String) : List String × List String :=
  (appIdentifiers.filterMap resolve, appIdentifiers.filter fun id => (resolve id).isSome)

def onSetPolicy (answers : Answers) (modules : Modules)
    (data currentData mergeData : List String) :
    ErrCode × Modules × List String × List String :=
  if EdmConstants.POLICIES_MAX_SIZE < data.length then
    (EdmReturnErrCode.PARAM_ERROR, modules, currentData, mergeData)
  else if answers.bundleMgr = false then
    (EdmReturnErrCode.SYSTEM_ABNORMALLY, modules, currentData, mergeData)
  else
    let (bundleNames, afterData) := convertAppIdentifierToBundleNames resolve data
    let (ret, modules) := setKioskAppsToAms answers.ams modules bundleNames
    if failed ret then (EdmReturnErrCode.SYSTEM_ABNORMALLY, modules, currentData, mergeData)
    else
      let (ret, modules) := setKioskAppsToWms answers.wms modules bundleNames
      if failed ret then
        let (_, modules) := setKioskAppsToAms answers.amsCleared modules []
        (EdmReturnErrCode.SYSTEM_ABNORMALLY, modules, currentData, mergeData)
      else
        let (ret, modules) := setKioskAppsToNotification C answers.notification modules bundleNames
        if failed ret then
          let (_, modules) := setKioskAppsToAms answers.amsCleared modules []
          let (_, modules) := setKioskAppsToWms answers.wmsCleared modules []
          (EdmReturnErrCode.SYSTEM_ABNORMALLY, modules, currentData, mergeData)
        else (ERR_OK, modules, afterData, afterData)

structure Request where
  type : FuncOperateType
  data : List String
  answers : Answers

def onHandlePolicy (modules : Modules) (request : Request) (policyData : HandlePolicyData) :
    ErrCode × Modules × HandlePolicyData :=
  match request.type with
  | .set =>
    IPluginTemplate.handlePolicy (serializer C) (onSetPolicy C resolve request.answers) modules
      (some (getPolicy request.data)) policyData
  | _ => (ERR_OK, modules, policyData)

def onAdminRemove (answers : Answers) (modules : Modules) (_ mergeData : List String) :
    ErrCode × Modules :=
  if mergeData = [] then
    let (_, modules) := setKioskAppsToAms answers.ams modules mergeData
    let (_, modules) := setKioskAppsToWms answers.wms modules mergeData
    let (_, modules) := setKioskAppsToNotification C answers.notification modules mergeData
    (ERR_OK, modules)
  else (ERR_OK, modules)

inductive SystemAbility where
  | ABILITY_MGR_SERVICE_ID
  | WINDOW_MANAGER_SERVICE_ID
  | BUNDLE_MGR_SERVICE_SYS_ABILITY_ID
  | DISTRIBUTED_NOTIFICATION_SERVICE_ABILITY_ID

/-- `policyData` is the combined policy of the default user. -/
def onOtherServiceStart (policyData : String) (systemAbilityId : SystemAbility) (answers : Answers)
    (modules : Modules) : Modules :=
  if policyData = "" then modules
  else if answers.bundleMgr = false then modules
  else
    let bundleNames :=
      (convertAppIdentifierToBundleNames resolve ((deserialize C policyData).getD [])).1
    match systemAbilityId with
    | .ABILITY_MGR_SERVICE_ID => (setKioskAppsToAms answers.ams modules bundleNames).2
    | .WINDOW_MANAGER_SERVICE_ID => (setKioskAppsToWms answers.wms modules bundleNames).2
    | .BUNDLE_MGR_SERVICE_SYS_ABILITY_ID =>
      (setKioskAppsToWms answers.wms (setKioskAppsToAms answers.ams modules bundleNames).2
        bundleNames).2
    | .DISTRIBUTED_NOTIFICATION_SERVICE_ABILITY_ID => modules

def plugin (order : HashOrder) : Plugin Modules Request Answers Empty where
  policyName := POLICY_ALLOWED_KIOSK_APPS
  needSave := true
  getOthersMergePolicyData :=
    IPluginTemplate.getOthersMergePolicyData (serializer C) order POLICY_ALLOWED_KIOSK_APPS
  onHandlePolicy _ := onHandlePolicy C resolve
  onAdminRemove modules answers :=
    IPluginTemplate.adminRemove (serializer C) (onAdminRemove C answers) modules
  onPluginEvent _ event := nomatch event

/-! ### Runs -/

/-- What a service that restarts without its list holds. -/
def lose (systemAbilityId : SystemAbility) (modules : Modules) : Modules :=
  match systemAbilityId with
  | .ABILITY_MGR_SERVICE_ID => { modules with ams := [] }
  | .WINDOW_MANAGER_SERVICE_ID => { modules with wms := [] }
  | .BUNDLE_MGR_SERVICE_SYS_ABILITY_ID => modules
  | .DISTRIBUTED_NOTIFICATION_SERVICE_ABILITY_ID => { modules with notification := "" }

/-- An operation on the list, with the order of the others' values, or a restart of a service, which
may lose its list. -/
inductive Op where
  | policy (order : HashOrder) (op : PolicyOp Request Answers)
  | otherServiceStart (systemAbilityId : SystemAbility) (lost : Bool) (answers : Answers)

abbrev State := PluginState Modules

def step (s : State) : Op → State
  | .policy order op => policyStep (plugin C resolve order) s op
  | .otherServiceStart systemAbilityId lost answers =>
    { s with
      modules := onOtherServiceStart C resolve
        (s.store.manager.policyValue "" POLICY_ALLOWED_KIOSK_APPS) systemAbilityId answers
        (if lost then lose systemAbilityId s.modules else s.modules) }

/-- The default user without policies, and services without lists. -/
def boot : State := PluginState.boot ⟨[], [], ""⟩ DEFAULT_USER_ID

/-- The list that a text stands for. -/
def listOf (text : String) : List String := (deserialize C text).getD []

/-- The services with these bundle names. -/
def holding (bundleNames : List String) : Modules :=
  ⟨bundleNames, bundleNames, serialize C bundleNames⟩

section Run

variable (s : State)

/-- The list that an admin stores. -/
def stored (admin : AdminName) : List String :=
  listOf C (s.store.manager.policyValue admin POLICY_ALLOWED_KIOSK_APPS)

def combined : List String :=
  listOf C (s.store.manager.policyValue "" POLICY_ALLOWED_KIOSK_APPS)

/-- The services hold the bundle names of the combined list. -/
def Agree : Prop := s.modules = holding C ((combined C s).filterMap resolve)

/-- A request that fails changes neither the services nor the stored lists. -/
def Right : Op → Prop
  | .policy order (.update admin writes request) =>
    policyCode (plugin C resolve order) s (.update admin writes request) ≠ ERR_OK →
      (step C resolve s (.policy order (.update admin writes request))).modules = s.modules ∧
        (step C resolve s (.policy order (.update admin writes request))).store = s.store
  | _ => True

/-- A list that was replaced by `sent` is empty again, or still `sent`, as it was. -/
def Restored (cleared : Bool) (previous sent : List String) : Prop :=
  if cleared then previous = [] else previous = sent

/-- A request with a list of this length that is not refused. -/
structure SetKeeps (admin : AdminName) (data : List String) (answers : Answers) : Prop where
  wms : answers.ams = true → answers.wms = false →
    Restored answers.amsCleared s.modules.ams (data.filterMap resolve)
  notification : answers.ams = true → answers.wms = true → answers.notification = false →
    Restored answers.amsCleared s.modules.ams (data.filterMap resolve) ∧
      Restored answers.wmsCleared s.modules.wms (data.filterMap resolve)
  repeated : answers.ams = true → answers.wms = true → answers.notification = true →
    stored C s admin = data.filter (fun id => (resolve id).isSome) →
      s.modules = holding C (data.filterMap resolve)

/-- The other admins' lists together are the combined list.  Where they are all empty, the services
are cleared. -/
structure RemoveKeeps (admin : AdminName) (answers : Answers) : Prop where
  others : (∃ other, other ≠ admin ∧ stored C s other ≠ []) →
    ∀ id, id ∈ combined C s ↔ ∃ other, other ≠ admin ∧ id ∈ stored C s other
  cleared : (∀ other, other ≠ admin → stored C s other = []) →
    (answers.ams = true ∨ s.modules.ams = []) ∧ (answers.wms = true ∨ s.modules.wms = []) ∧
      (answers.notification = true ∨ s.modules.notification = "")

/-- A service that loses its list is sent it again, or held an empty one. -/
def StartKeeps (systemAbilityId : SystemAbility) (answers : Answers) : Prop :=
  match systemAbilityId with
  | .ABILITY_MGR_SERVICE_ID => s.modules.ams = [] ∨ answers.bundleMgr = true ∧ answers.ams = true
  | .WINDOW_MANAGER_SERVICE_ID => s.modules.wms = [] ∨ answers.bundleMgr = true ∧ answers.wms = true
  | .BUNDLE_MGR_SERVICE_SYS_ABILITY_ID => True
  | .DISTRIBUTED_NOTIFICATION_SERVICE_ABILITY_ID => s.modules.notification = ""

/-- Writes take effect, and the conditions above. -/
def Keeps : Op → Prop
  | .policy _ (.update admin writes request) =>
    writes = ⟨.done, .done⟩ ∧ (request.type = .set →
      (getPolicy request.data).length ≤ EdmConstants.POLICIES_MAX_SIZE →
        request.answers.bundleMgr = true →
          SetKeeps C resolve s admin (getPolicy request.data) request.answers)
  | .policy _ (.removeAdmin admin writes answers) =>
    writes = ⟨.done, .done⟩ ∧ (stored C s admin ≠ [] → RemoveKeeps C s admin answers)
  | .otherServiceStart systemAbilityId lost answers =>
    lost = true → StartKeeps s systemAbilityId answers

end Run

/-! ### Lists and texts -/

section Texts

variable {C} {resolve} {s : State}

/-- The lists that are stored: sorted and without repetitions. -/
def IsList (data : List String) : Prop := Sorted data ∧ data.Nodup

def IsText (C : CJson) (text : String) : Prop := ∃ data, IsList data ∧ text = serialize C data

theorem isList_nil : IsList [] := ⟨List.Pairwise.nil, List.nodup_nil⟩

theorem isList_getPolicy (data : List String) : IsList (getPolicy data) :=
  ⟨sorted_unique (sorted_sort data), nodup_getPolicy data⟩

theorem IsList.filter {data : List String} (h : IsList data) (p : String → Bool) :
    IsList (data.filter p) :=
  ⟨h.1.filter p, h.2.filter p⟩

theorem roundTrip (C : CJson) : RoundTrip (serializer C) (serialize C) where
  serialize _ := rfl
  deserialize := deserialize_serialize
  write_initial := rfl

theorem listOf_serialize (data : List String) : listOf C (serialize C data) = data := by
  rw [listOf, deserialize_serialize]
  rfl

theorem policyName_ne : POLICY_ALLOWED_KIOSK_APPS ≠ "" := by decide

abbrev Readable (C : CJson) (s : State) : Prop :=
  TextStore (IsText C) POLICY_ALLOWED_KIOSK_APPS s.store

theorem Readable.text_eq (h : Readable C s) (a : String) :
    s.store.manager.policyValue a POLICY_ALLOWED_KIOSK_APPS =
      serialize C (listOf C (s.store.manager.policyValue a POLICY_ALLOWED_KIOSK_APPS)) := by
  obtain ⟨data, -, hdata⟩ := h.text a
  rw [hdata, listOf_serialize]

theorem Readable.isList (h : Readable C s) (a : String) :
    IsList (listOf C (s.store.manager.policyValue a POLICY_ALLOWED_KIOSK_APPS)) := by
  obtain ⟨data, hlist, hdata⟩ := h.text a
  rw [hdata, listOf_serialize]
  exact hlist

theorem Readable.written (h : Readable C s) :
    TextStore (Written (serialize C)) POLICY_ALLOWED_KIOSK_APPS s.store :=
  ⟨h.good, fun a => ⟨_, h.text_eq a⟩⟩

/-- The others' merged list. -/
theorem getOthersMergePolicyData_text (h : Readable C s) (resolve : String → Option String)
    (order : HashOrder) (admin : AdminName) :
    ∃ others, IsList others ∧
      (plugin C resolve order).getOthersMergePolicyData s.store.manager admin =
        serialize C others ∧
      ∀ id, id ∈ others ↔ ∃ other, other ≠ admin ∧ id ∈ stored C s other := by
  refine ⟨_, ⟨sorted_stdSet _, nodup_stdSet _⟩, (roundTrip C).getOthersMergePolicyData h.written
    order admin (fun _ => rfl) rfl (listOf C) listOf_serialize, fun id => ?_⟩
  rw [mem_stdSet, List.mem_flatten]
  constructor
  · rintro ⟨list, hlist, hid⟩
    obtain ⟨v, hv, rfl⟩ := List.mem_map.mp hlist
    obtain ⟨-, other, hother, rfl⟩ := (h.good.mem_othersValues order admin).mp hv
    exact ⟨other, hother, hid⟩
  · rintro ⟨other, hother, hid⟩
    refine ⟨_, List.mem_map_of_mem ((h.good.mem_othersValues order admin).mpr
      ⟨fun hempty => ?_, other, hother, rfl⟩), hid⟩
    rw [stored, hempty] at hid
    exact List.not_mem_nil hid

theorem filterMap_resolving (resolve : String → Option String) (data : List String) :
    (data.filter fun id => (resolve id).isSome).filterMap resolve = data.filterMap resolve := by
  rw [List.filterMap_filter]
  refine List.filterMap_congr fun id _ => ?_
  cases hid : resolve id with
  | none => rfl
  | some name => rfl

end Texts

/-! ### One operation -/

section Step

variable {C} {resolve} {s : State} {order : HashOrder} {admin : AdminName}

theorem Restored.eq {cleared : Bool} {previous sent : List String}
    (h : Restored cleared previous sent) : (if cleared then [] else sent) = previous := by
  cases cleared with
  | true => exact Eq.symm h
  | false => exact Eq.symm h

/-- A request is refused, or fails at the window manager or at the notification service, or
succeeds. -/
theorem onSetPolicy_cases (C : CJson) (resolve : String → Option String) (answers : Answers)
    (modules : Modules) (data : List String) :
    (∃ ret, ret ≠ ERR_OK ∧ ∀ current others,
        onSetPolicy C resolve answers modules data current others =
          (ret, modules, current, others)) ∨
      data.length ≤ EdmConstants.POLICIES_MAX_SIZE ∧ answers.bundleMgr = true ∧
        answers.ams = true ∧
        (answers.wms = false ∧ (∀ current others,
            onSetPolicy C resolve answers modules data current others =
              (EdmReturnErrCode.SYSTEM_ABNORMALLY,
                { modules with
                  ams := if answers.amsCleared then [] else data.filterMap resolve },
                current, others)) ∨
          answers.wms = true ∧ answers.notification = false ∧ (∀ current others,
            onSetPolicy C resolve answers modules data current others =
              (EdmReturnErrCode.SYSTEM_ABNORMALLY,
                { modules with
                  ams := if answers.amsCleared then [] else data.filterMap resolve
                  wms := if answers.wmsCleared then [] else data.filterMap resolve },
                current, others)) ∨
          answers.wms = true ∧ answers.notification = true ∧ (∀ current others,
            onSetPolicy C resolve answers modules data current others =
              (ERR_OK, holding C (data.filterMap resolve),
                data.filter (fun id => (resolve id).isSome),
                data.filter fun id => (resolve id).isSome))) := by
  obtain ⟨bundleMgr, ams, wms, notification, amsCleared, wmsCleared⟩ := answers
  unfold onSetPolicy
  by_cases hlength : EdmConstants.POLICIES_MAX_SIZE < data.length
  · simp only [if_pos hlength]
    exact .inl ⟨_, by decide, fun _ _ => rfl⟩
  simp only [if_neg hlength]
  cases bundleMgr with
  | false => exact .inl ⟨_, by decide, fun _ _ => rfl⟩
  | true =>
    cases ams with
    | false => exact .inl ⟨EdmReturnErrCode.SYSTEM_ABNORMALLY, by decide, fun _ _ => rfl⟩
    | true =>
      refine .inr ⟨Nat.le_of_not_lt hlength, rfl, rfl, ?_⟩
      cases wms with
      | false => exact .inl ⟨rfl, by cases amsCleared <;> exact fun _ _ => rfl⟩
      | true =>
        cases notification with
        | false =>
          refine .inr (.inl ⟨rfl, rfl, ?_⟩)
          cases amsCleared <;> cases wmsCleared <;> exact fun _ _ => rfl
        | true => exact .inr (.inr ⟨rfl, rfl, fun _ _ => rfl⟩)

/-- The stored lists and the services agree, and a failed request changes nothing. -/
def Sound (C : CJson) (resolve : String → Option String) (s : State) (op : Op) : Prop :=
  Readable C (step C resolve s op) ∧ Agree C resolve (step C resolve s op) ∧ Right C resolve s op

theorem Agree.congr (h : Agree C resolve s) {t : State} (hmodules : t.modules = s.modules)
    (hstore : t.store = s.store) : Agree C resolve t := by
  rw [Agree, combined, hmodules, hstore]
  exact h

theorem sound_unchanged (h : Readable C s) (hagree : Agree C resolve s) {op : Op}
    (hmodules : (step C resolve s op).modules = s.modules)
    (hstore : (step C resolve s op).store = s.store) : Sound C resolve s op := by
  refine ⟨?_, hagree.congr hmodules hstore, ?_⟩
  · rw [Readable, hstore]
    exact h
  · cases op with
    | policy order op =>
      cases op with
      | update admin writes request => exact fun _ => ⟨hmodules, hstore⟩
      | removeAdmin admin writes answers => trivial
    | otherServiceStart systemAbilityId lost answers => trivial

/-- A request whose handler fails and leaves the services. -/
theorem sound_failed (h : Readable C s) (hagree : Agree C resolve s) {request : Request}
    (htype : request.type = .set) {ret : ErrCode} {modules : Modules}
    (hresult : ∀ current others, onSetPolicy C resolve request.answers s.modules
      (getPolicy request.data) current others = (ret, modules, current, others))
    (hret : ret ≠ ERR_OK) (hmodules : modules = s.modules) :
    Sound C resolve s (.policy order (.update admin ⟨.done, .done⟩ request)) := by
  obtain ⟨others, -, hothers, -⟩ := getOthersMergePolicyData_text h resolve order admin
  have hcall : ∀ policyData,
      (plugin C resolve order).onHandlePolicy s.store.manager s.modules request policyData =
        IPluginTemplate.handlePolicy (serializer C) (onSetPolicy C resolve request.answers)
          s.modules (some (getPolicy request.data)) policyData := by
    intro policyData
    show onHandlePolicy C resolve s.modules request policyData = _
    rw [onHandlePolicy, htype]
  obtain ⟨-, hafter, hstore⟩ := update_failed (plugin C resolve order) admin (roundTrip C) h.good
    policyName_ne request (h.text_eq admin) hothers hcall (hresult _ _) hret
  exact sound_unchanged h hagree (hafter.trans hmodules) hstore

/-- A request that succeeds. -/
theorem sound_ok (h : Readable C s) {request : Request} (htype : request.type = .set)
    (hresult : ∀ current others, onSetPolicy C resolve request.answers s.modules
      (getPolicy request.data) current others =
        (ERR_OK, holding C ((getPolicy request.data).filterMap resolve),
          (getPolicy request.data).filter (fun id => (resolve id).isSome),
          (getPolicy request.data).filter fun id => (resolve id).isSome))
    (hrepeated : stored C s admin =
      (getPolicy request.data).filter (fun id => (resolve id).isSome) →
        s.modules = holding C ((getPolicy request.data).filterMap resolve))
    (hagree : Agree C resolve s) :
    Sound C resolve s (.policy order (.update admin ⟨.done, .done⟩ request)) := by
  obtain ⟨others, -, hothers, -⟩ := getOthersMergePolicyData_text h resolve order admin
  have hcall : ∀ policyData,
      (plugin C resolve order).onHandlePolicy s.store.manager s.modules request policyData =
        IPluginTemplate.handlePolicy (serializer C) (onSetPolicy C resolve request.answers)
          s.modules (some (getPolicy request.data)) policyData := by
    intro policyData
    show onHandlePolicy C resolve s.modules request policyData = _
    rw [onHandlePolicy, htype]
  obtain ⟨hcode, hmodules, hstored⟩ := update_ok (plugin C resolve order) admin (roundTrip C)
    h.good policyName_ne request (h.text_eq admin) hothers hcall rfl (hresult _ _)
  obtain ⟨op, hop⟩ : ∃ op : Op, op = .policy order (.update admin ⟨.done, .done⟩ request) :=
    ⟨_, rfl⟩
  have hlist := (isList_getPolicy request.data).filter fun id => (resolve id).isSome
  have hstep : step C resolve s op = policyStep (plugin C resolve order) s
      (.update admin ⟨.done, .done⟩ request) := by
    rw [hop]
    rfl
  rw [← hstep] at hmodules hstored
  rw [← hop]
  refine ⟨h.stored hstored ⟨_, hlist, rfl⟩ ⟨_, hlist, rfl⟩, ?_, ?_⟩
  · rw [Agree, hmodules]
    rcases hstored.combined with ⟨hvalue, hcombined⟩ | ⟨-, hcombined⟩
    · -- The admin's list is set again: the combined one stays.
      have hsame : combined C (step C resolve s op) = combined C s :=
        congrArg (listOf C) hcombined
      rw [hsame, ← hrepeated ((congrArg (listOf C) hvalue).trans (listOf_serialize _))]
      exact hagree
    · have hafter : combined C (step C resolve s op) =
          (getPolicy request.data).filter fun id => (resolve id).isSome :=
        (congrArg (listOf C) hcombined).trans (listOf_serialize _)
      rw [hafter, filterMap_resolving]
  · rw [hop]
    exact fun hfailed => absurd hcode hfailed

theorem sound_set (h : Readable C s) (hagree : Agree C resolve s) {request : Request}
    (htype : request.type = .set)
    (hkeeps : (getPolicy request.data).length ≤ EdmConstants.POLICIES_MAX_SIZE →
      request.answers.bundleMgr = true →
        SetKeeps C resolve s admin (getPolicy request.data) request.answers) :
    Sound C resolve s (.policy order (.update admin ⟨.done, .done⟩ request)) := by
  rcases onSetPolicy_cases C resolve request.answers s.modules (getPolicy request.data) with
    ⟨ret, hret, hresult⟩ | ⟨hlength, hbundleMgr, hams, hcases⟩
  · exact sound_failed h hagree htype hresult hret rfl
  have hkeeps := hkeeps hlength hbundleMgr
  rcases hcases with ⟨hwms, hresult⟩ | ⟨hwms, hnotification, hresult⟩ |
    ⟨hwms, hnotification, hresult⟩
  · refine sound_failed h hagree htype hresult (by decide) ?_
    rw [(hkeeps.wms hams hwms).eq]
  · obtain ⟨hamsRestored, hwmsRestored⟩ := hkeeps.notification hams hwms hnotification
    refine sound_failed h hagree htype hresult (by decide) ?_
    rw [hamsRestored.eq, hwmsRestored.eq]
  · exact sound_ok h htype hresult (hkeeps.repeated hams hwms hnotification) hagree

theorem sound_update (h : Readable C s) (hagree : Agree C resolve s) {request : Request}
    (hkeeps : Keeps C resolve s (.policy order (.update admin ⟨.done, .done⟩ request))) :
    Sound C resolve s (.policy order (.update admin ⟨.done, .done⟩ request)) := by
  by_cases htype : request.type = .set
  · exact sound_set h hagree htype (hkeeps.2 htype)
  · have hcall : onHandlePolicy C resolve s.modules request
        (PluginManager.handlePolicyData (plugin C resolve order) s admin) =
          (ERR_OK, s.modules,
            PluginManager.handlePolicyData (plugin C resolve order) s admin) := by
      rw [onHandlePolicy]
      cases hcase : request.type with
      | set => exact absurd hcase htype
      | _ => rfl
    obtain ⟨hmodules, hstore⟩ := update_unchanged (plugin C resolve order) admin h.good
      policyName_ne hcall
    exact sound_unchanged h hagree hmodules hstore

/-- A service that is asked for a list that it holds already, or that accepts it. -/
theorem onAdminRemove_cleared {answers : Answers} {modules : Modules}
    (hams : answers.ams = true ∨ modules.ams = []) (hwms : answers.wms = true ∨ modules.wms = [])
    (hnotification : answers.notification = true ∨ modules.notification = "")
    (data : List String) : (onAdminRemove C answers modules data []).2 = holding C [] := by
  obtain ⟨bundleMgr, ams, wms, notification, amsCleared, wmsCleared⟩ := answers
  obtain ⟨amsList, wmsList, notificationText⟩ := modules
  have hamsAfter : (if ams then [] else amsList) = [] := by
    rcases hams with hams | hams
    · rw [if_pos hams]
    · rw [show amsList = [] from hams, ite_self]
  have hwmsAfter : (if wms then [] else wmsList) = [] := by
    rcases hwms with hwms | hwms
    · rw [if_pos hwms]
    · rw [show wmsList = [] from hwms, ite_self]
  have hnotificationAfter : (if notification then "" else notificationText) = "" := by
    rcases hnotification with hnotification | hnotification
    · rw [if_pos hnotification]
    · rw [show notificationText = "" from hnotification, ite_self]
  have hresult : (onAdminRemove C ⟨bundleMgr, ams, wms, notification, amsCleared, wmsCleared⟩
      ⟨amsList, wmsList, notificationText⟩ data []).2 =
        ⟨if ams then [] else amsList, if wms then [] else wmsList,
          if notification then "" else notificationText⟩ := by
    cases ams <;> cases wms <;> cases notification <;> rfl
  rw [hresult, hamsAfter, hwmsAfter, hnotificationAfter]
  rfl

theorem onAdminRemove_others (answers : Answers) (modules : Modules) (data : List String)
    {mergeData : List String} (h : mergeData ≠ []) :
    (onAdminRemove C answers modules data mergeData).2 = modules := by
  rw [onAdminRemove, if_neg h]

theorem sound_removeAdmin (h : Readable C s) (hagree : Agree C resolve s) {answers : Answers}
    (hkeeps : stored C s admin ≠ [] → RemoveKeeps C s admin answers) :
    Sound C resolve s (.policy order (.removeAdmin admin ⟨.done, .done⟩ answers)) := by
  obtain ⟨others, hlist, hothers, hmem⟩ := getOthersMergePolicyData_text h resolve order admin
  rcases removeAdmin_template (plugin C resolve order) admin (roundTrip C) h.good policyName_ne rfl
    answers (h.text_eq admin) hothers fun _ _ => rfl with ⟨-, hsame⟩ | ⟨hvalue, hmodules, hsaved⟩
  · exact sound_unchanged h hagree (congrArg PluginState.modules hsame)
      (congrArg PluginState.store hsame)
  have hkeeps := hkeeps fun hnil => hvalue (serialize_eq_empty.mpr hnil)
  refine ⟨h.saved hsaved ⟨[], isList_nil, rfl⟩ ⟨others, hlist, rfl⟩, ?_, trivial⟩
  have hcombined : combined C (step C resolve s
      (.policy order (.removeAdmin admin ⟨.done, .done⟩ answers))) = others :=
    (congrArg (listOf C) hsaved.value_combined).trans (listOf_serialize others)
  have hmodules : (step C resolve s
      (.policy order (.removeAdmin admin ⟨.done, .done⟩ answers))).modules =
        (onAdminRemove C answers s.modules (stored C s admin) others).2 := hmodules
  rw [Agree, hmodules, hcombined]
  by_cases hnil : others = []
  · have hempty : ∀ other, other ≠ admin → stored C s other = [] := by
      intro other hother
      refine List.eq_nil_iff_forall_not_mem.mpr fun id hid => ?_
      have hid := (hmem id).mpr ⟨other, hother, hid⟩
      rw [hnil] at hid
      exact List.not_mem_nil hid
    obtain ⟨hams, hwms, hnotification⟩ := hkeeps.cleared hempty
    rw [hnil, onAdminRemove_cleared hams hwms hnotification]
    rfl
  · obtain ⟨id, hid⟩ := List.exists_mem_of_ne_nil others hnil
    obtain ⟨other, hother, hid⟩ := (hmem id).mp hid
    have hsame : others = combined C s := by
      refine eq_of_mem_iff hlist.1 (h.isList "").1 hlist.2 (h.isList "").2 fun id => ?_
      exact (hmem id).trans
        (hkeeps.others ⟨other, hother, List.ne_nil_of_mem ‹_›⟩ id).symm
    rw [onAdminRemove_others answers s.modules _ hnil, hsame]
    exact hagree

/-- The services that hold the names are sent them again. -/
theorem onOtherServiceStart_holding (policyData : String) (systemAbilityId : SystemAbility)
    (answers : Answers) :
    onOtherServiceStart C resolve policyData systemAbilityId answers
      (holding C ((listOf C policyData).filterMap resolve)) =
        holding C ((listOf C policyData).filterMap resolve) := by
  obtain ⟨bundleMgr, ams, wms, notification, amsCleared, wmsCleared⟩ := answers
  unfold onOtherServiceStart
  split
  · rfl
  split
  · rfl
  cases systemAbilityId <;> cases ams <;> cases wms <;> rfl

theorem lose_eq {systemAbilityId : SystemAbility} {modules : Modules}
    (h : lose systemAbilityId modules = modules) (lost : Bool) :
    (if lost then lose systemAbilityId modules else modules) = modules := by
  rw [h, ite_self]

theorem onOtherServiceStart_kept (hagree : Agree C resolve s) {systemAbilityId : SystemAbility}
    (h : lose systemAbilityId s.modules = s.modules) (lost : Bool) (answers : Answers) :
    (step C resolve s (.otherServiceStart systemAbilityId lost answers)).modules = s.modules := by
  show onOtherServiceStart C resolve _ systemAbilityId answers _ = _
  rw [lose_eq h, hagree]
  exact onOtherServiceStart_holding _ systemAbilityId answers

/-- A service that has lost its list is sent it. -/
theorem onOtherServiceStart_sent (policyData : String) {systemAbilityId : SystemAbility}
    {answers : Answers} (hbundleMgr : answers.bundleMgr = true)
    (hsent : systemAbilityId = .ABILITY_MGR_SERVICE_ID ∧ answers.ams = true ∨
      systemAbilityId = .WINDOW_MANAGER_SERVICE_ID ∧ answers.wms = true) :
    onOtherServiceStart C resolve policyData systemAbilityId answers
      (lose systemAbilityId (holding C ((listOf C policyData).filterMap resolve))) =
        holding C ((listOf C policyData).filterMap resolve) := by
  obtain ⟨bundleMgr, ams, wms, notification, amsCleared, wmsCleared⟩ := answers
  obtain rfl : bundleMgr = true := hbundleMgr
  unfold onOtherServiceStart
  split
  · rename_i hempty
    rw [hempty]
    rcases hsent with ⟨rfl, -⟩ | ⟨rfl, -⟩ <;> rfl
  rw [if_neg Bool.noConfusion]
  rcases hsent with ⟨rfl, hams⟩ | ⟨rfl, hwms⟩
  · obtain rfl : ams = true := hams
    rfl
  · obtain rfl : wms = true := hwms
    rfl

theorem sound_start (h : Readable C s) (hagree : Agree C resolve s)
    {systemAbilityId : SystemAbility} {lost : Bool} {answers : Answers}
    (hkeeps : lost = true → StartKeeps s systemAbilityId answers) :
    Sound C resolve s (.otherServiceStart systemAbilityId lost answers) := by
  refine sound_unchanged h hagree ?_ rfl
  cases lost with
  | false =>
    show onOtherServiceStart C resolve _ systemAbilityId answers s.modules = _
    rw [hagree]
    exact onOtherServiceStart_holding _ systemAbilityId answers
  | true =>
    have hsent : ∀ {id : SystemAbility}, answers.bundleMgr = true →
        (id = .ABILITY_MGR_SERVICE_ID ∧ answers.ams = true ∨
          id = .WINDOW_MANAGER_SERVICE_ID ∧ answers.wms = true) →
        (step C resolve s (.otherServiceStart id true answers)).modules = s.modules := by
      intro id hbundleMgr hsent
      show onOtherServiceStart C resolve _ id answers (lose id s.modules) = _
      rw [hagree]
      exact onOtherServiceStart_sent _ hbundleMgr hsent
    have hkeeps := hkeeps rfl
    cases systemAbilityId with
    | ABILITY_MGR_SERVICE_ID =>
      rcases hkeeps with hnil | ⟨hbundleMgr, hams⟩
      · refine onOtherServiceStart_kept hagree ?_ true answers
        rw [lose, ← hnil]
      · exact hsent hbundleMgr (.inl ⟨rfl, hams⟩)
    | WINDOW_MANAGER_SERVICE_ID =>
      rcases hkeeps with hnil | ⟨hbundleMgr, hwms⟩
      · refine onOtherServiceStart_kept hagree ?_ true answers
        rw [lose, ← hnil]
      · exact hsent hbundleMgr (.inr ⟨rfl, hwms⟩)
    | BUNDLE_MGR_SERVICE_SYS_ABILITY_ID => exact onOtherServiceStart_kept hagree rfl true answers
    | DISTRIBUTED_NOTIFICATION_SERVICE_ABILITY_ID =>
      have hempty : s.modules.notification = "" := hkeeps
      refine onOtherServiceStart_kept hagree ?_ true answers
      rw [lose, ← hempty]

theorem sound_step (h : Readable C s) (hagree : Agree C resolve s) (op : Op)
    (hkeeps : Keeps C resolve s op) : Sound C resolve s op := by
  cases op with
  | policy order op =>
    cases op with
    | update admin writes request =>
      obtain rfl : writes = ⟨.done, .done⟩ := hkeeps.1
      exact sound_update h hagree hkeeps
    | removeAdmin admin writes answers =>
      obtain rfl : writes = ⟨.done, .done⟩ := hkeeps.1
      exact sound_removeAdmin h hagree hkeeps.2
  | otherServiceStart systemAbilityId lost answers => exact sound_start h hagree hkeeps

theorem sound_boot (C : CJson) (resolve : String → Option String) :
    Readable C boot ∧ Agree C resolve boot := by
  refine ⟨textStore_new ⟨[], isList_nil, rfl⟩ DEFAULT_USER_ID, ?_⟩
  have hcombined : combined C boot = [] :=
    congrArg (listOf C) (policyValue_new DEFAULT_USER_ID "" POLICY_ALLOWED_KIOSK_APPS)
  rw [Agree, hcombined]
  rfl

end Step

/-- In a run whose operations all meet `Keeps`, the services hold the bundle names of the combined
list throughout, and requests that fail change nothing. -/
theorem kioskApps_agree (ops : List Op) (h : Each (step C resolve) (Keeps C resolve) boot ops) :
    Always (step C resolve) (Agree C resolve) boot ops ∧
      Each (step C resolve) (Right C resolve) boot ops := by
  have hstep : ∀ s op, (Readable C s ∧ Agree C resolve s) → Keeps C resolve s op →
      Readable C (step C resolve s op) ∧ Agree C resolve (step C resolve s op) :=
    fun s op hs hkeeps =>
      ⟨(sound_step hs.1 hs.2 op hkeeps).1, (sound_step hs.1 hs.2 op hkeeps).2.1⟩
  have hright : ∀ s op, (Readable C s ∧ Agree C resolve s) → Keeps C resolve s op →
      Right C resolve s op :=
    fun s op hs hkeeps => (sound_step hs.1 hs.2 op hkeeps).2.2
  exact ⟨(always_of_each hstep (sound_boot C resolve) h).mono fun s hs => hs.2,
    each_of_each hstep hright (sound_boot C resolve) h⟩

/-- Every call of an operation succeeds, where `wms` says whether the window manager's does. -/
def answering (wms : Bool) : Answers := ⟨true, true, wms, true, true, true⟩

def setOp (admin : AdminName) (data : List String) (wms : Bool) : Op :=
  .policy .evaluated (.update admin ⟨.done, .done⟩ ⟨.set, data, answering wms⟩)

def removeOp (admin : AdminName) : Op :=
  .policy .evaluated (.removeAdmin admin ⟨.done, .done⟩ (answering true))

/-- A request that the window manager rejects, one that succeeds, and a restart of the window
manager. -/
theorem always_agree_restarted :
    Always (step .standard some) (Agree .standard some) boot
        [setOp firstAdmin ["1"] false, setOp firstAdmin ["1"] true,
          .otherServiceStart .WINDOW_MANAGER_SERVICE_ID true (answering true)] ∧
      Each (step .standard some) (Right .standard some) boot
        [setOp firstAdmin ["1"] false, setOp firstAdmin ["1"] true,
          .otherServiceStart .WINDOW_MANAGER_SERVICE_ID true (answering true)] := by
  refine kioskApps_agree .standard some _ ⟨⟨rfl, fun _ _ _ => ⟨fun _ _ => rfl, ?_, ?_⟩⟩,
    ⟨rfl, fun _ _ _ => ⟨?_, ?_, ?_⟩⟩, fun _ => .inr ⟨rfl, rfl⟩, trivial⟩
  · exact fun _ hwms => absurd hwms Bool.noConfusion
  · exact fun _ hwms => absurd hwms Bool.noConfusion
  · exact fun _ hwms => absurd hwms Bool.noConfusion
  · exact fun _ _ hnotification => absurd hnotification Bool.noConfusion
  · exact fun _ _ _ hstored => absurd hstored (by decide +kernel)

/-- A request that the window manager rejects clears the list that the ability manager holds. -/
theorem rejected_request_clears :
    ¬ ∀ ops : List Op, (∀ op, op ∈ ops → ∃ order admin request,
        op = .policy order (.update admin ⟨.done, .done⟩ request)) →
      Each (step .standard some) (Right .standard some) boot ops := by
  intro h
  have hlast : Right .standard some (run (step .standard some) boot [setOp firstAdmin ["1"] true])
      (setOp firstAdmin ["2"] false) := by
    have heach := h [setOp firstAdmin ["1"] true, setOp firstAdmin ["2"] false]
      (List.forall_mem_cons.mpr ⟨⟨_, _, _, rfl⟩, List.forall_mem_singleton.mpr ⟨_, _, _, rfl⟩⟩)
    exact heach.2.1
  have hcode : policyCode (plugin .standard some .evaluated)
      (run (step .standard some) boot [setOp firstAdmin ["1"] true])
      (.update firstAdmin ⟨.done, .done⟩ ⟨.set, ["2"], answering false⟩) ≠ ERR_OK := by
    decide +kernel
  have hams : (step .standard some (run (step .standard some) boot [setOp firstAdmin ["1"] true])
      (setOp firstAdmin ["2"] false)).modules ≠
        (run (step .standard some) boot [setOp firstAdmin ["1"] true]).modules := by
    decide +kernel
  exact hams (hlast hcode).1

end SetAllowedKioskAppsPlugin

end Edm
