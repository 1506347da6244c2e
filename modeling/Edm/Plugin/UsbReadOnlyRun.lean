import Edm.Library.Strictest
import Edm.Plugin.ItemPolicy
import Edm.Plugin.UsbPlugins

/-! Runs of `UsbReadOnlyPlugin` alone: the access to storage that is in force against the accesses
that the admins ask for. -/

set_option autoImplicit false

namespace Edm.UsbReadOnlyPlugin

open Library ArrayUsbDeviceTypeSerializer EdmConstants

abbrev Op := PolicyOp Request Bool

variable (C : ArrayCJson) (order : HashOrder)

def step (s : PluginState UsbService) (op : Op) : PluginState UsbService :=
  policyStep (plugin C s.store.manager order) s op

/-- The default user without policies, and a service that denies nothing. -/
abbrev boot : PluginState UsbService := PluginState.boot ⟨[], [], false, false⟩ DEFAULT_USER_ID

section Run

variable (s : PluginState UsbService)

/-- Read and write, read only, or disabled. -/
def IsAccess (accessPolicy : Int32) : Prop :=
  accessPolicy = STORAGE_USB_POLICY_READ_WRITE ∨ accessPolicy = STORAGE_USB_POLICY_READ_ONLY ∨
    accessPolicy = STORAGE_USB_POLICY_DISABLED

def level (accessPolicy : Int32) : Nat := accessPolicy.toInt.toNat

def levelOf (policy : String) : Nat := level ((IntSerializer.deserialize policy).getD 0)

/-- What an admin asks for. -/
def asked (admin : AdminName) : Nat :=
  levelOf (s.store.manager.policyValue admin POLICY_USB_READ_ONLY)

def combined : Nat := levelOf (s.store.manager.policyValue "" POLICY_USB_READ_ONLY)

/-- What the service and the system parameter make of storage. -/
def enforced (usb : UsbService) : Nat :=
  if usb.interfaceTypes.any UsbDeviceType.isStorage then level STORAGE_USB_POLICY_DISABLED
  else if usb.readOnly then level STORAGE_USB_POLICY_READ_ONLY
  else level STORAGE_USB_POLICY_READ_WRITE

/-- The combined policy is the strictest that an admin asks for, and it is in force. -/
structure FollowsStrictest : Prop where
  combined : IsLUB (Set.range (asked s)) (combined s)
  enforced : enforced s.modules = UsbReadOnlyPlugin.combined s

/-- A request asks for one of the three accesses. -/
def AsksForAccess : Op → Prop
  | .update _ _ request => IsAccess request.accessPolicy
  | .removeAdmin .. => True

/-- Some other admin asks for a restriction that covers the access. -/
def Covered (admin : AdminName) (accessPolicy : Int32) : Prop :=
  ∃ other, other ≠ admin ∧ 0 < asked s other ∧ level accessPolicy ≤ asked s other

/-- The writes of an operation take effect.  No admin that asks for more than all others lowers its
access to what another one covers, and the disks are reloaded where an access other than the one in
force is set that they are reloaded for. -/
def Keeps : Op → Prop
  | .update admin writes request =>
    writes = ⟨.done, .done⟩ ∧ (request.type = .set →
      (Covered s admin request.accessPolicy →
        ∃ other, other ≠ admin ∧ asked s admin ≤ asked s other) ∧
      (Covered s admin request.accessPolicy ∨ request.answers.writeDisallowed ≠ some false ∨
        request.answers.reloadUsbDevice = true ∨
        request.accessPolicy = STORAGE_USB_POLICY_DISABLED ∨
        enforced s.modules = level request.accessPolicy))
  | .removeAdmin _ writes _ => writes = ⟨.done, .done⟩

end Run

/-! ### The others' accesses -/

section Levels

variable {a b : Int32}

theorem level_lt (ha : 0 ≤ a) : level a < level b ↔ a < b := by
  have hzero : (0 : Int) ≤ a.toInt := Int32.le_iff_toInt_le.mp ha
  rw [Int32.lt_iff_toInt_lt, level, level]
  omega

theorem level_eq_zero (ha : 0 ≤ a) : level a = 0 ↔ a = 0 := by
  have hzero : (0 : Int) ≤ a.toInt := Int32.le_iff_toInt_le.mp ha
  rw [← Int32.toInt_inj, level]
  show _ ↔ a.toInt = 0
  omega

theorem levelOf_serialize (a : Int32) : levelOf (IntSerializer.serialize a) = level a := by
  rw [levelOf, IntSerializer.deserialize_serialize]
  rfl

theorem levelOf_empty : levelOf "" = 0 := by decide

theorem IsAccess.le_disabled (h : IsAccess a) : level a ≤ level STORAGE_USB_POLICY_DISABLED := by
  rcases h with rfl | rfl | rfl <;> decide

theorem level_disabled : level a = level STORAGE_USB_POLICY_DISABLED ↔
    a = STORAGE_USB_POLICY_DISABLED := by
  refine ⟨fun h => ?_, congrArg level⟩
  have htwo : level STORAGE_USB_POLICY_DISABLED = 2 := by decide
  rw [htwo, level] at h
  refine Int32.toInt_inj.mp ?_
  show _ = (2 : Int)
  omega

theorem isAccess_of_le (ha : 0 ≤ a) (h : level a ≤ level STORAGE_USB_POLICY_DISABLED) :
    IsAccess a := by
  have hzero : (0 : Int) ≤ a.toInt := Int32.le_iff_toInt_le.mp ha
  have htwo : level STORAGE_USB_POLICY_DISABLED = 2 := by decide
  rw [htwo, level] at h
  have hcases : a.toInt = 0 ∨ a.toInt = 1 ∨ a.toInt = 2 := by omega
  rcases hcases with h | h | h
  · exact .inl (Int32.toInt_inj.mp h)
  · exact .inr (.inl (Int32.toInt_inj.mp h))
  · exact .inr (.inr (Int32.toInt_inj.mp h))

end Levels

section Step

variable {C : ArrayCJson} {order : HashOrder} {s s' : PluginState UsbService} {admin : AdminName}

theorem policyName_ne : POLICY_USB_READ_ONLY ≠ "" := by decide

/-- A text of a number, or none. -/
def IsText (policy : String) : Prop :=
  policy = "" ∨ ∃ accessPolicy, policy = IntSerializer.serialize accessPolicy

abbrev Readable (store : UserStore) : Prop := TextStore IsText POLICY_USB_READ_ONLY store

theorem IsText.read {policy : String} (h : IsText policy) :
    ∃ accessPolicy, IntSerializer.deserialize policy = some accessPolicy ∧
      levelOf policy = level accessPolicy := by
  rcases h with rfl | ⟨accessPolicy, rfl⟩
  · exact ⟨0, rfl, levelOf_empty⟩
  · exact ⟨accessPolicy, IntSerializer.deserialize_serialize _, levelOf_serialize _⟩

/-- What the template makes of the others' values is the strictest that they ask for. -/
theorem getOthersMergePolicyData_spec (order : HashOrder) (h : Readable s.store) (admin : AdminName) :
    ∃ merged, 0 ≤ merged ∧
      IsText ((plugin C s.store.manager order).getOthersMergePolicyData s.store.manager admin) ∧
      IntSerializer.deserialize
        ((plugin C s.store.manager order).getOthersMergePolicyData s.store.manager admin) =
          some merged ∧
      IsLUB (levelsOfOthers (asked s) admin) (level merged) := by
  have hread : ∀ v, v ∈ othersValues order s.store.manager POLICY_USB_READ_ONLY admin →
      serializer.deserialize v = some ((IntSerializer.deserialize v).getD 0) := by
    intro v hv
    obtain ⟨-, other, -, rfl⟩ := (h.good.mem_othersValues order admin).mp hv
    obtain ⟨accessPolicy, hread, -⟩ := (h.text other).read
    show IntSerializer.deserialize _ = _
    rw [hread]
    rfl
  have htext : (plugin C s.store.manager order).getOthersMergePolicyData s.store.manager admin = _ :=
    getOthersMergePolicyData_read _ h.good order admin hread
  obtain ⟨data, hdata⟩ : ∃ data, (othersValues order s.store.manager POLICY_USB_READ_ONLY admin).map
    (fun v => (IntSerializer.deserialize v).getD 0) = data := ⟨_, rfl⟩
  have hmem : ∀ a, a ∈ data → ∃ other, other ≠ admin ∧ asked s other = level a := by
    intro a ha
    rw [← hdata] at ha
    obtain ⟨v, hv, rfl⟩ := List.mem_map.mp ha
    obtain ⟨-, other, hother, rfl⟩ := (h.good.mem_othersValues order admin).mp hv
    exact ⟨other, hother, rfl⟩
  have hother : ∀ other, other ≠ admin → asked s other = 0 ∨
      ∃ a, a ∈ data ∧ asked s other = level a := by
    intro other hother
    by_cases hvalue : s.store.manager.policyValue other POLICY_USB_READ_ONLY = ""
    · left
      rw [asked, hvalue]
      exact levelOf_empty
    · right
      refine ⟨_, ?_, rfl⟩
      rw [← hdata]
      exact List.mem_map_of_mem ((h.good.mem_othersValues order admin).mpr
        ⟨hvalue, other, hother, rfl⟩)
  have hfold : (fun result dataItem : Int32 => if result < dataItem then dataItem else result) =
      max := by
    funext a b
    rw [max_def_lt]
    by_cases hlt : a < b
    · rw [if_pos hlt, if_pos hlt]
    · rw [if_neg hlt, if_neg hlt]
  have htext' : (plugin C s.store.manager order).getOthersMergePolicyData s.store.manager admin =
      if othersValues order s.store.manager POLICY_USB_READ_ONLY admin = [] then ""
      else IntSerializer.serialize (data.foldl max 0) := by
    rw [htext, hdata]
    show (if _ then _ else IntSerializer.serialize (data.foldl _ 0)) = _
    rw [hfold]
  have hzero : 0 ≤ data.foldl max 0 := (foldl_max_le.mp le_rfl).1
  have hlub : IsLUB (levelsOfOthers (asked s) admin) (level (data.foldl max 0)) := by
    refine isLUB_iff_le_iff.mpr fun n => ?_
    constructor
    · rintro hle k ⟨other, hne, rfl⟩
      rcases hother other hne with hnone | ⟨a, ha, hlevel⟩
      · rw [hnone]
        exact Nat.zero_le n
      · rw [hlevel]
        refine le_trans (not_lt.mp fun hlt => ?_) hle
        have hlt := (level_lt hzero).mp hlt
        exact absurd ((foldl_max_le.mp le_rfl).2 a ha) (not_le.mpr hlt)
    · intro hupper
      rcases foldl_max_mem data 0 with hnone | hin
      · rw [hnone]
        exact Nat.zero_le n
      · obtain ⟨other, hne, hlevel⟩ := hmem _ hin
        exact hupper ⟨other, hne, hlevel⟩
  rw [htext']
  split
  · rename_i hnil
    have hempty : data = [] := by
      rw [← hdata, hnil]
      rfl
    rw [hempty] at hlub
    exact ⟨0, le_rfl, .inl rfl, rfl, hlub⟩
  · exact ⟨_, hzero, .inr ⟨_, rfl⟩, IntSerializer.deserialize_serialize _, hlub⟩

/-! ### What an operation stores -/

theorem asked_saved {v merged : String} (hsaved : Saved s.store s'.store admin POLICY_USB_READ_ONLY v
    merged) : asked s' = Function.update (asked s) admin (levelOf v) := by
  funext other
  by_cases hother : other = admin
  · subst hother
    rw [Function.update_self, asked, hsaved.value_self other.2]
  · rw [Function.update_of_ne hother, asked, asked,
      hsaved.value_other other.2 fun heq => hother (Subtype.ext heq.1)]

/-- An admin asks for `accessPolicy`, and where that is new, `merged` becomes the combined policy. -/
structure Stored (s s' : PluginState UsbService) (admin : AdminName) (accessPolicy merged : Int32) :
    Prop where
  readable : Readable s'.store
  asked : asked s' = Function.update (UsbReadOnlyPlugin.asked s) admin (level accessPolicy)
  combined : s'.store = s.store ∨ combined s' = level merged

/-- The combined policy after an admin asked for another access, new or not. -/
theorem Stored.combined_eq {accessPolicy merged othersPolicy : Int32}
    (h : Stored s s' admin accessPolicy merged)
    (hbefore : IsLUB (Set.range (UsbReadOnlyPlugin.asked s)) (UsbReadOnlyPlugin.combined s))
    (hlub : IsLUB (levelsOfOthers (UsbReadOnlyPlugin.asked s) admin) (level othersPolicy))
    (hsup : level accessPolicy ⊔ level othersPolicy = level merged) :
    UsbReadOnlyPlugin.combined s' = level merged ∧
      IsLUB (Set.range (UsbReadOnlyPlugin.asked s')) (UsbReadOnlyPlugin.combined s') := by
  have hcombined : UsbReadOnlyPlugin.combined s' = level merged := by
    rcases h.combined with hstore | hcombined
    · have hasked : UsbReadOnlyPlugin.asked s admin = level accessPolicy := by
        have hself := congrFun h.asked admin
        rw [Function.update_self, UsbReadOnlyPlugin.asked, hstore] at hself
        exact hself
      rw [UsbReadOnlyPlugin.combined, hstore]
      show UsbReadOnlyPlugin.combined s = _
      rw [hbefore.unique (isLUB_range hlub), hasked, hsup]
    · exact hcombined
  refine ⟨hcombined, ?_⟩
  rw [hcombined, h.asked, ← hsup]
  exact isLUB_update hlub _

variable {request : Request}

theorem stored_of_handled (h : Readable s.store) {usb : UsbService} {mergeData : String} {current merged : Int32} (hmerge : IsText mergeData)
    (hmerged : levelOf mergeData = level merged)
    (hcurrent : IntSerializer.deserialize (s.store.manager.policyValue admin POLICY_USB_READ_ONLY) =
      some current)
    (hcall : (plugin C s.store.manager order).onHandlePolicy s.store.manager s.modules request
      (PluginManager.handlePolicyData (plugin C s.store.manager order) s admin) =
        (ERR_OK, usb, ⟨IntSerializer.serialize request.accessPolicy, mergeData,
          request.accessPolicy != current⟩)) :
    (step C order s (.update admin ⟨.done, .done⟩ request)).modules = usb ∧
      Stored s (step C order s (.update admin ⟨.done, .done⟩ request)) admin request.accessPolicy
        merged := by
  obtain ⟨hmodules, hstore⟩ :=
    policyStep_update_cases (plugin C s.store.manager order) admin h.good policyName_ne hcall
  refine ⟨hmodules, ?_⟩
  rcases hstore with ⟨hok | hsame, hstore⟩ | ⟨-, -, hsaved⟩
  · cases hok
  · have hsame : (request.accessPolicy != current) = false := hsame
    have hlevel : asked s admin = level request.accessPolicy := by
      rw [asked, levelOf, hcurrent, bne_eq_false_iff_eq.mp hsame]
      rfl
    have hstore' : (step C order s (.update admin ⟨.done, .done⟩ request)).store = s.store := hstore
    refine ⟨hstore'.symm ▸ h, ?_, .inl hstore⟩
    have hasked : asked (step C order s (.update admin ⟨.done, .done⟩ request)) = asked s := by
      funext other
      rw [asked, asked, hstore']
    rw [hasked, ← hlevel, Function.update_eq_self]
  · refine ⟨h.saved hsaved (.inr ⟨_, rfl⟩) hmerge, ?_, .inr ?_⟩
    · have hasked : asked (step C order s (.update admin ⟨.done, .done⟩ request)) = _ :=
        asked_saved hsaved
      rw [hasked, levelOf_serialize]
    · show levelOf (UserPolicyManager.policyValue _ "" POLICY_USB_READ_ONLY) = _
      rw [← hmerged]
      exact congrArg levelOf hsaved.value_combined

/-- A request is carried out when it asks for more than the others or the others ask for nothing, and
is else only stored. -/
theorem set_cases (order : HashOrder) (h : Readable s.store) (admin : AdminName)
    (hset : request.type = .set) :
    ∃ merged, 0 ≤ merged ∧ IsLUB (levelsOfOthers (asked s) admin) (level merged) ∧
      ((merged = 0 ∨ merged < request.accessPolicy) ∧
          (∃ ret usb, setUsbStorageAccessPolicy C s.store.manager request.answers
              request.accessPolicy s.modules = (ret, usb) ∧
            (step C order s (.update admin ⟨.done, .done⟩ request)).modules = usb ∧
            (ret ≠ ERR_OK →
              (step C order s (.update admin ⟨.done, .done⟩ request)).store = s.store) ∧
            (ret = ERR_OK → Stored s (step C order s (.update admin ⟨.done, .done⟩ request)) admin
              request.accessPolicy request.accessPolicy)) ∨
        ¬ (merged = 0 ∨ merged < request.accessPolicy) ∧
          (step C order s (.update admin ⟨.done, .done⟩ request)).modules = s.modules ∧
          Stored s (step C order s (.update admin ⟨.done, .done⟩ request)) admin
            request.accessPolicy merged) := by
  obtain ⟨merged, hmerged, htext, hread, hlub⟩ :=
    getOthersMergePolicyData_spec (C := C) order h admin
  refine ⟨merged, hmerged, hlub, ?_⟩
  obtain ⟨current, hcurrent, -⟩ := (h.text admin).read
  have hlevel : levelOf ((plugin C s.store.manager order).getOthersMergePolicyData s.store.manager
      admin) = level merged := by
    rw [levelOf, hread]
    rfl
  have hcall : (plugin C s.store.manager order).onHandlePolicy s.store.manager s.modules request
      (PluginManager.handlePolicyData (plugin C s.store.manager order) s admin) =
        onHandlePolicy C s.store.manager s.modules request
          ⟨s.store.manager.policyValue admin POLICY_USB_READ_ONLY,
            (plugin C s.store.manager order).getOthersMergePolicyData s.store.manager admin,
            false⟩ := rfl
  unfold onHandlePolicy at hcall
  simp only [hset, hcurrent, hread] at hcall
  by_cases habove : merged = 0 ∨ merged < request.accessPolicy
  · left
    refine ⟨habove, ?_⟩
    rw [if_pos habove] at hcall
    obtain ⟨⟨ret, usb⟩, hcarry⟩ : ∃ result, setUsbStorageAccessPolicy C s.store.manager
      request.answers request.accessPolicy s.modules = result := ⟨_, rfl⟩
    rw [hcarry] at hcall
    dsimp only at hcall
    by_cases hret : ret = ERR_OK
    · subst hret
      rw [if_neg (by decide)] at hcall
      obtain ⟨hmodules, hstored⟩ := stored_of_handled h (.inr ⟨_, rfl⟩)
        (levelOf_serialize _) hcurrent hcall
      exact ⟨_, usb, hcarry, hmodules, fun hne => absurd rfl hne, fun _ => hstored⟩
    · rw [if_pos (bne_iff_ne.mpr hret)] at hcall
      obtain ⟨hmodules, hstore⟩ := policyStep_update_cases (plugin C s.store.manager order) admin
        h.good policyName_ne hcall
      refine ⟨ret, usb, hcarry, hmodules, fun _ => ?_, fun hok => absurd hok hret⟩
      rcases hstore with ⟨-, hsame⟩ | ⟨hfailed, -, -⟩
      · exact hsame
      · exact absurd (bne_eq_false_iff_eq.mp hfailed) hret
  · right
    rw [if_neg habove] at hcall
    exact ⟨habove, stored_of_handled h htext hlevel hcurrent hcall⟩

theorem update_other (C : ArrayCJson) (order : HashOrder) (admin : AdminName)
    (h : Readable s.store) (hother : request.type ≠ .set) :
    (step C order s (.update admin ⟨.done, .done⟩ request)).modules = s.modules ∧
      (step C order s (.update admin ⟨.done, .done⟩ request)).store = s.store := by
  have hcall : (plugin C s.store.manager order).onHandlePolicy s.store.manager s.modules request
      (PluginManager.handlePolicyData (plugin C s.store.manager order) s admin) =
        (EdmReturnErrCode.SYSTEM_ABNORMALLY, s.modules,
          PluginManager.handlePolicyData (plugin C s.store.manager order) s admin) := by
    show onHandlePolicy C s.store.manager s.modules request _ = _
    rw [onHandlePolicy]
    split
    · rename_i hset
      exact absurd hset hother
    · rfl
  obtain ⟨hmodules, hstore⟩ := policyStep_update_cases (plugin C s.store.manager order) admin h.good
    policyName_ne hcall
  rcases hstore with ⟨-, hsame⟩ | ⟨hfailed, -, -⟩
  · exact ⟨hmodules, hsame⟩
  · cases hfailed

/-- The access of an admin that is removed is taken back when it is above that of the others. -/
theorem removeAdmin_cases (order : HashOrder) (h : Readable s.store) (admin : AdminName)
    (reply : Bool) {usbDeviceTypes : List UsbDeviceType}
    (htypes : getDisallowedUsbDeviceTypes C s.store.manager = some usbDeviceTypes) :
    ∃ merged, 0 ≤ merged ∧ IsLUB (levelsOfOthers (asked s) admin) (level merged) ∧
      (s.store.manager.policyValue admin POLICY_USB_READ_ONLY = "" ∧
          step C order s (.removeAdmin admin ⟨.done, .done⟩ reply) = s ∨
        (step C order s (.removeAdmin admin ⟨.done, .done⟩ reply)).modules =
            (if level merged < asked s admin then
              (dealReadPolicy reply merged (s.store.manager.policyValue "" POLICY_ALLOWED_USB_DEVICES)
                usbDeviceTypes s.modules).2
            else s.modules) ∧
          Readable (step C order s (.removeAdmin admin ⟨.done, .done⟩ reply)).store ∧
          asked (step C order s (.removeAdmin admin ⟨.done, .done⟩ reply)) =
            Function.update (asked s) admin 0 ∧
          combined (step C order s (.removeAdmin admin ⟨.done, .done⟩ reply)) = level merged) := by
  obtain ⟨merged, hmerged, htext, hread, hlub⟩ :=
    getOthersMergePolicyData_spec (C := C) order h admin
  refine ⟨merged, hmerged, hlub, ?_⟩
  obtain ⟨own, hown, hlevel⟩ := (h.text admin).read
  rcases policyStep_removeAdmin_cases (plugin C s.store.manager order) admin h.good policyName_ne rfl
    reply with hnone | ⟨-, hmodules, hsaved⟩
  · exact .inl hnone
  right
  refine ⟨?_, h.saved hsaved (.inl rfl) htext, ?_, ?_⟩
  · have hremove : (step C order s (.removeAdmin admin ⟨.done, .done⟩ reply)).modules =
        (onAdminRemove C s.store.manager s.modules reply
          (s.store.manager.policyValue admin POLICY_USB_READ_ONLY)
          ((plugin C s.store.manager order).getOthersMergePolicyData s.store.manager admin)).2 :=
      hmodules
    have hasked : asked s admin = level own := hlevel
    rw [hremove, onAdminRemove, hown, hread, hasked]
    dsimp only
    by_cases hlt : merged < own
    · rw [if_pos hlt, if_pos ((level_lt hmerged).mpr hlt), htypes]
    · rw [if_neg hlt, if_neg fun hlevel => hlt ((level_lt hmerged).mp hlevel)]
  · have hasked : asked (step C order s (.removeAdmin admin ⟨.done, .done⟩ reply)) = _ :=
      asked_saved hsaved
    rw [hasked, levelOf_empty]
  · have hlevel : levelOf ((plugin C s.store.manager order).getOthersMergePolicyData s.store.manager
        admin) = level merged := by
      rw [levelOf, hread]
      rfl
    rw [← hlevel]
    exact congrArg levelOf hsaved.value_combined

end Step

/-! ### Runs without the other policies -/

section Alone

variable {C : ArrayCJson} {order : HashOrder} {s s' : PluginState UsbService} {admin : AdminName}

/-- No other policy of the user has a combined value. -/
def Alone (s : PluginState UsbService) : Prop :=
  ∀ q, q ≠ POLICY_USB_READ_ONLY → s.store.manager.policyValue "" q = ""

theorem Alone.usbDeviceTypes (h : Alone s) :
    getDisallowedUsbDeviceTypes C s.store.manager = some [] := by
  rw [getDisallowedUsbDeviceTypes, h _ (by decide)]
  exact deserialize_empty

theorem Alone.hasConflictPolicy (h : Alone s) (accessPolicy : Int32) (writeDisallowed : Option Bool) :
    hasConflictPolicy C s.store.manager accessPolicy
      (s.store.manager.policyValue "" POLICY_ALLOWED_USB_DEVICES) writeDisallowed =
        writeDisallowed := by
  have hstorage : isStorageDisabledByDisallowedPolicy C s.store.manager = some false := by
    rw [isStorageDisabledByDisallowedPolicy, h.usbDeviceTypes]
    rfl
  rw [UsbReadOnlyPlugin.hasConflictPolicy, hstorage, h _ (by decide : POLICY_ALLOWED_USB_DEVICES ≠ _),
    h _ (by decide : POLICY_DISABLE_USB ≠ _),
    h _ (by decide : POLICY_EXTERNAL_STORAGE_INTERCEPT_ENABLE ≠ _), if_neg fun hand => hand.2 rfl]
  dsimp only
  rw [if_neg fun hand => Bool.false_ne_true hand.1, if_neg (by decide), if_neg (by decide)]

theorem enforced_dealDisablePolicy (usbDeviceTypes : List UsbDeviceType) (usb : UsbService) :
    enforced (dealDisablePolicy usbDeviceTypes usb).2 = level STORAGE_USB_POLICY_DISABLED := by
  have hstorage : (setUnionPolicyData usbDeviceTypes [storageType]).any UsbDeviceType.isStorage =
      true :=
    List.any_eq_true.mpr
      ⟨storageType, mem_setUnionPolicyData.mpr (.inr List.mem_cons_self), by decide⟩
  rw [enforced]
  exact if_pos hstorage

theorem dealReadPolicy_snd (reloadUsbDevice : Bool) (accessPolicy : Int32)
    (usbDeviceTypes : List UsbDeviceType) (usb : UsbService) :
    (dealReadPolicy reloadUsbDevice accessPolicy "" usbDeviceTypes usb).2 =
      { usb with
        interfaceTypes := usbDeviceTypes.filter fun t => !t.isStorage
        readOnly := accessPolicy == STORAGE_USB_POLICY_READ_ONLY } := by
  cases reloadUsbDevice <;> rfl

theorem enforced_dealReadPolicy {accessPolicy : Int32} (haccess : IsAccess accessPolicy)
    (hread : accessPolicy ≠ STORAGE_USB_POLICY_DISABLED) (reloadUsbDevice : Bool)
    (usbDeviceTypes : List UsbDeviceType) (usb : UsbService) :
    enforced (dealReadPolicy reloadUsbDevice accessPolicy "" usbDeviceTypes usb).2 =
      level accessPolicy := by
  have hstorage : (usbDeviceTypes.filter fun t => !t.isStorage).any UsbDeviceType.isStorage =
      false := by
    refine Bool.eq_false_iff.mpr fun hany => ?_
    obtain ⟨t, ht, htrue⟩ := List.any_eq_true.mp hany
    have hnot := (List.mem_filter.mp ht).2
    rw [htrue] at hnot
    cases hnot
  rw [dealReadPolicy_snd, enforced, hstorage, if_neg Bool.false_ne_true]
  rcases haccess with rfl | rfl | rfl
  · rfl
  · rfl
  · exact absurd rfl hread

/-- What becomes of storage when a request is carried out. -/
theorem Alone.setUsbStorageAccessPolicy (h : Alone s) {answers : Answers} {accessPolicy : Int32}
    (haccess : IsAccess accessPolicy) {ret : ErrCode} {usb : UsbService}
    (hcarry : setUsbStorageAccessPolicy C s.store.manager answers accessPolicy s.modules =
      (ret, usb)) :
    ret ≠ ERR_OK ∧ usb = s.modules ∧ answers.writeDisallowed ≠ some false ∨
      enforced usb = level accessPolicy ∧ answers.writeDisallowed = some false ∧
        (ret = ERR_OK ↔
          answers.reloadUsbDevice = true ∨ accessPolicy = STORAGE_USB_POLICY_DISABLED) := by
  rw [UsbReadOnlyPlugin.setUsbStorageAccessPolicy, h.hasConflictPolicy, h.usbDeviceTypes] at hcarry
  cases hwrite : answers.writeDisallowed with
  | none =>
    rw [hwrite] at hcarry
    cases hcarry
    exact .inl ⟨by decide, rfl, fun heq => by cases heq⟩
  | some disallowed =>
    rw [hwrite] at hcarry
    cases disallowed with
    | true =>
      cases hcarry
      exact .inl ⟨by decide, rfl, by decide⟩
    | false =>
      right
      dsimp only at hcarry
      by_cases hdisable : accessPolicy = STORAGE_USB_POLICY_DISABLED
      · rw [if_pos hdisable] at hcarry
        have henforced := enforced_dealDisablePolicy [] s.modules
        rw [hcarry] at henforced
        rw [hdisable]
        exact ⟨henforced, rfl, iff_of_true (congrArg Prod.fst hcarry).symm (.inr rfl)⟩
      · rw [if_neg hdisable, h _ (by decide : POLICY_ALLOWED_USB_DEVICES ≠ _)] at hcarry
        have henforced := enforced_dealReadPolicy haccess hdisable answers.reloadUsbDevice [] s.modules
        rw [hcarry] at henforced
        refine ⟨henforced, rfl, ?_⟩
        cases hreload : answers.reloadUsbDevice with
        | true =>
          rw [hreload] at hcarry
          exact iff_of_true (congrArg Prod.fst hcarry).symm (.inl rfl)
        | false =>
          rw [hreload] at hcarry
          have hret : EdmReturnErrCode.SYSTEM_ABNORMALLY = ret := congrArg Prod.fst hcarry
          refine iff_of_false (hret ▸ by decide) fun hor => ?_
          rcases hor with hfalse | hdisabled
          · cases hfalse
          · exact hdisable hdisabled

/-! ### Runs -/

/-- What holds in the states of a run, of the claim's requests and without the other policies. -/
structure Inv (s : PluginState UsbService) : Prop where
  readable : Readable s.store
  bounded : ∀ admin, asked s admin ≤ level STORAGE_USB_POLICY_DISABLED
  alone : Alone s
  follows : FollowsStrictest s

theorem asked_boot : asked boot = fun _ => 0 := by
  funext other
  show levelOf ((UserPolicyManager.new DEFAULT_USER_ID).policyValue other _) = 0
  rw [policyValue_new, levelOf_empty]

theorem inv_boot : Inv boot where
  readable := textStore_new (.inl rfl) DEFAULT_USER_ID
  alone q _ := policyValue_new DEFAULT_USER_ID "" q
  bounded admin := by
    rw [asked_boot]
    exact Nat.zero_le _
  follows := by
    refine ⟨?_, rfl⟩
    rw [asked_boot]
    have hrange : Set.range (fun _ : AdminName => 0) = {0} :=
      haveI : Nonempty AdminName := ⟨firstAdmin⟩
      Set.range_const
    rw [hrange]
    exact isLUB_singleton

theorem Alone.step (h : Alone s) (C : ArrayCJson) (order : HashOrder) (hreadable : Readable s.store)
    {op : Op} (hwrites : op.writes = ⟨.done, .done⟩) : Alone (step C order s op) := by
  intro q hq
  refine Eq.trans ?_ (h q hq)
  exact policyStep_other (plugin C s.store.manager order) hreadable.good policyName_ne rfl hwrites
    hq ""

/-- The strictest of what the others and an admin ask for. -/
theorem level_sup {a b : Int32} (ha : 0 ≤ a) (h : a = 0 ∨ a < b) :
    level b ⊔ level a = level b := by
  refine sup_eq_left.mpr ?_
  rcases h with rfl | hlt
  · exact Nat.zero_le _
  · exact ((level_lt ha).mpr hlt).le

/-- Some other admin asks for a restriction that covers an access that the others are above of. -/
theorem covered_iff {merged : Int32} (accessPolicy : Int32) (hmerged : 0 ≤ merged)
    (hlub : IsLUB (levelsOfOthers (asked s) admin) (level merged)) :
    Covered s admin accessPolicy ↔ ¬ (merged = 0 ∨ merged < accessPolicy) := by
  rw [← level_eq_zero hmerged, ← level_lt hmerged]
  constructor
  · rintro ⟨other, hother, hpos, hle⟩
    have hupper := hlub.1 ⟨other, hother, rfl⟩
    omega
  · intro hnot
    have hpos : level merged - 1 < level merged := by omega
    obtain ⟨n, ⟨other, hother, rfl⟩, hlt⟩ := (lt_isLUB_iff hlub).mp hpos
    exact ⟨other, hother, by omega, by omega⟩

theorem asked_congr (hstore : s'.store = s.store) : asked s' = asked s := by
  funext other
  rw [asked, asked, hstore]

theorem combined_congr (hstore : s'.store = s.store) : combined s' = combined s := by
  rw [combined, combined, hstore]

/-- An operation that leaves the store and what is in force. -/
theorem Inv.same (h : Inv s) (hstore : s'.store = s.store)
    (henforced : enforced s'.modules = enforced s.modules) : Inv s' := by
  refine ⟨hstore.symm ▸ h.readable, ?_, ?_, ?_, ?_⟩
  · rw [asked_congr hstore]
    exact h.bounded
  · intro q hq
    rw [hstore]
    exact h.alone q hq
  · rw [asked_congr hstore, combined_congr hstore]
    exact h.follows.combined
  · rw [henforced, combined_congr hstore]
    exact h.follows.enforced

/-- An operation after which an admin asks for another level. -/
theorem Inv.updated (h : Inv s) {n m : Nat} (hlub : IsLUB (levelsOfOthers (asked s) admin) m)
    (hn : n ≤ level STORAGE_USB_POLICY_DISABLED) (hreadable : Readable s'.store) (halone : Alone s')
    (hasked : asked s' = Function.update (asked s) admin n) (hcombined : combined s' = n ⊔ m)
    (henforced : enforced s'.modules = n ⊔ m) : Inv s' := by
  refine ⟨hreadable, ?_, halone, ?_, ?_⟩
  · intro other
    rw [hasked]
    by_cases hother : other = admin
    · rw [hother, Function.update_self]
      exact hn
    · rw [Function.update_of_ne hother]
      exact h.bounded other
  · rw [hasked, hcombined]
    exact isLUB_update hlub n
  · rw [henforced, hcombined]

section Operations

variable (h : Inv s)
include h

theorem set_inv {request : Request} (hset : request.type = .set)
    (haccess : IsAccess request.accessPolicy)
    (hkeeps : Keeps s (.update admin ⟨.done, .done⟩ request)) :
    Inv (step C order s (.update admin ⟨.done, .done⟩ request)) := by
  obtain ⟨hlower, hreload⟩ := hkeeps.2 hset
  have hnext := h.alone.step C order h.readable
    (show PolicyOp.writes (.update admin ⟨.done, .done⟩ request) = _ from rfl)
  obtain ⟨merged, hmerged, hlub, hcases⟩ := set_cases (C := C) order h.readable admin hset
  have hcovered := covered_iff request.accessPolicy hmerged hlub
  have hown := h.follows.combined.unique (isLUB_range hlub)
  rcases hcases with ⟨habove, ret, usb, hcarry, hmodules, hfail, hstored⟩ |
    ⟨hbelow, hmodules, hstored⟩
  · have hsup : level request.accessPolicy ⊔ level merged = level request.accessPolicy :=
      level_sup hmerged habove
    rcases h.alone.setUsbStorageAccessPolicy haccess hcarry with
      ⟨hret, husb, -⟩ | ⟨henforced, hwrite, hret⟩
    · exact h.same (hfail hret) (by rw [hmodules, husb])
    · by_cases hok : ret = ERR_OK
      · have hstored := hstored hok
        refine h.updated hlub haccess.le_disabled hstored.readable hnext hstored.asked ?_ ?_
        · rw [hsup]
          exact (hstored.combined_eq h.follows.combined hlub hsup).1
        · rw [hsup, hmodules, henforced]
      · refine h.same (hfail hok) ?_
        rw [hmodules, henforced]
        rcases hreload with hcov | hwrites | hreload | hdisabled | hbefore
        · exact absurd habove (hcovered.mp hcov)
        · exact absurd hwrite hwrites
        · exact absurd (hret.mpr (.inl hreload)) hok
        · exact absurd (hret.mpr (.inr hdisabled)) hok
        · exact hbefore.symm
  · have hle : level request.accessPolicy ≤ level merged :=
      not_lt.mp fun hlt => hbelow (.inr ((level_lt hmerged).mp hlt))
    obtain ⟨other, hother, hupper⟩ := hlower (hcovered.mpr hbelow)
    have hupper : asked s admin ≤ level merged := le_trans hupper (hlub.1 ⟨other, hother, rfl⟩)
    have hbefore : combined s = level merged := hown.trans (sup_eq_right.mpr hupper)
    refine h.updated hlub haccess.le_disabled hstored.readable hnext hstored.asked ?_ ?_
    · rw [sup_eq_right.mpr hle]
      exact (hstored.combined_eq h.follows.combined hlub (sup_eq_right.mpr hle)).1
    · rw [sup_eq_right.mpr hle, hmodules, h.follows.enforced, hbefore]

theorem removeAdmin_inv (admin : AdminName) (reply : Bool) :
    Inv (step C order s (.removeAdmin admin ⟨.done, .done⟩ reply)) := by
  have hnext := h.alone.step C order h.readable
    (show PolicyOp.writes (.removeAdmin admin ⟨.done, .done⟩ reply) = _ from rfl)
  obtain ⟨merged, hmerged, hlub, ⟨-, hsame⟩ | ⟨hmodules, hreadable, hasked, hcombined⟩⟩ :=
    removeAdmin_cases (C := C) order h.readable admin reply h.alone.usbDeviceTypes
  · rw [hsame]
    exact h
  have hzero : 0 ⊔ level merged = level merged := sup_eq_right.mpr (Nat.zero_le _)
  refine h.updated hlub (Nat.zero_le _) hreadable hnext hasked (by rw [hzero, hcombined]) ?_
  rw [hzero, hmodules]
  by_cases hlt : level merged < asked s admin
  · have hbound := h.bounded admin
    have hread : merged ≠ STORAGE_USB_POLICY_DISABLED := by
      rintro rfl
      omega
    rw [if_pos hlt, h.alone _ (by decide : POLICY_ALLOWED_USB_DEVICES ≠ _)]
    exact enforced_dealReadPolicy (isAccess_of_le hmerged (by omega)) hread reply [] s.modules
  · rw [if_neg hlt, h.follows.enforced, h.follows.combined.unique (isLUB_range hlub)]
    exact sup_eq_right.mpr (not_lt.mp hlt)

end Operations

/-- An operation that meets its condition keeps storage at the strictest access. -/
theorem step_inv (h : Inv s) {op : Op} (hasks : AsksForAccess op) (hkeeps : Keeps s op) :
    Inv (step C order s op) := by
  cases op with
  | update admin writes request =>
    obtain rfl : writes = ⟨.done, .done⟩ := hkeeps.1
    by_cases hset : request.type = .set
    · exact set_inv h hset hasks hkeeps
    · obtain ⟨hmodules, hstore⟩ := update_other C order admin h.readable hset
      exact h.same hstore (congrArg enforced hmodules)
  | removeAdmin admin writes reply =>
    obtain rfl : writes = ⟨.done, .done⟩ := hkeeps
    exact removeAdmin_inv h admin reply

end Alone

/-- In a run of the kit's requests and removals of admins that all meet their condition, storage always
has the strictest access that an admin asks for. -/
theorem always_followsStrictest (C : ArrayCJson) (order : HashOrder) (ops : List Op)
    (hasks : ∀ op, op ∈ ops → AsksForAccess op) (hkeeps : Each (step C order) Keeps boot ops) :
    Always (step C order) FollowsStrictest boot ops := by
  have hstep : ∀ s op, Inv s → Keeps s op ∧ AsksForAccess op → Inv (step C order s op) :=
    fun _ _ h hop => step_inv h hop.2 hop.1
  have hinv : Always (step C order) Inv boot ops :=
    always_of_each hstep inv_boot (hkeeps.and_all hasks)
  exact hinv.mono fun _ => Inv.follows

def setAccess (admin : AdminName) (accessPolicy : Int32) : Op :=
  .update admin ⟨.done, .done⟩ ⟨.set, accessPolicy, ⟨some false, true⟩⟩

/-- Storage is disabled for one admin and read only for the other one, which then is the only one. -/
theorem always_followsStrictest_three :
    Always (step .standard .evaluated) FollowsStrictest boot
      [setAccess firstAdmin STORAGE_USB_POLICY_DISABLED,
        setAccess secondAdmin STORAGE_USB_POLICY_READ_ONLY,
        .removeAdmin firstAdmin ⟨.done, .done⟩ true] := by
  have hasks : ∀ op, op ∈ [setAccess firstAdmin STORAGE_USB_POLICY_DISABLED,
      setAccess secondAdmin STORAGE_USB_POLICY_READ_ONLY,
      .removeAdmin firstAdmin ⟨.done, .done⟩ true] → AsksForAccess op := by
    intro op hop
    rcases List.mem_cons.mp hop with rfl | hop
    · exact .inr (.inr rfl)
    rcases List.mem_cons.mp hop with rfl | hop
    · exact .inr (.inl rfl)
    · obtain rfl := List.mem_singleton.mp hop
      trivial
  refine always_followsStrictest .standard .evaluated _ hasks ⟨⟨rfl, fun _ => ⟨fun _ => ?_, ?_⟩⟩,
    ⟨rfl, fun _ => ⟨fun _ => ?_, ?_⟩⟩, rfl, trivial⟩
  · exact ⟨secondAdmin, by decide, by decide⟩
  · exact .inr (.inr (.inl rfl))
  · exact ⟨firstAdmin, by decide, by decide⟩
  · exact .inr (.inr (.inl rfl))

/-- The system parameter, the service and the tables accept what an operation asks of them. -/
def Accepted : Op → Prop
  | .update _ writes request => writes = ⟨.done, .done⟩ ∧ request.answers = ⟨some false, true⟩
  | .removeAdmin _ writes reply => writes = ⟨.done, .done⟩ ∧ reply = true

/-- An admin that lowers its access to one below that of another admin leaves storage disabled. -/
theorem not_always_followsStrictest :
    ¬ ∀ (C : ArrayCJson) (order : HashOrder) (ops : List Op),
      (∀ op, op ∈ ops → AsksForAccess op ∧ Accepted op) →
      Always (step C order) FollowsStrictest boot ops := by
  intro h
  have hasks : ∀ op, op ∈ [setAccess firstAdmin STORAGE_USB_POLICY_DISABLED,
      setAccess secondAdmin STORAGE_USB_POLICY_READ_ONLY,
      setAccess firstAdmin STORAGE_USB_POLICY_READ_WRITE] → AsksForAccess op ∧ Accepted op := by
    intro op hop
    rcases List.mem_cons.mp hop with rfl | hop
    · exact ⟨.inr (.inr rfl), rfl, rfl⟩
    rcases List.mem_cons.mp hop with rfl | hop
    · exact ⟨.inr (.inl rfl), rfl, rfl⟩
    · obtain rfl := List.mem_singleton.mp hop
      exact ⟨.inl rfl, rfl, rfl⟩
  obtain ⟨-, -, -, hlast⟩ := h .standard .evaluated _ hasks
  exact absurd hlast.enforced (by decide +kernel)

end Edm.UsbReadOnlyPlugin
