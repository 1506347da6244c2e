import Edm.Library.Channels
import Edm.Plugin.DisallowedUsbDevices
import Edm.Plugin.UsbReadOnlyRun

/-! Runs of the three plugins that deny types of USB devices, against one USB service: the storage
access policy and the two lists. -/

set_option autoImplicit false

namespace Edm.UsbDeny

open Library EdmConstants DisallowedUsbDevicesPluginBase

/-- An operation on one of the three policies. -/
inductive Op where
  | access (op : UsbReadOnlyPlugin.Op)
  | disallowed (op : DisallowedUsbDevicesPluginBase.Op)
  | permissive (op : DisallowedUsbDevicesPluginBase.Op)

variable (C : ArrayCJson) (order : HashOrder)

def step (s : PluginState UsbService) : Op → PluginState UsbService
  | .access op => UsbReadOnlyPlugin.step C order s op
  | .disallowed op => DisallowedUsbDevicesPluginBase.step C DisallowedUsbDevicesPlugin order s op
  | .permissive op =>
    DisallowedUsbDevicesPluginBase.step C DisallowedPermissiveUsbDevicesPlugin order s op

abbrev boot : PluginState UsbService := UsbReadOnlyPlugin.boot

section Run

variable (s : PluginState UsbService)

/-- The types of the combined disallowed list. -/
abbrev disallowed : Set UsbDeviceType := combined C DisallowedUsbDevicesPlugin s.store

/-- The types of the combined disallowed permissive list. -/
abbrev permissive : Set UsbDeviceType := combined C DisallowedPermissiveUsbDevicesPlugin s.store

/-- The types of both lists, and that of storage when the combined access is disabled. -/
def demanded : Set UsbDeviceType :=
  disallowed C s ∪ permissive C s ∪ storageTypes s.store.manager

def denied : Set UsbDeviceType := {t | t ∈ s.modules.interfaceTypes} ∪ {t | t ∈ s.modules.usbTypes}

def FollowsUnion : Prop := denied s = demanded C s

/-- No admin asks for more than the admin does, but another one asks for as much. -/
def NotAbove (admin : AdminName) : Prop :=
  ∃ other, other ≠ admin ∧ UsbReadOnlyPlugin.asked s admin ≤ UsbReadOnlyPlugin.asked s other

/-- The most that the others ask for is that storage is disabled. -/
def OthersDisable (admin : AdminName) : Prop :=
  IsLUB (levelsOfOthers (UsbReadOnlyPlugin.asked s) admin)
    (UsbReadOnlyPlugin.level STORAGE_USB_POLICY_DISABLED)

/-- The combined access is disabled. -/
def Disabled : Prop :=
  UsbReadOnlyPlugin.combined s = UsbReadOnlyPlugin.level STORAGE_USB_POLICY_DISABLED

/-- The channel of the permissive list denies storage only where that list does. -/
def PermissiveOnly : Prop := storageType ∈ s.modules.usbTypes → storageType ∈ permissive C s

def NoStorageType : Prop := ∀ t, t ∈ disallowed C s → t.isStorage = false

/-- The condition of an operation on the storage access policy, whose writes take effect.  An admin that
asks for more than all others does not lower its access to what another one covers, where storage is
disabled before or after.  Where another access is set, or an admin that asks for more than all
others is removed, the disallowed list has no type of storage, and the channel of the other list has
the type only for that list; and the disks are reloaded, or the combined access is not disabled. -/
def AccessKeeps : UsbReadOnlyPlugin.Op → Prop
  | .update admin writes request =>
    writes = ⟨.done, .done⟩ ∧ (request.type = .set →
      (UsbReadOnlyPlugin.Covered s admin request.accessPolicy → NotAbove s admin ∨
        UsbReadOnlyPlugin.asked s admin ≠ UsbReadOnlyPlugin.level STORAGE_USB_POLICY_DISABLED ∧
          ¬ OthersDisable s admin) ∧
      (UsbReadOnlyPlugin.Covered s admin request.accessPolicy ∨
        request.answers.writeDisallowed ≠ some false ∨
        request.accessPolicy = STORAGE_USB_POLICY_DISABLED ∨
        (¬ NoStorageType C s ∧ (request.accessPolicy = STORAGE_USB_POLICY_READ_WRITE ∨
          request.accessPolicy = STORAGE_USB_POLICY_READ_ONLY)) ∨
        NoStorageType C s ∧ PermissiveOnly C s ∧
          (request.answers.reloadUsbDevice = true ∨ ¬ Disabled s)))
  | .removeAdmin admin writes _ =>
    writes = ⟨.done, .done⟩ ∧ (NotAbove s admin ∨
      NoStorageType C s ∧ PermissiveOnly C s ∧ ¬ OthersDisable s admin)

/-- The condition of an operation on a list: its writes take effect, and what is left after a removal
fits in a policy. -/
def ListKeeps (K : Kind) : DisallowedUsbDevicesPluginBase.Op → Prop
  | .update admin writes request => writes = ⟨.done, .done⟩ ∧ Fits C K order s admin request
  | .removeAdmin _ writes _ => writes = ⟨.done, .done⟩

def Keeps : Op → Prop
  | .access op => AccessKeeps C s op
  | .disallowed op => ListKeeps C order s DisallowedUsbDevicesPlugin op
  | .permissive op => ListKeeps C order s DisallowedPermissiveUsbDevicesPlugin op

/-- What holds in the states of a run. -/
structure Inv : Prop where
  readable : UsbReadOnlyPlugin.Readable s.store
  access : IsLUB (Set.range (UsbReadOnlyPlugin.asked s)) (UsbReadOnlyPlugin.combined s)
  disallowed : Lists C DisallowedUsbDevicesPlugin s.store
  permissive : Lists C DisallowedPermissiveUsbDevicesPlugin s.store
  others : ∀ q, q ≠ POLICY_USB_READ_ONLY → q ≠ POLICY_DISALLOWED_USB_DEVICES →
    q ≠ POLICY_DISALLOWED_PERMISSIVE_USB_DEVICES → s.store.manager.policyValue "" q = ""
  apart : UsbDeny.disallowed C s = ∅ ∨ UsbDeny.permissive C s = ∅
  channels : Channels {t | t ∈ s.modules.interfaceTypes} {t | t ∈ s.modules.usbTypes}
    (UsbDeny.disallowed C s) (UsbDeny.permissive C s) (storageTypes s.store.manager)

end Run

/-! ### What an operation leaves -/

def Op.policyName : Op → String
  | .access _ => POLICY_USB_READ_ONLY
  | .disallowed _ => POLICY_DISALLOWED_USB_DEVICES
  | .permissive _ => POLICY_DISALLOWED_PERMISSIVE_USB_DEVICES

def Op.writes : Op → Writes
  | .access op => op.writes
  | .disallowed op => op.writes
  | .permissive op => op.writes

theorem disallowedName_ne : DisallowedUsbDevicesPlugin.policyName ≠ "" := by decide

theorem permissiveName_ne : DisallowedPermissiveUsbDevicesPlugin.policyName ≠ "" := by decide

section Frames

variable {C : ArrayCJson} {order : HashOrder} {s s' : PluginState UsbService}

theorem step_other (hgood : GoodStore s.store) {op : Op} (hwrites : op.writes = ⟨.done, .done⟩)
    {q : String} (hq : q ≠ op.policyName) (a : String) :
    (step C order s op).store.manager.policyValue a q = s.store.manager.policyValue a q := by
  cases op with
  | access op =>
    exact policyStep_other (UsbReadOnlyPlugin.plugin C s.store.manager order) hgood
      UsbReadOnlyPlugin.policyName_ne rfl hwrites hq a
  | disallowed op =>
    exact policyStep_other (plugin C DisallowedUsbDevicesPlugin s.store.manager order) hgood
      disallowedName_ne rfl hwrites hq a
  | permissive op =>
    exact policyStep_other (plugin C DisallowedPermissiveUsbDevicesPlugin s.store.manager order) hgood
      permissiveName_ne rfl hwrites hq a

/-- The combined access is disabled exactly when its text is that of the access. -/
theorem mem_storageTypes (h : UsbReadOnlyPlugin.Readable s.store) {t : UsbDeviceType} :
    t ∈ storageTypes s.store.manager ↔ t = storageType ∧ Disabled s := by
  refine and_congr_right fun _ => ?_
  show _ ↔ UsbReadOnlyPlugin.levelOf (s.store.manager.policyValue "" POLICY_USB_READ_ONLY) = _
  rcases h.text "" with hnone | ⟨accessPolicy, htext⟩
  · rw [hnone]
    exact iff_of_false (fun heq => IntSerializer.serialize_ne_empty _ heq.symm) (by decide)
  · rw [htext, UsbReadOnlyPlugin.levelOf_serialize]
    constructor
    · intro heq
      have hread := congrArg IntSerializer.deserialize heq
      rw [IntSerializer.deserialize_serialize, IntSerializer.deserialize_serialize] at hread
      rw [Option.some.inj hread]
    · intro hlevel
      rw [UsbReadOnlyPlugin.level_disabled.mp hlevel]

theorem storageTypes_congr (h : UsbReadOnlyPlugin.Readable s.store)
    (h' : UsbReadOnlyPlugin.Readable s'.store) (hdisabled : Disabled s ↔ Disabled s') :
    storageTypes s'.store.manager = storageTypes s.store.manager := by
  refine Set.ext fun t => ?_
  rw [mem_storageTypes h, mem_storageTypes h', hdisabled]

theorem storageTypes_eq_empty (h : UsbReadOnlyPlugin.Readable s.store) (henabled : ¬ Disabled s) :
    storageTypes s.store.manager = ∅ :=
  Set.eq_empty_iff_forall_notMem.mpr fun _ ht => henabled ((mem_storageTypes h).mp ht).2

end Frames

/-! ### The lists -/

section ListSteps

variable {C : ArrayCJson} {order : HashOrder} {s s' : PluginState UsbService}

theorem Inv.same (h : Inv C s) (hstore : s'.store = s.store) (hmodules : s'.modules = s.modules) :
    Inv C s' := by
  refine ⟨hstore.symm ▸ h.readable, ?_, hstore.symm ▸ h.disallowed, hstore.symm ▸ h.permissive, ?_,
    ?_, ?_⟩
  · rw [UsbReadOnlyPlugin.asked_congr hstore, UsbReadOnlyPlugin.combined_congr hstore]
    exact h.access
  · rw [hstore]
    exact h.others
  · unfold UsbDeny.disallowed UsbDeny.permissive
    rw [hstore]
    exact h.apart
  · unfold UsbDeny.disallowed UsbDeny.permissive
    rw [hstore, hmodules]
    exact h.channels

/-- What an operation on a list keeps of the storage access policy and of the other values. -/
theorem Inv.list_step (h : Inv C s) (hgood : GoodStore s'.store) {p : String}
    (hp : p = POLICY_DISALLOWED_USB_DEVICES ∨ p = POLICY_DISALLOWED_PERMISSIVE_USB_DEVICES)
    (hother : ∀ q, q ≠ p → ∀ a, s'.store.manager.policyValue a q = s.store.manager.policyValue a q)
    (hdisallowed : Lists C DisallowedUsbDevicesPlugin s'.store)
    (hpermissive : Lists C DisallowedPermissiveUsbDevicesPlugin s'.store)
    (hapart : UsbDeny.disallowed C s' = ∅ ∨ UsbDeny.permissive C s' = ∅)
    (hchannels : Channels {t | t ∈ s'.modules.interfaceTypes} {t | t ∈ s'.modules.usbTypes}
      (UsbDeny.disallowed C s') (UsbDeny.permissive C s') (storageTypes s.store.manager)) :
    Inv C s' := by
  have haccess : ∀ a, s'.store.manager.policyValue a POLICY_USB_READ_ONLY =
      s.store.manager.policyValue a POLICY_USB_READ_ONLY :=
    hother _ (by rcases hp with rfl | rfl <;> decide)
  have hasked : UsbReadOnlyPlugin.asked s' = UsbReadOnlyPlugin.asked s := by
    funext other
    rw [UsbReadOnlyPlugin.asked, UsbReadOnlyPlugin.asked, haccess]
  have hcombined : UsbReadOnlyPlugin.combined s' = UsbReadOnlyPlugin.combined s := by
    rw [UsbReadOnlyPlugin.combined, UsbReadOnlyPlugin.combined, haccess]
  have hstorage : storageTypes s'.store.manager = storageTypes s.store.manager := by
    unfold storageTypes
    rw [haccess]
  refine ⟨h.readable.congr hgood haccess, ?_, hdisallowed, hpermissive, ?_, hapart, ?_⟩
  · rw [hasked, hcombined]
    exact h.access
  · intro q hq hlist hlist'
    rw [hother q (by rcases hp with rfl | rfl <;> assumption)]
    exact h.others q hq hlist hlist'
  · rw [hstorage]
    exact hchannels

/-- The types of a list that was started, when no list of the other kind has a value. -/
theorem empty_of_started {K K' : Kind} (hname : K.conflictPolicyName = K'.policyName)
    (hlists : Lists C K' s.store)
    (hapart : combined C K s.store = ∅ ∨ combined C K' s.store = ∅)
    (hstart : combined C K s'.store ≠ ∅ → combined C K s.store ≠ ∅ ∨
      s.store.manager.policyValue "" K.conflictPolicyName = "") :
    combined C K s'.store = ∅ ∨ combined C K' s.store = ∅ := by
  by_cases hsome : combined C K s'.store = ∅
  · exact .inl hsome
  · right
    rcases hstart hsome with hbefore | hconflict
    · exact hapart.resolve_left hbefore
    · rw [hname] at hconflict
      exact (hlists.texts.text "").eq_empty_iff.mp hconflict

/-- What is sent for a list is what is demanded of its channel.  The service is cleared only when
nothing is demanded of the other channel either. -/
theorem channels_of_sent {K K' : Kind} {i j : UsbService → List UsbDeviceType}
    (hset : ∀ data usb, i (K.setDisallowedDevices data usb) = data ∧
      j (K.setDisallowedDevices data usb) = j usb)
    (hclear : ∀ usb, i (UsbPolicyUtils.setUsbDisabled false usb) = [] ∧
      j (UsbPolicyUtils.setUsbDisabled false usb) = [])
    (hsent : Sent C K s s') (hother : combined C K' s'.store = combined C K' s.store)
    (hapart : combined C K s.store = ∅ ∨ combined C K' s.store = ∅)
    (h : Channels {t | t ∈ i s.modules} {t | t ∈ j s.modules} (combined C K s.store)
      (combined C K' s.store) (storageTypes s.store.manager)) :
    Channels {t | t ∈ i s'.modules} {t | t ∈ j s'.modules} (combined C K s'.store)
      (combined C K' s'.store) (storageTypes s.store.manager) := by
  obtain ⟨data, hdata, hmodules⟩ := hsent
  have hitems : {t | t ∈ data} = combined C K s'.store ∪ storageTypes s.store.manager :=
    Set.ext hdata
  rcases hmodules with hmodules | ⟨rfl, hsome, hmodules⟩
  · rw [hmodules, (hset _ _).1, (hset _ _).2, hother, hitems]
    exact h.send _
  · have hnone : ({t | t ∈ ([] : List UsbDeviceType)} : Set UsbDeviceType) = ∅ :=
      Set.eq_empty_iff_forall_notMem.mpr fun _ ht => List.not_mem_nil ht
    rw [hnone] at hitems
    obtain ⟨hlist, hstorage⟩ := Set.union_empty_iff.mp hitems.symm
    rw [hmodules, (hclear _).1, (hclear _).2, hother, hapart.resolve_left hsome, hlist, hstorage,
      hnone]
    exact channels_empty

theorem combined_congr {K : Kind} {store store' : UserStore}
    (hvalue : ∀ a, store'.manager.policyValue a K.policyName =
      store.manager.policyValue a K.policyName) :
    combined C K store' = combined C K store := by
  rw [combined, combined, hvalue]

theorem ListKeeps.writes {K : Kind} {op : DisallowedUsbDevicesPluginBase.Op}
    (h : ListKeeps C order s K op) : op.writes = ⟨.done, .done⟩ := by
  cases op with
  | update admin writes request => exact h.1
  | removeAdmin admin writes reply => exact h

theorem ListKeeps.effect {K : Kind} {op : DisallowedUsbDevicesPluginBase.Op}
    (h : ListKeeps C order s K op) (hlists : Lists C K s.store) (hname : K.policyName ≠ "")
    (hclear : ∀ usb, K.setDisallowedDevices [] (UsbPolicyUtils.setUsbDisabled false usb) =
      UsbPolicyUtils.setUsbDisabled false usb) :
    Effect C K s (DisallowedUsbDevicesPluginBase.step C K order s op) := by
  refine step_effect hlists hname hclear h.writes ?_
  rintro admin writes request rfl
  exact h.2

theorem disallowed_inv (h : Inv C s) {op : DisallowedUsbDevicesPluginBase.Op}
    (hkeeps : ListKeeps C order s DisallowedUsbDevicesPlugin op) :
    Inv C (step C order s (.disallowed op)) := by
  have hother : ∀ q, q ≠ POLICY_DISALLOWED_USB_DEVICES → ∀ a,
      (step C order s (.disallowed op)).store.manager.policyValue a q =
        s.store.manager.policyValue a q :=
    fun q hq => step_other h.readable.good (show (Op.disallowed op).writes = _ from hkeeps.writes) hq
  have hpermissive := hother POLICY_DISALLOWED_PERMISSIVE_USB_DEVICES (by decide)
  rcases hkeeps.effect h.disallowed disallowedName_ne (fun _ => rfl) with
    ⟨hmodules, hstore⟩ | ⟨hlists, hsent, hstart⟩
  · exact h.same hstore hmodules
  · have hsame := combined_congr (C := C) (K := DisallowedPermissiveUsbDevicesPlugin) hpermissive
    refine h.list_step hlists.texts.good (.inl rfl) hother hlists
      (h.permissive.congr hlists.texts.good hpermissive) ?_ ?_
    · have hapart := empty_of_started rfl h.permissive h.apart hstart
      rwa [← hsame] at hapart
    · exact channels_of_sent (fun _ _ => ⟨rfl, rfl⟩) (fun _ => ⟨rfl, rfl⟩) hsent hsame h.apart
        h.channels

theorem permissive_inv (h : Inv C s) {op : DisallowedUsbDevicesPluginBase.Op}
    (hkeeps : ListKeeps C order s DisallowedPermissiveUsbDevicesPlugin op) :
    Inv C (step C order s (.permissive op)) := by
  have hother : ∀ q, q ≠ POLICY_DISALLOWED_PERMISSIVE_USB_DEVICES → ∀ a,
      (step C order s (.permissive op)).store.manager.policyValue a q =
        s.store.manager.policyValue a q :=
    fun q hq => step_other h.readable.good (show (Op.permissive op).writes = _ from hkeeps.writes) hq
  have hdisallowed := hother POLICY_DISALLOWED_USB_DEVICES (by decide)
  rcases hkeeps.effect h.permissive permissiveName_ne (fun _ => rfl) with
    ⟨hmodules, hstore⟩ | ⟨hlists, hsent, hstart⟩
  · exact h.same hstore hmodules
  · have hsame := combined_congr (C := C) (K := DisallowedUsbDevicesPlugin) hdisallowed
    refine h.list_step hlists.texts.good (.inr rfl) hother
      (h.disallowed.congr hlists.texts.good hdisallowed) hlists ?_ ?_
    · have hapart := empty_of_started rfl h.disallowed h.apart.symm hstart
      rw [← hsame] at hapart
      exact hapart.symm
    · exact (channels_of_sent (fun _ _ => ⟨rfl, rfl⟩) (fun _ => ⟨rfl, rfl⟩) hsent hsame h.apart.symm
        h.channels.symm).symm

end ListSteps

/-! ### The storage access policy -/

section AccessSteps

open UsbReadOnlyPlugin

variable {C : ArrayCJson} {order : HashOrder} {s : PluginState UsbService} {admin : AdminName}

/-- What an operation on the storage access policy keeps of the lists and of the other values. -/
theorem Inv.access_step (h : Inv C s) {op : UsbReadOnlyPlugin.Op}
    (hwrites : op.writes = ⟨.done, .done⟩)
    (hreadable : Readable (step C order s (.access op)).store)
    (haccess : IsLUB (Set.range (asked (step C order s (.access op))))
      (UsbReadOnlyPlugin.combined (step C order s (.access op))))
    (hchannels : Channels {t | t ∈ (step C order s (.access op)).modules.interfaceTypes}
      {t | t ∈ (step C order s (.access op)).modules.usbTypes} (UsbDeny.disallowed C s)
      (UsbDeny.permissive C s) (storageTypes (step C order s (.access op)).store.manager)) :
    Inv C (step C order s (.access op)) := by
  have hother : ∀ q, q ≠ POLICY_USB_READ_ONLY → ∀ a,
      (step C order s (.access op)).store.manager.policyValue a q =
        s.store.manager.policyValue a q :=
    fun q hq => step_other h.readable.good (show (Op.access op).writes = _ from hwrites) hq
  have hdisallowed := combined_congr (C := C) (K := DisallowedUsbDevicesPlugin)
    (hother POLICY_DISALLOWED_USB_DEVICES (by decide))
  have hpermissive := combined_congr (C := C) (K := DisallowedPermissiveUsbDevicesPlugin)
    (hother POLICY_DISALLOWED_PERMISSIVE_USB_DEVICES (by decide))
  refine ⟨hreadable, haccess, h.disallowed.congr hreadable.good (hother _ (by decide)),
    h.permissive.congr hreadable.good (hother _ (by decide)), ?_, ?_, ?_⟩
  · intro q hq hlist hlist'
    rw [hother q hq]
    exact h.others q hq hlist hlist'
  · rw [UsbDeny.disallowed, UsbDeny.permissive, hdisallowed, hpermissive]
    exact h.apart
  · rw [UsbDeny.disallowed, UsbDeny.permissive, hdisallowed, hpermissive]
    exact hchannels

/-- The combined disallowed list. -/
abbrev disallowedList (C : ArrayCJson) (s : PluginState UsbService) : List UsbDeviceType :=
  listOf C (s.store.manager.policyValue "" POLICY_DISALLOWED_USB_DEVICES)

theorem Inv.usbDeviceTypes (h : Inv C s) :
    getDisallowedUsbDeviceTypes C s.store.manager = some (disallowedList C s) :=
  (h.disallowed.texts.text "").read.2.2.1

theorem Inv.allowUsbDevice (h : Inv C s) :
    s.store.manager.policyValue "" POLICY_ALLOWED_USB_DEVICES = "" :=
  h.others _ (by decide) (by decide) (by decide)

/-- A list without types of storage. -/
theorem filter_isStorage (hnone : NoStorageType C s) :
    {t | t ∈ (disallowedList C s).filter fun t => !t.isStorage} = UsbDeny.disallowed C s := by
  refine Set.ext fun t => ?_
  show t ∈ List.filter _ _ ↔ _
  rw [List.mem_filter]
  refine and_iff_left_of_imp fun ht => ?_
  rw [hnone t ht]
  rfl

theorem any_isStorage : (disallowedList C s).any UsbDeviceType.isStorage = true ↔
    ¬ NoStorageType C s := by
  rw [List.any_eq_true]
  constructor
  · rintro ⟨t, ht, hstorage⟩ hnone
    rw [hnone t ht] at hstorage
    cases hstorage
  · intro hsome
    obtain ⟨t, ht⟩ := not_forall.mp hsome
    obtain ⟨hmem, hstorage⟩ := Classical.not_imp.mp ht
    exact ⟨t, hmem, Bool.eq_true_of_not_eq_false hstorage⟩

/-- A request is refused for the disallowed list or for the accounts. -/
theorem Inv.hasConflictPolicy (h : Inv C s) (accessPolicy : Int32) (writeDisallowed : Option Bool) :
    hasConflictPolicy C s.store.manager accessPolicy "" writeDisallowed = some false ↔
      ¬ (¬ NoStorageType C s ∧ (accessPolicy = STORAGE_USB_POLICY_READ_WRITE ∨
        accessPolicy = STORAGE_USB_POLICY_READ_ONLY)) ∧ writeDisallowed = some false := by
  have hlength : (disallowedList C s).length ≤ DISALLOWED_USB_DEVICES_TYPES_MAX_SIZE :=
    (h.disallowed.texts.text "").read.1
  have hstorage : isStorageDisabledByDisallowedPolicy C s.store.manager =
      some ((disallowedList C s).any UsbDeviceType.isStorage) := by
    rw [isStorageDisabledByDisallowedPolicy, h.usbDeviceTypes, Option.map_some,
      decide_eq_true hlength, Bool.true_and]
  rw [UsbReadOnlyPlugin.hasConflictPolicy, hstorage, if_neg fun hand => hand.2 rfl,
    h.others POLICY_DISABLE_USB (by decide) (by decide) (by decide),
    h.others POLICY_EXTERNAL_STORAGE_INTERCEPT_ENABLE (by decide) (by decide) (by decide),
    ← any_isStorage]
  dsimp only
  split
  · rename_i hrefused
    exact iff_of_false (by decide) fun hand => hand.1 hrefused
  · rename_i hfree
    rw [if_neg (by decide), if_neg (by decide)]
    exact (and_iff_right hfree).symm

/-- A request that is carried out is refused, or it disables storage, or takes the types of storage
from the disallowed list. -/
theorem Inv.setUsbStorageAccessPolicy (h : Inv C s) {answers : Answers} {accessPolicy : Int32}
    {ret : ErrCode} {usb : UsbService}
    (hcarry : setUsbStorageAccessPolicy C s.store.manager answers accessPolicy s.modules =
      (ret, usb)) :
    ret ≠ ERR_OK ∧ usb = s.modules ∨
      accessPolicy = STORAGE_USB_POLICY_DISABLED ∧ ret = ERR_OK ∧
        usb.usbTypes = s.modules.usbTypes ∧
        {t | t ∈ usb.interfaceTypes} = UsbDeny.disallowed C s ∪ {storageType} ∨
      accessPolicy ≠ STORAGE_USB_POLICY_DISABLED ∧ answers.writeDisallowed = some false ∧
        ¬ (¬ NoStorageType C s ∧ (accessPolicy = STORAGE_USB_POLICY_READ_WRITE ∨
          accessPolicy = STORAGE_USB_POLICY_READ_ONLY)) ∧
        (ret = ERR_OK ↔ answers.reloadUsbDevice = true) ∧ usb.usbTypes = s.modules.usbTypes ∧
        usb.interfaceTypes = (disallowedList C s).filter fun t => !t.isStorage := by
  rw [UsbReadOnlyPlugin.setUsbStorageAccessPolicy, h.allowUsbDevice, h.usbDeviceTypes] at hcarry
  dsimp only at hcarry
  cases hconflict : UsbReadOnlyPlugin.hasConflictPolicy C s.store.manager accessPolicy ""
    answers.writeDisallowed with
  | none =>
    rw [hconflict] at hcarry
    cases hcarry
    exact .inl ⟨by decide, rfl⟩
  | some refused =>
    rw [hconflict] at hcarry
    cases refused with
    | true =>
      cases hcarry
      exact .inl ⟨by decide, rfl⟩
    | false =>
      right
      obtain ⟨hfree, hwrite⟩ := (h.hasConflictPolicy _ _).mp hconflict
      dsimp only at hcarry
      by_cases hdisable : accessPolicy = STORAGE_USB_POLICY_DISABLED
      · rw [if_pos hdisable] at hcarry
        obtain ⟨rfl, rfl⟩ := Prod.mk.inj hcarry.symm
        refine .inl ⟨hdisable, rfl, rfl, Set.ext fun t => ?_⟩
        refine ArrayUsbDeviceTypeSerializer.mem_setUnionPolicyData.trans (or_congr_right ?_)
        exact List.mem_singleton
      · rw [if_neg hdisable] at hcarry
        have husb := dealReadPolicy_snd answers.reloadUsbDevice accessPolicy (disallowedList C s)
          s.modules
        rw [hcarry] at husb
        obtain rfl : usb = _ := husb
        refine .inr ⟨hdisable, hwrite, hfree, ?_, rfl, rfl⟩
        have hret := congrArg Prod.fst hcarry
        cases hreload : answers.reloadUsbDevice with
        | true =>
          rw [hreload] at hret
          exact iff_of_true hret.symm rfl
        | false =>
          rw [hreload] at hret
          have hret : EdmReturnErrCode.SYSTEM_ABNORMALLY = ret := hret
          exact iff_of_false (hret ▸ by decide) Bool.false_ne_true

/-- The channels after the types of the disallowed list, and that of storage where it is disabled, were
sent. -/
theorem Inv.channels_sent (h : Inv C s) {usb : UsbService} {storage : Set UsbDeviceType}
    (hinterface : {t | t ∈ usb.interfaceTypes} = UsbDeny.disallowed C s ∪ storage)
    (husb : usb.usbTypes = s.modules.usbTypes)
    (hupper : ∀ t, t ∈ s.modules.usbTypes → t ∈ storageTypes s.store.manager →
      t ∈ UsbDeny.permissive C s ∨ t ∈ storage) :
    Channels {t | t ∈ usb.interfaceTypes} {t | t ∈ usb.usbTypes} (UsbDeny.disallowed C s)
      (UsbDeny.permissive C s) storage := by
  rw [hinterface, husb]
  refine h.channels.replace fun t ht => ?_
  rcases h.channels.second_upper ht with hlist | hstorage
  · exact .inl hlist
  · exact hupper t ht hstorage

/-- The type of storage is denied for the permissive list only. -/
theorem PermissiveOnly.upper (hreadable : Readable s.store) (h : PermissiveOnly C s)
    {t : UsbDeviceType} (ht : t ∈ s.modules.usbTypes) (hstorage : t ∈ storageTypes s.store.manager) :
    t ∈ UsbDeny.permissive C s := by
  obtain ⟨rfl, -⟩ := (mem_storageTypes hreadable).mp hstorage
  exact h ht

/-- Whether storage is disabled stays the same when the combined access becomes that of the others. -/
theorem disabled_iff (h : Inv C s) {s' : PluginState UsbService} {merged : Nat}
    (hlub : IsLUB (levelsOfOthers (asked s) admin) merged)
    (hkeeps : NotAbove s admin ∨
      asked s admin ≠ level STORAGE_USB_POLICY_DISABLED ∧ ¬ OthersDisable s admin)
    (hcombined : UsbReadOnlyPlugin.combined s' = merged) : Disabled s ↔ Disabled s' := by
  have hbefore := h.access.unique (isLUB_range hlub)
  rw [Disabled, Disabled, hbefore, hcombined]
  by_cases hle : asked s admin ≤ merged
  · rw [sup_eq_right.mpr hle]
  · rcases hkeeps with ⟨other, hother, hupper⟩ | ⟨hown, hothers⟩
    · exact absurd (le_trans hupper (hlub.1 ⟨other, hother, rfl⟩)) hle
    · rw [sup_eq_left.mpr (le_of_not_ge hle)]
      refine iff_of_false hown fun heq => hothers ?_
      rw [OthersDisable, ← heq]
      exact hlub

theorem access_set_inv (h : Inv C s) {request : UsbReadOnlyPlugin.Request}
    (hset : request.type = .set)
    (hkeeps : AccessKeeps C s (.update admin ⟨.done, .done⟩ request)) :
    Inv C (step C order s (.access (.update admin ⟨.done, .done⟩ request))) := by
  obtain ⟨hlower, hcarried⟩ := hkeeps.2 hset
  obtain ⟨merged, hmerged, hlub, hcases⟩ := set_cases (C := C) order h.readable admin hset
  have hcovered := covered_iff request.accessPolicy hmerged hlub
  rcases hcases with ⟨habove, ret, usb, hcarry, hmodules, hfail, hstored⟩ |
    ⟨hbelow, hmodules, hstored⟩
  · have hsup := level_sup hmerged habove
    have hmodules : (step C order s (.access (.update admin ⟨.done, .done⟩ request))).modules = usb :=
      hmodules
    rcases h.setUsbStorageAccessPolicy hcarry with ⟨hret, husb⟩ | ⟨hdisable, hret, husb, hitems⟩ |
      ⟨henable, hwrite, hfree, hret, husb, hitems⟩
    · exact h.same (hfail hret) (hmodules.trans husb)
    · have hstored := hstored hret
      obtain ⟨hcombined, haccess⟩ := hstored.combined_eq h.access hlub hsup
      have hstorage : storageTypes
          (step C order s (.access (.update admin ⟨.done, .done⟩ request))).store.manager =
            {storageType} := by
        refine Set.ext fun t => (mem_storageTypes hstored.readable).trans (and_iff_left ?_)
        exact hcombined.trans (congrArg level hdisable)
      refine h.access_step rfl hstored.readable haccess ?_
      rw [hmodules, hstorage]
      exact h.channels_sent hitems husb fun t _ ht => .inr ht.1
    · obtain ⟨hnone, honly, hreload⟩ : NoStorageType C s ∧ PermissiveOnly C s ∧
          (request.answers.reloadUsbDevice = true ∨ ¬ Disabled s) := by
        rcases hcarried with hcov | hnot | hdisable | hrefused | hnone
        · exact absurd habove (hcovered.mp hcov)
        · exact absurd hwrite hnot
        · exact absurd hdisable henable
        · exact absurd hrefused hfree
        · exact hnone
      have hchannels : Channels {t | t ∈ usb.interfaceTypes} {t | t ∈ usb.usbTypes}
          (UsbDeny.disallowed C s) (UsbDeny.permissive C s) ∅ := by
        refine h.channels_sent ?_ husb fun t ht hstorage => .inl (honly.upper h.readable ht hstorage)
        rw [hitems, Set.union_empty]
        exact filter_isStorage hnone
      by_cases hok : ret = ERR_OK
      · have hstored := hstored hok
        obtain ⟨hcombined, haccess⟩ := hstored.combined_eq h.access hlub hsup
        have henabled : ¬ Disabled (step C order s
            (.access (.update admin ⟨.done, .done⟩ request))) := by
          intro hdisabled
          have hlevel := hcombined.symm.trans hdisabled
          exact henable (level_disabled.mp hlevel)
        refine h.access_step rfl hstored.readable haccess ?_
        have hstorage : storageTypes (step C order s
            (.access (.update admin ⟨.done, .done⟩ request))).store.manager = ∅ :=
          storageTypes_eq_empty hstored.readable henabled
        rw [hmodules, hstorage]
        exact hchannels
      · have hstore : (step C order s (.access (.update admin ⟨.done, .done⟩ request))).store =
            s.store := hfail hok
        have henabled : ¬ Disabled s := hreload.resolve_left fun htrue => hok (hret.mpr htrue)
        refine h.access_step rfl (hstore.symm ▸ h.readable) ?_ ?_
        · rw [asked_congr hstore, UsbReadOnlyPlugin.combined_congr hstore]
          exact h.access
        · rw [hmodules, hstore, storageTypes_eq_empty h.readable henabled]
          exact hchannels
  · have hle : level request.accessPolicy ≤ level merged :=
      not_lt.mp fun hlt => hbelow (.inr ((level_lt hmerged).mp hlt))
    obtain ⟨hcombined, haccess⟩ := hstored.combined_eq h.access hlub (sup_eq_right.mpr hle)
    have hmodules : (step C order s (.access (.update admin ⟨.done, .done⟩ request))).modules =
      s.modules := hmodules
    refine h.access_step rfl hstored.readable haccess ?_
    have hstorage : storageTypes (step C order s
        (.access (.update admin ⟨.done, .done⟩ request))).store.manager =
          storageTypes s.store.manager :=
      storageTypes_congr h.readable hstored.readable
        (disabled_iff h hlub (hlower (hcovered.mpr hbelow)) hcombined)
    rw [hmodules, hstorage]
    exact h.channels

theorem access_removeAdmin_inv (h : Inv C s) (reply : Bool)
    (hkeeps : AccessKeeps C s (.removeAdmin admin ⟨.done, .done⟩ reply)) :
    Inv C (step C order s (.access (.removeAdmin admin ⟨.done, .done⟩ reply))) := by
  obtain ⟨-, hkeeps⟩ := hkeeps
  obtain ⟨merged, hmerged, hlub, ⟨-, hsame⟩ | ⟨hmodules, hreadable, hasked, hcombined⟩⟩ :=
    removeAdmin_cases (C := C) order h.readable admin reply h.usbDeviceTypes
  · have hsame : step C order s (.access (.removeAdmin admin ⟨.done, .done⟩ reply)) = s := hsame
    rw [hsame]
    exact h
  have hmodules : (step C order s (.access (.removeAdmin admin ⟨.done, .done⟩ reply))).modules = _ :=
    hmodules
  refine h.access_step rfl hreadable ?_ ?_
  · have hafter := isLUB_update hlub 0
    rw [sup_eq_right.mpr (Nat.zero_le _), ← hcombined, ← hasked] at hafter
    exact hafter
  rw [hmodules]
  by_cases hlt : level merged < asked s admin
  · obtain ⟨hnone, honly, hothers⟩ : NoStorageType C s ∧ PermissiveOnly C s ∧
        ¬ OthersDisable s admin := by
      refine hkeeps.resolve_left ?_
      rintro ⟨other, hother, hle⟩
      exact absurd (le_trans hle (hlub.1 ⟨other, hother, rfl⟩)) (not_le.mpr hlt)
    have henabled : ¬ Disabled (step C order s
        (.access (.removeAdmin admin ⟨.done, .done⟩ reply))) := by
      intro hdisabled
      have hlevel := hcombined.symm.trans hdisabled
      rw [hlevel] at hlub
      exact hothers hlub
    have hstorage : storageTypes (step C order s
        (.access (.removeAdmin admin ⟨.done, .done⟩ reply))).store.manager = ∅ :=
      storageTypes_eq_empty hreadable henabled
    rw [if_pos hlt, h.allowUsbDevice, dealReadPolicy_snd, hstorage]
    refine h.channels_sent ?_ rfl fun t ht hstorage => .inl (honly.upper h.readable ht hstorage)
    rw [Set.union_empty]
    exact filter_isStorage hnone
  · rw [if_neg hlt]
    have hbefore := h.access.unique (isLUB_range hlub)
    rw [sup_eq_right.mpr (not_lt.mp hlt)] at hbefore
    have hdisabled : Disabled s ↔ Disabled (step C order s
        (.access (.removeAdmin admin ⟨.done, .done⟩ reply))) := by
      rw [Disabled, Disabled, hbefore]
      show _ ↔ UsbReadOnlyPlugin.combined (UsbReadOnlyPlugin.step C order s _) = _
      rw [hcombined]
    have hstorage : storageTypes (step C order s
        (.access (.removeAdmin admin ⟨.done, .done⟩ reply))).store.manager =
          storageTypes s.store.manager :=
      storageTypes_congr h.readable hreadable hdisabled
    rw [hstorage]
    exact h.channels

end AccessSteps

/-! ### Runs -/

section Runs

variable {C : ArrayCJson} {order : HashOrder} {s : PluginState UsbService}

theorem inv_boot : Inv C boot where
  readable := UsbReadOnlyPlugin.inv_boot.readable
  access := UsbReadOnlyPlugin.inv_boot.follows.combined
  disallowed := lists_new DEFAULT_USER_ID
  permissive := lists_new DEFAULT_USER_ID
  others q _ _ _ := policyValue_new DEFAULT_USER_ID "" q
  apart := .inl itemsOf_empty
  channels := by
    have hnone : ({t | t ∈ ([] : List UsbDeviceType)} : Set UsbDeviceType) = ∅ :=
      Set.eq_empty_iff_forall_notMem.mpr fun _ ht => List.not_mem_nil ht
    have hstorage : storageTypes boot.store.manager = ∅ :=
      storageTypes_eq_empty UsbReadOnlyPlugin.inv_boot.readable (by unfold Disabled; decide)
    have hlist : ∀ K : Kind, combined C K boot.store = ∅ := fun K => itemsOf_empty
    rw [UsbDeny.disallowed, UsbDeny.permissive, hlist, hlist, hstorage]
    show Channels {t | t ∈ ([] : List UsbDeviceType)} {t | t ∈ ([] : List UsbDeviceType)} _ _ _
    rw [hnone]
    exact channels_empty

theorem step_inv (h : Inv C s) {op : Op} (hkeeps : Keeps C order s op) :
    Inv C (step C order s op) := by
  cases op with
  | access op =>
    have hkeeps : AccessKeeps C s op := hkeeps
    cases op with
    | update admin writes request =>
      obtain rfl : writes = ⟨.done, .done⟩ := hkeeps.1
      by_cases hset : request.type = .set
      · exact access_set_inv h hset hkeeps
      · obtain ⟨hmodules, hstore⟩ :=
          UsbReadOnlyPlugin.update_other C order admin h.readable hset
        exact h.same hstore hmodules
    | removeAdmin admin writes reply =>
      obtain rfl : writes = ⟨.done, .done⟩ := hkeeps.1
      exact access_removeAdmin_inv h reply hkeeps
  | disallowed op => exact disallowed_inv h hkeeps
  | permissive op => exact permissive_inv h hkeeps

end Runs

def disallow (admin : AdminName) (types : List UsbDeviceType) : Op :=
  .disallowed (.update admin ⟨.done, .done⟩ ⟨.set, some types, some false⟩)

/-- The service and the tables accept what an operation asks of them. -/
def Accepted : Op → Prop
  | .access op => UsbReadOnlyPlugin.Accepted op
  | .disallowed op => op.writes = ⟨.done, .done⟩
  | .permissive op => op.writes = ⟨.done, .done⟩

end Edm.UsbDeny
