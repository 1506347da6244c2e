import Edm.Plugin.ArrayStringItems
import Edm.Plugin.SetAbilityDisablePlugin
import Edm.Plugin.TemplatePolicy

/-! Runs of `SetAbilityDisablePlugin` with applications that are installed and uninstalled.  The
bundle manager finds the abilities of installed applications and carries out every call for them. -/

set_option autoImplicit false

namespace Edm.SetAbilityDisablePlugin

open Library Library.UnorderedMap ArrayStringSerializer

/-- The name of a bundle that can be installed.  It has no slash. -/
abbrev BundleName := { bundle : String // '/' ∉ bundle.toList }

/-- The policies of a user with the abilities that are disabled, and the installed main
applications. -/
structure State where
  state : PluginState (Finset Ability)
  installed : Finset BundleName

inductive Op where
  | update (admin : AdminName) (writes : Writes) (type : FuncOperateType) (ability : Ability)
    (isDisable : Bool)
  | removeAdmin (admin : AdminName) (writes : Writes)
  | bundleAdded (bundle : BundleName) (appIndex : Int)
  | bundleRemoved (bundle : BundleName)

def Installed (installed : Finset BundleName) (bundle : String) : Prop :=
  ∃ b, b ∈ installed ∧ b.1 = bundle

instance (installed : Finset BundleName) (bundle : String) :
    Decidable (Installed installed bundle) :=
  inferInstanceAs (Decidable (∃ b, b ∈ installed ∧ b.1 = bundle))

/-- The bundle manager knows the abilities of installed applications. -/
def bundleMgr (installed : Finset BundleName) (ability : Ability) : BundleMgr where
  proxy := true
  queryAbilityInfos := decide (Installed installed ability.1)
  setCloneAbilityEnabled := true

/-- What it answers about the items of a policy. -/
def answers (installed : Finset BundleName) (policy : String) : BundleMgr :=
  match abilityOfItem policy with
  | some ability => bundleMgr installed ability
  | none => ⟨false, false, false⟩

variable (C : CJson)

/-- The loop over the items of the combined policy. -/
def onBundleAdded (installed : Finset BundleName) (bundleName : String) (disabled : Finset Ability)
    (mergePolicyData : String) : Finset Ability :=
  ((deserialize C mergePolicyData).getD []).foldl
    (fun disabled item =>
      match abilityOfItem item with
      | some ability =>
        if ability.1 = bundleName then
          (setAbilityDisabled (bundleMgr installed ability) disabled ability true).2
        else disabled
      | none => disabled)
    disabled

/-- The abilities that are left when those of a bundle are enabled, or gone. -/
def without (bundle : String) (disabled : Finset Ability) : Finset Ability :=
  disabled.filter fun ability => ability.1 ≠ bundle

/-- An installation, and the event if the plugin has subscribed to it.  A clone comes with its main
application, for which nothing is done. -/
def bundleAdded (s : State) (bundle : BundleName) : State where
  state := { s.state with
    modules :=
      if s.state.subscribed then
        onBundleAdded C (insert bundle s.installed) bundle (without bundle s.state.modules)
          (s.state.store.manager.policyValue "" "set_ability_enabled")
      else without bundle s.state.modules }
  installed := insert bundle s.installed

/-- The policy operation that a request or a removal is. -/
def policyOp (installed : Finset BundleName) (admin : AdminName) (writes : Writes)
    (type : FuncOperateType) (ability : Ability) (isDisable : Bool) :
    PolicyOp Request (String → BundleMgr) :=
  .update admin writes ⟨type, ability, isDisable, bundleMgr installed ability⟩

def step (s : State) : Op → State
  | .update admin writes type ability isDisable =>
    { s with
      state := policyStep (plugin C) s.state
        (policyOp s.installed admin writes type ability isDisable) }
  | .removeAdmin admin writes =>
    { s with
      state := policyStep (plugin C) s.state (.removeAdmin admin writes (answers s.installed)) }
  | .bundleAdded bundle appIndex => if appIndex ≠ 0 then s else bundleAdded C s bundle
  | .bundleRemoved bundle =>
    { state := { s.state with modules := without bundle s.state.modules }
      installed := s.installed.erase bundle }

def boot (installed : Finset BundleName) (userId : Int) : State where
  state := PluginState.boot ∅ userId
  installed

section Run

variable (s : State)

/-- The items that an admin stores. -/
abbrev listed (admin : AdminName) : Set String :=
  itemsHeld (itemsOf C) "set_ability_enabled" s.state.store admin

/-- The items of the combined policy. -/
def combined : List String :=
  (deserialize C (s.state.store.manager.policyValue "" "set_ability_enabled")).getD []

/-- The combined policy has what the admins store, and nothing twice; of the installed applications
exactly its abilities are disabled. -/
structure InForce : Prop where
  nodup : (combined C s).Nodup
  union : ∀ item, item ∈ combined C s ↔ item ∈ held (listed C s)
  disabled : ∀ ability, ability ∈ s.state.modules ↔
    Installed s.installed ability.1 ∧ policyItem ability ∈ combined C s

/-- A request or a removal of an admin leaves disabled what another disables. -/
def Right (op : Op) : Prop :=
  ∀ admin, ((∃ writes type ability isDisable, op = .update admin writes type ability isDisable) ∨
      ∃ writes, op = .removeAdmin admin writes) →
    ∀ other ability, other ≠ admin → policyItem ability ∈ listed C s other →
      ability ∈ s.state.modules → ability ∈ (step C s op).state.modules

/-- Writes take effect.  A request that is not refused leaves the admin with all items that the
others store, and when an admin with a policy is removed the others store none. -/
def Keeps : Op → Prop
  | .update admin writes type ability isDisable =>
    writes = ⟨.done, .done⟩ ∧ (type = .set → ∀ item, item ∈ heldByOthers (listed C s) admin →
      if isDisable then
        (policyItem ability ∈ listed C s admin ∨ Installed s.installed ability.1) →
          item ∈ listed C s admin ∨ item = policyItem ability
      else
        (policyItem ability ∉ listed C s admin ∨ Installed s.installed ability.1) →
          item ∈ listed C s admin ∧ item ≠ policyItem ability)
  | .removeAdmin admin writes =>
    writes = ⟨.done, .done⟩ ∧
      (s.state.store.manager.policyValue admin "set_ability_enabled" ≠ "" →
        heldByOthers (listed C s) admin = ∅)
  | .bundleAdded _ _ => True
  | .bundleRemoved _ => True

end Run

/-! ### Items -/

theorem toList_policyItem (ability : Ability) :
    (policyItem ability).toList = ability.1.toList ++ '/' :: ability.2.toList := by
  rw [policyItem, String.toList_append, String.toList_append, List.append_assoc]
  rfl

/-- Only the bundle's name is before the first separator. -/
theorem abilityOfItem_policyItem {ability : Ability} (h : '/' ∉ ability.1.toList) :
    abilityOfItem (policyItem ability) = some ability := by
  have hbefore : ∀ c ∈ ability.1.toList, decide (c ≠ '/') = true := fun c hc =>
    decide_eq_true fun heq => h (heq ▸ hc)
  have hmem : '/' ∈ (policyItem ability).toList := by
    rw [toList_policyItem]
    exact List.mem_append_right _ List.mem_cons_self
  rw [abilityOfItem, if_pos hmem, toList_policyItem, List.takeWhile_append_of_pos hbefore,
    List.dropWhile_append_of_pos hbefore, List.takeWhile_cons_of_neg (by decide),
    List.dropWhile_cons_of_neg (by decide), List.append_nil]
  show some (String.ofList ability.1.toList, String.ofList ability.2.toList) = some ability
  rw [String.ofList_toList, String.ofList_toList]

/-- An item with a separator stands for an ability. -/
theorem exists_policyItem {item : String} (h : '/' ∈ item.toList) :
    ∃ ability : Ability, item = policyItem ability ∧ '/' ∉ ability.1.toList := by
  obtain ⟨before, after, hsplit, hbefore⟩ := List.eq_append_cons_of_mem h
  refine ⟨(String.ofList before, String.ofList after), String.toList_inj.mp ?_, ?_⟩
  · rw [hsplit, toList_policyItem, String.toList_ofList, String.toList_ofList]
  · rw [String.toList_ofList]
    exact hbefore

theorem abilityOfItem_eq_some {item : String} {ability : Ability} :
    abilityOfItem item = some ability ↔ item = policyItem ability ∧ '/' ∉ ability.1.toList := by
  constructor
  · intro hitem
    have hmem : '/' ∈ item.toList := by
      by_contra hmem
      rw [abilityOfItem, if_neg hmem] at hitem
      cases hitem
    obtain ⟨other, rfl, hother⟩ := exists_policyItem hmem
    rw [abilityOfItem_policyItem hother] at hitem
    obtain rfl := Option.some.inj hitem
    exact ⟨rfl, hother⟩
  · rintro ⟨rfl, h⟩
    exact abilityOfItem_policyItem h

/-- Abilities of installed applications with the same item are the same. -/
theorem policyItem_inj {ability ability' : Ability} (h : '/' ∉ ability.1.toList)
    (h' : '/' ∉ ability'.1.toList) :
    policyItem ability = policyItem ability' ↔ ability = ability' := by
  constructor
  · intro heq
    have hitem := abilityOfItem_policyItem h
    rw [heq, abilityOfItem_policyItem h'] at hitem
    exact (Option.some.inj hitem).symm
  · rintro rfl
    rfl

theorem Installed.notMem {installed : Finset BundleName} {bundle : String}
    (h : Installed installed bundle) : '/' ∉ bundle.toList := by
  obtain ⟨b, -, rfl⟩ := h
  exact b.2

/-! ### The bundle manager -/

section BundleManager

variable {installed : Finset BundleName} {disabled : Finset Ability} {ability : Ability}

theorem setAbilityDisabled_installed (h : Installed installed ability.1) (isDisabled : Bool) :
    setAbilityDisabled (bundleMgr installed ability) disabled ability isDisabled =
      (ERR_OK, if isDisabled then insert ability disabled else disabled.erase ability) := by
  unfold setAbilityDisabled bundleMgr
  rw [decide_eq_true h]
  cases isDisabled <;> rfl

theorem setAbilityDisabled_unknown (h : ¬ Installed installed ability.1) (isDisabled : Bool) :
    setAbilityDisabled (bundleMgr installed ability) disabled ability isDisabled =
      (EdmReturnErrCode.PARAMETER_VERIFICATION_FAILED, disabled) := by
  unfold setAbilityDisabled bundleMgr
  rw [decide_eq_false h]
  rfl

theorem mem_setAbilityDisabled_false {x : Ability} :
    x ∈ (setAbilityDisabled (bundleMgr installed ability) disabled ability false).2 ↔
      x ∈ disabled ∧ ¬(x = ability ∧ Installed installed ability.1) := by
  by_cases h : Installed installed ability.1
  · rw [setAbilityDisabled_installed h]
    show x ∈ disabled.erase ability ↔ _
    rw [Finset.mem_erase, and_comm, and_congr_right_iff]
    exact fun _ => not_congr (and_iff_left h).symm
  · rw [setAbilityDisabled_unknown h]
    exact (and_iff_left fun heq => h heq.2).symm

theorem mem_setAbilityDisabled_true {x : Ability} :
    x ∈ (setAbilityDisabled (bundleMgr installed ability) disabled ability true).2 ↔
      x ∈ disabled ∨ x = ability ∧ Installed installed ability.1 := by
  by_cases h : Installed installed ability.1
  · rw [setAbilityDisabled_installed h]
    show x ∈ insert ability disabled ↔ _
    rw [Finset.mem_insert, or_comm, and_iff_left h]
  · rw [setAbilityDisabled_unknown h]
    exact (or_iff_left fun heq => h heq.2).symm

/-- The item of an installed ability is read as the ability. -/
theorem Installed.abilityOfItem {x : Ability} (h : Installed installed x.1) (item : String) :
    abilityOfItem item = some x ↔ policyItem x = item :=
  abilityOfItem_eq_some.trans ((and_iff_left h.notMem).trans eq_comm)

/-- One item is enabled. -/
theorem mem_enable_item (item : String) {x : Ability} :
    x ∈ (match abilityOfItem item with
        | none => disabled
        | some ability =>
          (setAbilityDisabled (answers installed item) disabled ability false).2) ↔
      x ∈ disabled ∧ ¬(policyItem x = item ∧ Installed installed x.1) := by
  cases hitem : abilityOfItem item with
  | none =>
    refine (and_iff_left ?_).symm
    rintro ⟨heq, hinstalled⟩
    rw [(hinstalled.abilityOfItem item).mpr heq] at hitem
    cases hitem
  | some ability =>
    have hanswers : answers installed item = bundleMgr installed ability := by
      rw [answers, hitem]
    dsimp only
    rw [hanswers, mem_setAbilityDisabled_false, and_congr_right_iff]
    refine fun _ => not_congr ⟨?_, ?_⟩
    · rintro ⟨rfl, hinstalled⟩
      exact ⟨(hinstalled.abilityOfItem item).mp hitem, hinstalled⟩
    · rintro ⟨heq, hinstalled⟩
      rw [(hinstalled.abilityOfItem item).mpr heq] at hitem
      obtain rfl := Option.some.inj hitem
      exact ⟨rfl, hinstalled⟩

/-- What is left when the items of a list are enabled. -/
theorem mem_enable_items (items : List String) {x : Ability} :
    x ∈ items.foldl (fun disabled policy =>
        match abilityOfItem policy with
        | none => disabled
        | some ability =>
          (setAbilityDisabled (answers installed policy) disabled ability false).2) disabled ↔
      x ∈ disabled ∧ ¬(policyItem x ∈ items ∧ Installed installed x.1) := by
  induction items generalizing disabled with
  | nil => exact (and_iff_left fun h => List.not_mem_nil h.1).symm
  | cons item items ih =>
    rw [List.foldl_cons, ih, mem_enable_item, List.mem_cons, or_and_right, not_or, and_assoc]

/-- One item is disabled, if it is of the bundle. -/
theorem mem_disable_item (bundleName item : String) {x : Ability} :
    x ∈ (match abilityOfItem item with
        | some ability =>
          if ability.1 = bundleName then
            (setAbilityDisabled (bundleMgr installed ability) disabled ability true).2
          else disabled
        | none => disabled) ↔
      x ∈ disabled ∨ policyItem x = item ∧ x.1 = bundleName ∧ Installed installed x.1 := by
  cases hitem : abilityOfItem item with
  | none =>
    refine (or_iff_left ?_).symm
    rintro ⟨heq, -, hinstalled⟩
    rw [(hinstalled.abilityOfItem item).mpr heq] at hitem
    cases hitem
  | some ability =>
    have hsame : ∀ hinstalled : Installed installed x.1, policyItem x = item → x = ability := by
      intro hinstalled heq
      rw [(hinstalled.abilityOfItem item).mpr heq] at hitem
      exact Option.some.inj hitem
    dsimp only
    by_cases hbundle : ability.1 = bundleName
    · rw [if_pos hbundle, mem_setAbilityDisabled_true]
      refine or_congr_right ⟨?_, ?_⟩
      · rintro ⟨rfl, hinstalled⟩
        exact ⟨(hinstalled.abilityOfItem item).mp hitem, hbundle, hinstalled⟩
      · rintro ⟨heq, -, hinstalled⟩
        obtain rfl := hsame hinstalled heq
        exact ⟨rfl, hinstalled⟩
    · rw [if_neg hbundle]
      refine (or_iff_left ?_).symm
      rintro ⟨heq, hname, hinstalled⟩
      exact hbundle (hsame hinstalled heq ▸ hname)

/-- The items of a bundle are disabled. -/
theorem mem_onBundleAdded (bundleName : String) (mergePolicyData : String) {x : Ability} :
    x ∈ onBundleAdded C installed bundleName disabled mergePolicyData ↔
      x ∈ disabled ∨ policyItem x ∈ (deserialize C mergePolicyData).getD [] ∧
        x.1 = bundleName ∧ Installed installed x.1 := by
  unfold onBundleAdded
  induction (deserialize C mergePolicyData).getD [] generalizing disabled with
  | nil => exact (or_iff_left fun h => List.not_mem_nil h.1).symm
  | cons item items ih =>
    rw [List.foldl_cons, ih, mem_disable_item, List.mem_cons, or_and_right, or_assoc]

theorem mem_without {bundle : String} {x : Ability} :
    x ∈ without bundle disabled ↔ x ∈ disabled ∧ x.1 ≠ bundle := Finset.mem_filter

theorem installed_insert {bundle : BundleName} {name : String} :
    Installed (insert bundle installed) name ↔ name = bundle.1 ∨ Installed installed name := by
  constructor
  · rintro ⟨b, hb, rfl⟩
    rcases Finset.mem_insert.mp hb with rfl | hb
    · exact .inl rfl
    · exact .inr ⟨b, hb, rfl⟩
  · rintro (rfl | ⟨b, hb, rfl⟩)
    · exact ⟨bundle, Finset.mem_insert_self bundle installed, rfl⟩
    · exact ⟨b, Finset.mem_insert_of_mem hb, rfl⟩

theorem installed_erase {bundle : BundleName} {name : String} :
    Installed (installed.erase bundle) name ↔ name ≠ bundle.1 ∧ Installed installed name := by
  constructor
  · rintro ⟨b, hb, rfl⟩
    obtain ⟨hne, hb⟩ := Finset.mem_erase.mp hb
    exact ⟨fun heq => hne (Subtype.ext heq), b, hb, rfl⟩
  · rintro ⟨hne, b, hb, rfl⟩
    exact ⟨b, Finset.mem_erase.mpr ⟨fun heq => hne (congrArg Subtype.val heq), hb⟩, rfl⟩

end BundleManager

/-! ### One operation -/

section Step

variable {C} {s : State} {admin : AdminName}

/-- Beside `InForce`: the texts are of lists, and the plugin has subscribed to its event while the
combined policy is not empty. -/
structure Good (C : CJson) (s : State) : Prop where
  texts : TextStore (IsText C) "set_ability_enabled" s.state.store
  subscribed : s.state.store.manager.policyValue "" "set_ability_enabled" ≠ "" →
    s.state.subscribed = true
  inForce : InForce C s

/-- An installation disables the abilities of the bundle that the combined policy has. -/
theorem mem_bundleAdded (h : Good C s) (bundle : BundleName) (x : Ability) :
    x ∈ (bundleAdded C s bundle).state.modules ↔
      Installed (insert bundle s.installed) x.1 ∧ policyItem x ∈ combined C s := by
  have hwithout : x ∈ without bundle s.state.modules ↔
      (Installed s.installed x.1 ∧ policyItem x ∈ combined C s) ∧ x.1 ≠ bundle :=
    mem_without.trans (and_congr_left' (h.inForce.disabled x))
  unfold bundleAdded
  dsimp only
  cases hsubscribed : s.state.subscribed with
  | true =>
    rw [if_pos rfl, mem_onBundleAdded, hwithout, installed_insert]
    show _ ∨ policyItem x ∈ combined C s ∧ _ ↔ _
    by_cases hx : x.1 = bundle.1
    · simp [hx]
    · simp [hx]
  | false =>
    have hvalue : s.state.store.manager.policyValue "" "set_ability_enabled" = "" :=
      by_contra fun hvalue => absurd (h.subscribed hvalue) (hsubscribed ▸ Bool.false_ne_true)
    have hnone : policyItem x ∉ combined C s := by
      rw [combined, hvalue]
      exact List.not_mem_nil
    rw [if_neg Bool.false_ne_true, hwithout]
    exact iff_of_false (fun hx => hnone hx.1.2) fun hx => hnone hx.2

theorem good_bundleAdded (h : Good C s) (bundle : BundleName) :
    Good C (bundleAdded C s bundle) where
  texts := h.texts
  subscribed := h.subscribed
  inForce := ⟨h.inForce.nodup, h.inForce.union, mem_bundleAdded h bundle⟩

theorem good_bundleRemoved (h : Good C s) (bundle : BundleName) :
    Good C (step C s (.bundleRemoved bundle)) where
  texts := h.texts
  subscribed := h.subscribed
  inForce := {
    nodup := h.inForce.nodup
    union := h.inForce.union
    disabled := fun x => by
      show x ∈ without bundle s.state.modules ↔
        Installed (s.installed.erase bundle) x.1 ∧ policyItem x ∈ combined C s
      rw [mem_without, h.inForce.disabled, installed_erase]
      exact and_comm.trans and_assoc.symm }

/-- What the handler starts from. -/
theorem handlePolicyData_text (h : Good C s) (admin : AdminName) :
    ∃ own : List String, own.Nodup ∧ (∀ item, item ∈ own ↔ item ∈ listed C s admin) ∧
      PluginManager.handlePolicyData (plugin C) s.state admin = ⟨serialize C own, "", false⟩ := by
  obtain ⟨own, hown, hvalue⟩ := h.texts.text admin.1
  refine ⟨own, hown, fun item => ?_, ?_⟩
  · rw [listed, itemsHeld, hvalue, itemsOf_serialize]
    exact Iff.rfl
  · show HandlePolicyData.mk (s.state.store.manager.policyValue admin "set_ability_enabled") _ _ = _
    rw [hvalue]
    rfl

/-- What a handler makes of an admin's list: it refuses, or it returns a list and the abilities that
are disabled then. -/
inductive Handled (installed : Finset BundleName) (disabled : Finset Ability) (ability : Ability)
    (isDisable : Bool) (own : List String) :
    ErrCode × Finset Ability × List String × List String → Prop
  | refused : Handled installed disabled ability isDisable own
      (EdmReturnErrCode.PARAMETER_VERIFICATION_FAILED, disabled, own, [])
  | same (h : policyItem ability ∈ own ↔ isDisable = true) :
      Handled installed disabled ability isDisable own
        (ERR_OK, disabled, sort own, setUnionPolicyData own [])
  | disabled (hinstalled : Installed installed ability.1) (hdisable : isDisable = true)
      (h : policyItem ability ∉ own) :
      Handled installed disabled ability isDisable own
        (ERR_OK, insert ability disabled, sort (own ++ [policyItem ability]),
          setUnionPolicyData (own ++ [policyItem ability]) [])
  | enabled (hinstalled : Installed installed ability.1) (hdisable : isDisable = false) :
      Handled installed disabled ability isDisable own
        (ERR_OK, disabled.erase ability, sort (own.filter (· ≠ policyItem ability)),
          setUnionPolicyData (own.filter (· ≠ policyItem ability)) [])

theorem handled_setPolicy (installed : Finset BundleName) (disabled : Finset Ability)
    (ability : Ability) (own : List String) : Handled installed disabled ability true own
      (setPolicy (bundleMgr installed ability) disabled ability own []) := by
  unfold setPolicy
  dsimp only
  by_cases hdata : policyItem ability ∈ own
  · rw [if_pos hdata]
    exact .same (iff_of_true hdata rfl)
  · rw [if_neg hdata, if_neg List.not_mem_nil]
    by_cases hinstalled : Installed installed ability.1
    · rw [setAbilityDisabled_installed hinstalled]
      exact .disabled hinstalled rfl hdata
    · rw [setAbilityDisabled_unknown hinstalled]
      exact .refused

theorem handled_removePolicy (installed : Finset BundleName) (disabled : Finset Ability)
    (ability : Ability) (own : List String) : Handled installed disabled ability false own
      (removePolicy (bundleMgr installed ability) disabled ability own []) := by
  unfold removePolicy
  dsimp only
  by_cases hdata : policyItem ability ∈ own
  · rw [if_neg (not_not.mpr hdata), if_neg List.not_mem_nil]
    by_cases hinstalled : Installed installed ability.1
    · rw [setAbilityDisabled_installed hinstalled]
      exact .enabled hinstalled rfl
    · rw [setAbilityDisabled_unknown hinstalled]
      exact .refused
  · rw [if_pos hdata]
    exact .same (iff_of_false hdata Bool.false_ne_true)

/-- A set calls one of the handlers. -/
theorem onHandlePolicy_set (disabled : Finset Ability) (own : List String) (ability : Ability)
    (isDisable : Bool) (installed : Finset BundleName) :
    ∃ result, Handled installed disabled ability isDisable own result ∧
      onHandlePolicy C disabled ⟨.set, ability, isDisable, bundleMgr installed ability⟩
          ⟨serialize C own, "", false⟩ =
        if failed result.1 then (result.1, result.2.1, ⟨serialize C own, "", false⟩)
        else (ERR_OK, result.2.1,
          ⟨serialize C result.2.2.1, serialize C result.2.2.2, true⟩) := by
  unfold onHandlePolicy
  dsimp only
  rw [deserialize_serialize]
  cases isDisable with
  | true => exact ⟨_, handled_setPolicy installed disabled ability own, rfl⟩
  | false => exact ⟨_, handled_removePolicy installed disabled ability own, rfl⟩

/-- What is left when a handler saves a list that has all the others' items. -/
theorem good_saved (h : Good C s) {t : State} {list : List String}
    (hsaved : Saved s.state.store t.state.store admin "set_ability_enabled"
      (serialize C (sort list)) (serialize C (setUnionPolicyData list [])))
    (hsubscribed : t.state.subscribed = (serialize C (setUnionPolicyData list []) != ""))
    (hnodup : list.Nodup)
    (hothers : ∀ item, item ∈ heldByOthers (listed C s) admin → item ∈ list)
    (hdisabled : ∀ x, x ∈ t.state.modules ↔ Installed t.installed x.1 ∧ policyItem x ∈ list) :
    Good C t := by
  have hunion : ∀ item, item ∈ setUnionPolicyData list [] ↔ item ∈ list := fun item => by
    rw [mem_setUnionPolicyData, or_iff_left List.not_mem_nil]
  have hunionNodup := nodup_setUnionPolicyData hnodup List.nodup_nil
  have hcombined : combined C t = setUnionPolicyData list [] := by
    rw [combined, hsaved.value_combined, deserialize_serialize]
    rfl
  refine ⟨h.texts.saved hsaved ⟨_, nodup_sort.mpr hnodup, rfl⟩ ⟨_, hunionNodup, rfl⟩, ?_, ?_⟩
  · rw [hsaved.value_combined, hsubscribed]
    exact bne_iff_ne.mpr
  · refine ⟨hcombined ▸ hunionNodup, fun item => ?_, fun x => ?_⟩
    · have hheld : item ∈ held (listed C t) ↔
          item ∈ heldByOthers (listed C s) admin ∨ item ∈ list := by
        rw [held_saved hsaved, itemsOf_serialize]
        exact or_congr_right mem_sort
      rw [hcombined, hunion, hheld]
      exact (or_iff_right_of_imp (hothers item)).symm
    · rw [hcombined, hunion]
      exact hdisabled x

/-- A request that is refused. -/
theorem good_refused (h : Good C s) {t : State} (hmodules : t.state.modules = s.state.modules)
    (hstore : t.state.store = s.state.store) (hsubscribed : t.state.subscribed = s.state.subscribed)
    (hinstalled : t.installed = s.installed) : Good C t := by
  obtain ⟨⟨store, modules, subscribed⟩, installed⟩ := t
  obtain rfl : modules = s.state.modules := hmodules
  obtain rfl : store = s.state.store := hstore
  obtain rfl : subscribed = s.state.subscribed := hsubscribed
  obtain rfl : installed = s.installed := hinstalled
  exact h

/-- What the combined policy has when the admin has all items of the others. -/
theorem InForce.mem_disabled (h : InForce C s) {own : List String}
    (hown : ∀ item, item ∈ own ↔ item ∈ listed C s admin) (x : Ability) :
    x ∈ s.state.modules ↔ Installed s.installed x.1 ∧
      (policyItem x ∈ heldByOthers (listed C s) admin ∨ policyItem x ∈ own) := by
  rw [h.disabled, h.union, held_eq (listed C s) admin, hown]
  exact Iff.rfl

theorem good_handled (h : Good C s) {ability : Ability} {isDisable : Bool} {list : List String}
    {disabled : Finset Ability}
    (hcall : onHandlePolicy C s.state.modules
      ⟨.set, ability, isDisable, bundleMgr s.installed ability⟩
      (PluginManager.handlePolicyData (plugin C) s.state admin) =
        (ERR_OK, disabled,
          ⟨serialize C (sort list), serialize C (setUnionPolicyData list []), true⟩))
    (hnodup : list.Nodup)
    (hothers : ∀ item, item ∈ heldByOthers (listed C s) admin → item ∈ list)
    (hdisabled : ∀ x, x ∈ disabled ↔ Installed s.installed x.1 ∧ policyItem x ∈ list) :
    Good C (step C s (.update admin ⟨.done, .done⟩ .set ability isDisable)) := by
  obtain ⟨hmodules, hsaved, hsubscribed⟩ := update_saved (plugin C) admin h.texts.good
    policyName_ne rfl ⟨.set, ability, isDisable, bundleMgr s.installed ability⟩ hcall
  refine good_saved h hsaved hsubscribed hnodup hothers fun x => ?_
  have hstep : (step C s (.update admin ⟨.done, .done⟩ .set ability isDisable)).state.modules =
      disabled := hmodules
  rw [hstep]
  exact hdisabled x

/-- A request that is accepted, where it changes nothing for the bundle manager. -/
theorem good_same (h : Good C s) {ability : Ability} {isDisable : Bool} {own : List String}
    (hnodup : own.Nodup) (hown : ∀ item, item ∈ own ↔ item ∈ listed C s admin)
    (hkeeps : Keeps C s (.update admin ⟨.done, .done⟩ .set ability isDisable))
    (hitem : policyItem ability ∈ own ↔ isDisable = true)
    (hcall : onHandlePolicy C s.state.modules
      ⟨.set, ability, isDisable, bundleMgr s.installed ability⟩
      (PluginManager.handlePolicyData (plugin C) s.state admin) =
        (ERR_OK, s.state.modules,
          ⟨serialize C (sort own), serialize C (setUnionPolicyData own []), true⟩)) :
    Good C (step C s (.update admin ⟨.done, .done⟩ .set ability isDisable)) := by
  have hothers : ∀ item, item ∈ heldByOthers (listed C s) admin → item ∈ own := by
    intro item hheld
    have hkept := hkeeps.2 rfl item hheld
    rw [← hown, ← hown] at hkept
    cases isDisable with
    | true =>
      rcases hkept (.inl (hitem.mpr rfl)) with hmem | rfl
      · exact hmem
      · exact hitem.mpr rfl
    | false => exact (hkept (.inl fun hmem => Bool.false_ne_true (hitem.mp hmem))).1
  refine good_handled h hcall hnodup hothers fun x => ?_
  rw [h.inForce.mem_disabled hown]
  exact and_congr_right fun _ => or_iff_right_of_imp (hothers _)

/-- A request that disables an ability. -/
theorem good_disabled (h : Good C s) {ability : Ability} {own : List String}
    (hnodup : own.Nodup) (hown : ∀ item, item ∈ own ↔ item ∈ listed C s admin)
    (hkeeps : Keeps C s (.update admin ⟨.done, .done⟩ .set ability true))
    (hinstalled : Installed s.installed ability.1) (hitem : policyItem ability ∉ own)
    (hcall : onHandlePolicy C s.state.modules ⟨.set, ability, true, bundleMgr s.installed ability⟩
      (PluginManager.handlePolicyData (plugin C) s.state admin) =
        (ERR_OK, insert ability s.state.modules,
          ⟨serialize C (sort (own ++ [policyItem ability])),
            serialize C (setUnionPolicyData (own ++ [policyItem ability]) []), true⟩)) :
    Good C (step C s (.update admin ⟨.done, .done⟩ .set ability true)) := by
  have hothers : ∀ item, item ∈ heldByOthers (listed C s) admin →
      item ∈ own ++ [policyItem ability] := by
    intro item hheld
    have hkept := hkeeps.2 rfl item hheld
    rw [← hown, ← hown] at hkept
    exact List.mem_append.mpr ((hkept (.inr hinstalled)).imp_right List.mem_singleton.mpr)
  have hnodup' : (own ++ [policyItem ability]).Nodup := by
    refine List.nodup_append.mpr ⟨hnodup, List.nodup_singleton _, ?_⟩
    rintro a ha b hb rfl
    exact hitem (List.mem_singleton.mp hb ▸ ha)
  refine good_handled h hcall hnodup' hothers fun x => ?_
  rw [Finset.mem_insert, h.inForce.mem_disabled hown]
  constructor
  · rintro (rfl | ⟨hx, hheld | hmem⟩)
    · exact ⟨hinstalled, List.mem_append_right _ (List.mem_singleton.mpr rfl)⟩
    · exact ⟨hx, hothers _ hheld⟩
    · exact ⟨hx, List.mem_append_left _ hmem⟩
  · rintro ⟨hx, hmem⟩
    rcases List.mem_append.mp hmem with hmem | hmem
    · exact .inr ⟨hx, .inr hmem⟩
    · exact .inl ((policyItem_inj hx.notMem hinstalled.notMem).mp (List.mem_singleton.mp hmem))

/-- A request that enables an ability. -/
theorem good_enabled (h : Good C s) {ability : Ability} {own : List String}
    (hnodup : own.Nodup) (hown : ∀ item, item ∈ own ↔ item ∈ listed C s admin)
    (hkeeps : Keeps C s (.update admin ⟨.done, .done⟩ .set ability false))
    (hinstalled : Installed s.installed ability.1)
    (hcall : onHandlePolicy C s.state.modules ⟨.set, ability, false, bundleMgr s.installed ability⟩
      (PluginManager.handlePolicyData (plugin C) s.state admin) =
        (ERR_OK, s.state.modules.erase ability,
          ⟨serialize C (sort (own.filter (· ≠ policyItem ability))),
            serialize C (setUnionPolicyData (own.filter (· ≠ policyItem ability)) []), true⟩)) :
    Good C (step C s (.update admin ⟨.done, .done⟩ .set ability false)) := by
  have hothers : ∀ item, item ∈ heldByOthers (listed C s) admin →
      item ∈ own.filter (· ≠ policyItem ability) := by
    intro item hheld
    have hkept := hkeeps.2 rfl item hheld
    rw [← hown, ← hown] at hkept
    obtain ⟨hmem, hne⟩ := hkept (.inr hinstalled)
    exact List.mem_filter.mpr ⟨hmem, decide_eq_true hne⟩
  refine good_handled h hcall (hnodup.filter _) hothers fun x => ?_
  rw [Finset.mem_erase, h.inForce.mem_disabled hown]
  constructor
  · rintro ⟨hne, hx, hheld | hmem⟩
    · exact ⟨hx, hothers _ hheld⟩
    · refine ⟨hx, List.mem_filter.mpr ⟨hmem, decide_eq_true fun heq => hne ?_⟩⟩
      exact (policyItem_inj hx.notMem hinstalled.notMem).mp heq
  · rintro ⟨hx, hmem⟩
    obtain ⟨hmem, hne⟩ := List.mem_filter.mp hmem
    refine ⟨?_, hx, .inr hmem⟩
    rintro rfl
    exact of_decide_eq_true hne rfl

theorem good_set (h : Good C s) {ability : Ability} {isDisable : Bool}
    (hkeeps : Keeps C s (.update admin ⟨.done, .done⟩ .set ability isDisable)) :
    Good C (step C s (.update admin ⟨.done, .done⟩ .set ability isDisable)) := by
  obtain ⟨own, hnodup, hown, hdata⟩ := handlePolicyData_text h admin
  obtain ⟨result, hhandled, hcall⟩ := onHandlePolicy_set (C := C) s.state.modules own ability
    isDisable s.installed
  have hok : ¬ failed ERR_OK = true := by decide
  rw [← hdata] at hcall
  cases hhandled with
  | refused =>
    have hrefused : failed EdmReturnErrCode.PARAMETER_VERIFICATION_FAILED = true := by decide
    have hstep : policyStep (plugin C) s.state
        (policyOp s.installed admin ⟨.done, .done⟩ .set ability isDisable) = s.state :=
      congrArg Prod.snd (PluginManager.updateDevicePolicy_failed (hcall.trans (if_pos hrefused))
        hrefused)
    exact good_refused h (congrArg PluginState.modules hstep) (congrArg PluginState.store hstep)
      (congrArg PluginState.subscribed hstep) rfl
  | same hitem => exact good_same h hnodup hown hkeeps hitem (hcall.trans (if_neg hok))
  | disabled hinstalled hdisable hitem =>
    subst hdisable
    exact good_disabled h hnodup hown hkeeps hinstalled hitem (hcall.trans (if_neg hok))
  | enabled hinstalled hdisable =>
    subst hdisable
    exact good_enabled h hnodup hown hkeeps hinstalled (hcall.trans (if_neg hok))

theorem good_update (h : Good C s) {type : FuncOperateType} {ability : Ability} {isDisable : Bool}
    (hkeeps : Keeps C s (.update admin ⟨.done, .done⟩ type ability isDisable)) :
    Good C (step C s (.update admin ⟨.done, .done⟩ type ability isDisable)) := by
  by_cases htype : type = .set
  · subst htype
    exact good_set h hkeeps
  · have hcall : onHandlePolicy C s.state.modules
        ⟨type, ability, isDisable, bundleMgr s.installed ability⟩
        (PluginManager.handlePolicyData (plugin C) s.state admin) =
          (EdmReturnErrCode.SYSTEM_ABNORMALLY, s.state.modules,
            PluginManager.handlePolicyData (plugin C) s.state admin) :=
      if_pos (bne_iff_ne.mpr htype)
    have hstep : policyStep (plugin C) s.state
        (policyOp s.installed admin ⟨.done, .done⟩ type ability isDisable) = s.state :=
      congrArg Prod.snd (PluginManager.updateDevicePolicy_failed hcall (by decide))
    exact good_refused h (congrArg PluginState.modules hstep) (congrArg PluginState.store hstep)
      (congrArg PluginState.subscribed hstep) rfl

theorem good_removeAdmin (h : Good C s)
    (hkeeps : Keeps C s (.removeAdmin admin ⟨.done, .done⟩)) :
    Good C (step C s (.removeAdmin admin ⟨.done, .done⟩)) := by
  rcases policyStep_removeAdmin_cases (plugin C) admin h.texts.good policyName_ne rfl
    (answers s.installed) with ⟨-, hstep⟩ | ⟨hvalue, hmodules, hsaved⟩
  · exact good_refused h (congrArg PluginState.modules hstep) (congrArg PluginState.store hstep)
      (congrArg PluginState.subscribed hstep) rfl
  · obtain ⟨own, hnodup, hown, hdata⟩ := handlePolicyData_text h admin
    have hnone := hkeeps.2 hvalue
    have hcombined : combined C (step C s (.removeAdmin admin ⟨.done, .done⟩)) = [] :=
      congrArg (fun text => (deserialize C text).getD []) hsaved.value_combined
    have hvalue : s.state.store.manager.policyValue admin "set_ability_enabled" = serialize C own :=
      congrArg HandlePolicyData.policyData hdata
    refine ⟨h.texts.saved hsaved isText_empty isText_empty,
      fun hne => absurd hsaved.value_combined hne, hcombined ▸ List.nodup_nil, fun item => ?_,
      fun x => ?_⟩
    · have hheld : held (listed C (step C s (.removeAdmin admin ⟨.done, .done⟩))) =
          heldByOthers (listed C s) admin ∪ itemsOf C "" := held_saved hsaved
      rw [hcombined, hheld, hnone, itemsOf_empty, Set.union_empty]
      exact iff_of_false List.not_mem_nil (Set.notMem_empty item)
    · have hitems : x ∈ (step C s (.removeAdmin admin ⟨.done, .done⟩)).state.modules ↔
          x ∈ s.state.modules ∧ ¬(policyItem x ∈ own ∧ Installed s.installed x.1) := by
        have hstep : (step C s (.removeAdmin admin ⟨.done, .done⟩)).state.modules =
          (onAdminRemove C s.state.modules (answers s.installed) (serialize C own) "").2 := by
          rw [← hvalue]
          exact hmodules
        have hdifference : ∀ item, item ∈ setDifferencePolicyData [] own ↔ item ∈ own := by
          intro item
          rw [mem_setDifferencePolicyData hnodup]
          exact and_iff_left List.not_mem_nil
        rw [hstep, onAdminRemove, deserialize_serialize]
        dsimp only
        exact (mem_enable_items _).trans
          (and_congr_right' (not_congr (and_congr_left' (hdifference _))))
      rw [hcombined, hitems, h.inForce.mem_disabled hown, hnone]
      refine iff_of_false ?_ fun hx => List.not_mem_nil hx.2
      rintro ⟨⟨hx, hheld | hmem⟩, hkept⟩
      · exact hheld
      · exact hkept ⟨hmem, hx⟩

theorem good_step (h : Good C s) (op : Op) (hkeeps : Keeps C s op) : Good C (step C s op) := by
  cases op with
  | update admin writes type ability isDisable =>
    obtain rfl : writes = ⟨.done, .done⟩ := hkeeps.1
    exact good_update h hkeeps
  | removeAdmin admin writes =>
    obtain rfl : writes = ⟨.done, .done⟩ := hkeeps.1
    exact good_removeAdmin h hkeeps
  | bundleAdded bundle appIndex =>
    unfold step
    dsimp only
    split
    · exact h
    · exact good_bundleAdded h bundle
  | bundleRemoved bundle => exact good_bundleRemoved h bundle

/-- A policy operation of an admin leaves the others' items and the installed applications. -/
theorem right_of_inForce (h : InForce C s) (op : PolicyOp Request (String → BundleMgr))
    {t : State} (ht : InForce C t) (hstate : t.state = policyStep (plugin C) s.state op)
    (hinstalled : t.installed = s.installed) {other : AdminName} (hother : other ≠ op.admin)
    {ability : Ability} (hlisted : policyItem ability ∈ listed C s other)
    (hdisabled : ability ∈ s.state.modules) : ability ∈ t.state.modules := by
  refine (ht.disabled ability).mpr ⟨hinstalled ▸ ((h.disabled ability).mp hdisabled).1, ?_⟩
  refine (ht.union _).mpr ⟨other, ?_⟩
  have hvalue := policyStep_value_other (plugin C) policyName_ne s.state op hother
  rw [listed, itemsHeld, hstate]
  exact (congrArg (itemsOf C) hvalue).symm ▸ hlisted

theorem right_step (h : Good C s) (op : Op) (hkeeps : Keeps C s op) : Right C s op := by
  have hgood := good_step h op hkeeps
  rintro admin (⟨writes, type, ability, isDisable, rfl⟩ | ⟨writes, rfl⟩) other ability hne hlisted
    hdisabled
  · exact right_of_inForce h.inForce (policyOp s.installed admin writes type _ isDisable)
      hgood.inForce rfl rfl hne hlisted hdisabled
  · exact right_of_inForce h.inForce (.removeAdmin admin writes (answers s.installed)) hgood.inForce
      rfl rfl hne hlisted hdisabled

theorem good_boot (C : CJson) (installed : Finset BundleName) (userId : Int) :
    Good C (boot installed userId) := by
  have hvalue := policyValue_new userId "" "set_ability_enabled"
  have hcombined : combined C (boot installed userId) = [] := by
    show (deserialize C ((UserPolicyManager.new userId).policyValue "" _)).getD [] = []
    rw [hvalue]
    rfl
  have hheld : held (listed C (boot installed userId)) = ∅ := held_new itemsOf_empty userId
  refine ⟨textStore_new isText_empty userId, fun hne => absurd hvalue hne,
    hcombined ▸ List.nodup_nil, fun item => ?_, fun x => ?_⟩
  · rw [hcombined, hheld]
    exact iff_of_false List.not_mem_nil (Set.notMem_empty item)
  · rw [hcombined]
    exact iff_of_false (Finset.notMem_empty x) fun hx => List.not_mem_nil hx.2

end Step

/-- In a run whose operations all meet `Keeps`, the abilities that are disabled are those of the
combined policy throughout. -/
theorem disabledAbilities_inForce (C : CJson) (installed : Finset BundleName) (userId : Int) (ops : List Op)
    (h : Each (step C) (Keeps C) (boot installed userId) ops) :
    Always (step C) (InForce C) (boot installed userId) ops ∧
      Each (step C) (Right C) (boot installed userId) ops := by
  have hstep : ∀ s op, Good C s → Keeps C s op → Good C (step C s op) :=
    fun s op hs hkeeps => good_step hs op hkeeps
  have hright : ∀ s op, Good C s → Keeps C s op → Right C s op :=
    fun s op hs hkeeps => right_step hs op hkeeps
  exact ⟨(always_of_each hstep (good_boot C installed userId) h).mono fun s hs => hs.inForce,
    each_of_each hstep hright (good_boot C installed userId) h⟩

def app : BundleName := ⟨"com.app", by decide⟩

def setOp (admin : AdminName) (abilityName : String) (isDisable : Bool) : Op :=
  .update admin ⟨.done, .done⟩ .set (app.1, abilityName) isDisable

/-- An admin disables an ability of an application that is installed anew. -/
theorem always_inForce_reinstalled :
    Always (step .standard) (InForce .standard) (boot ∅ 100)
        [.bundleAdded app 0, setOp firstAdmin "Main" true, .bundleRemoved app, .bundleAdded app 0] ∧
      Each (step .standard) (Right .standard) (boot ∅ 100)
        [.bundleAdded app 0, setOp firstAdmin "Main" true, .bundleRemoved app,
          .bundleAdded app 0] := by
  refine disabledAbilities_inForce .standard ∅ 100 _ ⟨trivial, ⟨rfl, fun _ item hitem => ?_⟩, trivial, trivial,
    trivial⟩
  obtain ⟨other, -, hitem⟩ := hitem
  have hnone : listed .standard (boot ∅ 100) other = ∅ := itemsHeld_new itemsOf_empty 100 other
  exact absurd (hnone ▸ hitem : item ∈ (∅ : Set String)) (Set.notMem_empty item)

/-- The combined policy has what the last admin disables. -/
theorem second_admin_replaces_combined :
    ¬ ∀ (C : CJson) (installed : Finset BundleName) (userId : Int) (ops : List Op),
      Always (step C) (InForce C) (boot installed userId) ops := by
  intro h
  have hlast : InForce .standard (run (step .standard) (boot {app} 100)
      [setOp firstAdmin "Main" true, setOp secondAdmin "Settings" true]) :=
    (h .standard {app} 100 [setOp firstAdmin "Main" true, setOp secondAdmin "Settings" true]).2.2
  have hmain : (app.1, "Main") ∈ (run (step .standard) (boot {app} 100)
      [setOp firstAdmin "Main" true, setOp secondAdmin "Settings" true]).state.modules := by
    decide +kernel
  have hcombined : policyItem (app.1, "Main") ∉ combined .standard (run (step .standard)
      (boot {app} 100) [setOp firstAdmin "Main" true, setOp secondAdmin "Settings" true]) := by
    decide +kernel
  exact hcombined ((hlast.disabled _).mp hmain).2

end Edm.SetAbilityDisablePlugin
