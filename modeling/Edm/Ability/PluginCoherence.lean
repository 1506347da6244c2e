import Edm.Ability.PluginRegistry

/-! What it is for the registry of plugins to be coherent, and when the registration of a plugin or of
an extension keeps it so: the plugin takes both its code and its name, or neither of them. -/

set_option autoImplicit false

namespace Edm

open Library Library.UnorderedMap

namespace PluginRegistry

variable {Id : Type}

/-! ### Coherence -/

/-- A plugin that is registered under a code. -/
def Registered (s : PluginRegistry Id) (plugin : Id) : Prop :=
  ∃ code, s.pluginsCode.lookup code = some plugin

/-- Nothing refers to a plugin of a library.  `codes` are the codes that its plugins were registered
under. -/
structure ReferencesGone (info : Id → PluginInfo) (soName : String) (codes : Finset Nat)
    (s : PluginRegistry Id) : Prop where
  pluginsCode : ∀ code plugin, s.pluginsCode.lookup code = some plugin →
    (info plugin).soName ≠ soName
  pluginsName : ∀ policyName plugin, s.pluginsName.lookup policyName = some plugin →
    (info plugin).soName ≠ soName
  extensionPluginMap : ∀ code extensionCode,
    s.extensionPluginMap.lookup code = some extensionCode → code ∉ codes ∧ extensionCode ∉ codes
  extensionPlugin : ∀ plugin extension, s.extensionPlugin plugin = some extension →
    (info extension).soName ≠ soName
  basicPluginCode : ∀ plugin, s.Registered plugin → s.pluginType plugin = .extension →
    s.basicPluginCode plugin ∉ codes

/-- Both maps hold the same plugins. -/
def SamePlugins (s : PluginRegistry Id) : Prop :=
  ∀ plugin, s.Registered plugin ↔ ∃ policyName, s.pluginsName.lookup policyName = some plugin

/-- A link from a plugin to its extension joins registered plugins. -/
def Linked (s : PluginRegistry Id) : Prop :=
  ∀ plugin extension, s.extensionPlugin plugin = some extension →
    s.Registered plugin ∧ s.Registered extension

/-- The extension that is recorded for a registered plugin is registered. -/
def Recorded (s : PluginRegistry Id) : Prop :=
  ∀ code extensionCode, s.extensionPluginMap.lookup code = some extensionCode →
    s.pluginsCode.lookup code ≠ none → s.pluginsCode.lookup extensionCode ≠ none

/-- The maps and the links agree, and nothing refers to the library that was just unloaded. -/
structure Coherent (info : Id → PluginInfo) (s : PluginRegistry Id) : Prop where
  samePlugins : s.SamePlugins
  linked : s.Linked
  recorded : s.Recorded
  unloaded : ∀ soName codes, s.unloaded = some (soName, codes) →
    ReferencesGone info soName codes s

/-- Every plugin stands under its own code and its own name. -/
structure Keyed (info : Id → PluginInfo) (s : PluginRegistry Id) : Prop where
  code : ∀ code plugin, s.pluginsCode.lookup code = some plugin → (info plugin).code = code
  policyName : ∀ policyName plugin, s.pluginsName.lookup policyName = some plugin →
    (info plugin).policyName = policyName

variable {info : Id → PluginInfo} {soCodes : String → Option (List Nat)} {s : PluginRegistry Id}

theorem Keyed.registered_iff (h : Keyed info s) {plugin : Id} :
    s.Registered plugin ↔ s.pluginsCode.lookup (info plugin).code = some plugin := by
  constructor
  · rintro ⟨code, hcode⟩
    rwa [h.code code plugin hcode]
  · exact fun hcode => ⟨_, hcode⟩

theorem Keyed.named_iff (h : Keyed info s) {plugin : Id} :
    (∃ policyName, s.pluginsName.lookup policyName = some plugin) ↔
      s.pluginsName.lookup (info plugin).policyName = some plugin := by
  constructor
  · rintro ⟨policyName, hname⟩
    rwa [h.policyName policyName plugin hname]
  · exact fun hname => ⟨_, hname⟩

theorem keyed_boot (pluginUnloadFlag : Id → Bool) : Keyed info (boot pluginUnloadFlag) where
  code code plugin h := by
    rw [boot, Finmap.lookup_empty] at h
    exact nomatch h
  policyName policyName plugin h := by
    rw [boot, Finmap.lookup_empty] at h
    exact nomatch h

theorem coherent_boot (pluginUnloadFlag : Id → Bool) : Coherent info (boot pluginUnloadFlag) where
  samePlugins plugin := by simp [Registered, boot]
  linked _ _ h := nomatch h
  recorded code extensionCode h := by
    rw [boot, Finmap.lookup_empty] at h
    exact nomatch h
  unloaded _ _ h := nomatch h

/-! ### Registering a plugin -/

/-- The code of the plugin is free, or its own. -/
def CodeFree (info : Id → PluginInfo) (s : PluginRegistry Id) (plugin : Id) : Prop :=
  s.pluginsCode.lookup (info plugin).code = none ∨
    s.pluginsCode.lookup (info plugin).code = some plugin

def NameFree (info : Id → PluginInfo) (s : PluginRegistry Id) (plugin : Id) : Prop :=
  s.pluginsName.lookup (info plugin).policyName = none ∨
    s.pluginsName.lookup (info plugin).policyName = some plugin

/-- The condition on a plugin that is registered: its code and its name are both free for it or both
taken, and the extension that is recorded for its code is linked to it when it takes the code, and is
there when it is new under the code. -/
structure AddKeeps (info : Id → PluginInfo) (s : PluginRegistry Id) (plugin : Id) : Prop where
  same : CodeFree info s plugin ↔ NameFree info s plugin
  linked : ∀ extensionCode, s.extensionPluginMap.lookup (info plugin).code = some extensionCode →
    (s.pluginsCode.lookup extensionCode ≠ none ∨ extensionCode = (info plugin).code) →
    CodeFree info s plugin
  recorded : ∀ extensionCode, s.extensionPluginMap.lookup (info plugin).code = some extensionCode →
    s.pluginsCode.lookup (info plugin).code = none →
    s.pluginsCode.lookup extensionCode ≠ none ∨ extensionCode = (info plugin).code

theorem lookup_pluginsCode_insertPlugin (plugin : Id) (code : Nat) :
    (s.insertPlugin info plugin).pluginsCode.lookup code =
      (s.pluginsCode.lookup code).or (if code = (info plugin).code then some plugin else none) :=
  lookup_insertNew ..

theorem lookup_pluginsName_insertPlugin (plugin : Id) (policyName : String) :
    (s.insertPlugin info plugin).pluginsName.lookup policyName =
      (s.pluginsName.lookup policyName).or
        (if policyName = (info plugin).policyName then some plugin else none) :=
  lookup_insertNew ..

/-- A plugin is registered after an insertion if it was before or has taken its code. -/
theorem registered_insertPlugin (plugin other : Id) :
    (s.insertPlugin info plugin).Registered other ↔
      s.Registered other ∨ other = plugin ∧ CodeFree info s plugin := by
  have hlookup := @lookup_pluginsCode_insertPlugin Id info s plugin
  constructor
  · rintro ⟨code, hcode⟩
    rw [hlookup] at hcode
    rcases Option.or_eq_some_iff.mp hcode with hold | ⟨hnone, hnew⟩
    · exact .inl ⟨code, hold⟩
    · split at hnew
      · rename_i hkey
        subst hkey
        exact .inr ⟨(Option.some.inj hnew).symm, .inl hnone⟩
      · exact nomatch hnew
  · rintro (⟨code, hcode⟩ | ⟨rfl, hnone | hown⟩)
    · exact ⟨code, by rw [hlookup, hcode]; rfl⟩
    · exact ⟨(info other).code, by rw [hlookup, hnone, if_pos rfl]; rfl⟩
    · exact ⟨(info other).code, by rw [hlookup, hown]; rfl⟩

theorem named_insertPlugin (plugin other : Id) :
    (∃ policyName, (s.insertPlugin info plugin).pluginsName.lookup policyName = some other) ↔
      (∃ policyName, s.pluginsName.lookup policyName = some other) ∨
        other = plugin ∧ NameFree info s plugin := by
  have hlookup := @lookup_pluginsName_insertPlugin Id info s plugin
  constructor
  · rintro ⟨policyName, hname⟩
    rw [hlookup] at hname
    rcases Option.or_eq_some_iff.mp hname with hold | ⟨hnone, hnew⟩
    · exact .inl ⟨policyName, hold⟩
    · split at hnew
      · rename_i hkey
        subst hkey
        exact .inr ⟨(Option.some.inj hnew).symm, .inl hnone⟩
      · exact nomatch hnew
  · rintro (⟨policyName, hname⟩ | ⟨rfl, hnone | hown⟩)
    · exact ⟨policyName, by rw [hlookup, hname]; rfl⟩
    · exact ⟨(info other).policyName, by rw [hlookup, hnone, if_pos rfl]; rfl⟩
    · exact ⟨(info other).policyName, by rw [hlookup, hown]; rfl⟩

theorem keyed_insertPlugin (h : Keyed info s) (plugin : Id) :
    Keyed info (s.insertPlugin info plugin) where
  code code other hcode := by
    rw [lookup_pluginsCode_insertPlugin] at hcode
    rcases Option.or_eq_some_iff.mp hcode with hold | ⟨-, hnew⟩
    · exact h.code code other hold
    · split at hnew
      · rename_i hkey
        rw [hkey, Option.some.inj hnew]
      · exact nomatch hnew
  policyName policyName other hname := by
    rw [lookup_pluginsName_insertPlugin] at hname
    rcases Option.or_eq_some_iff.mp hname with hold | ⟨-, hnew⟩
    · exact h.policyName policyName other hold
    · split at hnew
      · rename_i hkey
        rw [hkey, Option.some.inj hnew]
      · exact nomatch hnew

theorem pluginsCode_insertPlugin_ne_none (plugin : Id) (code : Nat) :
    (s.insertPlugin info plugin).pluginsCode.lookup code ≠ none ↔
      s.pluginsCode.lookup code ≠ none ∨ code = (info plugin).code := by
  rw [lookup_pluginsCode_insertPlugin, ne_eq, Option.or_eq_none_iff]
  by_cases hkey : code = (info plugin).code
  · simp [hkey]
  · simp [hkey]

theorem CodeFree.of_registered (h : Keyed info s) {plugin : Id} (hplugin : s.Registered plugin) :
    CodeFree info s plugin :=
  .inr (h.registered_iff.mp hplugin)

theorem samePlugins_insertPlugin (h : Keyed info s) (hsame : s.SamePlugins) (plugin : Id) :
    (s.insertPlugin info plugin).SamePlugins ↔ (CodeFree info s plugin ↔ NameFree info s plugin) := by
  have hnamed : (∃ policyName, s.pluginsName.lookup policyName = some plugin) →
      NameFree info s plugin := fun hname => .inr (h.named_iff.mp hname)
  constructor
  · intro hnew
    have hplugin := hnew plugin
    rw [registered_insertPlugin, named_insertPlugin] at hplugin
    constructor
    · intro hfree
      exact (hplugin.mp (.inr ⟨rfl, hfree⟩)).elim hnamed And.right
    · intro hfree
      exact (hplugin.mpr (.inr ⟨rfl, hfree⟩)).elim (CodeFree.of_registered h) And.right
  · intro hfree other
    rw [registered_insertPlugin, named_insertPlugin, hsame other, hfree]

theorem recorded_insertPlugin (hrecorded : s.Recorded) (plugin : Id) :
    (s.insertPlugin info plugin).Recorded ↔
      ∀ extensionCode, s.extensionPluginMap.lookup (info plugin).code = some extensionCode →
        s.pluginsCode.lookup (info plugin).code = none →
        s.pluginsCode.lookup extensionCode ≠ none ∨ extensionCode = (info plugin).code := by
  constructor
  · intro hnew extensionCode hentry _
    have hcode := (pluginsCode_insertPlugin_ne_none plugin (info plugin).code).mpr
      (.inr rfl : s.pluginsCode.lookup (info plugin).code ≠ none ∨ _)
    exact (pluginsCode_insertPlugin_ne_none plugin extensionCode).mp
      (hnew (info plugin).code extensionCode hentry hcode)
  · intro hcond code extensionCode hentry hcode
    rw [pluginsCode_insertPlugin_ne_none] at hcode ⊢
    by_cases hold : s.pluginsCode.lookup code = none
    · obtain rfl := hcode.resolve_left (not_not_intro hold)
      exact hcond extensionCode hentry hold
    · exact .inl (hrecorded code extensionCode hentry hold)

/-! ### Linking a plugin -/

/-- Two registries with the same maps. -/
structure SameMaps (s s' : PluginRegistry Id) : Prop where
  pluginsCode : s'.pluginsCode = s.pluginsCode
  pluginsName : s'.pluginsName = s.pluginsName

theorem SameMaps.keyed {s s' : PluginRegistry Id} (h : SameMaps s s') (hs : Keyed info s) :
    Keyed info s' where
  code code plugin hcode := hs.code code plugin (h.pluginsCode ▸ hcode)
  policyName policyName plugin hname := hs.policyName policyName plugin (h.pluginsName ▸ hname)

theorem SameMaps.registered {s s' : PluginRegistry Id} (h : SameMaps s s') (plugin : Id) :
    s'.Registered plugin ↔ s.Registered plugin := by
  rw [Registered, Registered, h.pluginsCode]

theorem SameMaps.samePlugins {s s' : PluginRegistry Id} (h : SameMaps s s') :
    s'.SamePlugins ↔ s.SamePlugins := by
  unfold SamePlugins
  simp only [h.registered, h.pluginsName]

variable [DecidableEq Id]

theorem addPlugin_maps (plugin : Id) :
    SameMaps (s.insertPlugin info plugin) (s.addPlugin info (some plugin)).2 := by
  unfold addPlugin
  dsimp only
  split <;> exact ⟨rfl, rfl⟩

theorem addPlugin_extensionPluginMap (plugin : Id) :
    (s.addPlugin info (some plugin)).2.extensionPluginMap = s.extensionPluginMap := by
  unfold addPlugin
  dsimp only
  split <;> rfl

theorem addPlugin_extensionPlugin (plugin other : Id) :
    (s.addPlugin info (some plugin)).2.extensionPlugin other =
      match s.extensionPluginMap.lookup (info plugin).code with
      | none => s.extensionPlugin other
      | some extensionCode =>
        if other = plugin then (s.insertPlugin info plugin).pluginsCode.lookup extensionCode
        else s.extensionPlugin other := by
  unfold addPlugin
  dsimp only
  show (setExecuteStrategy _ plugin _).extensionPlugin other = _
  have hmap : (s.insertPlugin info plugin).extensionPluginMap = s.extensionPluginMap := rfl
  rw [hmap]
  cases s.extensionPluginMap.lookup (info plugin).code with
  | none => rfl
  | some extensionCode => exact Function.update_apply ..

theorem addPlugin_recorded (plugin : Id) :
    (s.addPlugin info (some plugin)).2.Recorded ↔ (s.insertPlugin info plugin).Recorded := by
  unfold Recorded
  rw [(addPlugin_maps plugin).pluginsCode, addPlugin_extensionPluginMap]
  exact Iff.rfl

theorem addPlugin_linked (h : Keyed info s) (hlinked : s.Linked) (plugin : Id) :
    (s.addPlugin info (some plugin)).2.Linked ↔
      ∀ extensionCode, s.extensionPluginMap.lookup (info plugin).code = some extensionCode →
        (s.pluginsCode.lookup extensionCode ≠ none ∨ extensionCode = (info plugin).code) →
        CodeFree info s plugin := by
  have hregistered := (@addPlugin_maps Id info s _ plugin).registered
  constructor
  · intro hnew extensionCode hentry hthere
    obtain ⟨extension, hextension⟩ := Option.ne_none_iff_exists'.mp
      ((pluginsCode_insertPlugin_ne_none plugin extensionCode).mpr hthere)
    have hlink : (s.addPlugin info (some plugin)).2.extensionPlugin plugin = some extension := by
      rw [addPlugin_extensionPlugin, hentry]
      show (if plugin = plugin then _ else _) = _
      rw [if_pos rfl, hextension]
    have hplugin := (hnew plugin extension hlink).1
    rw [hregistered, registered_insertPlugin] at hplugin
    exact hplugin.elim (CodeFree.of_registered h) And.right
  · intro hcond other extension hlink
    rw [hregistered, hregistered]
    rw [addPlugin_extensionPlugin] at hlink
    have hold : s.extensionPlugin other = some extension →
        (s.insertPlugin info plugin).Registered other ∧
          (s.insertPlugin info plugin).Registered extension := fun hold =>
      ⟨(registered_insertPlugin plugin other).mpr (.inl (hlinked other extension hold).1),
        (registered_insertPlugin plugin extension).mpr (.inl (hlinked other extension hold).2)⟩
    cases hentry : s.extensionPluginMap.lookup (info plugin).code with
    | none =>
      rw [hentry] at hlink
      exact hold hlink
    | some extensionCode =>
      rw [hentry] at hlink
      simp only at hlink
      split at hlink
      · rename_i hother
        subst hother
        have hthere := (pluginsCode_insertPlugin_ne_none other extensionCode).mp
          (Option.ne_none_iff_exists'.mpr ⟨extension, hlink⟩)
        exact ⟨(registered_insertPlugin other other).mpr
          (.inr ⟨rfl, hcond extensionCode hentry hthere⟩), ⟨extensionCode, hlink⟩⟩
      · exact hold hlink

omit [DecidableEq Id] in
/-- What a state without an unloaded library has to meet. -/
theorem coherent_iff {s : PluginRegistry Id} (h : s.unloaded = none) :
    Coherent info s ↔ s.SamePlugins ∧ s.Linked ∧ s.Recorded := by
  constructor
  · exact fun hs => ⟨hs.samePlugins, hs.linked, hs.recorded⟩
  · rintro ⟨hsame, hlinked, hrecorded⟩
    refine ⟨hsame, hlinked, hrecorded, fun soName codes hunloaded => ?_⟩
    rw [h] at hunloaded
    exact nomatch hunloaded

theorem addPlugin_coherent_iff (h : Keyed info s) (hs : Coherent info s) (plugin : Id) :
    Coherent info { (s.addPlugin info (some plugin)).2 with unloaded := none } ↔
      AddKeeps info s plugin := by
  rw [coherent_iff rfl]
  show (s.addPlugin info (some plugin)).2.SamePlugins ∧
    (s.addPlugin info (some plugin)).2.Linked ∧ (s.addPlugin info (some plugin)).2.Recorded ↔ _
  rw [(addPlugin_maps plugin).samePlugins, samePlugins_insertPlugin h hs.samePlugins,
    addPlugin_linked h hs.linked, addPlugin_recorded, recorded_insertPlugin hs.recorded]
  exact ⟨fun ⟨hsame, hlinked, hrecorded⟩ => ⟨hsame, hlinked, hrecorded⟩,
    fun hkeeps => ⟨hkeeps.same, hkeeps.linked, hkeeps.recorded⟩⟩

/-! ### Registering an extension -/

/-- The condition on an extension that is registered: when its basic plugin is there, the extension
takes its code. -/
structure ExtensionKeeps (info : Id → PluginInfo) (s : PluginRegistry Id) (plugin : Id)
    (basicPluginCode : Nat) : Prop where
  add : AddKeeps info s plugin
  basic : s.pluginsCode.lookup basicPluginCode ≠ none ∨ basicPluginCode = (info plugin).code →
    CodeFree info s plugin

theorem addPlugin_extension_registered (hlinked : s.Linked) {plugin other extension : Id}
    (hlink : (s.addPlugin info (some plugin)).2.extensionPlugin other = some extension) :
    (s.addPlugin info (some plugin)).2.Registered extension := by
  rw [(addPlugin_maps plugin).registered]
  have hold : s.extensionPlugin other = some extension →
      (s.insertPlugin info plugin).Registered extension := fun hold =>
    (registered_insertPlugin plugin extension).mpr (.inl (hlinked other extension hold).2)
  rw [addPlugin_extensionPlugin] at hlink
  cases hentry : s.extensionPluginMap.lookup (info plugin).code with
  | none =>
    rw [hentry] at hlink
    exact hold hlink
  | some extensionCode =>
    rw [hentry] at hlink
    simp only at hlink
    split at hlink
    · exact ⟨extensionCode, hlink⟩
    · exact hold hlink

theorem addExtensionPlugin_maps (plugin : Id) (basicPluginCode : Nat)
    (strategy : ExecuteStrategy) :
    SameMaps (s.addPlugin info (some plugin)).2
      (s.addExtensionPlugin info (some plugin) basicPluginCode strategy).2 := by
  unfold addExtensionPlugin
  dsimp only
  split <;> exact ⟨rfl, rfl⟩

theorem addExtensionPlugin_extensionPluginMap (plugin : Id) (basicPluginCode : Nat)
    (strategy : ExecuteStrategy) :
    (s.addExtensionPlugin info (some plugin) basicPluginCode strategy).2.extensionPluginMap =
      insertNew s.extensionPluginMap basicPluginCode (info plugin).code := by
  have hmap := @addPlugin_extensionPluginMap Id info s _ plugin
  rw [← hmap]
  unfold addExtensionPlugin
  dsimp only
  split <;> rfl

theorem addExtensionPlugin_extensionPlugin (plugin other : Id) (basicPluginCode : Nat)
    (strategy : ExecuteStrategy) :
    (s.addExtensionPlugin info (some plugin) basicPluginCode strategy).2.extensionPlugin other =
      if (s.addPlugin info (some plugin)).2.pluginsCode.lookup basicPluginCode = some other then
        some plugin
      else (s.addPlugin info (some plugin)).2.extensionPlugin other := by
  unfold addExtensionPlugin getPluginByCode
  dsimp only
  cases (s.addPlugin info (some plugin)).2.pluginsCode.lookup basicPluginCode with
  | none => exact (if_neg nofun).symm
  | some basicPlugin =>
    have hupdate : ∀ links : Id → Option Id,
        Function.update links basicPlugin (some plugin) other =
          if other = basicPlugin then some plugin else links other :=
      fun links => Function.update_apply ..
    refine (hupdate _).trans ?_
    by_cases hother : other = basicPlugin
    · rw [if_pos hother, if_pos (congrArg some hother.symm)]
    · rw [if_neg hother, if_neg fun h => hother (Option.some.inj h).symm]

theorem addExtensionPlugin_linked (h : Keyed info s) (hlinked : s.Linked) (plugin : Id)
    (basicPluginCode : Nat) (strategy : ExecuteStrategy) :
    (s.addExtensionPlugin info (some plugin) basicPluginCode strategy).2.Linked ↔
      (s.addPlugin info (some plugin)).2.Linked ∧
        (s.pluginsCode.lookup basicPluginCode ≠ none ∨ basicPluginCode = (info plugin).code →
          CodeFree info s plugin) := by
  have hregistered := (@addExtensionPlugin_maps Id info s _ plugin basicPluginCode
    strategy).registered
  have hadded := (@addPlugin_maps Id info s _ plugin)
  have hbasic : (s.addPlugin info (some plugin)).2.pluginsCode.lookup basicPluginCode ≠ none ↔
      s.pluginsCode.lookup basicPluginCode ≠ none ∨ basicPluginCode = (info plugin).code := by
    rw [hadded.pluginsCode, pluginsCode_insertPlugin_ne_none]
  have hplugin : (s.addPlugin info (some plugin)).2.Registered plugin ↔ CodeFree info s plugin := by
    rw [hadded.registered, registered_insertPlugin]
    exact ⟨fun hreg => hreg.elim (CodeFree.of_registered h) And.right, fun hfree =>
      .inr ⟨rfl, hfree⟩⟩
  rw [← hbasic, ← hplugin]
  constructor
  · intro hnew
    constructor
    · intro other extension hlink
      refine ⟨?_, addPlugin_extension_registered hlinked hlink⟩
      by_cases hother :
          (s.addPlugin info (some plugin)).2.pluginsCode.lookup basicPluginCode = some other
      · exact ⟨basicPluginCode, hother⟩
      · refine (hregistered other).mp (hnew other extension ?_).1
        rw [addExtensionPlugin_extensionPlugin, if_neg hother, hlink]
    · intro hthere
      obtain ⟨basicPlugin, hbasicPlugin⟩ := Option.ne_none_iff_exists'.mp hthere
      refine (hregistered plugin).mp (hnew basicPlugin plugin ?_).2
      rw [addExtensionPlugin_extensionPlugin, if_pos hbasicPlugin]
  · rintro ⟨hold, hfree⟩ other extension hlink
    rw [addExtensionPlugin_extensionPlugin] at hlink
    rw [hregistered, hregistered]
    split at hlink
    · rename_i hother
      obtain rfl := Option.some.inj hlink
      exact ⟨⟨basicPluginCode, hother⟩, hfree (hother ▸ nofun)⟩
    · exact hold other extension hlink

theorem addExtensionPlugin_recorded (plugin : Id) (basicPluginCode : Nat)
    (strategy : ExecuteStrategy) :
    (s.addExtensionPlugin info (some plugin) basicPluginCode strategy).2.Recorded ↔
      (s.addPlugin info (some plugin)).2.Recorded := by
  unfold Recorded
  rw [(addExtensionPlugin_maps plugin basicPluginCode strategy).pluginsCode,
    addExtensionPlugin_extensionPluginMap, addPlugin_extensionPluginMap]
  constructor
  · intro hnew code extensionCode hentry
    refine hnew code extensionCode ?_
    rw [lookup_insertNew, hentry]
    rfl
  · intro hold code extensionCode hentry hcode
    rw [lookup_insertNew] at hentry
    rcases Option.or_eq_some_iff.mp hentry with hentry | ⟨-, hentry⟩
    · exact hold code extensionCode hentry hcode
    · split at hentry
      · rw [← Option.some.inj hentry, (addPlugin_maps plugin).pluginsCode,
          pluginsCode_insertPlugin_ne_none]
        exact .inr rfl
      · exact nomatch hentry

theorem addExtensionPlugin_coherent_iff (h : Keyed info s) (hs : Coherent info s) (plugin : Id)
    (basicPluginCode : Nat) (strategy : ExecuteStrategy) :
    Coherent info
        { (s.addExtensionPlugin info (some plugin) basicPluginCode strategy).2 with
          unloaded := none } ↔
      ExtensionKeeps info s plugin basicPluginCode := by
  have hadd := addPlugin_coherent_iff h hs plugin
  rw [coherent_iff rfl] at hadd ⊢
  show (s.addExtensionPlugin info (some plugin) basicPluginCode strategy).2.SamePlugins ∧
    (s.addExtensionPlugin info (some plugin) basicPluginCode strategy).2.Linked ∧
    (s.addExtensionPlugin info (some plugin) basicPluginCode strategy).2.Recorded ↔ _
  rw [(addExtensionPlugin_maps plugin basicPluginCode strategy).samePlugins,
    addExtensionPlugin_linked h hs.linked, addExtensionPlugin_recorded]
  constructor
  · rintro ⟨hsame, ⟨hlinked, hbasic⟩, hrecorded⟩
    exact ⟨hadd.mp ⟨hsame, hlinked, hrecorded⟩, hbasic⟩
  · rintro ⟨hkeeps, hbasic⟩
    obtain ⟨hsame, hlinked, hrecorded⟩ := hadd.mpr hkeeps
    exact ⟨hsame, ⟨hlinked, hbasic⟩, hrecorded⟩

end PluginRegistry

end Edm
