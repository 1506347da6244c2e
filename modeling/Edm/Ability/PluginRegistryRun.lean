import Edm.Ability.PluginCoherence

/-! The registry of plugins over runs of registrations and unloadings.  It stays coherent as long as no
plugin takes a code or a name that another one has, and no library is unloaded that plugins of other
libraries are still linked to. -/

set_option autoImplicit false

namespace Edm

open Library Library.UnorderedMap

namespace PluginRegistry

variable {Id : Type} {info : Id → PluginInfo} {soCodes : String → Option (List Nat)}
  {s : PluginRegistry Id} [DecidableEq Id]

/-! ### Removing plugins -/

/-- A plugin that is registered under one of the codes. -/
def Taken (s : PluginRegistry Id) (codes : List Nat) (plugin : Id) : Prop :=
  ∃ code, code ∈ codes ∧ s.pluginsCode.lookup code = some plugin

/-- What the removal of the plugins under some codes leaves. -/
structure RemovedPlugins (info : Id → PluginInfo) (codes : List Nat) (s s' : PluginRegistry Id) :
    Prop where
  pluginsCode : ∀ code plugin, s'.pluginsCode.lookup code = some plugin ↔
    code ∉ codes ∧ s.pluginsCode.lookup code = some plugin
  pluginsName : ∀ policyName plugin, s'.pluginsName.lookup policyName = some plugin ↔
    s.pluginsName.lookup policyName = some plugin ∧
      ∀ other, s.Taken codes other → (info other).policyName ≠ policyName
  extensionPluginMap : ∀ code extensionCode,
    s'.extensionPluginMap.lookup code = some extensionCode ↔
      s.extensionPluginMap.lookup code = some extensionCode ∧
        ¬(code ∈ codes ∧ s.pluginsCode.lookup code ≠ none)
  extensionPlugin : ∀ plugin extension, s'.extensionPlugin plugin = some extension ↔
    s.extensionPlugin plugin = some extension ∧ ¬s.Taken codes plugin ∧
      ∀ other, s.Taken codes other →
        s.pluginsCode.lookup (s.basicPluginCode other) ≠ some plugin
  basicPluginCode : s'.basicPluginCode = s.basicPluginCode
  pluginType : s'.pluginType = s.pluginType

omit [DecidableEq Id] in
theorem removedPlugins_nil : RemovedPlugins info [] s s where
  pluginsCode _ _ := by simp
  pluginsName _ _ := by simp [Taken]
  extensionPluginMap _ _ := by simp
  extensionPlugin _ _ := by simp [Taken]
  basicPluginCode := rfl
  pluginType := rfl

omit [DecidableEq Id] in
theorem RemovedPlugins.lookup_ne_none {codes : List Nat} {s s' : PluginRegistry Id}
    (h : RemovedPlugins info codes s s') (code : Nat) :
    s'.pluginsCode.lookup code ≠ none ↔ code ∉ codes ∧ s.pluginsCode.lookup code ≠ none := by
  simp only [Option.ne_none_iff_exists', h.pluginsCode, exists_and_left]

omit [DecidableEq Id] in
theorem RemovedPlugins.keyed {codes : List Nat} {s s' : PluginRegistry Id}
    (h : RemovedPlugins info codes s s') (hs : Keyed info s) : Keyed info s' where
  code code plugin hcode := hs.code code plugin ((h.pluginsCode code plugin).mp hcode).2
  policyName policyName plugin hname :=
    hs.policyName policyName plugin ((h.pluginsName policyName plugin).mp hname).1

omit [DecidableEq Id] in
/-- Removals one after the other. -/
theorem RemovedPlugins.cons {code : Nat} {codes : List Nat} {s s₁ s' : PluginRegistry Id}
    (h : RemovedPlugins info [code] s s₁) (h' : RemovedPlugins info codes s₁ s') :
    RemovedPlugins info (code :: codes) s s' := by
  have hlookup : ∀ c plugin, s₁.pluginsCode.lookup c = some plugin ↔
      c ≠ code ∧ s.pluginsCode.lookup c = some plugin := fun c plugin => by
    rw [h.pluginsCode, List.mem_singleton]
  have htaken : ∀ plugin, s.Taken (code :: codes) plugin ↔
      s.Taken [code] plugin ∨ s₁.Taken codes plugin := by
    intro plugin
    constructor
    · rintro ⟨c, hc, hplugin⟩
      by_cases hcode : c = code
      · exact .inl ⟨c, List.mem_singleton.mpr hcode, hplugin⟩
      · exact .inr ⟨c, (List.mem_cons.mp hc).resolve_left hcode,
          (hlookup c plugin).mpr ⟨hcode, hplugin⟩⟩
    · rintro (⟨c, hc, hplugin⟩ | ⟨c, hc, hplugin⟩)
      · exact ⟨c, List.mem_cons.mpr (.inl (List.mem_singleton.mp hc)), hplugin⟩
      · exact ⟨c, List.mem_cons_of_mem code hc, ((hlookup c plugin).mp hplugin).2⟩
  constructor
  · intro c plugin
    rw [h'.pluginsCode, hlookup, List.mem_cons, not_or]
    exact ⟨fun ⟨hrest, hcode, hplugin⟩ => ⟨⟨hcode, hrest⟩, hplugin⟩,
      fun ⟨⟨hcode, hrest⟩, hplugin⟩ => ⟨hrest, hcode, hplugin⟩⟩
  · intro policyName plugin
    rw [h'.pluginsName, h.pluginsName]
    constructor
    · rintro ⟨⟨hname, hfirst⟩, hrest⟩
      exact ⟨hname, fun other hother => ((htaken other).mp hother).elim (hfirst other) (hrest other)⟩
    · rintro ⟨hname, hall⟩
      exact ⟨⟨hname, fun other hother => hall other ((htaken other).mpr (.inl hother))⟩,
        fun other hother => hall other ((htaken other).mpr (.inr hother))⟩
  · intro c extensionCode
    rw [h'.extensionPluginMap, h.extensionPluginMap, h.lookup_ne_none]
    simp only [List.mem_cons, List.not_mem_nil, or_false]
    by_cases hcode : c = code
    · simp [hcode]
    · simp [hcode]
  · intro plugin extension
    rw [h'.extensionPlugin, h.extensionPlugin, h.basicPluginCode]
    constructor
    · rintro ⟨⟨hlink, hfirst, hfirstBasic⟩, hrest, hrestBasic⟩
      refine ⟨hlink, fun hplugin => ((htaken plugin).mp hplugin).elim hfirst hrest,
        fun other hother hbasic => ?_⟩
      rcases (htaken other).mp hother with hother | hother
      · exact hfirstBasic other hother hbasic
      · refine hrestBasic other hother ((hlookup _ plugin).mpr ⟨fun hcode => hfirst ?_, hbasic⟩)
        exact ⟨code, List.mem_singleton_self code, hcode ▸ hbasic⟩
    · rintro ⟨hlink, hplugin, hbasic⟩
      exact ⟨⟨hlink, fun h => hplugin ((htaken plugin).mpr (.inl h)),
          fun other hother => hbasic other ((htaken other).mpr (.inl hother))⟩,
        fun h => hplugin ((htaken plugin).mpr (.inr h)),
        fun other hother hthere =>
          hbasic other ((htaken other).mpr (.inr hother)) ((hlookup _ plugin).mp hthere).2⟩
  · rw [h'.basicPluginCode, h.basicPluginCode]
  · rw [h'.pluginType, h.pluginType]

/-- One removal. -/
theorem removedPlugins_one (h : Keyed info s) (code : Nat) :
    RemovedPlugins info [code] s (s.removePlugin info (s.getPluginByCode code)) := by
  cases hcode : s.pluginsCode.lookup code with
  | none =>
    have hnone : ∀ plugin, ¬s.Taken [code] plugin := by
      rintro plugin ⟨c, hc, hplugin⟩
      rw [List.mem_singleton.mp hc, hcode] at hplugin
      exact nomatch hplugin
    rw [getPluginByCode, hcode]
    constructor
    · intro c plugin
      refine ⟨fun hplugin => ⟨fun hc => ?_, hplugin⟩, And.right⟩
      exact hnone plugin ⟨c, hc, hplugin⟩
    · exact fun policyName plugin =>
        ⟨fun hname => ⟨hname, fun other hother => absurd hother (hnone other)⟩, And.left⟩
    · intro c extensionCode
      refine ⟨fun hentry => ⟨hentry, fun ⟨hc, hthere⟩ => hthere ?_⟩, And.left⟩
      rw [List.mem_singleton.mp hc, hcode]
    · exact fun plugin extension =>
        ⟨fun hlink => ⟨hlink, hnone plugin, fun other hother => absurd hother (hnone other)⟩,
          And.left⟩
    · rfl
    · rfl
  | some removed =>
    have hinfo : (info removed).code = code := h.code code removed hcode
    have htaken : ∀ plugin, s.Taken [code] plugin ↔ plugin = removed := by
      intro plugin
      constructor
      · rintro ⟨c, hc, hplugin⟩
        rw [List.mem_singleton.mp hc, hcode] at hplugin
        exact (Option.some.inj hplugin).symm
      · rintro rfl
        exact ⟨code, List.mem_singleton_self code, hcode⟩
    have hremove : s.removePlugin info (s.getPluginByCode code) =
        { s with
          extensionPluginMap := s.extensionPluginMap.erase code
          pluginsCode := s.pluginsCode.erase code
          pluginsName := s.pluginsName.erase (info removed).policyName
          extensionPlugin := fun plugin =>
            if plugin = removed ∨
                (s.pluginsCode.erase code).lookup (s.basicPluginCode removed) = some plugin then none
            else s.extensionPlugin plugin } := by
      rw [getPluginByCode, hcode, ← hinfo]
      unfold removePlugin setExtensionPlugin getPluginByCode
      dsimp only
      cases (s.pluginsCode.erase (info removed).code).lookup (s.basicPluginCode removed) with
      | none =>
        simp only [mk.injEq, true_and, and_true]
        funext plugin
        simp [Function.update_apply]
      | some basicPlugin =>
        simp only [mk.injEq, true_and, and_true]
        funext plugin
        simp only [Function.update_apply, Option.some.injEq]
        by_cases hplugin : plugin = removed
        · simp [hplugin]
        · by_cases hbasic : plugin = basicPlugin
          · simp [hbasic]
          · simp [hplugin, hbasic, Ne.symm hbasic]
    rw [hremove]
    constructor
    · intro c plugin
      show (s.pluginsCode.erase code).lookup c = some plugin ↔ _
      rw [lookup_erase_eq, List.mem_singleton]
      by_cases hc : c = code
      · simp [hc]
      · simp [hc]
    · intro policyName plugin
      show (s.pluginsName.erase (info removed).policyName).lookup policyName = some plugin ↔ _
      rw [lookup_erase_eq]
      simp only [htaken, forall_eq]
      by_cases hname : policyName = (info removed).policyName
      · simp [hname]
      · simp [hname, Ne.symm hname]
    · intro c extensionCode
      show (s.extensionPluginMap.erase code).lookup c = some extensionCode ↔ _
      rw [lookup_erase_eq, List.mem_singleton]
      by_cases hc : c = code
      · subst hc
        rw [if_pos rfl, hcode]
        exact ⟨nofun, fun hentry => absurd ⟨rfl, nofun⟩ hentry.2⟩
      · simp [hc]
    · intro plugin extension
      show (if plugin = removed ∨
        (s.pluginsCode.erase code).lookup (s.basicPluginCode removed) = some plugin then none
        else s.extensionPlugin plugin) = some extension ↔ _
      simp only [htaken, forall_eq]
      rw [lookup_erase_eq]
      by_cases hplugin : plugin = removed
      · simp [hplugin]
      · by_cases hbasic : s.basicPluginCode removed = code
        · have hother : s.pluginsCode.lookup (s.basicPluginCode removed) ≠ some plugin := by
            rw [hbasic, hcode]
            exact fun h => hplugin (Option.some.inj h).symm
          simp [hplugin, hbasic] at hother ⊢
          exact fun _ => hother
        · by_cases hlookup : s.pluginsCode.lookup (s.basicPluginCode removed) = some plugin
          · simp [hbasic, hlookup]
          · simp [hplugin, hbasic, hlookup]
    · rfl
    · rfl

/-- By induction on the codes: each removal, then those after it. -/
theorem removedPlugins (h : Keyed info s) (codes : List Nat) :
    RemovedPlugins info codes s (s.removePlugins info codes) := by
  induction codes generalizing s with
  | nil => exact removedPlugins_nil
  | cons code codes ih =>
    have hone := removedPlugins_one h code
    exact hone.cons (ih (hone.keyed h))

/-- The condition on the removal of the plugins under some codes: a plugin that stays and is linked to
one that goes is the basic plugin of one that goes, and the recorded extension of a plugin that stays
does not go. -/
structure RemovalKeeps (s : PluginRegistry Id) (codes : List Nat) : Prop where
  linked : ∀ plugin extension, s.extensionPlugin plugin = some extension →
    s.Taken codes extension → s.Taken codes plugin ∨
      ∃ other, s.Taken codes other ∧ s.pluginsCode.lookup (s.basicPluginCode other) = some plugin
  recorded : ∀ code extensionCode, s.extensionPluginMap.lookup code = some extensionCode →
    s.pluginsCode.lookup code ≠ none → extensionCode ∈ codes → code ∈ codes

/-- The condition on the codes that are removed with a library: its plugins are all among them, the
extension of an entry that stays is not from it, and the basic plugin of an extension that stays is
not from it. -/
structure UnloadKeeps (info : Id → PluginInfo) (s : PluginRegistry Id) (codes : List Nat)
    (soName : String) : Prop where
  covers : ∀ code plugin, s.pluginsCode.lookup code = some plugin →
    (info plugin).soName = soName → code ∈ codes
  entries : ∀ code extensionCode, s.extensionPluginMap.lookup code = some extensionCode →
    ¬(code ∈ codes ∧ s.pluginsCode.lookup code ≠ none) →
    extensionCode ∉ s.libraryCodes info soName
  hosts : ∀ plugin, s.Registered plugin → ¬s.Taken codes plugin →
    s.pluginType plugin = .extension → s.basicPluginCode plugin ∉ s.libraryCodes info soName

section Removal

variable {codes : List Nat} {s s' : PluginRegistry Id}

omit [DecidableEq Id]

theorem RemovedPlugins.registered (h : RemovedPlugins info codes s s') (hs : Keyed info s)
    (plugin : Id) : s'.Registered plugin ↔ s.Registered plugin ∧ ¬s.Taken codes plugin := by
  constructor
  · rintro ⟨code, hcode⟩
    obtain ⟨hnot, hplugin⟩ := (h.pluginsCode code plugin).mp hcode
    refine ⟨⟨code, hplugin⟩, ?_⟩
    rintro ⟨other, hother, htaken⟩
    rw [← hs.code code plugin hplugin, hs.code other plugin htaken] at hnot
    exact hnot hother
  · rintro ⟨⟨code, hcode⟩, hnot⟩
    exact ⟨code, (h.pluginsCode code plugin).mpr ⟨fun hmem => hnot ⟨code, hmem, hcode⟩, hcode⟩⟩

theorem RemovedPlugins.samePlugins (h : RemovedPlugins info codes s s') (hs : Keyed info s)
    (hsame : s.SamePlugins) : s'.SamePlugins := by
  intro plugin
  rw [h.registered hs, (h.keyed hs).named_iff, h.pluginsName, ← hs.named_iff, ← hsame plugin]
  refine and_congr_right fun hplugin => ?_
  constructor
  · rintro hnot other hother hname
    have hregistered : s.Registered other := ⟨_, hother.choose_spec.2⟩
    have hown := hs.named_iff.mp ((hsame other).mp hregistered)
    rw [hname, hs.named_iff.mp ((hsame plugin).mp hplugin)] at hown
    exact hnot (Option.some.inj hown ▸ hother)
  · exact fun hall htaken => hall plugin htaken rfl

theorem RemovedPlugins.linked_iff (h : RemovedPlugins info codes s s') (hs : Keyed info s)
    (hlinked : s.Linked) :
    s'.Linked ↔ ∀ plugin extension, s.extensionPlugin plugin = some extension →
      s.Taken codes extension → s.Taken codes plugin ∨
        ∃ other, s.Taken codes other ∧
          s.pluginsCode.lookup (s.basicPluginCode other) = some plugin := by
  constructor
  · intro hnew plugin extension hlink htaken
    by_contra hnone
    rw [not_or, not_exists] at hnone
    have hstays := (h.extensionPlugin plugin extension).mpr
      ⟨hlink, hnone.1, fun other hother hbasic => hnone.2 other ⟨hother, hbasic⟩⟩
    exact ((h.registered hs extension).mp (hnew plugin extension hstays).2).2 htaken
  · intro hcond plugin extension hlink
    obtain ⟨hold, hplugin, hbasic⟩ := (h.extensionPlugin plugin extension).mp hlink
    rw [h.registered hs, h.registered hs]
    refine ⟨⟨(hlinked plugin extension hold).1, hplugin⟩, (hlinked plugin extension hold).2,
      fun htaken => ?_⟩
    rcases hcond plugin extension hold htaken with hgone | ⟨other, hother, hthere⟩
    · exact hplugin hgone
    · exact hbasic other hother hthere

theorem RemovedPlugins.recorded_iff (h : RemovedPlugins info codes s s')
    (hrecorded : s.Recorded) :
    s'.Recorded ↔ ∀ code extensionCode,
      s.extensionPluginMap.lookup code = some extensionCode →
      s.pluginsCode.lookup code ≠ none → extensionCode ∈ codes → code ∈ codes := by
  constructor
  · intro hnew code extensionCode hentry hthere hextension
    by_contra hcode
    have hgone := hnew code extensionCode
      ((h.extensionPluginMap code extensionCode).mpr ⟨hentry, fun hboth => hcode hboth.1⟩)
      ((h.lookup_ne_none code).mpr ⟨hcode, hthere⟩)
    exact ((h.lookup_ne_none extensionCode).mp hgone).1 hextension
  · intro hcond code extensionCode hentry hthere
    obtain ⟨hold, -⟩ := (h.extensionPluginMap code extensionCode).mp hentry
    obtain ⟨hcode, hthere⟩ := (h.lookup_ne_none code).mp hthere
    exact (h.lookup_ne_none extensionCode).mpr
      ⟨fun hextension => hcode (hcond code extensionCode hold hthere hextension),
        hrecorded code extensionCode hold hthere⟩

theorem mem_libraryCodes {soName : String} {code : Nat} :
    code ∈ s.libraryCodes info soName ↔
      ∃ plugin, s.pluginsCode.lookup code = some plugin ∧ (info plugin).soName = soName := by
  unfold libraryCodes
  rw [mem_keysWhere]
  simp only [beq_iff_eq]

/-- After a removal nothing refers to the library exactly under its condition. -/
theorem RemovedPlugins.referencesGone_iff (h : RemovedPlugins info codes s s')
    (hs : Keyed info s) (hsame : s'.SamePlugins) (hlinked : s'.Linked) {soName : String} :
    ReferencesGone info soName (s.libraryCodes info soName) s' ↔
      UnloadKeeps info s codes soName := by
  constructor
  · intro hgone
    constructor
    · intro code plugin hcode hlibrary
      by_contra hnot
      exact hgone.pluginsCode code plugin ((h.pluginsCode code plugin).mpr ⟨hnot, hcode⟩) hlibrary
    · intro code extensionCode hentry hstays
      exact (hgone.extensionPluginMap code extensionCode
        ((h.extensionPluginMap code extensionCode).mpr ⟨hentry, hstays⟩)).2
    · intro plugin hplugin hstays htype
      rw [← h.basicPluginCode]
      refine hgone.basicPluginCode plugin ((h.registered hs plugin).mpr ⟨hplugin, hstays⟩) ?_
      rw [h.pluginType, htype]
  · intro hkeeps
    have hother : ∀ plugin, s'.Registered plugin → (info plugin).soName ≠ soName := by
      rintro plugin ⟨code, hcode⟩ hlibrary
      obtain ⟨hnot, hold⟩ := (h.pluginsCode code plugin).mp hcode
      exact hnot (hkeeps.covers code plugin hold hlibrary)
    constructor
    · exact fun code plugin hcode => hother plugin ⟨code, hcode⟩
    · exact fun policyName plugin hname => hother plugin ((hsame plugin).mpr ⟨policyName, hname⟩)
    · intro code extensionCode hentry
      obtain ⟨hold, hstays⟩ := (h.extensionPluginMap code extensionCode).mp hentry
      refine ⟨fun hcode => ?_, hkeeps.entries code extensionCode hold hstays⟩
      obtain ⟨plugin, hplugin, hlibrary⟩ := mem_libraryCodes.mp hcode
      exact hstays ⟨hkeeps.covers code plugin hplugin hlibrary, hplugin ▸ nofun⟩
    · exact fun plugin extension hlink => hother extension (hlinked plugin extension hlink).2
    · intro plugin hplugin htype
      obtain ⟨hold, hstays⟩ := (h.registered hs plugin).mp hplugin
      rw [h.basicPluginCode]
      exact hkeeps.hosts plugin hold hstays (h.pluginType ▸ htype)

/-- The three parts of coherence after a removal. -/
theorem RemovedPlugins.parts_iff (h : RemovedPlugins info codes s s') (hs : Keyed info s)
    (hsame : s.SamePlugins) (hlinked : s.Linked) (hrecorded : s.Recorded) :
    (s'.SamePlugins ∧ s'.Linked ∧ s'.Recorded) ↔ RemovalKeeps s codes := by
  rw [h.linked_iff hs hlinked, h.recorded_iff hrecorded]
  exact ⟨fun ⟨_, hlink, hrecord⟩ => ⟨hlink, hrecord⟩,
    fun hkeeps => ⟨h.samePlugins hs hsame, hkeeps.linked, hkeeps.recorded⟩⟩

end Removal

theorem removePlugin_coherent_iff (h : Keyed info s) (hs : Coherent info s) (code : Nat) :
    Coherent info { s.removePlugin info (s.getPluginByCode code) with unloaded := none } ↔
      RemovalKeeps s [code] := by
  rw [coherent_iff rfl]
  exact (removedPlugins_one h code).parts_iff h hs.samePlugins hs.linked hs.recorded

theorem removePlugins_coherent_iff (h : Keyed info s) (hsame : s.SamePlugins)
    (hlinked : s.Linked) (hrecorded : s.Recorded) (codes : List Nat) (soName : String) :
    Coherent info
        { s.removePlugins info codes with
          unloaded := some (soName, s.libraryCodes info soName) } ↔
      RemovalKeeps s codes ∧ UnloadKeeps info s codes soName := by
  have hremoved := removedPlugins h codes
  have hparts := hremoved.parts_iff h hsame hlinked hrecorded
  constructor
  · intro hnew
    have hgone := hnew.unloaded soName _ rfl
    exact ⟨hparts.mp ⟨hnew.samePlugins, hnew.linked, hnew.recorded⟩,
      (hremoved.referencesGone_iff h hnew.samePlugins hnew.linked).mp
        ⟨hgone.pluginsCode, hgone.pluginsName, hgone.extensionPluginMap, hgone.extensionPlugin,
          hgone.basicPluginCode⟩⟩
  · rintro ⟨hkeeps, hunload⟩
    obtain ⟨hsame', hlinked', hrecorded'⟩ := hparts.mpr hkeeps
    have hgone := (hremoved.referencesGone_iff h hsame' hlinked').mpr hunload
    refine ⟨hsame', hlinked', hrecorded', fun other codes' hunloaded => ?_⟩
    obtain ⟨rfl, rfl⟩ := Prod.mk.inj (Option.some.inj hunloaded)
    exact ⟨hgone.pluginsCode, hgone.pluginsName, hgone.extensionPluginMap, hgone.extensionPlugin,
      hgone.basicPluginCode⟩

/-! ### Unloading a library -/

/-- The registry without its records of extensions, as an extra library leaves it. -/
def cleared (s : PluginRegistry Id) : PluginRegistry Id :=
  { s with extensionPluginMap := ∅, executeStrategyMap := ∅ }

omit [DecidableEq Id] in
theorem hasPersistPlugin_cleared (codes : List Nat) :
    s.cleared.hasPersistPlugin codes = s.extraHasPersistPlugin codes := by
  unfold hasPersistPlugin extraHasPersistPlugin
  refine congrArg codes.any (funext fun code => ?_)
  have hnone : s.cleared.extensionPluginMap.lookup code = none := Finmap.lookup_empty code
  rw [hnone]
  rfl

/-- A library of the service whose plugins may all go. -/
theorem unloadPlugin_service {soName : String} {codes : List Nat}
    (hcodes : soCodes soName = some codes) (hpersist : s.hasPersistPlugin codes = false) :
    s.unloadPlugin info soCodes soName = (true, s.removePlugins info codes) := by
  unfold unloadPlugin
  rw [hcodes]
  simp only
  rw [hpersist]
  rfl

/-- An extra library, when the plugins of all extra libraries may go. -/
theorem unloadPlugin_extra {soName : String} (hcodes : soCodes soName = none)
    (hpersist : s.extraHasPersistPlugin s.getExtraPluginCodeList = false) :
    s.unloadPlugin info soCodes soName =
      (true, s.cleared.removePlugins info s.getExtraPluginCodeList) := by
  have hcleared := (hasPersistPlugin_cleared s.getExtraPluginCodeList).trans hpersist
  unfold unloadPlugin
  rw [hcodes]
  simp only
  rw [hpersist, if_neg Bool.false_ne_true]
  show (if s.cleared.hasPersistPlugin s.getExtraPluginCodeList then _ else _) = _
  rw [hcleared]
  rfl

/-- Nothing is unloaded while a plugin has to stay. -/
theorem unloadPlugin_persists {soName : String}
    (hpersist : match soCodes soName with
      | some codes => s.hasPersistPlugin codes = true
      | none => s.extraHasPersistPlugin s.getExtraPluginCodeList = true) :
    s.unloadPlugin info soCodes soName = (false, s) := by
  unfold unloadPlugin
  cases hcodes : soCodes soName with
  | some codes =>
    rw [hcodes] at hpersist
    exact if_pos hpersist
  | none =>
    rw [hcodes] at hpersist
    exact if_pos hpersist

/-! ### Runs -/

/-- The condition on a call. -/
def Keeps (info : Id → PluginInfo) (soCodes : String → Option (List Nat)) (s : PluginRegistry Id) :
    RegistryOp Id → Prop
  | .addPlugin none => True
  | .addPlugin (some plugin) => AddKeeps info s plugin
  | .addExtensionPlugin none _ _ => True
  | .addExtensionPlugin (some plugin) basicPluginCode _ =>
    ExtensionKeeps info s plugin basicPluginCode
  | .setPluginUnloadFlag _ _ => True
  | .removePlugin code => RemovalKeeps s [code]
  | .unloadPlugin soName =>
    match soCodes soName with
    | some codes => s.hasPersistPlugin codes = false →
      RemovalKeeps s codes ∧ UnloadKeeps info s codes soName
    | none => s.extraHasPersistPlugin s.getExtraPluginCodeList = false →
      RemovalKeeps s.cleared s.getExtraPluginCodeList ∧
        UnloadKeeps info s.cleared s.getExtraPluginCodeList soName

omit [DecidableEq Id] in
theorem coherent_unchanged (hs : Coherent info s) : Coherent info { s with unloaded := none } :=
  (coherent_iff rfl).mpr ⟨hs.samePlugins, hs.linked, hs.recorded⟩

theorem setPluginUnloadFlag_coherent (hs : Coherent info s) (code : Nat) (unloadFlag : Bool) :
    Coherent info { s.setPluginUnloadFlag code unloadFlag with unloaded := none } := by
  unfold setPluginUnloadFlag
  split <;> exact (coherent_iff rfl).mpr ⟨hs.samePlugins, hs.linked, hs.recorded⟩

theorem setPluginUnloadFlag_keyed (h : Keyed info s) (code : Nat) (unloadFlag : Bool) :
    Keyed info (s.setPluginUnloadFlag code unloadFlag) := by
  unfold setPluginUnloadFlag
  split <;> exact ⟨h.code, h.policyName⟩

theorem unloadPlugin_keyed (h : Keyed info s) (soName : String) :
    Keyed info (s.unloadPlugin info soCodes soName).2 := by
  have hcleared : Keyed info s.cleared := ⟨h.code, h.policyName⟩
  unfold unloadPlugin
  split
  · split
    · exact h
    · exact (removedPlugins h _).keyed h
  · dsimp only
    split
    · exact h
    · show Keyed info (if s.cleared.hasPersistPlugin s.getExtraPluginCodeList then (_, s.cleared)
        else (_, s.cleared.removePlugins info s.getExtraPluginCodeList)).2
      split
      · exact hcleared
      · exact (removedPlugins hcleared _).keyed hcleared

theorem keyed_step (h : Keyed info s) (op : RegistryOp Id) :
    Keyed info (registryStep info soCodes s op) := by
  have hadd : ∀ plugin, Keyed info (s.addPlugin info plugin).2 := by
    rintro (_ | plugin)
    · exact h
    · exact (addPlugin_maps plugin).keyed (keyed_insertPlugin h plugin)
  cases op with
  | addPlugin plugin => exact ⟨(hadd plugin).code, (hadd plugin).policyName⟩
  | addExtensionPlugin plugin basicPluginCode strategy =>
    cases plugin with
    | none => exact ⟨h.code, h.policyName⟩
    | some plugin =>
      have hlinked := (addExtensionPlugin_maps plugin basicPluginCode strategy).keyed
        (hadd (some plugin))
      exact ⟨hlinked.code, hlinked.policyName⟩
  | setPluginUnloadFlag code unloadFlag =>
    have hflag := setPluginUnloadFlag_keyed h code unloadFlag
    exact ⟨hflag.code, hflag.policyName⟩
  | removePlugin code =>
    have hremoved := (removedPlugins_one h code).keyed h
    exact ⟨hremoved.code, hremoved.policyName⟩
  | unloadPlugin soName =>
    have hunloaded := @unloadPlugin_keyed Id info soCodes s _ h soName
    exact ⟨hunloaded.code, hunloaded.policyName⟩

theorem unloadPlugin_coherent_iff (h : Keyed info s) (hs : Coherent info s) (soName : String) :
    Coherent info (registryStep info soCodes s (.unloadPlugin soName)) ↔
      Keeps info soCodes s (.unloadPlugin soName) := by
  have hstep : registryStep info soCodes s (.unloadPlugin soName) =
      { (s.unloadPlugin info soCodes soName).2 with
        unloaded := if (s.unloadPlugin info soCodes soName).1 then
          some (soName, s.libraryCodes info soName) else none } := rfl
  have hkept : s.unloadPlugin info soCodes soName = (false, s) →
      Coherent info (registryStep info soCodes s (.unloadPlugin soName)) := by
    intro hsame
    rw [hstep, hsame]
    exact coherent_unchanged hs
  cases hcodes : soCodes soName with
  | some codes =>
    simp only [Keeps, hcodes]
    cases hpersist : s.hasPersistPlugin codes with
    | true =>
      refine iff_of_true (hkept (unloadPlugin_persists ?_)) nofun
      rw [hcodes]
      exact hpersist
    | false =>
      rw [hstep, unloadPlugin_service hcodes hpersist]
      simp only [true_implies]
      exact removePlugins_coherent_iff h hs.samePlugins hs.linked hs.recorded codes soName
  | none =>
    simp only [Keeps, hcodes]
    cases hpersist : s.extraHasPersistPlugin s.getExtraPluginCodeList with
    | true =>
      refine iff_of_true (hkept (unloadPlugin_persists ?_)) nofun
      rw [hcodes]
      exact hpersist
    | false =>
      have hrecorded : s.cleared.Recorded := by
        intro code extensionCode hentry
        exact nomatch (Finmap.lookup_empty code).symm.trans hentry
      rw [hstep, unloadPlugin_extra hcodes hpersist]
      simp only [true_implies]
      exact @removePlugins_coherent_iff Id info s.cleared _ ⟨h.code, h.policyName⟩ hs.samePlugins
        hs.linked hrecorded s.getExtraPluginCodeList soName

/-- The registry stays coherent in a call exactly under its condition. -/
theorem registryStep_coherent_iff (h : Keyed info s) (hs : Coherent info s) (op : RegistryOp Id) :
    Coherent info (registryStep info soCodes s op) ↔ Keeps info soCodes s op := by
  cases op with
  | addPlugin plugin =>
    cases plugin with
    | none => exact iff_of_true (coherent_unchanged hs) trivial
    | some plugin => exact addPlugin_coherent_iff h hs plugin
  | addExtensionPlugin plugin basicPluginCode strategy =>
    cases plugin with
    | none => exact iff_of_true (coherent_unchanged hs) trivial
    | some plugin => exact addExtensionPlugin_coherent_iff h hs plugin basicPluginCode strategy
  | setPluginUnloadFlag code unloadFlag =>
    exact iff_of_true (setPluginUnloadFlag_coherent hs code unloadFlag) trivial
  | removePlugin code => exact removePlugin_coherent_iff h hs code
  | unloadPlugin soName => exact unloadPlugin_coherent_iff h hs soName

/-- The registry is coherent in every state of a run exactly when every call meets its condition. -/
theorem registry_coherent_iff (info : Id → PluginInfo) (soCodes : String → Option (List Nat))
    (pluginUnloadFlag : Id → Bool) (ops : List (RegistryOp Id)) :
    Always (registryStep info soCodes) (Coherent info) (boot pluginUnloadFlag) ops ↔
      Each (registryStep info soCodes) (Keeps info soCodes) (boot pluginUnloadFlag) ops :=
  always_iff_each (I := Keyed info) (fun _ op h _ _ => keyed_step h op)
    (fun _ op h hs => registryStep_coherent_iff h hs op) (keyed_boot pluginUnloadFlag)
    (coherent_boot pluginUnloadFlag) ops

/-! ### An extension that goes before its basic plugin -/

end PluginRegistry

namespace PluginRegistry.Sample

/-- Plugin 0 of one library is the basic plugin of plugin 1 of another. -/
def info : Fin 2 → PluginInfo
  | 0 => ⟨1, "basic", "libcommunication_plugin.z.so"⟩
  | 1 => ⟨2, "extension", "libsys_service_plugin.z.so"⟩

def soCodes (soName : String) : Option (List Nat) :=
  if soName = "libcommunication_plugin.z.so" then some [1]
  else if soName = "libsys_service_plugin.z.so" then some [2]
  else none

/-- Both are registered, and the library of the extension is unloaded. -/
def ops : List (RegistryOp (Fin 2)) :=
  [.addPlugin (some 0), .addExtensionPlugin (some 1) 1 .enhance,
    .unloadPlugin "libsys_service_plugin.z.so"]

end PluginRegistry.Sample

open PluginRegistry in
/-- The entry of an extension is erased under the extension's own code, and stays under the code of
its basic plugin. -/
theorem PluginRegistry.registry_not_coherent :
    ¬Always (registryStep Sample.info Sample.soCodes) (Coherent Sample.info)
      (boot fun _ => true) Sample.ops := by
  intro h
  have hrecorded := h.last.recorded 1 2
  revert hrecorded
  decide +kernel

end Edm
