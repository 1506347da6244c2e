import Edm.Plugin.MapStringPolicy

/-! `DisabledNetworkInterfacePlugin`: network interfaces whose traffic admins forbid.  The net policy
client keeps a rule for each interface. -/

set_option autoImplicit false

namespace Edm

open Library

def POLICY_DISABLED_NETWORK_INTERFACE : String := "disabled_network_interface"

namespace DisabledNetworkInterfacePlugin

open MapStringSerializer MapStringPolicy

/-- Whether the traffic of an interface is forbidden. -/
abbrev Rules := String → Bool

/-- The interfaces that there are, and whether the client takes a rule. -/
structure Answers where
  interfaceGetList : List String
  setNicTrafficAllowed : Bool

def setInterfaceDisabled (answer : Bool) (rules : Rules) (ifaceName : String) (status : Bool) :
    Bool × Rules :=
  if answer then (true, Function.update rules ifaceName status) else (false, rules)

/-- Only the first key of a request is looked at. -/
def onSetPolicy (answers : Answers) (rules : Rules) (data currentData mergeData : MapString) :
    ErrCode × Rules × MapString × MapString :=
  match data with
  | [] => (EdmReturnErrCode.PARAM_ERROR, rules, currentData, mergeData)
  | item :: _ =>
    if item.1 ∉ answers.interfaceGetList then
      (EdmReturnErrCode.PARAM_ERROR, rules, currentData, mergeData)
    else
      let wantDisabled := item.2 == "true"
      let currentlyDisabled := hasKey Prod.fst item.1 currentData
      let (done, rules) :=
        if !hasKey Prod.fst item.1 mergeData && wantDisabled != currentlyDisabled then
          setInterfaceDisabled answers.setNicTrafficAllowed rules item.1 wantDisabled
        else (true, rules)
      if !done then (EdmReturnErrCode.SYSTEM_ABNORMALLY, rules, currentData, mergeData)
      else
        let currentData := setEntry item currentData
        (ERR_OK, rules, currentData, addMissing currentData mergeData)

/-- The interfaces of the admin that no other admin forbids are allowed one after the other, up to
the first that the client does not take. -/
def onAdminRemove (answers : String → Bool) : Rules → MapString → MapString → ErrCode × Rules
  | rules, [], _ => (ERR_OK, rules)
  | rules, item :: data, mergeData =>
    if hasKey Prod.fst item.1 mergeData then onAdminRemove answers rules data mergeData
    else
      match setInterfaceDisabled (answers item.1) rules item.1 false with
      | (true, rules) => onAdminRemove answers rules data mergeData
      | (false, rules) => (EdmReturnErrCode.SYSTEM_ABNORMALLY, rules)

variable (C : CJson) (order : HashOrder)

def plugin : Plugin Rules (Request Answers) (String → Bool) Empty :=
  MapStringPolicy.plugin C order POLICY_DISABLED_NETWORK_INTERFACE onSetPolicy
    fun rules answers => IPluginTemplate.adminRemove (serializer C) (onAdminRemove answers) rules

abbrev Op := PolicyOp (Request Answers) (String → Bool)

/-- A user without policies, and interfaces that are all allowed. -/
abbrev boot (userId : Int) : PluginState Rules := PluginState.boot (fun _ => false) userId

section Run

variable (s : PluginState Rules)

/-- The interfaces that an admin forbids. -/
abbrev listed : AdminName → Set String :=
  MapStringPolicy.listed C POLICY_DISABLED_NETWORK_INTERFACE s.store

/-- The combined map has the interfaces that some admin forbids, and these are the ones whose traffic
is forbidden. -/
structure FollowsUnion : Prop where
  combined : combinedKeys C POLICY_DISABLED_NETWORK_INTERFACE s.store = held (listed C s)
  enforced : ∀ ifaceName, s.modules ifaceName = true ↔ ifaceName ∈ held (listed C s)

/-- The map that an admin stores. -/
def currentMap (admin : AdminName) : MapString :=
  (deserialize C (s.store.manager.policyValue admin POLICY_DISABLED_NETWORK_INTERFACE)).getD []

/-- The client does not take the rule of a request. -/
def Refused (admin : AdminName) (answers : Answers) (item : String × String) : Prop :=
  answers.setNicTrafficAllowed = false ∧ item.1 ∉ heldByOthers (listed C s) admin ∧
    ((item.2 == "true") = true ↔ item.1 ∉ listed C s admin)

/-- The writes of an operation take effect, and it keeps the union.  After a set each interface that
others forbid is in the admin's map or in the maps of all others.  When an admin is removed, the
others all forbid the same interfaces, and the client takes the rule for each other interface. -/
def Keeps : Op → Prop
  | .update admin writes request =>
    writes = ⟨.done, .done⟩ ∧ ∀ item rest, getPolicy request.parcel = some (item :: rest) →
      item.1 ∈ request.answers.interfaceGetList → ¬ Refused C s admin request.answers item →
        Covered C POLICY_DISABLED_NETWORK_INTERFACE s.store admin
          (setEntry item (currentMap C s admin))
  | .removeAdmin admin writes answers =>
    writes = ⟨.done, .done⟩ ∧
      (s.store.manager.policyValue admin POLICY_DISABLED_NETWORK_INTERFACE = "" ∨
        (∀ ifaceName, ifaceName ∈ heldByOthers (listed C s) admin →
          Everywhere C POLICY_DISABLED_NETWORK_INTERFACE s.store admin ifaceName) ∧
        ∀ ifaceName, ifaceName ∈ listed C s admin → ifaceName ∉ heldByOthers (listed C s) admin →
          answers ifaceName = true)

end Run

/-! ### The handlers -/

/-- A set fails without a rule, or the rule of the interface is the wanted one unless others forbid
the interface. -/
theorem onSetPolicy_cases (answers : Answers) (rules : Rules)
    (data currentData mergeData : MapString) :
    (failed (onSetPolicy answers rules data currentData mergeData).1 = true ∧
        (onSetPolicy answers rules data currentData mergeData).2.1 = rules) ∨
      ∃ item rest rules', data = item :: rest ∧ item.1 ∈ answers.interfaceGetList ∧
        onSetPolicy answers rules data currentData mergeData =
          (ERR_OK, rules', setEntry item currentData,
            addMissing (setEntry item currentData) mergeData) ∧
        (item.1 ∉ mergeData.map Prod.fst ∧
            ((item.2 == "true") = true ↔ item.1 ∉ currentData.map Prod.fst) ∧
            answers.setNicTrafficAllowed = true ∧
            rules' = Function.update rules item.1 (item.2 == "true") ∨
          (item.1 ∈ mergeData.map Prod.fst ∨
            ((item.2 == "true") = true ↔ item.1 ∈ currentData.map Prod.fst)) ∧ rules' = rules) := by
  unfold onSetPolicy
  cases data with
  | nil => exact .inl ⟨rfl, rfl⟩
  | cons item rest =>
    dsimp only
    by_cases hexists : item.1 ∉ answers.interfaceGetList
    · rw [if_pos hexists]
      exact .inl ⟨rfl, rfl⟩
    rw [if_neg hexists]
    have hexists := not_not.mp hexists
    by_cases hcall : (!hasKey Prod.fst item.1 mergeData &&
      (item.2 == "true") != hasKey Prod.fst item.1 currentData) = true
    · rw [if_pos hcall, setInterfaceDisabled]
      obtain ⟨hmerge, hwant⟩ := Bool.and_eq_true_iff.mp hcall
      have hmerge : item.1 ∉ mergeData.map Prod.fst := fun hmem => by
        rw [hasKey_iff.mpr hmem] at hmerge
        cases hmerge
      have hwant : (item.2 == "true") = true ↔ item.1 ∉ currentData.map Prod.fst := by
        rw [← hasKey_iff]
        have hne := bne_iff_ne.mp hwant
        cases hleft : item.2 == "true" <;> cases hright : hasKey Prod.fst item.1 currentData
        · exact absurd (hleft.trans hright.symm) hne
        · simp
        · simp
        · exact absurd (hleft.trans hright.symm) hne
      cases hanswer : answers.setNicTrafficAllowed with
      | false => exact .inl ⟨rfl, rfl⟩
      | true => exact .inr ⟨item, rest, _, rfl, hexists, rfl, .inl ⟨hmerge, hwant, rfl, rfl⟩⟩
    · rw [if_neg hcall]
      refine .inr ⟨item, rest, _, rfl, hexists, rfl, .inr ⟨?_, rfl⟩⟩
      by_cases hmerge : item.1 ∈ mergeData.map Prod.fst
      · exact .inl hmerge
      · right
        have hnone : hasKey Prod.fst item.1 mergeData = false :=
          Bool.eq_false_iff.mpr fun hkey => hmerge (hasKey_iff.mp hkey)
        rw [hnone, Bool.not_false, Bool.true_and, Bool.not_eq_true, bne_eq_false_iff_eq] at hcall
        rw [hcall, hasKey_iff]

/-- A client that takes every rule allows the interfaces of the admin that no other forbids. -/
theorem onAdminRemove_ok {answers : String → Bool} {rules : Rules} {data mergeData : MapString}
    (h : ∀ k, k ∈ data.map Prod.fst → k ∉ mergeData.map Prod.fst → answers k = true) (k : String) :
    (onAdminRemove answers rules data mergeData).2 k = true ↔
      rules k = true ∧ (k ∈ data.map Prod.fst → k ∈ mergeData.map Prod.fst) := by
  induction data generalizing rules with
  | nil => exact (and_iff_left fun hk => absurd hk List.not_mem_nil).symm
  | cons item data ih =>
    have hrest := fun k hk => h k (List.mem_cons_of_mem item.1 hk)
    rw [onAdminRemove, List.map_cons, List.mem_cons]
    by_cases hmerge : hasKey Prod.fst item.1 mergeData = true
    · rw [if_pos hmerge, ih hrest]
      have hmem := hasKey_iff.mp hmerge
      refine and_congr_right fun _ => ⟨fun hdata hk => ?_, fun hdata hk => hdata (.inr hk)⟩
      rcases hk with rfl | hk
      · exact hmem
      · exact hdata hk
    · have hnone : item.1 ∉ mergeData.map Prod.fst := fun hmem => hmerge (hasKey_iff.mpr hmem)
      rw [if_neg hmerge, setInterfaceDisabled, h item.1 List.mem_cons_self hnone]
      show (onAdminRemove answers (Function.update rules item.1 false) data mergeData).2 k = true ↔ _
      rw [ih hrest]
      by_cases hk : k = item.1
      · subst hk
        rw [Function.update_self]
        refine iff_of_false (fun h => Bool.false_ne_true h.1) fun h => hnone (h.2 (.inl rfl))
      · rw [Function.update_of_ne hk]
        refine and_congr_right fun _ => ⟨fun hdata hmem => ?_, fun hdata hmem => hdata (.inr hmem)⟩
        exact hdata (hmem.resolve_left hk)

/-! ### One operation -/

/-- An operation succeeds. -/
def Succeeds (s : PluginState Rules) : Op → Prop
  | .update admin _ request => SetSucceeds (plugin C order) s admin request
  | .removeAdmin _ _ _ => True

/-- The interfaces that the admin of an operation forbids after it. -/
def listedAfter (s : PluginState Rules) : Op → Set String
  | .update admin _ request =>
    match getPolicy request.parcel with
    | some (item :: _) => {k | k ∈ (setEntry item (currentMap C s admin)).map Prod.fst}
    | _ => listed C s admin
  | .removeAdmin _ _ _ => ∅

section Step

variable {C : CJson} {order : HashOrder} {s s' : PluginState Rules} {admin : AdminName}

theorem FollowsUnion.congr (h : FollowsUnion C s) (hmodules : s'.modules = s.modules)
    (hstore : s'.store = s.store) : FollowsUnion C s' := by
  obtain ⟨store, modules, subscribed⟩ := s
  obtain ⟨store', modules', subscribed'⟩ := s'
  obtain rfl : store' = store := hstore
  obtain rfl : modules' = modules := hmodules
  exact ⟨h.combined, h.enforced⟩

theorem policyName_ne : POLICY_DISABLED_NETWORK_INTERFACE ≠ "" := by decide

theorem step_update (h : Readable C POLICY_DISABLED_NETWORK_INTERFACE s.store)
    (hunion : FollowsUnion C s) (request : Request Answers)
    (hkeeps : Keeps C s (.update admin ⟨.done, .done⟩ request))
    (hs' : policyStep (plugin C order) s (.update admin ⟨.done, .done⟩ request) = s') :
    Readable C POLICY_DISABLED_NETWORK_INTERFACE s'.store ∧ FollowsUnion C s' ∧
      (Succeeds C order s (.update admin ⟨.done, .done⟩ request) →
        listed C s' = Function.update (listed C s) admin
          (listedAfter C s (.update admin ⟨.done, .done⟩ request))) := by
  obtain ⟨current, others, hmaps, houtcome⟩ := set_cases policyName_ne h request hs'
  have hown : ∀ k, k ∈ listed C s admin ↔ k ∈ current.map Prod.fst := Set.ext_iff.mp hmaps.listed
  have hbefore : ∀ k, k ∈ held (listed C s) ↔
      k ∈ heldByOthers (listed C s) admin ∨ k ∈ current.map Prod.fst := by
    intro k
    rw [held_eq _ admin, ← hown]
    exact Iff.rfl
  rcases houtcome with ⟨hfails, hstore, hmodules⟩ | ⟨data, after, merged, hparcel, hset, hstored⟩
  · have hmodules : s'.modules = s.modules := by
      rcases hmodules with hsame | ⟨data, hret, hmodules⟩
      · exact hsame
      · rcases onSetPolicy_cases request.answers s.modules data current others with
          ⟨-, hsame⟩ | ⟨item, rest, rules, -, -, hset, -⟩
        · exact hmodules.trans hsame
        · rw [hset] at hret
          cases hret
    exact ⟨hstore ▸ h, hunion.congr hmodules hstore, fun hok => absurd hok hfails⟩
  rcases onSetPolicy_cases request.answers s.modules data current others with
    ⟨hret, -⟩ | ⟨item, rest, rules, rfl, hexists, hhandled, hrules⟩
  · rw [hset] at hret
    cases hret
  have heq := hset.symm.trans hhandled
  simp only [Prod.mk.injEq, true_and] at heq
  obtain ⟨hmodules, rfl, rfl⟩ := heq
  have hcurrent : currentMap C s admin = current := by
    rw [currentMap, (deserialize_text hmaps.ascend hmaps.own).1]
    rfl
  have hcovered : Covered C POLICY_DISABLED_NETWORK_INTERFACE s.store admin (setEntry item current) := by
    rw [← hcurrent]
    refine hkeeps.2 item rest hparcel hexists ?_
    rintro ⟨hanswer, hnone, hwant⟩
    rw [hown] at hwant
    rcases hrules with ⟨-, -, htaken, -⟩ | ⟨hmem | hsame, -⟩
    · rw [hanswer] at htaken
      cases htaken
    · exact hnone (hmaps.others.held _ hmem)
    · exact not_iff_self (hwant.symm.trans hsame)
  obtain ⟨hreadable, hlisted, hcombined⟩ := hstored.keys h hmaps (keysAscend_setEntry hmaps.ascend)
    (fun _ => addMissing_spec hmaps.others.ascend) hcovered hunion.combined
  have hheld : ∀ k, k ∈ held (listed C s') ↔
      k ∈ heldByOthers (listed C s) admin ∨ k ∈ (setEntry item current).map Prod.fst := by
    intro k
    rw [listed, hlisted, held_update]
    exact Iff.rfl
  refine ⟨hreadable, ⟨hcombined, fun k => ?_⟩, fun _ => ?_⟩
  · rw [hheld, mem_keys_setEntry, hmodules]
    have hk' := hunion.enforced k
    rw [hbefore] at hk'
    by_cases hk : k = item.1
    · subst hk
      rcases hrules with ⟨hnone, hwant, -, rfl⟩ | ⟨hcase, rfl⟩
      · rw [Function.update_self]
        by_cases htrue : (item.2 == "true") = true
        · rw [if_pos htrue]
          exact iff_of_true htrue (.inr (.inl rfl))
        · rw [if_neg htrue]
          -- Others that forbid the interface would have it in the merged map.
          refine iff_of_false htrue ?_
          rintro (hothers | ⟨-, hne⟩)
          · have hdropped : item.1 ∉ (setEntry item current).map Prod.fst := by
              rw [mem_keys_setEntry, if_neg htrue]
              exact fun h => h.2 rfl
            exact hnone (hcovered.dropped hmaps (keysAscend_setEntry hmaps.ascend) hothers
              (not_not.mp fun h => htrue (hwant.mpr h)) hdropped)
          · exact hne rfl
      · rw [hk']
        rcases hcase with hmem | hwant
        · exact iff_of_true (.inl (hmaps.others.held _ hmem)) (.inl (hmaps.others.held _ hmem))
        · by_cases htrue : (item.2 == "true") = true
          · rw [if_pos htrue]
            exact iff_of_true (.inr (hwant.mp htrue)) (.inr (.inl rfl))
          · rw [if_neg htrue]
            have hnot : item.1 ∉ current.map Prod.fst := fun h => htrue (hwant.mpr h)
            exact or_congr_right (iff_of_false hnot fun h => hnot h.1)
    · have hrule : rules k = s.modules k := by
        rcases hrules with ⟨-, -, -, rfl⟩ | ⟨-, rfl⟩
        · exact Function.update_of_ne hk _ _
        · rfl
      rw [hrule, hk']
      refine or_congr_right ?_
      split
      · exact (or_iff_right hk).symm
      · exact (and_iff_left hk).symm
  · rw [listed, hlisted, listedAfter, hparcel, hcurrent]

theorem step_removeAdmin (h : Readable C POLICY_DISABLED_NETWORK_INTERFACE s.store)
    (hunion : FollowsUnion C s) (answers : String → Bool)
    (hkeeps : Keeps C s (.removeAdmin admin ⟨.done, .done⟩ answers))
    (hs' : policyStep (plugin C order) s (.removeAdmin admin ⟨.done, .done⟩ answers) = s') :
    Readable C POLICY_DISABLED_NETWORK_INTERFACE s'.store ∧ FollowsUnion C s' ∧
      listed C s' = Function.update (listed C s) admin ∅ := by
  rcases removeAdmin_cases policyName_ne h answers hs' with ⟨hempty, rfl⟩ |
    ⟨current, others, otherText, hmaps, hvalue, hother, hmodules, hreadable, hlisted, hcombined⟩
  · have hnone : listed C s' admin = ∅ := by
      rw [listed, MapStringPolicy.listed, itemsHeld, hempty, keysOf_empty]
    refine ⟨h, hunion, ?_⟩
    rw [← hnone, Function.update_eq_self]
  rcases hkeeps.2 with hempty | ⟨hall, hanswers⟩
  · exact absurd (hvalue.symm.trans hempty) (serialize_ne_empty current)
  have hothers : ∀ k, k ∈ others.map Prod.fst ↔ k ∈ heldByOthers (listed C s) admin := fun k =>
    ⟨hmaps.others.held k, fun hk => hmaps.others.everywhere k hk (hall k hk)⟩
  have hown : ∀ k, k ∈ listed C s admin ↔ k ∈ current.map Prod.fst := Set.ext_iff.mp hmaps.listed
  have hheld : ∀ k, k ∈ held (listed C s') ↔ k ∈ heldByOthers (listed C s) admin := by
    intro k
    rw [listed, hlisted, held_update, Set.union_empty]
  refine ⟨hreadable, ⟨?_, fun k => ?_⟩, hlisted⟩
  · rw [hcombined]
    exact Set.ext fun k => (hothers k).trans (hheld k).symm
  · have hcall : s'.modules = (onAdminRemove answers s.modules current others).2 := by
      rw [hmodules]
      unfold IPluginTemplate.adminRemove
      simp only [show (serializer C).deserialize = deserialize C from rfl, hother,
        deserialize_serialize hmaps.ascend]
    rw [hcall, onAdminRemove_ok fun k hk hnot =>
      hanswers k ((hown k).mpr hk) fun hothersK => hnot ((hothers k).mpr hothersK)]
    rw [hunion.enforced, hheld, held_eq _ admin, hothers]
    constructor
    · rintro ⟨hk | hk, himp⟩
      · exact hk
      · exact himp ((hown k).mp hk)
    · exact fun hk => ⟨.inl hk, fun _ => hk⟩

/-- What an operation that keeps the union does. -/
theorem step_keeps (order : HashOrder) (h : Readable C POLICY_DISABLED_NETWORK_INTERFACE s.store)
    (hunion : FollowsUnion C s) (op : Op) (hkeeps : Keeps C s op) :
    Readable C POLICY_DISABLED_NETWORK_INTERFACE (policyStep (plugin C order) s op).store ∧
      FollowsUnion C (policyStep (plugin C order) s op) ∧
      (Succeeds C order s op → listed C (policyStep (plugin C order) s op) =
        Function.update (listed C s) op.admin (listedAfter C s op)) := by
  cases op with
  | update admin writes request =>
    obtain ⟨rfl, hset⟩ := hkeeps
    exact step_update h hunion request ⟨rfl, hset⟩ rfl
  | removeAdmin admin writes answers =>
    obtain ⟨rfl, hremove⟩ := hkeeps
    obtain ⟨hreadable, hfollows, hlisted⟩ := step_removeAdmin h hunion answers ⟨rfl, hremove⟩ rfl
    exact ⟨hreadable, hfollows, fun _ => hlisted⟩

theorem followsUnion_boot (userId : Int) :
    Readable C POLICY_DISABLED_NETWORK_INTERFACE (boot userId).store ∧
      FollowsUnion C (boot userId) := by
  have hnone : held (listed C (boot userId)) = ∅ := held_new keysOf_empty userId
  refine ⟨textStore_new isText_empty userId, ?_, fun k => ?_⟩
  · rw [hnone, combinedKeys]
    exact (congrArg (keysOf C) (policyValue_new userId _ _)).trans keysOf_empty
  · rw [hnone]
    exact iff_of_false Bool.false_ne_true (Set.notMem_empty k)

end Step

/-! ### Runs -/

/-- The result of an operation that succeeds does not depend on the order in which the others' maps
are visited. -/
def OrderFree (s : PluginState Rules) (op : Op) : Prop :=
  ∀ order', Succeeds C order s op → Succeeds C order' s op →
    SameResult C POLICY_DISABLED_NETWORK_INTERFACE (policyStep (plugin C order) s op)
      (policyStep (plugin C order') s op)

theorem orderFree_of_keeps {s : PluginState Rules}
    (h : Readable C POLICY_DISABLED_NETWORK_INTERFACE s.store) (hunion : FollowsUnion C s) {op : Op}
    (hkeeps : Keeps C s op) : OrderFree C order s op := by
  intro order' hok hok'
  obtain ⟨-, hfollows, hlisted⟩ := step_keeps order h hunion op hkeeps
  obtain ⟨-, hfollows', hlisted'⟩ := step_keeps order' h hunion op hkeeps
  have hsame := (hlisted hok).trans (hlisted' hok').symm
  refine ⟨funext fun k => Bool.eq_iff_iff.mpr ?_, hsame, ?_⟩
  · rw [hfollows.enforced, hfollows'.enforced, hsame]
  · rw [hfollows.combined, hfollows'.combined, hsame]

/-- In a run whose operations all keep the union, the combined map and the rules follow the admins'
maps throughout, in whichever order maps are visited. -/
theorem always_followsUnion (userId : Int) (ops : List Op)
    (h : Each (policyStep (plugin C order)) (Keeps C) (boot userId) ops) :
    Always (policyStep (plugin C order)) (FollowsUnion C) (boot userId) ops ∧
      Each (policyStep (plugin C order)) (OrderFree C order) (boot userId) ops := by
  have hstep : ∀ s op, Readable C POLICY_DISABLED_NETWORK_INTERFACE s.store ∧ FollowsUnion C s →
      Keeps C s op → Readable C POLICY_DISABLED_NETWORK_INTERFACE
        (policyStep (plugin C order) s op).store ∧ FollowsUnion C (policyStep (plugin C order) s op) :=
    fun s op hs hkeeps =>
      ⟨(step_keeps order hs.1 hs.2 op hkeeps).1, (step_keeps order hs.1 hs.2 op hkeeps).2.1⟩
  refine ⟨?_, ?_⟩
  · have hrun : Always (policyStep (plugin C order)) (fun s =>
        Readable C POLICY_DISABLED_NETWORK_INTERFACE s.store ∧ FollowsUnion C s) (boot userId) ops :=
      always_of_each hstep (followsUnion_boot userId) h
    exact hrun.mono fun _ hs => hs.2
  · exact each_of_each hstep (fun s op hs hkeeps => orderFree_of_keeps C order hs.1 hs.2 hkeeps)
      (followsUnion_boot userId) h

end DisabledNetworkInterfacePlugin

end Edm
