import Edm.Library.Holders
import Edm.Plugin.PolicyRun
import Edm.Plugin.Template

/-! Policies whose values stand for sets of items: what each admin holds, what the others hold as
`GetOthersMergePolicyData` sees it, and what an operation whose writes take effect makes of both. -/

set_option autoImplicit false

namespace Edm

open Library Library.UnorderedMap

/-! ### What the admins hold -/

section Items

variable {Item : Type} (itemsOf : String → Set Item) (p : String)

/-- The items that an admin's value stands for. -/
def itemsHeld (s : UserStore) (admin : AdminName) : Set Item :=
  itemsOf (s.manager.policyValue admin p)

variable {itemsOf p} {s s' : UserStore} {admin : AdminName} {v merged : String}

theorem itemsHeld_saved (h : Saved s s' admin p v merged) :
    itemsHeld itemsOf p s' = Function.update (itemsHeld itemsOf p s) admin (itemsOf v) := by
  funext other
  by_cases hother : other = admin
  · subst hother
    rw [Function.update_self, itemsHeld, h.value_self other.2]
  · rw [Function.update_of_ne hother, itemsHeld, itemsHeld,
      h.value_other other.2 fun heq => hother (Subtype.ext heq.1)]

theorem held_saved (h : Saved s s' admin p v merged) :
    held (itemsHeld itemsOf p s') = heldByOthers (itemsHeld itemsOf p s) admin ∪ itemsOf v := by
  rw [itemsHeld_saved h, held_update]

theorem itemsHeld_new (hempty : itemsOf "" = ∅) (userId : Int) (admin : AdminName) :
    itemsHeld itemsOf p ⟨UserPolicyManager.new userId, PolicyTables.empty⟩ admin = ∅ := by
  rw [itemsHeld, policyValue_new, hempty]

theorem held_new (hempty : itemsOf "" = ∅) (userId : Int) :
    held (itemsHeld itemsOf p ⟨UserPolicyManager.new userId, PolicyTables.empty⟩) = ∅ := by
  refine Set.eq_empty_iff_forall_notMem.mpr ?_
  rintro x ⟨admin, hx⟩
  rw [itemsHeld_new hempty] at hx
  exact hx

end Items

/-! ### The texts of the values -/

/-- A store whose values of a policy are all of a kind. -/
structure TextStore (IsText : String → Prop) (p : String) (s : UserStore) : Prop where
  good : GoodStore s
  text : ∀ a, IsText (s.manager.policyValue a p)

section Texts

variable {IsText : String → Prop} {p : String} {s s' : UserStore} {admin : AdminName}
  {v merged : String}

theorem textStore_new (hempty : IsText "") (userId : Int) :
    TextStore IsText p ⟨UserPolicyManager.new userId, PolicyTables.empty⟩ where
  good := goodStore_new userId
  text a := by
    rw [policyValue_new]
    exact hempty

theorem TextStore.saved (h : TextStore IsText p s) (hsaved : Saved s s' admin p v merged)
    (hv : IsText v) (hmerged : IsText merged) : TextStore IsText p s' where
  good := h.good.saved admin.2 hsaved
  text a := by
    by_cases ha : a = ""
    · rw [ha, hsaved.value_combined]
      exact hmerged
    · by_cases hadmin : a = admin
      · rw [hadmin, hsaved.value_self admin.2]
        exact hv
      · rw [hsaved.value_other ha fun heq => hadmin heq.1]
        exact h.text a

/-- The texts are those of the values of the policy. -/
theorem TextStore.congr (h : TextStore IsText p s) (hgood : GoodStore s')
    (hvalue : ∀ a, s'.manager.policyValue a p = s.manager.policyValue a p) :
    TextStore IsText p s' where
  good := hgood
  text a := by
    rw [hvalue]
    exact h.text a

end Texts

/-! ### The others' values -/

/-- The other admins' values, in the order in which they are visited. -/
def othersValues (order : HashOrder) (m : UserPolicyManager) (p adminName : String) : List String :=
  (order.entries ((m.adminValues p).erase adminName)).map Prod.snd

section Others

variable {s : UserStore} {p : String}

theorem GoodStore.mem_othersValues (h : GoodStore s) (order : HashOrder) (admin : AdminName)
    {v : String} : v ∈ othersValues order s.manager p admin ↔
      v ≠ "" ∧ ∃ other : AdminName, other ≠ admin ∧ s.manager.policyValue other p = v := by
  have hentry := fun x w => ((order.enumerates
    ((s.manager.adminValues p).erase admin.1)).mem_iff x w).trans (h.lookup_others admin p x w)
  unfold othersValues
  rw [List.mem_map]
  constructor
  · rintro ⟨⟨x, w⟩, hmem, rfl⟩
    obtain ⟨hx, hne, rfl, hw⟩ := (hentry x w).mp hmem
    exact ⟨hw, ⟨x, hx⟩, hne, rfl⟩
  · rintro ⟨hv, other, hne, rfl⟩
    exact ⟨(other.1, _), (hentry other.1 _).mpr ⟨other.2, hne, rfl, hv⟩, rfl⟩

/-- A relation between the values of any two other admins. -/
theorem GoodStore.pairwise_othersValues (h : GoodStore s) (order : HashOrder) (admin : AdminName)
    {R : String → String → Prop} (hR : ∀ other other' : AdminName, other ≠ admin →
      other' ≠ admin → other ≠ other' →
        R (s.manager.policyValue other p) (s.manager.policyValue other' p)) :
    (othersValues order s.manager p admin).Pairwise R := by
  have henumerates := order.enumerates ((s.manager.adminValues p).erase admin.1)
  refine List.pairwise_map.mpr ((List.pairwise_map.mp henumerates.nodup).imp_of_mem ?_)
  rintro ⟨x, v⟩ ⟨y, w⟩ hv hw hne
  obtain ⟨hx, hxadmin, rfl, -⟩ := (h.lookup_others admin p x v).mp ((henumerates.mem_iff x v).mp hv)
  obtain ⟨hy, hyadmin, rfl, -⟩ := (h.lookup_others admin p y w).mp ((henumerates.mem_iff y w).mp hw)
  exact hR ⟨x, hx⟩ ⟨y, hy⟩ hxadmin hyadmin fun heq => hne (congrArg Subtype.val heq)

theorem isEmpty_others (order : HashOrder) (admin : AdminName) :
    isEmpty ((s.manager.adminValues p).erase admin.1) = true ↔
      othersValues order s.manager p admin = [] := by
  have hmem := (order.enumerates ((s.manager.adminValues p).erase admin.1)).mem_iff
  rw [Library.UnorderedMap.isEmpty_iff, eq_empty_iff]
  unfold othersValues
  rw [List.map_eq_nil_iff, List.eq_nil_iff_forall_not_mem]
  constructor
  · rintro hnone ⟨x, w⟩ hw
    have hlookup := (hmem x w).mp hw
    rw [hnone x] at hlookup
    cases hlookup
  · intro hnil x
    rw [Option.eq_none_iff_forall_not_mem]
    exact fun w hw => hnil (x, w) ((hmem x w).mpr hw)

/-- What the others hold, in terms of their values. -/
theorem GoodStore.mem_heldByOthers {Item : Type} {itemsOf : String → Set Item} (h : GoodStore s)
    (hempty : itemsOf "" = ∅) (order : HashOrder) (admin : AdminName) {x : Item} :
    x ∈ heldByOthers (itemsHeld itemsOf p s) admin ↔
      ∃ v, v ∈ othersValues order s.manager p admin ∧ x ∈ itemsOf v := by
  constructor
  · rintro ⟨other, hne, hx⟩
    refine ⟨_, (h.mem_othersValues order admin).mpr ⟨?_, other, hne, rfl⟩, hx⟩
    intro hv
    rw [itemsHeld, hv, hempty] at hx
    exact hx
  · rintro ⟨v, hv, hx⟩
    obtain ⟨-, other, hne, rfl⟩ := (h.mem_othersValues order admin).mp hv
    exact ⟨other, hne, hx⟩

/-- The text of the merged data, where the values can be read. -/
theorem getOthersMergePolicyData_read {DT : Type} (serializer : PolicySerializer DT)
    (h : GoodStore s) (order : HashOrder) (admin : AdminName) {data : String → DT}
    (hread : ∀ v, v ∈ othersValues order s.manager p admin →
      serializer.deserialize v = some (data v)) :
    IPluginTemplate.getOthersMergePolicyData serializer order p s.manager admin =
      if othersValues order s.manager p admin = [] then ""
      else ((serializer.mergePolicy ((othersValues order s.manager p admin).map data)).bind
        serializer.serialize).getD "" := by
  unfold IPluginTemplate.getOthersMergePolicyData
  dsimp only
  by_cases hempty : isEmpty ((s.manager.adminValues p).erase admin.1) = true
  · rw [if_pos hempty, if_pos ((isEmpty_others order admin).mp hempty)]
  · rw [if_neg hempty, if_neg fun hnil => hempty ((isEmpty_others order admin).mpr hnil)]
    have hfilter : (othersValues order s.manager p admin).filter (fun value => value != "") =
        othersValues order s.manager p admin :=
      List.filter_eq_self.mpr fun v hv => bne_iff_ne.mpr ((h.mem_othersValues order admin).mp hv).1
    have hvalues : IPluginTemplate.deserializeValues serializer
        (othersValues order s.manager p admin) =
          some ((othersValues order s.manager p admin).map data) := by
      rw [IPluginTemplate.deserializeValues, hfilter]
      exact mapM_some hread
    unfold othersValues at hvalues ⊢
    rw [hvalues]
    rfl

/-- The text of the merged data, where merging is the union: the merged data has the items of the
others. -/
theorem getOthersMergePolicyData_union {DT Item : Type} (serializer : PolicySerializer DT)
    (h : GoodStore s) (order : HashOrder) (admin : AdminName) (itemsOf : String → Set Item)
    (items : DT → Set Item) (data : String → DT) {merge : List DT → DT} {write : DT → String}
    (hmerge : ∀ lists, serializer.mergePolicy lists = some (merge lists))
    (hwrite : ∀ d, serializer.serialize d = some (write d)) (hnil : write (merge []) = "")
    (hempty : itemsOf "" = ∅)
    (hread : ∀ other : AdminName, serializer.deserialize (s.manager.policyValue other p) =
        some (data (s.manager.policyValue other p)) ∧
      itemsOf (s.manager.policyValue other p) = items (data (s.manager.policyValue other p)))
    (hunion : ∀ lists x, x ∈ items (merge lists) ↔ ∃ d, d ∈ lists ∧ x ∈ items d) :
    IPluginTemplate.getOthersMergePolicyData serializer order p s.manager admin =
        write (merge ((othersValues order s.manager p admin).map data)) ∧
      ∀ x, x ∈ items (merge ((othersValues order s.manager p admin).map data)) ↔
        x ∈ heldByOthers (itemsHeld itemsOf p s) admin := by
  have hvalue : ∀ v, v ∈ othersValues order s.manager p admin →
      serializer.deserialize v = some (data v) ∧ itemsOf v = items (data v) := by
    intro v hv
    obtain ⟨-, other, -, rfl⟩ := (h.mem_othersValues order admin).mp hv
    exact hread other
  refine ⟨?_, fun x => ?_⟩
  · rw [getOthersMergePolicyData_read serializer h order admin fun v hv => (hvalue v hv).1]
    by_cases hnone : othersValues order s.manager p admin = []
    · rw [if_pos hnone, hnone, List.map_nil, hnil]
    · rw [if_neg hnone, hmerge]
      show (serializer.serialize _).getD "" = _
      rw [hwrite]
      rfl
  · rw [hunion, h.mem_heldByOthers hempty order admin]
    constructor
    · rintro ⟨d, hd, hx⟩
      obtain ⟨v, hv, rfl⟩ := List.mem_map.mp hd
      exact ⟨v, hv, (hvalue v hv).2 ▸ hx⟩
    · rintro ⟨v, hv, hx⟩
      exact ⟨data v, List.mem_map_of_mem hv, (hvalue v hv).2 ▸ hx⟩

end Others

/-! ### Operations whose writes take effect -/

section Steps

variable {Modules Req Reply Event : Type} (plugin : Plugin Modules Req Reply Event)
  {s : PluginState Modules} (admin : AdminName)

/-- An update leaves the store, or saves what the handler made of the values. -/
theorem policyStep_update_cases (h : GoodStore s.store) (hname : plugin.policyName ≠ "")
    {request : Req} {ret : ErrCode} {modules : Modules} {handled : HandlePolicyData}
    (hcall : plugin.onHandlePolicy s.store.manager s.modules request
      (PluginManager.handlePolicyData plugin s admin) = (ret, modules, handled)) :
    (policyStep plugin s (.update admin ⟨.done, .done⟩ request)).modules = modules ∧
      ((failed ret = true ∨ (plugin.needSave && handled.isChanged) = false) ∧
          (policyStep plugin s (.update admin ⟨.done, .done⟩ request)).store = s.store ∨
        failed ret = false ∧ (plugin.needSave && handled.isChanged) = true ∧
          Saved s.store (policyStep plugin s (.update admin ⟨.done, .done⟩ request)).store admin
            plugin.policyName handled.policyData handled.mergePolicyData) := by
  have hstep : policyStep plugin s (.update admin ⟨.done, .done⟩ request) =
      (PluginManager.updateDevicePolicy plugin s ⟨.done, .done⟩ admin request).2 := rfl
  rw [hstep]
  unfold PluginManager.updateDevicePolicy
  rw [hcall]
  dsimp only
  by_cases hret : failed ret = true
  · rw [if_pos hret]
    exact ⟨rfl, .inl ⟨.inl hret, rfl⟩⟩
  · rw [if_neg hret]
    by_cases hchanged : (plugin.needSave && handled.isChanged) = true
    · rw [if_pos hchanged]
      exact ⟨rfl, .inr ⟨Bool.eq_false_iff.mpr hret, hchanged,
        saved_setPolicy h.inverse admin.2 hname _ _⟩⟩
    · rw [if_neg hchanged]
      exact ⟨rfl, .inl ⟨.inr (Bool.eq_false_iff.mpr hchanged), rfl⟩⟩

/-- An update that succeeds, of a plugin that compares the admin's value with the new one. -/
theorem policyStep_update_ok (h : GoodStore s.store) (hname : plugin.policyName ≠ "")
    (hsave : plugin.needSave = true) {request : Req} {modules : Modules} {after merged : String}
    {changed : Bool}
    (hcall : plugin.onHandlePolicy s.store.manager s.modules request
      (PluginManager.handlePolicyData plugin s admin) = (ERR_OK, modules, ⟨after, merged, changed⟩))
    (hchanged : changed = true ↔ s.store.manager.policyValue admin plugin.policyName ≠ after) :
    (policyStep plugin s (.update admin ⟨.done, .done⟩ request)).modules = modules ∧
      (s.store.manager.policyValue admin plugin.policyName = after ∧
          (policyStep plugin s (.update admin ⟨.done, .done⟩ request)).store = s.store ∨
        s.store.manager.policyValue admin plugin.policyName ≠ after ∧
          Saved s.store (policyStep plugin s (.update admin ⟨.done, .done⟩ request)).store admin
            plugin.policyName after merged) := by
  obtain ⟨hmodules, hstore⟩ := policyStep_update_cases plugin admin h hname hcall
  refine ⟨hmodules, ?_⟩
  rw [hsave, Bool.true_and] at hstore
  rcases hstore with ⟨hok | hsame, hstore⟩ | ⟨-, hnew, hsaved⟩
  · cases hok
  · refine .inl ⟨not_not.mp fun hne => ?_, hstore⟩
    have hsame : changed = false := hsame
    rw [hchanged.mpr hne] at hsame
    cases hsame
  · exact .inr ⟨hchanged.mp hnew, hsaved⟩

/-- What the admins hold after an update that succeeds. -/
theorem itemsHeld_update_ok {Item : Type} (itemsOf : String → Set Item) {p after merged : String}
    {s s' : UserStore} (hstore : s.manager.policyValue admin p = after ∧ s' = s ∨
      s.manager.policyValue admin p ≠ after ∧ Saved s s' admin p after merged) :
    itemsHeld itemsOf p s' = Function.update (itemsHeld itemsOf p s) admin (itemsOf after) := by
  rcases hstore with ⟨hvalue, rfl⟩ | ⟨-, hsaved⟩
  · rw [← hvalue]
    exact (Function.update_eq_self admin (itemsHeld itemsOf p s')).symm
  · exact itemsHeld_saved hsaved

/-- A removal does nothing for an admin without a value, and else drops the value. -/
theorem policyStep_removeAdmin_cases (h : GoodStore s.store) (hname : plugin.policyName ≠ "")
    (hsave : plugin.needSave = true) (reply : Reply) :
    s.store.manager.policyValue admin plugin.policyName = "" ∧
        policyStep plugin s (.removeAdmin admin ⟨.done, .done⟩ reply) = s ∨
      s.store.manager.policyValue admin plugin.policyName ≠ "" ∧
        (policyStep plugin s (.removeAdmin admin ⟨.done, .done⟩ reply)).modules =
          (plugin.onAdminRemove s.modules reply
            (s.store.manager.policyValue admin plugin.policyName)
            (plugin.getOthersMergePolicyData s.store.manager admin)).2 ∧
        Saved s.store (policyStep plugin s (.removeAdmin admin ⟨.done, .done⟩ reply)).store admin
          plugin.policyName "" (plugin.getOthersMergePolicyData s.store.manager admin) := by
  by_cases hvalue : s.store.manager.policyValue admin plugin.policyName = ""
  · exact .inl ⟨hvalue, policyStep_removeAdmin_none plugin admin _ reply h hvalue⟩
  · obtain ⟨subscribed, hstep⟩ := policyStep_removeAdmin_held plugin admin ⟨.done, .done⟩ reply h
      hsave hvalue
    refine .inr ⟨hvalue, ?_⟩
    rw [hstep]
    exact ⟨rfl, saved_setPolicy h.inverse admin.2 hname _ _⟩

/-- An operation on a policy leaves the other policies. -/
theorem policyStep_other (h : GoodStore s.store) (hname : plugin.policyName ≠ "")
    (hsave : plugin.needSave = true) {op : PolicyOp Req Reply} (hwrites : op.writes = ⟨.done, .done⟩)
    {q : String} (hq : q ≠ plugin.policyName) (a : String) :
    (policyStep plugin s op).store.manager.policyValue a q = s.store.manager.policyValue a q := by
  cases op with
  | update admin writes request =>
    obtain rfl : writes = ⟨.done, .done⟩ := hwrites
    obtain ⟨⟨ret, modules, handled⟩, hcall⟩ : ∃ result, plugin.onHandlePolicy s.store.manager
      s.modules request (PluginManager.handlePolicyData plugin s admin) = result := ⟨_, rfl⟩
    rcases (policyStep_update_cases plugin admin h hname hcall).2 with ⟨-, hsame⟩ | ⟨-, -, h'⟩
    · rw [hsame]
    · exact h'.value_policy hq a
  | removeAdmin admin writes reply =>
    obtain rfl : writes = ⟨.done, .done⟩ := hwrites
    rcases policyStep_removeAdmin_cases plugin admin h hname hsave reply with
      ⟨-, hsame⟩ | ⟨-, -, h'⟩
    · rw [hsame]
    · exact h'.value_policy hq a

end Steps

/-- Where only one admin has done anything, the others hold nothing. -/
theorem heldByOthers_alone {Modules Req Reply Event Item : Type}
    (plugin : Plugin Modules Req Reply Event) (hname : plugin.policyName ≠ "")
    {itemsOf : String → Set Item} (hempty : itemsOf "" = ∅) (modules : Modules) (userId : Int)
    (ops : List (PolicyOp Req Reply)) {admin : AdminName} (h : ∀ op, op ∈ ops → op.admin = admin) :
    heldByOthers (itemsHeld itemsOf plugin.policyName
      (run (policyStep plugin) (PluginState.boot modules userId) ops).store) admin = ∅ := by
  refine Set.eq_empty_iff_forall_notMem.mpr ?_
  rintro k ⟨other, hother, hk⟩
  rw [itemsHeld, run_value_none plugin hname modules userId ops fun op hop heq =>
    hother (heq.trans (h op hop)), hempty] at hk
  exact hk

/-! ### Admins of runs to evaluate -/

def firstAdmin : AdminName := ⟨"com.first", by decide⟩

def secondAdmin : AdminName := ⟨"com.second", by decide⟩

/-- An order of the entries that can be evaluated. -/
abbrev HashOrder.evaluated : HashOrder := .ofKeys .ascending

end Edm
