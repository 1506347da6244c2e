import Edm.Plugin.ItemPolicy

/-! Plugins that drive their modules when an event arrives.  The event is dispatched to the admins
that have a value, one after the other. -/

set_option autoImplicit false

namespace Edm

open Library Library.UnorderedMap

/-- A plugin with the handler of its events.  An event comes with the answers of the modules. -/
structure EventPlugin (Modules Req Reply Event : Type) extends Plugin Modules Req Reply Empty where
  onEvent : Modules → HandlePolicyData → Event → Modules × HandlePolicyData

/-- An operation on the policy of a user, or an event.  The answers may differ from admin to
admin. -/
inductive DispatchOp (Req Reply Event : Type) where
  | policy (op : PolicyOp Req Reply)
  | event (writes : String → Writes) (event : String → Event)

namespace EventPlugin

variable {Modules Req Reply Event : Type} (plugin : EventPlugin Modules Req Reply Event)

/-- The step of `DispatchForAdmins` for one entry of the snapshot. -/
def visit (writes : Writes) (event : Event) (s : PluginState Modules)
    (adminName adminValue : String) : PluginState Modules :=
  let (modules, handled) := plugin.onEvent s.modules
    { policyData := adminValue
      mergePolicyData := plugin.getOthersMergePolicyData s.store.manager adminName
      isChanged := false } event
  if plugin.needSave then
    let store := (s.store.setPolicy writes adminName plugin.policyName handled.policyData
      handled.mergePolicyData).2
    { store, modules, subscribed := s.subscribed && handled.mergePolicyData != "" }
  else { s with modules }

/-- The step for an entry, with what becomes of the writes and the answers for its admin. -/
def visitEntry (writes : String → Writes) (event : String → Event) (s : PluginState Modules)
    (entry : String × String) : PluginState Modules :=
  plugin.visit (writes entry.1) (event entry.1) s entry.1 entry.2

/-- The entries of the snapshot, in the order in which they are visited. -/
def snapshot (order : HashOrder) (s : PluginState Modules) : List (String × String) :=
  order.entries (s.store.manager.adminValues plugin.policyName)

def dispatchForAdmins (order : HashOrder) (writes : String → Writes) (event : String → Event)
    (s : PluginState Modules) : PluginState Modules :=
  run (plugin.visitEntry writes event) s (plugin.snapshot order s)

def step (order : HashOrder) (s : PluginState Modules) :
    DispatchOp Req Reply Event → PluginState Modules
  | .policy op => policyStep plugin.toPlugin s op
  | .event writes event => plugin.dispatchForAdmins order writes event s

/-- A condition on every visit of an event, in the state in which the admin is visited. -/
def EachVisit (order : HashOrder) (writes : String → Writes) (event : String → Event)
    (K : PluginState Modules → AdminName → Prop) (s : PluginState Modules) : Prop :=
  Each (plugin.visitEntry writes event) (fun s entry => ∀ admin : AdminName, admin.1 = entry.1 →
    K s admin) s (plugin.snapshot order s)

/-! ### One visit -/

section Visit

variable {s : PluginState Modules}

/-- A visit saves what the handler makes of the values. -/
theorem visit_saved (h : GoodStore s.store) (hname : plugin.policyName ≠ "")
    (hsave : plugin.needSave = true) (event : Event) (admin : AdminName) {adminValue : String}
    {modules : Modules} {handled : HandlePolicyData}
    (hevent : plugin.onEvent s.modules
      { policyData := adminValue
        mergePolicyData := plugin.getOthersMergePolicyData s.store.manager admin
        isChanged := false } event = (modules, handled)) :
    (plugin.visit ⟨.done, .done⟩ event s admin adminValue).modules = modules ∧
      Saved s.store (plugin.visit ⟨.done, .done⟩ event s admin adminValue).store admin
        plugin.policyName handled.policyData handled.mergePolicyData := by
  unfold visit
  rw [hevent]
  dsimp only
  rw [if_pos hsave]
  exact ⟨rfl, saved_setPolicy h.inverse admin.2 hname _ _⟩

/-- A visit leaves the values of the other admins. -/
theorem visit_value_other (hname : plugin.policyName ≠ "") (writes : Writes) (event : Event)
    (admin : AdminName) (adminValue : String) {other : AdminName} (hother : other ≠ admin) :
    (plugin.visit writes event s admin adminValue).store.manager.policyValue other
      plugin.policyName = s.store.manager.policyValue other plugin.policyName := by
  unfold visit
  dsimp only
  split
  · exact setPolicy_value_other s.store _ _ writes admin.2 hname other.2
      fun heq => hother (Subtype.ext heq.1)
  · rfl

end Visit

/-! ### The visits of an event -/

/-- Entries whose values are the admins' values: what holds of the part of the snapshot that is
still to be visited. -/
structure Current (s : PluginState Modules) (entries : List (String × String)) : Prop where
  nodup : (entries.map Prod.fst).Nodup
  value : ∀ x v, (x, v) ∈ entries →
    ∃ _ : x ≠ "", v = s.store.manager.policyValue x plugin.policyName ∧ v ≠ ""

theorem current_snapshot (order : HashOrder) {s : PluginState Modules} (h : GoodStore s.store) :
    plugin.Current s (plugin.snapshot order s) where
  nodup := (order.enumerates _).nodup
  value x v hmem :=
    (h.lookup_values plugin.policyName x v).mp (((order.enumerates _).mem_iff x v).mp hmem)

/-- The admins that are visited are those that have a value. -/
theorem mem_snapshot (order : HashOrder) {s : PluginState Modules} (h : GoodStore s.store)
    (admin : AdminName) : admin.1 ∈ (plugin.snapshot order s).map Prod.fst ↔
      s.store.manager.policyValue admin plugin.policyName ≠ "" := by
  constructor
  · intro hmem
    obtain ⟨⟨x, v⟩, hentry, hx⟩ := List.mem_map.mp hmem
    obtain ⟨-, rfl, hvalue⟩ := (plugin.current_snapshot order h).value x v hentry
    exact hx ▸ hvalue
  · intro hvalue
    have hlookup := (h.lookup_values plugin.policyName admin _).mpr ⟨admin.2, rfl, hvalue⟩
    exact List.mem_map_of_mem (((order.enumerates _).mem_iff _ _).mpr hlookup)

/-- What every visit that meets its condition keeps, is kept by the event. -/
theorem dispatchForAdmins_keeps {I : PluginState Modules → Prop}
    {K : PluginState Modules → AdminName → Prop} {order : HashOrder} {writes : String → Writes}
    {event : String → Event} (hname : plugin.policyName ≠ "")
    (hgood : ∀ s, I s → GoodStore s.store)
    (hvisit : ∀ s admin, I s → K s admin →
      s.store.manager.policyValue admin plugin.policyName ≠ "" →
      I (plugin.visit (writes admin) (event admin) s admin
        (s.store.manager.policyValue admin plugin.policyName)))
    {s : PluginState Modules} (hs : I s) (hK : plugin.EachVisit order writes event K s) :
    I (plugin.dispatchForAdmins order writes event s) := by
  have hentries := plugin.current_snapshot order (hgood s hs)
  unfold EachVisit at hK
  unfold dispatchForAdmins
  generalize plugin.snapshot order s = entries at hentries hK ⊢
  induction entries generalizing s with
  | nil => exact hs
  | cons entry entries ih =>
    obtain ⟨x, v⟩ := entry
    obtain ⟨hx, rfl, hvalue⟩ := hentries.value x v List.mem_cons_self
    obtain ⟨hhead, htail⟩ := List.nodup_cons.mp hentries.nodup
    obtain ⟨hfirst, hrest⟩ := hK
    refine ih (hvisit s ⟨x, hx⟩ hs (hfirst ⟨x, hx⟩ rfl) hvalue) ⟨htail, fun y w hmem => ?_⟩ hrest
    -- The visit of `x` leaves the values of the admins still to be visited.
    obtain ⟨hy, rfl, hw⟩ := hentries.value y w (List.mem_cons_of_mem _ hmem)
    have hne : (⟨y, hy⟩ : AdminName) ≠ ⟨x, hx⟩ := by
      intro heq
      obtain rfl : y = x := congrArg Subtype.val heq
      exact hhead (List.mem_map_of_mem hmem)
    exact ⟨hy, (plugin.visit_value_other hname (writes x) (event x) ⟨x, hx⟩ _ hne).symm, hw⟩

/-- An event leaves every value as its admin's visit makes it. -/
theorem dispatchForAdmins_visited {I : PluginState Modules → Prop}
    {K : PluginState Modules → AdminName → Prop} {Q : AdminName → String → Prop}
    {order : HashOrder} {writes : String → Writes} {event : String → Event}
    (hname : plugin.policyName ≠ "") (hgood : ∀ s, I s → GoodStore s.store)
    {s : PluginState Modules} (hs : I s) (hK : plugin.EachVisit order writes event K s)
    (hvisit : ∀ s admin, I s → K s admin →
      s.store.manager.policyValue admin plugin.policyName ≠ "" →
      let s' := plugin.visit (writes admin) (event admin) s admin
        (s.store.manager.policyValue admin plugin.policyName)
      I s' ∧ Q admin (s'.store.manager.policyValue admin plugin.policyName)) :
    I (plugin.dispatchForAdmins order writes event s) ∧
      ∀ admin : AdminName,
        (s.store.manager.policyValue admin plugin.policyName ≠ "" →
          Q admin ((plugin.dispatchForAdmins order writes event s).store.manager.policyValue admin
            plugin.policyName)) ∧
        (s.store.manager.policyValue admin plugin.policyName = "" →
          (plugin.dispatchForAdmins order writes event s).store.manager.policyValue admin
            plugin.policyName = "") := by
  have hentries := plugin.current_snapshot order (hgood s hs)
  have hsnapshot := plugin.mem_snapshot order (hgood s hs)
  unfold EachVisit at hK
  unfold dispatchForAdmins
  generalize plugin.snapshot order s = entries at hentries hK hsnapshot ⊢
  suffices hrun : I (run (plugin.visitEntry writes event) s entries) ∧ ∀ admin : AdminName,
      (admin.1 ∈ entries.map Prod.fst → Q admin ((run (plugin.visitEntry writes event) s
        entries).store.manager.policyValue admin plugin.policyName)) ∧
      (admin.1 ∉ entries.map Prod.fst → (run (plugin.visitEntry writes event) s
        entries).store.manager.policyValue admin plugin.policyName =
          s.store.manager.policyValue admin plugin.policyName) from
    ⟨hrun.1, fun admin => ⟨fun hvalue => (hrun.2 admin).1 ((hsnapshot admin).mpr hvalue),
      fun hvalue => ((hrun.2 admin).2 fun hmem => (hsnapshot admin).mp hmem hvalue).trans hvalue⟩⟩
  clear hsnapshot
  induction entries generalizing s with
  | nil => exact ⟨hs, fun admin => ⟨fun h => absurd h List.not_mem_nil, fun _ => rfl⟩⟩
  | cons entry entries ih =>
    obtain ⟨x, v⟩ := entry
    obtain ⟨hx, rfl, hvalue⟩ := hentries.value x v List.mem_cons_self
    obtain ⟨hhead, htail⟩ := List.nodup_cons.mp hentries.nodup
    obtain ⟨hfirst, hrest⟩ := hK
    obtain ⟨hI, hQ⟩ := hvisit s ⟨x, hx⟩ hs (hfirst ⟨x, hx⟩ rfl) hvalue
    have hother : ∀ admin : AdminName, admin.1 ≠ x →
        (plugin.visit (writes x) (event x) s x (s.store.manager.policyValue x
          plugin.policyName)).store.manager.policyValue admin plugin.policyName =
            s.store.manager.policyValue admin plugin.policyName := fun admin hne =>
      plugin.visit_value_other hname (writes x) (event x) ⟨x, hx⟩ _
        fun heq => hne (congrArg Subtype.val heq)
    have hcurrent : plugin.Current (plugin.visit (writes x) (event x) s x
        (s.store.manager.policyValue x plugin.policyName)) entries := by
      refine ⟨htail, fun y w hmem => ?_⟩
      obtain ⟨hy, rfl, hw⟩ := hentries.value y w (List.mem_cons_of_mem _ hmem)
      refine ⟨hy, (hother ⟨y, hy⟩ ?_).symm, hw⟩
      rintro rfl
      exact hhead (List.mem_map_of_mem hmem)
    obtain ⟨hlast, hvalues⟩ := ih hI hcurrent hrest
    refine ⟨hlast, fun admin => ⟨fun hmem => ?_, fun hmem => ?_⟩⟩
    · rcases List.mem_cons.mp hmem with heq | hmem
      · obtain rfl : (⟨x, hx⟩ : AdminName) = admin := Subtype.ext heq.symm
        refine cast (congrArg (Q _) ?_) hQ
        exact ((hvalues ⟨x, hx⟩).2 hhead).symm
      · exact (hvalues admin).1 hmem
    · rw [List.map_cons, List.mem_cons, not_or] at hmem
      obtain ⟨hne, hnot⟩ := hmem
      exact ((hvalues admin).2 hnot).trans (hother admin hne)

/-! ### The last visit of an event -/

/-- The admin is visited last. -/
def Last (order : HashOrder) (s : PluginState Modules) (last : AdminName) : Prop :=
  ∃ entries v, plugin.snapshot order s = entries ++ [(last.1, v)]

/-- What holds of a state in terms of the admins that were visited, where the values of the others
are those before the event. -/
structure Reached (Inv : List String → PluginState Modules → Prop) (s₀ : PluginState Modules)
    (visited : List String) (s : PluginState Modules) : Prop where
  inv : Inv visited s
  value : ∀ admin : AdminName, admin.1 ∉ visited →
    s.store.manager.policyValue admin plugin.policyName =
      s₀.store.manager.policyValue admin plugin.policyName

section Last

variable {plugin} {Inv : List String → PluginState Modules → Prop} {s₀ s : PluginState Modules}
  {writes : String → Writes} {event : String → Event}

theorem reached_visit (hname : plugin.policyName ≠ "")
    (hvisit : ∀ visited s (admin : AdminName), plugin.Reached Inv s₀ visited s →
      admin.1 ∉ visited → s₀.store.manager.policyValue admin plugin.policyName ≠ "" →
      Inv (admin.1 :: visited) (plugin.visit (writes admin) (event admin) s admin
        (s₀.store.manager.policyValue admin plugin.policyName)))
    {visited : List String} {admin : AdminName} (h : plugin.Reached Inv s₀ visited s)
    (hnew : admin.1 ∉ visited)
    (hvalue : s₀.store.manager.policyValue admin plugin.policyName ≠ "") :
    plugin.Reached Inv s₀ (admin.1 :: visited)
      (plugin.visit (writes admin) (event admin) s admin
        (s₀.store.manager.policyValue admin plugin.policyName)) where
  inv := hvisit visited s admin h hnew hvalue
  value other hother := by
    rw [List.mem_cons, not_or] at hother
    rw [plugin.visit_value_other hname _ _ admin _ fun heq => hother.1 (congrArg Subtype.val heq)]
    exact h.value other hother.2

theorem reached_run (hname : plugin.policyName ≠ "")
    (hvisit : ∀ visited s (admin : AdminName), plugin.Reached Inv s₀ visited s →
      admin.1 ∉ visited → s₀.store.manager.policyValue admin plugin.policyName ≠ "" →
      Inv (admin.1 :: visited) (plugin.visit (writes admin) (event admin) s admin
        (s₀.store.manager.policyValue admin plugin.policyName)))
    {visited : List String} (h : plugin.Reached Inv s₀ visited s) {entries : List (String × String)}
    (hentries : plugin.Current s₀ entries) (hnew : ∀ x, x ∈ visited → x ∉ entries.map Prod.fst) :
    plugin.Reached Inv s₀ ((entries.map Prod.fst).reverse ++ visited)
      (run (plugin.visitEntry writes event) s entries) := by
  induction entries generalizing s visited with
  | nil => exact h
  | cons entry entries ih =>
    obtain ⟨x, v⟩ := entry
    obtain ⟨hx, rfl, hvalue⟩ := hentries.value x v List.mem_cons_self
    obtain ⟨hhead, htail⟩ := List.nodup_cons.mp hentries.nodup
    have hfresh : x ∉ visited := fun hmem => hnew x hmem List.mem_cons_self
    have hstep := @reached_visit _ _ _ _ _ _ _ _ _ _ hname hvisit visited ⟨x, hx⟩ h hfresh hvalue
    rw [List.map_cons, List.reverse_cons, List.append_assoc]
    refine ih hstep ⟨htail, fun y w hmem => hentries.value y w (List.mem_cons_of_mem _ hmem)⟩ ?_
    intro y hy hmem
    rcases List.mem_cons.mp hy with rfl | hy
    · exact hhead hmem
    · exact hnew y hy (List.mem_cons_of_mem _ hmem)

/-- An event reaches nobody, or ends with the visit of the last admin, when all others that have a
value were visited. -/
theorem dispatchForAdmins_last (hname : plugin.policyName ≠ "") (hgood : GoodStore s₀.store)
    (order : HashOrder) (hs : Inv [] s₀)
    (hvisit : ∀ visited s (admin : AdminName), plugin.Reached Inv s₀ visited s →
      admin.1 ∉ visited → s₀.store.manager.policyValue admin plugin.policyName ≠ "" →
      Inv (admin.1 :: visited) (plugin.visit (writes admin) (event admin) s admin
        (s₀.store.manager.policyValue admin plugin.policyName))) :
    ((∀ admin : AdminName, s₀.store.manager.policyValue admin plugin.policyName = "") ∧
        plugin.dispatchForAdmins order writes event s₀ = s₀) ∨
      ∃ visited last s, plugin.Last order s₀ last ∧
        s₀.store.manager.policyValue last plugin.policyName ≠ "" ∧
        (∀ admin : AdminName, admin.1 ∈ visited ↔ admin ≠ last ∧
          s₀.store.manager.policyValue admin plugin.policyName ≠ "") ∧
        plugin.Reached Inv s₀ visited s ∧
        plugin.dispatchForAdmins order writes event s₀ =
          plugin.visit (writes last) (event last) s last
            (s₀.store.manager.policyValue last plugin.policyName) := by
  have hcurrent := plugin.current_snapshot order hgood
  have hsnapshot : ∀ admin : AdminName, admin.1 ∈ (plugin.snapshot order s₀).map Prod.fst ↔
      s₀.store.manager.policyValue admin plugin.policyName ≠ "" :=
    fun admin => plugin.mem_snapshot order hgood admin
  unfold dispatchForAdmins Last
  rcases List.eq_nil_or_concat' (plugin.snapshot order s₀) with hnil | ⟨entries, ⟨x, v⟩, hentries⟩
  · rw [hnil] at hsnapshot ⊢
    refine .inl ⟨fun admin => ?_, rfl⟩
    by_contra hvalue
    exact List.not_mem_nil ((hsnapshot admin).mpr hvalue)
  rw [hentries] at hcurrent hsnapshot ⊢
  obtain ⟨hx, rfl, hvalue⟩ := hcurrent.value x v (List.mem_append_right _ List.mem_cons_self)
  have hnodup := hcurrent.nodup
  rw [List.map_append, List.nodup_append] at hnodup
  obtain ⟨hnodup, -, hdisjoint⟩ := hnodup
  have hnew : x ∉ entries.map Prod.fst := fun hmem => hdisjoint x hmem x List.mem_cons_self rfl
  have hstart : plugin.Reached Inv s₀ [] s₀ := ⟨hs, fun _ _ => rfl⟩
  have hbefore := reached_run hname hvisit hstart
    ⟨hnodup, fun y w hmem => hcurrent.value y w (List.mem_append_left _ hmem)⟩
    fun _ hmem => absurd hmem List.not_mem_nil
  rw [List.append_nil] at hbefore
  refine .inr ⟨_, ⟨x, hx⟩, _, ⟨entries, _, rfl⟩, hvalue, fun admin => ?_, hbefore, ?_⟩
  · rw [List.mem_reverse, ← hsnapshot admin, List.map_append, List.mem_append]
    constructor
    · intro hmem
      refine ⟨?_, .inl hmem⟩
      rintro rfl
      exact hnew hmem
    · rintro ⟨hne, hmem | hmem⟩
      · exact hmem
      · exact absurd (Subtype.ext (List.mem_singleton.mp hmem)) hne
  · rw [run_append]
    rfl

theorem Last.value_ne {order : HashOrder} {last : AdminName} (h : plugin.Last order s last)
    (hgood : GoodStore s.store) : s.store.manager.policyValue last plugin.policyName ≠ "" := by
  obtain ⟨entries, v, hentries⟩ := h
  rw [← plugin.mem_snapshot order hgood, hentries, List.map_append]
  exact List.mem_append_right _ List.mem_cons_self

theorem Last.unique {order : HashOrder} {last last' : AdminName} (h : plugin.Last order s last)
    (h' : plugin.Last order s last') : last' = last := by
  obtain ⟨entries, v, hentries⟩ := h
  obtain ⟨entries', v', hentries'⟩ := h'
  rw [hentries] at hentries'
  exact Subtype.ext (congrArg Prod.fst (List.append_inj_right' hentries' rfl |> List.cons.inj).1.symm)

end Last

end EventPlugin

end Edm
