import Edm.Plugin.KeepAliveEvents

/-! What a request of `ManageKeepAliveAppsPlugin` makes the ability manager enforce: applications
with their flags, called one by one, against the combined list that the request hands back. -/

set_option autoImplicit false

namespace Edm

open Library Library.UnorderedMap

namespace ManageKeepAliveAppsPlugin

open ManageKeepAliveAppsSerializer

/-- The applications that the ability manager keeps alive, with their disallow-modify flags. -/
abbrev Enforced := String → Option Bool

/-- One call of `SetApplicationKeepAliveByEDM`, with the flag, or with none to stop. -/
def Enforced.call (enforced : Enforced) (answers : Answers) (bundleName : String)
    (flag : Option Bool) : Enforced :=
  if failed (answers.setApplicationKeepAliveByEDM bundleName) then enforced
  else Function.update enforced bundleName flag

/-- The calls of the loop of `SetOtherModulePolicy`. -/
def enforceApps (answers : Answers) (disallowedRunningBundles : List String)
    (disallowModify : Bool) : List String → Enforced → Enforced
  | [], enforced => enforced
  | bundleName :: keepAliveApps, enforced =>
    if bundleName ∈ disallowedRunningBundles then enforced
    else
      enforceApps answers disallowedRunningBundles disallowModify keepAliveApps
        (enforced.call answers bundleName (some disallowModify))

/-- The calls of the loop of `RemoveOtherModulePolicy`. -/
def releaseApps (answers : Answers) (keepAliveApps : List ManageKeepAliveAppInfo)
    (enforced : Enforced) : Enforced :=
  keepAliveApps.foldl (fun enforced bundleName => enforced.call answers bundleName.bundleName none)
    enforced

/-- The calls of `OnSetPolicy`. -/
def enforcedBySet (answers : Answers) (enforced : Enforced) (data : List String)
    (disallowModify : Bool) (currentData mergeData : List ManageKeepAliveAppInfo) : Enforced :=
  if data = [] then enforced
  else if KEEP_ALIVE_APPS_MAX_SIZE < data.length then enforced
  else
    let tmpData := data.map fun item => ⟨item, disallowModify⟩
    let afterHandle := setUnionPolicyData (sort currentData) (sort tmpData)
    if KEEP_ALIVE_APPS_MAX_SIZE < (setUnionPolicyData mergeData afterHandle).length then enforced
    else if answers.abilityManager then
      match answers.appRunningControlRule with
      | none => enforced
      | some disallowedRunningBundles =>
        enforceApps answers disallowedRunningBundles disallowModify (bundles (sort tmpData))
          enforced
    else enforced

/-- The calls of `OnRemovePolicy`. -/
def enforcedByRemove (answers : Answers) (enforced : Enforced) (data : List String)
    (currentData mergeData : List ManageKeepAliveAppInfo) (isUninstall : Bool) : Enforced :=
  if data = [] then enforced
  else if KEEP_ALIVE_APPS_MAX_SIZE < data.length then enforced
  else if isUninstall then enforced
  else if answers.abilityManager then
    releaseApps answers (setNeedRemoveMergePolicyData mergeData
      (setIntersectionPolicyData data currentData)) enforced
  else enforced

/-- The calls of `OnHandlePolicy`. -/
def enforcedByRequest (C : CJson) (m : UserPolicyManager) (enforced : Enforced) (request : Request)
    (policyData : HandlePolicyData) : Enforced :=
  let currentData := updateByMergePolicy (deserialize C policyData.policyData).2
    (deserialize C (m.policyValue "" POLICY_MANAGE_KEEP_ALIVE_APPS)).2
  let mergeData := (deserialize C policyData.mergePolicyData).2
  if request.isSet then
    enforcedBySet request.answers enforced request.keepAliveApps request.disallowModify currentData
      mergeData
  else
    enforcedByRemove request.answers enforced request.keepAliveApps currentData mergeData
      request.isUninstall

/-- The flag that a list records for a bundle. -/
def recorded (data : List ManageKeepAliveAppInfo) : Enforced := fun bundleName =>
  (data.find? fun item => item.bundleName == bundleName).map ManageKeepAliveAppInfo.disallowModify

/-! ### The calls as the plugin's model has them -/

section Calls

variable {answers : Answers} {enforced : Enforced} {alive : Finset String}

/-- The applications that are kept alive, without their flags. -/
def Keeps (enforced : Enforced) (alive : Finset String) : Prop :=
  ∀ x, x ∈ alive ↔ (enforced x).isSome = true

theorem Keeps.call_add (h : Keeps enforced alive) (progress : Progress)
    (hprogress : progress.alive = alive) (info : ManageKeepAliveAppInfo) (flag : Bool) :
    Keeps (enforced.call answers info.bundleName (some flag))
      (progress.call answers info (insert info.bundleName progress.alive)).alive := by
  subst hprogress
  unfold Enforced.call Progress.call
  intro x
  dsimp only
  split
  · exact h x
  · rw [Finset.mem_insert, h x, Function.update_apply]
    split
    · rename_i hx
      exact iff_of_true (.inl hx) rfl
    · rename_i hx
      exact or_iff_right hx

theorem Keeps.call_remove (h : Keeps enforced alive) (progress : Progress)
    (hprogress : progress.alive = alive) (info : ManageKeepAliveAppInfo) :
    Keeps (enforced.call answers info.bundleName none)
      (progress.call answers info (progress.alive.erase info.bundleName)).alive := by
  subst hprogress
  unfold Enforced.call Progress.call
  intro x
  dsimp only
  split
  · exact h x
  · rw [Finset.mem_erase, h x, Function.update_apply]
    split
    · rename_i hx
      exact iff_of_false (fun hmem => hmem.1 hx) nofun
    · rename_i hx
      exact and_iff_right hx

theorem keeps_enforceApps (answers : Answers) (disallowed : List String) (flag : Bool)
    (keepAliveApps : List String) {progress : Progress} (h : Keeps enforced progress.alive) :
    Keeps (enforceApps answers disallowed flag keepAliveApps enforced)
      (addKeepAliveApps answers disallowed flag keepAliveApps progress).2.1 := by
  induction keepAliveApps generalizing enforced progress with
  | nil => exact h
  | cons bundleName keepAliveApps ih =>
    rw [enforceApps, addKeepAliveApps]
    split
    · exact h
    · exact ih (h.call_add progress rfl ⟨bundleName, flag⟩ flag)

theorem keeps_releaseApps (answers : Answers) (keepAliveApps : List ManageKeepAliveAppInfo)
    {progress : Progress} (h : Keeps enforced progress.alive) :
    Keeps (releaseApps answers keepAliveApps enforced)
      (keepAliveApps.foldl (fun (progress : Progress) bundleName =>
        progress.call answers bundleName (progress.alive.erase bundleName.bundleName))
        progress).alive := by
  induction keepAliveApps generalizing enforced progress with
  | nil => exact h
  | cons info keepAliveApps ih => exact ih (h.call_remove progress rfl info)

theorem keeps_onSetPolicy {data : List String} {flag : Bool}
    {currentData mergeData : List ManageKeepAliveAppInfo} (h : Keeps enforced alive) :
    Keeps (enforcedBySet answers enforced data flag currentData mergeData)
      (onSetPolicy answers alive data flag currentData mergeData).2.1 := by
  have hstart : Keeps enforced (Progress.start alive).alive := h
  unfold enforcedBySet onSetPolicy setOtherModulePolicy
  dsimp only
  split
  · exact h
  · split
    · exact h
    · split
      · exact h
      · cases answers.abilityManager with
        | false => exact h
        | true =>
          cases answers.appRunningControlRule with
          | none => exact h
          | some disallowed =>
            have hloop := keeps_enforceApps answers disallowed flag
              (bundles (sort (data.map fun item => ⟨item, flag⟩))) hstart
            simp only [if_true]
            split
            · exact hloop
            · split <;> exact hloop

theorem keeps_onRemovePolicy {data : List String} {isUninstall : Bool}
    {currentData mergeData : List ManageKeepAliveAppInfo} (h : Keeps enforced alive) :
    Keeps (enforcedByRemove answers enforced data currentData mergeData isUninstall)
      (onRemovePolicy answers alive data currentData mergeData isUninstall).2.1 := by
  have hstart : Keeps enforced (Progress.start alive).alive := h
  have hloop := keeps_releaseApps answers (setNeedRemoveMergePolicyData mergeData
    (setIntersectionPolicyData data currentData)) hstart
  unfold enforcedByRemove onRemovePolicy removeOtherModulePolicy
  dsimp only
  split
  · exact h
  · split
    · exact h
    · generalize setNeedRemoveMergePolicyData mergeData
        (setIntersectionPolicyData data currentData) = removed at hloop ⊢
      cases isUninstall with
      | true =>
        simp only [Bool.not_true, Bool.false_eq_true, and_false, if_false, if_true]
        split <;> exact h
      | false =>
        by_cases hremoved : removed = []
        · subst hremoved
          simp only [ne_eq, not_true_eq_false, false_and, if_false, Bool.false_eq_true]
          split <;> split <;> exact h
        · cases answers.abilityManager with
          | false =>
            simp only [hremoved, ne_eq, not_false_eq_true, Bool.not_false, and_self, if_true,
              Bool.false_eq_true, if_false]
            split <;> exact h
          | true =>
            simp only [hremoved, ne_eq, not_false_eq_true, Bool.not_false, and_self, if_true,
              Bool.false_eq_true, if_false]
            split <;> exact hloop

/-- The calls of a request keep those applications alive that the plugin's model says. -/
theorem keeps_onHandlePolicy (C : CJson) (m : UserPolicyManager) (request : Request)
    (policyData : HandlePolicyData) (h : Keeps enforced alive) :
    Keeps (enforcedByRequest C m enforced request policyData)
      (onHandlePolicy C m alive request policyData).2.1 := by
  unfold enforcedByRequest onHandlePolicy
  dsimp only
  cases request.isSet with
  | true =>
    simp only [if_true]
    split <;> exact keeps_onSetPolicy h
  | false =>
    simp only [Bool.false_eq_true, if_false]
    split <;> exact keeps_onRemovePolicy h

end Calls

/-! ### The loops -/

section Loops

variable {answers : Answers} {enforced : Enforced} {disallowed keepAliveApps : List String}
  {flag : Bool} {infos : List ManageKeepAliveAppInfo} {progress progress' : Progress}

theorem failed_parseErrCode {res : ErrCode} (h : failed res = true) :
    failed (parseErrCode res) = true := by
  unfold parseErrCode
  split
  · decide
  · split
    · decide
    · exact h

/-- What the calls for a list of applications add to the progress of a loop. -/
structure Ran (answers : Answers) (infos : List ManageKeepAliveAppInfo)
    (progress progress' : Progress) : Prop where
  failedData : progress'.failedData = progress.failedData ++
    infos.filter fun info => failed (answers.setApplicationKeepAliveByEDM info.bundleName)
  code : failed progress'.code = true ↔ progress.flag = false ∧
    (∀ info ∈ infos, failed (answers.setApplicationKeepAliveByEDM info.bundleName) = true) ∧
    (infos = [] → failed progress.code = true)

theorem Ran.nil (answers : Answers) (progress : Progress) : Ran answers [] progress progress where
  failedData := (List.append_nil _).symm
  code := by
    have hflag : failed progress.code = true → progress.flag = false := by
      intro hfailed
      cases hprogress : progress.flag with
      | false => rfl
      | true =>
        rw [Progress.code, if_pos hprogress] at hfailed
        contradiction
    constructor
    · intro hfailed
      exact ⟨hflag hfailed, fun info hinfo => absurd hinfo List.not_mem_nil, fun _ => hfailed⟩
    · rintro ⟨-, -, hfailed⟩
      exact hfailed rfl

theorem Ran.cons {info : ManageKeepAliveAppInfo} {alive : Finset String}
    (h : Ran answers infos (progress.call answers info alive) progress') :
    Ran answers (info :: infos) progress progress' := by
  obtain ⟨hfailedData, hcode⟩ := h
  cases hres : failed (answers.setApplicationKeepAliveByEDM info.bundleName) with
  | true =>
    have hcall : progress.call answers info alive =
        { progress with
          failedData := progress.failedData ++ [info]
          res := answers.setApplicationKeepAliveByEDM info.bundleName } := by
      rw [Progress.call]
      exact if_pos hres
    rw [hcall] at hfailedData hcode
    refine ⟨?_, hcode.trans ?_⟩
    · rw [hfailedData, List.filter_cons, if_pos hres, List.append_assoc]
      rfl
    · have hlast : progress.flag = false → failed (Progress.code { progress with
          failedData := progress.failedData ++ [info]
          res := answers.setApplicationKeepAliveByEDM info.bundleName }) = true := by
        intro hflag
        rw [Progress.code, if_neg (by simp [hflag])]
        exact failed_parseErrCode hres
      rw [List.forall_mem_cons]
      constructor
      · rintro ⟨hflag, hall, -⟩
        exact ⟨hflag, ⟨hres, hall⟩, nofun⟩
      · rintro ⟨hflag, ⟨-, hall⟩, -⟩
        exact ⟨hflag, hall, fun _ => hlast hflag⟩
  | false =>
    have hcall : progress.call answers info alive =
        { progress with
          alive
          flag := true
          res := answers.setApplicationKeepAliveByEDM info.bundleName } := by
      rw [Progress.call]
      exact if_neg (by simp [hres])
    rw [hcall] at hfailedData hcode
    refine ⟨?_, hcode.trans ?_⟩
    · rw [hfailedData, List.filter_cons, if_neg (by simp [hres])]
    · rw [List.forall_mem_cons]
      constructor
      · rintro ⟨hflag, -⟩
        contradiction
      · rintro ⟨-, ⟨hfailed, -⟩, -⟩
        rw [hres] at hfailed
        contradiction

/-- Without a disallowed application the loop comes to its end. -/
theorem addKeepAliveApps_ran (h : ∀ x ∈ keepAliveApps, x ∉ disallowed) (progress : Progress) :
    ∃ progress', Ran answers (keepAliveApps.map fun item => ⟨item, flag⟩) progress progress' ∧
      addKeepAliveApps answers disallowed flag keepAliveApps progress =
        (progress'.code, progress'.alive, progress'.failedData) := by
  induction keepAliveApps generalizing progress with
  | nil => exact ⟨progress, Ran.nil answers progress, rfl⟩
  | cons bundleName keepAliveApps ih =>
    obtain ⟨hhead, htail⟩ := List.forall_mem_cons.mp h
    obtain ⟨progress', hran, hloop⟩ :=
      ih htail (progress.call answers ⟨bundleName, flag⟩ (insert bundleName progress.alive))
    refine ⟨progress', hran.cons, ?_⟩
    rw [addKeepAliveApps, if_neg hhead, hloop]

/-- A disallowed application makes the loop fail. -/
theorem addKeepAliveApps_conflict (h : ∃ x ∈ keepAliveApps, x ∈ disallowed) (progress : Progress) :
    failed (addKeepAliveApps answers disallowed flag keepAliveApps progress).1 = true := by
  induction keepAliveApps generalizing progress with
  | nil =>
    obtain ⟨x, hx, -⟩ := h
    exact absurd hx List.not_mem_nil
  | cons bundleName keepAliveApps ih =>
    rw [addKeepAliveApps]
    split
    · rfl
    · rename_i hhead
      obtain ⟨x, hx, hdisallowed⟩ := h
      rcases List.mem_cons.mp hx with rfl | hx
      · exact absurd hdisallowed hhead
      · exact ih ⟨x, hx, hdisallowed⟩ _

theorem foldl_call_ran (remaining : Progress → ManageKeepAliveAppInfo → Finset String)
    (infos : List ManageKeepAliveAppInfo) (progress : Progress) :
    Ran answers infos progress (infos.foldl (fun (progress : Progress) info =>
      progress.call answers info (remaining progress info)) progress) := by
  induction infos generalizing progress with
  | nil => exact Ran.nil answers progress
  | cons info infos ih => exact (ih _).cons

/-- The applications that the loop calls: those before the first disallowed one. -/
theorem enforceApps_takeWhile : enforceApps answers disallowed flag keepAliveApps enforced =
    enforceApps answers disallowed flag (keepAliveApps.takeWhile fun x => x ∉ disallowed)
      enforced := by
  induction keepAliveApps generalizing enforced with
  | nil => rfl
  | cons bundleName keepAliveApps ih =>
    by_cases hhead : bundleName ∈ disallowed
    · have hstop : enforceApps answers disallowed flag (bundleName :: keepAliveApps) enforced =
          enforced := if_pos hhead
      rw [List.takeWhile_cons_of_neg (by simp [hhead]), hstop]
      rfl
    · rw [List.takeWhile_cons_of_pos (by simp [hhead]), enforceApps, if_neg hhead, enforceApps,
        if_neg hhead, ih]

theorem enforceApps_apply (h : ∀ x ∈ keepAliveApps, x ∉ disallowed) (x : String) :
    enforceApps answers disallowed flag keepAliveApps enforced x =
      if x ∈ keepAliveApps ∧ failed (answers.setApplicationKeepAliveByEDM x) = false then some flag
      else enforced x := by
  induction keepAliveApps generalizing enforced with
  | nil => simp [enforceApps]
  | cons bundleName keepAliveApps ih =>
    obtain ⟨hhead, htail⟩ := List.forall_mem_cons.mp h
    rw [enforceApps, if_neg hhead, ih htail, Enforced.call]
    cases hres : failed (answers.setApplicationKeepAliveByEDM bundleName) with
    | true =>
      by_cases hx : x = bundleName
      · subst hx
        simp [hres]
      · simp [hx]
    | false =>
      by_cases hx : x = bundleName
      · subst hx
        simp [hres]
      · simp [hx]

theorem releaseApps_apply (infos : List ManageKeepAliveAppInfo) (x : String) :
    releaseApps answers infos enforced x =
      if x ∈ bundles infos ∧ failed (answers.setApplicationKeepAliveByEDM x) = false then none
      else enforced x := by
  induction infos generalizing enforced with
  | nil => simp [releaseApps]
  | cons info infos ih =>
    have hrec : releaseApps answers (info :: infos) enforced =
      releaseApps answers infos (enforced.call answers info.bundleName none) := rfl
    rw [hrec, ih, Enforced.call]
    cases hres : failed (answers.setApplicationKeepAliveByEDM info.bundleName) with
    | true =>
      by_cases hx : x = info.bundleName
      · subst hx
        simp [hres]
      · simp [hx]
    | false =>
      by_cases hx : x = info.bundleName
      · subst hx
        simp [hres]
      · simp [hx]

/-- In a sorted list those come before the first disallowed one that are smaller than each. -/
theorem mem_takeWhile_sorted (h : Sorted keepAliveApps) {x : String} :
    x ∈ keepAliveApps.takeWhile (fun y => y ∉ disallowed) ↔
      x ∈ keepAliveApps ∧ x ∉ disallowed ∧ ∀ y ∈ keepAliveApps, y ∈ disallowed → x < y := by
  induction keepAliveApps with
  | nil => simp
  | cons bundleName keepAliveApps ih =>
    obtain ⟨hhead, htail⟩ := List.pairwise_cons.mp h
    by_cases hbundle : bundleName ∈ disallowed
    · rw [List.takeWhile_cons_of_neg (by simp [hbundle])]
      refine iff_of_false List.not_mem_nil ?_
      rintro ⟨hx, -, hless⟩
      have hlt := hless bundleName List.mem_cons_self hbundle
      rcases List.mem_cons.mp hx with rfl | hx
      · exact lt_irrefl x hlt
      · exact absurd hlt (not_lt_of_ge (hhead x hx))
    · rw [List.takeWhile_cons_of_pos (by simp [hbundle]), List.mem_cons, ih htail, List.mem_cons]
      constructor
      · rintro (rfl | ⟨hx, hallowed, hless⟩)
        · refine ⟨.inl rfl, hbundle, fun y hy hdisallowed => ?_⟩
          rcases List.mem_cons.mp hy with rfl | hy
          · exact absurd hdisallowed hbundle
          · refine lt_of_le_of_ne (hhead y hy) ?_
            rintro rfl
            exact hbundle hdisallowed
        · refine ⟨.inr hx, hallowed, fun y hy hdisallowed => ?_⟩
          rcases List.mem_cons.mp hy with rfl | hy
          · exact absurd hdisallowed hbundle
          · exact hless y hy hdisallowed
      · rintro ⟨rfl | hx, hallowed, hless⟩
        · exact .inl rfl
        · exact .inr ⟨hx, hallowed, fun y hy => hless y (List.mem_cons_of_mem _ hy)⟩

end Loops

/-! ### The lists -/

section Lists

variable {data others : List ManageKeepAliveAppInfo} {info : ManageKeepAliveAppInfo} {x : String}
  {flag : Bool}

/-- A list has one flag for a bundle. -/
def OneFlag (data : List ManageKeepAliveAppInfo) : Prop :=
  ∀ info, info ∈ data → ∀ info', info' ∈ data → info.bundleName = info'.bundleName → info = info'

theorem oneFlag_of_nodup (h : (bundles data).Nodup) : OneFlag data :=
  fun _ hinfo _ hinfo' heq => List.inj_on_of_nodup_map h hinfo hinfo' heq

theorem OneFlag.of_subset (h : OneFlag data) (hsub : ∀ info ∈ others, info ∈ data) :
    OneFlag others :=
  fun info hinfo info' hinfo' heq => h info (hsub info hinfo) info' (hsub info' hinfo') heq

theorem mem_bundles_iff : x ∈ bundles data ↔ ∃ flag, ⟨x, flag⟩ ∈ data := by
  rw [bundles, List.mem_map]
  constructor
  · rintro ⟨⟨bundleName, flag⟩, hinfo, rfl⟩
    exact ⟨flag, hinfo⟩
  · rintro ⟨flag, hinfo⟩
    exact ⟨_, hinfo, rfl⟩

theorem recorded_iff (h : OneFlag data) : recorded data x = some flag ↔ ⟨x, flag⟩ ∈ data := by
  unfold recorded
  cases hfind : data.find? fun item => item.bundleName == x with
  | none =>
    refine iff_of_false nofun fun hmem => ?_
    have hnone := List.find?_eq_none.mp hfind _ hmem
    simp at hnone
  | some info =>
    have hinfo := List.mem_of_find?_eq_some hfind
    have hfound := List.find?_some hfind
    have hbundle : info.bundleName = x := beq_iff_eq.mp hfound
    constructor
    · intro heq
      cases info
      obtain rfl := hbundle
      cases heq
      exact hinfo
    · intro hmem
      rw [h info hinfo _ hmem hbundle]
      rfl

/-- A list of one flag for each bundle is what is enforced. -/
theorem recorded_eq {enforced : Enforced} (h : OneFlag data)
    (hiff : ∀ x flag, enforced x = some flag ↔ ⟨x, flag⟩ ∈ data) : enforced = recorded data := by
  funext x
  refine Option.ext fun flag => ?_
  rw [hiff, recorded_iff h]

theorem mem_setUnionPolicyData (hdata : OneFlag data) (hothers : OneFlag others) :
    info ∈ setUnionPolicyData data others ↔
      info ∈ others ∨ info ∈ data ∧ info.bundleName ∉ bundles others := by
  have hascend : KeysAscend ManageKeepAliveAppInfo.bundleName
    ([] : List ManageKeepAliveAppInfo) := keysAscend_nil
  rw [setUnionPolicyData, mem_assignAll (keysAscend_assignAll hascend) hothers,
    mem_assignAll hascend hdata]
  simp

theorem count_setDifferencePolicyData : (setDifferencePolicyData data others).count info =
    others.count info - data.count info := by
  rw [setDifferencePolicyData, count_setDifference _ _ (sorted_sort _) (sorted_sort _), count_sort,
    count_sort]

theorem mem_setDifferencePolicyData : info ∈ setDifferencePolicyData data others ↔
    data.count info < others.count info := by
  rw [← List.count_pos_iff, count_setDifferencePolicyData]
  omega

/-- The caller's list, the others' list and the combined list before a request. -/
structure Agree (total current merge : List ManageKeepAliveAppInfo) : Prop where
  nodup_total : (bundles total).Nodup
  nodup_current : (bundles current).Nodup
  nodup_merge : (bundles merge).Nodup
  mem_bundles : ∀ x, x ∈ bundles total ↔ x ∈ bundles current ∨ x ∈ bundles merge
  current_sub : ∀ info ∈ current, info ∈ total
  merge_sub : ∀ info ∈ merge, info ∈ total

/-- The list that is handed back has the bundles of the caller's new list and of the others', and
what is enforced is what it records. -/
structure Exact (enforced : Enforced) (current' merge merge' : List ManageKeepAliveAppInfo) :
    Prop where
  nodup : (bundles merge').Nodup
  mem_bundles : ∀ x, x ∈ bundles merge' ↔ x ∈ bundles current' ∨ x ∈ bundles merge
  enforced_eq : enforced = recorded merge'

end Lists

end ManageKeepAliveAppsPlugin

end Edm
