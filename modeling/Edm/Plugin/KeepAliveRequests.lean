import Edm.Plugin.KeepAliveEnforced

/-! Requests of `ManageKeepAliveAppsPlugin`: when an error leaves what is enforced, and a success
hands back a combined list that is what is enforced. -/

set_option autoImplicit false

namespace Edm

open Library Library.UnorderedMap

namespace ManageKeepAliveAppsPlugin

open ManageKeepAliveAppsSerializer

/-! ### SET -/

section Set

variable {answers : Answers} {total current merge : List ManageKeepAliveAppInfo}
  {data disallowed : List String} {flag : Bool} {alive : Finset String}

/-- The applications of a request that the ability manager accepts. -/
def Accepted (answers : Answers) (data : List String) (x : String) : Prop :=
  x ∈ data ∧ failed (answers.setApplicationKeepAliveByEDM x) = false

/-- The caller's list after a request: the accepted applications have the flag of the request. -/
def Takes (answers : Answers) (data : List String) (flag : Bool)
    (current current' : List ManageKeepAliveAppInfo) : Prop :=
  ∀ info, info ∈ current' ↔ Accepted answers data info.bundleName ∧ info.disallowModify = flag ∨
    info ∈ current ∧ ¬Accepted answers data info.bundleName

theorem Takes.oneFlag {current' : List ManageKeepAliveAppInfo}
    (h : Takes answers data flag current current') (hcurrent : OneFlag current) :
    OneFlag current' := by
  rintro ⟨x, first⟩ hinfo ⟨y, second⟩ hinfo' heq
  obtain rfl : x = y := heq
  rcases (h _).mp hinfo with ⟨haccepted, rfl⟩ | ⟨hinfo, hnot⟩
  · rcases (h _).mp hinfo' with ⟨-, rfl⟩ | ⟨-, hnot⟩
    · rfl
    · exact absurd haccepted hnot
  · rcases (h _).mp hinfo' with ⟨haccepted, -⟩ | ⟨hinfo', -⟩
    · exact absurd haccepted hnot
    · exact hcurrent _ hinfo _ hinfo' rfl

theorem Takes.exact {current' : List ManageKeepAliveAppInfo} {enforced : Enforced}
    (h : Takes answers data flag current current') (hagree : Agree total current merge)
    (haccepted : ∀ x, Accepted answers data x → enforced x = some flag)
    (hother : ∀ x, ¬Accepted answers data x → enforced x = recorded total x) :
    Exact enforced current' merge (setUnionPolicyData merge current') := by
  have hflag := h.oneFlag (oneFlag_of_nodup hagree.nodup_current)
  have htotal := oneFlag_of_nodup hagree.nodup_total
  have hmem : ∀ info, info ∈ setUnionPolicyData merge current' ↔
      info ∈ current' ∨ info ∈ merge ∧ info.bundleName ∉ bundles current' := fun info =>
    mem_setUnionPolicyData (oneFlag_of_nodup hagree.nodup_merge) hflag
  refine ⟨nodup_bundles_setUnionPolicyData _ _, fun x => ?_, ?_⟩
  · rw [mem_bundles_setUnionPolicyData, or_comm]
  · refine recorded_eq (oneFlag_of_nodup (nodup_bundles_setUnionPolicyData _ _)) fun x f => ?_
    by_cases hx : Accepted answers data x
    · have hnew : ∀ f, (⟨x, f⟩ : ManageKeepAliveAppInfo) ∈ current' ↔ f = flag := by
        intro f
        rw [h]
        constructor
        · rintro (⟨-, hf⟩ | ⟨-, hnot⟩)
          · exact hf
          · exact absurd hx hnot
        · intro hf
          exact .inl ⟨hx, hf⟩
      have hin : x ∈ bundles current' := mem_bundles_iff.mpr ⟨flag, (hnew flag).mpr rfl⟩
      rw [haccepted x hx, hmem, hnew, Option.some_inj, eq_comm]
      exact (or_iff_left fun hmerge => hmerge.2 hin).symm
    · have hold : ∀ f, (⟨x, f⟩ : ManageKeepAliveAppInfo) ∈ current' ↔ ⟨x, f⟩ ∈ current := by
        intro f
        rw [h]
        constructor
        · rintro (⟨haccepted, -⟩ | ⟨hinfo, -⟩)
          · exact absurd haccepted hx
          · exact hinfo
        · intro hinfo
          exact .inr ⟨hinfo, hx⟩
      rw [hother x hx, recorded_iff htotal, hmem, hold]
      constructor
      · intro hinfo
        rcases (hagree.mem_bundles x).mp (mem_bundles_iff.mpr ⟨f, hinfo⟩) with hcurrent | hmerge
        · obtain ⟨f', hinfo'⟩ := mem_bundles_iff.mp hcurrent
          rw [htotal _ hinfo _ (hagree.current_sub _ hinfo') rfl]
          exact .inl hinfo'
        · obtain ⟨f', hinfo'⟩ := mem_bundles_iff.mp hmerge
          rw [htotal _ hinfo _ (hagree.merge_sub _ hinfo') rfl]
          by_cases hin : x ∈ bundles current'
          · obtain ⟨f'', hinfo''⟩ := mem_bundles_iff.mp hin
            have hcurrent := (hold f'').mp hinfo''
            rw [htotal _ (hagree.merge_sub _ hinfo') _ (hagree.current_sub _ hcurrent) rfl]
            exact .inl hcurrent
          · exact .inr ⟨hinfo', hin⟩
      · rintro (hcurrent | ⟨hmerge, -⟩)
        · exact hagree.current_sub _ hcurrent
        · exact hagree.merge_sub _ hmerge

/-- The items of a request. -/
abbrev requested (data : List String) (flag : Bool) : List ManageKeepAliveAppInfo :=
  data.map fun item => ⟨item, flag⟩

theorem mem_requested {info : ManageKeepAliveAppInfo} :
    info ∈ requested data flag ↔ info.bundleName ∈ data ∧ info.disallowModify = flag := by
  rw [requested, List.mem_map]
  constructor
  · rintro ⟨item, hitem, rfl⟩
    exact ⟨hitem, rfl⟩
  · rintro ⟨hitem, rfl⟩
    exact ⟨_, hitem, rfl⟩

theorem oneFlag_requested : OneFlag (requested data flag) := by
  rintro ⟨x, first⟩ hinfo ⟨y, second⟩ hinfo' heq
  obtain rfl : x = y := heq
  obtain ⟨-, rfl⟩ := mem_requested.mp hinfo
  obtain ⟨-, rfl⟩ := mem_requested.mp hinfo'
  rfl

/-- The names that the loop calls, with the flag, are the items that were asked for. -/
theorem map_bundles_sort : ((bundles (sort (requested data flag))).map fun item =>
    (⟨item, flag⟩ : ManageKeepAliveAppInfo)) = sort (requested data flag) := by
  rw [bundles, List.map_map]
  refine (List.map_congr_left fun info hinfo => ?_).trans (List.map_id _)
  obtain ⟨-, hflag⟩ := mem_requested.mp (mem_sort.mp hinfo)
  cases info
  cases hflag
  rfl

theorem mem_bundles_sort {x : String} : x ∈ bundles (sort (requested data flag)) ↔ x ∈ data := by
  rw [mem_bundles_iff]
  constructor
  · rintro ⟨f, hinfo⟩
    exact (mem_requested.mp (mem_sort.mp hinfo)).1
  · intro hx
    exact ⟨flag, mem_sort.mpr (mem_requested.mpr ⟨hx, rfl⟩)⟩

theorem sorted_bundles_sort : Sorted (bundles (sort (requested data flag))) := by
  refine List.pairwise_map.mpr ((sorted_sort (requested data flag)).imp fun {info info'} hle => ?_)
  have hle : toLex (info.bundleName, info.disallowModify) ≤
    toLex (info'.bundleName, info'.disallowModify) := hle
  exact (Prod.Lex.toLex_le_toLex.mp hle).elim le_of_lt fun h => h.1.le

/-- All applications are accepted. -/
theorem takes_all (hcurrent : OneFlag current) (h : ∀ x ∈ data, Accepted answers data x) :
    Takes answers data flag current
      (setUnionPolicyData (sort current) (sort (requested data flag))) := by
  have hsorted : ∀ {l : List ManageKeepAliveAppInfo}, OneFlag l → OneFlag (sort l) :=
    fun hl => hl.of_subset fun info hinfo => mem_sort.mp hinfo
  intro info
  rw [mem_setUnionPolicyData (hsorted hcurrent) (hsorted oneFlag_requested), mem_bundles_sort,
    mem_sort, mem_sort, mem_requested]
  have haccepted : Accepted answers data info.bundleName ↔ info.bundleName ∈ data :=
    ⟨And.left, h _⟩
  rw [haccepted]

/-- Some applications are refused. -/
theorem takes_some (hcurrent : OneFlag current) {failedData : List ManageKeepAliveAppInfo}
    (h : failedData = (sort (requested data flag)).filter fun info =>
      failed (answers.setApplicationKeepAliveByEDM info.bundleName)) :
    Takes answers data flag current (setUnionPolicyData (sort current)
      (setDifferencePolicyData failedData
        (setDifferencePolicyData current (requested data flag)))) := by
  generalize hadded : setDifferencePolicyData failedData
    (setDifferencePolicyData current (requested data flag)) = added
  have hmem : ∀ info, info ∈ added ↔ (requested data flag).count info > current.count info ∧
      failed (answers.setApplicationKeepAliveByEDM info.bundleName) = false := by
    intro info
    rw [← hadded, mem_setDifferencePolicyData, count_setDifferencePolicyData, h]
    cases hres : failed (answers.setApplicationKeepAliveByEDM info.bundleName) with
    | true =>
      have hcount : ((sort (requested data flag)).filter fun info =>
          failed (answers.setApplicationKeepAliveByEDM info.bundleName)).count info =
            (requested data flag).count info := by
        rw [← count_sort (requested data flag)]
        exact List.count_filter (p := fun info : ManageKeepAliveAppInfo =>
          failed (answers.setApplicationKeepAliveByEDM info.bundleName)) hres
      rw [hcount]
      simp only [Bool.true_eq_false, and_false, iff_false]
      omega
    | false =>
      have hzero : ((sort (requested data flag)).filter fun info =>
          failed (answers.setApplicationKeepAliveByEDM info.bundleName)).count info = 0 := by
        refine List.count_eq_zero.mpr fun hinfo => ?_
        rw [(List.mem_filter.mp hinfo).2] at hres
        contradiction
      rw [hzero]
      simp only [and_true]
      omega
  have hrequested : ∀ info, info ∈ added → info ∈ requested data flag := fun info hinfo =>
    List.count_pos_iff.mp (Nat.zero_lt_of_lt ((hmem info).mp hinfo).1)
  intro info
  rw [mem_setUnionPolicyData (hcurrent.of_subset fun info hinfo => mem_sort.mp hinfo)
    (oneFlag_requested.of_subset hrequested), mem_sort]
  -- An accepted application is new, or the caller's list had it with this flag.
  have hold : Accepted answers data info.bundleName → ⟨info.bundleName, flag⟩ ∉ added →
      ⟨info.bundleName, flag⟩ ∈ current := by
    rintro ⟨hdata, hok⟩ hnot
    rw [hmem, not_and] at hnot
    have hcount : 0 < (requested data flag).count ⟨info.bundleName, flag⟩ :=
      List.count_pos_iff.mpr (mem_requested.mpr ⟨hdata, rfl⟩)
    have hle : ¬(requested data flag).count ⟨info.bundleName, flag⟩ >
      current.count ⟨info.bundleName, flag⟩ := fun hlt => hnot hlt hok
    exact List.count_pos_iff.mp (by omega)
  have hbundles : info.bundleName ∈ bundles added ↔ ⟨info.bundleName, flag⟩ ∈ added := by
    rw [mem_bundles_iff]
    constructor
    · rintro ⟨f, hinfo⟩
      obtain ⟨-, rfl⟩ := mem_requested.mp (hrequested _ hinfo)
      exact hinfo
    · intro hinfo
      exact ⟨flag, hinfo⟩
  have haccepted : ⟨info.bundleName, flag⟩ ∈ added → Accepted answers data info.bundleName :=
    fun hinfo => ⟨(mem_requested.mp (hrequested _ hinfo)).1, ((hmem _).mp hinfo).2⟩
  obtain ⟨bundleName, f⟩ := info
  rw [hbundles]
  constructor
  · rintro (hinfo | ⟨hinfo, hnot⟩)
    · obtain ⟨-, rfl⟩ := mem_requested.mp (hrequested _ hinfo)
      exact .inl ⟨haccepted hinfo, rfl⟩
    · by_cases hx : Accepted answers data bundleName
      · have hsame := hcurrent _ hinfo _ (hold hx hnot) rfl
        exact .inl ⟨hx, congrArg ManageKeepAliveAppInfo.disallowModify hsame⟩
      · exact .inr ⟨hinfo, hx⟩
  · rintro (⟨hx, rfl⟩ | ⟨hinfo, hx⟩)
    · by_cases hin : ⟨bundleName, f⟩ ∈ added
      · exact .inl hin
      · exact .inr ⟨hold hx hin, hin⟩
    · exact .inr ⟨hinfo, fun hin => hx (haccepted hin)⟩

/-- A call that fails leaves what is enforced, and one that succeeds is exact. -/
def AtomicExact (before after : Enforced) (merge : List ManageKeepAliveAppInfo)
    (result : ErrCode × Finset String × List ManageKeepAliveAppInfo ×
      List ManageKeepAliveAppInfo) : Prop :=
  (failed result.1 = true → after = before) ∧
    (failed result.1 = false → Exact after result.2.2.1 merge result.2.2.2)

theorem atomicExact_of_failed {before : Enforced} {err : ErrCode} (h : failed err = true)
    (rest : Finset String × List ManageKeepAliveAppInfo × List ManageKeepAliveAppInfo) :
    AtomicExact before before merge (err, rest) := by
  refine ⟨fun _ => rfl, fun hok => ?_⟩
  rw [h] at hok
  contradiction

/-- The empty request hands back the others' list. -/
theorem atomicExact_nil (hagree : Agree total current merge) :
    AtomicExact (recorded total) (recorded total) merge (ERR_OK, alive, current, merge) ↔
      ∀ x ∈ bundles current, x ∈ bundles merge := by
  constructor
  · intro h x hx
    exact ((h.2 rfl).mem_bundles x).mpr (.inl hx)
  · intro h
    refine ⟨nofun, fun _ => ⟨hagree.nodup_merge, fun x => (or_iff_right_of_imp (h x)).symm, ?_⟩⟩
    refine recorded_eq (oneFlag_of_nodup hagree.nodup_merge) fun x f => ?_
    have htotal := oneFlag_of_nodup hagree.nodup_total
    rw [recorded_iff htotal]
    refine ⟨fun hinfo => ?_, hagree.merge_sub _⟩
    have hmerge : x ∈ bundles merge :=
      ((hagree.mem_bundles x).mp (mem_bundles_iff.mpr ⟨f, hinfo⟩)).elim (h x) id
    obtain ⟨f', hinfo'⟩ := mem_bundles_iff.mp hmerge
    rw [htotal _ hinfo _ (hagree.merge_sub _ hinfo') rfl]
    exact hinfo'

/-- The combined list would have this many items. -/
theorem length_afterMerge (hagree : Agree total current merge) :
    (setUnionPolicyData merge (setUnionPolicyData (sort current)
      (sort (requested data flag)))).length =
        (data.toFinset ∪ (bundles total).toFinset).card := by
  generalize hafter : setUnionPolicyData merge (setUnionPolicyData (sort current)
    (sort (requested data flag))) = after
  have hnodup : (bundles after).Nodup := hafter ▸ nodup_bundles_setUnionPolicyData _ _
  have hset : (bundles after).toFinset = data.toFinset ∪ (bundles total).toFinset := by
    ext x
    have hcurrent : x ∈ bundles (sort current) ↔ x ∈ bundles current :=
      ((perm_sort current).map _).mem_iff
    rw [List.mem_toFinset, ← hafter, mem_bundles_setUnionPolicyData,
      mem_bundles_setUnionPolicyData, mem_bundles_sort, hcurrent, Finset.mem_union,
      List.mem_toFinset, List.mem_toFinset, hagree.mem_bundles]
    tauto
  have hlength : after.length = (bundles after).length := (List.length_map _).symm
  rw [hlength, ← List.toFinset_card_of_nodup hnodup, hset]

/-- What a SET must not meet: an empty request of an admin that keeps an application alive alone,
and an application that may not run behind one that is called for and changed. -/
structure SetClean (answers : Answers) (total current merge : List ManageKeepAliveAppInfo)
    (data : List String) (flag : Bool) : Prop where
  empty : data = [] → ∀ x ∈ bundles current, x ∈ bundles merge
  conflict : data.length ≤ KEEP_ALIVE_APPS_MAX_SIZE →
    (data.toFinset ∪ (bundles total).toFinset).card ≤ KEEP_ALIVE_APPS_MAX_SIZE →
    answers.abilityManager = true → ∀ disallowed, answers.appRunningControlRule = some disallowed →
    (∃ y ∈ data, y ∈ disallowed) → ∀ x ∈ data, x ∉ disallowed →
    (∀ y ∈ data, y ∈ disallowed → x < y) →
      failed (answers.setApplicationKeepAliveByEDM x) = true ∨ ⟨x, flag⟩ ∈ total

/-- The calls before a disallowed application change nothing exactly where they fail or repeat what
is enforced. -/
theorem enforceApps_eq_iff (htotal : OneFlag total) :
    enforceApps answers disallowed flag (bundles (sort (requested data flag))) (recorded total) =
      recorded total ↔ ∀ x ∈ data, x ∉ disallowed → (∀ y ∈ data, y ∈ disallowed → x < y) →
        failed (answers.setApplicationKeepAliveByEDM x) = true ∨ ⟨x, flag⟩ ∈ total := by
  have hbefore : ∀ x,
      x ∈ (bundles (sort (requested data flag))).takeWhile (fun y => y ∉ disallowed) ↔
        x ∈ data ∧ x ∉ disallowed ∧ ∀ y ∈ data, y ∈ disallowed → x < y := by
    intro x
    rw [mem_takeWhile_sorted sorted_bundles_sort, mem_bundles_sort]
    simp only [mem_bundles_sort]
  have hallowed : ∀ x ∈ (bundles (sort (requested data flag))).takeWhile (fun y => y ∉ disallowed),
      x ∉ disallowed := fun x hx => ((hbefore x).mp hx).2.1
  rw [enforceApps_takeWhile, funext_iff]
  constructor
  · intro h x hx hnot hless
    have hsame := h x
    rw [enforceApps_apply hallowed] at hsame
    by_cases hres : failed (answers.setApplicationKeepAliveByEDM x) = true
    · exact .inl hres
    · rw [if_pos ⟨(hbefore x).mpr ⟨hx, hnot, hless⟩, Bool.eq_false_iff.mpr hres⟩] at hsame
      exact .inr ((recorded_iff htotal).mp hsame.symm)
  · intro h x
    rw [enforceApps_apply hallowed]
    split
    · rename_i hx
      obtain ⟨hbefore', hok⟩ := hx
      obtain ⟨hx, hnot, hless⟩ := (hbefore x).mp hbefore'
      refine ((recorded_iff htotal).mpr ((h x hx hnot hless).resolve_left ?_)).symm
      rw [hok]
      exact nofun
    · rfl

/-- What `OnSetPolicy` makes of the result of the calls. -/
def afterCalls (data : List String) (flag : Bool) (current merge : List ManageKeepAliveAppInfo)
    (calls : ErrCode × Finset String × List ManageKeepAliveAppInfo) :
    ErrCode × Finset String × List ManageKeepAliveAppInfo × List ManageKeepAliveAppInfo :=
  let (ret, alive, failedData) := calls
  if failed ret then (ret, alive, current, merge)
  else if failedData = [] then
    let afterHandle := setUnionPolicyData (sort current) (sort (requested data flag))
    (ERR_OK, alive, afterHandle, setUnionPolicyData merge afterHandle)
  else
    let addDataSuccessful := setDifferencePolicyData failedData
      (setDifferencePolicyData current (requested data flag))
    let currentData := setUnionPolicyData (sort current) addDataSuccessful
    (ERR_OK, alive, currentData, setUnionPolicyData merge currentData)

/-- The calls of a request that has no disallowed application. -/
theorem atomicExact_allowed (hagree : Agree total current merge)
    (hallowed : ∀ x ∈ data, x ∉ disallowed) :
    AtomicExact (recorded total)
      (enforceApps answers disallowed flag (bundles (sort (requested data flag)))
        (recorded total)) merge
      (afterCalls data flag current merge (addKeepAliveApps answers disallowed flag
        (bundles (sort (requested data flag))) (.start alive))) := by
  have hcurrent := oneFlag_of_nodup hagree.nodup_current
  have hcalled : ∀ x ∈ bundles (sort (requested data flag)), x ∉ disallowed :=
    fun x hx => hallowed x (mem_bundles_sort.mp hx)
  obtain ⟨progress, ⟨hfailedData, hcode⟩, hloop⟩ :=
    @addKeepAliveApps_ran answers _ _ flag hcalled (.start alive)
  rw [map_bundles_sort] at hfailedData hcode
  have henforced := @enforceApps_apply answers (recorded total) _ _ flag hcalled
  generalize enforceApps answers disallowed flag (bundles (sort (requested data flag)))
    (recorded total) = enforced at henforced ⊢
  have haccepted : ∀ x, Accepted answers data x → enforced x = some flag := fun x hx => by
    rw [henforced, if_pos ⟨mem_bundles_sort.mpr hx.1, hx.2⟩]
  have hother : ∀ x, ¬Accepted answers data x → enforced x = recorded total x := fun x hx => by
    rw [henforced, if_neg fun h => hx ⟨mem_bundles_sort.mp h.1, h.2⟩]
  rw [hloop, afterCalls]
  dsimp only
  cases hret : failed progress.code with
  | true =>
    rw [if_pos rfl]
    obtain ⟨-, hall, -⟩ := hcode.mp hret
    have hnone : ∀ x, ¬Accepted answers data x := by
      rintro x ⟨hx, hok⟩
      have hres := hall ⟨x, flag⟩ (mem_sort.mpr (mem_requested.mpr ⟨hx, rfl⟩))
      rw [hok] at hres
      contradiction
    have hsame : enforced = recorded total := funext fun x => hother x (hnone x)
    rw [hsame]
    exact atomicExact_of_failed hret _
  | false =>
    rw [if_neg (by decide)]
    split
    · rename_i hnofail
      refine ⟨nofun, fun _ => Takes.exact (takes_all hcurrent fun x hx => ⟨hx, ?_⟩) hagree haccepted
        hother⟩
      have hfilter := List.filter_eq_nil_iff.mp (hfailedData.symm.trans hnofail) ⟨x, flag⟩
        (mem_sort.mpr (mem_requested.mpr ⟨hx, rfl⟩))
      exact Bool.eq_false_iff.mpr hfilter
    · exact ⟨nofun, fun _ => Takes.exact (takes_some hcurrent hfailedData) hagree haccepted hother⟩

/-- The calls of a request that has one. -/
theorem atomicExact_conflict (hagree : Agree total current merge)
    (hconflict : ∃ y ∈ data, y ∈ disallowed) :
    AtomicExact (recorded total)
      (enforceApps answers disallowed flag (bundles (sort (requested data flag)))
        (recorded total)) merge
      (afterCalls data flag current merge (addKeepAliveApps answers disallowed flag
        (bundles (sort (requested data flag))) (.start alive))) ↔
      ∀ x ∈ data, x ∉ disallowed → (∀ y ∈ data, y ∈ disallowed → x < y) →
        failed (answers.setApplicationKeepAliveByEDM x) = true ∨ ⟨x, flag⟩ ∈ total := by
  rw [← enforceApps_eq_iff (oneFlag_of_nodup hagree.nodup_total)]
  obtain ⟨y, hy, hdisallowed⟩ := hconflict
  have hcalled : ∃ y ∈ bundles (sort (requested data flag)), y ∈ disallowed :=
    ⟨y, mem_bundles_sort.mpr hy, hdisallowed⟩
  have hfailed := @addKeepAliveApps_conflict answers _ _ flag hcalled (.start alive)
  generalize addKeepAliveApps answers disallowed flag (bundles (sort (requested data flag)))
    (.start alive) = calls at hfailed ⊢
  obtain ⟨ret, alive', failedData⟩ := calls
  have hfailed : failed ret = true := hfailed
  rw [afterCalls]
  dsimp only
  rw [if_pos hfailed]
  constructor
  · intro h
    exact h.1 hfailed
  · intro h
    rw [h]
    exact atomicExact_of_failed hfailed _

theorem atomicExact_set (hagree : Agree total current merge) :
    AtomicExact (recorded total)
      (enforcedBySet answers (recorded total) data flag current merge) merge
      (onSetPolicy answers alive data flag current merge) ↔
        SetClean answers total current merge data flag := by
  have htotal := oneFlag_of_nodup hagree.nodup_total
  have hcurrent := oneFlag_of_nodup hagree.nodup_current
  have hlength := @length_afterMerge total current merge data flag hagree
  by_cases hnil : data = []
  · rw [enforcedBySet, onSetPolicy, if_pos hnil, if_pos hnil, atomicExact_nil hagree]
    refine ⟨fun h => ⟨fun _ => h, ?_⟩, fun h => h.empty hnil⟩
    subst hnil
    rintro - - - - - ⟨y, hy, -⟩
    exact absurd hy List.not_mem_nil
  · by_cases hlong : KEEP_ALIVE_APPS_MAX_SIZE < data.length
    · rw [enforcedBySet, onSetPolicy, if_neg hnil, if_neg hnil, if_pos hlong, if_pos hlong]
      refine iff_of_true (atomicExact_of_failed rfl _) ⟨fun h => absurd h hnil, fun hle => ?_⟩
      exact absurd hlong (Nat.not_lt.mpr hle)
    · have hshort : data.length ≤ KEEP_ALIVE_APPS_MAX_SIZE := Nat.not_lt.mp hlong
      rw [enforcedBySet, onSetPolicy, if_neg hnil, if_neg hnil, if_neg hlong, if_neg hlong]
      dsimp only
      rw [hlength]
      by_cases hlarge : KEEP_ALIVE_APPS_MAX_SIZE < (data.toFinset ∪ (bundles total).toFinset).card
      · rw [if_pos hlarge, if_pos hlarge]
        refine iff_of_true (atomicExact_of_failed rfl _)
          ⟨fun h => absurd h hnil, fun _ hle => absurd hlarge (Nat.not_lt.mpr hle)⟩
      · have hsmall := Nat.not_lt.mp hlarge
        rw [if_neg hlarge, if_neg hlarge, setOtherModulePolicy]
        cases hmanager : answers.abilityManager with
        | false =>
          refine iff_of_true (atomicExact_of_failed rfl _)
            ⟨fun h => absurd h hnil, fun _ _ hanswers => ?_⟩
          rw [hmanager] at hanswers
          contradiction
        | true =>
          cases hrule : answers.appRunningControlRule with
          | none =>
            refine iff_of_true (atomicExact_of_failed rfl _)
              ⟨fun h => absurd h hnil, fun _ _ _ disallowed hanswers => ?_⟩
            rw [hrule] at hanswers
            contradiction
          | some disallowed =>
            have hclean : SetClean answers total current merge data flag ↔
                ((∃ y ∈ data, y ∈ disallowed) → ∀ x ∈ data, x ∉ disallowed →
                  (∀ y ∈ data, y ∈ disallowed → x < y) →
                    failed (answers.setApplicationKeepAliveByEDM x) = true ∨
                      ⟨x, flag⟩ ∈ total) := by
              constructor
              · intro h
                exact h.conflict hshort hsmall hmanager disallowed hrule
              · intro h
                refine ⟨fun h => absurd h hnil, fun _ _ _ disallowed' hanswers => ?_⟩
                rw [hrule] at hanswers
                rwa [← Option.some.inj hanswers]
            rw [hclean]
            show AtomicExact (recorded total)
              (enforceApps answers disallowed flag (bundles (sort (requested data flag)))
                (recorded total)) merge
              (afterCalls data flag current merge (addKeepAliveApps answers disallowed flag
                (bundles (sort (requested data flag))) (.start alive))) ↔ _
            by_cases hconflict : ∃ y ∈ data, y ∈ disallowed
            · rw [atomicExact_conflict hagree hconflict, forall_prop_of_true hconflict]
            · refine iff_of_true (atomicExact_allowed hagree fun x hx hdisallowed => ?_)
                fun h => absurd h hconflict
              exact hconflict ⟨x, hx, hdisallowed⟩

end Set

/-! ### REMOVE -/

section Remove

variable {answers : Answers} {total current merge : List ManageKeepAliveAppInfo}
  {data : List String} {alive : Finset String} {isUninstall : Bool}

/-- What a REMOVE must not meet: an empty request of an admin that keeps an application alive alone,
and an uninstalled application that the ability manager is not told of. -/
structure RemoveClean (current merge : List ManageKeepAliveAppInfo) (data : List String)
    (isUninstall : Bool) : Prop where
  empty : data = [] → ∀ x ∈ bundles current, x ∈ bundles merge
  uninstall : data.length ≤ KEEP_ALIVE_APPS_MAX_SIZE → isUninstall = true →
    ∀ x ∈ data, x ∈ bundles current → x ∈ bundles merge

theorem mem_setIntersectionPolicyData (hcurrent : OneFlag current) {info : ManageKeepAliveAppInfo} :
    info ∈ setIntersectionPolicyData data current ↔ info.bundleName ∈ data ∧ info ∈ current := by
  rw [setIntersectionPolicyData, List.mem_filterMap]
  constructor
  · rintro ⟨item, hitem, hfind⟩
    have hfound := List.find?_some hfind
    have hbundle : info.bundleName = item := beq_iff_eq.mp hfound
    exact ⟨hbundle ▸ hitem, List.mem_of_find?_eq_some hfind⟩
  · rintro ⟨hitem, hinfo⟩
    refine ⟨_, hitem, ?_⟩
    cases hfind : current.find? fun item => item.bundleName == info.bundleName with
    | none =>
      have hnone := List.find?_eq_none.mp hfind info hinfo
      simp at hnone
    | some found =>
      have hfound := List.find?_some hfind
      exact congrArg some (hcurrent _ (List.mem_of_find?_eq_some hfind) _ hinfo
        (beq_iff_eq.mp hfound))

theorem mem_setNeedRemoveMergePolicyData {info : ManageKeepAliveAppInfo}
    {removed : List ManageKeepAliveAppInfo} :
    info ∈ setNeedRemoveMergePolicyData merge removed ↔
      info ∈ removed ∧ info.bundleName ∉ bundles merge := by
  rw [setNeedRemoveMergePolicyData, List.mem_filter]
  refine and_congr_right fun _ => ?_
  simp [bundles]

/-- The caller's list without the requested applications for which `Stays` does not hold. -/
def Loses (Stays : String → Prop) (data : List String)
    (current current' : List ManageKeepAliveAppInfo) : Prop :=
  ∀ info, info ∈ current' ↔ info ∈ current ∧ (info.bundleName ∈ data → Stays info.bundleName)

theorem Loses.exact_iff {Stays : String → Prop} {current' : List ManageKeepAliveAppInfo}
    {enforced : Enforced} (h : Loses Stays data current current')
    (hagree : Agree total current merge)
    (hshared : ∀ x, x ∈ bundles merge → enforced x = recorded total x)
    (hkept : ∀ x, x ∉ data ∨ x ∉ bundles current ∨ Stays x → enforced x = recorded total x) :
    Exact enforced current' merge (setUnionPolicyData current' merge) ↔
      ∀ x, x ∈ data → x ∈ bundles current → x ∉ bundles merge → ¬Stays x → enforced x = none := by
  have htotal := oneFlag_of_nodup hagree.nodup_total
  have hcurrent := oneFlag_of_nodup hagree.nodup_current
  have hflag : OneFlag current' := hcurrent.of_subset fun info hinfo => ((h info).mp hinfo).1
  have hmem : ∀ info, info ∈ setUnionPolicyData current' merge ↔
      info ∈ merge ∨ info ∈ current' ∧ info.bundleName ∉ bundles merge := fun info =>
    mem_setUnionPolicyData hflag (oneFlag_of_nodup hagree.nodup_merge)
  have honce := oneFlag_of_nodup (nodup_bundles_setUnionPolicyData current' merge)
  constructor
  · intro hexact x hdata hx hnot hstays
    refine Option.eq_none_iff_forall_ne_some.mpr fun f hf => ?_
    rw [hexact.enforced_eq, recorded_iff honce, hmem] at hf
    rcases hf with hmerge | ⟨hnew, -⟩
    · exact hnot (mem_bundles_iff.mpr ⟨f, hmerge⟩)
    · exact hstays (((h _).mp hnew).2 hdata)
  · intro hnone
    refine ⟨nodup_bundles_setUnionPolicyData _ _, fun x => mem_bundles_setUnionPolicyData, ?_⟩
    refine recorded_eq honce fun x f => ?_
    rw [hmem]
    by_cases hmerge : x ∈ bundles merge
    · rw [hshared x hmerge, recorded_iff htotal, or_iff_left fun hnew => hnew.2 hmerge]
      refine ⟨fun hinfo => ?_, hagree.merge_sub _⟩
      obtain ⟨f', hinfo'⟩ := mem_bundles_iff.mp hmerge
      rwa [htotal _ hinfo _ (hagree.merge_sub _ hinfo') rfl]
    · rw [or_iff_right fun hinfo => hmerge (mem_bundles_iff.mpr ⟨f, hinfo⟩), and_iff_left hmerge, h]
      by_cases hlost : x ∈ data ∧ x ∈ bundles current ∧ ¬Stays x
      · obtain ⟨hdata, hx, hstays⟩ := hlost
        rw [hnone x hdata hx hmerge hstays]
        exact iff_of_false nofun fun hinfo => hstays (hinfo.2 hdata)
      · have hkeep : x ∉ data ∨ x ∉ bundles current ∨ Stays x := by tauto
        rw [hkept x hkeep, recorded_iff htotal]
        constructor
        · intro hinfo
          have hx := ((hagree.mem_bundles x).mp (mem_bundles_iff.mpr ⟨f, hinfo⟩)).resolve_right
            hmerge
          obtain ⟨f', hinfo'⟩ := mem_bundles_iff.mp hx
          rw [htotal _ hinfo _ (hagree.current_sub _ hinfo') rfl]
          exact ⟨hinfo', fun hdata => by tauto⟩
        · rintro ⟨hinfo, -⟩
          exact hagree.current_sub _ hinfo

/-- Refused applications that no other admin keeps alive stay. -/
theorem loses_refused (hcurrent : (bundles current).Nodup) (refuses : String → Bool)
    {failedData : List ManageKeepAliveAppInfo}
    (h : failedData = (setNeedRemoveMergePolicyData merge
      (setIntersectionPolicyData data current)).filter fun info => refuses info.bundleName) :
    Loses (fun x => x ∉ bundles merge ∧ refuses x = true) data current
      (setDifferencePolicyData
        (if failedData = [] then setIntersectionPolicyData data current
          else setDifferencePolicyData failedData (setIntersectionPolicyData data current))
        current) := by
  have honce := oneFlag_of_nodup hcurrent
  have hcount : current.Nodup := List.Nodup.of_map _ hcurrent
  have hneed := fun info => @mem_setIntersectionPolicyData current data honce info
  generalize setIntersectionPolicyData data current = needRemove at h hneed ⊢
  have hfailed : ∀ info, failedData.count info =
      if info.bundleName ∉ bundles merge ∧ refuses info.bundleName = true then needRemove.count info
      else 0 := by
    intro info
    rw [h]
    split
    · rename_i hstays
      rw [List.count_filter (p := fun info : ManageKeepAliveAppInfo => refuses info.bundleName)
        hstays.2]
      refine List.count_filter (p := fun item : ManageKeepAliveAppInfo =>
        !merge.any fun mergeItem => mergeItem.bundleName == item.bundleName) ?_
      have hnot := hstays.1
      simpa [bundles] using hnot
    · rename_i hstays
      refine List.count_eq_zero.mpr fun hinfo => hstays ?_
      obtain ⟨hinfo, hrefuses⟩ := List.mem_filter.mp hinfo
      exact ⟨(mem_setNeedRemoveMergePolicyData.mp hinfo).2, hrefuses⟩
  have hremoved : ∀ info, info ∈ (if failedData = [] then needRemove
      else setDifferencePolicyData failedData needRemove) ↔
        info ∈ needRemove ∧
          ¬(info.bundleName ∉ bundles merge ∧ refuses info.bundleName = true) := by
    intro info
    have hinfo := hfailed info
    have hpos : 0 < needRemove.count info ↔ info ∈ needRemove := List.count_pos_iff
    split
    · rename_i hnil
      rw [hnil, List.count_nil] at hinfo
      refine ⟨fun hmem => ⟨hmem, fun hstays => ?_⟩, And.left⟩
      rw [if_pos hstays] at hinfo
      have hlt := hpos.mpr hmem
      omega
    · rw [mem_setDifferencePolicyData, hinfo, ← hpos]
      split
      · rename_i hstays
        exact iff_of_false (lt_irrefl _) fun hmem => hmem.2 hstays
      · rename_i hstays
        exact (and_iff_left hstays).symm
  intro info
  rw [mem_setDifferencePolicyData]
  generalize (if failedData = [] then needRemove
    else setDifferencePolicyData failedData needRemove) = removed at hremoved ⊢
  have hone := List.nodup_iff_count_le_one.mp hcount info
  have hlt : removed.count info < current.count info ↔ info ∈ current ∧ info ∉ removed := by
    rw [← List.count_pos_iff (l := current), ← List.count_eq_zero]
    omega
  rw [hlt, hremoved, hneed]
  tauto

/-- What `OnRemovePolicy` makes of the result of the calls. -/
def afterReleases (data : List String) (current merge : List ManageKeepAliveAppInfo)
    (calls : ErrCode × Finset String × List ManageKeepAliveAppInfo) :
    ErrCode × Finset String × List ManageKeepAliveAppInfo × List ManageKeepAliveAppInfo :=
  let (ret, alive, failedData) := calls
  if failed ret then (ret, alive, current, merge)
  else
    let removeData :=
      if failedData = [] then setIntersectionPolicyData data current
      else setDifferencePolicyData failedData (setIntersectionPolicyData data current)
    let currentData := setDifferencePolicyData removeData current
    (ERR_OK, alive, currentData, setUnionPolicyData currentData merge)

/-- A REMOVE without calls. -/
theorem atomicExact_silent (hagree : Agree total current merge) :
    AtomicExact (recorded total) (recorded total) merge
      (afterReleases data current merge (ERR_OK, alive, [])) ↔
        ∀ x ∈ data, x ∈ bundles current → x ∈ bundles merge := by
  have hfilter : ([] : List ManageKeepAliveAppInfo) = (setNeedRemoveMergePolicyData merge
      (setIntersectionPolicyData data current)).filter fun _ => false := by simp
  have hloses := loses_refused hagree.nodup_current (fun _ => false) hfilter
  have hexact := hloses.exact_iff hagree (fun _ _ => rfl) fun _ _ => rfl
  rw [afterReleases]
  dsimp only
  rw [if_neg (by decide), AtomicExact]
  refine (and_iff_right nofun).trans ((forall_prop_of_true rfl).trans (hexact.trans ?_))
  refine forall_congr' fun x => forall_congr' fun hx => forall_congr' fun hcurrent => ?_
  have hsome : recorded total x ≠ none := by
    obtain ⟨f, hinfo⟩ := mem_bundles_iff.mp ((hagree.mem_bundles x).mpr (.inl hcurrent))
    rw [(recorded_iff (oneFlag_of_nodup hagree.nodup_total)).mpr hinfo]
    exact nofun
  constructor
  · intro h
    by_contra hnot
    exact hsome (h hnot (by simp))
  · intro hmerge hnot
    exact absurd hmerge hnot

/-- A REMOVE with calls. -/
theorem atomicExact_releases (hagree : Agree total current merge) :
    AtomicExact (recorded total)
      (releaseApps answers (setNeedRemoveMergePolicyData merge
        (setIntersectionPolicyData data current)) (recorded total)) merge
      (afterReleases data current merge
        (let progress := (setNeedRemoveMergePolicyData merge
            (setIntersectionPolicyData data current)).foldl (fun (progress : Progress) bundleName =>
          progress.call answers bundleName (progress.alive.erase bundleName.bundleName))
            (Progress.start alive)
        (progress.code, progress.alive, progress.failedData))) := by
  have hcurrent := oneFlag_of_nodup hagree.nodup_current
  have hran := @foldl_call_ran answers (fun progress info =>
    progress.alive.erase info.bundleName) (setNeedRemoveMergePolicyData merge
      (setIntersectionPolicyData data current)) (Progress.start alive)
  have hmem : ∀ x, x ∈ bundles (setNeedRemoveMergePolicyData merge
      (setIntersectionPolicyData data current)) ↔
        x ∈ data ∧ x ∈ bundles current ∧ x ∉ bundles merge := by
    intro x
    rw [mem_bundles_iff, mem_bundles_iff]
    simp only [mem_setNeedRemoveMergePolicyData, mem_setIntersectionPolicyData hcurrent]
    constructor
    · rintro ⟨f, ⟨hdata, hinfo⟩, hnot⟩
      exact ⟨hdata, ⟨f, hinfo⟩, hnot⟩
    · rintro ⟨hdata, ⟨f, hinfo⟩, hnot⟩
      exact ⟨f, ⟨hdata, hinfo⟩, hnot⟩
  have hreleased := fun x => @releaseApps_apply answers (recorded total)
    (setNeedRemoveMergePolicyData merge (setIntersectionPolicyData data current)) x
  obtain ⟨hfailedData, hcode⟩ := hran
  generalize (setNeedRemoveMergePolicyData merge (setIntersectionPolicyData data current)).foldl
    (fun (progress : Progress) info => progress.call answers info
      (progress.alive.erase info.bundleName)) (Progress.start alive) = progress
    at hfailedData hcode ⊢
  have hloses := loses_refused hagree.nodup_current
    (fun x => failed (answers.setApplicationKeepAliveByEDM x)) hfailedData
  generalize releaseApps answers (setNeedRemoveMergePolicyData merge
    (setIntersectionPolicyData data current)) (recorded total) = enforced at hreleased ⊢
  simp only [hmem] at hreleased
  rw [afterReleases]
  dsimp only
  cases hret : failed progress.code with
  | true =>
    rw [if_pos rfl]
    obtain ⟨-, hall, -⟩ := hcode.mp hret
    have hsame : enforced = recorded total := by
      funext x
      rw [hreleased, if_neg]
      rintro ⟨hx, hok⟩
      obtain ⟨f, hinfo⟩ := mem_bundles_iff.mp ((hmem x).mpr hx)
      have hres := hall _ hinfo
      rw [hok] at hres
      contradiction
    rw [hsame]
    exact atomicExact_of_failed hret _
  | false =>
    rw [if_neg (by decide)]
    refine ⟨nofun, fun _ => (hloses.exact_iff hagree ?_ ?_).mpr ?_⟩
    · intro x hmerge
      rw [hreleased, if_neg fun h => h.1.2.2 hmerge]
    · intro x hkeep
      rw [hreleased, if_neg]
      rintro ⟨⟨hdata, hx, hnot⟩, hok⟩
      rcases hkeep with hkeep | hkeep | ⟨-, hfailed⟩
      · exact hkeep hdata
      · exact hkeep hx
      · rw [hok] at hfailed
        contradiction
    · intro x hdata hx hnot hstays
      have hok : failed (answers.setApplicationKeepAliveByEDM x) = false :=
        Bool.eq_false_iff.mpr fun hfailed => hstays ⟨hnot, hfailed⟩
      rw [hreleased, if_pos ⟨⟨hdata, hx, hnot⟩, hok⟩]

theorem atomicExact_remove (hagree : Agree total current merge) :
    AtomicExact (recorded total)
      (enforcedByRemove answers (recorded total) data current merge isUninstall) merge
      (onRemovePolicy answers alive data current merge isUninstall) ↔
        RemoveClean current merge data isUninstall := by
  by_cases hnil : data = []
  · rw [enforcedByRemove, onRemovePolicy, if_pos hnil, if_pos hnil, atomicExact_nil hagree]
    refine ⟨fun h => ⟨fun _ => h, ?_⟩, fun h => h.empty hnil⟩
    subst hnil
    exact fun _ _ x hx => absurd hx List.not_mem_nil
  · by_cases hlong : KEEP_ALIVE_APPS_MAX_SIZE < data.length
    · rw [enforcedByRemove, onRemovePolicy, if_neg hnil, if_neg hnil, if_pos hlong, if_pos hlong]
      refine iff_of_true (atomicExact_of_failed rfl _) ⟨fun h => absurd h hnil, fun hle => ?_⟩
      exact absurd hlong (Nat.not_lt.mpr hle)
    · have hshort : data.length ≤ KEEP_ALIVE_APPS_MAX_SIZE := Nat.not_lt.mp hlong
      rw [enforcedByRemove, onRemovePolicy, if_neg hnil, if_neg hnil, if_neg hlong, if_neg hlong]
      show AtomicExact _ _ merge (afterReleases data current merge
        (if setNeedRemoveMergePolicyData merge (setIntersectionPolicyData data current) ≠ [] ∧
            !isUninstall then
          removeOtherModulePolicy answers alive (setNeedRemoveMergePolicyData merge
            (setIntersectionPolicyData data current))
        else (ERR_OK, alive, []))) ↔ _
      cases isUninstall with
      | true =>
        simp only [Bool.not_true, Bool.false_eq_true, and_false, if_false, if_true]
        rw [atomicExact_silent hagree]
        exact ⟨fun h => ⟨fun h => absurd h hnil, fun _ _ => h⟩, fun h => h.uninstall hshort rfl⟩
      | false =>
        have hclean : RemoveClean current merge data false :=
          ⟨fun h => absurd h hnil, fun _ h => absurd h Bool.false_ne_true⟩
        refine iff_of_true ?_ hclean
        by_cases hremoved : setNeedRemoveMergePolicyData merge
            (setIntersectionPolicyData data current) = []
        · simp only [hremoved, ne_eq, not_true_eq_false, false_and, if_false, Bool.false_eq_true]
          have hsame : (if answers.abilityManager = true then
              releaseApps answers [] (recorded total) else recorded total) = recorded total := by
            split <;> rfl
          rw [hsame, atomicExact_silent hagree]
          intro x hx hin
          by_contra hnot
          obtain ⟨f, hinfo⟩ := mem_bundles_iff.mp hin
          have hmem : (⟨x, f⟩ : ManageKeepAliveAppInfo) ∈ setNeedRemoveMergePolicyData merge
              (setIntersectionPolicyData data current) :=
            mem_setNeedRemoveMergePolicyData.mpr ⟨(mem_setIntersectionPolicyData
              (oneFlag_of_nodup hagree.nodup_current)).mpr ⟨hx, hinfo⟩, hnot⟩
          rw [hremoved] at hmem
          exact List.not_mem_nil hmem
        · simp only [hremoved, ne_eq, not_false_eq_true, Bool.not_false, and_self, if_true,
            Bool.false_eq_true, if_false, removeOtherModulePolicy]
          cases answers.abilityManager with
          | false => exact atomicExact_of_failed rfl _
          | true => exact atomicExact_releases hagree

end Remove

/-! ### Requests -/

section Request

variable {C : CJson} {s : PluginState (Finset String)} {enforced : Enforced} {admin : AdminName}

/-- The lists have each bundle once, the combined list is their union, and the ability manager
enforces what it records. -/
structure Settled (C : CJson) (s : PluginState (Finset String)) (enforced : Enforced) : Prop where
  readable : Readable C s
  merged : Merged C s
  nodup : ∀ admin, (bundles (adminList C s admin)).Nodup
  enforced_eq : enforced = recorded (combinedList C s)

/-- What a request of an admin is handled with. -/
def requestData (C : CJson) (order : HashOrder) (s : PluginState (Finset String))
    (admin : AdminName) : HandlePolicyData where
  policyData := value s admin
  mergePolicyData := getOthersMergePolicyData C order s.store.manager admin
  isChanged := false

/-- An error leaves what is enforced.  After a success the combined list that is handed back has the
bundles of the caller's new list and of the others', and is what is enforced. -/
def ExactReply (C : CJson) (others : Set String) (before after : Enforced)
    (reply : ErrCode × Finset String × HandlePolicyData) : Prop :=
  (failed reply.1 = true → after = before) ∧
  (failed reply.1 = false → ∃ current' merge',
    deserialize C reply.2.2.policyData = (true, current') ∧
    deserialize C reply.2.2.mergePolicyData = (true, merge') ∧ (bundles merge').Nodup ∧
    (∀ x, x ∈ bundles merge' ↔ x ∈ bundles current' ∨ x ∈ others) ∧ after = recorded merge')

/-- A request of an admin is atomic and exact. -/
def HandledExactly (C : CJson) (order : HashOrder) (s : PluginState (Finset String))
    (enforced : Enforced) (admin : AdminName) (request : Request) : Prop :=
  ExactReply C (heldByOthers (claims C s) admin) enforced
    (enforcedByRequest C s.store.manager enforced request (requestData C order s admin))
    (onHandlePolicy C s.store.manager s.modules request (requestData C order s admin))

/-- The requests that are handled exactly. -/
structure Clean (C : CJson) (s : PluginState (Finset String)) (enforced : Enforced)
    (admin : AdminName) (request : Request) : Prop where
  empty : request.keepAliveApps = [] → claims C s admin ⊆ heldByOthers (claims C s) admin
  conflict : request.isSet = true → request.keepAliveApps.length ≤ KEEP_ALIVE_APPS_MAX_SIZE →
    (request.keepAliveApps.toFinset ∪ (bundles (combinedList C s)).toFinset).card ≤
      KEEP_ALIVE_APPS_MAX_SIZE →
    request.answers.abilityManager = true →
    ∀ disallowed, request.answers.appRunningControlRule = some disallowed →
    (∃ y ∈ request.keepAliveApps, y ∈ disallowed) →
    ∀ x ∈ request.keepAliveApps, x ∉ disallowed →
    (∀ y ∈ request.keepAliveApps, y ∈ disallowed → x < y) →
      failed (request.answers.setApplicationKeepAliveByEDM x) = true ∨
        enforced x = some request.disallowModify
  uninstall : request.isSet = false → request.isUninstall = true →
    request.keepAliveApps.length ≤ KEEP_ALIVE_APPS_MAX_SIZE →
    ∀ x ∈ request.keepAliveApps, x ∈ claims C s admin → x ∈ heldByOthers (claims C s) admin

theorem mem_of_mem_updateByMergePolicy {data total : List ManageKeepAliveAppInfo}
    {info : ManageKeepAliveAppInfo} (hinfo : info ∈ updateByMergePolicy data total)
    (hbundle : info.bundleName ∈ bundles total) : info ∈ total := by
  obtain ⟨item, -, hitem⟩ := List.mem_map.mp hinfo
  cases hfind : total.find? fun mergeItem => item.bundleName == mergeItem.bundleName with
  | none =>
    rw [hfind] at hitem
    obtain ⟨found, hfound, heq⟩ := List.mem_map.mp hbundle
    have hnone := List.find?_eq_none.mp hfind found hfound
    simp [hitem, heq] at hnone
  | some mergeItem =>
    have hfound := List.find?_some hfind
    have hsame : item.bundleName = mergeItem.bundleName := beq_iff_eq.mp hfound
    rw [hfind] at hitem
    have heq : info = mergeItem := by
      rw [← hitem]
      cases item
      cases mergeItem
      cases hsame
      rfl
    rw [heq]
    exact List.mem_of_find?_eq_some hfind

/-- The others' merged list has the flags of the combined list. -/
theorem getOthersMergePolicyData_flags (C : CJson) (order : HashOrder)
    (s : PluginState (Finset String)) (admin : String) :
    ∃ data, getOthersMergePolicyData C order s.store.manager admin =
      serialize C (updateByMergePolicy data (combinedList C s)) "" := by
  have hnil : ("" : String) = serialize C (updateByMergePolicy [] (combinedList C s)) "" := rfl
  unfold getOthersMergePolicyData
  dsimp only
  split
  · exact ⟨[], hnil⟩
  · split
    · exact ⟨[], hnil⟩
    · rename_i data _
      have hcombined : combinedList C s = (deserialize C (value s "")).2 := rfl
      split
      · exact ⟨[], hnil⟩
      · rename_i hread
        have hlist : combinedList C s = _ := hcombined.trans (congrArg Prod.snd hread)
        exact ⟨mergePolicy data, by rw [hlist]⟩

theorem Settled.agree (h : Settled C s enforced) (order : HashOrder) (admin : AdminName) :
    ∃ others, deserialize C (requestData C order s admin).mergePolicyData = (true, others) ∧
      (∀ x, x ∈ bundles others ↔ x ∈ heldByOthers (claims C s) admin) ∧
      Agree (combinedList C s)
        (updateByMergePolicy (adminList C s admin) (combinedList C s)) others := by
  obtain ⟨others, hnodup, hothers, htext⟩ := getOthersMergePolicyData_text order h.readable admin
  obtain ⟨data, hflags⟩ := getOthersMergePolicyData_flags C order s admin
  have hread : deserialize C (requestData C order s admin).mergePolicyData = (true, others) := by
    have hdata : (requestData C order s admin).mergePolicyData =
      getOthersMergePolicyData C order s.store.manager admin := rfl
    rw [hdata, htext, deserialize_new]
  have hupdate : others = updateByMergePolicy data (combinedList C s) := by
    have hsame := congrArg (deserialize C) (htext.symm.trans hflags)
    rw [deserialize_new, deserialize_new] at hsame
    exact congrArg Prod.snd hsame
  have hmem : ∀ x, x ∈ bundles (combinedList C s) ↔
      x ∈ bundles (updateByMergePolicy (adminList C s admin) (combinedList C s)) ∨
        x ∈ bundles others := by
    intro x
    rw [h.merged.combined_mem, held_eq _ admin, bundles_updateByMergePolicy, hothers, or_comm]
    rfl
  refine ⟨others, hread, hothers, h.merged.combined_nodup, ?_, hnodup, hmem, fun info hinfo => ?_,
    fun info hinfo => ?_⟩
  · rw [bundles_updateByMergePolicy]
    exact h.nodup admin
  · exact mem_of_mem_updateByMergePolicy hinfo
      ((hmem _).mpr (.inl (List.mem_map_of_mem hinfo)))
  · have hbundle := (hmem _).mpr (.inr (List.mem_map_of_mem hinfo))
    rw [hupdate] at hinfo
    exact mem_of_mem_updateByMergePolicy hinfo hbundle

theorem failed_getErrorMessage (res : ErrCode) : failed (getErrorMessage res) = failed res := by
  unfold getErrorMessage
  split
  · rename_i h
    rcases h with rfl | rfl | rfl | rfl <;> rfl
  · rfl

/-- The end of `OnHandlePolicy`. -/
def handled (C : CJson) (m : UserPolicyManager) (policyData : HandlePolicyData)
    (result : ErrCode × Finset String × List ManageKeepAliveAppInfo ×
      List ManageKeepAliveAppInfo) : ErrCode × Finset String × HandlePolicyData :=
  let (res, alive, currentData, mergeData) := result
  let res := getErrorMessage res
  if failed res then (res, alive, policyData)
  else
    let afterHandle := serialize C currentData ""
    let afterMerge := serialize C mergeData ""
    (ERR_OK, alive,
      { policyData := afterHandle
        mergePolicyData := afterMerge
        isChanged := policyData.policyData != afterHandle ||
          m.policyValue "" POLICY_MANAGE_KEEP_ALIVE_APPS != afterMerge })

theorem onHandlePolicy_eq (m : UserPolicyManager) (alive : Finset String) (request : Request)
    (policyData : HandlePolicyData) : onHandlePolicy C m alive request policyData =
      handled C m policyData
        (if request.isSet then
          onSetPolicy request.answers alive request.keepAliveApps request.disallowModify
            (updateByMergePolicy (deserialize C policyData.policyData).2
              (deserialize C (m.policyValue "" POLICY_MANAGE_KEEP_ALIVE_APPS)).2)
            (deserialize C policyData.mergePolicyData).2
        else
          onRemovePolicy request.answers alive request.keepAliveApps
            (updateByMergePolicy (deserialize C policyData.policyData).2
              (deserialize C (m.policyValue "" POLICY_MANAGE_KEEP_ALIVE_APPS)).2)
            (deserialize C policyData.mergePolicyData).2 request.isUninstall) := rfl

theorem exactReply_handled {m : UserPolicyManager} {policyData : HandlePolicyData}
    {before after : Enforced} {others : List ManageKeepAliveAppInfo}
    (result : ErrCode × Finset String × List ManageKeepAliveAppInfo ×
      List ManageKeepAliveAppInfo) :
    ExactReply C {x | x ∈ bundles others} before after (handled C m policyData result) ↔
      AtomicExact before after others result := by
  obtain ⟨res, alive, currentData, mergeData⟩ := result
  rw [handled]
  dsimp only
  rw [failed_getErrorMessage]
  cases hres : failed res with
  | true =>
    have hmessage : failed (getErrorMessage res) = true := (failed_getErrorMessage res).trans hres
    rw [if_pos rfl]
    refine and_congr ⟨fun h _ => h hmessage, fun h _ => h hres⟩ (iff_of_true ?_ ?_)
    · intro hok
      exact absurd (hmessage.symm.trans hok) nofun
    · intro hok
      exact absurd (hres.symm.trans hok) nofun
  | false =>
    rw [if_neg (by decide)]
    constructor
    · rintro ⟨-, hexact⟩
      refine ⟨fun hfailed => absurd (hres.symm.trans hfailed) nofun, fun _ => ?_⟩
      obtain ⟨current', merge', hcurrent', hmerge', hnodup, hmem, heq⟩ := hexact rfl
      obtain rfl := (Prod.mk.inj (hcurrent'.symm.trans (deserialize_new currentData))).2
      obtain rfl := (Prod.mk.inj (hmerge'.symm.trans (deserialize_new mergeData))).2
      exact ⟨hnodup, hmem, heq⟩
    · rintro ⟨-, hexact⟩
      obtain ⟨hnodup, hmem, heq⟩ := hexact hres
      exact ⟨nofun, fun _ => ⟨_, _, deserialize_new currentData, deserialize_new mergeData, hnodup,
        hmem, heq⟩⟩

/-- A request is handled exactly if and only if it is none of those that `Clean` excludes. -/
theorem onHandlePolicy_exact_iff (order : HashOrder) (admin : AdminName) (request : Request)
    (h : Settled C s enforced) :
    HandledExactly C order s enforced admin request ↔ Clean C s enforced admin request := by
  obtain ⟨others, hread, hothers, hagree⟩ := h.agree order admin
  have htotal := oneFlag_of_nodup hagree.nodup_total
  have hset : heldByOthers (claims C s) admin = {x | x ∈ bundles others} :=
    Set.ext fun x => (hothers x).symm
  have hclaims : ∀ x, x ∈ bundles (updateByMergePolicy (adminList C s admin) (combinedList C s)) ↔
      x ∈ claims C s admin := fun x => by
    rw [bundles_updateByMergePolicy]
    rfl
  have henforced : ∀ x flag, enforced x = some flag ↔ ⟨x, flag⟩ ∈ combinedList C s :=
    fun x flag => by rw [h.enforced_eq, recorded_iff htotal]
  have hmerge : (deserialize C (requestData C order s admin).mergePolicyData).2 = others :=
    congrArg Prod.snd hread
  cases hkind : request.isSet with
  | true =>
    have hcalls : enforcedByRequest C s.store.manager enforced request
        (requestData C order s admin) =
          enforcedBySet request.answers enforced request.keepAliveApps request.disallowModify
            (updateByMergePolicy (adminList C s admin) (combinedList C s)) others := by
      rw [enforcedByRequest, hmerge]
      exact if_pos hkind
    have hreply : onHandlePolicy C s.store.manager s.modules request
        (requestData C order s admin) = handled C s.store.manager (requestData C order s admin)
          (onSetPolicy request.answers s.modules request.keepAliveApps request.disallowModify
            (updateByMergePolicy (adminList C s admin) (combinedList C s)) others) := by
      rw [onHandlePolicy_eq, hmerge, if_pos hkind]
      rfl
    rw [HandledExactly, hset, hcalls, hreply, exactReply_handled, h.enforced_eq,
      atomicExact_set hagree, ← h.enforced_eq]
    constructor
    · intro hclean
      refine ⟨fun hnil x hx => (hothers x).mp (hclean.empty hnil x ((hclaims x).mpr hx)), ?_,
        fun hremove => absurd (hkind.symm.trans hremove) nofun⟩
      intro _ hshort hsmall hmanager disallowed hrule hconflict x hx hnot hless
      rw [henforced]
      exact hclean.conflict hshort hsmall hmanager disallowed hrule hconflict x hx hnot hless
    · intro hclean
      refine ⟨fun hnil x hx => (hothers x).mpr (hclean.empty hnil ((hclaims x).mp hx)), ?_⟩
      intro hshort hsmall hmanager disallowed hrule hconflict x hx hnot hless
      rw [← henforced]
      exact hclean.conflict hkind hshort hsmall hmanager disallowed hrule hconflict x hx hnot hless
  | false =>
    have hcalls : enforcedByRequest C s.store.manager enforced request
        (requestData C order s admin) =
          enforcedByRemove request.answers enforced request.keepAliveApps
            (updateByMergePolicy (adminList C s admin) (combinedList C s)) others
            request.isUninstall := by
      rw [enforcedByRequest, hmerge]
      exact if_neg (by simp [hkind])
    have hreply : onHandlePolicy C s.store.manager s.modules request
        (requestData C order s admin) = handled C s.store.manager (requestData C order s admin)
          (onRemovePolicy request.answers s.modules request.keepAliveApps
            (updateByMergePolicy (adminList C s admin) (combinedList C s)) others
            request.isUninstall) := by
      rw [onHandlePolicy_eq, hmerge, if_neg (by simp [hkind])]
      rfl
    rw [HandledExactly, hset, hcalls, hreply, exactReply_handled, h.enforced_eq,
      atomicExact_remove hagree, ← h.enforced_eq]
    constructor
    · intro hclean
      refine ⟨fun hnil x hx => (hothers x).mp (hclean.empty hnil x ((hclaims x).mpr hx)),
        fun hset => absurd (hkind.symm.trans hset) nofun, ?_⟩
      intro _ huninstall hshort x hx hclaim
      exact (hothers x).mp (hclean.uninstall hshort huninstall x hx ((hclaims x).mpr hclaim))
    · intro hclean
      refine ⟨fun hnil x hx => (hothers x).mpr (hclean.empty hnil ((hclaims x).mp hx)), ?_⟩
      intro hshort huninstall x hx hclaim
      exact (hothers x).mpr (hclean.uninstall hkind huninstall hshort x hx ((hclaims x).mp hclaim))

/-- One admin that keeps one application alive. -/
theorem settled_oneAdmin (C : CJson) (admin : AdminName) (info : ManageKeepAliveAppInfo) :
    Settled C (oneAdmin C admin [info]) (recorded [info]) where
  readable := readable_oneAdmin C admin [info] (List.cons_ne_nil _ _)
  merged := merged_oneAdmin C admin [info] (List.nodup_singleton _)
  nodup other := by
    rw [adminList_oneAdmin]
    split
    · exact List.nodup_singleton _
    · exact List.nodup_nil
  enforced_eq := by rw [combinedList_oneAdmin]

/-- A SET of applications, of which the ability manager accepts all. -/
def setRequest (keepAliveApps disallowedRunningBundles : List String) : Request where
  isSet := true
  keepAliveApps
  disallowModify := true
  isUninstall := false
  answers := ⟨true, some disallowedRunningBundles, fun _ => ERR_OK⟩

/-- Another application is kept alive. -/
theorem onHandlePolicy_exact_one :
    HandledExactly .standard .byKey (oneAdmin .standard someAdmin [⟨"com.a", true⟩])
      (recorded [⟨"com.a", true⟩]) someAdmin (setRequest ["com.b"] []) := by
  refine (onHandlePolicy_exact_iff .byKey someAdmin (setRequest ["com.b"] [])
    (settled_oneAdmin .standard someAdmin ⟨"com.a", true⟩)).mpr ⟨?_, ?_, ?_⟩
  · exact fun h => absurd h (List.cons_ne_nil _ _)
  · rintro - - - - disallowed hrule ⟨y, -, hy⟩
    cases hrule
    exact absurd hy List.not_mem_nil
  · exact fun h => absurd h nofun

/-- The second application may not run, and the first one stays alive. -/
theorem onHandlePolicy_conflict :
    ¬ ∀ (C : CJson) (order : HashOrder) (s : PluginState (Finset String)) (enforced : Enforced)
      (admin : AdminName) (request : Request), Settled C s enforced →
        HandledExactly C order s enforced admin request := by
  intro h
  have hexact := h .standard .byKey _ _ someAdmin (setRequest ["com.b", "com.c"] ["com.c"])
    (settled_oneAdmin .standard someAdmin ⟨"com.a", true⟩)
  have hfailed : failed (onHandlePolicy .standard
      (oneAdmin .standard someAdmin [⟨"com.a", true⟩]).store.manager
      (oneAdmin .standard someAdmin [⟨"com.a", true⟩]).modules
      (setRequest ["com.b", "com.c"] ["com.c"])
      (requestData .standard .byKey (oneAdmin .standard someAdmin [⟨"com.a", true⟩])
        someAdmin)).1 = true := by decide +kernel
  have hsame := congrFun (hexact.1 hfailed) "com.b"
  revert hsame
  decide +kernel

end Request

end ManageKeepAliveAppsPlugin

end Edm
