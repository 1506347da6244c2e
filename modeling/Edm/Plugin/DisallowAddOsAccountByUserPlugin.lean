import Edm.Plugin.MapStringPolicy

/-! `DisallowAddOsAccountByUserPlugin`: accounts whose users admins keep from adding accounts.  A key
of a map is the text of an account's number.  The account manager keeps a constraint for each
account. -/

set_option autoImplicit false

namespace Edm

open Library

def POLICY_DISALLOW_ADD_OS_ACCOUNT_BY_USER : String := "disallow_add_os_account_by_user"

namespace DisallowAddOsAccountByUserPlugin

open MapStringSerializer MapStringPolicy

/-- Whether the constraints on creating accounts are set for an account. -/
abbrev Constraints := Int32 → Bool

/-- Whether the account is there, and whether the account manager takes the constraints. -/
structure Answers where
  isOsAccountExists : Int32 → Bool
  setSpecificOsAccountConstraints : Bool

def setSpecificOsAccountConstraints (answer : Bool) (constraints : Constraints) (userId : Int32)
    (disallow : Bool) : ErrCode × Constraints :=
  if answer then (ERR_OK, Function.update constraints userId disallow)
  else (EdmReturnErrCode.SYSTEM_ABNORMALLY, constraints)

/-- `strToInt` is the library function that `EdmUtils::ParseStringToInt` calls. -/
def parseStringToInt (strToInt : String → Option Int32) (str : String) : Except ErrCode Int32 :=
  match strToInt str with
  | some result => .ok result
  | none => .error EdmReturnErrCode.SYSTEM_ABNORMALLY

/-- Only the first key of a request is looked at. -/
def onSetPolicy (strToInt : String → Option Int32) (answers : Answers) (constraints : Constraints)
    (data currentData mergeData : MapString) : ErrCode × Constraints × MapString × MapString :=
  match data with
  | [] => (ERR_OK, constraints, currentData, mergeData)
  | item :: _ =>
    match parseStringToInt strToInt item.1 with
    | .error _ => (EdmReturnErrCode.SYSTEM_ABNORMALLY, constraints, currentData, mergeData)
    | .ok accountId =>
      if !answers.isOsAccountExists accountId then
        (EdmReturnErrCode.PARAM_ERROR, constraints, currentData, mergeData)
      else
        let (ret, constraints) :=
          if !hasKey Prod.fst item.1 mergeData then
            setSpecificOsAccountConstraints answers.setSpecificOsAccountConstraints constraints
              accountId (item.2 == "true")
          else (ERR_OK, constraints)
        if failed ret then (ret, constraints, currentData, mergeData)
        else
          let currentData := setEntry item currentData
          (ERR_OK, constraints, currentData, addMissing currentData mergeData)

variable (C : CJson) (order : HashOrder) (strToInt : String → Option Int32)

/-- `InitPlugin` registers no listener for the removal of an admin. -/
def plugin : Plugin Constraints (Request Answers) Unit Empty :=
  MapStringPolicy.plugin C order POLICY_DISALLOW_ADD_OS_ACCOUNT_BY_USER (onSetPolicy strToInt)
    fun constraints _ _ _ => (ERR_OK, constraints)

abbrev Op := PolicyOp (Request Answers) Unit

/-- A user without policies, and accounts without constraints. -/
abbrev boot (userId : Int) : PluginState Constraints := PluginState.boot (fun _ => false) userId

section Run

variable (s : PluginState Constraints)

/-- The keys that an admin stores. -/
abbrev listed : AdminName → Set String :=
  MapStringPolicy.listed C POLICY_DISALLOW_ADD_OS_ACCOUNT_BY_USER s.store

/-- The combined map has the keys that some admin stores, and the accounts that these name are the
constrained ones. -/
structure FollowsUnion : Prop where
  combined : combinedKeys C POLICY_DISALLOW_ADD_OS_ACCOUNT_BY_USER s.store = held (listed C s)
  enforced : ∀ accountId, s.modules accountId = true ↔
    ∃ k, k ∈ held (listed C s) ∧ strToInt k = some accountId

/-- The map that an admin stores. -/
def currentMap (admin : AdminName) : MapString :=
  (deserialize C (s.store.manager.policyValue admin POLICY_DISALLOW_ADD_OS_ACCOUNT_BY_USER)).getD []

/-- The account manager takes no constraint, and others do not store the key. -/
def Refused (admin : AdminName) (answers : Answers) (item : String × String) : Prop :=
  answers.setSpecificOsAccountConstraints = false ∧ item.1 ∉ heldByOthers (listed C s) admin

/-- A key that is taken off is stored by all others, or by none, and then no other key that is stored
names its account. -/
def Dropped (admin : AdminName) (item : String × String) (accountId : Int32) : Prop :=
  (item.1 ∈ heldByOthers (listed C s) admin →
      Everywhere C POLICY_DISALLOW_ADD_OS_ACCOUNT_BY_USER s.store admin item.1) ∧
    (item.1 ∉ heldByOthers (listed C s) admin →
      ∀ k, k ∈ held (listed C s) → k ≠ item.1 → strToInt k ≠ some accountId)

/-- The writes of an operation take effect, and it keeps the union.  When an admin is removed, the
others all store the same keys, and these name the accounts that the admin's keys name. -/
def Keeps : Op → Prop
  | .update admin writes request =>
    writes = ⟨.done, .done⟩ ∧
      (getPolicy request.parcel = some [] →
        Covered C POLICY_DISALLOW_ADD_OS_ACCOUNT_BY_USER s.store admin (currentMap C s admin)) ∧
      ∀ item rest accountId, getPolicy request.parcel = some (item :: rest) →
        strToInt item.1 = some accountId → request.answers.isOsAccountExists accountId = true →
        ¬ Refused C s admin request.answers item →
          Covered C POLICY_DISALLOW_ADD_OS_ACCOUNT_BY_USER s.store admin
              (setEntry item (currentMap C s admin)) ∧
            (item.2 ≠ "true" → Dropped C strToInt s admin item accountId)
  | .removeAdmin admin writes _ =>
    writes = ⟨.done, .done⟩ ∧
      (s.store.manager.policyValue admin POLICY_DISALLOW_ADD_OS_ACCOUNT_BY_USER = "" ∨
        (∀ k, k ∈ heldByOthers (listed C s) admin →
          Everywhere C POLICY_DISALLOW_ADD_OS_ACCOUNT_BY_USER s.store admin k) ∧
        ∀ k accountId, k ∈ listed C s admin → strToInt k = some accountId →
          ∃ other, other ∈ heldByOthers (listed C s) admin ∧ strToInt other = some accountId)

end Run

/-! ### The handler -/

/-- A set fails without a constraint, or does nothing for an empty map, or else the account has the
wanted constraint unless others store the key. -/
theorem onSetPolicy_cases (strToInt : String → Option Int32) (answers : Answers)
    (constraints : Constraints) (data currentData mergeData : MapString) :
    (failed (onSetPolicy strToInt answers constraints data currentData mergeData).1 = true ∧
        (onSetPolicy strToInt answers constraints data currentData mergeData).2.1 = constraints) ∨
      (data = [] ∧ onSetPolicy strToInt answers constraints data currentData mergeData =
        (ERR_OK, constraints, currentData, mergeData)) ∨
      ∃ item rest accountId constraints', data = item :: rest ∧ strToInt item.1 = some accountId ∧
        answers.isOsAccountExists accountId = true ∧
        onSetPolicy strToInt answers constraints data currentData mergeData =
          (ERR_OK, constraints', setEntry item currentData,
            addMissing (setEntry item currentData) mergeData) ∧
        (item.1 ∉ mergeData.map Prod.fst ∧ answers.setSpecificOsAccountConstraints = true ∧
            constraints' = Function.update constraints accountId (item.2 == "true") ∨
          item.1 ∈ mergeData.map Prod.fst ∧ constraints' = constraints) := by
  unfold onSetPolicy
  cases data with
  | nil => exact .inr (.inl ⟨rfl, rfl⟩)
  | cons item rest =>
    dsimp only [parseStringToInt]
    cases hparse : strToInt item.1 with
    | none => exact .inl ⟨rfl, rfl⟩
    | some accountId =>
      dsimp only
      cases hexists : answers.isOsAccountExists accountId with
      | false => exact .inl ⟨rfl, rfl⟩
      | true =>
        rw [if_neg (show ¬ (!true) = true from Bool.false_ne_true)]
        by_cases hmerge : hasKey Prod.fst item.1 mergeData = true
        · rw [hmerge]
          exact .inr (.inr ⟨item, rest, accountId, _, rfl, hparse, hexists, rfl,
            .inr ⟨hasKey_iff.mp hmerge, rfl⟩⟩)
        · rw [Bool.eq_false_iff.mpr hmerge]
          rw [if_pos (show (!false) = true from rfl), setSpecificOsAccountConstraints]
          cases hanswer : answers.setSpecificOsAccountConstraints with
          | false => exact .inl ⟨rfl, rfl⟩
          | true =>
            exact .inr (.inr ⟨item, rest, accountId, _, rfl, hparse, hexists, rfl,
              .inl ⟨fun hmem => hmerge (hasKey_iff.mpr hmem), rfl, rfl⟩⟩)

/-! ### One operation -/

/-- An operation succeeds. -/
def Succeeds (s : PluginState Constraints) : Op → Prop
  | .update admin _ request => SetSucceeds (plugin C order strToInt) s admin request
  | .removeAdmin _ _ _ => True

/-- The keys that the admin of an operation stores after it. -/
def listedAfter (s : PluginState Constraints) : Op → Set String
  | .update admin _ request =>
    match getPolicy request.parcel with
    | some (item :: _) => {k | k ∈ (setEntry item (currentMap C s admin)).map Prod.fst}
    | _ => listed C s admin
  | .removeAdmin _ _ _ => ∅

section Step

variable {C : CJson} {order : HashOrder} {strToInt : String → Option Int32}
  {s s' : PluginState Constraints} {admin : AdminName}

theorem FollowsUnion.congr (h : FollowsUnion C strToInt s) (hmodules : s'.modules = s.modules)
    (hstore : s'.store = s.store) : FollowsUnion C strToInt s' := by
  obtain ⟨store, modules, subscribed⟩ := s
  obtain ⟨store', modules', subscribed'⟩ := s'
  obtain rfl : store' = store := hstore
  obtain rfl : modules' = modules := hmodules
  exact ⟨h.combined, h.enforced⟩

theorem policyName_ne : POLICY_DISALLOW_ADD_OS_ACCOUNT_BY_USER ≠ "" := by decide

/-- The accounts that are named after a set whose key others do not store, or all others do. -/
theorem enforced_set {before others current : Set String} {item : String × String}
    {accountId : Int32} {constraints : Constraints} {after : Set String}
    (hbefore : ∀ k, k ∈ before ↔ k ∈ others ∨ k ∈ current)
    (henforced : ∀ account, constraints account = true ↔
      ∃ k, k ∈ before ∧ strToInt k = some account)
    (hparse : strToInt item.1 = some accountId)
    (hdropped : item.2 ≠ "true" → item.1 ∉ others ∧
      ∀ k, k ∈ before → k ≠ item.1 → strToInt k ≠ some accountId)
    (hafter : ∀ k, k ∈ after ↔ k ∈ others ∨
      if item.2 == "true" then k = item.1 ∨ k ∈ current else k ∈ current ∧ k ≠ item.1)
    (account : Int32) :
    Function.update constraints accountId (item.2 == "true") account = true ↔
      ∃ k, k ∈ after ∧ strToInt k = some account := by
  by_cases htrue : (item.2 == "true") = true
  · have hmem : ∀ k, k ∈ after ↔ k = item.1 ∨ k ∈ before := by
      intro k
      rw [hafter, if_pos htrue, hbefore]
      exact or_left_comm
    by_cases haccount : account = accountId
    · subst haccount
      rw [Function.update_self]
      exact iff_of_true htrue ⟨item.1, (hmem _).mpr (.inl rfl), hparse⟩
    · rw [Function.update_of_ne haccount, henforced]
      refine exists_congr fun k => and_congr_left fun hk => ?_
      rw [hmem]
      refine (or_iff_right fun heq => haccount ?_).symm
      rw [heq, hparse] at hk
      exact (Option.some.inj hk).symm
  · obtain ⟨hnone, hdropped⟩ := hdropped fun heq => htrue (beq_iff_eq.mpr heq)
    have hmem : ∀ k, k ∈ after ↔ k ∈ before ∧ k ≠ item.1 := by
      intro k
      rw [hafter, if_neg htrue, hbefore]
      constructor
      · rintro (hk | ⟨hk, hne⟩)
        · exact ⟨.inl hk, fun heq => hnone (heq ▸ hk)⟩
        · exact ⟨.inr hk, hne⟩
      · rintro ⟨hk | hk, hne⟩
        · exact .inl hk
        · exact .inr ⟨hk, hne⟩
    by_cases haccount : account = accountId
    · subst haccount
      rw [Function.update_self]
      refine iff_of_false htrue ?_
      rintro ⟨k, hk, hparsed⟩
      obtain ⟨hk, hne⟩ := (hmem k).mp hk
      exact hdropped k hk hne hparsed
    · rw [Function.update_of_ne haccount, henforced]
      refine exists_congr fun k => and_congr_left fun hk => ?_
      rw [hmem]
      refine (and_iff_left fun heq => haccount ?_).symm
      rw [heq, hparse] at hk
      exact (Option.some.inj hk).symm

theorem step_update (h : Readable C POLICY_DISALLOW_ADD_OS_ACCOUNT_BY_USER s.store)
    (hunion : FollowsUnion C strToInt s) (request : Request Answers)
    (hkeeps : Keeps C strToInt s (.update admin ⟨.done, .done⟩ request))
    (hs' : policyStep (plugin C order strToInt) s (.update admin ⟨.done, .done⟩ request) = s') :
    Readable C POLICY_DISALLOW_ADD_OS_ACCOUNT_BY_USER s'.store ∧ FollowsUnion C strToInt s' ∧
      (Succeeds C order strToInt s (.update admin ⟨.done, .done⟩ request) →
        listed C s' = Function.update (listed C s) admin
          (listedAfter C s (.update admin ⟨.done, .done⟩ request))) := by
  obtain ⟨current, others, hmaps, houtcome⟩ := set_cases policyName_ne h request hs'
  have hown : ∀ k, k ∈ listed C s admin ↔ k ∈ current.map Prod.fst := Set.ext_iff.mp hmaps.listed
  have hbefore : ∀ k, k ∈ held (listed C s) ↔
      k ∈ heldByOthers (listed C s) admin ∨ k ∈ listed C s admin := by
    intro k
    rw [held_eq _ admin]
    exact Iff.rfl
  have hcurrent : currentMap C s admin = current := by
    rw [currentMap, (deserialize_text hmaps.ascend hmaps.own).1]
    rfl
  rcases houtcome with ⟨hfails, hstore, hmodules⟩ | ⟨data, after, merged, hparcel, hset, hstored⟩
  · have hmodules : s'.modules = s.modules := by
      rcases hmodules with hsame | ⟨data, hret, hmodules⟩
      · exact hsame
      · rcases onSetPolicy_cases strToInt request.answers s.modules data current others with
          ⟨-, hsame⟩ | ⟨-, hset⟩ | ⟨item, rest, accountId, constraints, -, -, -, hset, -⟩
        · exact hmodules.trans hsame
        · rw [hset] at hret
          cases hret
        · rw [hset] at hret
          cases hret
    exact ⟨hstore ▸ h, hunion.congr hmodules hstore, fun hok => absurd hok hfails⟩
  rcases onSetPolicy_cases strToInt request.answers s.modules data current others with
    ⟨hret, -⟩ | ⟨rfl, hhandled⟩ |
    ⟨item, rest, accountId, constraints, rfl, hparse, hexists, hhandled, hcalled⟩
  · rw [hset] at hret
    cases hret
  · -- Nothing is set: an admin without a map gets an empty one.
    have heq := hset.symm.trans hhandled
    simp only [Prod.mk.injEq, true_and] at heq
    obtain ⟨hmodules, hafter, hothers⟩ := heq
    obtain rfl := hafter.symm
    obtain rfl := hothers.symm
    have hmerged : serialize C current ≠
        s.store.manager.policyValue admin POLICY_DISALLOW_ADD_OS_ACCOUNT_BY_USER →
          KeysAscend Prod.fst others ∧ ∀ k, k ∈ others.map Prod.fst ↔
            k ∈ others.map Prod.fst ∨ k ∈ current.map Prod.fst := by
      intro hchanged
      rcases hmaps.own with ⟨-, rfl⟩ | hsame
      · exact ⟨hmaps.others.ascend, fun k => (or_iff_left List.not_mem_nil).symm⟩
      · exact absurd hsame.symm hchanged
    obtain ⟨hreadable, hlisted, hcombined⟩ := hstored.keys h hmaps hmaps.ascend hmerged
      (hcurrent ▸ hkeeps.2.1 hparcel) hunion.combined
    have hsame : listed C s' = listed C s := by
      refine hlisted.trans ?_
      rw [← hmaps.listed, Function.update_eq_self]
    refine ⟨hreadable, ⟨hcombined, fun account => ?_⟩, fun _ => ?_⟩
    · rw [hmodules, hsame]
      exact hunion.enforced account
    · rw [hsame, listedAfter, hparcel]
      exact (Function.update_eq_self admin _).symm
  · have heq := hset.symm.trans hhandled
    simp only [Prod.mk.injEq, true_and] at heq
    obtain ⟨hmodules, rfl, rfl⟩ := heq
    obtain ⟨hcovered, hdropped⟩ := hkeeps.2.2 item rest accountId hparcel hparse hexists <| by
      rintro ⟨hanswer, hnone⟩
      rcases hcalled with ⟨-, htaken, -⟩ | ⟨hmem, -⟩
      · rw [hanswer] at htaken
        cases htaken
      · exact hnone (hmaps.others.held _ hmem)
    rw [hcurrent] at hcovered
    obtain ⟨hreadable, hlisted, hcombined⟩ := hstored.keys h hmaps (keysAscend_setEntry hmaps.ascend)
      (fun _ => addMissing_spec hmaps.others.ascend) hcovered hunion.combined
    have hheld : ∀ k, k ∈ held (listed C s') ↔ k ∈ heldByOthers (listed C s) admin ∨
        if item.2 == "true" then k = item.1 ∨ k ∈ listed C s admin
        else k ∈ listed C s admin ∧ k ≠ item.1 := by
      intro k
      rw [listed, hlisted, held_update, hown, ← mem_keys_setEntry]
      exact Iff.rfl
    refine ⟨hreadable, ⟨hcombined, fun account => ?_⟩, fun _ => ?_⟩
    · rw [hmodules]
      rcases hcalled with ⟨hnone, -, rfl⟩ | ⟨hmem, rfl⟩
      · refine enforced_set hbefore hunion.enforced hparse (fun hne => ?_) hheld account
        have hfree : item.1 ∉ heldByOthers (listed C s) admin := fun hk =>
          hnone (hmaps.others.everywhere _ hk ((hdropped hne).1 hk))
        exact ⟨hfree, (hdropped hne).2 hfree⟩
      · have hothers := hmaps.others.held _ hmem
        rw [hunion.enforced]
        refine exists_congr fun k => and_congr_left fun _ => ?_
        rw [hbefore, hheld]
        by_cases hk : k = item.1
        · rw [hk]
          exact iff_of_true (.inl hothers) (.inl hothers)
        · refine or_congr_right ?_
          split
          · exact (or_iff_right hk).symm
          · exact (and_iff_left hk).symm
    · rw [listed, hlisted, listedAfter, hparcel, hcurrent]

theorem step_removeAdmin (h : Readable C POLICY_DISALLOW_ADD_OS_ACCOUNT_BY_USER s.store)
    (hunion : FollowsUnion C strToInt s) (reply : Unit)
    (hkeeps : Keeps C strToInt s (.removeAdmin admin ⟨.done, .done⟩ reply))
    (hs' : policyStep (plugin C order strToInt) s (.removeAdmin admin ⟨.done, .done⟩ reply) = s') :
    Readable C POLICY_DISALLOW_ADD_OS_ACCOUNT_BY_USER s'.store ∧ FollowsUnion C strToInt s' ∧
      listed C s' = Function.update (listed C s) admin ∅ := by
  rcases removeAdmin_cases policyName_ne h reply hs' with ⟨hempty, rfl⟩ |
    ⟨current, others, otherText, hmaps, hvalue, -, hmodules, hreadable, hlisted, hcombined⟩
  · have hnone : listed C s' admin = ∅ := by
      rw [listed, MapStringPolicy.listed, itemsHeld, hempty, keysOf_empty]
    refine ⟨h, hunion, ?_⟩
    rw [← hnone, Function.update_eq_self]
  rcases hkeeps.2 with hempty | ⟨hall, hnamed⟩
  · exact absurd (hvalue.symm.trans hempty) (serialize_ne_empty current)
  have hheld : ∀ k, k ∈ held (listed C s') ↔ k ∈ heldByOthers (listed C s) admin := by
    intro k
    rw [listed, hlisted, held_update, Set.union_empty]
  refine ⟨hreadable, ⟨?_, fun account => ?_⟩, hlisted⟩
  · rw [hcombined]
    refine Set.ext fun k => Iff.trans ?_ (hheld k).symm
    exact ⟨hmaps.others.held k, fun hk => hmaps.others.everywhere k hk (hall k hk)⟩
  · rw [hmodules]
    refine (hunion.enforced account).trans ?_
    rw [held_eq _ admin]
    constructor
    · rintro ⟨k, hk | hk, hparse⟩
      · exact ⟨k, (hheld k).mpr hk, hparse⟩
      · obtain ⟨other, hother, hparse⟩ := hnamed k account hk hparse
        exact ⟨other, (hheld other).mpr hother, hparse⟩
    · rintro ⟨k, hk, hparse⟩
      exact ⟨k, .inl ((hheld k).mp hk), hparse⟩

/-- What an operation that keeps the union does. -/
theorem step_keeps (order : HashOrder) (h : Readable C POLICY_DISALLOW_ADD_OS_ACCOUNT_BY_USER s.store)
    (hunion : FollowsUnion C strToInt s) (op : Op) (hkeeps : Keeps C strToInt s op) :
    Readable C POLICY_DISALLOW_ADD_OS_ACCOUNT_BY_USER
        (policyStep (plugin C order strToInt) s op).store ∧
      FollowsUnion C strToInt (policyStep (plugin C order strToInt) s op) ∧
      (Succeeds C order strToInt s op → listed C (policyStep (plugin C order strToInt) s op) =
        Function.update (listed C s) op.admin (listedAfter C s op)) := by
  cases op with
  | update admin writes request =>
    obtain ⟨rfl, hset⟩ := hkeeps
    exact step_update h hunion request ⟨rfl, hset⟩ rfl
  | removeAdmin admin writes reply =>
    obtain ⟨rfl, hremove⟩ := hkeeps
    obtain ⟨hreadable, hfollows, hlisted⟩ := step_removeAdmin h hunion reply ⟨rfl, hremove⟩ rfl
    exact ⟨hreadable, hfollows, fun _ => hlisted⟩

theorem followsUnion_boot (userId : Int) :
    Readable C POLICY_DISALLOW_ADD_OS_ACCOUNT_BY_USER (boot userId).store ∧
      FollowsUnion C strToInt (boot userId) := by
  have hnone : held (listed C (boot userId)) = ∅ := held_new keysOf_empty userId
  refine ⟨textStore_new isText_empty userId, ?_, fun account => ?_⟩
  · rw [hnone, combinedKeys]
    exact (congrArg (keysOf C) (policyValue_new userId _ _)).trans keysOf_empty
  · rw [hnone]
    refine iff_of_false Bool.false_ne_true ?_
    rintro ⟨k, hk, -⟩
    exact Set.notMem_empty k hk

end Step

/-! ### Runs -/

/-- The result of an operation that succeeds does not depend on the order in which the others' maps
are visited. -/
def OrderFree (s : PluginState Constraints) (op : Op) : Prop :=
  ∀ order', Succeeds C order strToInt s op → Succeeds C order' strToInt s op →
    SameResult C POLICY_DISALLOW_ADD_OS_ACCOUNT_BY_USER
      (policyStep (plugin C order strToInt) s op) (policyStep (plugin C order' strToInt) s op)

theorem orderFree_of_keeps {s : PluginState Constraints}
    (h : Readable C POLICY_DISALLOW_ADD_OS_ACCOUNT_BY_USER s.store)
    (hunion : FollowsUnion C strToInt s) {op : Op} (hkeeps : Keeps C strToInt s op) :
    OrderFree C order strToInt s op := by
  intro order' hok hok'
  obtain ⟨-, hfollows, hlisted⟩ := step_keeps order h hunion op hkeeps
  obtain ⟨-, hfollows', hlisted'⟩ := step_keeps order' h hunion op hkeeps
  have hsame := (hlisted hok).trans (hlisted' hok').symm
  refine ⟨funext fun k => Bool.eq_iff_iff.mpr ?_, hsame, ?_⟩
  · rw [hfollows.enforced, hfollows'.enforced, hsame]
  · rw [hfollows.combined, hfollows'.combined, hsame]

/-- In a run whose operations all keep the union, the combined map and the constraints follow the
admins' maps throughout, in whichever order maps are visited. -/
theorem always_followsUnion (userId : Int) (ops : List Op)
    (h : Each (policyStep (plugin C order strToInt)) (Keeps C strToInt) (boot userId) ops) :
    Always (policyStep (plugin C order strToInt)) (FollowsUnion C strToInt) (boot userId) ops ∧
      Each (policyStep (plugin C order strToInt)) (OrderFree C order strToInt) (boot userId) ops := by
  have hstep : ∀ s op, Readable C POLICY_DISALLOW_ADD_OS_ACCOUNT_BY_USER s.store ∧
      FollowsUnion C strToInt s → Keeps C strToInt s op →
        Readable C POLICY_DISALLOW_ADD_OS_ACCOUNT_BY_USER
          (policyStep (plugin C order strToInt) s op).store ∧
        FollowsUnion C strToInt (policyStep (plugin C order strToInt) s op) :=
    fun s op hs hkeeps =>
      ⟨(step_keeps order hs.1 hs.2 op hkeeps).1, (step_keeps order hs.1 hs.2 op hkeeps).2.1⟩
  refine ⟨?_, ?_⟩
  · have hrun : Always (policyStep (plugin C order strToInt)) (fun s =>
        Readable C POLICY_DISALLOW_ADD_OS_ACCOUNT_BY_USER s.store ∧ FollowsUnion C strToInt s)
        (boot userId) ops := always_of_each hstep (followsUnion_boot userId) h
    exact hrun.mono fun _ hs => hs.2
  · exact each_of_each hstep
      (fun s op hs hkeeps => orderFree_of_keeps C order strToInt hs.1 hs.2 hkeeps)
      (followsUnion_boot userId) h

end DisallowAddOsAccountByUserPlugin

end Edm
