import Edm.Plugin.ClipboardPolicySerializer
import Edm.Plugin.EventPlugin

/-! `ClipboardPolicyPlugin`: how far an application may share what it copies. -/

set_option autoImplicit false

namespace Edm

open Library

inductive ShareOption where
  | inApp
  | localDevice
  | crossDevice
  deriving DecidableEq, Repr

/-- The share options that the pasteboard service has, by token.  A token without one is not
restricted. -/
abbrev ShareOptions := Int32 → Option ShareOption

/-- The answers of the pasteboard service. -/
structure PasteboardClient where
  setGlobalShareOption : ErrCode
  removeGlobalShareOption : ErrCode

def PasteboardClient.accepting : PasteboardClient := ⟨ERR_OK, ERR_OK⟩

/-- `GetTokenId`, which is 0 for an application that is not installed. -/
abbrev TokenIds := String → Int32 → Int32

namespace ClipboardPolicyPlugin

def POLICY_CLIPBOARD_POLICY : String := "clipboard_policy"

def MAX_PASTEBOARD_POLICY_NUM : Nat := 10000

def shareOption : ClipboardPolicy → Option ShareOption
  | .default => none
  | .inApp => some .inApp
  | .localDevice => some .localDevice
  | .crossDevice => some .crossDevice
  | .unknown => none

/-! ### The pasteboard service -/

def setShareOptions (options : ShareOptions) (setMap : List (Int32 × ShareOption)) : ShareOptions :=
  setMap.foldl (fun options item => Function.update options item.1 (some item.2)) options

def removeShareOptions (options : ShareOptions) (removeVector : List Int32) : ShareOptions :=
  removeVector.foldl (fun options tokenId => Function.update options tokenId none) options

/-- Tokens are cast to `uint32_t`, which keeps them apart. -/
def handlePasteboardPolicy (client : Option PasteboardClient) (options : ShareOptions)
    (data : List (Int32 × ClipboardInfo)) : ErrCode × ShareOptions :=
  match client with
  | none => (EdmReturnErrCode.SYSTEM_ABNORMALLY, options)
  | some client =>
    let setMap := data.filterMap fun item =>
      (shareOption item.2.policy).map fun option => (item.1, option)
    let removeVector := (data.filter fun item => item.2.policy = .default).map Prod.fst
    let setRet := if setMap = [] then ERR_OK else client.setGlobalShareOption
    let rmRet := if removeVector = [] then ERR_OK else client.removeGlobalShareOption
    let options := if setRet = ERR_OK then setShareOptions options setMap else options
    let options := if rmRet = ERR_OK then removeShareOptions options removeVector else options
    if setRet ≠ ERR_OK ∨ rmRet ≠ ERR_OK then (EdmReturnErrCode.SYSTEM_ABNORMALLY, options)
    else (ERR_OK, options)

/-! ### Requests -/

/-- A request as the parcel has it. -/
inductive Parcel where
  | setHasTokenId (tokenId policy : Int32)
  | setHasBundleName (bundleName : String) (userId policy : Int32)
  | other (flag : Int32)

def getPolicy : Parcel → Int32 × ClipboardInfo
  | .setHasTokenId tokenId policy =>
    (tokenId, { policy := ClipboardSerializer.convertToClipboardPolicy policy.toInt })
  | .setHasBundleName bundleName userId policy =>
    (0, { policy := ClipboardSerializer.convertToClipboardPolicy policy.toInt, userId, bundleName })
  | .other _ => (0, {})

/-- The entry of the last token with the bundle and the user. -/
def tokenOfBundle (entries : List (Int32 × ClipboardInfo)) (info : ClipboardInfo) : Int32 :=
  entries.foldl (fun tokenId pair =>
    if pair.2.userId = info.userId ∧ pair.2.bundleName = info.bundleName then pair.1
    else tokenId) 0

/-- `data` is not empty. -/
def deleteHandle (tokenIds : TokenIds) (data afterHandle : ClipboardMap) :
    ClipboardMap × ClipboardMap :=
  match data.entries with
  | [] => (data, afterHandle)
  | (token, info) :: _ =>
    if token = 0 then
      let held := tokenOfBundle afterHandle.entries info
      let tokenId := if held = 0 then tokenIds info.bundleName info.userId else held
      ((data.erase token).insert (tokenId, info), afterHandle.erase tokenId)
    else (data, afterHandle.erase token)

/-- `data` is not empty. -/
def updateHandle (tokenIds : TokenIds) (data afterHandle : ClipboardMap) :
    Option (ClipboardMap × ClipboardMap) :=
  match data.entries with
  | [] => none
  | (token, info) :: _ =>
    if token = 0 then
      if info.bundleName = "" ∨ info.userId = -1 then none
      else
        let tokenId := tokenIds info.bundleName info.userId
        if tokenId = 0 then none
        else
          let data := (data.erase token).insert (tokenId, info)
          match data.entries with
          | [] => none
          | (first, _) :: _ => some (data, afterHandle.assign (first, info))
    else
      match afterHandle.find token with
      | some held =>
        some (data, afterHandle.assign
          (token, { policy := info.policy, userId := held.userId, bundleName := held.bundleName }))
      | none => some (data, afterHandle.assign (token, info))

/-- The merged entry takes the place of the request, where the others have one. -/
def restricted (data mergeData afterMerge : ClipboardMap) : ClipboardMap :=
  match data.entries with
  | [] => data
  | (token, _) :: _ =>
    match mergeData.find token with
    | some _ => data.assign (token, (afterMerge.find token).getD {})
    | none => data

def onSetPolicy (tokenIds : TokenIds) (client : Option PasteboardClient) (options : ShareOptions)
    (data currentData mergeData : ClipboardMap) :
    ErrCode × ShareOptions × ClipboardMap × ClipboardMap :=
  match data.entries with
  | [] => (EdmReturnErrCode.PARAM_ERROR, options, currentData, mergeData)
  | (_, info) :: _ =>
    if info.policy = .unknown then (EdmReturnErrCode.PARAM_ERROR, options, currentData, mergeData)
    else
      let handled :=
        if info.policy = .default then some (deleteHandle tokenIds data currentData)
        else updateHandle tokenIds data currentData
      match handled with
      | none => (EdmReturnErrCode.PARAM_ERROR, options, currentData, mergeData)
      | some (data, afterHandle) =>
        let afterMerge := mergeData.mergeAll afterHandle.entries
        if afterMerge.entries.length > MAX_PASTEBOARD_POLICY_NUM then
          (EdmReturnErrCode.PARAM_ERROR, options, currentData, mergeData)
        else
          let (ret, options) :=
            handlePasteboardPolicy client options (restricted data mergeData afterMerge).entries
          if failed ret then (EdmReturnErrCode.SYSTEM_ABNORMALLY, options, currentData, mergeData)
          else (ERR_OK, options, afterHandle, afterMerge)

def onAdminRemove (client : Option PasteboardClient) (options : ShareOptions)
    (data mergeData : ClipboardMap) : ErrCode × ShareOptions :=
  handlePasteboardPolicy client options
    (data.entries.map fun item => (item.1, (mergeData.find item.1).getD {}))

/-- The removal of an application, as its event tells it. -/
structure BundleRemoved where
  bundleName : String
  userId : Int32
  tokenIds : TokenIds

def BundleRemoved.info (event : BundleRemoved) : ClipboardInfo :=
  { policy := .default, userId := event.userId, bundleName := event.bundleName }

/-- The codes of the serializer and of `OnSetPolicy` are ignored, and so are the strings that an
empty map leaves. -/
def onPluginEvent (C : ArrayCJson) (client : Option PasteboardClient) (options : ShareOptions)
    (policyData : HandlePolicyData) (event : BundleRemoved) : ShareOptions × HandlePolicyData :=
  let result := ClipboardMap.empty.insert (0, event.info)
  let adminData := (ClipboardSerializer.deserialize C policyData.policyData).2
  let mergeData := (ClipboardSerializer.deserialize C policyData.mergePolicyData).2
  let (_, options, adminData, mergeData) :=
    onSetPolicy event.tokenIds client options result adminData mergeData
  (options,
    { policyData with
      policyData := ClipboardSerializer.serialize C adminData policyData.policyData
      mergePolicyData := ClipboardSerializer.serialize C mergeData policyData.mergePolicyData })

/-- A request comes with the tokens of the installed applications. -/
structure Request where
  parcel : Parcel
  tokenIds : TokenIds

def plugin (C : ArrayCJson) (order : HashOrder) (client : Option PasteboardClient) :
    EventPlugin ShareOptions Request Unit BundleRemoved where
  policyName := POLICY_CLIPBOARD_POLICY
  needSave := true
  getOthersMergePolicyData := IPluginTemplate.getOthersMergePolicyData
    (ClipboardSerializer.serializer C) order POLICY_CLIPBOARD_POLICY
  onHandlePolicy _ options request :=
    IPluginTemplate.handlePolicy (ClipboardSerializer.serializer C)
      (onSetPolicy request.tokenIds client) options
      (some (ClipboardMap.empty.insert (getPolicy request.parcel)))
  onAdminRemove options _ :=
    IPluginTemplate.adminRemove (ClipboardSerializer.serializer C) (onAdminRemove client) options
  onPluginEvent handled _ := handled
  onEvent := onPluginEvent C client

/-! ### What a request does -/

/-- A policy that is a share option, or the default. -/
theorem shareOption_of_ne {policy : ClipboardPolicy} (h : policy ≠ .unknown) :
    shareOption policy = none ↔ policy = .default := by
  cases policy with
  | unknown => exact absurd rfl h
  | default => exact iff_of_true rfl rfl
  | inApp => exact iff_of_false nofun nofun
  | localDevice => exact iff_of_false nofun nofun
  | crossDevice => exact iff_of_false nofun nofun

theorem setShareOptions_of_notMem {options : ShareOptions} {setMap : List (Int32 × ShareOption)}
    {t : Int32} (h : t ∉ setMap.map Prod.fst) : setShareOptions options setMap t = options t := by
  unfold setShareOptions
  induction setMap generalizing options with
  | nil => rfl
  | cons item setMap ih =>
    rw [List.map_cons, List.mem_cons, not_or] at h
    rw [List.foldl_cons, ih h.2, Function.update_of_ne h.1]

theorem setShareOptions_of_mem {options : ShareOptions} {setMap : List (Int32 × ShareOption)}
    (hnodup : (setMap.map Prod.fst).Nodup) {item : Int32 × ShareOption} (h : item ∈ setMap) :
    setShareOptions options setMap item.1 = some item.2 := by
  induction setMap generalizing options with
  | nil => cases h
  | cons first setMap ih =>
    obtain ⟨hhead, htail⟩ := List.nodup_cons.mp hnodup
    have hstep : setShareOptions options (first :: setMap) =
      setShareOptions (Function.update options first.1 (some first.2)) setMap := rfl
    rw [hstep]
    rcases List.mem_cons.mp h with rfl | h
    · rw [setShareOptions_of_notMem hhead, Function.update_self]
    · exact ih htail h

theorem removeShareOptions_apply (options : ShareOptions) (removeVector : List Int32) (t : Int32) :
    removeShareOptions options removeVector t = if t ∈ removeVector then none else options t := by
  unfold removeShareOptions
  induction removeVector generalizing options with
  | nil => exact (if_neg List.not_mem_nil).symm
  | cons tokenId removeVector ih =>
    rw [List.foldl_cons, ih]
    by_cases ht : t = tokenId
    · subst ht
      rw [if_pos List.mem_cons_self, Function.update_self, ite_self]
    · rw [Function.update_of_ne ht]
      exact (if_congr (List.mem_cons.trans (or_iff_right ht)) rfl rfl).symm

/-- The share options after the service has taken a list of policies. -/
theorem handlePasteboardPolicy_accepting (options : ShareOptions)
    {data : List (Int32 × ClipboardInfo)} (hnodup : (data.map Prod.fst).Nodup)
    (hdata : ∀ item, item ∈ data → item.2.policy ≠ .unknown) :
    (handlePasteboardPolicy (some .accepting) options data).1 = ERR_OK ∧
      (∀ item, item ∈ data → (handlePasteboardPolicy (some .accepting) options data).2 item.1 =
        shareOption item.2.policy) ∧
      ∀ t, t ∉ data.map Prod.fst →
        (handlePasteboardPolicy (some .accepting) options data).2 t = options t := by
  obtain ⟨setMap, hset⟩ : ∃ setMap, setMap = data.filterMap fun item =>
    (shareOption item.2.policy).map fun option => (item.1, option) := ⟨_, rfl⟩
  obtain ⟨removeVector, hremove⟩ : ∃ removeVector, removeVector =
    (data.filter fun item => item.2.policy = .default).map Prod.fst := ⟨_, rfl⟩
  have hcall : handlePasteboardPolicy (some .accepting) options data =
      (ERR_OK, removeShareOptions (setShareOptions options setMap) removeVector) := by
    unfold handlePasteboardPolicy PasteboardClient.accepting
    dsimp only
    rw [← hset, ← hremove, ite_self, ite_self, if_pos rfl, if_pos rfl]
    exact if_neg (fun h => h.elim (fun h => h rfl) fun h => h rfl)
  have hkeys : ∀ t, t ∈ setMap.map Prod.fst → ∃ item, item ∈ data ∧ item.1 = t ∧
      shareOption item.2.policy ≠ none := by
    rintro _ ht
    obtain ⟨⟨t, option⟩, hmem, rfl⟩ := List.mem_map.mp ht
    rw [hset] at hmem
    obtain ⟨item, hitem, hoption⟩ := List.mem_filterMap.mp hmem
    obtain ⟨option', hshare, heq⟩ := Option.map_eq_some_iff.mp hoption
    cases heq
    exact ⟨item, hitem, rfl, hshare ▸ Option.some_ne_none _⟩
  have hsetNodup : (setMap.map Prod.fst).Nodup := by
    have hfilter : setMap.map Prod.fst = (data.filter fun item =>
        (shareOption item.2.policy).isSome).map Prod.fst := by
      rw [hset]
      clear hset hremove hcall hkeys hnodup hdata
      induction data with
      | nil => rfl
      | cons item data ih =>
        rw [List.filterMap_cons, List.filter_cons]
        cases shareOption item.2.policy with
        | none => exact ih
        | some option => exact congrArg (item.1 :: ·) ih
    rw [hfilter]
    exact (List.filter_sublist.map Prod.fst).nodup hnodup
  have hsame : ∀ item item', item ∈ data → item' ∈ data → item.1 = item'.1 → item = item' :=
    fun item item' h h' heq => List.inj_on_of_nodup_map hnodup h h' heq
  have hremoved : ∀ t, t ∈ removeVector ↔
      ∃ item, item ∈ data ∧ item.2.policy = .default ∧ item.1 = t := by
    intro t
    rw [hremove, List.mem_map]
    refine exists_congr fun item => ?_
    rw [List.mem_filter, decide_eq_true_iff, and_assoc]
  rw [hcall]
  refine ⟨rfl, fun item hitem => ?_, fun t ht => ?_⟩
  · show removeShareOptions _ _ _ = _
    rw [removeShareOptions_apply]
    by_cases hdefault : item.2.policy = .default
    · rw [if_pos ((hremoved _).mpr ⟨item, hitem, hdefault, rfl⟩), hdefault]
      rfl
    · obtain ⟨option, hoption⟩ := Option.ne_none_iff_exists'.mp fun hnone =>
        hdefault ((shareOption_of_ne (hdata item hitem)).mp hnone)
      have hmem : (item.1, option) ∈ setMap := by
        rw [hset]
        exact List.mem_filterMap.mpr ⟨item, hitem, by rw [hoption]; rfl⟩
      rw [if_neg, hoption]
      · exact setShareOptions_of_mem hsetNodup hmem
      · rintro h
        obtain ⟨item', hitem', hdefault', heq⟩ := (hremoved _).mp h
        exact hdefault (hsame item' item hitem' hitem heq ▸ hdefault')
  · show removeShareOptions _ _ _ = _
    rw [removeShareOptions_apply, if_neg, setShareOptions_of_notMem]
    · intro h
      obtain ⟨item, hitem, rfl, -⟩ := hkeys t h
      exact ht (List.mem_map_of_mem hitem)
    · intro h
      obtain ⟨item, hitem, -, rfl⟩ := (hremoved t).mp h
      exact ht (List.mem_map_of_mem hitem)

/-- The token that a request is for. -/
def target (tokenIds : TokenIds) (request : Int32 × ClipboardInfo) (own : ClipboardMap) : Int32 :=
  if request.1 = 0 then
    let held := tokenOfBundle own.entries request.2
    if request.2.policy = .default ∧ held ≠ 0 then held
    else tokenIds request.2.bundleName request.2.userId
  else request.1

/-- The entry that a request for a restriction makes. -/
def entryOf (request : Int32 × ClipboardInfo) (own : ClipboardMap) : ClipboardInfo :=
  match own.find request.1 with
  | some held =>
    if request.1 = 0 then request.2
    else { policy := request.2.policy, userId := held.userId, bundleName := held.bundleName }
  | none => request.2

/-- The caller's map after a request. -/
def after (tokenIds : TokenIds) (request : Int32 × ClipboardInfo) (own : ClipboardMap) :
    ClipboardMap :=
  if request.2.policy = .default then own.erase (target tokenIds request own)
  else own.assign (target tokenIds request own, entryOf request own)

/-- A request that is not refused. -/
structure Accepted (tokenIds : TokenIds) (request : Int32 × ClipboardInfo)
    (own others : ClipboardMap) : Prop where
  policy : request.2.policy ≠ .unknown
  bundle : request.1 = 0 → request.2.policy ≠ .default → request.2.bundleName ≠ "" ∧
    request.2.userId ≠ -1 ∧ tokenIds request.2.bundleName request.2.userId ≠ 0
  size : (others.mergeAll (after tokenIds request own).entries).entries.length ≤
    MAX_PASTEBOARD_POLICY_NUM

theorem policy_entryOf (request : Int32 × ClipboardInfo) (own : ClipboardMap) :
    (entryOf request own).policy = request.2.policy := by
  unfold entryOf
  split
  · split <;> rfl
  · rfl

section Requests

variable {tokenIds : TokenIds} {request : Int32 × ClipboardInfo} {own others : ClipboardMap}

/-- What a request is rewritten to, with the caller's map, unless it is refused. -/
theorem handled_eq (hpolicy : request.2.policy ≠ .unknown) :
    (if request.2.policy = .default then
        some (deleteHandle tokenIds (ClipboardMap.empty.insert request) own)
      else updateHandle tokenIds (ClipboardMap.empty.insert request) own) =
      if request.1 = 0 ∧ request.2.policy ≠ .default ∧ (request.2.bundleName = "" ∨
          request.2.userId = -1 ∨ tokenIds request.2.bundleName request.2.userId = 0) then none
      else some (ClipboardMap.empty.insert (target tokenIds request own, request.2),
        after tokenIds request own) := by
  obtain ⟨token, info⟩ := request
  have hentries : (ClipboardMap.empty.insert (token, info)).entries = [(token, info)] := rfl
  have hmoved : ∀ t, ((ClipboardMap.empty.insert ((0 : Int32), info)).erase 0).insert (t, info) =
      ClipboardMap.empty.insert (t, info) := fun t => ClipboardMap.ext rfl
  by_cases hdefault : info.policy = .default
  · have hnot : ¬(token = 0 ∧ info.policy ≠ .default ∧ (info.bundleName = "" ∨
        info.userId = -1 ∨ tokenIds info.bundleName info.userId = 0)) := fun h => h.2.1 hdefault
    unfold deleteHandle after target
    rw [if_pos hdefault, if_neg hnot, hentries]
    dsimp only
    rw [if_pos hdefault]
    by_cases htoken : token = 0
    · subst htoken
      rw [if_pos rfl, if_pos rfl, hmoved]
      by_cases hheld : tokenOfBundle own.entries info = 0
      · rw [if_pos hheld, if_neg (fun h => h.2 hheld)]
      · rw [if_neg hheld, if_pos ⟨hdefault, hheld⟩]
    · rw [if_neg htoken, if_neg htoken]
  · unfold updateHandle after target entryOf
    rw [if_neg hdefault, hentries]
    dsimp only
    rw [if_neg hdefault]
    by_cases htoken : token = 0
    · subst htoken
      have hentry : (match own.find 0 with
          | some held =>
            if (0 : Int32) = 0 then info
            else { policy := info.policy, userId := held.userId, bundleName := held.bundleName }
          | none => info) = info := by
        cases own.find 0 <;> rfl
      have htarget : (if info.policy = .default ∧ tokenOfBundle own.entries info ≠ 0 then
          tokenOfBundle own.entries info else tokenIds info.bundleName info.userId) =
            tokenIds info.bundleName info.userId := if_neg fun h => hdefault h.1
      rw [if_pos rfl, if_pos rfl, htarget, hmoved, hentry]
      by_cases hbundle : info.bundleName = "" ∨ info.userId = -1
      · rw [if_pos hbundle, if_pos ⟨rfl, hdefault, or_assoc.mp (.inl hbundle)⟩]
      · rw [if_neg hbundle]
        by_cases hnone : tokenIds info.bundleName info.userId = 0
        · rw [if_pos hnone, if_pos ⟨rfl, hdefault, .inr (.inr hnone)⟩]
        · rw [if_neg hnone, if_neg]
          · rfl
          · rintro ⟨-, -, h⟩
            exact (or_assoc.mpr h).elim hbundle hnone
    · rw [if_neg htoken, if_neg (fun h => htoken h.1), if_neg htoken]
      cases own.find token with
      | none => rfl
      | some held =>
        dsimp only
        rw [if_neg htoken]

theorem restricts_after (hown : own.Restricts) (hpolicy : request.2.policy ≠ .unknown) :
    (after tokenIds request own).Restricts := by
  unfold after
  by_cases hdefault : request.2.policy = .default
  · rw [if_pos hdefault]
    exact hown.erase _
  · rw [if_neg hdefault]
    exact hown.assign ((policy_entryOf request own).symm ▸ ⟨hdefault, hpolicy⟩)

/-- A request changes the caller's policy for its token only. -/
theorem level_after (t : Int32) :
    (after tokenIds request own).level t =
      if t = target tokenIds request own then request.2.policy.strictness else own.level t := by
  unfold after
  by_cases hdefault : request.2.policy = .default
  · rw [if_pos hdefault, ClipboardMap.level_erase, hdefault]
    rfl
  · rw [if_neg hdefault, ClipboardMap.level_assign, policy_entryOf]

/-- A request that is refused. -/
theorem onSetPolicy_refused (h : ¬Accepted tokenIds request own others)
    (client : Option PasteboardClient) (options : ShareOptions) :
    onSetPolicy tokenIds client options (ClipboardMap.empty.insert request) own others =
      (EdmReturnErrCode.PARAM_ERROR, options, own, others) := by
  have hentries : (ClipboardMap.empty.insert request).entries = [request] := rfl
  unfold onSetPolicy
  rw [hentries]
  dsimp only
  by_cases hunknown : request.2.policy = .unknown
  · rw [if_pos hunknown]
  · rw [if_neg hunknown, handled_eq hunknown]
    by_cases hbundle : request.1 = 0 ∧ request.2.policy ≠ .default ∧ (request.2.bundleName = "" ∨
        request.2.userId = -1 ∨ tokenIds request.2.bundleName request.2.userId = 0)
    · rw [if_pos hbundle]
    · rw [if_neg hbundle]
      dsimp only
      rw [if_pos]
      by_contra hsize
      refine h ⟨hunknown, fun htoken hdefault => ?_, not_lt.mp hsize⟩
      obtain ⟨hname, hrest⟩ := not_or.mp fun hor => hbundle ⟨htoken, hdefault, hor⟩
      exact ⟨hname, not_or.mp hrest⟩

/-- A request that is accepted leaves its token with the stricter of the caller's policy and the
others'. -/
theorem onSetPolicy_accepted (options : ShareOptions) (hown : own.Restricts)
    (hothers : others.Restricts) (h : Accepted tokenIds request own others) :
    ∃ options', onSetPolicy tokenIds (some .accepting) options (ClipboardMap.empty.insert request)
        own others = (ERR_OK, options', after tokenIds request own,
          others.mergeAll (after tokenIds request own).entries) ∧
      ∀ t, options' t = if t = target tokenIds request own then
        shareOption ((others.mergeAll (after tokenIds request own).entries).policyAt t)
          else options t := by
  have hentries : (ClipboardMap.empty.insert request).entries = [request] := rfl
  have hbundle : ¬(request.1 = 0 ∧ request.2.policy ≠ .default ∧ (request.2.bundleName = "" ∨
      request.2.userId = -1 ∨ tokenIds request.2.bundleName request.2.userId = 0)) := by
    rintro ⟨htoken, hdefault, hor⟩
    obtain ⟨hname, huser, hnone⟩ := h.bundle htoken hdefault
    exact hor.elim hname fun hor => hor.elim huser hnone
  obtain ⟨t, ht⟩ : ∃ t, t = target tokenIds request own := ⟨_, rfl⟩
  obtain ⟨merged, hmerged⟩ : ∃ merged, merged =
    others.mergeAll (after tokenIds request own).entries := ⟨_, rfl⟩
  have hafter : (after tokenIds request own).Restricts := restricts_after hown h.policy
  have hrestricts : merged.Restricts := hmerged ▸ hothers.mergeAll hafter
  -- What the service is told about the token.
  obtain ⟨info, hdata, hinfo⟩ : ∃ info, (restricted (ClipboardMap.empty.insert (t, request.2))
      others merged).entries = [(t, info)] ∧ info.policy = merged.policyAt t := by
    have hentry : (ClipboardMap.empty.insert (t, request.2)).entries = [(t, request.2)] := rfl
    unfold restricted
    rw [hentry]
    dsimp only
    cases hfind : others.find t with
    | some held =>
      refine ⟨(merged.find t).getD {}, ?_, ?_⟩
      · show Library.assign Prod.fst _ [(t, request.2)] = _
        rw [Library.assign, if_neg (lt_irrefl t), if_neg (lt_irrefl t)]
      · unfold ClipboardMap.policyAt
        cases merged.find t <;> rfl
    | none =>
      refine ⟨request.2, rfl, ClipboardPolicy.strictness_inj h.policy (hrestricts.policyAt_ne t) ?_⟩
      show _ = merged.level t
      rw [hmerged, ClipboardMap.level_merge hothers hafter, level_after, if_pos ht,
        hothers.level_eq_zero.mpr hfind, sup_eq_left.mpr (Nat.zero_le _)]
  obtain ⟨⟨ret, options'⟩, hcall⟩ : ∃ called, handlePasteboardPolicy (some .accepting) options
    (restricted (ClipboardMap.empty.insert (t, request.2)) others merged).entries = called :=
      ⟨_, rfl⟩
  have hunknown : ∀ item, item ∈ [(t, info)] → item.2.policy ≠ .unknown := by
    intro item hitem
    rw [List.mem_singleton.mp hitem, hinfo]
    exact hrestricts.policyAt_ne t
  have hnodup : ([(t, info)].map Prod.fst).Nodup := List.nodup_singleton t
  have hservice := handlePasteboardPolicy_accepting options hnodup hunknown
  rw [hdata] at hcall
  rw [hcall] at hservice
  obtain ⟨rfl, hset, hkept⟩ := hservice
  have hok : ¬failed ERR_OK = true := by decide
  refine ⟨options', ?_, fun t' => ?_⟩
  · unfold onSetPolicy
    rw [hentries]
    dsimp only
    rw [if_neg h.policy, handled_eq h.policy, if_neg hbundle]
    dsimp only
    rw [if_neg (not_lt.mpr h.size), ← hmerged, ← ht, hdata, hcall]
    exact if_neg hok
  · rw [← ht, ← hmerged]
    by_cases heq : t' = t
    · have hoption : options' t = shareOption info.policy := hset _ List.mem_cons_self
      rw [if_pos heq, heq, hoption, hinfo]
    · rw [if_neg heq]
      exact hkept t' fun hmem => heq (List.mem_singleton.mp hmem)

/-- The removal of an admin leaves its tokens with the others' policies. -/
theorem onAdminRemove_accepting (options : ShareOptions) (own : ClipboardMap)
    (hothers : others.Restricts) (t : Int32) :
    (onAdminRemove (some .accepting) options own others).2 t =
      if own.find t = none then options t else shareOption (others.policyAt t) := by
  obtain ⟨data, hdata⟩ : ∃ data, data = own.entries.map fun item =>
    (item.1, (others.find item.1).getD {}) := ⟨_, rfl⟩
  have hkeys : data.map Prod.fst = own.entries.map Prod.fst := by
    rw [hdata, List.map_map]
    rfl
  have hpolicy : ∀ t, ((others.find t).getD {}).policy = others.policyAt t := by
    intro t
    unfold ClipboardMap.policyAt
    cases others.find t <;> rfl
  obtain ⟨-, hset, hkept⟩ := handlePasteboardPolicy_accepting options (hkeys ▸ own.ascend.nodup)
    (fun item hitem => by
      rw [hdata] at hitem
      obtain ⟨item, -, rfl⟩ := List.mem_map.mp hitem
      rw [hpolicy]
      exact hothers.policyAt_ne item.1)
  unfold onAdminRemove
  rw [← hdata]
  cases hfind : own.find t with
  | none =>
    rw [if_pos rfl]
    refine hkept t fun hmem => ?_
    rw [hkeys] at hmem
    exact valueAt_eq_none.mp hfind hmem
  | some info =>
    have hmem : (t, (others.find t).getD {}) ∈ data :=
      hdata ▸ List.mem_map.mpr ⟨(t, info), ClipboardMap.find_iff.mp hfind, rfl⟩
    rw [if_neg (Option.some_ne_none info), hset _ hmem, hpolicy]

end Requests

end ClipboardPolicyPlugin

end Edm
