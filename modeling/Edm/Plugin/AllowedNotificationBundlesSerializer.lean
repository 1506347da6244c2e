import Mathlib.Data.String.Basic
import Edm.Library.OrderedMap
import Edm.Plugin.IntCJson
import Edm.Plugin.Template
import Edm.Plugin.Values

/-! Trust lists of accounts as policy values: lists of accounts, each with a set of bundle names. -/

set_option autoImplicit false

namespace Edm

open Library

/-- An account with its trust list.  A `std::set` is a list in ascending order. -/
structure AllowedNotificationBundlesType where
  userId : Int32
  trustList : List String
  deriving DecidableEq

namespace AllowedNotificationBundlesSerializer

def USER_ID : String := "userId"
def TRUST_LIST : String := "trustList"

/-- `set.insert(first, last)`. -/
def insertSet (names set : List String) : List String := insertAll id names set

variable (C : ArrayCJson)

def stringItem : Json → Option String
  | .str value => some value
  | _ => none

/-- Bundle names that are not strings are skipped. -/
def deserializeItem (item : Json) : Option AllowedNotificationBundlesType :=
  match item.getObjectItem USER_ID, item.getObjectItem TRUST_LIST with
  | some (.number userId), some (.arr trustList) =>
    some ⟨Int32.ofInt (C.valueint userId), insertSet (trustList.filterMap stringItem) []⟩
  | _, _ => none

def deserialize (policy : String) : Option (List AllowedNotificationBundlesType) :=
  if policy = "" then some []
  else
    match C.parse policy with
    | none => none
    | some root => root.children.mapM (deserializeItem C)

def serializeItem (item : AllowedNotificationBundlesType) : Json :=
  .obj [(USER_ID, .number (C.createInt item.userId)),
    (TRUST_LIST, .arr (item.trustList.map Json.str))]

/-- Nothing is written for the empty list. -/
def serialize (dataObj : List AllowedNotificationBundlesType) : String :=
  if dataObj = [] then "" else C.print (.arr (dataObj.map (serializeItem C)))

/-- A request as the parcel has it. -/
structure Parcel where
  trustList : List String
  userId : Int32

def getPolicy (data : Parcel) : List AllowedNotificationBundlesType :=
  [⟨data.userId, insertSet data.trustList []⟩]

/-- The order of accounts in a `std::map`. -/
def userKey (item : AllowedNotificationBundlesType) : Int := item.userId.toInt

/-- The trust list of the first element of an account. -/
def findUserTrustList (data : List AllowedNotificationBundlesType) (userId : Int32) :
    Option (List String) := (data.find? fun item => item.userId == userId).map (·.trustList)

/-- `mergedData[item.userId].insert(..)`. -/
def mergeItem (mergedData : List AllowedNotificationBundlesType)
    (item : AllowedNotificationBundlesType) : List AllowedNotificationBundlesType :=
  assign userKey ⟨item.userId,
    insertSet item.trustList ((findUserTrustList mergedData item.userId).getD [])⟩ mergedData

def mergePolicy (data : List (List AllowedNotificationBundlesType)) :
    List AllowedNotificationBundlesType := data.flatten.foldl mergeItem []

def serializer : PolicySerializer (List AllowedNotificationBundlesType) where
  initial := []
  serialize dataObj := some (serialize C dataObj)
  deserialize := deserialize C
  mergePolicy data := some (mergePolicy data)

/-! ### Sets of bundle names -/

section Sets

variable {names set : List String} {name : String}

theorem mem_insertSet : name ∈ insertSet names set ↔ name ∈ names ∨ name ∈ set := by
  have hkeys : name ∈ (insertAll id names set).map id ↔ name ∈ names.map id ∨ name ∈ set.map id :=
    mem_keys_insertAll
  rwa [List.map_id, List.map_id, List.map_id] at hkeys

theorem keysAscend_insertSet (h : KeysAscend id set) : KeysAscend id (insertSet names set) :=
  keysAscend_insertAll h

theorem insertSet_eq (h : KeysAscend id names) : insertSet names [] = names := insertAll_append h

theorem nodup_of_keysAscend (h : KeysAscend id set) : set.Nodup := by
  have hnodup := h.nodup
  rwa [List.map_id] at hnodup

end Sets

/-! ### The lists of the accounts -/

/-- The bundles of the accounts. -/
def entries (data : List AllowedNotificationBundlesType) : List (Int32 × String) :=
  data.flatMap fun item => item.trustList.map fun name => (item.userId, name)

/-- Each account occurs once, and the trust lists are sets. -/
structure Proper (data : List AllowedNotificationBundlesType) : Prop where
  nodup : (data.map (·.userId)).Nodup
  ascend : ∀ item, item ∈ data → KeysAscend id item.trustList

section Entries

variable {data : List AllowedNotificationBundlesType} {userId : Int32} {x : Int32 × String}

theorem mem_entries : x ∈ entries data ↔
    ∃ item, item ∈ data ∧ item.userId = x.1 ∧ x.2 ∈ item.trustList := by
  unfold entries
  rw [List.mem_flatMap]
  refine exists_congr fun item => and_congr_right fun _ => ?_
  rw [List.mem_map]
  constructor
  · rintro ⟨name, hname, rfl⟩
    exact ⟨rfl, hname⟩
  · rintro ⟨huser, hname⟩
    exact ⟨x.2, hname, Prod.ext huser rfl⟩

theorem proper_nil : Proper [] := ⟨List.nodup_nil, fun _ h => absurd h List.not_mem_nil⟩

/-- The element that the search for an account finds. -/
theorem findUserTrustList_some {set : List String} (h : findUserTrustList data userId = some set) :
    (⟨userId, set⟩ : AllowedNotificationBundlesType) ∈ data := by
  unfold findUserTrustList at h
  obtain ⟨item, hfind, rfl⟩ := Option.map_eq_some_iff.mp h
  have huser : (item.userId == userId) = true :=
    List.find?_some (p := fun item : AllowedNotificationBundlesType => item.userId == userId) hfind
  rw [← beq_iff_eq.mp huser]
  exact List.mem_of_find?_eq_some hfind

theorem findUserTrustList_none (h : findUserTrustList data userId = none)
    {item : AllowedNotificationBundlesType} (hitem : item ∈ data) : item.userId ≠ userId := by
  unfold findUserTrustList at h
  intro heq
  have hnone := List.find?_eq_none.mp (Option.map_eq_none_iff.mp h) item hitem
  exact hnone (beq_iff_eq.mpr heq)

theorem Proper.eq_of_userId (h : Proper data) {item other : AllowedNotificationBundlesType}
    (hitem : item ∈ data) (hother : other ∈ data) (heq : item.userId = other.userId) :
    item = other := List.inj_on_of_nodup_map h.nodup hitem hother heq

/-- The bundles of an account. -/
theorem Proper.mem_entries_user (h : Proper data) {set : List String}
    (hfind : findUserTrustList data userId = some set) (name : String) :
    (userId, name) ∈ entries data ↔ name ∈ set := by
  have hmem := findUserTrustList_some hfind
  rw [mem_entries]
  constructor
  · rintro ⟨item, hitem, huser, hname⟩
    rwa [h.eq_of_userId hitem hmem huser] at hname
  · exact fun hname => ⟨_, hmem, rfl, hname⟩

theorem notMem_entries_user (hfind : findUserTrustList data userId = none) (name : String) :
    (userId, name) ∉ entries data := by
  rw [mem_entries]
  rintro ⟨item, hitem, huser, -⟩
  exact findUserTrustList_none hfind hitem huser

theorem userKey_inj {item other : AllowedNotificationBundlesType} :
    userKey item = userKey other ↔ item.userId = other.userId := Int32.toInt_inj

theorem Proper.of_userKey (hascend : KeysAscend userKey data)
    (hsets : ∀ item, item ∈ data → KeysAscend id item.trustList) : Proper data := by
  refine ⟨List.Nodup.of_map Int32.toInt ?_, hsets⟩
  rw [List.map_map]
  exact hascend.nodup

theorem mergeItem_spec (item : AllowedNotificationBundlesType) (h : KeysAscend userKey data)
    (hsets : ∀ other, other ∈ data → KeysAscend id other.trustList) :
    (KeysAscend userKey (mergeItem data item) ∧
        ∀ other, other ∈ mergeItem data item → KeysAscend id other.trustList) ∧
      ∀ x, x ∈ entries (mergeItem data item) ↔
        x ∈ entries data ∨ item.userId = x.1 ∧ x.2 ∈ item.trustList := by
  have hproper := Proper.of_userKey h hsets
  obtain ⟨set, hset⟩ : ∃ set, (findUserTrustList data item.userId).getD [] = set := ⟨_, rfl⟩
  have hset_ascend : KeysAscend id set := by
    cases hfind : findUserTrustList data item.userId with
    | none =>
      rw [hfind] at hset
      exact hset ▸ keysAscend_nil
    | some found =>
      rw [hfind] at hset
      exact hset ▸ hsets _ (findUserTrustList_some hfind)
  have hold : ∀ name, name ∈ set ↔ (item.userId, name) ∈ entries data := by
    intro name
    cases hfind : findUserTrustList data item.userId with
    | none =>
      rw [hfind] at hset
      exact iff_of_false (hset ▸ List.not_mem_nil) (notMem_entries_user hfind name)
    | some found =>
      rw [hfind] at hset
      rw [hproper.mem_entries_user hfind, ← hset]
      rfl
  unfold mergeItem
  rw [hset]
  refine ⟨⟨keysAscend_assign h, fun other hother => ?_⟩, fun x => ?_⟩
  · rcases mem_of_mem_assign hother with rfl | hother
    · exact keysAscend_insertSet hset_ascend
    · exact hsets other hother
  · rw [mem_entries]
    constructor
    · rintro ⟨other, hother, huser, hname⟩
      rcases mem_of_mem_assign hother with rfl | hother
      · rcases mem_insertSet.mp hname with hname | hname
        · exact .inr ⟨huser, hname⟩
        · have hx : (item.userId, x.2) = x := Prod.ext huser rfl
          exact .inl (hx ▸ (hold x.2).mp hname)
      · exact .inl (mem_entries.mpr ⟨other, hother, huser, hname⟩)
    · intro hx
      by_cases huser : item.userId = x.1
      · refine ⟨_, (mem_assign h).mpr (.inl rfl), huser, mem_insertSet.mpr ?_⟩
        rcases hx with hx | hx
        · have heq : (item.userId, x.2) = x := Prod.ext huser rfl
          exact .inr ((hold x.2).mpr (heq ▸ hx))
        · exact .inl hx.2
      · obtain ⟨other, hother, hother_user, hname⟩ :=
          mem_entries.mp (hx.resolve_right fun h => huser h.1)
        refine ⟨other, (mem_assign h).mpr (.inr ⟨hother, fun heq => huser ?_⟩), hother_user, hname⟩
        exact (userKey_inj.mp heq).symm.trans hother_user

theorem foldl_mergeItem_spec (items : List AllowedNotificationBundlesType)
    {data : List AllowedNotificationBundlesType} (h : KeysAscend userKey data)
    (hsets : ∀ other, other ∈ data → KeysAscend id other.trustList) :
    Proper (items.foldl mergeItem data) ∧
      ∀ x, x ∈ entries (items.foldl mergeItem data) ↔ x ∈ entries data ∨ x ∈ entries items := by
  induction items generalizing data with
  | nil => exact ⟨.of_userKey h hsets, fun x => (or_iff_left List.not_mem_nil).symm⟩
  | cons item items ih =>
    obtain ⟨⟨hascend, hall⟩, hmem⟩ := mergeItem_spec item h hsets
    obtain ⟨hproper, hmemAll⟩ := ih hascend hall
    refine ⟨hproper, fun x => ?_⟩
    rw [List.foldl_cons, hmemAll, hmem, or_assoc]
    refine or_congr_right ?_
    rw [mem_entries, mem_entries]
    constructor
    · rintro (hx | ⟨other, hother, hx⟩)
      · exact ⟨item, List.mem_cons_self, hx⟩
      · exact ⟨other, List.mem_cons_of_mem item hother, hx⟩
    · rintro ⟨other, hother, hx⟩
      rcases List.mem_cons.mp hother with rfl | hother
      · exact .inl hx
      · exact .inr ⟨other, hother, hx⟩

theorem mergePolicy_spec (lists : List (List AllowedNotificationBundlesType)) :
    Proper (mergePolicy lists) ∧
      ∀ x, x ∈ entries (mergePolicy lists) ↔ ∃ data, data ∈ lists ∧ x ∈ entries data := by
  obtain ⟨hproper, hmem⟩ := foldl_mergeItem_spec lists.flatten keysAscend_nil
    fun _ h => absurd h List.not_mem_nil
  refine ⟨hproper, fun x => ?_⟩
  have hnone : x ∉ entries [] := List.not_mem_nil
  rw [mergePolicy, hmem, or_iff_right hnone, mem_entries]
  constructor
  · rintro ⟨item, hitem, hx⟩
    obtain ⟨data, hdata, hitem⟩ := List.mem_flatten.mp hitem
    exact ⟨data, hdata, mem_entries.mpr ⟨item, hitem, hx⟩⟩
  · rintro ⟨data, hdata, hx⟩
    obtain ⟨item, hitem, hx⟩ := mem_entries.mp hx
    exact ⟨item, List.mem_flatten.mpr ⟨data, hdata, hitem⟩, hx⟩

end Entries

/-! ### The text of a list -/

section Text

variable {C} {data : List AllowedNotificationBundlesType}

theorem ints_items (data : List AllowedNotificationBundlesType) :
    C.Ints (.arr (data.map (serializeItem C))) := by
  rw [IntCJson.Ints, Json.numbersIn_arr]
  intro item hitem
  obtain ⟨bundles, -, rfl⟩ := List.mem_map.mp hitem
  have hnames : C.Ints (.arr (bundles.trustList.map Json.str)) := by
    rw [IntCJson.Ints, Json.numbersIn_arr]
    intro name hname
    obtain ⟨text, -, rfl⟩ := List.mem_map.mp hname
    trivial
  rw [serializeItem, Json.numbersIn_obj]
  simp only [List.mem_cons, List.not_mem_nil, or_false]
  rintro member (rfl | rfl)
  · exact C.ints_createInt _
  · exact hnames

theorem serialize_ne_empty (h : data ≠ []) : serialize C data ≠ "" := by
  rw [serialize, if_neg h]
  exact C.print_ne_empty_ints (ints_items data)

theorem deserialize_empty : deserialize C "" = some [] := if_pos rfl

theorem deserialize_brackets : deserialize C "[]" = some [] := by
  rw [deserialize, if_neg (by decide), C.parse_brackets]
  rfl

theorem deserializeItem_serializeItem {item : AllowedNotificationBundlesType}
    (h : KeysAscend id item.trustList) : deserializeItem C (serializeItem C item) = some item := by
  have hmember : ∀ {name value}, (name, value) ∈ [(USER_ID, Json.number (C.createInt item.userId)),
      (TRUST_LIST, .arr (item.trustList.map Json.str))] →
        (serializeItem C item).getObjectItem name = some value :=
    Json.getObjectItem_of_mem (by simp only [List.map_cons, List.map_nil]; decide)
  have huser := @hmember USER_ID _ (.head _)
  have hlist := @hmember TRUST_LIST _ (.tail _ (.head _))
  have hstrings : (item.trustList.map Json.str).filterMap stringItem = item.trustList := by
    rw [List.filterMap_map]
    exact List.filterMap_some
  unfold deserializeItem
  rw [huser, hlist]
  dsimp only
  rw [C.valueint_createInt, Int32.ofInt_toInt, hstrings, insertSet_eq h]

/-- The text of a list is read back as the list. -/
theorem deserialize_serialize (h : Proper data) :
    deserialize C (serialize C data) = some data := by
  by_cases hnil : data = []
  · subst hnil
    exact deserialize_empty
  · have hread : (data.map (serializeItem C)).mapM (deserializeItem C) = some data := by
      rw [List.mapM_map]
      have hitems : data.mapM (fun item => deserializeItem C (serializeItem C item)) =
          some (data.map id) :=
        mapM_some fun item hitem => deserializeItem_serializeItem (h.ascend item hitem)
      rwa [List.map_id] at hitems
    rw [deserialize, if_neg (serialize_ne_empty hnil), serialize, if_neg hnil,
      C.parse_print_ints _ (ints_items data)]
    exact hread

end Text

end AllowedNotificationBundlesSerializer

end Edm
