import Edm.Library.OrderedMap
import Edm.Plugin.ArrayIntSerializer
import Edm.Plugin.TemplatePolicy

/-! Maps from access tokens to the clipboard policies of their applications, as policy values. -/

set_option autoImplicit false

namespace Edm

open Library

inductive ClipboardPolicy where
  | default
  | inApp
  | localDevice
  | crossDevice
  | unknown
  deriving DecidableEq, Repr

namespace ClipboardPolicy

def toInt32 : ClipboardPolicy → Int32
  | default => 0
  | inApp => 1
  | localDevice => 2
  | crossDevice => 3
  | unknown => 99

/-- The policies that restrict an application. -/
def Restricts (policy : ClipboardPolicy) : Prop := policy ≠ default ∧ policy ≠ unknown

/-- How strict a policy is. -/
def strictness : ClipboardPolicy → Nat
  | default => 0
  | inApp => 3
  | localDevice => 2
  | crossDevice => 1
  | unknown => 0

theorem strictness_pos {policy : ClipboardPolicy} (h : policy.Restricts) :
    0 < policy.strictness := by
  obtain ⟨hdefault, hunknown⟩ := h
  cases policy with
  | default => exact absurd rfl hdefault
  | unknown => exact absurd rfl hunknown
  | inApp => decide
  | localDevice => decide
  | crossDevice => decide

theorem strictness_inj {policy held : ClipboardPolicy} (h : policy ≠ unknown) (h' : held ≠ unknown)
    (hstrict : policy.strictness = held.strictness) : policy = held := by
  cases policy <;> cases held <;> first
    | contradiction
    | rfl

/-- Of two restrictions the stricter one has the smaller number. -/
theorem toInt32_lt {policy held : ClipboardPolicy} (h : policy.Restricts) (hheld : held.Restricts) :
    policy.toInt32 < held.toInt32 ↔ held.strictness < policy.strictness := by
  obtain ⟨hdefault, hunknown⟩ := h
  obtain ⟨hdefault', hunknown'⟩ := hheld
  cases policy <;> cases held <;> first
    | contradiction
    | decide

end ClipboardPolicy

structure ClipboardInfo where
  policy : ClipboardPolicy := .default
  userId : Int32 := -1
  bundleName : String := ""
  deriving DecidableEq, Repr

/-- An `std::map<int32_t, ClipboardInfo>`. -/
structure ClipboardMap where
  entries : List (Int32 × ClipboardInfo)
  ascend : KeysAscend Prod.fst entries

namespace ClipboardMap

def empty : ClipboardMap := ⟨[], keysAscend_nil⟩

def find (m : ClipboardMap) (tokenId : Int32) : Option ClipboardInfo := valueAt tokenId m.entries

def assign (m : ClipboardMap) (entry : Int32 × ClipboardInfo) : ClipboardMap :=
  ⟨Library.assign Prod.fst entry m.entries, keysAscend_assign m.ascend⟩

def insert (m : ClipboardMap) (entry : Int32 × ClipboardInfo) : ClipboardMap :=
  ⟨insertNew Prod.fst entry m.entries, keysAscend_insertNew m.ascend⟩

def erase (m : ClipboardMap) (tokenId : Int32) : ClipboardMap :=
  ⟨eraseKey Prod.fst tokenId m.entries, keysAscend_eraseKey m.ascend⟩

/-- The step of the loops that merge: an entry replaces one that is less strict. -/
def mergeEntry (result : ClipboardMap) (entry : Int32 × ClipboardInfo) : ClipboardMap :=
  match result.find entry.1 with
  | none => result.assign entry
  | some held =>
    if entry.2.policy.toInt32 < held.policy.toInt32 then result.assign entry else result

def mergeAll (result : ClipboardMap) (entries : List (Int32 × ClipboardInfo)) : ClipboardMap :=
  entries.foldl mergeEntry result

/-- A map's policy for a token. -/
def policyAt (m : ClipboardMap) (tokenId : Int32) : ClipboardPolicy :=
  (m.find tokenId).elim .default ClipboardInfo.policy

/-- How strict a map is on a token. -/
def level (m : ClipboardMap) (tokenId : Int32) : Nat := (m.policyAt tokenId).strictness

/-- All entries restrict. -/
def Restricts (m : ClipboardMap) : Prop := ∀ entry, entry ∈ m.entries → entry.2.policy.Restricts

/-! ### Single entries -/

section Entries

variable {m : ClipboardMap} {entry : Int32 × ClipboardInfo} {tokenId t : Int32}

theorem ext {m m' : ClipboardMap} (h : m.entries = m'.entries) : m = m' := by
  cases m
  cases m'
  cases h
  rfl

@[simp] theorem find_empty : empty.find t = none := rfl

theorem find_iff {info : ClipboardInfo} : m.find t = some info ↔ (t, info) ∈ m.entries :=
  valueAt_iff m.ascend

theorem find_assign : (m.assign entry).find t = if t = entry.1 then some entry.2 else m.find t := by
  have hvalue : valueAt t (Library.assign Prod.fst (entry.1, entry.2) m.entries) = _ :=
    valueAt_assign m.ascend
  refine hvalue.trans ?_
  by_cases ht : t = entry.1
  · rw [if_pos ht, if_pos ht]
  · rw [if_neg ht, if_neg ht]
    rfl

theorem find_erase : (m.erase tokenId).find t = if t = tokenId then none else m.find t := by
  refine Option.ext fun info => ?_
  have hmem : (m.erase tokenId).find t = some info ↔ m.find t = some info ∧ t ≠ tokenId := by
    rw [find_iff, find_iff]
    exact mem_eraseKey
  rw [hmem]
  split
  · rename_i heq
    exact iff_of_false (fun h => h.2 heq) nofun
  · rename_i hne
    exact and_iff_left hne

theorem mem_assign {e : Int32 × ClipboardInfo} :
    e ∈ (m.assign entry).entries ↔ e = entry ∨ e ∈ m.entries ∧ e.1 ≠ entry.1 :=
  Library.mem_assign m.ascend

@[simp] theorem level_empty : empty.level t = 0 := rfl

theorem level_assign :
    (m.assign entry).level t = if t = entry.1 then entry.2.policy.strictness else m.level t := by
  unfold level policyAt
  rw [find_assign]
  split <;> rfl

theorem level_erase : (m.erase tokenId).level t = if t = tokenId then 0 else m.level t := by
  unfold level policyAt
  rw [find_erase]
  split <;> rfl

theorem level_of_mem (h : entry ∈ m.entries) : m.level entry.1 = entry.2.policy.strictness := by
  unfold level policyAt
  rw [find_iff.mpr h]
  rfl

theorem level_le {n : Nat} :
    m.level t ≤ n ↔ ∀ entry, entry ∈ m.entries → entry.1 = t → entry.2.policy.strictness ≤ n := by
  constructor
  · rintro h entry hentry rfl
    rwa [← level_of_mem hentry]
  · intro h
    unfold level policyAt
    cases hfind : m.find t with
    | none => exact Nat.zero_le n
    | some info => exact h _ (find_iff.mp hfind) rfl

theorem restricts_empty : empty.Restricts := fun _ h => absurd h List.not_mem_nil

theorem Restricts.assign (h : m.Restricts) (hentry : entry.2.policy.Restricts) :
    (m.assign entry).Restricts := by
  intro e he
  rcases mem_assign.mp he with rfl | ⟨he, -⟩
  · exact hentry
  · exact h e he

theorem Restricts.erase (h : m.Restricts) (tokenId : Int32) : (m.erase tokenId).Restricts :=
  fun e he => h e (mem_eraseKey.mp he).1

theorem Restricts.policyAt_ne (h : m.Restricts) (t : Int32) : m.policyAt t ≠ .unknown := by
  unfold policyAt
  cases hfind : m.find t with
  | none => exact nofun
  | some info => exact (h _ (find_iff.mp hfind)).2

/-- Maps that are as strict have the same policy. -/
theorem Restricts.policyAt_eq {m' : ClipboardMap} (h : m.Restricts) (h' : m'.Restricts)
    (hlevel : m.level t = m'.level t) : m.policyAt t = m'.policyAt t :=
  ClipboardPolicy.strictness_inj (h.policyAt_ne t) (h'.policyAt_ne t) hlevel

/-- Without an entry a map is not strict. -/
theorem Restricts.level_eq_zero (h : m.Restricts) : m.level t = 0 ↔ m.find t = none := by
  unfold level policyAt
  cases hfind : m.find t with
  | none => exact iff_of_true rfl rfl
  | some info =>
    have hpos := ClipboardPolicy.strictness_pos (h _ (find_iff.mp hfind))
    exact iff_of_false (Nat.pos_iff_ne_zero.mp hpos) nofun

end Entries

/-! ### Merging -/

section Merge

variable {result : ClipboardMap} {entry e : Int32 × ClipboardInfo}
  {entries : List (Int32 × ClipboardInfo)} {t : Int32} {n : Nat}

theorem Restricts.mergeEntry (h : result.Restricts) (hentry : entry.2.policy.Restricts) :
    (result.mergeEntry entry).Restricts := by
  unfold ClipboardMap.mergeEntry
  split
  · exact h.assign hentry
  · split
    · exact h.assign hentry
    · exact h

theorem mem_of_mem_mergeEntry (h : e ∈ (result.mergeEntry entry).entries) :
    e = entry ∨ e ∈ result.entries := by
  unfold mergeEntry at h
  split at h
  · exact (mem_assign.mp h).imp id And.left
  · split at h
    · exact (mem_assign.mp h).imp id And.left
    · exact .inr h

/-- A merged entry counts, and so does what was there. -/
theorem level_mergeEntry_le (h : result.Restricts) (hentry : entry.2.policy.Restricts) :
    (result.mergeEntry entry).level t ≤ n ↔
      result.level t ≤ n ∧ (entry.1 = t → entry.2.policy.strictness ≤ n) := by
  by_cases ht : t = entry.1
  · subst ht
    rw [imp_iff_right rfl]
    unfold mergeEntry
    cases hfind : result.find entry.1 with
    | none =>
      dsimp only
      rw [level_assign, if_pos rfl, h.level_eq_zero.mpr hfind, and_iff_right (Nat.zero_le n)]
    | some held =>
      have hheld : held.policy.Restricts := h _ (find_iff.mp hfind)
      have hlevel : result.level entry.1 = held.policy.strictness :=
        level_of_mem (find_iff.mp hfind)
      dsimp only
      by_cases hlt : entry.2.policy.toInt32 < held.policy.toInt32
      · rw [if_pos hlt, level_assign, if_pos rfl, hlevel]
        rw [ClipboardPolicy.toInt32_lt hentry hheld] at hlt
        omega
      · rw [if_neg hlt, hlevel]
        rw [ClipboardPolicy.toInt32_lt hentry hheld] at hlt
        omega
  · have hsame : (result.mergeEntry entry).level t = result.level t := by
      unfold mergeEntry
      split
      · rw [level_assign, if_neg ht]
      · split
        · rw [level_assign, if_neg ht]
        · rfl
    rw [hsame]
    exact (and_iff_left fun heq => absurd heq.symm ht).symm

theorem Restricts.mergeAll (h : result.Restricts)
    (hentries : ∀ entry, entry ∈ entries → entry.2.policy.Restricts) :
    (result.mergeAll entries).Restricts := by
  induction entries generalizing result with
  | nil => exact h
  | cons entry entries ih =>
    obtain ⟨hentry, hentries⟩ := List.forall_mem_cons.mp hentries
    exact ih (h.mergeEntry hentry) hentries

theorem mem_of_mem_mergeAll (h : e ∈ (result.mergeAll entries).entries) :
    e ∈ entries ∨ e ∈ result.entries := by
  induction entries generalizing result with
  | nil => exact .inr h
  | cons entry entries ih =>
    rcases ih h with hmem | hmem
    · exact .inl (List.mem_cons_of_mem entry hmem)
    · rcases mem_of_mem_mergeEntry hmem with rfl | hmem
      · exact .inl List.mem_cons_self
      · exact .inr hmem

theorem level_mergeAll_le (h : result.Restricts)
    (hentries : ∀ entry, entry ∈ entries → entry.2.policy.Restricts) :
    (result.mergeAll entries).level t ≤ n ↔ result.level t ≤ n ∧
      ∀ entry, entry ∈ entries → entry.1 = t → entry.2.policy.strictness ≤ n := by
  induction entries generalizing result with
  | nil => exact (and_iff_left fun entry hentry => absurd hentry List.not_mem_nil).symm
  | cons entry entries ih =>
    obtain ⟨hentry, hentries⟩ := List.forall_mem_cons.mp hentries
    have hrec : result.mergeAll (entry :: entries) = (result.mergeEntry entry).mergeAll entries :=
      rfl
    rw [hrec, ih (h.mergeEntry hentry) hentries, level_mergeEntry_le h hentry, List.forall_mem_cons,
      and_assoc]

/-- Of two maps, merged, the stricter decides. -/
theorem level_merge {m : ClipboardMap} (h : result.Restricts) (hm : m.Restricts) (t : Int32) :
    (result.mergeAll m.entries).level t = m.level t ⊔ result.level t := by
  refine eq_of_forall_ge_iff fun n => ?_
  rw [level_mergeAll_le h hm, ← level_le, sup_le_iff, and_comm]

end Merge

end ClipboardMap

namespace ClipboardSerializer

def TOKEN_ID : String := "tokenId"
def USER_ID : String := "userId"
def BUNDLE_NAME : String := "bundleName"
def CLIPBOARD_POLICY_STR : String := "clipboardPolicy"

def convertToClipboardPolicy (policy : Int) : ClipboardPolicy :=
  match policy with
  | 0 => .default
  | 1 => .inApp
  | 2 => .localDevice
  | 3 => .crossDevice
  | _ => .unknown

variable (C : ArrayCJson)

/-- What an item stands for.  An item that is skipped has no entry. -/
def readItem (item : Json) : Option (Option (Int32 × ClipboardInfo)) :=
  match item.getObjectItem TOKEN_ID, item.getObjectItem CLIPBOARD_POLICY_STR with
  | some (.number tokenId), some (.number clipboardPolicy) =>
    let info : ClipboardInfo := { policy := convertToClipboardPolicy (C.valueint clipboardPolicy) }
    let userId : Option Int32 := match item.getObjectItem USER_ID with
      | none => some info.userId
      | some (.number userId) => some (Int32.ofInt (C.valueint userId))
      | some _ => none
    let bundleName : Option String := match item.getObjectItem BUNDLE_NAME with
      | none => some info.bundleName
      | some (.str bundleName) => some bundleName
      | some _ => none
    match userId, bundleName with
    | some userId, some bundleName =>
      some (some (Int32.ofInt (C.valueint tokenId), { info with userId, bundleName }))
    | _, _ => some none
  | some _, some _ => some none
  | _, _ => none

/-- The loop over the items.  An item without its fields ends it. -/
def readItems : List Json → ClipboardMap → Bool × ClipboardMap
  | [], result => (true, result)
  | item :: items, result =>
    match readItem C item with
    | none => (false, result)
    | some none => readItems items result
    | some (some entry) => readItems items (result.insert entry)

/-- The return value, and the map that the out parameter has after the call. -/
def deserialize (data : String) : Bool × ClipboardMap :=
  match C.parse data with
  | none => (true, .empty)
  | some root => readItems C root.children .empty

def serializeItem (entry : Int32 × ClipboardInfo) : Json :=
  .obj [(TOKEN_ID, .number (C.createInt entry.1)), (USER_ID, .number (C.createInt entry.2.userId)),
    (BUNDLE_NAME, .str entry.2.bundleName),
    (CLIPBOARD_POLICY_STR, .number (C.createInt entry.2.policy.toInt32))]

/-- The text that the out parameter has after the call.  Nothing is written for the empty map. -/
def serialize (result : ClipboardMap) (data : String) : String :=
  if result.entries = [] then data else C.print (.arr (result.entries.map (serializeItem C)))

/-- The loop over the entries of the maps.  An entry that is the default ends it. -/
def mergePolicy (data : List ClipboardMap) : Option ClipboardMap :=
  if ∀ entry, entry ∈ (data.map ClipboardMap.entries).flatten → entry.2.policy ≠ .default then
    some (ClipboardMap.empty.mergeAll (data.map ClipboardMap.entries).flatten)
  else none

def serializer : PolicySerializer ClipboardMap where
  initial := .empty
  serialize result := some (serialize C result "")
  deserialize data := match deserialize C data with
    | (true, result) => some result
    | (false, _) => none
  mergePolicy := mergePolicy

/-! ### The text of a map -/

section Text

variable {C} {m : ClipboardMap}

theorem convertToClipboardPolicy_toInt32 (policy : ClipboardPolicy) :
    convertToClipboardPolicy policy.toInt32.toInt = policy := by
  cases policy <;> rfl

theorem ints_items (entries : List (Int32 × ClipboardInfo)) :
    C.Ints (.arr (entries.map (serializeItem C))) := by
  rw [IntCJson.Ints, Json.numbersIn_arr]
  intro item hitem
  obtain ⟨entry, -, rfl⟩ := List.mem_map.mp hitem
  rw [serializeItem, Json.numbersIn_obj]
  simp only [List.mem_cons, List.not_mem_nil, or_false]
  rintro member (rfl | rfl | rfl | rfl)
  · exact C.ints_createInt _
  · exact C.ints_createInt _
  · trivial
  · exact C.ints_createInt _

theorem readItem_serializeItem (entry : Int32 × ClipboardInfo) :
    readItem C (serializeItem C entry) = some (some entry) := by
  have hmember : ∀ {name value}, (name, value) ∈
      [(TOKEN_ID, Json.number (C.createInt entry.1)),
        (USER_ID, .number (C.createInt entry.2.userId)), (BUNDLE_NAME, .str entry.2.bundleName),
        (CLIPBOARD_POLICY_STR, .number (C.createInt entry.2.policy.toInt32))] →
          (serializeItem C entry).getObjectItem name = some value :=
    Json.getObjectItem_of_mem (by simp only [List.map_cons, List.map_nil]; decide)
  have htoken := @hmember TOKEN_ID _ (.head _)
  have huser := @hmember USER_ID _ (.tail _ (.head _))
  have hbundle := @hmember BUNDLE_NAME _ (.tail _ (.tail _ (.head _)))
  have hpolicy := @hmember CLIPBOARD_POLICY_STR _ (.tail _ (.tail _ (.tail _ (.head _))))
  unfold readItem
  rw [htoken, huser, hbundle, hpolicy]
  simp only [C.valueint_createInt, Int32.ofInt_toInt, convertToClipboardPolicy_toInt32]

theorem readItems_serialize (entries : List (Int32 × ClipboardInfo)) (result : ClipboardMap)
    (h : KeysAscend Prod.fst (result.entries ++ entries)) :
    readItems C (entries.map (serializeItem C)) result =
      (true, ⟨result.entries ++ entries, h⟩) := by
  induction entries generalizing result with
  | nil => exact congrArg (Prod.mk true) (ClipboardMap.ext (List.append_nil _).symm)
  | cons entry entries ih =>
    have happend : result.entries ++ entry :: entries =
        (result.entries ++ [entry]) ++ entries := by
      rw [List.append_assoc, List.singleton_append]
    have hprefix : KeysAscend Prod.fst (result.entries ++ [entry]) := by
      rw [happend, KeysAscend, List.map_append] at h
      exact (List.pairwise_append.mp h).1
    have hinsert : (result.insert entry).entries = result.entries ++ [entry] :=
      insertNew_append hprefix
    rw [List.map_cons, readItems, readItem_serializeItem]
    dsimp only
    rw [ih (result.insert entry) (by rw [hinsert, ← happend]; exact h)]
    refine congrArg (Prod.mk true) (ClipboardMap.ext ?_)
    show (result.insert entry).entries ++ entries = result.entries ++ entry :: entries
    rw [hinsert, happend]

theorem deserialize_empty : deserialize C "" = (true, .empty) := by
  rw [deserialize, C.parse_empty]

theorem serialize_nil (h : m.entries = []) (data : String) : serialize C m data = data := if_pos h

theorem serialize_ne_empty (h : m.entries ≠ []) (data : String) : serialize C m data ≠ "" := by
  rw [serialize, if_neg h]
  exact C.print_ne_empty_ints (ints_items m.entries)

/-- A map that is not empty replaces the text. -/
theorem deserialize_serialize (h : m.entries ≠ []) (data : String) :
    deserialize C (serialize C m data) = (true, m) := by
  rw [serialize, if_neg h, deserialize, C.parse_print_ints _ (ints_items m.entries)]
  exact readItems_serialize m.entries .empty m.ascend

/-- What is written in an empty string. -/
abbrev write (C : ArrayCJson) (m : ClipboardMap) : String := serialize C m ""

theorem serialize_eq_write (h : m.entries ≠ []) (data : String) :
    serialize C m data = write C m := by
  rw [write, serialize, serialize, if_neg h, if_neg h]

theorem deserialize_write (m : ClipboardMap) : deserialize C (write C m) = (true, m) := by
  by_cases hnil : m.entries = []
  · rw [write, serialize_nil hnil, deserialize_empty]
    exact congrArg (Prod.mk true) (ClipboardMap.ext hnil.symm)
  · exact deserialize_serialize hnil ""

theorem roundTrip : RoundTrip (serializer C) (write C) where
  serialize _ := rfl
  deserialize m := by
    show (match deserialize C (write C m) with
      | (true, result) => some result
      | (false, _) => none) = some m
    rw [deserialize_write]
  write_initial := rfl

end Text

end ClipboardSerializer

end Edm
