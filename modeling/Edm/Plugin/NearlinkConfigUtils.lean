import Mathlib.Data.List.Nodup
import Edm.Library.SeparatedKey

/-! `NearlinkConfigUtils`: the file with the NearLink protocols that are denied to the accounts.  It
is read and written as a whole, and both succeed, so that the file stands for its tree. -/

set_option autoImplicit false

namespace Edm

open Library

/-- The member `ProtocolDenyList`: an array of protocols for each account, in the order of the text. -/
abbrev ProtocolDenyList := List (String × List String)

namespace NearlinkProtocolUtils

def SSAP : Int32 := 0
def DATA_TRANSFER : Int32 := 1

def intToProtocolStr (value : Int32) : Option String :=
  if value = SSAP then some "SSAP"
  else if value = DATA_TRANSFER then some "DATA_TRANSFER"
  else none

end NearlinkProtocolUtils

namespace NearlinkConfigUtils

/-- The file, which may lack the member. -/
abbrev Config := Option ProtocolDenyList

/-- The array of the first item of the name becomes another one. -/
def setItem (name : String) (items : List String) : ProtocolDenyList → ProtocolDenyList
  | [] => []
  | (other, old) :: denyList =>
    if other = name then (other, items) :: denyList else (other, old) :: setItem name items denyList

/-- `cJSON_DeleteItemFromObject`. -/
def deleteItem (name : String) (denyList : ProtocolDenyList) : ProtocolDenyList :=
  denyList.eraseP fun item => item.1 = name

/-- `none` where the file is not written. -/
def addProtocol (protocol userId : String) (denyList : ProtocolDenyList)
    (userItem : Option (List String)) : Option ProtocolDenyList :=
  match userItem with
  | none => some (denyList ++ [(userId, [protocol])])
  | some items =>
    if protocol ∈ items then none else some (setItem userId (items ++ [protocol]) denyList)

/-- `none` where the file is not written. -/
def removeProtocol (protocol userId : String) (denyList : ProtocolDenyList)
    (userItem : Option (List String)) : Option ProtocolDenyList :=
  match userItem with
  | none => none
  | some items =>
    if protocol ∉ items then none
    else
      let items := items.erase protocol
      if items = [] then some (deleteItem userId denyList)
      else some (setItem userId items denyList)

def updateProtocol (config : Config) (userId protocol : String) (isAdd : Bool) : Config :=
  let denyList := config.getD []
  let userItem := denyList.lookup userId
  let written :=
    if isAdd then addProtocol protocol userId denyList userItem
    else removeProtocol protocol userId denyList userItem
  match written with
  | none => config
  | some denyList => some denyList

def removeProtocolDenyList (_config : Config) : Config := none

/-- The protocols of an account. -/
def protocols (config : Config) (userId : String) : List String :=
  ((config.getD []).lookup userId).getD []

/-! ### What the file lists -/

/-- Each account has one array, in which each protocol occurs once. -/
structure Proper (config : Config) : Prop where
  names : ((config.getD []).map Prod.fst).Nodup
  items : ∀ name items, (config.getD []).lookup name = some items → items.Nodup

section Items

variable {name other : String} {items : List String} {denyList : ProtocolDenyList}

theorem lookup_item (first : String) (old : List String) :
    List.lookup name ((first, old) :: denyList) =
      if name = first then some old else denyList.lookup name := by
  rw [List.lookup_cons]
  by_cases hname : name = first
  · rw [if_pos hname, beq_iff_eq.mpr hname]
  · rw [if_neg hname, beq_eq_false_iff_ne.mpr hname]

theorem lookup_eq_none : denyList.lookup name = none ↔ name ∉ denyList.map Prod.fst := by
  induction denyList with
  | nil => simp
  | cons item denyList ih =>
    rw [lookup_item, List.map_cons, List.mem_cons, not_or]
    by_cases hname : name = item.1
    · rw [if_pos hname]
      exact iff_of_false (fun h => nomatch h) fun h => h.1 hname
    · rw [if_neg hname, ih]
      exact (and_iff_right hname).symm

theorem lookup_setItem (h : (denyList.lookup name).isSome = true) :
    (setItem name items denyList).lookup other =
      if other = name then some items else denyList.lookup other := by
  induction denyList with
  | nil => exact absurd h Bool.false_ne_true
  | cons item denyList ih =>
    obtain ⟨first, old⟩ := item
    rw [setItem]
    by_cases hfirst : first = name
    · rw [if_pos hfirst, lookup_item, lookup_item, hfirst]
      split
      · rfl
      · rfl
    · rw [lookup_item, if_neg fun heq => hfirst heq.symm] at h
      rw [if_neg hfirst, lookup_item, lookup_item, ih h]
      by_cases hother : other = first
      · rw [if_pos hother, if_pos hother, if_neg fun heq => hfirst (hother.symm.trans heq)]
      · rw [if_neg hother, if_neg hother]

theorem keys_setItem : (setItem name items denyList).map Prod.fst = denyList.map Prod.fst := by
  induction denyList with
  | nil => rfl
  | cons item denyList ih =>
    obtain ⟨first, old⟩ := item
    rw [setItem]
    split
    · rfl
    · rw [List.map_cons, List.map_cons, ih]

theorem lookup_deleteItem (h : (denyList.map Prod.fst).Nodup) :
    (deleteItem name denyList).lookup other =
      if other = name then none else denyList.lookup other := by
  induction denyList with
  | nil => exact (ite_self _).symm
  | cons item denyList ih =>
    obtain ⟨first, old⟩ := item
    obtain ⟨hfirst, hrest⟩ := List.nodup_cons.mp h
    rw [deleteItem, List.eraseP_cons, lookup_item]
    by_cases hname : first = name
    · subst hname
      rw [decide_eq_true rfl]
      show denyList.lookup other = _
      by_cases hother : other = first
      · rw [if_pos hother, hother]
        exact lookup_eq_none.mpr hfirst
      · rw [if_neg hother, if_neg hother]
    · rw [decide_eq_false hname]
      show List.lookup other ((first, old) :: deleteItem name denyList) = _
      rw [lookup_item, ih hrest]
      by_cases hother : other = first
      · rw [if_pos hother, if_pos hother, if_neg fun heq => hname (hother.symm.trans heq)]
      · rw [if_neg hother, if_neg hother]

theorem lookup_append_item (h : denyList.lookup name = none) :
    (denyList ++ [(name, items)]).lookup other =
      if other = name then some items else denyList.lookup other := by
  rw [List.lookup_append, lookup_item, List.lookup_nil]
  by_cases hother : other = name
  · rw [if_pos hother, if_pos hother, hother, h]
    rfl
  · rw [if_neg hother, if_neg hother, Option.or_none]

end Items

section Config

variable {config : Config} {userId : String}

/-- A file whose arrays are those of another but for one, which has no protocol twice. -/
theorem Proper.written (h : Proper config) {denyList : ProtocolDenyList}
    (userItem : Option (List String)) (hnames : (denyList.map Prod.fst).Nodup)
    (hitems : (userItem.getD []).Nodup)
    (hlookup : ∀ other, denyList.lookup other =
      if other = userId then userItem else (config.getD []).lookup other) :
    Proper (some denyList) ∧ ∀ other, protocols (some denyList) other =
      if other = userId then userItem.getD [] else protocols config other := by
  refine ⟨⟨hnames, fun name items hfound => ?_⟩, fun other => ?_⟩
  · have hfound : denyList.lookup name = some items := hfound
    rw [hlookup] at hfound
    split at hfound
    · rw [hfound] at hitems
      exact hitems
    · exact h.items name items hfound
  · show (denyList.lookup other).getD [] = _
    rw [hlookup, apply_ite (fun o => Option.getD o [])]
    rfl

theorem protocols_of_lookup {userItem : Option (List String)}
    (hlookup : (config.getD []).lookup userId = userItem) :
    protocols config userId = userItem.getD [] := by
  rw [protocols, hlookup]

theorem addProtocol_spec (h : Proper config) (userId protocol : String) :
    match addProtocol protocol userId (config.getD []) ((config.getD []).lookup userId) with
    | none => protocol ∈ protocols config userId
    | some denyList => Proper (some denyList) ∧ ∀ other, protocols (some denyList) other =
        if other = userId then protocols config userId ++ [protocol]
        else protocols config other := by
  cases hlookup : (config.getD []).lookup userId with
  | none =>
    have hnames : (((config.getD []) ++ [(userId, [protocol])]).map Prod.fst).Nodup := by
      rw [List.map_append, List.nodup_append]
      refine ⟨h.names, List.nodup_singleton _, ?_⟩
      rintro name hname other hother rfl
      rw [List.mem_singleton.mp hother] at hname
      exact lookup_eq_none.mp hlookup hname
    rw [protocols_of_lookup hlookup]
    exact h.written (some [protocol]) hnames (List.nodup_singleton _) fun _ => lookup_append_item hlookup
  | some items =>
    rw [protocols_of_lookup hlookup, addProtocol]
    by_cases hmem : protocol ∈ items
    · rw [if_pos hmem]
      exact hmem
    · rw [if_neg hmem]
      have hnodup : (items ++ [protocol]).Nodup := by
        rw [← List.concat_eq_append]
        exact (h.items userId items hlookup).concat hmem
      have hnames : ((setItem userId (items ++ [protocol]) (config.getD [])).map Prod.fst).Nodup := by
        rw [keys_setItem]
        exact h.names
      exact h.written (some (items ++ [protocol])) hnames hnodup
        fun _ => lookup_setItem (Option.isSome_of_eq_some hlookup)

theorem removeProtocol_spec (h : Proper config) (userId protocol : String) :
    match removeProtocol protocol userId (config.getD []) ((config.getD []).lookup userId) with
    | none => protocol ∉ protocols config userId
    | some denyList => Proper (some denyList) ∧ ∀ other, protocols (some denyList) other =
        if other = userId then (protocols config userId).erase protocol
        else protocols config other := by
  cases hlookup : (config.getD []).lookup userId with
  | none =>
    rw [protocols_of_lookup hlookup]
    exact List.not_mem_nil
  | some items =>
    rw [protocols_of_lookup hlookup, removeProtocol]
    by_cases hmem : protocol ∈ items
    · rw [if_neg (not_not.mpr hmem)]
      have hnodup : (items.erase protocol).Nodup := (h.items userId items hlookup).erase protocol
      dsimp only
      by_cases hnil : items.erase protocol = []
      · rw [if_pos hnil]
        have hnames : ((deleteItem userId (config.getD [])).map Prod.fst).Nodup :=
          h.names.sublist (List.eraseP_sublist.map Prod.fst)
        have hwritten := h.written none hnames List.nodup_nil
          fun _ => lookup_deleteItem h.names
        show Proper _ ∧ ∀ other, _ = if other = userId then items.erase protocol else _
        rw [hnil]
        exact hwritten
      · rw [if_neg hnil]
        have hnames : ((setItem userId (items.erase protocol) (config.getD [])).map
            Prod.fst).Nodup := by
          rw [keys_setItem]
          exact h.names
        exact h.written (some (items.erase protocol)) hnames hnodup
          fun _ => lookup_setItem (Option.isSome_of_eq_some hlookup)
    · rw [if_pos hmem]
      exact hmem

/-- One protocol of one account is added or removed. -/
theorem updateProtocol_spec (h : Proper config) (userId protocol : String) (isAdd : Bool) :
    Proper (updateProtocol config userId protocol isAdd) ∧
      ∀ other p, p ∈ protocols (updateProtocol config userId protocol isAdd) other ↔
        if other = userId ∧ p = protocol then isAdd = true else p ∈ protocols config other := by
  have hsame : (protocol ∈ protocols config userId ↔ isAdd = true) → ∀ other p,
      p ∈ protocols config other ↔
        if other = userId ∧ p = protocol then isAdd = true else p ∈ protocols config other := by
    intro hprotocol other p
    split
    · rename_i heq
      rw [heq.1, heq.2]
      exact hprotocol
    · exact Iff.rfl
  cases isAdd with
  | true =>
    have hspec := addProtocol_spec h userId protocol
    rw [updateProtocol]
    rw [if_pos rfl]
    split at hspec
    · exact ⟨h, hsame (iff_of_true hspec rfl)⟩
    · rename_i denyList _
      refine ⟨hspec.1, fun other p => ?_⟩
      show p ∈ protocols (some denyList) other ↔ _
      rw [hspec.2]
      by_cases hother : other = userId
      · rw [if_pos hother, List.mem_append, List.mem_singleton, hother]
        by_cases hp : p = protocol
        · rw [if_pos ⟨rfl, hp⟩]
          exact iff_of_true (.inr hp) rfl
        · rw [if_neg fun heq => hp heq.2]
          exact or_iff_left hp
      · rw [if_neg hother, if_neg fun heq => hother heq.1]
  | false =>
    have hspec := removeProtocol_spec h userId protocol
    have hnodup : (protocols config userId).Nodup := by
      rw [protocols]
      cases hlookup : (config.getD []).lookup userId with
      | none => exact List.nodup_nil
      | some items => exact h.items userId items hlookup
    rw [updateProtocol]
    rw [if_neg Bool.false_ne_true]
    split at hspec
    · exact ⟨h, hsame (iff_of_false hspec Bool.false_ne_true)⟩
    · rename_i denyList _
      refine ⟨hspec.1, fun other p => ?_⟩
      show p ∈ protocols (some denyList) other ↔ _
      rw [hspec.2]
      by_cases hother : other = userId
      · rw [if_pos hother, hnodup.mem_erase_iff, hother]
        by_cases hp : p = protocol
        · rw [if_pos ⟨rfl, hp⟩]
          exact iff_of_false (fun h => h.1 hp) Bool.false_ne_true
        · rw [if_neg fun heq => hp heq.2]
          exact and_iff_right hp
      · rw [if_neg hother, if_neg fun heq => hother heq.1]

end Config

end NearlinkConfigUtils

end Edm
