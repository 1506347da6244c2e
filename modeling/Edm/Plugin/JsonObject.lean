import Edm.Plugin.IntCJson

/-! The functions of the JSON library that edit an object in place, and trees with any numbers. -/

set_option autoImplicit false

namespace Edm.Library.Json

def getObjectItemCaseSensitive (j : Json) (name : String) : Option Json :=
  match j with
  | obj members => (members.find? fun member => member.1 == name).map Prod.snd
  | _ => none

/-- `cJSON_DeleteItemFromObject`, which deletes the first member of the name. -/
def deleteItemFromObject (j : Json) (name : String) : Json :=
  match j with
  | obj members => obj (members.eraseP fun member => sameName member.1 name)
  | j => j

/-- `cJSON_AddItemToObject`.  The name of an item that is added to an array is not printed, nor is
an item that is added to something else. -/
def addItemToObject (j : Json) (name : String) (item : Json) : Json :=
  match j with
  | obj members => obj (members ++ [(name, item)])
  | arr items => arr (items ++ [item])
  | j => j

theorem addItemToObject_obj (members : List (String × Json)) (name : String) (item : Json) :
    (obj members).addItemToObject name item = obj (members ++ [(name, item)]) := rfl

/-- A name up to case. -/
def nameKey (name : String) : List Char := name.toList.map Char.toLower

theorem sameName_iff {name other : String} :
    sameName name other = true ↔ nameKey name = nameKey other :=
  beq_iff_eq

section Names

variable {name other : String} {value : Json} {members : List (String × Json)}

theorem getObjectItem_absent
    (h : ∀ other, other ∈ members.map Prod.fst → sameName other name = false) :
    (obj members).getObjectItem name = none := by
  have hfind : members.find? (fun member => sameName member.1 name) = none :=
    List.find?_eq_none.mpr fun member hmember =>
      Bool.eq_false_iff.mp (h member.1 (List.mem_map_of_mem hmember))
  exact congrArg (Option.map Prod.snd) hfind

theorem deleteItemFromObject_nil (name : String) : (obj []).deleteItemFromObject name = obj [] :=
  rfl

theorem deleteItemFromObject_self (h : sameName other name = true) :
    (obj ((other, value) :: members)).deleteItemFromObject name = obj members :=
  congrArg obj (List.eraseP_cons_of_pos h)

theorem deleteItemFromObject_absent
    (h : ∀ other, other ∈ members.map Prod.fst → sameName other name = false) :
    (obj members).deleteItemFromObject name = obj members :=
  congrArg obj (List.eraseP_of_forall_not fun member hmember =>
    Bool.eq_false_iff.mp (h member.1 (List.mem_map_of_mem hmember)))

end Names

/-! ### Nested trees -/

mutual

/-- How deep arrays and objects are nested. -/
def depth : Json → Nat
  | arr items => depthItems items + 1
  | obj members => depthMembers members + 1
  | _ => 0

def depthItems : List Json → Nat
  | [] => 0
  | item :: items => max (depth item) (depthItems items)

def depthMembers : List (String × Json) → Nat
  | [] => 0
  | (_, value) :: members => max (depth value) (depthMembers members)

end

theorem depth_obj {members : List (String × Json)} {n : Nat} :
    depth (obj members) ≤ n + 1 ↔ ∀ member, member ∈ members → depth member.2 ≤ n := by
  show depthMembers members + 1 ≤ n + 1 ↔ _
  rw [Nat.add_le_add_iff_right]
  induction members with
  | nil => simp [depthMembers]
  | cons member members ih =>
    obtain ⟨name, value⟩ := member
    rw [depthMembers, Nat.max_le, ih, List.forall_mem_cons]

end Edm.Library.Json

namespace Edm

open Library

def CJSON_NESTING_LIMIT : Nat := 1000

/-- The library on trees with any numbers.  It prints a number with at most 17 digits: `reread` is a
tree with its numbers as they are read back. -/
structure TreeCJson extends CJson where
  reread : Json → Json
  reread_obj : ∀ members,
    reread (.obj members) = .obj (members.map fun member => (member.1, reread member.2))
  reread_reread : ∀ j, reread (reread j) = reread j
  depth_reread : ∀ j, (reread j).depth = j.depth
  parse_print_tree : ∀ j, j.depth ≤ CJSON_NESTING_LIMIT → parse (print j) = some (reread j)
  parse_empty_object : parse "{}" = some (.obj [])

/-- Texts as the library lays them out, for numbers that it prints as they are. -/
def TreeCJson.standard : TreeCJson where
  toCJson := .standard
  reread j := j
  reread_obj members := by simp
  reread_reread _ := rfl
  depth_reread _ := rfl
  parse_print_tree j _ := Json.parse_print true j
  parse_empty_object := rfl

/-! ### Items in memory -/

inductive CJsonType where
  | object
  | array
  | leaf (value : Json)

/-- An item of the library, which keeps its children whatever its type.  An item of an array has no
name, unless it was added under one. -/
structure CJsonNode (α : Type) where
  type : CJsonType
  children : List (Option String × α)

namespace CJsonNode

variable {α : Type}

def ofJson : Json → CJsonNode Json
  | .obj members => ⟨.object, members.map fun member => (some member.1, member.2)⟩
  | .arr items => ⟨.array, items.map fun item => (none, item)⟩
  | j => ⟨.leaf j, []⟩

/-- What is printed of an item. -/
def toJson (childJson : α → Json) (node : CJsonNode α) : Json :=
  match node.type with
  | .object => .obj (node.children.map fun child => (child.1.getD "", childJson child.2))
  | .array => .arr (node.children.map fun child => childJson child.2)
  | .leaf value => value

/-- A tree with its children and theirs. -/
def root (j : Json) : CJsonNode (CJsonNode Json) :=
  { ofJson j with children := (ofJson j).children.map fun child => (child.1, ofJson child.2) }

def rootJson (node : CJsonNode (CJsonNode Json)) : Json := node.toJson (toJson id)

def hasName (name : String) (child : Option String × α) : Bool :=
  child.1.any fun other => Json.sameName other name

def getObjectItem (node : CJsonNode α) (name : String) : Option α :=
  (node.children.find? (hasName name)).map Prod.snd

def deleteItemFromObject (node : CJsonNode α) (name : String) : CJsonNode α :=
  { node with children := node.children.eraseP (hasName name) }

def addItemToObject (node : CJsonNode α) (name : String) (item : α) : CJsonNode α :=
  { node with children := node.children ++ [(some name, item)] }

/-- Changes the first of some children. -/
def modifyFirst (p : Option String × α → Bool) (f : α → α) :
    List (Option String × α) → List (Option String × α)
  | [] => []
  | child :: children =>
    if p child then (child.1, f child.2) :: children else child :: modifyFirst p f children

/-- Changes the item that `cJSON_GetObjectItem` finds. -/
def modifyItem (node : CJsonNode α) (name : String) (f : α → α) : CJsonNode α :=
  { node with children := modifyFirst (hasName name) f node.children }

/-- Changes the first child. -/
def modifyChild (node : CJsonNode α) (f : α → α) : CJsonNode α :=
  { node with children := modifyFirst (fun _ => true) f node.children }

/-! ### Objects -/

/-- An object with named children. -/
def ofMembers (members : List (String × α)) : CJsonNode α :=
  ⟨.object, members.map fun member => (some member.1, member.2)⟩

section Members

variable {name : String} {members before after : List (String × α)} {member : String × α}

theorem ofJson_obj (members : List (String × Json)) : ofJson (.obj members) = ofMembers members :=
  rfl

theorem toJson_ofMembers (childJson : α → Json) (members : List (String × α)) :
    (ofMembers members).toJson childJson =
      .obj (members.map fun member => (member.1, childJson member.2)) := by
  show Json.obj (List.map _ (members.map _)) = _
  rw [List.map_map]
  rfl

theorem addItemToObject_ofMembers (members : List (String × α)) (name : String) (item : α) :
    (ofMembers members).addItemToObject name item = ofMembers (members ++ [(name, item)]) := by
  simp [addItemToObject, ofMembers]

theorem deleteItemFromObject_ofMembers (members : List (String × α)) (name : String) :
    (ofMembers members).deleteItemFromObject name =
      ofMembers (members.eraseP fun member => Json.sameName member.1 name) := by
  show CJsonNode.mk _ (List.eraseP _ (members.map _)) = _
  rw [List.eraseP_map]
  rfl

theorem getObjectItem_absent (h : ∀ member, member ∈ members →
    Json.nameKey member.1 ≠ Json.nameKey name) : (ofMembers members).getObjectItem name = none := by
  show Option.map _ (List.find? _ (members.map _)) = _
  rw [Option.map_eq_none_iff, List.find?_eq_none]
  intro child hchild hname
  obtain ⟨member, hmember, rfl⟩ := List.mem_map.mp hchild
  exact h member hmember (Json.sameName_iff.mp hname)

theorem getObjectItem_isSome : ((ofMembers members).getObjectItem name).isSome = true ↔
    ∃ member, member ∈ members ∧ Json.nameKey member.1 = Json.nameKey name := by
  show (Option.map _ (List.find? _ (members.map _))).isSome = true ↔ _
  rw [Option.isSome_map, List.find?_isSome]
  constructor
  · rintro ⟨child, hchild, hname⟩
    obtain ⟨member, hmember, rfl⟩ := List.mem_map.mp hchild
    exact ⟨member, hmember, Json.sameName_iff.mp hname⟩
  · rintro ⟨member, hmember, hkey⟩
    exact ⟨_, List.mem_map_of_mem hmember, Json.sameName_iff.mpr hkey⟩

theorem deleteItemFromObject_absent (h : ∀ member, member ∈ members →
    Json.nameKey member.1 ≠ Json.nameKey name) :
    (ofMembers members).deleteItemFromObject name = ofMembers members := by
  rw [deleteItemFromObject_ofMembers, List.eraseP_of_forall_not fun member hmember hname =>
    h member hmember (Json.sameName_iff.mp hname)]

theorem modifyFirst_append {p : Option String × α → Bool} (f : α → α)
    (children children' : List (Option String × α)) {child : Option String × α}
    (hbefore : ∀ c, c ∈ children → p c = false) (hchild : p child = true) :
    modifyFirst p f (children ++ child :: children') =
      children ++ (child.1, f child.2) :: children' := by
  induction children with
  | nil => exact if_pos hchild
  | cons first children ih =>
    obtain ⟨hfirst, hbefore⟩ := List.forall_mem_cons.mp hbefore
    rw [List.cons_append, modifyFirst, hfirst, if_neg Bool.false_ne_true, ih hbefore]
    rfl

variable (hbefore : ∀ m, m ∈ before → Json.nameKey m.1 ≠ Json.nameKey name)
  (hmember : Json.nameKey member.1 = Json.nameKey name)
include hbefore hmember

theorem getObjectItem_ofMembers :
    (ofMembers (before ++ member :: after)).getObjectItem name = some member.2 := by
  have hnone : (before.map fun m => (some m.1, m.2)).find? (hasName name) = none := by
    rw [List.find?_eq_none]
    intro child hchild hname
    obtain ⟨m, hm, rfl⟩ := List.mem_map.mp hchild
    exact hbefore m hm (Json.sameName_iff.mp hname)
  have hself : hasName name (some member.1, member.2) = true := Json.sameName_iff.mpr hmember
  show Option.map _ (List.find? _ (List.map _ (before ++ member :: after))) = _
  rw [List.map_append, List.map_cons, List.find?_append, hnone, List.find?_cons_of_pos hself]
  rfl

theorem modifyItem_ofMembers (f : α → α) :
    (ofMembers (before ++ member :: after)).modifyItem name f =
      ofMembers (before ++ (member.1, f member.2) :: after) := by
  have hnone : ∀ child, child ∈ before.map (fun m => (some m.1, m.2)) →
      hasName name child = false := by
    intro child hchild
    obtain ⟨m, hm, rfl⟩ := List.mem_map.mp hchild
    exact Bool.eq_false_iff.mpr fun hname => hbefore m hm (Json.sameName_iff.mp hname)
  have hself : hasName name (some member.1, member.2) = true := Json.sameName_iff.mpr hmember
  have hfirst := modifyFirst_append f _ (after.map fun m => (some m.1, m.2)) hnone hself
  show CJsonNode.mk _ (modifyFirst _ f (List.map _ (before ++ member :: after))) = _
  rw [List.map_append, List.map_cons, hfirst]
  simp [ofMembers]

end Members

theorem modifyChild_ofMembers (member : String × α) (members : List (String × α)) (f : α → α) :
    (ofMembers (member :: members)).modifyChild f =
      ofMembers ((member.1, f member.2) :: members) := rfl

end CJsonNode

end Edm
