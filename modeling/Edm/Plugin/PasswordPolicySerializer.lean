import Edm.Library.LastSet
import Edm.Plugin.JsonObject
import Edm.Plugin.Template

/-! `PasswordSerializer`, and `PasswordPolicyUtils`, which keeps the merged policy in a file. -/

set_option autoImplicit false

namespace Edm

open Library

namespace PasswordAlgs

def NONE : Int32 := -1
def SCRYPT_HKDF_AES : Int32 := 0
def SCRYPT_HKDF_SM4 : Int32 := 1

end PasswordAlgs

@[ext]
structure PasswordPolicy where
  complexityReg : String
  validityPeriod : Int64
  additionalDescription : String
  passwordAlgs : Int32
  deriving DecidableEq

/-- `PasswordPolicy()`. -/
def PasswordPolicy.initial : PasswordPolicy := ⟨"", 0, "", PasswordAlgs.NONE⟩

namespace PasswordSerializer

def COMPLEXITY_REG : String := "complexityReg"
def VALIDITY_PERIOD : String := "validityPeriod"
def ADDITIONAL_DESCRIPTION : String := "additionalDescription"
def PASSWORD_ALGS : String := "pinAlgoType"

variable (C : LongCJson)

def deserialize (jsonString : String) : Option PasswordPolicy :=
  if jsonString = "" then some .initial
  else
    match C.parse jsonString with
    | none => none
    | some root =>
      match root.getObjectItem COMPLEXITY_REG, root.getObjectItem VALIDITY_PERIOD,
        root.getObjectItem ADDITIONAL_DESCRIPTION with
      | some (.str complexityReg), some (.number validityPeriod),
        some (.str additionalDescription) =>
        some ⟨complexityReg, C.getLong validityPeriod, additionalDescription,
          match root.getObjectItem PASSWORD_ALGS with
          | some (.number passwordAlgs) => C.getNumberValue passwordAlgs
          | _ => PasswordAlgs.NONE⟩
      | _, _, _ => none

/-- The members that `Serialize` and `UpdatePasswordPolicy` add to an object. -/
def addMembers (root : Json) (policy : PasswordPolicy) : Json :=
  let root := root.addItemToObject COMPLEXITY_REG (.str policy.complexityReg)
  let root := root.addItemToObject VALIDITY_PERIOD (.number (C.createLong policy.validityPeriod))
  let root := root.addItemToObject ADDITIONAL_DESCRIPTION (.str policy.additionalDescription)
  if policy.passwordAlgs ≠ PasswordAlgs.NONE then
    root.addItemToObject PASSWORD_ALGS (.number (C.createInt policy.passwordAlgs))
  else root

def serialize (policy : PasswordPolicy) : String := C.print (addMembers C (.obj []) policy)

def mergePolicy (data : List PasswordPolicy) (result : PasswordPolicy) : PasswordPolicy :=
  data.foldl (fun (result policy : PasswordPolicy) =>
    { complexityReg :=
        if policy.complexityReg = "" then result.complexityReg else policy.complexityReg
      validityPeriod :=
        if policy.validityPeriod = 0 then result.validityPeriod else policy.validityPeriod
      additionalDescription :=
        if policy.additionalDescription = "" then result.additionalDescription
        else policy.additionalDescription
      passwordAlgs :=
        if policy.passwordAlgs = PasswordAlgs.NONE then result.passwordAlgs
        else policy.passwordAlgs }) result

def serializer : PolicySerializer PasswordPolicy where
  initial := .initial
  serialize policy := some (serialize C policy)
  deserialize := deserialize C
  mergePolicy data := some (mergePolicy data .initial)

/-- What is read of a policy that was written: a number of more than 15 digits may be another. -/
def read (policy : PasswordPolicy) : PasswordPolicy :=
  { policy with validityPeriod := C.getLong (C.createLong policy.validityPeriod) }

end PasswordSerializer

namespace PasswordPolicyUtils

open PasswordSerializer

variable (C : LongCJson)

/-- The tree of a file, which is empty while there is none. -/
def load (file : String) : Option Json := if file = "" then none else C.parse file

/-- `UpdatePasswordPolicy`, on the text that `SaveConfig` writes. -/
def updatePasswordPolicy (file : String) (policy : PasswordPolicy) : String :=
  let root := (load C file).getD (.obj [])
  let root := root.deleteItemFromObject COMPLEXITY_REG
  let root := root.deleteItemFromObject VALIDITY_PERIOD
  let root := root.deleteItemFromObject ADDITIONAL_DESCRIPTION
  let root := root.deleteItemFromObject PASSWORD_ALGS
  C.print (addMembers C root policy)

/-- `GetPasswordPolicy` on a default-constructed policy. -/
def getPasswordPolicy (file : String) : Option PasswordPolicy :=
  if file = "" then some .initial
  else
    (C.parse file).map fun root =>
      { complexityReg :=
          match root.getObjectItem COMPLEXITY_REG with
          | some (.str complexityReg) => complexityReg
          | _ => ""
        validityPeriod :=
          match root.getObjectItem VALIDITY_PERIOD with
          | some (.number validityPeriod) => C.getLong validityPeriod
          | _ => 0
        additionalDescription :=
          match root.getObjectItem ADDITIONAL_DESCRIPTION with
          | some (.str additionalDescription) => additionalDescription
          | _ => ""
        passwordAlgs :=
          match root.getObjectItem PASSWORD_ALGS with
          | some (.number passwordAlgs) => C.getNumberValue passwordAlgs
          | _ => PasswordAlgs.NONE }

end PasswordPolicyUtils

namespace PasswordSerializer

variable {C : LongCJson}

section Written

variable (policy : PasswordPolicy)

/-- The members of a written policy. -/
def members (C : LongCJson) (policy : PasswordPolicy) : List (String × Json) :=
  [(COMPLEXITY_REG, .str policy.complexityReg),
    (VALIDITY_PERIOD, .number (C.createLong policy.validityPeriod)),
    (ADDITIONAL_DESCRIPTION, .str policy.additionalDescription)] ++
    if policy.passwordAlgs ≠ PasswordAlgs.NONE then
      [(PASSWORD_ALGS, .number (C.createInt policy.passwordAlgs))]
    else []

theorem addMembers_obj : addMembers C (.obj []) policy = .obj (members C policy) := by
  rw [addMembers, members]
  split <;> rfl

theorem parse_serialize : C.parse (serialize C policy) = some (.obj (members C policy)) := by
  rw [serialize, addMembers_obj]
  refine C.parse_print_longs _ (Json.numbersIn_obj.mpr fun member hmember => ?_)
  rw [members] at hmember
  split at hmember
  · simp only [List.cons_append, List.nil_append, List.mem_cons, List.not_mem_nil,
      or_false] at hmember
    rcases hmember with rfl | rfl | rfl | rfl
    · trivial
    · exact .inr ⟨_, rfl⟩
    · trivial
    · exact .inl ⟨_, rfl⟩
  · simp only [List.append_nil, List.mem_cons, List.not_mem_nil, or_false] at hmember
    rcases hmember with rfl | rfl | rfl
    · trivial
    · exact .inr ⟨_, rfl⟩
    · trivial

theorem serialize_ne_empty : serialize C policy ≠ "" := by
  intro hempty
  have hparse := parse_serialize (C := C) policy
  rw [hempty, C.parse_empty] at hparse
  cases hparse

theorem names_members :
    ((members C policy).map Prod.fst).Pairwise fun name other =>
      Json.sameName name other = false := by
  rw [members]
  split
  · simp only [List.cons_append, List.nil_append, List.map_cons, List.map_nil]
    decide
  · simp only [List.append_nil, List.map_cons, List.map_nil]
    decide

theorem getObjectItem_complexityReg :
    (Json.obj (members C policy)).getObjectItem COMPLEXITY_REG =
      some (.str policy.complexityReg) :=
  Json.getObjectItem_of_mem (names_members policy) (.head _)

theorem getObjectItem_validityPeriod :
    (Json.obj (members C policy)).getObjectItem VALIDITY_PERIOD =
      some (.number (C.createLong policy.validityPeriod)) :=
  Json.getObjectItem_of_mem (names_members policy) (.tail _ (.head _))

theorem getObjectItem_additionalDescription :
    (Json.obj (members C policy)).getObjectItem ADDITIONAL_DESCRIPTION =
      some (.str policy.additionalDescription) :=
  Json.getObjectItem_of_mem (names_members policy) (.tail _ (.tail _ (.head _)))

theorem read_passwordAlgs :
    (match (Json.obj (members C policy)).getObjectItem PASSWORD_ALGS with
      | some (.number passwordAlgs) => C.getNumberValue passwordAlgs
      | _ => PasswordAlgs.NONE) = policy.passwordAlgs := by
  by_cases hnone : policy.passwordAlgs = PasswordAlgs.NONE
  · have habsent : (Json.obj (members C policy)).getObjectItem PASSWORD_ALGS = none := by
      rw [members, if_neg (not_not.mpr hnone), List.append_nil]
      refine Json.getObjectItem_absent ?_
      simp only [List.map_cons, List.map_nil]
      decide
    rw [habsent, hnone]
  · have hpresent : (Json.obj (members C policy)).getObjectItem PASSWORD_ALGS =
        some (.number (C.createInt policy.passwordAlgs)) := by
      refine Json.getObjectItem_of_mem (names_members policy) ?_
      rw [members, if_pos hnone]
      exact .tail _ (.tail _ (.tail _ (.head _)))
    rw [hpresent]
    exact C.getNumberValue_createInt policy.passwordAlgs

/-- A written policy is read back, up to its period. -/
theorem deserialize_serialize : deserialize C (serialize C policy) = some (read C policy) := by
  rw [deserialize, if_neg (serialize_ne_empty policy), parse_serialize]
  dsimp only
  rw [getObjectItem_complexityReg, getObjectItem_validityPeriod,
    getObjectItem_additionalDescription]
  dsimp only
  rw [read_passwordAlgs]
  rfl

theorem getPasswordPolicy_serialize :
    PasswordPolicyUtils.getPasswordPolicy C (serialize C policy) = some (read C policy) := by
  rw [PasswordPolicyUtils.getPasswordPolicy, if_neg (serialize_ne_empty policy), parse_serialize,
    Option.map_some]
  rw [read_passwordAlgs, getObjectItem_complexityReg, getObjectItem_validityPeriod,
    getObjectItem_additionalDescription]
  rfl

/-- The file holds the policy alone, as `Serialize` writes it. -/
theorem updatePasswordPolicy_empty :
    PasswordPolicyUtils.updatePasswordPolicy C "" policy = serialize C policy := by
  rw [PasswordPolicyUtils.updatePasswordPolicy, PasswordPolicyUtils.load, if_pos rfl]
  rfl

theorem updatePasswordPolicy_serialize (previous : PasswordPolicy) :
    PasswordPolicyUtils.updatePasswordPolicy C (serialize C previous) policy =
      serialize C policy := by
  rw [PasswordPolicyUtils.updatePasswordPolicy, PasswordPolicyUtils.load,
    if_neg (serialize_ne_empty previous), parse_serialize, Option.getD_some, members]
  rw [List.cons_append, List.cons_append, List.cons_append, List.nil_append,
    Json.deleteItemFromObject_self (by decide), Json.deleteItemFromObject_self (by decide),
    Json.deleteItemFromObject_self (by decide)]
  split
  · rw [Json.deleteItemFromObject_self (by decide)]
    rfl
  · rfl

end Written

/-! ### Merges, field by field -/

section Merge

variable (data : List PasswordPolicy) (result : PasswordPolicy)

theorem mergePolicy_complexityReg : (mergePolicy data result).complexityReg =
    lastSet "" (data.map PasswordPolicy.complexityReg) result.complexityReg := by
  induction data generalizing result with
  | nil => rfl
  | cons policy data ih => exact ih _

theorem mergePolicy_validityPeriod : (mergePolicy data result).validityPeriod =
    lastSet 0 (data.map PasswordPolicy.validityPeriod) result.validityPeriod := by
  induction data generalizing result with
  | nil => rfl
  | cons policy data ih => exact ih _

theorem mergePolicy_additionalDescription : (mergePolicy data result).additionalDescription =
    lastSet "" (data.map PasswordPolicy.additionalDescription) result.additionalDescription := by
  induction data generalizing result with
  | nil => rfl
  | cons policy data ih => exact ih _

theorem mergePolicy_passwordAlgs : (mergePolicy data result).passwordAlgs =
    lastSet PasswordAlgs.NONE (data.map PasswordPolicy.passwordAlgs) result.passwordAlgs := by
  induction data generalizing result with
  | nil => rfl
  | cons policy data ih => exact ih _

end Merge

end PasswordSerializer

end Edm
