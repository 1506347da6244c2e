import Edm.Plugin.ArrayIntSerializer
import Edm.Plugin.CJson
import Edm.Plugin.Values

/-! `ArraySerializer`: arrays of what another serializer writes.  Reading is bounded, writing is
not. -/

set_option autoImplicit false

namespace Edm

open Library

namespace ArraySerializer

variable {DT : Type} (C : CJson) (inner : PolicySerializer DT)

def deserialize (jsonString : String) : Option (List DT) :=
  if jsonString = "" then some []
  else
    match C.parse jsonString with
    | some (.arr items) =>
      if items.length > EdmConstants.DEFAULT_LOOP_MAX_SIZE then none
      else items.mapM fun item => inner.deserialize (C.printUnformatted item)
    | _ => none

/-- An item is written as a string, whatever its text is. -/
def serialize (dataObj : List DT) : Option String :=
  if dataObj = [] then some ""
  else (dataObj.mapM inner.serialize).map fun texts => C.print (.arr (texts.map .str))

variable [LinearOrder DT]

def mergePolicy (data : List (List DT)) : List DT := stdSet data.flatten

def serializer : PolicySerializer (List DT) where
  initial := []
  serialize := serialize C inner
  deserialize := deserialize C inner
  mergePolicy data := some (mergePolicy data)

end ArraySerializer

/-- Items that are their own texts. -/
def textSerializer : PolicySerializer String where
  initial := ""
  serialize := some
  deserialize := some
  mergePolicy _ := none

namespace ArraySerializer

variable {C : CJson}

theorem numberFree_texts (texts : List String) : (Json.arr (texts.map .str)).NumberFree := by
  refine Json.numberFreeItems_iff.mpr fun item hitem => ?_
  obtain ⟨text, -, rfl⟩ := List.mem_map.mp hitem
  exact trivial

theorem serialize_texts (texts : List String) : serialize C textSerializer texts =
    some (if texts = [] then "" else C.print (.arr (texts.map .str))) := by
  unfold serialize
  have htexts : texts.mapM textSerializer.serialize = some texts := by
    refine (mapM_some fun _ _ => rfl).trans ?_
    rw [List.map_id']
  rw [htexts]
  split <;> rfl

/-- What is written beyond the bound is not read. -/
theorem deserialize_long {texts : List String}
    (h : EdmConstants.DEFAULT_LOOP_MAX_SIZE < texts.length) (inner : PolicySerializer String) :
    deserialize C inner (C.print (.arr (texts.map .str))) = none := by
  unfold deserialize
  rw [if_neg (C.print_ne_empty (numberFree_texts texts)),
    C.parse_print _ (numberFree_texts texts)]
  exact if_pos (by rw [List.length_map]; exact h)

end ArraySerializer

end Edm
