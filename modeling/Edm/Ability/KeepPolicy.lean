import Edm.Ability.ServiceRun
import Edm.Plugin.AllOrNothing
import Edm.Plugin.ArrayStringSerializer

/-! What a replacement that keeps the policies does to the lists of apps that may not be
uninstalled.  It replaces the name of the old admin in the texts of the lists, at the first place
where it occurs: that is right if the first name that contains it is the name itself. -/

set_option autoImplicit false

namespace Edm

open Library Library.UnorderedMap

/-- A text that a JSON string holds as it is. -/
def Plain (text : String) : Prop := ∀ c, c ∈ text.toList → c ≠ '"' ∧ c ≠ '\\' ∧ 32 ≤ c.toNat

instance (text : String) : Decidable (Plain text) :=
  List.decidableBAll (fun c => c ≠ '"' ∧ c ≠ '\\' ∧ 32 ≤ c.toNat) text.toList

/-- Letters, digits, dots and underscores. -/
def PackageName (text : String) : Prop :=
  text ≠ "" ∧ ∀ c, c ∈ text.toList → c.isAlphanum = true ∨ c = '.' ∨ c = '_'

theorem PackageName.plain {text : String} (h : PackageName text) : Plain text := by
  intro c hc
  have hcode : c.toNat = c.val.toNat := rfl
  rcases h.2 c hc with hletter | rfl | rfl
  · refine ⟨?_, ?_, ?_⟩
    · rintro rfl
      exact absurd hletter (by decide)
    · rintro rfl
      exact absurd hletter (by decide)
    · have hletter : (decide ('A'.val ≤ c.val ∧ c.val ≤ 'Z'.val) ||
          decide ('a'.val ≤ c.val) && decide (c.val ≤ 'z'.val) ||
          decide ('0'.val ≤ c.val) && decide (c.val ≤ '9'.val)) = true := hletter
      simp only [Bool.or_eq_true, Bool.and_eq_true, decide_eq_true_eq,
        UInt32.le_iff_toNat_le] at hletter
      have hupper : 'A'.val.toNat = 65 := rfl
      have hlower : 'a'.val.toNat = 97 := rfl
      have hdigit : '0'.val.toNat = 48 := rfl
      omega
  · decide
  · decide

/-- The items of a list, quoted and separated by commas, and the bracket behind. -/
def quotedItems : List String → List Char
  | [] => [']']
  | name :: names =>
    '"' :: (name.toList ++ '"' :: ((if names.isEmpty then [] else [',']) ++ quotedItems names))

/-- The library prints an array of plain texts in the usual way. -/
def CJson.PrintsPlain (C : CJson) : Prop :=
  ∀ names : List String, (∀ name, name ∈ names → Plain name) →
    C.printUnformatted (.arr (names.map Json.str)) = String.ofList ('[' :: quotedItems names)

theorem printChar_plain {c : Char} (h : c ≠ '"' ∧ c ≠ '\\' ∧ 32 ≤ c.toNat) :
    Json.printChar c = [c] := by
  obtain ⟨hquote, hescape, hprinted⟩ := h
  have hcontrol : ∀ d : Char, d.toNat < 32 → c ≠ d := by
    rintro d hd rfl
    omega
  rw [Json.printChar, if_neg hquote, if_neg hescape, if_neg (hcontrol '\n' (by decide)),
    if_neg (hcontrol '\r' (by decide)), if_neg (hcontrol '\t' (by decide)), if_neg (by omega)]

theorem CJson.printsPlain_standard : CJson.standard.PrintsPlain := by
  intro names hplain
  have hname : ∀ cs : List Char, (∀ c, c ∈ cs → c ≠ '"' ∧ c ≠ '\\' ∧ 32 ≤ c.toNat) →
      cs.flatMap Json.printChar = cs := by
    intro cs hcs
    induction cs with
    | nil => rfl
    | cons c cs ih =>
      rw [List.flatMap_cons, printChar_plain (hcs c List.mem_cons_self),
        ih fun other hother => hcs other (List.mem_cons_of_mem c hother)]
      rfl
  have hitems : Json.printItems false 0 (names.map Json.str) = quotedItems names := by
    induction names with
    | nil => rfl
    | cons name names ih =>
      have htext := hname name.toList (hplain name List.mem_cons_self)
      have hrest := ih fun other hother => hplain other (List.mem_cons_of_mem name hother)
      rw [List.map_cons, Json.printItems, hrest, quotedItems, List.isEmpty_map, Json.printAt,
        Json.printString, htext]
      simp
  show String.ofList ('[' :: Json.printItems false 0 (names.map Json.str)) = _
  rw [hitems]

namespace EnterpriseDeviceMgrAbility

/-! ### Replacing in a text -/

section Text

variable {old new : List Char}

/-- A character that the old text lacks ends what it can begin. -/
theorem prefix_append_cons {u v : List Char} {c : Char} (hc : c ∉ old) :
    old <+: u ++ c :: v ↔ old <+: u := by
  induction u generalizing old with
  | nil =>
    cases old with
    | nil => exact iff_of_true List.nil_prefix List.nil_prefix
    | cons d ds =>
      refine iff_of_false (fun h => hc ?_) (by simp)
      rw [List.nil_append, List.cons_prefix_cons] at h
      rw [h.1]
      exact List.mem_cons_self
  | cons d u ih =>
    cases old with
    | nil => exact iff_of_true List.nil_prefix List.nil_prefix
    | cons e es =>
      rw [List.cons_append, List.cons_prefix_cons, List.cons_prefix_cons,
        ih fun h => hc (List.mem_cons_of_mem e h)]

theorem replaceFirst_cons (c : Char) (cs : List Char) :
    replaceFirst old new (c :: cs) =
      if old <+: c :: cs then some (new ++ (c :: cs).drop old.length)
      else (replaceFirst old new cs).map (c :: ·) := by
  rw [replaceFirst]
  simp only [List.isPrefixOf_iff_prefix]

theorem replaceFirst_eq_none (hold : old ≠ []) {text : List Char} :
    replaceFirst old new text = none ↔ ¬old <:+: text := by
  induction text with
  | nil =>
    rw [replaceFirst, if_neg hold]
    exact iff_of_true rfl fun h => hold (List.infix_nil.mp h)
  | cons c cs ih =>
    rw [replaceFirst_cons, List.infix_cons_iff]
    split
    · rename_i hstart
      exact iff_of_false (by simp) fun h => h (.inl hstart)
    · rename_i hstart
      rw [Option.map_eq_none_iff, ih, or_iff_right hstart]

/-- The old text is cut out of its place. -/
theorem replaceFirst_eq_some {text result : List Char}
    (h : replaceFirst old new text = some result) :
    ∃ before after, text = before ++ old ++ after ∧ result = before ++ new ++ after := by
  induction text generalizing result with
  | nil =>
    rw [replaceFirst] at h
    split at h
    · rename_i hold
      cases h
      exact ⟨[], [], by simp [hold], by simp⟩
    · cases h
  | cons c cs ih =>
    rw [replaceFirst_cons] at h
    split at h
    · rename_i hstart
      obtain ⟨after, hafter⟩ := hstart
      refine ⟨[], after, hafter.symm, ?_⟩
      rw [← hafter, List.drop_left] at h
      exact (Option.some.inj h).symm
    · obtain ⟨rest, hrest, rfl⟩ := Option.map_eq_some_iff.mp h
      obtain ⟨before, after, rfl, rfl⟩ := ih hrest
      exact ⟨c :: before, after, rfl, rfl⟩

theorem replaceFirst_skip {v : List Char} {c : Char} (hold : old ≠ []) (hc : c ∉ old) :
    replaceFirst old new (c :: v) = (replaceFirst old new v).map (c :: ·) := by
  have hstart : ¬old <+: c :: v := fun h =>
    hold (List.prefix_nil.mp ((prefix_append_cons (u := []) hc).mp h))
  rw [replaceFirst_cons, if_neg hstart]

/-- In a text with a character that the old text lacks, what comes before it is searched first. -/
theorem replaceFirst_append {u v : List Char} {c : Char} (hold : old ≠ []) (hc : c ∉ old) :
    replaceFirst old new (u ++ c :: v) =
      ((replaceFirst old new u).map (· ++ c :: v)).or
        ((replaceFirst old new v).map (u ++ c :: ·)) := by
  induction u with
  | nil =>
    rw [List.nil_append, replaceFirst_skip hold hc, replaceFirst, if_neg hold]
    rfl
  | cons d u ih =>
    rw [List.cons_append, replaceFirst_cons, replaceFirst_cons, ih]
    have hstart : old <+: d :: (u ++ c :: v) ↔ old <+: d :: u :=
      prefix_append_cons (u := d :: u) hc
    by_cases hfound : old <+: d :: u
    · obtain ⟨after, hafter⟩ := hfound
      have hdrop : (d :: (u ++ c :: v)).drop old.length = after ++ c :: v := by
        rw [← List.cons_append, ← hafter, List.append_assoc, List.drop_left]
      rw [if_pos (hstart.mpr ⟨after, hafter⟩), if_pos ⟨after, hafter⟩, hdrop, ← hafter,
        List.drop_left]
      simp
    · rw [if_neg fun h => hfound (hstart.mp h), if_neg hfound]
      cases replaceFirst old new u with
      | some result => simp
      | none => cases replaceFirst old new v <;> simp

end Text

/-! ### Replacing in a list -/

/-- What the replacement makes of the names of a list. -/
def replaceItem (adminName newAdminName : String) : List String → Option (List String)
  | [] => none
  | name :: names =>
    match replaceName adminName newAdminName name with
    | some replaced => some (replaced :: names)
    | none => (replaceItem adminName newAdminName names).map (name :: ·)

/-- The old admin under its new name. -/
def renamed (adminName newAdminName name : String) : String :=
  if name = adminName then newAdminName else name

/-- Whether a name contains the name of the admin. -/
def Mentions (adminName name : String) : Prop := adminName.toList <:+: name.toList

instance (adminName name : String) : Decidable (Mentions adminName name) :=
  inferInstanceAs (Decidable (_ <:+: _))

/-- The first name that contains the name of the admin is the admin, which the list has once. -/
def FirstIsWhole (adminName : String) (names : List String) : Prop :=
  names.find? (fun name => decide (Mentions adminName name)) = some adminName ∧
    names.count adminName = 1

instance (adminName : String) (names : List String) : Decidable (FirstIsWhole adminName names) :=
  inferInstanceAs (Decidable (_ ∧ _))

section List

variable {a n : String} {names : List String}

theorem toList_ne_nil (ha : a ≠ "") : a.toList ≠ [] := fun h => ha (String.toList_eq_nil_iff.mp h)

theorem replaceName_eq_none (ha : a ≠ "") {name : String} :
    replaceName a n name = none ↔ ¬Mentions a name := by
  rw [replaceName, Option.map_eq_none_iff, replaceFirst_eq_none (toList_ne_nil ha), Mentions]

/-- A name is replaced as a whole, or something else comes out unless nothing changes. -/
theorem replaceName_eq_renamed {name replaced : String} (hne : n ≠ a)
    (h : replaceName a n name = some replaced) :
    replaced = renamed a n name ↔ name = a := by
  obtain ⟨result, hresult, rfl⟩ := Option.map_eq_some_iff.mp h
  obtain ⟨before, after, htext, rfl⟩ := replaceFirst_eq_some hresult
  constructor
  · intro hrenamed
    by_contra hname
    rw [renamed, if_neg hname] at hrenamed
    have hsame : before ++ n.toList ++ after = before ++ a.toList ++ after := by
      rw [← htext, ← hrenamed, String.toList_ofList]
    rw [List.append_assoc, List.append_assoc] at hsame
    exact hne (String.toList_inj.mp (List.append_cancel_right (List.append_cancel_left hsame)))
  · rintro rfl
    have hlength := congrArg List.length htext
    rw [List.length_append, List.length_append] at hlength
    have hbefore : before = [] := List.length_eq_zero_iff.mp (by omega)
    have hafter : after = [] := List.length_eq_zero_iff.mp (by omega)
    rw [renamed, if_pos rfl, hbefore, hafter, List.nil_append, List.append_nil,
      String.ofList_toList]

theorem replaceItem_eq_none (ha : a ≠ "") :
    replaceItem a n names = none ↔ ∀ name, name ∈ names → ¬Mentions a name := by
  induction names with
  | nil => exact iff_of_true rfl nofun
  | cons name names ih =>
    rw [replaceItem, List.forall_mem_cons, ← replaceName_eq_none (n := n) ha]
    cases replaceName a n name with
    | some replaced => exact iff_of_false nofun fun h => nomatch h.1
    | none =>
      dsimp only
      rw [Option.map_eq_none_iff, ih]
      exact (and_iff_right rfl).symm

/-- The first name that contains the name of the admin is the one that changes. -/
theorem replaceItem_eq_some (ha : a ≠ "") {result : List String}
    (h : replaceItem a n names = some result) :
    ∃ before name replaced after, names = before ++ name :: after ∧
      result = before ++ replaced :: after ∧ (∀ other, other ∈ before → ¬Mentions a other) ∧
      replaceName a n name = some replaced := by
  induction names generalizing result with
  | nil => cases h
  | cons name names ih =>
    rw [replaceItem] at h
    cases hname : replaceName a n name with
    | some replaced =>
      rw [hname] at h
      cases h
      exact ⟨[], name, replaced, names, rfl, rfl, nofun, hname⟩
    | none =>
      rw [hname] at h
      obtain ⟨rest, hrest, rfl⟩ := Option.map_eq_some_iff.mp h
      obtain ⟨before, first, replaced, after, rfl, rfl, hbefore, hreplaced⟩ := ih hrest
      refine ⟨name :: before, first, replaced, after, rfl, rfl, ?_, hreplaced⟩
      exact List.forall_mem_cons.mpr ⟨(replaceName_eq_none ha).mp hname, hbefore⟩

theorem map_renamed_self : names.map (renamed a a) = names := by
  have hsame : ∀ name : String, renamed a a name = name := by
    intro name
    unfold renamed
    split
    · rename_i hname
      exact hname.symm
    · rfl
  rw [List.map_congr_left fun name _ => hsame name, List.map_id']

theorem map_renamed_eq_self (hne : n ≠ a) : names.map (renamed a n) = names ↔ a ∉ names := by
  induction names with
  | nil => exact iff_of_true rfl List.not_mem_nil
  | cons name names ih =>
    rw [List.map_cons, List.cons.injEq, ih, List.mem_cons, not_or, renamed]
    refine and_congr_left fun _ => ?_
    split
    · rename_i hname
      exact iff_of_false (fun h => hne (h.trans hname)) fun h => h hname.symm
    · rename_i hname
      exact iff_of_true rfl fun h => hname h.symm

/-- The replacement of a text in a text is the replacement of a name in a list. -/
theorem replaceItem_eq_renamed (ha : a ≠ "") {result : List String}
    (h : replaceItem a n names = some result) :
    result = names.map (renamed a n) ↔ n = a ∨ FirstIsWhole a names := by
  obtain ⟨before, name, replaced, after, rfl, rfl, hbefore, hreplaced⟩ := replaceItem_eq_some ha h
  have hmentions : Mentions a name := by
    by_contra hnone
    rw [(replaceName_eq_none ha).mpr hnone] at hreplaced
    cases hreplaced
  have hself : Mentions a a := List.infix_refl _
  have habsent : a ∉ before := fun hmem => hbefore a hmem hself
  have hfirst : (before ++ name :: after).find? (fun name => decide (Mentions a name)) =
      some name := by
    rw [List.find?_append, List.find?_eq_none.mpr fun other hother => by
      simpa using hbefore other hother]
    simp [hmentions]
  by_cases hne : n = a
  · subst hne
    refine iff_of_true ?_ (.inl rfl)
    rw [map_renamed_self]
    obtain ⟨text, htext, rfl⟩ := Option.map_eq_some_iff.mp hreplaced
    obtain ⟨left, right, hname, rfl⟩ := replaceFirst_eq_some htext
    rw [← hname, String.ofList_toList]
  · rw [or_iff_right hne, FirstIsWhole, hfirst, Option.some.injEq, List.map_append, List.map_cons,
      (map_renamed_eq_self hne).mpr habsent, List.append_cancel_left_eq, List.cons.injEq,
      replaceName_eq_renamed hne hreplaced]
    refine and_congr_right fun hname => ?_
    subst hname
    rw [eq_comm, map_renamed_eq_self hne, List.count_append, List.count_eq_zero.mpr habsent,
      List.count_cons_self, Nat.zero_add, Nat.add_eq_right, List.count_eq_zero]

/-! ### Replacing in the text of a list -/

/-- No character of the name separates or ends the items of an array. -/
def Unbroken (adminName : String) : Prop :=
  adminName ≠ "" ∧ ∀ c, c ∈ ['"', ',', '[', ']'] → c ∉ adminName.toList

theorem unbroken_of_packageName (h : PackageName a) : Unbroken a := by
  refine ⟨h.1, fun c hc hmem => ?_⟩
  have hletter := h.2 c hmem
  simp only [List.mem_cons, List.not_mem_nil, or_false] at hc
  rcases hc with rfl | rfl | rfl | rfl
  all_goals exact absurd hletter (by decide)

theorem replaceFirst_quotedItems (ha : Unbroken a) :
    replaceFirst a.toList n.toList (quotedItems names) =
      (replaceItem a n names).map quotedItems := by
  have hold := toList_ne_nil ha.1
  induction names with
  | nil =>
    rw [quotedItems, replaceFirst_skip hold (ha.2 ']' (by decide)), replaceFirst, if_neg hold]
    rfl
  | cons name names ih =>
    have hrest : replaceFirst a.toList n.toList
        ((if names.isEmpty then [] else [',']) ++ quotedItems names) =
        (replaceItem a n names).map fun rest =>
          (if names.isEmpty then [] else [',']) ++ quotedItems rest := by
      split
      · rw [List.nil_append, ih]
        rfl
      · rw [List.singleton_append, replaceFirst_skip hold (ha.2 ',' (by decide)), ih,
          Option.map_map]
        rfl
    rw [quotedItems, replaceFirst_skip hold (ha.2 '"' (by decide)),
      replaceFirst_append hold (ha.2 '"' (by decide)), hrest, replaceItem, replaceName]
    cases replaceFirst a.toList n.toList name.toList with
    | some text => simp [quotedItems]
    | none =>
      cases hitems : replaceItem a n names with
      | none => rfl
      | some rest =>
        have hempty : rest.isEmpty = names.isEmpty := by
          obtain ⟨before, first, replaced, after, rfl, rfl, -, -⟩ := replaceItem_eq_some ha.1 hitems
          cases before <;> rfl
        simp [quotedItems, hempty]

variable {C : CJson}

theorem plain_replaceItem (hn : Plain n) {result : List String} (ha : a ≠ "")
    (hplain : ∀ name, name ∈ names → Plain name) (h : replaceItem a n names = some result) :
    ∀ name, name ∈ result → Plain name := by
  obtain ⟨before, name, replaced, after, rfl, rfl, -, hreplaced⟩ := replaceItem_eq_some ha h
  obtain ⟨text, htext, rfl⟩ := Option.map_eq_some_iff.mp hreplaced
  obtain ⟨left, right, hname, rfl⟩ := replaceFirst_eq_some htext
  have hwhole := hplain name (List.mem_append_right before List.mem_cons_self)
  intro other hother
  rcases List.mem_append.mp hother with hmem | hmem
  · exact hplain other (List.mem_append_left _ hmem)
  rcases List.mem_cons.mp hmem with rfl | hmem
  · intro c hc
    have hparts : c ∈ left ++ n.toList ++ right := by rwa [String.toList_ofList] at hc
    rw [List.mem_append, List.mem_append] at hparts
    rcases hparts with (hmem | hmem) | hmem
    · exact hwhole c (hname ▸ List.mem_append_left _ (List.mem_append_left _ hmem))
    · exact hn c hmem
    · exact hwhole c (hname ▸ List.mem_append_right _ hmem)
  · exact hplain other (List.mem_append_right before (List.mem_cons_of_mem _ hmem))

theorem replaceName_serialize (hprint : C.PrintsPlain) (ha : Unbroken a) (hn : Plain n)
    (hplain : ∀ name, name ∈ names → Plain name) :
    replaceName a n (ArrayStringSerializer.serialize C names) =
      (replaceItem a n names).map (ArrayStringSerializer.serialize C) := by
  have hold := toList_ne_nil ha.1
  by_cases hnames : names = []
  · subst hnames
    show (replaceFirst a.toList n.toList []).map String.ofList = none
    rw [replaceFirst, if_neg hold]
    rfl
  · rw [ArrayStringSerializer.serialize, if_neg hnames, hprint names hplain, replaceName,
      String.toList_ofList, replaceFirst_skip hold (ha.2 '[' (by decide)),
      replaceFirst_quotedItems ha]
    cases hitems : replaceItem a n names with
    | none => rfl
    | some rest =>
      have hrest : rest ≠ [] := by
        obtain ⟨before, first, replaced, after, -, rfl, -, -⟩ := replaceItem_eq_some ha.1 hitems
        simp
      simp only [Option.map_some]
      rw [ArrayStringSerializer.serialize, if_neg hrest,
        hprint rest (plain_replaceItem hn ha.1 hplain hitems)]

end List

/-! ### The call -/

/-- Every statement takes effect, and the bundle manager answers. -/
def KeepOutcomes.done : KeepOutcomes where
  replaceAdmin := .done
  parents := none
  replacePolicies := .done
  revertAdmin := .done
  revertParents := none
  delDisallowUninstallApp := true
  addDisallowUninstallApp := true
  uninstallPolicy := ⟨.done, .done⟩

section Call

variable {Modules Req Reply Event : Type} (build : Build Modules Req Reply Event)
  (s : Service Modules) (edmAdminInfo oldAdminInfo : AdminInfo) (a n : String) (L M : List String)

/-- The list of an admin, and the combined list, for the empty name. -/
def uninstallList (s : Service Modules) (adminName : String) : Option (List String) :=
  ArrayStringSerializer.deserialize build.cjson
    ((s.device.policies.manager DEFAULT_USER_ID).policyValue adminName
      PolicyName.POLICY_DISALLOWED_UNINSTALL_BUNDLES)

/-- The call succeeds, and both lists have the new admin for the old one. -/
structure RenamesAdmin (result : ErrCode × Service Modules) : Prop where
  code : result.1 = ERR_OK
  admin : uninstallList build result.2 n = some (L.map (renamed a n))
  combined : uninstallList build result.2 "" = some (M.map (renamed a n))

/-- Where the admin's list has a name that contains the admin's, so has the combined one, and in
both the first such name is the admin.  Else the combined list does not have the admin.  What is
stored for the new admin is replaced only by what is stored for the old one. -/
structure Renameable : Prop where
  lists :
    if ∃ name, name ∈ L ∧ Mentions a name then
      (∃ name, name ∈ M ∧ Mentions a name) ∧ (n = a ∨ FirstIsWhole a L ∧ FirstIsWhole a M)
    else n = a ∨ a ∉ M
  moved : L = [] →
    (s.device.policies.manager DEFAULT_USER_ID).adminPolicies.lookup a = none →
    uninstallList build s n = some []

/-- The service once the names in both tables are replaced. -/
def replacedNames : Service Modules :=
  (s.setAdmins (AdminManager.replaceSuperAdminByPackageName build.cjson s.device.admins .done none a
    edmAdminInfo).2).setUserStore DEFAULT_USER_ID
    ((s.device.policies.user DEFAULT_USER_ID).replacePolicyByAdminName .done DEFAULT_USER_ID a n).2

theorem replaceSuperAdmin_done_ok {C : CJson} {admins : AdminState} :
    (AdminManager.replaceSuperAdminByPackageName C admins .done none a edmAdminInfo).1 =
      ERR_OK := by
  simp [AdminManager.replaceSuperAdminByPackageName]

variable {build s a n L M}

theorem handleKeepPolicy_done (hprint : build.cjson.PrintsPlain) (ha : Unbroken a) (hn : Plain n)
    (hne : n ≠ "") (hplain : ∀ name, name ∈ L ++ M → Plain name)
    (hL : (s.device.policies.manager DEFAULT_USER_ID).policyValue a
      PolicyName.POLICY_DISALLOWED_UNINSTALL_BUNDLES =
        ArrayStringSerializer.serialize build.cjson L)
    (hM : (s.device.policies.manager DEFAULT_USER_ID).policyValue ""
      PolicyName.POLICY_DISALLOWED_UNINSTALL_BUNDLES =
        ArrayStringSerializer.serialize build.cjson M) :
    handleKeepPolicy build s KeepOutcomes.done a n edmAdminInfo oldAdminInfo =
      match replaceItem a n L, replaceItem a n M with
      | none, _ => (ERR_OK, replacedNames build s edmAdminInfo a n)
      | some _, none =>
        (EdmReturnErrCode.SYSTEM_ABNORMALLY, replacedNames build s edmAdminInfo a n)
      | some L', some M' =>
        (ERR_OK, (replacedNames build s edmAdminInfo a n).setUserStore DEFAULT_USER_ID
          (((replacedNames build s edmAdminInfo a n).device.policies.user
            DEFAULT_USER_ID).setPolicy ⟨.done, .done⟩ n
              PolicyName.POLICY_DISALLOWED_UNINSTALL_BUNDLES
              (ArrayStringSerializer.serialize build.cjson L')
              (ArrayStringSerializer.serialize build.cjson M')).2) := by
  have hreplace : (AdminManager.replaceSuperAdminByPackageName build.cjson s.device.admins .done
      none a edmAdminInfo).1 = ERR_OK := replaceSuperAdmin_done_ok edmAdminInfo a
  have hpolicies : ((s.device.policies.user DEFAULT_USER_ID).replacePolicyByAdminName .done
      DEFAULT_USER_ID a n).1 = ERR_OK := rfl
  have hsame : ∀ admins, (s.setAdmins admins).device.policies = s.device.policies := fun _ => rfl
  have hok : failed ERR_OK = false := by decide
  have hnameL := replaceName_serialize hprint ha hn fun name hname =>
    hplain name (List.mem_append_left M hname)
  have hnameM := replaceName_serialize hprint ha hn fun name hname =>
    hplain name (List.mem_append_right L hname)
  have hset := fun (store : UserStore) (v merged : String) =>
    (UserStore.setPolicy_ok store ⟨.done, .done⟩ n PolicyName.POLICY_DISALLOWED_UNINSTALL_BUNDLES
      v merged).mpr ⟨by decide, by rw [if_neg hne]⟩
  rw [handleKeepPolicy]
  simp only [KeepOutcomes.done, hreplace, hsame, hpolicies, hL, hM, hok, hnameL, hnameM,
    Bool.false_eq_true, if_false, Bool.not_true, Bool.or_self]
  cases hitems : replaceItem a n L with
  | none =>
    simp only [Option.map_none]
    split <;> rfl
  | some L' =>
    have hstored : ArrayStringSerializer.serialize build.cjson L ≠ "" := by
      rw [ne_eq, ArrayStringSerializer.serialize_eq_empty]
      rintro rfl
      cases hitems
    rw [if_neg hstored]
    cases replaceItem a n M with
    | none => rfl
    | some M' =>
      simp only [Option.map_some, hset, hok, Bool.false_eq_true, if_false]
      rfl

theorem uninstallList_replaced (ha : a ≠ "") (hne : n ≠ "") :
    uninstallList build (replacedNames build s edmAdminInfo a n) n =
      uninstallList build s (if (s.device.policies.manager DEFAULT_USER_ID).adminPolicies.lookup a =
        none then n else a) := by
  rw [uninstallList, uninstallList, UserPolicyManager.policyValue_admin _ hne]
  show ArrayStringSerializer.deserialize _ ((lookup₂ ((replacedNames build s edmAdminInfo a
    n).device.policies.manager DEFAULT_USER_ID).adminPolicies n _).getD "") = _
  have hmanager : (replacedNames build s edmAdminInfo a n).device.policies.manager DEFAULT_USER_ID =
      ((s.device.policies.user DEFAULT_USER_ID).replacePolicyByAdminName .done DEFAULT_USER_ID a
        n).2.manager := Stores.setUser_manager_self _ _ _
  rw [hmanager]
  split
  · rename_i hnone
    rw [UserStore.replace_adminPolicies_absent _ _ a n hnone,
      UserPolicyManager.policyValue_admin _ hne]
    rfl
  · rename_i hsome
    rw [UserStore.replace_adminPolicies _ _ a n hsome, if_pos rfl,
      UserPolicyManager.policyValue_admin _ ha]
    rfl

theorem uninstallList_replaced_combined :
    uninstallList build (replacedNames build s edmAdminInfo a n) "" = uninstallList build s "" := by
  have hmanager : (replacedNames build s edmAdminInfo a n).device.policies.manager DEFAULT_USER_ID =
      ((s.device.policies.user DEFAULT_USER_ID).replacePolicyByAdminName .done DEFAULT_USER_ID a
        n).2.manager := Stores.setUser_manager_self _ _ _
  rw [uninstallList, uninstallList, hmanager, UserPolicyManager.policyValue_combined,
    UserPolicyManager.policyValue_combined]
  rfl

/-- The lists after a call that rewrites them. -/
theorem uninstallList_set (build : Build Modules Req Reply Event) (s : Service Modules)
    (hne : n ≠ "") (L' M' : List String) :
    let result := s.setUserStore DEFAULT_USER_ID ((s.device.policies.user
      DEFAULT_USER_ID).setPolicy ⟨.done, .done⟩ n PolicyName.POLICY_DISALLOWED_UNINSTALL_BUNDLES
        (ArrayStringSerializer.serialize build.cjson L')
        (ArrayStringSerializer.serialize build.cjson M')).2
    uninstallList build result n = some L' ∧ uninstallList build result "" = some M' := by
  intro result
  have hmanager : result.device.policies.manager DEFAULT_USER_ID = ((s.device.policies.user
      DEFAULT_USER_ID).setPolicy ⟨.done, .done⟩ n PolicyName.POLICY_DISALLOWED_UNINSTALL_BUNDLES
        (ArrayStringSerializer.serialize build.cjson L')
        (ArrayStringSerializer.serialize build.cjson M')).2.manager :=
    Stores.setUser_manager_self _ _ _
  rw [uninstallList, uninstallList, hmanager, setPolicy_value_self _ _ _ _ hne (by decide),
    setPolicy_value_combined _ _ _ _ hne (by decide), if_pos rfl, if_pos rfl,
    ArrayStringSerializer.deserialize_serialize, ArrayStringSerializer.deserialize_serialize]
  exact ⟨rfl, rfl⟩

/-- For every pair of stored lists, and every two package names. -/
theorem handleKeepPolicy_renames_iff (hprint : build.cjson.PrintsPlain) (ha : PackageName a)
    (hn : PackageName n) (hplain : ∀ name, name ∈ L ++ M → Plain name)
    (hL : (s.device.policies.manager DEFAULT_USER_ID).policyValue a
      PolicyName.POLICY_DISALLOWED_UNINSTALL_BUNDLES =
        ArrayStringSerializer.serialize build.cjson L)
    (hM : (s.device.policies.manager DEFAULT_USER_ID).policyValue ""
      PolicyName.POLICY_DISALLOWED_UNINSTALL_BUNDLES =
        ArrayStringSerializer.serialize build.cjson M) :
    RenamesAdmin build a n L M
        (handleKeepPolicy build s KeepOutcomes.done a n edmAdminInfo oldAdminInfo) ↔
      Renameable build s a n L M := by
  have hreadL : uninstallList build s a = some L := by
    rw [uninstallList, hL, ArrayStringSerializer.deserialize_serialize]
  have hreadM : uninstallList build s "" = some M := by
    rw [uninstallList, hM, ArrayStringSerializer.deserialize_serialize]
  have habsent : ∀ {names : List String}, (∀ name, name ∈ names → ¬Mentions a name) →
      a ∉ names := fun hnone hmem => hnone a hmem (List.infix_refl _)
  have hmentioned : ∀ {names : List String}, (∃ name, name ∈ names ∧ Mentions a name) ↔
      replaceItem a n names ≠ none := by
    intro names
    rw [ne_eq, replaceItem_eq_none ha.1]
    simp only [not_forall, not_not, exists_prop]
  have hkept : ∀ {names : List String}, names = names.map (renamed a n) ↔ n = a ∨ a ∉ names := by
    intro names
    by_cases hna : n = a
    · subst hna
      exact iff_of_true map_renamed_self.symm (.inl rfl)
    · rw [or_iff_right hna, eq_comm, map_renamed_eq_self hna]
  rw [handleKeepPolicy_done edmAdminInfo oldAdminInfo hprint (unbroken_of_packageName ha) hn.plain
    hn.1 hplain hL hM]
  cases hitems : replaceItem a n L with
  | none =>
    have hnone := (replaceItem_eq_none ha.1).mp hitems
    have hcombined : uninstallList build (replacedNames build s edmAdminInfo a n) "" =
        some (M.map (renamed a n)) ↔ n = a ∨ a ∉ M := by
      rw [uninstallList_replaced_combined, hreadM, Option.some.injEq, hkept]
    have hadmin : uninstallList build (replacedNames build s edmAdminInfo a n) n =
        some (L.map (renamed a n)) ↔ (L = [] →
          (s.device.policies.manager DEFAULT_USER_ID).adminPolicies.lookup a = none →
          uninstallList build s n = some []) := by
      rw [uninstallList_replaced edmAdminInfo ha.1 hn.1, ← hkept.mpr (.inr (habsent hnone))]
      split
      · rename_i hlookup
        have hvalue : ArrayStringSerializer.serialize build.cjson L = "" := by
          rw [← hL, UserPolicyManager.policyValue_admin _ ha.1, lookup₂_none hlookup]
          rfl
        obtain rfl := ArrayStringSerializer.serialize_eq_empty.mp hvalue
        exact ⟨fun h _ _ => h, fun h => h rfl hlookup⟩
      · rename_i hlookup
        exact iff_of_true hreadL fun _ hnone => absurd hnone hlookup
    constructor
    · intro h
      refine ⟨?_, hadmin.mp h.admin⟩
      rw [if_neg fun hmention => hmentioned.mp hmention hitems]
      exact hcombined.mp h.combined
    · intro h
      have hlists := h.lists
      rw [if_neg fun hmention => hmentioned.mp hmention hitems] at hlists
      exact ⟨rfl, hadmin.mpr h.moved, hcombined.mpr hlists⟩
  | some L' =>
    have hmention : ∃ name, name ∈ L ∧ Mentions a name :=
      hmentioned.mpr (by rw [hitems]; exact Option.some_ne_none L')
    have hstored : L ≠ [] := by
      rintro rfl
      cases hitems
    cases hother : replaceItem a n M with
    | none =>
      refine iff_of_false (fun h => ?_) fun h => ?_
      · exact absurd h.code (by decide : EdmReturnErrCode.SYSTEM_ABNORMALLY ≠ ERR_OK)
      · have hlists := h.lists
        rw [if_pos hmention] at hlists
        exact hmentioned.mp hlists.1 hother
    | some M' =>
      have hmentionM : ∃ name, name ∈ M ∧ Mentions a name :=
        hmentioned.mpr (by rw [hother]; exact Option.some_ne_none M')
      obtain ⟨hsetL, hsetM⟩ := uninstallList_set build
        (replacedNames build s edmAdminInfo a n) hn.1 L' M'
      have hadmin : L' = L.map (renamed a n) ↔ n = a ∨ FirstIsWhole a L :=
        replaceItem_eq_renamed ha.1 hitems
      have hcombined : M' = M.map (renamed a n) ↔ n = a ∨ FirstIsWhole a M :=
        replaceItem_eq_renamed ha.1 hother
      constructor
      · intro h
        refine ⟨?_, fun hempty => absurd hempty hstored⟩
        rw [if_pos hmention, or_and_left]
        exact ⟨hmentionM, hadmin.mp (Option.some.inj (hsetL.symm.trans h.admin)),
          hcombined.mp (Option.some.inj (hsetM.symm.trans h.combined))⟩
      · intro h
        have hlists := h.lists
        rw [if_pos hmention, or_and_left] at hlists
        exact ⟨rfl, hsetL.trans (congrArg some (hadmin.mpr hlists.2.1)),
          hsetM.trans (congrArg some (hcombined.mpr hlists.2.2))⟩

end Call

/-- A device whose super admin may not be uninstalled, nor the apps of a list. -/
def protecting (names : List String) : Service Unit :=
  (Service.boot ()).setUserStore DEFAULT_USER_ID (((Service.boot ()).device.policies.user
    DEFAULT_USER_ID).setPolicy ⟨.done, .done⟩ "com.edm"
      PolicyName.POLICY_DISALLOWED_UNINSTALL_BUNDLES
      (ArrayStringSerializer.serialize CJson.standard names)
      (ArrayStringSerializer.serialize CJson.standard names)).2

theorem packageName_of_all {text : String} (hne : text ≠ "")
    (hall : text.toList.all (fun c => c.isAlphanum || c == '.' || c == '_') = true) :
    PackageName text := by
  refine ⟨hne, fun c hc => ?_⟩
  have hc := List.all_eq_true.mp hall c hc
  simpa only [Bool.or_eq_true, beq_iff_eq, or_assoc] using hc

theorem packageName_edm : PackageName "com.edm" := packageName_of_all (by decide) (by decide)

theorem packageName_next : PackageName "com.next" := packageName_of_all (by decide) (by decide)

theorem handleKeepPolicy_renames :
    RenamesAdmin Build.bare "com.edm" "com.next" ["com.a", "com.edm"] ["com.a", "com.edm"]
      (handleKeepPolicy Build.bare (protecting ["com.a", "com.edm"]) KeepOutcomes.done "com.edm"
        "com.next" {} {}) :=
  (handleKeepPolicy_renames_iff {} {} CJson.printsPlain_standard packageName_edm packageName_next
    (by decide) (by decide +kernel) (by decide +kernel)).mpr ⟨by decide, nofun⟩

/-- The name of the super admin begins another name, which comes first. -/
theorem handleKeepPolicy_renames_other :
    ¬∀ (s : Service Unit) (a n : String) (L M : List String), PackageName a → PackageName n →
      (s.device.policies.manager DEFAULT_USER_ID).policyValue a
        PolicyName.POLICY_DISALLOWED_UNINSTALL_BUNDLES =
          ArrayStringSerializer.serialize CJson.standard L →
      (s.device.policies.manager DEFAULT_USER_ID).policyValue ""
        PolicyName.POLICY_DISALLOWED_UNINSTALL_BUNDLES =
          ArrayStringSerializer.serialize CJson.standard M →
      RenamesAdmin Build.bare a n L M
        (handleKeepPolicy Build.bare s KeepOutcomes.done a n {} {}) := by
  intro h
  have hrenamed := (h (protecting ["com.edm.tool", "com.edm"]) "com.edm" "com.next"
    ["com.edm.tool", "com.edm"] ["com.edm.tool", "com.edm"] packageName_edm packageName_next
    (by decide +kernel) (by decide +kernel)).admin
  revert hrenamed
  decide +kernel

end EnterpriseDeviceMgrAbility

end Edm
