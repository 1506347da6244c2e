import Mathlib.Data.List.Basic
import Mathlib.Data.UInt

/-! Texts as lists of bytes: the segments between delimiters, bytes written as two hex digits, and
characters taken one by one from a stream that skips white space. -/

set_option autoImplicit false

namespace Edm.Library

universe u

/-- The bytes of a text of ASCII characters. -/
def ascii (text : String) : List UInt8 := text.toList.map Char.toUInt8

/-! ### Segments -/

section Segments

variable {α : Type u} [DecidableEq α] (delim : α)

/-- The segments that `std::getline` reads one after the other.  A delimiter at the end of the text
opens no segment. -/
def segments : List α → List (List α)
  | [] => []
  | c :: text =>
    if c = delim then [] :: segments text
    else
      match segments text with
      | [] => [[c]]
      | segment :: rest => (c :: segment) :: rest

variable {delim}

theorem segments_eq_nil {text : List α} : segments delim text = [] ↔ text = [] := by
  cases text with
  | nil => exact ⟨fun _ => rfl, fun _ => rfl⟩
  | cons c text =>
    rw [segments]
    split
    · exact ⟨nofun, nofun⟩
    · split <;> exact ⟨nofun, nofun⟩

theorem mem_of_mem_segments {text segment : List α} (hsegment : segment ∈ segments delim text)
    {c : α} (hc : c ∈ segment) : c ∈ text := by
  induction text generalizing segment with
  | nil => exact absurd hsegment List.not_mem_nil
  | cons d text ih =>
    rw [segments] at hsegment
    split at hsegment
    · rcases List.mem_cons.mp hsegment with rfl | hin
      · exact absurd hc List.not_mem_nil
      · exact List.mem_cons_of_mem d (ih hin hc)
    · split at hsegment
      · rw [List.mem_singleton.mp hsegment] at hc
        rw [List.mem_singleton.mp hc]
        exact List.mem_cons_self
      · rename_i first rest hrest
        rcases List.mem_cons.mp hsegment with rfl | hin
        · rcases List.mem_cons.mp hc with rfl | hfirst
          · exact List.mem_cons_self
          · exact List.mem_cons_of_mem d (ih (hrest ▸ List.mem_cons_self) hfirst)
        · exact List.mem_cons_of_mem d (ih (hrest ▸ List.mem_cons_of_mem first hin) hc)

theorem length_le_of_mem_segments {text segment : List α}
    (hsegment : segment ∈ segments delim text) : segment.length ≤ text.length := by
  induction text generalizing segment with
  | nil => exact absurd hsegment List.not_mem_nil
  | cons d text ih =>
    rw [segments] at hsegment
    split at hsegment
    · rcases List.mem_cons.mp hsegment with rfl | hin
      · exact Nat.zero_le _
      · exact Nat.le_succ_of_le (ih hin)
    · split at hsegment
      · rw [List.mem_singleton.mp hsegment]
        exact Nat.succ_le_succ (Nat.zero_le _)
      · rename_i first rest hrest
        rcases List.mem_cons.mp hsegment with rfl | hin
        · exact Nat.succ_le_succ (ih (hrest ▸ List.mem_cons_self))
        · exact Nat.le_succ_of_le (ih (hrest ▸ List.mem_cons_of_mem first hin))

/-- The segments put together again are the text without the delimiter at its end. -/
theorem intercalate_segments (text : List α) :
    [delim].intercalate (segments delim text) =
      if text.getLast? = some delim then text.dropLast else text := by
  induction text with
  | nil => rfl
  | cons c text ih =>
    rw [segments]
    split
    · rename_i hc
      cases text with
      | nil => simp [hc, segments]
      | cons d text =>
        have hne : segments delim (d :: text) ≠ [] := mt segments_eq_nil.mp nofun
        rw [List.intercalate_cons_of_ne_nil hne, ih, hc]
        simp only [List.getLast?_cons_cons, List.dropLast_cons_cons]
        split <;> rfl
    · rename_i hc
      cases hrest : segments delim text with
      | nil =>
        rw [segments_eq_nil.mp hrest]
        simp [hc]
      | cons first rest =>
        rw [List.intercalate_cons_cons_left, ← hrest, ih]
        cases text with
        | nil => exact absurd hrest nofun
        | cons d text =>
          simp only [List.getLast?_cons_cons, List.dropLast_cons_cons]
          split <;> rfl

theorem intercalate_segments_eq {text : List α} :
    [delim].intercalate (segments delim text) = text ↔ text.getLast? ≠ some delim := by
  rw [intercalate_segments]
  split
  · rename_i hlast
    refine ⟨fun h => ?_, absurd hlast⟩
    have hlength := congrArg List.length h
    have hne : text ≠ [] := by
      rintro rfl
      exact nomatch hlast
    have := List.length_pos_of_ne_nil hne
    rw [List.length_dropLast] at hlength
    omega
  · rename_i hlast
    exact ⟨fun _ => hlast, fun _ => rfl⟩

variable (delim) in
/-- The second text is the first one with a delimiter that ends its last segment. -/
def ClosedBy (text closed : List α) : Prop :=
  text ≠ [] ∧ text.getLast? ≠ some delim ∧ closed = text ++ [delim]

theorem segments_closed {text : List α} (hne : text ≠ []) (hlast : text.getLast? ≠ some delim) :
    segments delim (text ++ [delim]) = segments delim text := by
  induction text with
  | nil => exact absurd rfl hne
  | cons c text ih =>
    cases text with
    | nil =>
      have hc : c ≠ delim := fun h => hlast (h ▸ rfl)
      simp [segments, hc]
    | cons d text =>
      rw [List.getLast?_cons_cons] at hlast
      have hrest := ih (List.cons_ne_nil d text) hlast
      rw [List.cons_append, segments, hrest]
      rfl

/-- Only a delimiter at the end of a text is lost with the text's segments. -/
theorem segments_eq_iff {text text' : List α} :
    segments delim text = segments delim text' ↔
      text = text' ∨ ClosedBy delim text text' ∨ ClosedBy delim text' text := by
  constructor
  · intro h
    have hjoined := congrArg [delim].intercalate h
    rw [intercalate_segments, intercalate_segments] at hjoined
    have hnil : text = [] ↔ text' = [] := by rw [← segments_eq_nil, h, segments_eq_nil]
    split at hjoined
    · rename_i hlast
      have htext := List.dropLast_append_getLast? delim hlast
      split at hjoined
      · rename_i hlast'
        exact .inl (by rw [← htext, hjoined, List.dropLast_append_getLast? delim hlast'])
      · rename_i hlast'
        refine .inr (.inr ⟨fun h' => ?_, hlast', by rw [← hjoined, htext]⟩)
        rw [hnil.mpr h'] at hlast
        exact nomatch hlast
    · rename_i hlast
      split at hjoined
      · rename_i hlast'
        refine .inr (.inl ⟨fun h' => ?_, hlast, ?_⟩)
        · rw [hnil.mp h'] at hlast'
          exact nomatch hlast'
        · rw [hjoined, List.dropLast_append_getLast? delim hlast']
      · exact .inl hjoined
  · rintro (rfl | ⟨hne, hlast, rfl⟩ | ⟨hne, hlast, rfl⟩)
    · rfl
    · exact (segments_closed hne hlast).symm
    · exact segments_closed hne hlast

omit [DecidableEq α] in
theorem not_closedBy_self (text : List α) : ¬ ClosedBy delim text text := by
  rintro ⟨_, _, h⟩
  have := congrArg List.length h
  rw [List.length_append, List.length_singleton] at this
  omega

end Segments

/-! ### Search -/

/-- What stands after the first occurrence of a pattern. -/
def afterFirst {α : Type u} [BEq α] (pattern : List α) : List α → Option (List α)
  | [] => if pattern.isEmpty then some [] else none
  | c :: text =>
    if pattern.isPrefixOf (c :: text) then some ((c :: text).drop pattern.length)
    else afterFirst pattern text

/-! ### Hex digits -/

/-- The lower case hex digit of a number below sixteen. -/
def hexDigit (n : Nat) : UInt8 := (Nat.digitChar n).toUInt8

/-- A byte as two hex digits. -/
def hexPair (byte : UInt8) : List UInt8 := [hexDigit (byte.toNat / 16), hexDigit (byte.toNat % 16)]

/-- Bytes as hex digits. -/
def hexText (bytes : List UInt8) : List UInt8 := bytes.flatMap hexPair

theorem hexText_cons (byte : UInt8) (bytes : List UInt8) :
    hexText (byte :: bytes) =
      hexDigit (byte.toNat / 16) :: hexDigit (byte.toNat % 16) :: hexText bytes := rfl

theorem length_hexText (bytes : List UInt8) : (hexText bytes).length = 2 * bytes.length := by
  induction bytes with
  | nil => rfl
  | cons byte bytes ih =>
    rw [hexText_cons]
    simp only [List.length_cons, ih]
    omega

theorem forall_mem_hexText {P : UInt8 → Prop} (hdigit : ∀ n, n < 16 → P (hexDigit n))
    {bytes : List UInt8} : ∀ c ∈ hexText bytes, P c := by
  induction bytes with
  | nil => exact fun c hc => absurd hc List.not_mem_nil
  | cons byte bytes ih =>
    have hbyte : byte.toNat < 256 := byte.toNat_lt
    intro c hc
    rw [hexText_cons] at hc
    rcases List.mem_cons.mp hc with rfl | hc
    · exact hdigit _ (by omega)
    · rcases List.mem_cons.mp hc with rfl | hc
      · exact hdigit _ (by omega)
      · exact ih c hc

/-! ### Characters of a stream -/

/-- White space of the classic locale. -/
def isSpace (c : UInt8) : Bool := c == 32 || (9 ≤ c && c ≤ 13)

/-- A `std::istringstream`: what was taken from the text, what is left of it, and whether every
extraction succeeded so far. -/
structure CharStream where
  taken : List UInt8
  rest : List UInt8
  good : Bool
deriving DecidableEq, Repr

def CharStream.ofText (text : List UInt8) : CharStream := ⟨[], text, true⟩

/-- `stream >> c`: the next character that is not white space.  A failed extraction leaves `c` as it
was. -/
def CharStream.extract (stream : CharStream) (c : UInt8) : UInt8 × CharStream :=
  if stream.good then
    let spaces := stream.rest.takeWhile isSpace
    match stream.rest.dropWhile isSpace with
    | [] => (c, ⟨stream.taken ++ spaces, [], false⟩)
    | d :: rest => (d, ⟨stream.taken ++ spaces ++ [d], rest, true⟩)
  else (c, stream)

/-- What was taken and what is left make up the text. -/
def CharStream.Over (text : List UInt8) (stream : CharStream) : Prop :=
  stream.taken ++ stream.rest = text

namespace CharStream

variable {text : List UInt8} {stream : CharStream}

theorem over_ofText (text : List UInt8) : (ofText text).Over text := rfl

theorem over_extract (h : stream.Over text) (c : UInt8) : (stream.extract c).2.Over text := by
  have hsplit := List.takeWhile_append_dropWhile (p := isSpace) (l := stream.rest)
  unfold extract
  split
  · split
    · rename_i hrest
      rw [hrest, List.append_nil] at hsplit
      show stream.taken ++ stream.rest.takeWhile isSpace ++ [] = text
      rw [List.append_nil, hsplit]
      exact h
    · rename_i d rest hrest
      rw [hrest] at hsplit
      show stream.taken ++ stream.rest.takeWhile isSpace ++ [d] ++ rest = text
      rw [List.append_assoc, List.append_assoc, List.singleton_append, hsplit]
      exact h
  · exact h

/-- An extraction that succeeds shortens what is left. -/
theorem extract_shorter {c : UInt8} (hgood : (stream.extract c).2.good = true) :
    (stream.extract c).2.rest.length < stream.rest.length := by
  have hle := (List.dropWhile_suffix (l := stream.rest) isSpace).length_le
  unfold extract at hgood ⊢
  split
  · split
    · rename_i hstream _ hrest
      simp only [hstream, hrest] at hgood
      exact nomatch hgood
    · rename_i d rest hrest
      rw [hrest] at hle
      exact hle
  · rename_i hstream
    simp only [hstream] at hgood
    exact absurd hgood hstream

theorem extract_not_good (hstream : stream.good = false) (c : UInt8) :
    stream.extract c = (c, stream) := by
  rw [extract, hstream]
  rfl

theorem rest_extract_le (c : UInt8) :
    (stream.extract c).2.rest.length ≤ stream.rest.length := by
  by_cases hgood : (stream.extract c).2.good = true
  · exact Nat.le_of_lt (extract_shorter hgood)
  · cases hstream : stream.good with
    | false => rw [extract_not_good hstream]
    | true =>
      unfold extract at hgood ⊢
      rw [if_pos hstream] at hgood ⊢
      split
      · exact Nat.zero_le _
      · rename_i hrest
        simp only [hrest] at hgood
        exact absurd trivial hgood

theorem extract_cons {taken rest : List UInt8} {d : UInt8} (hd : isSpace d = false) (c : UInt8) :
    extract ⟨taken, d :: rest, true⟩ c = (d, ⟨taken ++ [d], rest, true⟩) := by
  simp [extract, hd]

theorem extract_nil (taken : List UInt8) (c : UInt8) :
    extract ⟨taken, [], true⟩ c = (c, ⟨taken, [], false⟩) := by
  simp [extract]

end CharStream

end Edm.Library
