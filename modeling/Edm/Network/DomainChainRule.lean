import Edm.Network.DomainFilterRule

/-! Domain names in iptables rules.  A rule has the labels of the name as a hex string, each with
its length in front, and a listing gives the bytes of that string as hex digits. -/

set_option autoImplicit false

namespace Edm.IPTABLES

open Library

def DOMAIN_DELIM : UInt8 := '.'.toUInt8
def DOUBLE_NUM : Nat := 2
def FOUR_BIT : UInt8 := 4
def HEX_TEM_NUM : UInt8 := 10

/-- The bar that opens and closes the hex digits of a hex string. -/
def BAR : UInt8 := '|'.toUInt8

def QUOTE : UInt8 := 34

/-! ### Encoding -/

/-- `std::hex << n`. -/
def stdHex (n : Nat) : List UInt8 := (Nat.toDigits 16 n).map Char.toUInt8

/-- One label with its length. -/
def formatSegment (item : List UInt8) : List UInt8 :=
  BAR ::
    ((if item.length > 0xf then stdHex item.length else '0'.toUInt8 :: stdHex item.length) ++
      BAR :: item)

def domainToFormatData (domainName : List UInt8) : List UInt8 :=
  (segments DOMAIN_DELIM domainName).flatMap formatSegment ++ [BAR]

/-! ### Decoding -/

def charToHex (hexChar : UInt8) : UInt8 :=
  if hexChar ≥ '0'.toUInt8 ∧ hexChar ≤ '9'.toUInt8 then hexChar - '0'.toUInt8
  else if hexChar ≥ 'a'.toUInt8 ∧ hexChar ≤ 'f'.toUInt8 then hexChar - 'a'.toUInt8 + HEX_TEM_NUM
  else if hexChar ≥ 'A'.toUInt8 ∧ hexChar ≤ 'F'.toUInt8 then hexChar - 'A'.toUInt8 + HEX_TEM_NUM
  else 0

def charsToHex (first second : UInt8) : UInt8 :=
  (charToHex first <<< FOUR_BIT) ||| charToHex second

/-- The variables of the loops in `FormatDataToDomain`. -/
structure PairReader where
  firstChar : UInt8
  secondChar : UInt8
  iss : CharStream
deriving DecidableEq, Repr

/-- `iss >> firstChar >> secondChar`. -/
def PairReader.next (r : PairReader) : PairReader :=
  let first := r.iss.extract r.firstChar
  let second := first.2.extract r.secondChar
  ⟨first.1, second.1, second.2⟩

def PairReader.value (r : PairReader) : UInt8 := charsToHex r.firstChar r.secondChar

/-- The loop over the characters of one label.  It does not look at the state of the stream, and
takes the pair it has once more where an extraction fails. -/
def readSegment : Nat → PairReader → List UInt8 × PairReader
  | 0, r => ([], r)
  | size + 1, r =>
    let rest := readSegment size r.next
    (r.next.value :: rest.1, rest.2)

/-- The loop over the labels, with `none` where the fuel does not last. -/
def readSegments : Nat → PairReader → Option (List (List UInt8) × PairReader)
  | 0, _ => none
  | fuel + 1, r =>
    if r.next.iss.good then
      let segment := readSegment r.next.value.toNat r.next
      (readSegments fuel segment.2).map fun rest => (segment.1 :: rest.1, rest.2)
    else some ([], r.next)

/-- `tempFormatData`, the text without bars and quotes. -/
def tempFormatData (formatData : List UInt8) : List UInt8 :=
  formatData.filter fun c => !(ascii "|\"").contains c

/-- `FormatDataToDomain`: the domain, and the stream that it read when it returns. -/
def readFormatData (formatData : List UInt8) : Option (List UInt8 × CharStream) :=
  let text := tempFormatData formatData
  if text.isEmpty || text.length % DOUBLE_NUM != 0 then some ([], .ofText text)
  else
    -- Both characters are read before they are first used.
    (readSegments (text.length + 1) ⟨0, 0, .ofText text⟩).map fun result =>
      ([DOMAIN_DELIM].intercalate result.1, result.2.iss)

def formatDataToDomain (formatData : List UInt8) : Option (List UInt8) :=
  (readFormatData formatData).map Prod.fst

/-! ### Termination -/

theorem next_over {text : List UInt8} {r : PairReader} (h : r.iss.Over text) :
    r.next.iss.Over text :=
  CharStream.over_extract (CharStream.over_extract h r.firstChar) r.secondChar

theorem next_rest_le (r : PairReader) : r.next.iss.rest.length ≤ r.iss.rest.length :=
  le_trans (CharStream.rest_extract_le r.secondChar) (CharStream.rest_extract_le r.firstChar)

theorem next_shorter {r : PairReader} (hgood : r.next.iss.good = true) :
    r.next.iss.rest.length < r.iss.rest.length :=
  lt_of_lt_of_le (CharStream.extract_shorter hgood) (CharStream.rest_extract_le r.firstChar)

theorem readSegment_over {text : List UInt8} (size : Nat) {r : PairReader} (h : r.iss.Over text) :
    (readSegment size r).2.iss.Over text := by
  induction size generalizing r with
  | zero => exact h
  | succ size ih => exact ih (next_over h)

theorem readSegment_rest_le (size : Nat) (r : PairReader) :
    (readSegment size r).2.iss.rest.length ≤ r.iss.rest.length := by
  induction size generalizing r with
  | zero => exact Nat.le_refl _
  | succ size ih => exact le_trans (ih r.next) (next_rest_le r)

theorem readSegments_good (fuel : Nat) {r : PairReader} (hgood : r.next.iss.good = true) :
    readSegments (fuel + 1) r =
      (readSegments fuel (readSegment r.next.value.toNat r.next).2).map fun rest =>
        ((readSegment r.next.value.toNat r.next).1 :: rest.1, rest.2) := by
  rw [readSegments, if_pos hgood]

theorem readSegments_not_good (fuel : Nat) {r : PairReader} (hgood : r.next.iss.good ≠ true) :
    readSegments (fuel + 1) r = some ([], r.next) := by
  rw [readSegments, if_neg hgood]

/-- Each label takes at least two characters, so the loop ends while there is fuel. -/
theorem readSegments_ends {text : List UInt8} {fuel : Nat} {r : PairReader} (h : r.iss.Over text)
    (hfuel : r.iss.rest.length < fuel) :
    ∃ result, readSegments fuel r = some result ∧ result.2.iss.Over text := by
  induction fuel generalizing r with
  | zero => omega
  | succ fuel ih =>
    by_cases hgood : r.next.iss.good = true
    · have hshorter := next_shorter hgood
      have hrest := readSegment_rest_le r.next.value.toNat r.next
      obtain ⟨result, hresult, hover⟩ := ih (readSegment_over r.next.value.toNat (next_over h))
        (by omega)
      rw [readSegments_good fuel hgood, hresult]
      exact ⟨_, rfl, hover⟩
    · rw [readSegments_not_good fuel hgood]
      exact ⟨_, rfl, next_over h⟩

/-- The function returns for every text, and what it read is the text up to some point. -/
theorem readFormatData_ends (formatData : List UInt8) :
    ∃ domain iss, readFormatData formatData = some (domain, iss) ∧
      iss.taken <+: tempFormatData formatData := by
  rw [readFormatData]
  by_cases hwrong : ((tempFormatData formatData).isEmpty ||
      (tempFormatData formatData).length % DOUBLE_NUM != 0) = true
  · rw [if_pos hwrong]
    exact ⟨_, _, rfl, List.nil_prefix⟩
  · obtain ⟨result, hresult, hover⟩ :=
      readSegments_ends (r := ⟨0, 0, .ofText (tempFormatData formatData)⟩)
        (CharStream.over_ofText _) (Nat.lt_succ_self _)
    rw [if_neg hwrong]
    exact ⟨_, _, congrArg (Option.map _) hresult, _, hover⟩

/-! ### Round trip -/

/-- The bytes that a hex string of iptables stands for: its characters as they are, and between bars
each pair of hex digits as a byte.  The flag tells whether the text starts between bars. -/
inductive HexString : Bool → List UInt8 → List UInt8 → Prop
  | done (hex : Bool) : HexString hex [] []
  | bar {hex : Bool} {text bytes : List UInt8} (h : HexString (!hex) text bytes) :
      HexString hex (BAR :: text) bytes
  | char {c : UInt8} {text bytes : List UInt8} (hc : c ≠ BAR) (h : HexString false text bytes) :
      HexString false (c :: text) (c :: bytes)
  | pair {text bytes : List UInt8} (byte : UInt8) (h : HexString true text bytes) :
      HexString true (hexPair byte ++ text) (byte :: bytes)

/-- The listing of a hex string gives its bytes as hex digits, in bars and quotes. -/
def ListsHex (listing : List UInt8 → List UInt8) : Prop :=
  ∀ text bytes, HexString false text bytes →
    listing text = QUOTE :: BAR :: (hexText bytes ++ [BAR, QUOTE])

/-- The labels of a domain name as they stand in a DNS query. -/
def wire (items : List (List UInt8)) : List UInt8 :=
  items.flatMap fun item => UInt8.ofNat item.length :: item

theorem charToHex_hexDigit : ∀ n, n < 16 → charToHex (hexDigit n) = UInt8.ofNat n := by
  decide

theorem hexDigit_not_space : ∀ n, n < 16 → isSpace (hexDigit n) = false := by
  decide

theorem hexDigit_kept : ∀ n, n < 16 → (!(ascii "|\"").contains (hexDigit n)) = true := by
  decide

theorem charsToHex_hexPair (byte : UInt8) :
    charsToHex (hexDigit (byte.toNat / 16)) (hexDigit (byte.toNat % 16)) = byte := by
  have hbyte : byte.toNat < 256 := byte.toNat_lt
  rw [charsToHex, charToHex_hexDigit _ (by omega), charToHex_hexDigit _ (by omega)]
  have hall : ∀ n : Fin 256, UInt8.ofNat (n.val / 16) <<< FOUR_BIT ||| UInt8.ofNat (n.val % 16) =
      UInt8.ofNat n.val := by decide +kernel
  rw [hall ⟨byte.toNat, hbyte⟩]
  exact UInt8.ofNat_toNat

theorem lengthDigits_eq {n : Nat} (h : n < 256) :
    (if n > 0xf then stdHex n else '0'.toUInt8 :: stdHex n) = hexPair (UInt8.ofNat n) := by
  have hn : (UInt8.ofNat n).toNat = n := UInt8.toNat_ofNat_of_lt' h
  rw [hexPair, hn, stdHex]
  split
  · rw [Nat.toDigits_of_base_le (by decide) (by omega), Nat.toDigits_of_lt_base (by omega)]
    rfl
  · rw [Nat.toDigits_of_lt_base (by omega), Nat.div_eq_of_lt (by omega),
      Nat.mod_eq_of_lt (by omega)]
    rfl

theorem formatSegment_eq {item : List UInt8} (h : item.length < 256) :
    formatSegment item = BAR :: (hexPair (UInt8.ofNat item.length) ++ BAR :: item) := by
  rw [formatSegment, lengthDigits_eq h]

theorem hexString_item {item text bytes : List UInt8} (hbar : BAR ∉ item)
    (h : HexString false text bytes) : HexString false (item ++ text) (item ++ bytes) := by
  induction item with
  | nil => exact h
  | cons c item ih =>
    obtain ⟨hc, hitem⟩ := not_or.mp (mt List.mem_cons.mpr hbar)
    exact .char (Ne.symm hc) (ih hitem)

theorem hexString_items {items : List (List UInt8)}
    (h : ∀ item ∈ items, BAR ∉ item ∧ item.length < 256) :
    HexString false (items.flatMap formatSegment ++ [BAR]) (wire items) := by
  induction items with
  | nil => exact .bar (.done true)
  | cons item items ih =>
    obtain ⟨hitem, hitems⟩ := List.forall_mem_cons.mp h
    have hrest : HexString false (item ++ (items.flatMap formatSegment ++ [BAR]))
        (item ++ wire items) := hexString_item hitem.1 (ih hitems)
    have hlength : HexString true
        (hexPair (UInt8.ofNat item.length) ++
          BAR :: (item ++ (items.flatMap formatSegment ++ [BAR])))
        (UInt8.ofNat item.length :: (item ++ wire items)) := .pair _ (.bar hrest)
    rw [List.flatMap_cons, formatSegment_eq hitem.2]
    simp only [List.cons_append, List.append_assoc]
    exact .bar hlength

theorem tempFormatData_listing (bytes : List UInt8) :
    tempFormatData (QUOTE :: BAR :: (hexText bytes ++ [BAR, QUOTE])) = hexText bytes := by
  have hdigits : (hexText bytes).filter (fun c => !(ascii "|\"").contains c) = hexText bytes :=
    List.filter_eq_self.mpr (forall_mem_hexText hexDigit_kept)
  have hends : [BAR, QUOTE].filter (fun c => !(ascii "|\"").contains c) = [] := by decide
  have hstart : [QUOTE, BAR].filter (fun c => !(ascii "|\"").contains c) = [] := by decide
  show ([QUOTE, BAR] ++ (hexText bytes ++ [BAR, QUOTE])).filter _ = _
  rw [List.filter_append, List.filter_append, hdigits, hends, hstart, List.append_nil]
  rfl

/-- A reader that has the digits of these bytes before it. -/
def PairReader.At (bytes : List UInt8) (r : PairReader) : Prop :=
  r.iss.rest = hexText bytes ∧ r.iss.good = true

theorem PairReader.At.next {byte : UInt8} {bytes : List UInt8} {r : PairReader}
    (h : r.At (byte :: bytes)) : r.next.value = byte ∧ r.next.At bytes := by
  obtain ⟨first, second, taken, rest, good⟩ := r
  obtain ⟨rfl, rfl⟩ := h
  have hbyte : byte.toNat < 256 := byte.toNat_lt
  have hhigh := hexDigit_not_space (byte.toNat / 16) (by omega)
  have hlow := hexDigit_not_space (byte.toNat % 16) (by omega)
  simp only [PairReader.next, hexText_cons, CharStream.extract_cons hhigh,
    CharStream.extract_cons hlow, PairReader.value, charsToHex_hexPair, PairReader.At, and_self]

theorem PairReader.At.not_good {r : PairReader} (h : r.At []) : r.next.iss.good ≠ true := by
  obtain ⟨first, second, taken, rest, good⟩ := r
  obtain ⟨rfl, rfl⟩ := h
  show (CharStream.extract (CharStream.extract ⟨taken, [], true⟩ first).2 second).2.good ≠ true
  rw [CharStream.extract_nil, CharStream.extract_not_good rfl]
  exact Bool.false_ne_true

theorem readSegment_item {item bytes : List UInt8} {r : PairReader} (h : r.At (item ++ bytes)) :
    (readSegment item.length r).1 = item ∧ (readSegment item.length r).2.At bytes := by
  induction item generalizing r with
  | nil => exact ⟨rfl, h⟩
  | cons c item ih =>
    obtain ⟨hvalue, hnext⟩ := h.next
    obtain ⟨hitem, hrest⟩ := ih hnext
    refine ⟨?_, hrest⟩
    show r.next.value :: (readSegment item.length r.next).1 = c :: item
    rw [hvalue, hitem]

theorem readSegments_wire {items : List (List UInt8)} (h : ∀ item ∈ items, item.length < 256)
    {fuel : Nat} (hfuel : items.length < fuel) {r : PairReader} (hr : r.At (wire items)) :
    ∃ last, readSegments fuel r = some (items, last) := by
  induction items generalizing fuel r with
  | nil =>
    obtain _ | fuel := fuel
    · omega
    exact ⟨_, readSegments_not_good fuel hr.not_good⟩
  | cons item items ih =>
    obtain _ | fuel := fuel
    · omega
    obtain ⟨hitem, hitems⟩ := List.forall_mem_cons.mp h
    have hitemAt : r.At (UInt8.ofNat item.length :: (item ++ wire items)) := hr
    obtain ⟨hvalue, hnext⟩ := hitemAt.next
    have hsize : r.next.value.toNat = item.length := by
      rw [hvalue]
      exact UInt8.toNat_ofNat_of_lt' hitem
    obtain ⟨hsegment, hrest⟩ := readSegment_item hnext
    obtain ⟨last, hlast⟩ := ih hitems (Nat.lt_of_succ_lt_succ hfuel) hrest
    rw [readSegments_good fuel hnext.2, hsize, hlast, hsegment]
    exact ⟨last, rfl⟩

theorem length_le_wire (items : List (List UInt8)) : items.length ≤ (wire items).length := by
  induction items with
  | nil => exact Nat.le_refl _
  | cons item items ih =>
    have hlength : (wire (item :: items)).length = item.length + 1 + (wire items).length := by
      show (UInt8.ofNat item.length :: item ++ wire items).length = _
      rw [List.length_append, List.length_cons]
    rw [hlength, List.length_cons]
    omega

/-- The listing of labels is read as these labels. -/
theorem formatDataToDomain_listing {items : List (List UInt8)}
    (h : ∀ item ∈ items, item.length < 256) :
    formatDataToDomain (QUOTE :: BAR :: (hexText (wire items) ++ [BAR, QUOTE])) =
      some ([DOMAIN_DELIM].intercalate items) := by
  rw [formatDataToDomain, readFormatData, tempFormatData_listing]
  cases items with
  | nil => rfl
  | cons item items =>
    have hlength := length_hexText (wire (item :: items))
    have hle := length_le_wire (item :: items)
    have hright : ((hexText (wire (item :: items))).isEmpty ||
        (hexText (wire (item :: items))).length % DOUBLE_NUM != 0) = false := by
      rw [hlength]
      show (false || (2 * (wire (item :: items)).length % 2 != 0)) = false
      rw [Nat.mul_mod_right]
      rfl
    have hfuel : (item :: items).length < (hexText (wire (item :: items))).length + 1 := by omega
    obtain ⟨last, hlast⟩ := readSegments_wire h hfuel
      (r := ⟨0, 0, .ofText (hexText (wire (item :: items)))⟩) ⟨rfl, rfl⟩
    rw [hright, if_neg Bool.false_ne_true, hlast]
    rfl

theorem Accepted.items {domainName : List UInt8} (h : Accepted domainName) :
    ∀ item ∈ segments DOMAIN_DELIM domainName, BAR ∉ item ∧ item.length < 256 := by
  obtain ⟨hlength, hbar⟩ := h.legal
  intro item hitem
  have hle := length_le_of_mem_segments hitem
  have hmax : MAX_DOMAIN_LENGTH < 256 := by decide
  exact ⟨fun hmem => hbar (mem_of_mem_segments hitem hmem), by omega⟩

theorem formatDataToDomain_encoded {listing : List UInt8 → List UInt8} (hlists : ListsHex listing)
    {domainName : List UInt8} (h : Accepted domainName) :
    formatDataToDomain (listing (domainToFormatData domainName)) =
      some ([DOMAIN_DELIM].intercalate (segments DOMAIN_DELIM domainName)) := by
  rw [domainToFormatData, hlists _ _ (hexString_items h.items)]
  exact formatDataToDomain_listing fun item hitem => (h.items item hitem).2

/-! ### Distinct encodings -/

theorem hexPair_inj {byte byte' : UInt8} (h : hexPair byte = hexPair byte') : byte = byte' := by
  obtain ⟨hhigh, hlow⟩ := List.cons_eq_cons.mp h
  rw [← charsToHex_hexPair byte, hhigh, (List.cons_eq_cons.mp hlow).1, charsToHex_hexPair]

theorem formatSegments_inj {items items' : List (List UInt8)}
    (h : ∀ item ∈ items, item.length < 256) (h' : ∀ item ∈ items', item.length < 256)
    (heq : items.flatMap formatSegment ++ [BAR] = items'.flatMap formatSegment ++ [BAR]) :
    items = items' := by
  have hend : ∀ {rest : List UInt8} (pair : UInt8), [BAR] ≠ BAR :: (hexPair pair ++ rest) := by
    intro rest pair hbar
    exact nomatch (List.cons_eq_cons.mp hbar).2
  induction items generalizing items' with
  | nil =>
    cases items' with
    | nil => rfl
    | cons item' items' =>
      rw [List.flatMap_cons, formatSegment_eq (h' item' List.mem_cons_self)] at heq
      simp only [List.flatMap_nil, List.nil_append, List.cons_append, List.append_assoc] at heq
      exact absurd heq (hend _)
  | cons item items ih =>
    obtain ⟨hitem, hitems⟩ := List.forall_mem_cons.mp h
    rw [List.flatMap_cons, formatSegment_eq hitem] at heq
    simp only [List.cons_append, List.append_assoc] at heq
    cases items' with
    | nil => exact absurd heq.symm (hend _)
    | cons item' items' =>
      obtain ⟨hitem', hitems'⟩ := List.forall_mem_cons.mp h'
      rw [List.flatMap_cons, formatSegment_eq hitem'] at heq
      simp only [List.cons_append, List.append_assoc] at heq
      obtain ⟨hpair, hrest⟩ := List.append_inj (List.cons_eq_cons.mp heq).2 rfl
      have hlength : item.length = item'.length := by
        have := congrArg UInt8.toNat (hexPair_inj hpair)
        rwa [UInt8.toNat_ofNat_of_lt' hitem, UInt8.toNat_ofNat_of_lt' hitem'] at this
      obtain ⟨rfl, htail⟩ := List.append_inj (List.cons_eq_cons.mp hrest).2 hlength
      rw [ih hitems hitems' htail]

theorem domainToFormatData_eq_iff {domainName domainName' : List UInt8} (h : Accepted domainName)
    (h' : Accepted domainName') :
    domainToFormatData domainName = domainToFormatData domainName' ↔
      domainName = domainName' ∨ ClosedBy DOMAIN_DELIM domainName domainName' ∨
        ClosedBy DOMAIN_DELIM domainName' domainName := by
  rw [← segments_eq_iff]
  constructor
  · exact formatSegments_inj (fun item hitem => (h.items item hitem).2)
      (fun item hitem => (h'.items item hitem).2)
  · intro heq
    rw [domainToFormatData, heq]
    rfl

/-! ### Which domains are read back -/

/-- A domain is read back unless it ends in a dot, which the encoding leaves out.  Two domains have
one encoding only if one of them is the other with a dot after its last label.  The decoder returns
for every text, and reads it from its start up to some point. -/
theorem formatDataToDomain_exact (listing : List UInt8 → List UInt8) (hlists : ListsHex listing) :
    (∀ domainName, Accepted domainName →
      (formatDataToDomain (listing (domainToFormatData domainName)) = some domainName ↔
        domainName.getLast? ≠ some DOMAIN_DELIM)) ∧
    (∀ domainName domainName', Accepted domainName → Accepted domainName' →
      ((domainToFormatData domainName = domainToFormatData domainName' →
          domainName = domainName') ↔
        ¬ (ClosedBy DOMAIN_DELIM domainName domainName' ∨
          ClosedBy DOMAIN_DELIM domainName' domainName))) ∧
    ∀ formatData, ∃ domain iss, readFormatData formatData = some (domain, iss) ∧
      iss.taken <+: tempFormatData formatData := by
  refine ⟨fun domainName h => ?_, fun domainName domainName' h h' => ?_, readFormatData_ends⟩
  · rw [formatDataToDomain_encoded hlists h, Option.some_inj]
    exact intercalate_segments_eq
  · rw [domainToFormatData_eq_iff h h']
    constructor
    · intro hinj hclosed
      obtain rfl := hinj (.inr hclosed)
      rcases hclosed with hclosed | hclosed <;> exact not_closedBy_self _ hclosed
    · intro hclosed heq
      exact heq.resolve_right hclosed

/-! ### A listing -/

/-- The bytes of a hex string, character by character. -/
def hexStringBytes : Bool → List UInt8 → List UInt8
  | _, [] => []
  | false, c :: text => if c = BAR then hexStringBytes true text else c :: hexStringBytes false text
  | true, c :: text =>
    if c = BAR then hexStringBytes false text
    else
      match text with
      | [] => []
      | d :: text => charsToHex c d :: hexStringBytes true text

/-- A listing as the documentation of iptables shows it. -/
def documentedListing (text : List UInt8) : List UInt8 :=
  QUOTE :: BAR :: (hexText (hexStringBytes false text) ++ [BAR, QUOTE])

theorem hexDigit_ne_bar : ∀ n, n < 16 → hexDigit n ≠ BAR := by
  decide

theorem hexStringBytes_eq {hex : Bool} {text bytes : List UInt8} (h : HexString hex text bytes) :
    hexStringBytes hex text = bytes := by
  induction h with
  | done hex => cases hex <;> rfl
  | @bar hex text bytes h ih =>
    cases hex with
    | false => exact (if_pos rfl).trans ih
    | true => cases text <;> exact (if_pos rfl).trans ih
  | char hc h ih => rw [hexStringBytes, if_neg hc, ih]
  | @pair text bytes byte h ih =>
    have hbyte : byte.toNat < 256 := byte.toNat_lt
    have hdigits := hexDigit_ne_bar (byte.toNat / 16) (by omega)
    show (if hexDigit (byte.toNat / 16) = BAR then _
      else charsToHex (hexDigit (byte.toNat / 16)) (hexDigit (byte.toNat % 16)) ::
        hexStringBytes true text) = byte :: bytes
    rw [if_neg hdigits, charsToHex_hexPair, ih]

theorem documentedListing_listsHex : ListsHex documentedListing := by
  intro text bytes h
  rw [documentedListing, hexStringBytes_eq h]

/-- A rule that denies a domain to every application. -/
def denyDomain (domainName : String) : DomainFilterRule :=
  ⟨.deny, [], ascii domainName, .output, .ipv4, .invalid⟩

theorem accepted_denyDomain {domainName : String}
    (h : checkAddDomainParams (denyDomain domainName) = true) : Accepted (ascii domainName) :=
  ⟨denyDomain domainName, rfl, .inl h⟩

theorem formatDataToDomain_exact_example :
    formatDataToDomain (documentedListing (domainToFormatData (ascii "www.example.com"))) =
      some (ascii "www.example.com") :=
  ((formatDataToDomain_exact documentedListing documentedListing_listsHex).1 _
    (accepted_denyDomain (by decide +kernel))).mpr (by decide +kernel)

/-- `a.` is read back as `a`, and has the encoding of `a`. -/
theorem formatDataToDomain_dot :
    ¬ (∀ domainName, Accepted domainName →
      formatDataToDomain (documentedListing (domainToFormatData domainName)) = some domainName) ∧
    ¬ ∀ domainName domainName', Accepted domainName → Accepted domainName' →
      domainToFormatData domainName = domainToFormatData domainName' →
        domainName = domainName' := by
  have hname : Accepted (ascii "a") := accepted_denyDomain (by decide +kernel)
  have hdot : Accepted (ascii "a.") := accepted_denyDomain (by decide +kernel)
  constructor
  · intro h
    have hread : formatDataToDomain (documentedListing (domainToFormatData (ascii "a."))) =
        some (ascii "a") := by decide +kernel
    have hback := h _ hdot
    rw [hread] at hback
    exact absurd hback (by decide +kernel)
  · intro h
    exact absurd (h _ _ hname hdot (by decide +kernel)) (by decide +kernel)

end Edm.IPTABLES
