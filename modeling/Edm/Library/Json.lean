import Mathlib.Data.List.TakeWhile

/-! JSON texts.  `Json.print` writes a tree with or without layout, `Json.parse` reads a text back
through a lexer, which is a machine over characters, and a parser over tokens.  `parse_print` is the
round trip. -/

set_option autoImplicit false

namespace Edm.Library

/-- Whether a character may stand in a literal name or a number. -/
def isWordChar (c : Char) : Bool :=
  c.isAlphanum || c == '-' || c == '+' || c == '.'

/-- The text of a number. -/
structure NumberText where
  text : List Char
  starts : ∃ c rest, text = c :: rest ∧ (c.isDigit = true ∨ c = '-')
  wordChars : ∀ c, c ∈ text → isWordChar c = true

namespace NumberText

/-- The decimal digits of `n`. -/
def ofNat (n : Nat) : NumberText where
  text := Nat.toDigits 10 n
  starts := by
    have hdigits : ∀ c, c ∈ Nat.toDigits 10 n → c.isDigit = true := fun c hc =>
      Nat.isDigit_of_mem_toDigits (by decide) (by decide) hc
    cases htext : Nat.toDigits 10 n with
    | nil => exact absurd htext Nat.toDigits_ne_nil
    | cons c rest => exact ⟨c, rest, rfl, .inl (hdigits c (htext ▸ List.mem_cons_self))⟩
  wordChars := by
    intro c hc
    have hdigit := Nat.isDigit_of_mem_toDigits (b := 10) (by decide) (by decide) hc
    simp [isWordChar, Char.isAlphanum, hdigit]

/-- The integer part. -/
def toInt (t : NumberText) : Int :=
  match t.text with
  | '-' :: rest => -(Nat.ofDigitChars 10 (rest.takeWhile Char.isDigit) 0 : Int)
  | text => Nat.ofDigitChars 10 (text.takeWhile Char.isDigit) 0

theorem toInt_ofNat (n : Nat) : (ofNat n).toInt = n := by
  have hdigits : ∀ c, c ∈ Nat.toDigits 10 n → c.isDigit = true := fun c hc =>
    Nat.isDigit_of_mem_toDigits (by decide) (by decide) hc
  have hall : (Nat.toDigits 10 n).takeWhile Char.isDigit = Nat.toDigits 10 n :=
    List.takeWhile_eq_self_iff.mpr hdigits
  have htext : (ofNat n).text = Nat.toDigits 10 n := rfl
  unfold toInt
  split
  · rename_i rest hminus
    have hmem : '-' ∈ Nat.toDigits 10 n := by
      rw [← htext, hminus]
      exact List.mem_cons_self
    have := hdigits '-' hmem
    contradiction
  · rw [htext, hall, Nat.ofDigitChars_toDigits (by decide) (by decide)]

end NumberText

inductive Json where
  | null
  | bool (value : Bool)
  | number (value : NumberText)
  | str (value : String)
  | arr (items : List Json)
  | obj (members : List (String × Json))

inductive JsonToken where
  | lbrace
  | rbrace
  | lbracket
  | rbracket
  | comma
  | colon
  | str (value : String)
  | word (text : List Char)

namespace Json

mutual

/-- A tree without numbers. -/
def NumberFree : Json → Prop
  | number _ => False
  | arr items => NumberFreeItems items
  | obj members => NumberFreeMembers members
  | _ => True

def NumberFreeItems : List Json → Prop
  | [] => True
  | item :: items => NumberFree item ∧ NumberFreeItems items

def NumberFreeMembers : List (String × Json) → Prop
  | [] => True
  | (_, value) :: members => NumberFree value ∧ NumberFreeMembers members

end

theorem numberFreeItems_iff {items : List Json} :
    NumberFreeItems items ↔ ∀ item, item ∈ items → NumberFree item := by
  induction items with
  | nil => simp [NumberFreeItems]
  | cons item items ih => simp [NumberFreeItems, ih]

theorem numberFreeMembers_iff {members : List (String × Json)} :
    NumberFreeMembers members ↔ ∀ member, member ∈ members → NumberFree member.2 := by
  induction members with
  | nil => simp [NumberFreeMembers]
  | cons member members ih =>
    obtain ⟨name, value⟩ := member
    simp [NumberFreeMembers, ih]

/-! ### Printing -/

/-- A hexadecimal digit. -/
def hexDigit (n : Nat) : Char := "0123456789abcdef".toList.getD n '0'

/-- A character of a string, escaped where JSON asks for it. -/
def printChar (c : Char) : List Char :=
  if c = '"' then ['\\', '"']
  else if c = '\\' then ['\\', '\\']
  else if c = '\n' then ['\\', 'n']
  else if c = '\r' then ['\\', 'r']
  else if c = '\t' then ['\\', 't']
  else if c.toNat < 32 then ['\\', 'u', '0', '0', hexDigit (c.toNat / 16), hexDigit (c.toNat % 16)]
  else [c]

def printString (s : String) : List Char := '"' :: (s.toList.flatMap printChar ++ ['"'])

/-- The layout before a line of an object. -/
def indent (layout : Bool) (depth : Nat) : List Char :=
  if layout then '\n' :: List.replicate depth '\t' else []

mutual

/-- The text of a tree, with or without layout. -/
def printAt (layout : Bool) (depth : Nat) : Json → List Char
  | null => "null".toList
  | bool true => "true".toList
  | bool false => "false".toList
  | number n => n.text
  | str s => printString s
  | arr items => '[' :: printItems layout depth items
  | obj members => '{' :: printMembers layout (depth + 1) members

/-- The items of an array up to its end. -/
def printItems (layout : Bool) (depth : Nat) : List Json → List Char
  | [] => [']']
  | item :: items =>
    printAt layout (depth + 1) item ++
      ((if items.isEmpty then [] else if layout then [',', ' '] else [',']) ++
        printItems layout depth items)

/-- The members of an object up to its end. -/
def printMembers (layout : Bool) (depth : Nat) : List (String × Json) → List Char
  | [] => indent layout (depth - 1) ++ ['}']
  | (name, value) :: members =>
    indent layout depth ++ (printString name ++ (':' :: ((if layout then ['\t'] else []) ++
      (printAt layout depth value ++ ((if members.isEmpty then [] else [',']) ++
        printMembers layout depth members)))))

end

def print (layout : Bool) (j : Json) : String := String.ofList (printAt layout 0 j)

/-! ### Tokens -/

mutual

def tokens : Json → List JsonToken
  | null => [.word "null".toList]
  | bool true => [.word "true".toList]
  | bool false => [.word "false".toList]
  | number n => [.word n.text]
  | str s => [.str s]
  | arr items => .lbracket :: itemTokens items
  | obj members => .lbrace :: memberTokens members

def itemTokens : List Json → List JsonToken
  | [] => [.rbracket]
  | item :: items =>
    tokens item ++ ((if items.isEmpty then [] else [.comma]) ++ itemTokens items)

def memberTokens : List (String × Json) → List JsonToken
  | [] => [.rbrace]
  | (name, value) :: members =>
    .str name :: .colon :: (tokens value ++
      ((if members.isEmpty then [] else [.comma]) ++ memberTokens members))

end

/-! ### The lexer -/

/-- Where the lexer stands.  `read` is what it has read of a string or a word, last first. -/
inductive Mode where
  | idle
  | string (read : List Char)
  | escape (read : List Char)
  | unicode (read : List Char) (missing value : Nat)
  | word (read : List Char)

def isSpace (c : Char) : Bool := c == ' ' || c == '\n' || c == '\r' || c == '\t'

def hexValue (c : Char) : Option Nat :=
  if '0' ≤ c ∧ c ≤ '9' then some (c.toNat - '0'.toNat)
  else if 'a' ≤ c ∧ c ≤ 'f' then some (c.toNat - 'a'.toNat + 10)
  else if 'A' ≤ c ∧ c ≤ 'F' then some (c.toNat - 'A'.toNat + 10)
  else none

def punctuation (c : Char) : Option JsonToken :=
  match c with
  | '{' => some .lbrace
  | '}' => some .rbrace
  | '[' => some .lbracket
  | ']' => some .rbracket
  | ',' => some .comma
  | ':' => some .colon
  | _ => none

/-- The character that a one-letter escape stands for. -/
def unescape (c : Char) : Option Char :=
  match c with
  | '"' => some '"'
  | '\\' => some '\\'
  | '/' => some '/'
  | 'b' => some (Char.ofNat 8)
  | 'f' => some (Char.ofNat 12)
  | 'n' => some '\n'
  | 'r' => some '\r'
  | 't' => some '\t'
  | _ => none

def idleStep (c : Char) : Option (List JsonToken × Mode) :=
  if isSpace c then some ([], .idle)
  else if c = '"' then some ([], .string [])
  else if isWordChar c then some ([], .word [c])
  else (punctuation c).map fun token => ([token], .idle)

/-- One character: the tokens that it completes, and where the lexer stands after it. -/
def step : Mode → Char → Option (List JsonToken × Mode)
  | .idle, c => idleStep c
  | .string read, c =>
    if c = '"' then some ([.str (String.ofList read.reverse)], .idle)
    else if c = '\\' then some ([], .escape read)
    else some ([], .string (c :: read))
  | .escape read, c =>
    if c = 'u' then some ([], .unicode read 4 0)
    else (unescape c).map fun c => ([], .string (c :: read))
  | .unicode read missing value, c =>
    (hexValue c).map fun digit =>
      if missing = 1 then ([], .string (Char.ofNat (value * 16 + digit) :: read))
      else ([], .unicode read (missing - 1) (value * 16 + digit))
  | .word read, c =>
    if isWordChar c then some ([], .word (c :: read))
    else (idleStep c).map fun (tokens, mode) => (.word read.reverse :: tokens, mode)

def lexFrom (mode : Mode) : List Char → Option (List JsonToken)
  | [] =>
    match mode with
    | .idle => some []
    | .word read => some [.word read.reverse]
    | _ => none
  | c :: cs => (step mode c).bind fun (tokens, mode) => (lexFrom mode cs).map (tokens ++ ·)

/-! ### The parser -/

def parseWord (text : List Char) : Option Json :=
  if text = "null".toList then some null
  else if text = "true".toList then some (bool true)
  else if text = "false".toList then some (bool false)
  else
    match text with
    | [] => none
    | c :: rest =>
      if h : (c.isDigit = true ∨ c = '-') ∧ (c :: rest).all isWordChar = true then
        some (number ⟨c :: rest, ⟨c, rest, rfl, h.1⟩, List.all_eq_true.mp h.2⟩)
      else none

mutual

/-- Reads a value, with fuel for the tokens that it may hold. -/
def parseValue : Nat → List JsonToken → Option (Json × List JsonToken)
  | _ + 1, .str s :: rest => some (str s, rest)
  | _ + 1, .word text :: rest => (parseWord text).map fun j => (j, rest)
  | _ + 1, .lbracket :: .rbracket :: rest => some (arr [], rest)
  | fuel + 1, .lbracket :: rest =>
    (parseItems fuel rest).map fun (items, rest) => (arr items, rest)
  | _ + 1, .lbrace :: .rbrace :: rest => some (obj [], rest)
  | fuel + 1, .lbrace :: rest =>
    (parseMembers fuel rest).map fun (members, rest) => (obj members, rest)
  | _, _ => none

def parseItems : Nat → List JsonToken → Option (List Json × List JsonToken)
  | 0, _ => none
  | fuel + 1, tokens =>
    match parseValue fuel tokens with
    | some (item, .comma :: rest) =>
      (parseItems fuel rest).map fun (items, rest) => (item :: items, rest)
    | some (item, .rbracket :: rest) => some ([item], rest)
    | _ => none

def parseMembers : Nat → List JsonToken → Option (List (String × Json) × List JsonToken)
  | fuel + 1, .str name :: .colon :: tokens =>
    match parseValue fuel tokens with
    | some (value, .comma :: rest) =>
      (parseMembers fuel rest).map fun (members, rest) => ((name, value) :: members, rest)
    | some (value, .rbrace :: rest) => some ([(name, value)], rest)
    | _ => none
  | _, _ => none

end

def parse (text : String) : Option Json :=
  match lexFrom .idle text.toList with
  | none => none
  | some tokens =>
    match parseValue tokens.length tokens with
    | some (j, []) => some j
    | _ => none

/-! ### The parser reads tokens back -/

theorem parseWord_number (n : NumberText) : parseWord n.text = some (number n) := by
  obtain ⟨text, starts, wordChars⟩ := n
  obtain ⟨c, rest, rfl, hc⟩ := starts
  have hne : c ≠ 'n' ∧ c ≠ 't' ∧ c ≠ 'f' := by
    refine ⟨?_, ?_, ?_⟩ <;>
    · rintro rfl
      revert hc
      decide
  have hnull : c :: rest ≠ "null".toList := fun h => hne.1 (List.cons.inj h).1
  have htrue : c :: rest ≠ "true".toList := fun h => hne.2.1 (List.cons.inj h).1
  have hfalse : c :: rest ≠ "false".toList := fun h => hne.2.2 (List.cons.inj h).1
  unfold parseWord
  rw [if_neg hnull, if_neg htrue, if_neg hfalse]
  simp only [dif_pos (And.intro hc (List.all_eq_true.mpr wordChars))]

theorem tokens_ne_nil (j : Json) : tokens j ≠ [] := by
  cases j with
  | bool value => cases value <;> simp [tokens]
  | _ => simp [tokens]

theorem exists_fuel {j : Json} {fuel : Nat} (h : (tokens j).length ≤ fuel) :
    ∃ n, fuel = n + 1 := by
  have hpos := List.length_pos_iff.mpr (tokens_ne_nil j)
  exact Nat.exists_eq_add_one.mpr (by omega)

theorem tokens_head_ne_rbracket (j : Json) (rest : List JsonToken) :
    ∃ token more, tokens j ++ rest = token :: more ∧ token ≠ .rbracket := by
  cases j with
  | bool value => cases value <;> exact ⟨_, _, rfl, by simp⟩
  | _ => exact ⟨_, _, rfl, by simp⟩

mutual

theorem parseValue_tokens (fuel : Nat) (rest : List JsonToken) :
    (j : Json) → (tokens j).length ≤ fuel → parseValue fuel (tokens j ++ rest) = some (j, rest)
  | null, h => by
    obtain ⟨fuel, rfl⟩ := exists_fuel h
    simp [tokens, parseValue, parseWord]
  | bool true, h => by
    obtain ⟨fuel, rfl⟩ := exists_fuel h
    simp [tokens, parseValue, parseWord]
  | bool false, h => by
    obtain ⟨fuel, rfl⟩ := exists_fuel h
    simp [tokens, parseValue, parseWord]
  | number n, h => by
    obtain ⟨fuel, rfl⟩ := exists_fuel h
    simp [tokens, parseValue, parseWord_number]
  | str s, h => by
    obtain ⟨fuel, rfl⟩ := exists_fuel h
    simp [tokens, parseValue]
  | arr [], h => by
    obtain ⟨fuel, rfl⟩ := exists_fuel h
    simp [tokens, itemTokens, parseValue]
  | arr (item :: items), h => by
    obtain ⟨fuel, rfl⟩ := exists_fuel h
    have hitems := parseItems_tokens fuel rest item items (by simpa [tokens] using h)
    obtain ⟨token, more, hhead, hne⟩ := tokens_head_ne_rbracket item
      ((if items.isEmpty then [] else [.comma]) ++ itemTokens items ++ rest)
    simp only [tokens, itemTokens, List.append_assoc, List.cons_append] at hitems hhead ⊢
    rw [hhead] at hitems ⊢
    rw [parseValue, hitems, Option.map_some]
    simpa using hne
  | obj [], h => by
    obtain ⟨fuel, rfl⟩ := exists_fuel h
    simp [tokens, memberTokens, parseValue]
  | obj ((name, value) :: members), h => by
    obtain ⟨fuel, rfl⟩ := exists_fuel h
    have hmembers := parseMembers_tokens fuel rest name value members (by simpa [tokens] using h)
    simp only [tokens, memberTokens, List.cons_append] at hmembers ⊢
    rw [parseValue, hmembers, Option.map_some]
    simp

theorem parseItems_tokens (fuel : Nat) (rest : List JsonToken) (item : Json) :
    (items : List Json) → (itemTokens (item :: items)).length ≤ fuel →
      parseItems fuel (itemTokens (item :: items) ++ rest) = some (item :: items, rest)
  | [], h => by
    simp only [itemTokens, List.length_append, List.length_cons, List.length_nil] at h
    obtain ⟨fuel, rfl⟩ : ∃ n, fuel = n + 1 := Nat.exists_eq_add_one.mpr (by simp at h; omega)
    have hvalue := parseValue_tokens fuel (.rbracket :: rest) item (by simp at h; omega)
    simp [itemTokens, parseItems, hvalue]
  | next :: items, h => by
    have hlength : (itemTokens (item :: next :: items)).length =
        (tokens item).length + 1 + (itemTokens (next :: items)).length := by
      rw [itemTokens]
      simp
      omega
    obtain ⟨fuel, rfl⟩ : ∃ n, fuel = n + 1 := Nat.exists_eq_add_one.mpr (by omega)
    have hvalue := parseValue_tokens fuel (.comma :: (itemTokens (next :: items) ++ rest)) item
      (by omega)
    have hitems := parseItems_tokens fuel rest next items (by omega)
    rw [itemTokens]
    simp [parseItems, hvalue, hitems]

theorem parseMembers_tokens (fuel : Nat) (rest : List JsonToken) (name : String) (value : Json) :
    (members : List (String × Json)) → (memberTokens ((name, value) :: members)).length ≤ fuel →
      parseMembers fuel (memberTokens ((name, value) :: members) ++ rest) =
        some ((name, value) :: members, rest)
  | [], h => by
    simp only [memberTokens, List.length_append, List.length_cons, List.length_nil] at h
    obtain ⟨fuel, rfl⟩ : ∃ n, fuel = n + 1 := Nat.exists_eq_add_one.mpr (by simp at h; omega)
    have hvalue := parseValue_tokens fuel (.rbrace :: rest) value (by simp at h; omega)
    simp [memberTokens, parseMembers, hvalue]
  | (next, nextValue) :: members, h => by
    have hlength : (memberTokens ((name, value) :: (next, nextValue) :: members)).length =
        (tokens value).length + 3 + (memberTokens ((next, nextValue) :: members)).length := by
      rw [memberTokens]
      simp
      omega
    obtain ⟨fuel, rfl⟩ : ∃ n, fuel = n + 1 := Nat.exists_eq_add_one.mpr (by omega)
    have hvalue := parseValue_tokens fuel
      (.comma :: (memberTokens ((next, nextValue) :: members) ++ rest)) value (by omega)
    have hmembers := parseMembers_tokens fuel rest next nextValue members (by omega)
    rw [memberTokens]
    simp [parseMembers, hvalue, hmembers]

end

/-! ### The lexer reads texts back -/

theorem lexFrom_cons (mode : Mode) (c : Char) (cs : List Char) :
    lexFrom mode (c :: cs) =
      (step mode c).bind fun r => (lexFrom r.2 cs).map (r.1 ++ ·) := rfl

theorem hexValue_hexDigit (n : Nat) (h : n < 16) : hexValue (hexDigit n) = some n := by
  revert n
  decide

/-- The lexer reads a printed character of a string as that character. -/
theorem lexFrom_printChar (read : List Char) (c : Char) (rest : List Char) :
    lexFrom (.string read) (printChar c ++ rest) = lexFrom (.string (c :: read)) rest := by
  unfold printChar
  split
  · subst_vars
    simp [lexFrom_cons, step, unescape, Function.comp_def]
  split
  · subst_vars
    simp [lexFrom_cons, step, unescape, Function.comp_def]
  split
  · subst_vars
    simp [lexFrom_cons, step, unescape, Function.comp_def]
  split
  · subst_vars
    simp [lexFrom_cons, step, unescape, Function.comp_def]
  split
  · subst_vars
    simp [lexFrom_cons, step, unescape, Function.comp_def]
  split
  · rename_i hcontrol
    have hzero : hexValue '0' = some 0 := by decide
    have hhigh := hexValue_hexDigit (c.toNat / 16) (by omega)
    have hlow := hexValue_hexDigit (c.toNat % 16) (by omega)
    have hchar : Char.ofNat (c.toNat / 16 * 16 + c.toNat % 16) = c := by
      rw [Nat.div_add_mod']
      exact Char.ofNat_toNat c
    simp [lexFrom_cons, step, hzero, hhigh, hlow, hchar, Function.comp_def]
  · rename_i hquote hslash _ _ _ _
    simp [lexFrom_cons, step, hquote, hslash]

theorem lexFrom_chars (cs : List Char) (read rest : List Char) :
    lexFrom (.string read) (cs.flatMap printChar ++ rest) =
      lexFrom (.string (cs.reverse ++ read)) rest := by
  induction cs generalizing read with
  | nil => rfl
  | cons c cs ih =>
    rw [List.flatMap_cons, List.append_assoc, lexFrom_printChar, ih]
    simp

theorem lexFrom_printString (s : String) (rest : List Char) :
    lexFrom .idle (printString s ++ rest) = (lexFrom .idle rest).map (.str s :: ·) := by
  have hclose := lexFrom_chars s.toList [] ('"' :: rest)
  simp only [List.append_nil] at hclose
  have hopen : idleStep '"' = some ([], .string []) := rfl
  simp only [printString, List.cons_append, List.append_assoc, List.nil_append, lexFrom_cons, step,
    hopen, Option.bind_some, hclose, if_true, List.reverse_reverse, String.ofList_toList,
    Option.map_map]
  rfl

/-- The text ends here or goes on with a character that ends a word. -/
def Boundary : List Char → Prop
  | [] => True
  | c :: _ => isWordChar c = false

theorem lexFrom_word (read w rest : List Char) (hw : ∀ c ∈ w, isWordChar c = true)
    (hrest : Boundary rest) :
    lexFrom (.word read) (w ++ rest) =
      (lexFrom .idle rest).map (.word (read.reverse ++ w) :: ·) := by
  induction w generalizing read with
  | nil =>
    cases rest with
    | nil => simp [lexFrom]
    | cons c rest =>
      have hc : isWordChar c = false := hrest
      rw [List.nil_append, lexFrom_cons, lexFrom_cons]
      simp only [step, hc, Bool.false_eq_true, if_false, List.append_nil]
      cases idleStep c with
      | none => rfl
      | some r =>
        simp only [Option.map_some, Option.bind_some, Option.map_map]
        rfl
  | cons c w ih =>
    have hc := hw c List.mem_cons_self
    rw [List.cons_append, lexFrom_cons]
    simp only [step, hc, if_true, Option.bind_some, List.nil_append]
    rw [ih (c :: read) fun d hd => hw d (List.mem_cons_of_mem c hd)]
    simp [Function.comp_def]

theorem idleStep_wordChar {c : Char} (hc : isWordChar c = true) :
    idleStep c = some ([], .word [c]) := by
  have hspace : isSpace c = false := by
    rw [Bool.eq_false_iff]
    intro h
    simp only [isSpace, Bool.or_eq_true, beq_iff_eq] at h
    rcases h with ((rfl | rfl) | rfl) | rfl <;> revert hc <;> decide
  have hquote : c ≠ '"' := by
    rintro rfl
    revert hc
    decide
  simp [idleStep, hspace, hquote, hc]

theorem lexFrom_idle_word {w : List Char} (hne : w ≠ []) (rest : List Char)
    (hw : ∀ c ∈ w, isWordChar c = true) (hrest : Boundary rest) :
    lexFrom .idle (w ++ rest) = (lexFrom .idle rest).map (.word w :: ·) := by
  cases w with
  | nil => contradiction
  | cons c w =>
    rw [List.cons_append, lexFrom_cons]
    simp only [step, idleStep_wordChar (hw c List.mem_cons_self), Option.bind_some,
      List.nil_append]
    rw [lexFrom_word [c] w rest (fun d hd => hw d (List.mem_cons_of_mem c hd)) hrest]
    simp [Function.comp_def]

theorem lexFrom_space {c : Char} (hc : isSpace c = true) (rest : List Char) :
    lexFrom .idle (c :: rest) = lexFrom .idle rest := by
  rw [lexFrom_cons]
  simp [step, idleStep, hc]

theorem lexFrom_indent (layout : Bool) (depth : Nat) (rest : List Char) :
    lexFrom .idle (indent layout depth ++ rest) = lexFrom .idle rest := by
  unfold indent
  cases layout with
  | false => rfl
  | true =>
    rw [if_pos rfl, List.cons_append, lexFrom_space (by decide)]
    induction depth with
    | zero => rfl
    | succ depth ih =>
      rw [List.replicate_succ, List.cons_append, lexFrom_space (by decide), ih]

theorem lexFrom_punctuation {c : Char} (token : JsonToken)
    (hc : idleStep c = some ([token], .idle)) (rest : List Char) :
    lexFrom .idle (c :: rest) = (lexFrom .idle rest).map (token :: ·) := by
  rw [lexFrom_cons]
  simp [step, hc]

theorem boundary_of_punctuation {c : Char} (hc : isWordChar c = false) (rest : List Char) :
    Boundary (c :: rest) := hc

/-- A printed array goes on with a comma or its end. -/
theorem boundary_items (layout : Bool) (depth : Nat) (items : List Json) (rest : List Char) :
    Boundary ((if items.isEmpty then [] else if layout then [',', ' '] else [',']) ++
      (printItems layout depth items ++ rest)) := by
  cases items with
  | nil => exact boundary_of_punctuation (by decide) _
  | cons item items => cases layout <;> exact boundary_of_punctuation (by decide) _

theorem boundary_indent (layout : Bool) (depth : Nat) (rest : List Char) :
    Boundary (indent layout depth ++ '}' :: rest) := by
  cases layout <;> exact boundary_of_punctuation (by decide) _

/-- A printed object goes on with a comma or its end. -/
theorem boundary_members (layout : Bool) (depth : Nat) (members : List (String × Json))
    (rest : List Char) :
    Boundary ((if members.isEmpty then [] else [',']) ++
      (printMembers layout depth members ++ rest)) := by
  cases members with
  | nil =>
    rw [printMembers, List.append_assoc]
    exact boundary_indent layout (depth - 1) rest
  | cons member members => exact boundary_of_punctuation (by decide) _

theorem lexFrom_itemSeparator (layout : Bool) (items : List Json) (rest : List Char) :
    lexFrom .idle ((if items.isEmpty then [] else if layout then [',', ' '] else [',']) ++ rest) =
      (lexFrom .idle rest).map ((if items.isEmpty then [] else [.comma]) ++ ·) := by
  have hcomma := fun rest => lexFrom_punctuation (c := ',') .comma rfl rest
  cases items with
  | nil => simp
  | cons item items =>
    cases layout with
    | false => simpa using hcomma rest
    | true =>
      have hspace := lexFrom_space (c := ' ') (by decide) rest
      simpa [hspace] using hcomma (' ' :: rest)

theorem lexFrom_memberSeparator (members : List (String × Json)) (rest : List Char) :
    lexFrom .idle ((if members.isEmpty then [] else [',']) ++ rest) =
      (lexFrom .idle rest).map ((if members.isEmpty then [] else [.comma]) ++ ·) := by
  cases members with
  | nil => simp
  | cons member members =>
    simpa using lexFrom_punctuation (c := ',') .comma rfl rest

mutual

theorem lexFrom_printAt (layout : Bool) (depth : Nat) (rest : List Char) (hrest : Boundary rest) :
    (j : Json) →
      lexFrom .idle (printAt layout depth j ++ rest) = (lexFrom .idle rest).map (tokens j ++ ·)
  | null => by
    rw [printAt, tokens]
    exact lexFrom_idle_word (by simp) rest (by simp [isWordChar]) hrest
  | bool true => by
    rw [printAt, tokens]
    exact lexFrom_idle_word (by simp) rest (by simp [isWordChar]) hrest
  | bool false => by
    rw [printAt, tokens]
    exact lexFrom_idle_word (by simp) rest (by simp [isWordChar]) hrest
  | number n => by
    have hne : n.text ≠ [] := by
      obtain ⟨c, more, htext, -⟩ := n.starts
      simp [htext]
    rw [printAt, tokens]
    exact lexFrom_idle_word hne rest n.wordChars hrest
  | str s => by
    rw [printAt, tokens]
    exact lexFrom_printString s rest
  | arr items => by
    rw [printAt, tokens, List.cons_append, lexFrom_punctuation .lbracket rfl,
      lexFrom_printItems layout depth rest items, Option.map_map]
    rfl
  | obj members => by
    rw [printAt, tokens, List.cons_append, lexFrom_punctuation .lbrace rfl,
      lexFrom_printMembers layout (depth + 1) rest members, Option.map_map]
    rfl

theorem lexFrom_printItems (layout : Bool) (depth : Nat) (rest : List Char) :
    (items : List Json) →
      lexFrom .idle (printItems layout depth items ++ rest) =
        (lexFrom .idle rest).map (itemTokens items ++ ·)
  | [] => by
    rw [printItems, itemTokens]
    exact lexFrom_punctuation _ rfl rest
  | item :: items => by
    rw [printItems, itemTokens, List.append_assoc, List.append_assoc,
      lexFrom_printAt layout (depth + 1) _ (boundary_items layout depth items rest) item,
      lexFrom_itemSeparator, lexFrom_printItems layout depth rest items]
    simp [Option.map_map, Function.comp_def]

theorem lexFrom_printMembers (layout : Bool) (depth : Nat) (rest : List Char) :
    (members : List (String × Json)) →
      lexFrom .idle (printMembers layout depth members ++ rest) =
        (lexFrom .idle rest).map (memberTokens members ++ ·)
  | [] => by
    rw [printMembers, memberTokens, List.append_assoc, lexFrom_indent]
    exact lexFrom_punctuation _ rfl rest
  | (name, value) :: members => by
    have htab : ∀ rest, lexFrom .idle ((if layout then ['\t'] else []) ++ rest) =
        lexFrom .idle rest := by
      intro rest
      cases layout with
      | false => rfl
      | true => exact lexFrom_space (by decide) rest
    rw [printMembers, memberTokens]
    simp only [List.append_assoc, List.cons_append]
    rw [lexFrom_indent, lexFrom_printString, lexFrom_punctuation .colon rfl, htab,
      lexFrom_printAt layout depth _ (boundary_members layout depth members rest) value,
      lexFrom_memberSeparator, lexFrom_printMembers layout depth rest members]
    simp [Option.map_map, Function.comp_def]

end

/-- The text of a tree is read back as the tree, with layout and without. -/
theorem parse_print (layout : Bool) (j : Json) : parse (print layout j) = some j := by
  have hlex := lexFrom_printAt layout 0 [] trivial j
  have hparse := parseValue_tokens (tokens j).length [] j (Nat.le_refl _)
  simp only [List.append_nil, lexFrom, Option.map_some] at hlex hparse
  unfold parse print
  rw [String.toList_ofList, hlex]
  simp only [hparse]

theorem parse_empty : parse "" = none := rfl

end Json

end Edm.Library
