import Mathlib.Data.List.Basic
import Mathlib.Data.String.Basic
import AgentForge.Lib.Json

/-!
# JSON text

`json.Marshal` writes a document without white space and escapes what HTML would interpret; a `json.Decoder` reads the first
document of a text and leaves the rest. What was written is read back (`firstDocument_marshal`). Texts are lists of
characters: a text that is not UTF-8 has none.
-/

set_option autoImplicit false

namespace AgentForge.Lib.JsonText

/-! ## Writing -/

/-- Four hexadecimal digits. -/
def unicodeEscape (n : Nat) : List Char :=
  '\\' :: 'u' :: [(n / 4096 % 16).digitChar, (n / 256 % 16).digitChar, (n / 16 % 16).digitChar, (n % 16).digitChar]

/-- The short escapes, by the letter after the backslash. -/
def shortEscapes : List (Char × Char) :=
  [('"', '"'), ('\\', '\\'), ('b', '\x08'), ('f', '\x0c'), ('n', '\n'), ('r', '\r'), ('t', '\t')]

/-- A character inside a string. -/
def escape (c : Char) : List Char :=
  match shortEscapes.find? (·.2 == c) with
  | some (letter, _) => ['\\', letter]
  | none =>
    if c.toNat < 32 ∨ c ∈ ['<', '>', '&'] ∨ c.toNat = 0x2028 ∨ c.toNat = 0x2029 then unicodeEscape c.toNat else [c]

def printString (s : String) : List Char := '"' :: s.toList.flatMap escape ++ ['"']

def printInt (n : Int) : List Char :=
  if n < 0 then '-' :: Nat.toDigits 10 n.natAbs else Nat.toDigits 10 n.natAbs

mutual

def print : Json → List Char
  | .null => "null".toList
  | .bool b => if b then "true".toList else "false".toList
  | .str s => printString s
  | .num n => printInt n
  | .real mantissa exponent => printInt mantissa ++ 'e' :: printInt exponent
  | .arr [] => "[]".toList
  | .arr (item :: rest) => '[' :: print item ++ printItems rest
  | .obj [] => "\x7b\x7d".toList
  | .obj ((key, value) :: rest) => '\x7b' :: printString key ++ ':' :: print value ++ printMembers rest

/-- The items after the first one, and the bracket. -/
def printItems : List Json → List Char
  | [] => [']']
  | item :: rest => ',' :: print item ++ printItems rest

def printMembers : List (String × Json) → List Char
  | [] => ['\x7d']
  | (key, value) :: rest => ',' :: printString key ++ ':' :: print value ++ printMembers rest

end

/-- `json.Marshal`. -/
def marshal (document : Json) : String := String.ofList (print document)

/-! ## Reading -/

def isSpace (c : Char) : Bool := c == ' ' || c == '\t' || c == '\r' || c == '\n'

def skip (text : List Char) : List Char := text.dropWhile isSpace

/-! ### Strings -/

/-- What a string contains: characters, and the UTF-16 units of `\u` escapes. -/
inductive Piece
  | char (c : Char)
  | unit (n : Nat)

def hexValue (c : Char) : Option Nat :=
  if '0' ≤ c ∧ c ≤ '9' then some (c.toNat - 48)
  else if 'a' ≤ c ∧ c ≤ 'f' then some (c.toNat - 87)
  else if 'A' ≤ c ∧ c ≤ 'F' then some (c.toNat - 55)
  else none

def unitOf (a b c d : Char) : Option Nat := do
  return 4096 * (← hexValue a) + 256 * (← hexValue b) + 16 * (← hexValue c) + (← hexValue d)

/-- The character of a short escape; a slash may be escaped too. -/
def shortEscape (letter : Char) : Option Char :=
  if letter = '/' then some '/' else (shortEscapes.find? (·.1 == letter)).map (·.2)

/-- The pieces up to the closing quote. Control characters must be escaped. -/
def pieces : List Char → Option (List Piece × List Char)
  | [] => none
  | c :: text =>
    if c = '"' then some ([], text)
    else if c = '\\' then
      match text with
      | 'u' :: a :: b :: c :: d :: text => do
        let n ← unitOf a b c d
        let (more, rest) ← pieces text
        return (.unit n :: more, rest)
      | letter :: text => do
        let c ← shortEscape letter
        let (more, rest) ← pieces text
        return (.char c :: more, rest)
      | [] => none
    else if c.toNat < 32 then none
    else do
      let (more, rest) ← pieces text
      return (.char c :: more, rest)

def isHigh (n : Nat) : Bool := 0xd800 ≤ n && n < 0xdc00

def isLow (n : Nat) : Bool := 0xdc00 ≤ n && n < 0xe000

/-- The first half of a pair that has no second half becomes U+FFFD. -/
def unpaired (pending : Option Nat) : List Char := (pending.map fun _ => '�').toList

/-- The characters of the pieces, after the first half of a pair if one is pending. -/
def join : Option Nat → List Piece → List Char
  | pending, [] => unpaired pending
  | pending, .char c :: rest => unpaired pending ++ c :: join none rest
  | pending, .unit n :: rest =>
    if isHigh n then unpaired pending ++ join (some n) rest
    else if isLow n then
      (match pending with
        | some high => Char.ofNat (0x10000 + (high - 0xd800) * 0x400 + (n - 0xdc00))
        | none => '�') :: join none rest
    else unpaired pending ++ Char.ofNat n :: join none rest

/-- A string after its opening quote. -/
def string (text : List Char) : Option (String × List Char) :=
  (pieces text).map fun (found, rest) => (String.ofList (join none found), rest)

/-! ### Numbers -/

/-- The digits of a whole number: a single zero, or digits that do not begin with one. -/
def wholeDigits : List Char → List Char × List Char
  | [] => ([], [])
  | c :: rest => if c = '0' then (['0'], rest) else ((c :: rest).takeWhile Char.isDigit, (c :: rest).dropWhile Char.isDigit)

/-- At least one digit. -/
def someDigits (text : List Char) : Option (List Char × List Char) :=
  if (text.takeWhile Char.isDigit).isEmpty then none else some (text.takeWhile Char.isDigit, text.dropWhile Char.isDigit)

def fraction : List Char → Option (List Char × List Char)
  | [] => some ([], [])
  | c :: rest => if c = '.' then someDigits rest else some ([], c :: rest)

def value (negative : Bool) (digits : List Char) : Int :=
  if negative then -(Nat.ofDigitChars 10 digits 0 : Int) else Nat.ofDigitChars 10 digits 0

def exponentDigits : List Char → Option (Int × List Char)
  | [] => none
  | c :: rest =>
    if c = '-' then (someDigits rest).map fun (digits, rest) => (value true digits, rest)
    else if c = '+' then (someDigits rest).map fun (digits, rest) => (value false digits, rest)
    else (someDigits (c :: rest)).map fun (digits, rest) => (value false digits, rest)

def exponent : List Char → Option (Option Int × List Char)
  | [] => some (none, [])
  | c :: rest =>
    if c = 'e' ∨ c = 'E' then (exponentDigits rest).map fun (n, rest) => (some n, rest) else some (none, c :: rest)

/-- A number without its sign. -/
def unsigned (negative : Bool) (text : List Char) : Option (Json × List Char) := do
  let (whole, text) := wholeDigits text
  if whole.isEmpty then none
  let (decimals, text) ← fraction text
  let (power, text) ← exponent text
  if decimals.isEmpty ∧ power.isNone then return (.num (value negative whole), text)
  return (.real (value negative (whole ++ decimals)) (power.getD 0 - decimals.length), text)

def number : List Char → Option (Json × List Char)
  | [] => none
  | c :: rest => if c = '-' then unsigned true rest else unsigned false (c :: rest)

/-! ### Documents -/

/-- The rest of a literal. -/
def literal (word : List Char) (document : Json) (text : List Char) : Option (Json × List Char) :=
  if word.isPrefixOf text then some (document, text.drop word.length) else none

mutual

/-- The first document of a text, with a bound on the calls and on the nesting. -/
def document : Nat → Nat → List Char → Option (Json × List Char)
  | 0, _, _ => none
  | fuel + 1, room, text =>
    match skip text with
    | [] => none
    | c :: text =>
      if c = '"' then (string text).map fun (s, rest) => (.str s, rest)
      else if c = '[' then
        if room = 0 then none
        else if (skip text).head? = some ']' then some (.arr [], (skip text).drop 1)
        else do
          let (item, rest) ← document fuel (room - 1) text
          let (more, rest) ← items fuel (room - 1) rest
          return (.arr (item :: more), rest)
      else if c = '\x7b' then
        if room = 0 then none
        else if (skip text).head? = some '\x7d' then some (.obj [], (skip text).drop 1)
        else do
          let (first, rest) ← member fuel (room - 1) text
          let (more, rest) ← members fuel (room - 1) rest
          return (.obj (first :: more), rest)
      else if c = 'n' then literal "ull".toList .null text
      else if c = 't' then literal "rue".toList (.bool true) text
      else if c = 'f' then literal "alse".toList (.bool false) text
      else number (c :: text)

/-- The items after the first one. -/
def items : Nat → Nat → List Char → Option (List Json × List Char)
  | 0, _, _ => none
  | fuel + 1, room, text =>
    match skip text with
    | [] => none
    | c :: text =>
      if c = ']' then some ([], text)
      else if c = ',' then do
        let (item, rest) ← document fuel room text
        let (more, rest) ← items fuel room rest
        return (item :: more, rest)
      else none

def member : Nat → Nat → List Char → Option ((String × Json) × List Char)
  | 0, _, _ => none
  | fuel + 1, room, text =>
    match skip text with
    | [] => none
    | c :: text =>
      if c = '"' then do
        let (key, rest) ← string text
        match skip rest with
        | ':' :: rest =>
          let (value, rest) ← document fuel room rest
          return ((key, value), rest)
        | _ => none
      else none

def members : Nat → Nat → List Char → Option (List (String × Json) × List Char)
  | 0, _, _ => none
  | fuel + 1, room, text =>
    match skip text with
    | [] => none
    | c :: text =>
      if c = '\x7d' then some ([], text)
      else if c = ',' then do
        let (first, rest) ← member fuel room text
        let (more, rest) ← members fuel room rest
        return (first :: more, rest)
      else none

end

/-- Deeper documents are refused. -/
def maxNesting : Nat := 10000

/-- `Decoder.Decode`: the first document and the text after it. -/
def firstDocument (text : String) : Option (Json × List Char) :=
  document text.toList.length maxNesting text.toList

/-- Whether the decoder is at the end of the text. -/
def atEnd (rest : List Char) : Bool := (skip rest).isEmpty

/-- `json.Unmarshal`: a text that is one document. -/
def unmarshal (text : String) : Option Json :=
  match firstDocument text with
  | some (found, rest) => if atEnd rest then some found else none
  | none => none

/-! ## Reading back what was written -/

/-! ### Strings -/

theorem hexValue_digitChar {n : Nat} (small : n < 16) : hexValue n.digitChar = some n := by
  have all : ∀ d : Fin 16, hexValue (d : Nat).digitChar = some (d : Nat) := by decide
  exact all ⟨n, small⟩

theorem unitOf_digits {n : Nat} (small : n < 65536) :
    unitOf (n / 4096 % 16).digitChar (n / 256 % 16).digitChar (n / 16 % 16).digitChar (n % 16).digitChar = some n := by
  have mod : ∀ m, m % 16 < 16 := fun m => Nat.mod_lt m (by omega)
  simp only [unitOf, hexValue_digitChar (mod _), Option.bind_eq_bind, Option.bind_some, Option.pure_def, Option.some.injEq]
  omega

/-- The characters that are written as units. -/
def isUnit (c : Char) : Bool :=
  (shortEscapes.find? (·.2 == c)).isNone &&
    (c.toNat < 32 || ['<', '>', '&'].contains c || c.toNat == 0x2028 || c.toNat == 0x2029)

/-- The piece that a character is read as. -/
def piece (c : Char) : Piece := if isUnit c then .unit c.toNat else .char c

theorem toNat_of_isUnit {c : Char} (unit : isUnit c = true) : c.toNat < 0x2030 := by
  simp only [isUnit, Bool.and_eq_true, Bool.or_eq_true, decide_eq_true_eq, beq_iff_eq, List.contains_iff_mem,
    List.mem_cons, List.not_mem_nil, or_false] at unit
  rcases unit.2 with ((control | rfl | rfl | rfl) | same) | same
  · omega
  · decide
  · decide
  · decide
  · omega
  · omega

theorem pieces_escape (c : Char) (text : List Char) :
    pieces (escape c ++ text) = (pieces text).map fun found => (piece c :: found.1, found.2) := by
  unfold escape
  cases short : shortEscapes.find? (·.2 == c) with
  | some pair =>
    have plain : piece c = .char c := by simp [piece, isUnit, short]
    obtain ⟨letter, c'⟩ := pair
    obtain rfl : c' = c := by simpa using List.find?_some short
    have member := List.mem_of_find?_eq_some short
    rw [plain]
    simp only [shortEscapes, List.mem_cons, Prod.mk.injEq, List.not_mem_nil, or_false] at member
    rcases member with ⟨rfl, rfl⟩ | ⟨rfl, rfl⟩ | ⟨rfl, rfl⟩ | ⟨rfl, rfl⟩ | ⟨rfl, rfl⟩ | ⟨rfl, rfl⟩ | ⟨rfl, rfl⟩ <;>
      (cases h : pieces text <;> simp [pieces, shortEscape, shortEscapes, h])
  | none =>
    have others : c ≠ '"' ∧ c ≠ '\\' := by
      have none := List.find?_eq_none.mp short
      constructor
      · rintro rfl
        exact none ('"', '"') (by decide) rfl
      · rintro rfl
        exact none ('\\', '\\') (by decide) rfl
    dsimp only
    split
    · next written =>
      have unit : isUnit c = true := by simpa [isUnit, short, or_assoc] using written
      have small : c.toNat < 65536 := (toNat_of_isUnit unit).trans (by omega)
      rw [piece, if_pos unit]
      simp only [unicodeEscape, List.cons_append, List.nil_append]
      rw [pieces, if_neg (by decide), if_pos rfl]
      simp only [unitOf_digits small, Option.bind_eq_bind, Option.bind_some]
      cases pieces text <;> rfl
    · next written =>
      have plain : isUnit c = false := by
        simpa [isUnit, short, or_assoc, and_assoc] using written
      have visible : ¬ c.toNat < 32 := fun small => written (.inl small)
      rw [piece, plain]
      simp only [List.cons_append, List.nil_append]
      rw [pieces.eq_def]
      simp only [others.1, others.2, visible, if_false]
      cases pieces text <;> rfl

theorem join_piece (c : Char) (rest : List Piece) : join none (piece c :: rest) = c :: join none rest := by
  unfold piece
  split
  · next unit =>
    have small := toNat_of_isUnit unit
    have high : isHigh c.toNat = false := by simp [isHigh]; omega
    have low : isLow c.toNat = false := by simp [isLow]; omega
    rw [join, if_neg (by rw [high]; decide), if_neg (by rw [low]; decide), Char.ofNat_toNat]
    rfl
  · rfl

theorem pieces_escapes (characters rest : List Char) :
    pieces (characters.flatMap escape ++ '"' :: rest) = some (characters.map piece, rest) := by
  induction characters with
  | nil =>
    rw [List.flatMap_nil, List.nil_append, pieces.eq_def]
    rfl
  | cons c more ih => rw [List.flatMap_cons, List.append_assoc, pieces_escape, ih]; rfl

theorem join_pieces (characters : List Char) : join none (characters.map piece) = characters := by
  induction characters with
  | nil => rfl
  | cons c more ih => rw [List.map_cons, join_piece, ih]

/-- A written string is read back, after its opening quote. -/
theorem string_print (s : String) (rest : List Char) :
    string (s.toList.flatMap escape ++ '"' :: rest) = some (s, rest) := by
  simp only [string, pieces_escapes, Option.map_some, join_pieces, String.ofList_toList]

/-! ### Numbers -/

/-- The text goes on with something that is not part of a number. -/
def Ends (rest : List Char) : Prop := ∀ c ∈ rest.head?, c.isDigit = false ∧ c ≠ '.' ∧ c ≠ 'e' ∧ c ≠ 'E'

theorem ends_cons {c : Char} {rest : List Char} (other : c.isDigit = false ∧ c ≠ '.' ∧ c ≠ 'e' ∧ c ≠ 'E') :
    Ends (c :: rest) := by
  rintro _ ⟨⟩
  exact other

section Digits

variable {rest : List Char}

/-- The text goes on with something other than a digit. -/
def NoDigit (rest : List Char) : Prop := ∀ c ∈ rest.head?, c.isDigit = false

theorem Ends.noDigit (ends : Ends rest) : NoDigit rest := fun c head => (ends c head).1

theorem isDigit_toDigits (n : Nat) : ∀ c ∈ Nat.toDigits 10 n, c.isDigit = true := fun _ member =>
  Nat.isDigit_of_mem_toDigits (by omega) (le_refl _) member

theorem span_digits {digits : List Char} (all : ∀ c ∈ digits, c.isDigit = true) (stop : NoDigit rest) :
    (digits ++ rest).takeWhile Char.isDigit = digits ∧ (digits ++ rest).dropWhile Char.isDigit = rest := by
  rw [List.takeWhile_append_of_pos all, List.dropWhile_append_of_pos all]
  cases rest with
  | nil => simp
  | cons c more =>
    have other := stop c rfl
    simp [other]

theorem someDigits_toDigits (n : Nat) (stop : NoDigit rest) :
    someDigits (Nat.toDigits 10 n ++ rest) = some (Nat.toDigits 10 n, rest) := by
  obtain ⟨taken, dropped⟩ := span_digits (isDigit_toDigits n) stop
  simp [someDigits, taken, dropped, Nat.toDigits_ne_nil]

/-- A positive number does not begin with a zero. -/
theorem head_toDigits {n : Nat} (positive : 0 < n) : ∃ c more, Nat.toDigits 10 n = c :: more ∧ c ≠ '0' := by
  induction n using Nat.strong_induction_on with
  | _ n ih =>
    by_cases small : n < 10
    · exact ⟨n.digitChar, [], Nat.toDigits_of_lt_base small, by simpa using positive.ne'⟩
    · obtain ⟨c, more, digits, other⟩ := ih (n / 10) (by omega) (by omega)
      rw [Nat.toDigits_of_base_le (by omega) (by omega), digits]
      exact ⟨c, _, rfl, other⟩

theorem wholeDigits_toDigits (n : Nat) (stop : NoDigit rest) :
    wholeDigits (Nat.toDigits 10 n ++ rest) = (Nat.toDigits 10 n, rest) := by
  rcases Nat.eq_zero_or_pos n with rfl | positive
  · simp [wholeDigits]
  · obtain ⟨taken, dropped⟩ := span_digits (isDigit_toDigits n) stop
    obtain ⟨c, more, digits, other⟩ := head_toDigits positive
    rw [digits, List.cons_append] at taken dropped ⊢
    rw [wholeDigits, if_neg other, taken, dropped]

theorem value_toDigits (n : Int) :
    value (decide (n < 0)) (Nat.toDigits 10 n.natAbs) = n := by
  unfold value
  rw [Nat.ofDigitChars_ten_toDigits]
  split
  · next negative =>
    have := of_decide_eq_true negative
    omega
  · next positive =>
    have := of_decide_eq_false (Bool.eq_false_iff.mpr positive)
    omega

theorem fraction_ends (ends : Ends rest) : fraction rest = some ([], rest) := by
  cases rest with
  | nil => rfl
  | cons c more => rw [fraction, if_neg (ends c rfl).2.1]

theorem exponent_ends (ends : Ends rest) : exponent rest = some (none, rest) := by
  cases rest with
  | nil => rfl
  | cons c more =>
    obtain ⟨-, -, lower, upper⟩ := ends c rfl
    rw [exponent, if_neg (by simp [lower, upper])]

/-- The sign of a written number is taken off. -/
theorem number_printInt (n : Int) (rest : List Char) :
    number (printInt n ++ rest) = unsigned (decide (n < 0)) (Nat.toDigits 10 n.natAbs ++ rest) := by
  unfold printInt
  split
  · next negative => simp [number, negative]
  · next positive =>
    obtain ⟨c, more, digits⟩ := List.exists_cons_of_ne_nil (Nat.toDigits_ne_nil (n := n.natAbs) (b := 10))
    have digit := isDigit_toDigits n.natAbs c (by simp [digits])
    have other : c ≠ '-' := by
      rintro rfl
      cases digit
    simp [digits, number, other, positive]

theorem number_num (n : Int) (ends : Ends rest) : number (printInt n ++ rest) = some (.num n, rest) := by
  rw [number_printInt]
  simp [unsigned, wholeDigits_toDigits _ ends.noDigit, Nat.toDigits_ne_nil, fraction_ends ends, exponent_ends ends,
    value_toDigits]

theorem exponentDigits_printInt (n : Int) (ends : Ends rest) :
    exponentDigits (printInt n ++ rest) = some (n, rest) := by
  have whole := value_toDigits n
  unfold printInt
  split
  · next negative =>
    simp only [negative, decide_true] at whole
    simp [exponentDigits, someDigits_toDigits _ ends.noDigit, whole]
  · next positive =>
    simp only [positive, decide_false] at whole
    have found := someDigits_toDigits n.natAbs ends.noDigit
    obtain ⟨c, more, digits⟩ := List.exists_cons_of_ne_nil (Nat.toDigits_ne_nil (n := n.natAbs) (b := 10))
    have digit := isDigit_toDigits n.natAbs c (by simp [digits])
    have others : c ≠ '-' ∧ c ≠ '+' := by
      constructor <;> (rintro rfl; cases digit)
    rw [digits, List.cons_append] at found ⊢
    rw [digits] at whole
    simp [exponentDigits, others.1, others.2, found, whole]

theorem number_real (mantissa power : Int) (ends : Ends rest) :
    number (printInt mantissa ++ 'e' :: printInt power ++ rest) = some (.real mantissa power, rest) := by
  have stop : NoDigit ('e' :: (printInt power ++ rest)) := by
    rintro _ ⟨⟩
    decide
  rw [List.append_assoc, number_printInt, List.cons_append]
  simp [unsigned, wholeDigits_toDigits _ stop, Nat.toDigits_ne_nil, fraction, exponent,
    exponentDigits_printInt power ends, value_toDigits]

end Digits

/-! ### Documents -/

mutual

/-- How many calls inside each other a document takes. -/
def cost : Json → Nat
  | .arr (item :: rest) => max (cost item) (itemsCost rest) + 1
  | .obj ((_, value) :: rest) => max (cost value + 1) (membersCost rest) + 1
  | _ => 1

def itemsCost : List Json → Nat
  | [] => 1
  | item :: rest => max (cost item) (itemsCost rest) + 1

def membersCost : List (String × Json) → Nat
  | [] => 1
  | (_, value) :: rest => max (cost value + 1) (membersCost rest) + 1

end

/-- Every document begins with a character that is neither a space nor a closing bracket. -/
theorem print_head (document : Json) : ∃ c more, print document = c :: more ∧ isSpace c = false ∧ c ≠ ']' := by
  have int : ∀ n, ∃ c more, printInt n = c :: more ∧ isSpace c = false ∧ c ≠ ']' := by
    intro n
    unfold printInt
    split
    · exact ⟨_, _, rfl, by decide⟩
    · obtain ⟨c, more, digits⟩ := List.exists_cons_of_ne_nil (Nat.toDigits_ne_nil (n := n.natAbs) (b := 10))
      have digit := isDigit_toDigits n.natAbs c (by simp [digits])
      refine ⟨c, more, digits, ?_, ?_⟩
      · by_contra space
        simp only [isSpace, Bool.not_eq_false, Bool.or_eq_true, beq_iff_eq] at space
        rcases space with ((rfl | rfl) | rfl) | rfl <;> cases digit
      · rintro rfl
        cases digit
  cases document with
  | null => exact ⟨'n', "ull".toList, rfl, by decide⟩
  | bool b =>
    cases b
    · exact ⟨'f', "alse".toList, rfl, by decide⟩
    · exact ⟨'t', "rue".toList, rfl, by decide⟩
  | str s => exact ⟨_, _, by rw [print]; rfl, by decide⟩
  | num n =>
    rw [print]
    exact int n
  | real mantissa exponent =>
    obtain ⟨c, more, digits, other⟩ := int mantissa
    exact ⟨c, _, by rw [print, digits]; rfl, other⟩
  | arr items => cases items <;> exact ⟨_, _, by rw [print]; rfl, by decide⟩
  | obj fields =>
    cases fields with
    | nil => exact ⟨_, _, by rw [print]; rfl, by decide⟩
    | cons first rest => exact ⟨_, _, by rw [print]; rfl, by decide⟩

theorem skip_cons {c : Char} {text : List Char} (other : isSpace c = false) : skip (c :: text) = c :: text := by
  simp [skip, other]

theorem skip_print (document : Json) (rest : List Char) : skip (print document ++ rest) = print document ++ rest := by
  obtain ⟨c, more, text, other, -⟩ := print_head document
  rw [text, List.cons_append, skip_cons other]

theorem head_print (document : Json) (rest : List Char) : (skip (print document ++ rest)).head? ≠ some ']' := by
  obtain ⟨c, more, text, -, other⟩ := print_head document
  rw [skip_print, text]
  simpa using other

/-- What begins with none of the other characters is a number. -/
theorem document_number {fuel room : Nat} {c : Char} {text : List Char} (start : c.isDigit = true ∨ c = '-') :
    document (fuel + 1) room (c :: text) = number (c :: text) := by
  have space : isSpace c = false := by
    by_contra space
    simp only [isSpace, Bool.not_eq_false, Bool.or_eq_true, beq_iff_eq] at space
    rcases space with ((rfl | rfl) | rfl) | rfl <;> revert start <;> decide
  have others : c ≠ '"' ∧ c ≠ '[' ∧ c ≠ '\x7b' ∧ c ≠ 'n' ∧ c ≠ 't' ∧ c ≠ 'f' := by
    refine ⟨?_, ?_, ?_, ?_, ?_, ?_⟩ <;> (rintro rfl; revert start; decide)
  obtain ⟨quote, bracket, brace, n, t, f⟩ := others
  rw [document, skip_cons space]
  simp only [quote, bracket, brace, n, t, f, if_false]

theorem document_printInt {fuel room : Nat} (n : Int) (rest : List Char) :
    document (fuel + 1) room (printInt n ++ rest) = number (printInt n ++ rest) := by
  unfold printInt
  split
  · exact document_number (.inr rfl)
  · obtain ⟨c, more, digits⟩ := List.exists_cons_of_ne_nil (Nat.toDigits_ne_nil (n := n.natAbs) (b := 10))
    rw [digits]
    exact document_number (.inl (isDigit_toDigits n.natAbs c (by simp [digits])))

theorem ends_items (items : List Json) (rest : List Char) : Ends (printItems items ++ rest) := by
  cases items <;> (rw [printItems]; exact ends_cons (by decide))

theorem ends_members (members : List (String × Json)) (rest : List Char) : Ends (printMembers members ++ rest) := by
  cases members <;> (rw [printMembers]; exact ends_cons (by decide))

theorem cost_pos (found : Json) : 0 < cost found := by
  cases found with
  | arr items => cases items <;> simp [cost]
  | obj fields =>
    match fields with
    | [] => simp [cost]
    | (_, _) :: _ => simp [cost]
  | _ => simp [cost]

mutual

theorem document_print : ∀ (found : Json) (fuel room : Nat) (rest : List Char), cost found ≤ fuel → found.depth ≤ room →
    Ends rest → document fuel room (print found ++ rest) = some (found, rest)
  | found, 0, _, _, enough, _, _ => absurd (cost_pos found) (by omega)
  | .null, fuel + 1, room, rest, _, _, _ => by
    simp [print, document, skip, isSpace, literal]
  | .bool b, fuel + 1, room, rest, _, _, _ => by
    cases b <;> simp [print, document, skip, isSpace, literal]
  | .str s, fuel + 1, room, rest, _, _, _ => by
    simp [print, printString, document, skip, isSpace, string_print]
  | .num n, fuel + 1, room, rest, _, _, ends => by
    rw [print, document_printInt, number_num n ends]
  | .real mantissa exponent, fuel + 1, room, rest, _, _, ends => by
    rw [print, List.append_assoc, document_printInt, ← List.append_assoc, number_real mantissa exponent ends]
  | .arr [], fuel + 1, room, rest, _, deep, _ => by
    have inside : room ≠ 0 := by simp at deep; omega
    simp [print, document, skip, isSpace, inside]
  | .arr (item :: more), fuel + 1, room, rest, enough, deep, _ => by
    simp only [cost, Nat.add_le_add_iff_right, Nat.max_le] at enough
    simp only [Json.depth_arr, Json.listDepth] at deep
    have inside : room ≠ 0 := by omega
    have first := document_print item fuel (room - 1) (printItems more ++ rest) enough.1 (by omega) (ends_items more rest)
    have others := items_print more fuel (room - 1) rest enough.2 (by omega)
    have text : print (.arr (item :: more)) ++ rest = '[' :: (print item ++ (printItems more ++ rest)) := by simp [print]
    rw [text, document, skip_cons (by decide)]
    simp only [inside, head_print, if_false, if_true, first, others, Option.bind_eq_bind, Option.bind_some,
      Option.pure_def, show ('[' = '"') = False by decide]
  | .obj [], fuel + 1, room, rest, _, deep, _ => by
    have inside : room ≠ 0 := by simp at deep; omega
    simp [print, document, skip, isSpace, inside]
  | .obj ((key, value) :: more), fuel + 1, room, rest, enough, deep, _ => by
    simp only [cost, Nat.add_le_add_iff_right, Nat.max_le] at enough
    simp only [Json.depth_obj, Json.membersDepth] at deep
    have inside : room ≠ 0 := by omega
    have first := member_print key value fuel (room - 1) (printMembers more ++ rest) enough.1 (by omega)
      (ends_members more rest)
    have others := members_print more fuel (room - 1) rest enough.2 (by omega)
    have quoted : (skip (printString key ++ ':' :: print value ++ (printMembers more ++ rest))).head? ≠ some '\x7d' := by
      rw [printString, List.cons_append, List.cons_append, List.cons_append, skip_cons (by decide)]
      simp
    have text : print (.obj ((key, value) :: more)) ++ rest =
        '\x7b' :: (printString key ++ ':' :: print value ++ (printMembers more ++ rest)) := by simp [print]
    rw [text, document, skip_cons (by decide)]
    simp only [inside, quoted, if_false, if_true, first, others, Option.bind_eq_bind, Option.bind_some, Option.pure_def,
      show ('\x7b' = '"') = False by decide, show ('\x7b' = '[') = False by decide]
termination_by structural _ fuel => fuel

theorem items_print : ∀ (found : List Json) (fuel room : Nat) (rest : List Char), itemsCost found ≤ fuel →
    Json.listDepth found ≤ room → items fuel room (printItems found ++ rest) = some (found, rest)
  | found, 0, _, _, enough, _ => by
    cases found <;> simp [itemsCost] at enough
  | [], fuel + 1, room, rest, _, _ => by
    simp [printItems, items, skip, isSpace]
  | item :: more, fuel + 1, room, rest, enough, deep => by
    simp only [itemsCost, Nat.add_le_add_iff_right, Nat.max_le] at enough
    simp only [Json.listDepth, Nat.max_le] at deep
    have first := document_print item fuel room (printItems more ++ rest) enough.1 deep.1 (ends_items more rest)
    have others := items_print more fuel room rest enough.2 deep.2
    have text : printItems (item :: more) ++ rest = ',' :: (print item ++ (printItems more ++ rest)) := by simp [printItems]
    rw [text, items, skip_cons (by decide)]
    simp only [if_false, if_true, first, others, Option.bind_eq_bind, Option.bind_some, Option.pure_def,
      show (',' = ']') = False by decide]
termination_by structural _ fuel => fuel

theorem member_print : ∀ (key : String) (value : Json) (fuel room : Nat) (rest : List Char), cost value + 1 ≤ fuel →
    value.depth ≤ room → Ends rest →
    member fuel room (printString key ++ ':' :: print value ++ rest) = some ((key, value), rest)
  | _, _, 0, _, _, enough, _, _ => by omega
  | key, value, fuel + 1, room, rest, enough, deep, ends => by
    have found := document_print value fuel room rest (by omega) deep ends
    have text : printString key ++ ':' :: print value ++ rest =
        '"' :: (key.toList.flatMap escape ++ '"' :: (':' :: (print value ++ rest))) := by
      simp [printString]
    rw [text, member, skip_cons (by decide)]
    simp only [if_true, string_print, Option.bind_eq_bind, Option.bind_some]
    rw [skip_cons (by decide)]
    simp only [found, Option.bind_some, Option.pure_def]
termination_by structural _ _ fuel => fuel

theorem members_print : ∀ (found : List (String × Json)) (fuel room : Nat) (rest : List Char), membersCost found ≤ fuel →
    Json.membersDepth found ≤ room → members fuel room (printMembers found ++ rest) = some (found, rest)
  | found, 0, _, _, enough, _ => by
    cases found <;> simp [membersCost] at enough
  | [], fuel + 1, room, rest, _, _ => by
    simp [printMembers, members, skip, isSpace]
  | (key, value) :: more, fuel + 1, room, rest, enough, deep => by
    simp only [membersCost, Nat.add_le_add_iff_right, Nat.max_le] at enough
    simp only [Json.membersDepth, Nat.max_le] at deep
    have first := member_print key value fuel room (printMembers more ++ rest) enough.1 deep.1 (ends_members more rest)
    have others := members_print more fuel room rest enough.2 deep.2
    have text : printMembers ((key, value) :: more) ++ rest =
        ',' :: (printString key ++ ':' :: print value ++ (printMembers more ++ rest)) := by simp [printMembers]
    rw [text, members, skip_cons (by decide)]
    simp only [if_false, if_true, first, others, Option.bind_eq_bind, Option.bind_some, Option.pure_def,
      show (',' = '\x7d') = False by decide]
termination_by structural _ fuel => fuel

end

mutual

/-- A text has room for the calls that its document takes. -/
theorem cost_le : ∀ found : Json, cost found ≤ (print found).length
  | .null | .bool false | .bool true => by simp [cost, print]
  | .str s => by simp [cost, print, printString]
  | .num n => by
    obtain ⟨c, more, text, -⟩ := print_head (.num n)
    simp [cost, text]
  | .real mantissa exponent => by
    obtain ⟨c, more, text, -⟩ := print_head (.real mantissa exponent)
    simp [cost, text]
  | .arr [] => by simp [cost, print]
  | .arr (item :: more) => by
    have first := cost_le item
    have others := itemsCost_le more
    simp only [cost, print, List.length_cons, List.length_append]
    omega
  | .obj [] => by simp [cost, print]
  | .obj ((key, value) :: more) => by
    have first := cost_le value
    have others := membersCost_le more
    simp only [cost, print, printString, List.length_cons, List.length_append]
    omega

theorem itemsCost_le : ∀ found : List Json, itemsCost found ≤ (printItems found).length
  | [] => by simp [itemsCost, printItems]
  | item :: more => by
    have first := cost_le item
    have others := itemsCost_le more
    simp only [itemsCost, printItems, List.length_cons, List.length_append]
    omega

theorem membersCost_le : ∀ found : List (String × Json), membersCost found ≤ (printMembers found).length
  | [] => by simp [membersCost, printMembers]
  | (key, value) :: more => by
    have first := cost_le value
    have others := membersCost_le more
    simp only [membersCost, printMembers, printString, List.length_cons, List.length_append]
    omega

end

/-- A written document is read back, and nothing is left. -/
theorem firstDocument_marshal {found : Json} (shallow : found.depth ≤ maxNesting) :
    firstDocument (marshal found) = some (found, []) := by
  have none_left : Ends [] := by rintro c ⟨⟩
  have read := document_print found (print found).length maxNesting [] (cost_le found) shallow none_left
  rw [List.append_nil] at read
  rw [firstDocument, marshal, String.toList_ofList, read]

theorem unmarshal_marshal {found : Json} (shallow : found.depth ≤ maxNesting) :
    unmarshal (marshal found) = some found := by
  rw [unmarshal, firstDocument_marshal shallow]
  rfl

/-! ## Maps -/

/-- A `map[string]string`, with the members in the order of the text. -/
abbrev TextMap := List (String × String)

/-- A later member of the same name replaces an earlier one. -/
def TextMap.find (members : TextMap) (key : String) : Option String := members.reverse.lookup key

/-- A value that is `null` is an empty text. -/
def asTextMap : Json → Option TextMap
  | .obj members => members.mapM fun (key, value) =>
      match value with
      | .null => some (key, "")
      | _ => value.asString.map (key, ·)
  | _ => none

end AgentForge.Lib.JsonText
