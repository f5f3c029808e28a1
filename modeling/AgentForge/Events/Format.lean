import Mathlib.Data.String.Basic
import AgentForge.Lib.Json
import AgentForge.Platform.Database

/-!
# The texts of events

What the event code leaves to the standard library: JSON text, UTF-8, RFC 3339, SHA-256 and `url.Parse`. `Format`
collects these functions with what their documentation says of them; the development is the same for every such
collection. Identifiers and integers are read as `google/uuid` and `strconv` do.
-/

set_option autoImplicit false

namespace AgentForge.Events

open Lib Operator Platform

/-- An instant with the offset of its zone from UTC, in seconds. -/
structure Stamp where
  instant : Time
  offset : Int
  deriving DecidableEq

/-- `encoding/json` refuses deeper documents. -/
def maxNestingDepth : Nat := 10000

/-- The first instants of the years 0 and 10000. -/
def firstWritable : Int := -366 * 86400 * second

def endWritable : Int := 3652059 * 86400 * second

/-- The years 0 to 9999, which are those that JSON can hold. -/
def isWritable (t : Int) : Bool := firstWritable ≤ t && t < endWritable

/-- The functions of the standard library that the event code calls. -/
structure Format where
  /-- The values of records. -/
  Bytes : Type
  /-- The keys of records, and the names and values of headers. -/
  Text : Type
  textEq : DecidableEq Text
  length : Bytes → Nat
  /-- The document of a text, if it is one. -/
  parse : Bytes → Option Json
  /-- The text of a document; the raw message that the document contains, if there is one, is written as it is but
  for white space. -/
  marshal : Json → Option Bytes → Bytes
  /-- The hexadecimal digits of the SHA-256 sum. -/
  digest : Bytes → String
  /-- The bytes of a string, and the string with U+FFFD for what is not UTF-8. -/
  utf8 : String → Text
  string : Text → String
  size : Text → Nat
  /-- The layout `time.RFC3339Nano`, in UTC. -/
  formatTime : Time → String
  /-- `time.Parse` with that layout. -/
  parseTime : String → Option Time
  /-- `UnmarshalJSON` of a time whose text has no escapes; one with escapes, which it refuses, is read like any other. -/
  readTime : String → Option Stamp
  /-- Whether `url.Parse` succeeds with a scheme. -/
  parsesWithScheme : String → Bool
  /-- A length is an `int`. -/
  length_lt : ∀ bytes, length bytes < 2 ^ 63
  length_pos : ∀ {bytes document}, parse bytes = some document → 0 < length bytes
  parse_marshal : ∀ document message,
    parse (marshal document message) = if document.depth ≤ maxNestingDepth then some document else none
  digest_size : ∀ bytes, (digest bytes).utf8ByteSize = 64
  string_utf8 : ∀ s, string (utf8 s) = s
  size_utf8 : ∀ s, size (utf8 s) = s.utf8ByteSize
  formatTime_size : ∀ t, (formatTime t).utf8ByteSize ≤ 64
  parse_empty : parseTime "" = none
  /-- The layout has four digits for the year. -/
  parse_format : ∀ t, parseTime (formatTime t) = if isWritable t then some t else none
  read_format : ∀ t, isWritable t = true → readTime (formatTime t) = some ⟨t, 0⟩
  writable_read : ∀ {text stamp}, readTime text = some stamp → stamp.offset = 0 → isWritable stamp.instant = true

instance (F : Format) : DecidableEq F.Text := F.textEq

theorem Format.utf8_inj {F : Format} {s t : String} : F.utf8 s = F.utf8 t ↔ s = t := by
  constructor
  · intro same
    rw [← F.string_utf8 s, same, F.string_utf8]
  · exact congrArg _

/-! ## Identifiers -/

/-- The value of a hexadecimal digit. -/
def hexDigit (c : Char) : Option Nat :=
  if '0' ≤ c ∧ c ≤ '9' then some (c.toNat - 48)
  else if 'a' ≤ c ∧ c ≤ 'f' then some (c.toNat - 87)
  else if 'A' ≤ c ∧ c ≤ 'F' then some (c.toNat - 55)
  else none

/-- The bytes of a list of digits. -/
def hexBytes : List Char → Option (List (BitVec 8))
  | [] => some []
  | [_] => none
  | high :: low :: rest => do
    let h ← hexDigit high
    let l ← hexDigit low
    return BitVec.ofNat 8 (16 * h + l) :: (← hexBytes rest)

/-- The identifier with the given digits. -/
def ofHex (digits : List Char) : Option UUID :=
  match hexBytes digits with
  | some bytes => if sixteen : bytes.length = 16 then some ⟨⟨bytes.toArray, by simpa using sixteen⟩⟩ else none
  | none => none

/-- The digits of a text in groups of 8, 4, 4, 4 and 12. -/
def ungroup (text : List Char) : Option (List Char) :=
  if text[8]? = some '-' ∧ text[13]? = some '-' ∧ text[18]? = some '-' ∧ text[23]? = some '-' then
    some (text.take 8 ++ ((text.drop 9).take 4 ++ ((text.drop 14).take 4 ++ ((text.drop 19).take 4 ++
      (text.drop 24).take 12))))
  else none

/-- `UnmarshalText` of an identifier: with dashes, as a URN, in braces, which are not looked at, or without dashes. -/
def uuidOfText (text : String) : Option UUID :=
  let characters := text.toList
  if text.utf8ByteSize ≠ characters.length then none
  else if characters.length = 36 then (ungroup characters).bind ofHex
  else if characters.length = 45 then
    if (characters.take 9).map Char.toLower = "urn:uuid:".toList then (ungroup (characters.drop 9)).bind ofHex else none
  else if characters.length = 38 then (ungroup (characters.drop 1)).bind ofHex
  else if characters.length = 32 then ofHex characters
  else none

theorem hexBytes_byteHex (byte : BitVec 8) (rest : List Char) :
    hexBytes (UUID.byteHex byte ++ rest) = (hexBytes rest).map (byte :: ·) := by
  have digits : ∀ n : Fin 16, hexDigit (Nat.digitChar n) = some n.val := by decide
  have high := digits ⟨byte.toNat / 16, by have := byte.isLt; omega⟩
  have low := digits ⟨byte.toNat % 16, by omega⟩
  have whole : BitVec.ofNat 8 (16 * (byte.toNat / 16) + byte.toNat % 16) = byte := by
    rw [Nat.div_add_mod, BitVec.ofNat_toNat, BitVec.setWidth_eq]
  simp only [UUID.byteHex, List.cons_append, List.nil_append, hexBytes, high, low, Option.bind_eq_bind, Option.bind_some,
    whole, Option.pure_def]
  cases hexBytes rest <;> rfl

theorem hexBytes_flatMap (bytes : List (BitVec 8)) : hexBytes (bytes.flatMap UUID.byteHex) = some bytes := by
  induction bytes with
  | nil => rfl
  | cons byte rest ih => rw [List.flatMap_cons, hexBytes_byteHex, ih, Option.map_some]

theorem ofHex_hex (id : UUID) : ofHex id.hex = some id := by
  obtain ⟨⟨bytes, size⟩⟩ := id
  unfold ofHex UUID.hex
  rw [hexBytes_flatMap]
  simp [size]

theorem length_hex (id : UUID) : id.hex.length = 32 := by
  simp [UUID.hex, UUID.byteHex, List.length_flatMap]

/-- The text of an identifier, group by group. -/
theorem text_groups (id : UUID) : ∃ a b c d e : List Char, a.length = 8 ∧ b.length = 4 ∧ c.length = 4 ∧ d.length = 4 ∧
    e.length = 12 ∧ id.hex = a ++ (b ++ (c ++ (d ++ e))) ∧
    id.text.toList = a ++ '-' :: (b ++ '-' :: (c ++ '-' :: (d ++ '-' :: e))) := by
  have size := length_hex id
  refine ⟨id.hex.take 8, (id.hex.drop 8).take 4, (id.hex.drop 12).take 4, (id.hex.drop 16).take 4, id.hex.drop 20,
    by simp [size], by simp [size], by simp [size], by simp [size], by simp [size], ?_, by simp [UUID.text]⟩
  have join : ∀ m, (id.hex.drop m).take 4 ++ id.hex.drop (m + 4) = id.hex.drop m := fun m => by
    rw [← List.drop_drop, List.take_append_drop]
  rw [join 16, join 12, join 8, List.take_append_drop]

theorem ungroup_text (id : UUID) : ungroup id.text.toList = some id.hex := by
  obtain ⟨a, b, c, d, e, ha, hb, hc, hd, he, digits, text⟩ := text_groups id
  rw [text, digits]
  unfold ungroup
  rw [if_pos (by simp [List.getElem?_append, ha, hb, hc, hd])]
  simp [List.drop_append, List.drop_eq_nil_of_le, List.take_of_length_le, ha, hb, hc, hd, he]

theorem utf8Len_of_single {characters : List Char} (single : ∀ c ∈ characters, c.utf8Size = 1) :
    String.utf8Len characters = characters.length := by
  induction characters with
  | nil => rfl
  | cons c rest ih =>
    rw [String.utf8Len_cons, single c List.mem_cons_self, ih fun c later => single c (List.mem_cons_of_mem _ later)]
    rfl

/-- Every character of an identifier's text is one byte. -/
theorem utf8ByteSize_text (id : UUID) : id.text.utf8ByteSize = 36 := by
  obtain ⟨a, b, c, d, e, ha, hb, hc, hd, he, digits, text⟩ := text_groups id
  have byte : ∀ n : Fin 256, (UUID.byteHex (BitVec.ofFin n)).all (·.utf8Size == 1) = true := by decide +kernel
  have single : ∀ x ∈ id.hex, x.utf8Size = 1 := by
    intro x member
    obtain ⟨n, -, inside⟩ := List.mem_flatMap.mp member
    exact beq_iff_eq.mp (List.all_eq_true.mp (byte n.toFin) x inside)
  have dash : '-'.utf8Size = 1 := rfl
  have all : ∀ x ∈ id.text.toList, x.utf8Size = 1 := by
    intro x member
    by_cases separator : x = '-'
    · rw [separator, dash]
    · refine single x ?_
      rw [text] at member
      simpa [digits, separator] using member
  rw [← String.ofList_toList (s := id.text), String.utf8ByteSize_ofList, utf8Len_of_single all, text]
  simp [ha, hb, hc, hd, he]

theorem uuidOfText_text (id : UUID) : uuidOfText id.text = some id := by
  have size : id.text.toList.length = 36 := by
    obtain ⟨a, b, c, d, e, ha, hb, hc, hd, he, -, text⟩ := text_groups id
    simp [text, ha, hb, hc, hd, he]
  unfold uuidOfText
  simp only [size, utf8ByteSize_text, ne_eq, not_true_eq_false, if_false, if_true, ungroup_text, Option.bind_some,
    ofHex_hex]

/-! ## Integers -/

/-- The value of decimal digits. -/
def decimalValue (digits : List Char) : Option Int :=
  if digits ≠ [] ∧ digits.all Char.isDigit then
    some (digits.foldl (fun n c => 10 * n + (c.toNat - 48 : Nat)) (0 : Nat))
  else none

def int64 (n : Int) : Option Int := if -(2 ^ 63) ≤ n ∧ n < 2 ^ 63 then some n else none

/-- `strconv.Atoi`. -/
def atoi (text : String) : Option Int :=
  match text.toList with
  | '-' :: digits => ((decimalValue digits).map fun n => -n).bind int64
  | '+' :: digits => (decimalValue digits).bind int64
  | digits => (decimalValue digits).bind int64

/-! ## A format

The laws have a model: a text is kept together with its document, and a time is written as the nanoseconds since the
first one, digit by digit from the last to the first. -/

namespace Plain

mutual

/-- The length of a document without white space, in which no character is escaped. -/
def width : Json → Nat
  | .null => 4
  | .bool b => if b then 4 else 5
  | .str s => s.utf8ByteSize + 2
  | .num n => (toString n).utf8ByteSize
  | .real mantissa exponent => (toString mantissa).utf8ByteSize + 1 + (toString exponent).utf8ByteSize
  | .arr items => listWidth items + 1 + (if items.isEmpty then 1 else 0)
  | .obj fields => membersWidth fields + 1 + (if fields.isEmpty then 1 else 0)

def listWidth : List Json → Nat
  | [] => 0
  | item :: rest => width item + 1 + listWidth rest

def membersWidth : List (String × Json) → Nat
  | [] => 0
  | (key, value) :: rest => key.utf8ByteSize + 3 + width value + 1 + membersWidth rest

end

structure Text where
  document : Option Json
  width : Nat

def length (text : Text) : Nat := min text.width (2 ^ 63 - 1)

def parse (text : Text) : Option Json := if 0 < text.width then text.document else none

def marshal (document : Json) (_ : Option Text) : Text :=
  ⟨if document.depth ≤ maxNestingDepth then some document else none, max 1 (width document)⟩

def digits : Nat → Nat → List Char
  | 0, _ => []
  | n + 1, value => Char.ofNat (48 + value % 10) :: digits n (value / 10)

def ofDigits : List Char → Nat
  | [] => 0
  | c :: rest => c.toNat - 48 + 10 * ofDigits rest

theorem digit_toNat (value : Nat) : (Char.ofNat (48 + value % 10)).toNat = 48 + value % 10 := by
  have all : ∀ d : Fin 10, (Char.ofNat (48 + d)).toNat = 48 + d := by decide
  exact all ⟨value % 10, Nat.mod_lt _ (by omega)⟩

theorem ofDigits_digits (n value : Nat) : ofDigits (digits n value) = value % 10 ^ n := by
  induction n generalizing value with
  | zero => simp [digits, ofDigits, Nat.mod_one]
  | succ n ih =>
    rw [digits, ofDigits, ih, digit_toNat, Nat.add_sub_cancel_left, pow_succ', Nat.mod_mul]

theorem utf8Len_digits (n value : Nat) : String.utf8Len (digits n value) = n := by
  induction n generalizing value with
  | zero => rfl
  | succ n ih =>
    have all : ∀ d : Fin 10, (Char.ofNat (48 + d)).utf8Size = 1 := by decide
    have one := all ⟨value % 10, Nat.mod_lt _ (by omega)⟩
    rw [digits, String.utf8Len_cons, ih, one]

def formatTime (t : Int) : String :=
  if isWritable t then String.ofList (digits 24 (t - firstWritable).toNat) else ""

def parseTime (text : String) : Option Time :=
  if text = "" then none
  else
    let t := firstWritable + ofDigits text.toList
    if isWritable t then some t else none

theorem parseTime_formatTime (t : Int) : parseTime (formatTime t) = if isWritable t then some t else none := by
  by_cases writable : isWritable t = true
  · obtain ⟨low, high⟩ : firstWritable ≤ t ∧ t < endWritable := by simpa [isWritable] using writable
    have filled : String.ofList (digits 24 (t - firstWritable).toNat) ≠ "" := by
      intro empty
      have characters := congrArg String.toList empty
      simp [digits] at characters
    have back : firstWritable + (ofDigits (digits 24 (t - firstWritable).toNat) : Int) = t := by
      unfold firstWritable endWritable second at *
      rw [ofDigits_digits, Nat.mod_eq_of_lt (by omega)]
      omega
    rw [formatTime, if_pos writable, parseTime, if_neg filled, String.toList_ofList, back]
  · rw [formatTime, if_neg writable, parseTime, if_pos rfl, if_neg writable]

/-- Every text has the same digest: the laws of `Format` only speak of its length. -/
def format : Format where
  Bytes := Text
  Text := String
  textEq := inferInstance
  length := length
  parse := parse
  marshal := marshal
  digest _ := "0000000000000000000000000000000000000000000000000000000000000000"
  utf8 := id
  string := id
  size := String.utf8ByteSize
  formatTime := formatTime
  parseTime := parseTime
  readTime text := (parseTime text).map fun t => ⟨t, 0⟩
  parsesWithScheme _ := true
  length_lt text := by unfold length; omega
  length_pos {text document} parsed := by
    unfold parse at parsed
    split at parsed
    next positive => unfold length; omega
    next => cases parsed
  parse_marshal document message := by
    unfold parse marshal
    rw [if_pos (by dsimp only; omega)]
  digest_size _ := by decide +kernel
  string_utf8 _ := rfl
  size_utf8 _ := rfl
  formatTime_size t := by
    unfold formatTime
    split
    next => rw [String.utf8ByteSize_ofList, utf8Len_digits]; omega
    next => decide
  parse_empty := rfl
  parse_format := parseTime_formatTime
  read_format t writable := by simp [parseTime_formatTime, writable]
  writable_read {text stamp} read _ := by
    obtain ⟨t, parsed, rfl⟩ := Option.map_eq_some_iff.mp read
    unfold parseTime at parsed
    split at parsed
    next => cases parsed
    next =>
      dsimp only at parsed
      split at parsed
      next writable =>
        cases parsed
        exact writable
      next => cases parsed

end Plain

end AgentForge.Events
