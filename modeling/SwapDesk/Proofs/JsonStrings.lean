import SwapDesk.Proofs.JsonGrammar
import SwapDesk.Proofs.ReaderSteps
import SwapDesk.Proofs.TextBytes

/-! What is written as a JSON string is read back to the last character. Characters are
written in three ways, and each way is undone by the reader whatever stands behind it. -/

namespace SwapDesk.Json

/-- The ways in which a character stands in a written string. -/
inductive Escaped : Char → List Char → Prop where
  | plain {c : Char} (visible : 0x20 ≤ c.toNat) (noQuote : c ≠ '"') (noBackslash : c ≠ '\\') :
      Escaped c [c]
  | short {letter c : Char} (listed : (letter, c) ∈ shortEscapes) : Escaped c ['\\', letter]
  | unit {c : Char} (control : c.toNat < 0x20) :
      Escaped c ['\\', 'u', '0', '0', upperDigit (c.toNat / 16), upperDigit (c.toNat % 16)]

private theorem short_written (letter : Char) {c written : Char} {text : String} (same : c = written)
    (spelled : text.toList = ['\\', letter]) (listed : (letter, written) ∈ shortEscapes) :
    Escaped c text.toList := by
  rw [same, spelled]
  exact .short listed

theorem escape_escaped (c : Char) : Escaped c (escape c).toList := by
  unfold escape
  split
  next same => exact short_written '"' same rfl (by simp [shortEscapes])
  split
  next same => exact short_written '\\' same rfl (by simp [shortEscapes])
  split
  next same => exact short_written 'b' same rfl (by simp [shortEscapes])
  split
  next same => exact short_written 't' same rfl (by simp [shortEscapes])
  split
  next same => exact short_written 'n' same rfl (by simp [shortEscapes])
  split
  next same => exact short_written 'f' same rfl (by simp [shortEscapes])
  split
  next same => exact short_written 'r' same rfl (by simp [shortEscapes])
  split
  next control => simpa using Escaped.unit control
  next noQuote noBackslash _ _ _ _ _ visible =>
    simpa using Escaped.plain (by omega) noQuote noBackslash

def bodyBytes (text : String) : Bytes := text.toList.flatMap fun c => Text.bytes (escape c)

theorem bytes_string (text : String) :
    Text.bytes (string text) = 0x22 :: (bodyBytes text ++ [0x22]) := by
  have quote : Text.bytes "\"" = [0x22] := rfl
  simp only [string, Text.bytes_append, quote, Text.bytes_join, bodyBytes, List.flatMap_map]
  simp

end SwapDesk.Json

namespace SwapDesk.Wire

open Json (Escaped)

/-- A byte that stands for itself inside a string. -/
def isPlain (byte : UInt8) : Bool := 0x1f < byte && byte ≠ 0x5c && byte ≠ 0x22

theorem isPlain_of_mem_encodeChar {c : Char} {byte : UInt8} (visible : 0x20 ≤ c.toNat)
    (noQuote : c ≠ '"') (noBackslash : c ≠ '\\') (member : byte ∈ String.utf8EncodeChar c) :
    isPlain byte = true := by
  have apart (value : UInt8) (differs : byte.toNat ≠ value.toNat) : byte ≠ value := by
    intro same
    exact differs (congrArg UInt8.toNat same)
  have code : 0x1f < byte.toNat ∧ byte.toNat ≠ 0x5c ∧ byte.toNat ≠ 0x22 := by
    by_cases ascii : c.toNat < 128
    · rw [Text.encodeChar_ascii ascii, List.mem_singleton] at member
      subst member
      have value : (UInt8.ofNat c.toNat).toNat = c.toNat := by
        simp only [UInt8.toNat_ofNat']
        omega
      rw [value]
      refine ⟨by omega, ?_, ?_⟩
      · intro same
        exact noBackslash (Char.toNat_inj.mp same)
      · intro same
        exact noQuote (Char.toNat_inj.mp same)
    · have beyond := Text.le_of_mem_encodeChar (by omega) member
      omega
  simp only [isPlain, Bool.and_eq_true, decide_eq_true_eq]
  exact ⟨⟨UInt8.lt_iff_toNat_lt.mpr code.1, apart _ code.2.1⟩, apart _ code.2.2⟩

/-- The ways in which a character stands in a written string, byte by byte. -/
inductive EscapedBytes : Char → Bytes → Prop where
  | plain {c : Char} (all : ∀ byte ∈ String.utf8EncodeChar c, isPlain byte = true) :
      EscapedBytes c (String.utf8EncodeChar c)
  | short {c : Char} {letter byte : UInt8} (known : shortEscape? letter = some byte)
      (visible : 0x1f < letter) (same : String.utf8EncodeChar c = [byte]) :
      EscapedBytes c [0x5c, letter]
  | unit {c : Char} {high low : UInt8} (value : codeUnit 0x30 0x30 high low = .ok c.toNat)
      (control : c.toNat < 0x20) (plain : isPlain high = true ∧ isPlain low = true) :
      EscapedBytes c [0x5c, 0x75, 0x30, 0x30, high, low]

private theorem short_bytes : ∀ entry ∈ Json.shortEscapes,
    ∃ letter byte, ['\\', entry.1].flatMap String.utf8EncodeChar = [0x5c, letter] ∧
      shortEscape? letter = some byte ∧ 0x1f < letter ∧ String.utf8EncodeChar entry.2 = [byte] := by
  intro entry listed
  simp only [Json.shortEscapes, List.mem_cons, List.not_mem_nil, or_false] at listed
  rcases listed with rfl | rfl | rfl | rfl | rfl | rfl | rfl | rfl
  all_goals exact ⟨_, _, rfl, rfl, by decide, rfl⟩

theorem expectHex_of_value {digit : UInt8} {value : Nat} (known : hexValue? digit = some value) :
    expectHex digit = .ok value := by
  have visible : ¬ digit ≤ 0x1f := by
    intro control
    have code : digit.toNat ≤ 0x1f := UInt8.le_iff_toNat_le.mp control
    have above (bound : UInt8) (large : 0x1f < bound.toNat) : ¬ bound ≤ digit := by
      rw [UInt8.le_iff_toNat_le]
      omega
    simp only [hexValue?, above 0x30 (by decide), above 0x61 (by decide), above 0x41 (by decide),
      false_and, ite_false] at known
    cases known
  simp only [expectHex, visible, ite_false, known]

theorem codeUnit_of_values {a b c d : UInt8} {w x y z : Nat} (first : hexValue? a = some w)
    (second : hexValue? b = some x) (third : hexValue? c = some y) (fourth : hexValue? d = some z) :
    codeUnit a b c d = .ok (((w * 16 + x) * 16 + y) * 16 + z) := by
  simp only [codeUnit, expectHex_of_value first, expectHex_of_value second,
    expectHex_of_value third, expectHex_of_value fourth, ok_bind]
  rfl

private theorem upperDigit_byte : ∀ value < 16, ∃ byte,
    String.utf8EncodeChar (Json.upperDigit value) = [byte] ∧ hexValue? byte = some value ∧
      isPlain byte = true := by
  intro value small
  refine ⟨UInt8.ofNat (Json.upperDigit value).toNat, ?_⟩
  revert small value
  decide

private theorem unit_bytes {code : Nat} (control : code < 0x20) : ∃ high low,
    ['\\', 'u', '0', '0', Json.upperDigit (code / 16), Json.upperDigit (code % 16)].flatMap
      String.utf8EncodeChar = [0x5c, 0x75, 0x30, 0x30, high, low] ∧
    codeUnit 0x30 0x30 high low = .ok code ∧ isPlain high = true ∧ isPlain low = true := by
  obtain ⟨high, highBytes, highValue, highPlain⟩ := upperDigit_byte (code / 16) (by omega)
  obtain ⟨low, lowBytes, lowValue, lowPlain⟩ := upperDigit_byte (code % 16) (by omega)
  refine ⟨high, low, ?_, ?_, highPlain, lowPlain⟩
  · simp only [List.flatMap_cons, List.flatMap_nil, highBytes, lowBytes]
    rfl
  · rw [codeUnit_of_values (w := 0) (x := 0) rfl rfl highValue lowValue]
    congr 1
    omega

theorem escaped_bytes {c : Char} {written : List Char} (escaped : Escaped c written) :
    EscapedBytes c (written.flatMap String.utf8EncodeChar) := by
  cases escaped with
  | plain visible noQuote noBackslash =>
    simp only [List.flatMap_cons, List.flatMap_nil, List.append_nil]
    exact .plain fun byte => isPlain_of_mem_encodeChar visible noQuote noBackslash
  | short listed =>
    obtain ⟨letter, byte, bytes, known, visible, same⟩ := short_bytes _ listed
    rw [bytes]
    exact .short known visible same
  | unit control =>
    obtain ⟨high, low, bytes, value, plain⟩ := unit_bytes control
    rw [bytes]
    exact .unit value control plain

theorem splitString_plain {plain : Bytes} (all : ∀ byte ∈ plain, isPlain byte = true)
    (rest : Bytes) :
    splitString false (plain ++ rest) =
      (splitString false rest).map fun (body, behind) => (plain ++ body, behind) := by
  induction plain with
  | nil => simp
  | cons byte plain ih =>
    have here := all byte (by simp)
    simp only [isPlain, Bool.and_eq_true, decide_eq_true_eq] at here
    rw [List.cons_append, splitString]
    simp only [here.2, here.1.2, decide_false, Bool.false_and, Bool.false_eq_true, ite_false]
    rw [ih fun other member => all other (by simp [member])]
    cases splitString false rest <;> rfl

theorem splitString_escape (letter : UInt8) (rest : Bytes) :
    splitString false (0x5c :: letter :: rest) =
      (splitString false rest).map fun (body, behind) => (0x5c :: letter :: body, behind) := by
  have escape : splitString false (0x5c :: letter :: rest) =
      (splitString true (letter :: rest)).map fun (body, behind) => (0x5c :: body, behind) := rfl
  rw [escape, splitString]
  simp only [Bool.not_true, Bool.and_false, Bool.false_eq_true, ite_false]
  cases splitString false rest <;> rfl

theorem splitString_unit {digits : Bytes} (all : ∀ byte ∈ digits, isPlain byte = true) (rest : Bytes) :
    splitString false (0x5c :: 0x75 :: (digits ++ rest)) =
      (splitString false rest).map fun (body, behind) => (0x5c :: 0x75 :: (digits ++ body), behind) := by
  rw [splitString_escape, splitString_plain all]
  cases splitString false rest <;> rfl

/-- However a character is written, the search for the end passes over it. -/
theorem splitString_escaped {c : Char} {written : Bytes} (escaped : EscapedBytes c written)
    (rest : Bytes) :
    splitString false (written ++ rest) =
      (splitString false rest).map fun (body, behind) => (written ++ body, behind) := by
  cases escaped with
  | plain all => exact splitString_plain all rest
  | short => exact splitString_escape _ rest
  | @unit high low value control plain =>
    have digits : ∀ byte ∈ [0x30, 0x30, high, low], isPlain byte = true := by
      intro byte member
      simp only [List.mem_cons, List.not_mem_nil, or_false] at member
      rcases member with rfl | rfl | rfl | rfl
      · rfl
      · rfl
      · exact plain.1
      · exact plain.2
    exact splitString_unit digits rest

theorem unescape_cons {byte : UInt8} (other : byte ≠ 0x5c) (rest : Bytes) :
    unescape none (byte :: rest) =
      if byte ≤ 0x1f then .error .controlCharacter else (unescape none rest).map (byte :: ·) := by
  rw [unescape.eq_def]
  split <;> rename_i same <;> cases same
  -- The cases of the definition that need a backslash are out of the question.
  all_goals first | exact absurd rfl other | skip
  simp only [Option.isSome_none, Bool.false_eq_true, ite_false]
  cases unescape none rest <;> rfl

theorem unescape_plain {plain : Bytes} (all : ∀ byte ∈ plain, isPlain byte = true) (rest : Bytes) :
    unescape none (plain ++ rest) = (unescape none rest).map (plain ++ ·) := by
  induction plain with
  | nil =>
    rw [List.nil_append]
    cases unescape none rest <;> rfl
  | cons byte plain ih =>
    have here := all byte (by simp)
    simp only [isPlain, Bool.and_eq_true, decide_eq_true_eq] at here
    have visible : ¬ byte ≤ 0x1f := UInt8.not_le.mpr here.1.1
    rw [List.cons_append, unescape_cons here.1.2, ih fun other member => all other (by simp [member])]
    simp only [visible, ite_false]
    cases unescape none rest <;> rfl

theorem unescape_short {letter byte : UInt8} (known : shortEscape? letter = some byte)
    (visible : 0x1f < letter) (rest : Bytes) :
    unescape none (0x5c :: letter :: rest) = (unescape none rest).map (byte :: ·) := by
  have other : letter ≠ 0x75 := by
    intro same
    rw [same] at known
    cases known
  have printable : ¬ letter ≤ 0x1f := UInt8.not_le.mpr visible
  rw [unescape.eq_def]
  split <;> rename_i same <;> cases same
  all_goals first | exact absurd rfl other | skip
  · simp only [printable, ite_false, known]
    cases unescape none rest <;> rfl
  next notEscape => exact (notEscape letter rest rfl rfl).elim

/-- However a character is written, it is read as itself. -/
theorem unescape_escaped {c : Char} {written : Bytes} (escaped : EscapedBytes c written)
    (rest : Bytes) :
    unescape none (written ++ rest) =
      (unescape none rest).map (String.utf8EncodeChar c ++ ·) := by
  cases escaped with
  | plain all => exact unescape_plain all rest
  | short known visible same =>
    rw [same]
    exact unescape_short known visible rest
  | @unit high low value control plain =>
    have combined : combine none c.toNat = .ok (String.utf8EncodeChar c, none) := by
      have below : ¬ (0xd800 ≤ c.toNat ∧ c.toNat ≤ 0xdbff) := by omega
      have below' : ¬ (0xdc00 ≤ c.toNat ∧ c.toNat ≤ 0xdfff) := by omega
      simp only [combine, below, below', ite_false, encoded, Char.ofNat_toNat]
    change unescape none (0x5c :: 0x75 :: 0x30 :: 0x30 :: high :: low :: rest) = _
    rw [unescape]
    simp only [value, combined, ok_bind]
    cases unescape none rest <;> rfl

/-- A body without backslashes is its own text. -/
theorem unescape_verbatim {body result : Bytes} (bare : 0x5c ∉ body)
    (read : unescape none body = .ok result) : result = body := by
  induction body generalizing result with
  | nil =>
    cases read
    rfl
  | cons byte body ih =>
    simp only [List.mem_cons, not_or] at bare
    rw [unescape_cons (Ne.symm bare.1)] at read
    by_cases control : byte ≤ 0x1f
    · simp only [control, ite_true] at read
      cases read
    · simp only [control, ite_false] at read
      cases others : unescape none body with
      | error fault =>
        rw [others] at read
        cases read
      | ok inner =>
        rw [others] at read
        cases read
        rw [ih bare.2 others]

theorem bodyText_of_unescape {body : Bytes} {text : String}
    (read : unescape none body = .ok (Text.bytes text)) : bodyText body = .ok text := by
  unfold bodyText
  split
  · simp only [read, ok_bind, Text.ofBytes?_bytes]
    rfl
  next bare =>
    have absent : 0x5c ∉ body := by simpa using bare
    have same := unescape_verbatim absent read
    subst same
    simp only [pure, Except.pure, ok_bind, Text.ofBytes?_bytes]

private theorem escape_bytes (c : Char) : EscapedBytes c (Text.bytes (Json.escape c)) := by
  rw [Text.bytes_eq_flatMap]
  exact escaped_bytes (Json.escape_escaped c)

theorem splitString_body (text : String) (rest : Bytes) :
    splitString false (Json.bodyBytes text ++ 0x22 :: rest) =
      some (Json.bodyBytes text, rest) := by
  unfold Json.bodyBytes
  induction text.toList with
  | nil => rfl
  | cons c chars ih =>
    rw [List.flatMap_cons, List.append_assoc, splitString_escaped (escape_bytes c), ih]
    rfl

theorem unescape_body (text : String) :
    unescape none (Json.bodyBytes text) = .ok (Text.bytes text) := by
  rw [Text.bytes_eq_flatMap, Json.bodyBytes]
  induction text.toList with
  | nil => rfl
  | cons c chars ih =>
    rw [List.flatMap_cons, unescape_escaped (escape_bytes c), ih]
    rfl

/-- A written string is read back, whatever stands behind it. -/
theorem string_takes (text : String) (rest : Bytes) :
    Reader.Takes string (Text.bytes (Json.string text) ++ rest) text rest := by
  rw [Json.bytes_string, List.cons_append, List.append_assoc]
  exact Reader.takes_string (begins_cons _ rfl) (splitString_body text rest)
    (bodyText_of_unescape (unescape_body text))

end SwapDesk.Wire
