import SwapDesk.Proofs.JsonLayout

/-! Every well-formed string is read as the characters that it stands for, whichever escapes it
is written with. -/

namespace SwapDesk.Wire

open Json (Symbol Body Quotes hexDigit? unit? isHighSurrogate isLowSurrogate joined)

/-- Bytes inside a string that stand for a character, wherever the string goes on from there. -/
structure Stands (written : Bytes) (c : Char) : Prop where
  passed : ∀ rest, splitString false (written ++ rest) =
    (splitString false rest).map fun (body, behind) => (written ++ body, behind)
  resolved : ∀ rest, unescape none (written ++ rest) =
    (unescape none rest).map (String.utf8EncodeChar c ++ ·)

theorem EscapedBytes.stands {c : Char} {written : Bytes} (escaped : EscapedBytes c written) :
    Stands written c :=
  ⟨splitString_escaped escaped, unescape_escaped escaped⟩

private theorem hex_ascii : ∀ code < 128, ∀ value, hexDigit? (Char.ofNat code) = some value →
    hexValue? (UInt8.ofNat code) = some value ∧ isPlain (UInt8.ofNat code) = true := by
  decide

private theorem hexDigit_byte {c : Char} {value : Nat} (known : hexDigit? c = some value) : ∃ byte,
    String.utf8EncodeChar c = [byte] ∧ hexValue? byte = some value ∧ isPlain byte = true := by
  have ascii : c.toNat < 128 := by
    have bounded (top : Char) (small : top.toNat < 128) (below : c ≤ top) : c.toNat < 128 :=
      Nat.lt_of_le_of_lt below small
    unfold hexDigit? at known
    split at known
    next range => exact bounded '9' (by decide) range.2
    split at known
    next range => exact bounded 'f' (by decide) range.2
    split at known
    next range => exact bounded 'F' (by decide) range.2
    cases known
  have facts := hex_ascii c.toNat ascii value
  rw [Char.ofNat_toNat] at facts
  exact ⟨_, Text.encodeChar_ascii ascii, facts known⟩

/-- Four digits that make a unit, byte by byte. -/
structure UnitBytes (digits : List Char) (code : Nat) (a b c d : UInt8) : Prop where
  bytes : digits.flatMap String.utf8EncodeChar = [a, b, c, d]
  value : codeUnit a b c d = .ok code
  plain : ∀ byte ∈ [a, b, c, d], isPlain byte = true

private theorem unitBytes_of_known {first second third fourth : Char} {code : Nat}
    (known : unit? [first, second, third, fourth] = some code) :
    ∃ a b c d, UnitBytes [first, second, third, fourth] code a b c d := by
  simp only [unit?, Option.bind_eq_bind, Option.bind_eq_some_iff, Option.pure_def,
    Option.some.injEq] at known
  obtain ⟨w, one, x, two, y, three, z, four, rfl⟩ := known
  obtain ⟨a, bytesA, valueA, plainA⟩ := hexDigit_byte one
  obtain ⟨b, bytesB, valueB, plainB⟩ := hexDigit_byte two
  obtain ⟨c, bytesC, valueC, plainC⟩ := hexDigit_byte three
  obtain ⟨d, bytesD, valueD, plainD⟩ := hexDigit_byte four
  refine ⟨a, b, c, d, ?_, codeUnit_of_values valueA valueB valueC valueD, ?_⟩
  · simp only [List.flatMap_cons, List.flatMap_nil, bytesA, bytesB, bytesC, bytesD]
    rfl
  · simp [plainA, plainB, plainC, plainD]

theorem UnitBytes.written {digits : List Char} {code : Nat} {a b c d : UInt8}
    (unit : UnitBytes digits code a b c d) (rest : List Char) :
    ('\\' :: 'u' :: (digits ++ rest)).flatMap String.utf8EncodeChar =
      0x5c :: 0x75 :: a :: b :: c :: d :: rest.flatMap String.utf8EncodeChar := by
  have backslash : String.utf8EncodeChar '\\' = [0x5c] := rfl
  have letter : String.utf8EncodeChar 'u' = [0x75] := rfl
  rw [List.flatMap_cons, List.flatMap_cons, List.flatMap_append, unit.bytes, backslash, letter]
  rfl

theorem UnitBytes.passed {digits : List Char} {code : Nat} {a b c d : UInt8}
    (unit : UnitBytes digits code a b c d) (rest : Bytes) :
    splitString false (0x5c :: 0x75 :: a :: b :: c :: d :: rest) =
      (splitString false rest).map fun (body, behind) =>
        (0x5c :: 0x75 :: a :: b :: c :: d :: body, behind) :=
  splitString_unit unit.plain rest

theorem UnitBytes.resolved {digits : List Char} {code : Nat} {a b c d : UInt8}
    (unit : UnitBytes digits code a b c d) {pending after : Option Nat} {written : Bytes}
    (combined : combine pending code = .ok (written, after)) (rest : Bytes) :
    unescape pending (0x5c :: 0x75 :: a :: b :: c :: d :: rest) =
      (unescape after rest).map (written ++ ·) := by
  rw [unescape]
  simp only [unit.value, combined, ok_bind]
  cases unescape after rest <;> rfl

private theorem combine_whole {code : Nat}
    (whole : isHighSurrogate code = false ∧ isLowSurrogate code = false) :
    combine none code = .ok (encoded code, none) := by
  simp only [isHighSurrogate, isLowSurrogate, Bool.and_eq_false_iff, decide_eq_false_iff_not] at whole
  have noHigh : ¬ (0xd800 ≤ code ∧ code ≤ 0xdbff) := by omega
  have noLow : ¬ (0xdc00 ≤ code ∧ code ≤ 0xdfff) := by omega
  simp only [combine, noHigh, noLow, ite_false]

private theorem combine_high {high : Nat} (isHigh : isHighSurrogate high = true) :
    combine none high = .ok ([], some high) := by
  simp only [isHighSurrogate, Bool.and_eq_true, decide_eq_true_eq] at isHigh
  simp only [combine, isHigh, and_self, ite_true]

private theorem combine_low {high low : Nat} (isLow : isLowSurrogate low = true) :
    combine (some high) low = .ok (String.utf8EncodeChar (joined high low), none) := by
  simp only [isLowSurrogate, Bool.and_eq_true, decide_eq_true_eq] at isLow
  have noHigh : ¬ (0xd800 ≤ low ∧ low ≤ 0xdbff) := by omega
  simp only [combine, noHigh, isLow, and_self, ite_false, ite_true, encoded, joined]

private theorem map_nothing {written : Bytes} (outcome : Except Fault Bytes) :
    (outcome.map (written ++ ·)).map ([] ++ ·) = outcome.map (written ++ ·) := by
  cases outcome <;> rfl

/-- Every symbol of a well-formed string is passed over as a whole and resolved to its
character. -/
theorem Symbol.stands {input rest : List Char} {c : Char} (symbol : Symbol input c rest) :
    ∃ written, input.flatMap String.utf8EncodeChar = written ++ rest.flatMap String.utf8EncodeChar ∧
      Stands written c := by
  cases symbol with
  | plain visible noQuote noBackslash =>
    refine ⟨_, ?_, (escaped_bytes (.plain visible noQuote noBackslash)).stands⟩
    simp only [List.flatMap_cons, List.flatMap_nil, List.append_nil]
  | short listed =>
    refine ⟨_, ?_, (escaped_bytes (.short listed)).stands⟩
    simp only [List.flatMap_cons, List.flatMap_nil, List.append_nil, List.append_assoc]
  | unit digits whole =>
    obtain ⟨w, x, y, z, unit⟩ := unitBytes_of_known digits
    refine ⟨[0x5c, 0x75, w, x, y, z], unit.written rest, ?_, ?_⟩
    · intro behind
      simp only [List.cons_append, List.nil_append]
      exact unit.passed behind
    · intro behind
      simp only [List.cons_append, List.nil_append]
      exact unit.resolved (combine_whole whole) behind
  | pair first second halves =>
    obtain ⟨w, x, y, z, upper⟩ := unitBytes_of_known first
    obtain ⟨w', x', y', z', lower⟩ := unitBytes_of_known second
    refine ⟨[0x5c, 0x75, w, x, y, z, 0x5c, 0x75, w', x', y', z'], ?_, ?_, ?_⟩
    · have others := congrArg ([0x5c, 0x75, w, x, y, z] ++ ·) (lower.written rest)
      exact (upper.written _).trans others
    · intro behind
      simp only [List.cons_append, List.nil_append]
      rw [upper.passed, lower.passed, Option.map_map]
      rfl
    · intro behind
      simp only [List.cons_append, List.nil_append]
      rw [upper.resolved (combine_high halves.1), lower.resolved (combine_low halves.2)]
      exact map_nothing _

theorem Body.read {quoted chars rest : List Char} (body : Body quoted chars rest) : ∃ written,
    quoted.flatMap String.utf8EncodeChar =
      written ++ 0x22 :: rest.flatMap String.utf8EncodeChar ∧
    (∀ behind, splitString false (written ++ 0x22 :: behind) = some (written, behind)) ∧
    unescape none written = .ok (chars.flatMap String.utf8EncodeChar) := by
  induction body with
  | ends => exact ⟨[], rfl, fun _ => rfl, rfl⟩
  | symbol head _ ih =>
    obtain ⟨first, bytes, stands⟩ := Symbol.stands head
    obtain ⟨others, bytes', passed, resolved⟩ := ih
    refine ⟨first ++ others, ?_, ?_, ?_⟩
    · rw [bytes, bytes', List.append_assoc]
    · intro behind
      rw [List.append_assoc, stands.passed, passed]
      rfl
    · rw [stands.resolved, resolved]
      rfl

theorem Begins.behind {gap input rest : Bytes} {first : UInt8} (blank : gap.all isBlank = true)
    (begins : Begins input first rest) : Begins (gap ++ input) first rest := by
  unfold Begins
  rw [List.dropWhile_append_of_pos (List.all_eq_true.mp blank)]
  exact begins

/-- A string in quotes is taken as its value, whatever stands behind it. -/
theorem Quotes.takes {gap text : Bytes} {value : String} (quotes : Quotes text value)
    (blank : gap.all isBlank = true) (rest : Bytes) :
    string.Takes (gap ++ (text ++ rest)) value rest := by
  obtain ⟨inner, rfl, body⟩ := quotes
  obtain ⟨written, bytes, passed, resolved⟩ := Body.read body
  have quote : String.utf8EncodeChar '"' = [0x22] := rfl
  have layout : Text.bytes (String.ofList ('"' :: inner)) ++ rest = 0x22 :: (written ++ 0x22 :: rest) := by
    rw [Text.bytes_ofList, List.flatMap_cons, quote, bytes]
    simp
  have begins : Begins (0x22 :: (written ++ 0x22 :: rest)) 0x22 (written ++ 0x22 :: rest) :=
    begins_cons _ rfl
  rw [← Text.bytes_ofList, String.ofList_toList] at resolved
  rw [layout]
  exact Reader.takes_string (begins.behind blank) (passed rest) (bodyText_of_unescape resolved)

end SwapDesk.Wire
