import SwapDesk.Base64
import SwapDesk.Proofs.TextBytes

/-! Decoding base64 undoes encoding. A block is read by the values of its symbols, and the
encoder writes one whole block for every three bytes, so the two run in step. -/

namespace SwapDesk.Base64

def symbolByte (value : Nat) : UInt8 := UInt8.ofNat (symbol value).toNat

private theorem symbol_table : ∀ value < 64,
    (symbol value).toNat < 128 ∧ value? (symbolByte value) = some value := by
  decide

theorem symbol_ascii {value : Nat} (small : value < 64) : (symbol value).toNat < 128 :=
  (symbol_table value small).1

theorem value_symbolByte {value : Nat} (small : value < 64) :
    value? (symbolByte value) = some value := (symbol_table value small).2

theorem expectSymbol_of_value {byte : UInt8} {value : Nat} (known : value? byte = some value)
    (position : Nat) : expectSymbol position byte = .ok value := by
  simp only [expectSymbol, known]

theorem ne_pad_of_value {byte : UInt8} {value : Nat} (known : value? byte = some value) :
    byte ≠ pad := by
  intro same
  rw [same] at known
  cases known

variable {a b c d : UInt8} {w x y z : Nat}

theorem strip_two (solid : b ≠ pad) :
    ([a, b, pad, pad].reverse.dropWhile (· == pad)).reverse = [a, b] := by
  simp only [List.reverse_cons, List.reverse_nil, List.nil_append, List.cons_append,
    List.dropWhile_cons, beq_self_eq_true, ite_true, beq_iff_eq, solid, ite_false]

theorem strip_one (solid : c ≠ pad) :
    ([a, b, c, pad].reverse.dropWhile (· == pad)).reverse = [a, b, c] := by
  simp only [List.reverse_cons, List.reverse_nil, List.nil_append, List.cons_append,
    List.dropWhile_cons, beq_self_eq_true, ite_true, beq_iff_eq, solid, ite_false]

theorem strip_none (solid : d ≠ pad) :
    ([a, b, c, d].reverse.dropWhile (· == pad)).reverse = [a, b, c, d] := by
  simp only [List.reverse_cons, List.reverse_nil, List.nil_append, List.cons_append,
    List.dropWhile_cons, beq_iff_eq, solid, ite_false]

theorem block_one (first : value? a = some w) (second : value? b = some x) (unused : x % 16 = 0)
    (position : Nat) : block position [a, b, pad, pad] = .ok [UInt8.ofNat (w * 4 + x / 16)] := by
  simp only [block, strip_two (ne_pad_of_value second), expectSymbol_of_value first,
    expectSymbol_of_value second, bind, Except.bind, unused, ne_eq, not_true, ite_false]

theorem block_two (first : value? a = some w) (second : value? b = some x)
    (third : value? c = some y) (unused : y % 4 = 0) (position : Nat) :
    block position [a, b, c, pad] =
      .ok [UInt8.ofNat (w * 4 + x / 16), UInt8.ofNat (x % 16 * 16 + y / 4)] := by
  simp only [block, strip_one (ne_pad_of_value third), expectSymbol_of_value first,
    expectSymbol_of_value second, expectSymbol_of_value third, bind, Except.bind, unused, ne_eq,
    not_true, ite_false]

theorem block_three (first : value? a = some w) (second : value? b = some x)
    (third : value? c = some y) (fourth : value? d = some z) (position : Nat) :
    block position [a, b, c, d] = .ok [UInt8.ofNat (w * 4 + x / 16),
      UInt8.ofNat (x % 16 * 16 + y / 4), UInt8.ofNat (y % 4 * 64 + z)] := by
  simp only [block, strip_none (ne_pad_of_value fourth), expectSymbol_of_value first,
    expectSymbol_of_value second, expectSymbol_of_value third, expectSymbol_of_value fourth, bind,
    Except.bind]

theorem blocks_of_block {first others rest : Bytes} {position : Nat}
    (here : block position [a, b, c, d] = .ok first)
    (behind : blocks (position + 4) rest = .ok others) :
    blocks position (a :: b :: c :: d :: rest) = .ok (first ++ others) := by
  simp only [blocks, here, behind, bind, Except.bind]

/-- The bytes of the text that is written for the given bytes. -/
def written : Bytes → Bytes
  | [] => []
  | [a] => [symbolByte (a.toNat / 4), symbolByte (a.toNat % 4 * 16), pad, pad]
  | [a, b] =>
    [symbolByte (a.toNat / 4), symbolByte (a.toNat % 4 * 16 + b.toNat / 16),
      symbolByte (b.toNat % 16 * 4), pad]
  | a :: b :: c :: rest =>
    symbolByte (a.toNat / 4) :: symbolByte (a.toNat % 4 * 16 + b.toNat / 16) ::
      symbolByte (b.toNat % 16 * 4 + c.toNat / 64) :: symbolByte (c.toNat % 64) :: written rest

private theorem encodeChar_symbol {value : Nat} (small : value < 64) :
    String.utf8EncodeChar (symbol value) = [symbolByte value] :=
  Text.encodeChar_ascii (symbol_ascii small)

private theorem encodeChar_pad : String.utf8EncodeChar '=' = [pad] := rfl

private theorem high_six (byte : UInt8) : byte.toNat / 4 < 64 := by
  have := byte.toNat_lt
  omega

private theorem split_six (byte next : UInt8) : byte.toNat % 4 * 16 + next.toNat / 16 < 64 := by
  have := next.toNat_lt
  omega

private theorem split_two (byte next : UInt8) : byte.toNat % 16 * 4 + next.toNat / 64 < 64 := by
  have := next.toNat_lt
  omega

private theorem low_two (byte : UInt8) : byte.toNat % 4 * 16 < 64 := by omega

private theorem low_four (byte : UInt8) : byte.toNat % 16 * 4 < 64 := by omega

private theorem low_six (byte : UInt8) : byte.toNat % 64 < 64 := by omega

theorem bytes_encode (input : Bytes) : Text.bytes (encode input) = written input := by
  rw [encode, Text.bytes_ofList]
  induction input using symbols.induct with
  | case1 => rfl
  | case2 a =>
    simp only [symbols, written, List.flatMap_cons, List.flatMap_nil,
      encodeChar_symbol (high_six a), encodeChar_symbol (low_two a), encodeChar_pad]
    rfl
  | case3 a b =>
    simp only [symbols, written, List.flatMap_cons, List.flatMap_nil,
      encodeChar_symbol (high_six a), encodeChar_symbol (split_six a b),
      encodeChar_symbol (low_four b), encodeChar_pad]
    rfl
  | case4 a b c rest ih =>
    simp only [symbols, written, List.flatMap_cons, encodeChar_symbol (high_six a),
      encodeChar_symbol (split_six a b), encodeChar_symbol (split_two b c),
      encodeChar_symbol (low_six c), ih]
    rfl

theorem length_written (input : Bytes) : (written input).length % 4 = 0 := by
  induction input using symbols.induct with
  | case1 => rfl
  | case2 a => simp [written]
  | case3 a b => simp [written]
  | case4 a b c rest ih =>
    simp only [written, List.length_cons]
    omega

private theorem byte_of_parts (byte : UInt8) {value : Nat} (same : value = byte.toNat) :
    UInt8.ofNat value = byte := by
  rw [same, UInt8.ofNat_toNat]

theorem blocks_written (input : Bytes) (position : Nat) :
    blocks position (written input) = .ok input := by
  induction input using symbols.induct generalizing position with
  | case1 => rfl
  | case2 a =>
    have read := block_one (value_symbolByte (high_six a)) (value_symbolByte (low_two a)) (by omega)
      position
    rw [byte_of_parts a (by omega)] at read
    exact blocks_of_block read rfl
  | case3 a b =>
    have := b.toNat_lt
    have read := block_two (value_symbolByte (high_six a)) (value_symbolByte (split_six a b))
      (value_symbolByte (low_four b)) (by omega) position
    rw [byte_of_parts a (by omega), byte_of_parts b (by omega)] at read
    exact blocks_of_block read rfl
  | case4 a b c rest ih =>
    have := b.toNat_lt
    have := c.toNat_lt
    have read := block_three (value_symbolByte (high_six a)) (value_symbolByte (split_six a b))
      (value_symbolByte (split_two b c)) (value_symbolByte (low_six c)) position
    rw [byte_of_parts a (by omega), byte_of_parts b (by omega),
      byte_of_parts c (by omega)] at read
    exact blocks_of_block read (ih (position + 4))

theorem decode_encoded (input : Bytes) : decode (encode input) = .ok input := by
  simp only [decode, bytes_encode, length_written, ne_eq, not_true, ite_false, blocks_written]

end SwapDesk.Base64

namespace SwapDesk.Payload

theorem ofBase64_toBase64 (payload : Payload) : ofBase64 payload.toBase64 = .ok payload := by
  rw [ofBase64, toBase64, Base64.decode_encoded]
  rfl

end SwapDesk.Payload
