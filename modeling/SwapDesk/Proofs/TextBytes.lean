import SwapDesk.Bytes

/-! UTF-8 seen character by character. A character of ASCII is one byte below 128, and
every byte of any other character is 128 or more, so no byte of one can be taken for the
other. -/

namespace SwapDesk.Text

theorem bytes_eq_flatMap (text : String) :
    bytes text = text.toList.flatMap String.utf8EncodeChar := by
  have encoded : text.toByteArray = text.toList.utf8Encode := String.utf8Encode_toList.symm
  simp only [bytes, encoded, List.utf8Encode]
  simp

theorem bytes_ofList (chars : List Char) :
    bytes (String.ofList chars) = chars.flatMap String.utf8EncodeChar := by
  rw [bytes_eq_flatMap, String.toList_ofList]

theorem bytes_injective {text other : String} (same : bytes text = bytes other) : text = other := by
  have read := ofBytes?_bytes text
  rw [same, ofBytes?_bytes] at read
  exact (Option.some.inj read).symm

theorem bytes_join (texts : List String) : bytes (String.join texts) = texts.flatMap bytes := by
  induction texts with
  | nil => rfl
  | cons text texts ih => rw [String.join_cons, bytes_append, ih, List.flatMap_cons]

theorem encodeChar_ascii {c : Char} (ascii : c.toNat < 128) :
    String.utf8EncodeChar c = [UInt8.ofNat c.toNat] := by
  have small : c.val.toNat ≤ 127 := by
    change c.val.toNat < 128 at ascii
    omega
  simp only [String.utf8EncodeChar, small, ite_true, Char.toNat]

/-- No byte of a character beyond ASCII is an ASCII character. -/
theorem le_of_mem_encodeChar {c : Char} {byte : UInt8} (beyond : 128 ≤ c.toNat)
    (member : byte ∈ String.utf8EncodeChar c) : 128 ≤ byte.toNat := by
  change 128 ≤ c.val.toNat at beyond
  have large : ¬ c.val.toNat ≤ 127 := by omega
  have inRange : c.val.toNat < 0x110000 := by
    rcases c.valid with low | high
    · change c.val.toNat < 0xd800 at low
      omega
    · exact high.2
  simp only [String.utf8EncodeChar, large, ite_false] at member
  split at member
  · simp only [List.mem_cons, List.not_mem_nil, or_false] at member
    rcases member with rfl | rfl <;> simp only [UInt8.toNat_ofNat'] <;> omega
  · split at member
    · simp only [List.mem_cons, List.not_mem_nil, or_false] at member
      rcases member with rfl | rfl | rfl <;> simp only [UInt8.toNat_ofNat'] <;> omega
    · simp only [List.mem_cons, List.not_mem_nil, or_false] at member
      rcases member with rfl | rfl | rfl | rfl <;> simp only [UInt8.toNat_ofNat'] <;> omega

end SwapDesk.Text
