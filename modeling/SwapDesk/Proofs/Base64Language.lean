import SwapDesk.Proofs.AmountReading
import SwapDesk.Wire.Embedded

/-! The texts that base64 accepts. Every block of four characters is the written form of one to
three bytes, so a text is accepted exactly if it is made of written forms, one behind the other. -/

namespace SwapDesk.Base64

/-- The symbols in the order of their values. -/
def alphabet : List Char :=
  "ABCDEFGHIJKLMNOPQRSTUVWXYZabcdefghijklmnopqrstuvwxyz0123456789+/".toList

/-- The characters stand together when the text is cut into blocks of four from the left. -/
def IsBlock (text : String) (a b c d : Char) : Prop :=
  ∃ before after, before.length % 4 = 0 ∧ text.toList = before ++ a :: b :: c :: d :: after

/-- What keeps a text from being base64. -/
inductive Flawed (text : String) : Prop where
  | uneven (length : text.length % 4 ≠ 0 ∨ (Text.bytes text).length % 4 ≠ 0) : Flawed text
  | foreign {c : Char} (member : c ∈ text.toList) (noSymbol : c ∉ alphabet) (noPad : c ≠ '=') :
      Flawed text
  | padding {a b c d : Char} (block : IsBlock text a b c d)
      (misplaced : a = '=' ∨ b = '=' ∨ c = '=' ∧ d ≠ '=') : Flawed text
  | leftover {a b c d : Char} (block : IsBlock text a b c d)
      (unused : c = '=' ∧ d = '=' ∧ alphabet.idxOf b % 16 ≠ 0 ∨
        c ≠ '=' ∧ d = '=' ∧ alphabet.idxOf c % 4 ≠ 0) : Flawed text

/-- As many bytes as one block can hold. -/
inductive FillsBlock : Bytes → Prop where
  | one {a : UInt8} : FillsBlock [a]
  | two {a b : UInt8} : FillsBlock [a, b]
  | three {a b c : UInt8} : FillsBlock [a, b, c]

private theorem alphabet_eq : alphabet = (List.range 64).map symbol := by decide

private theorem listed_table : ∀ value < 64,
    symbol value ∈ alphabet ∧ alphabet.idxOf (symbol value) = value ∧ symbol value ≠ '=' := by
  decide

private theorem exists_of_listed {c : Char} (listed : c ∈ alphabet) : ∃ value < 64, c = symbol value := by
  rw [alphabet_eq] at listed
  obtain ⟨value, small, same⟩ := List.mem_map.mp listed
  exact ⟨value, List.mem_range.mp small, same.symm⟩

private theorem value_table : ∀ code < 256, ∀ value ∈ value? (UInt8.ofNat code),
    value < 64 ∧ UInt8.ofNat code = symbolByte value := by
  decide +kernel

private theorem byte_of_value {byte : UInt8} {value : Nat} (known : value? byte = some value) :
    value < 64 ∧ byte = symbolByte value := by
  have facts := value_table byte.toNat byte.toNat_lt value
  rw [UInt8.ofNat_toNat] at facts
  exact facts known

theorem written_eq_map (input : Bytes) :
    written input = (symbols input).map fun symbol => UInt8.ofNat symbol.toNat := by
  induction input using symbols.induct with
  | case1 | case2 | case3 => rfl
  | case4 a b c rest ih =>
    rw [written, ih]
    rfl

variable {w x y z : Nat}

private theorem toNat_of_lt {value : Nat} (small : value < 256) : (UInt8.ofNat value).toNat = value := by
  rw [UInt8.toNat_ofNat']
  omega

private theorem symbols_one (smallW : w < 64) (smallX : x < 64) (unused : x % 16 = 0) :
    symbols [UInt8.ofNat (w * 4 + x / 16)] = [symbol w, symbol x, '=', '='] := by
  have first : (w * 4 + x / 16) / 4 = w := by omega
  have second : (w * 4 + x / 16) % 4 * 16 = x := by omega
  rw [symbols, toNat_of_lt (by omega), first, second]

private theorem symbols_two (smallW : w < 64) (smallX : x < 64) (smallY : y < 64)
    (unused : y % 4 = 0) :
    symbols [UInt8.ofNat (w * 4 + x / 16), UInt8.ofNat (x % 16 * 16 + y / 4)] =
      [symbol w, symbol x, symbol y, '='] := by
  have first : (w * 4 + x / 16) / 4 = w := by omega
  have second : (w * 4 + x / 16) % 4 * 16 + (x % 16 * 16 + y / 4) / 16 = x := by omega
  have third : (x % 16 * 16 + y / 4) % 16 * 4 = y := by omega
  rw [symbols, toNat_of_lt (by omega), toNat_of_lt (by omega), first, second, third]

private theorem symbols_three (smallW : w < 64) (smallX : x < 64) (smallY : y < 64)
    (smallZ : z < 64) :
    symbols [UInt8.ofNat (w * 4 + x / 16), UInt8.ofNat (x % 16 * 16 + y / 4),
      UInt8.ofNat (y % 4 * 64 + z)] = [symbol w, symbol x, symbol y, symbol z] := by
  have first : (w * 4 + x / 16) / 4 = w := by omega
  have second : (w * 4 + x / 16) % 4 * 16 + (x % 16 * 16 + y / 4) / 16 = x := by omega
  have third : (x % 16 * 16 + y / 4) % 16 * 4 + (y % 4 * 64 + z) / 64 = y := by omega
  have fourth : (y % 4 * 64 + z) % 64 = z := by omega
  rw [symbols, toNat_of_lt (by omega), toNat_of_lt (by omega), toNat_of_lt (by omega), first,
    second, third, fourth, symbols]

theorem byte_of_expectSymbol {position : Nat} {byte : UInt8} {value : Nat}
    (read : expectSymbol position byte = .ok value) : value < 64 ∧ byte = symbolByte value := by
  unfold expectSymbol at read
  split at read
  next known =>
    cases read
    exact byte_of_value known
  next => cases read

section

variable {position : Nat} {a b c d : UInt8} {part : Bytes}

private theorem written_of_two (solid : b ≠ pad) (read : block position [a, b, pad, pad] = .ok part) :
    FillsBlock part ∧ written part = [a, b, pad, pad] := by
  simp only [block, strip_two solid] at read
  obtain ⟨w, first, behind⟩ := exists_of_bind_ok read
  obtain ⟨x, second, checked⟩ := exists_of_bind_ok behind
  obtain ⟨smallW, rfl⟩ := byte_of_expectSymbol first
  obtain ⟨smallX, rfl⟩ := byte_of_expectSymbol second
  split at checked
  next => cases checked
  next unused =>
    cases checked
    rw [written_eq_map, symbols_one smallW smallX (Decidable.not_not.mp unused)]
    exact ⟨.one, rfl⟩

private theorem written_of_three (solid : c ≠ pad) (read : block position [a, b, c, pad] = .ok part) :
    FillsBlock part ∧ written part = [a, b, c, pad] := by
  simp only [block, strip_one solid] at read
  obtain ⟨w, first, behind⟩ := exists_of_bind_ok read
  obtain ⟨x, second, behind⟩ := exists_of_bind_ok behind
  obtain ⟨y, third, checked⟩ := exists_of_bind_ok behind
  obtain ⟨smallW, rfl⟩ := byte_of_expectSymbol first
  obtain ⟨smallX, rfl⟩ := byte_of_expectSymbol second
  obtain ⟨smallY, rfl⟩ := byte_of_expectSymbol third
  split at checked
  next => cases checked
  next unused =>
    cases checked
    rw [written_eq_map, symbols_two smallW smallX smallY (Decidable.not_not.mp unused)]
    exact ⟨.two, rfl⟩

private theorem written_of_four (solid : d ≠ pad) (read : block position [a, b, c, d] = .ok part) :
    FillsBlock part ∧ written part = [a, b, c, d] := by
  simp only [block, strip_none solid] at read
  obtain ⟨w, first, behind⟩ := exists_of_bind_ok read
  obtain ⟨x, second, behind⟩ := exists_of_bind_ok behind
  obtain ⟨y, third, behind⟩ := exists_of_bind_ok behind
  obtain ⟨z, fourth, done⟩ := exists_of_bind_ok behind
  obtain ⟨smallW, rfl⟩ := byte_of_expectSymbol first
  obtain ⟨smallX, rfl⟩ := byte_of_expectSymbol second
  obtain ⟨smallY, rfl⟩ := byte_of_expectSymbol third
  obtain ⟨smallZ, rfl⟩ := byte_of_expectSymbol fourth
  cases done
  rw [written_eq_map, symbols_three smallW smallX smallY smallZ]
  exact ⟨.three, rfl⟩

/-- A block that is read is the written form of what is read. -/
theorem written_of_block (read : block position [a, b, c, d] = .ok part) :
    FillsBlock part ∧ written part = [a, b, c, d] := by
  by_cases fourth : d = pad
  · subst fourth
    by_cases third : c = pad
    · subst third
      by_cases second : b = pad
      · -- At most one symbol is left, which is too little for a byte.
        subst second
        by_cases first : a = pad
        · subst first
          cases read
        · simp [block, first] at read
      · exact written_of_two second read
    · exact written_of_three third read
  · exact written_of_four fourth read

end

theorem parts_of_blocks {position : Nat} {input output : Bytes}
    (read : blocks position input = .ok output) :
    ∃ parts : List Bytes, (∀ part ∈ parts, FillsBlock part) ∧ input = parts.flatMap written ∧
      output = parts.flatten := by
  induction position, input using blocks.induct generalizing output with
  | case1 =>
    cases read
    exact ⟨[], by simp, rfl, rfl⟩
  | case2 position a b c d rest ih =>
    obtain ⟨first, here, read⟩ := exists_of_bind_ok read
    obtain ⟨others, behind, read⟩ := exists_of_bind_ok read
    cases read
    obtain ⟨fills, bytes⟩ := written_of_block here
    obtain ⟨parts, all, rfl, rfl⟩ := ih behind
    refine ⟨first :: parts, ?_, ?_, rfl⟩
    · intro part member
      rcases List.mem_cons.mp member with rfl | later
      · exact fills
      · exact all part later
    · rw [List.flatMap_cons, bytes]
      rfl
  | case3 input position nonempty few =>
    rw [blocks] at read
    · cases read
    · exact nonempty
    · exact few

theorem blocks_append {position : Nat} {first second output output' : Bytes}
    (read : blocks position first = .ok output)
    (read' : blocks (position + first.length) second = .ok output') :
    blocks position (first ++ second) = .ok (output ++ output') := by
  induction position, first using blocks.induct generalizing output with
  | case1 =>
    cases read
    exact read'
  | case2 position a b c d rest ih =>
    obtain ⟨here, done, read⟩ := exists_of_bind_ok read
    obtain ⟨others, behind, read⟩ := exists_of_bind_ok read
    cases read
    have shifted : position + (a :: b :: c :: d :: rest).length = position + 4 + rest.length := by
      simp only [List.length_cons]
      omega
    rw [shifted] at read'
    rw [List.append_assoc]
    exact blocks_of_block done (ih behind read')
  | case3 input position nonempty few =>
    rw [blocks] at read
    · cases read
    · exact nonempty
    · exact few

theorem blocks_parts (parts : List Bytes) (position : Nat) :
    blocks position (parts.flatMap written) = .ok parts.flatten := by
  induction parts generalizing position with
  | nil => rfl
  | cons part parts ih => exact blocks_append (blocks_written part position) (ih _)

/-- The written forms of byte strings, one behind the other. -/
def joined (parts : List Bytes) : String := String.join (parts.map encode)

theorem bytes_joined (parts : List Bytes) : Text.bytes (joined parts) = parts.flatMap written := by
  rw [joined, Text.bytes_join, List.flatMap_map]
  simp only [bytes_encode]

theorem toList_joined (parts : List Bytes) : (joined parts).toList = parts.flatMap symbols := by
  rw [joined, String.toList_join, List.flatMap_map]
  simp only [encode, String.toList_ofList]

private theorem length_parts (parts : List Bytes) : (parts.flatMap written).length % 4 = 0 := by
  induction parts with
  | nil => rfl
  | cons part parts ih =>
    have := length_written part
    rw [List.flatMap_cons, List.length_append]
    omega

theorem decode_joined (parts : List Bytes) : decode (joined parts) = .ok parts.flatten := by
  rw [decode, bytes_joined, if_neg (Decidable.not_not.mpr (length_parts parts)), blocks_parts]

theorem parts_of_decode {text : String} {output : Bytes} (read : decode text = .ok output) :
    ∃ parts, (∀ part ∈ parts, FillsBlock part) ∧ text = joined parts ∧ output = parts.flatten := by
  simp only [decode] at read
  split at read
  · cases read
  · obtain ⟨parts, fills, bytes, same⟩ := parts_of_blocks read
    rw [← bytes_joined] at bytes
    exact ⟨parts, fills, Text.bytes_injective bytes, same⟩

/-- Four characters that have none of the flaws of a block. -/
structure Sound (a b c d : Char) : Prop where
  known : ∀ symbol ∈ [a, b, c, d], symbol ≠ '=' → symbol ∈ alphabet
  placed : ¬ (a = '=' ∨ b = '=' ∨ c = '=' ∧ d ≠ '=')
  used : ¬ (c = '=' ∧ d = '=' ∧ alphabet.idxOf b % 16 ≠ 0 ∨
    c ≠ '=' ∧ d = '=' ∧ alphabet.idxOf c % 4 ≠ 0)

private theorem sound_one (smallW : w < 64) (smallX : x < 64) (unused : x % 16 = 0) :
    Sound (symbol w) (symbol x) '=' '=' := by
  obtain ⟨listedW, -, solidW⟩ := listed_table w smallW
  obtain ⟨listedX, valueX, solidX⟩ := listed_table x smallX
  exact ⟨by simp [listedW, listedX], by simp [solidW, solidX], by simp [valueX, unused]⟩

private theorem sound_two (smallW : w < 64) (smallX : x < 64) (smallY : y < 64)
    (unused : y % 4 = 0) : Sound (symbol w) (symbol x) (symbol y) '=' := by
  obtain ⟨listedW, -, solidW⟩ := listed_table w smallW
  obtain ⟨listedX, -, solidX⟩ := listed_table x smallX
  obtain ⟨listedY, valueY, solidY⟩ := listed_table y smallY
  exact ⟨by simp [listedW, listedX, listedY], by simp [solidW, solidX, solidY],
    by simp [solidY, valueY, unused]⟩

private theorem sound_three (smallW : w < 64) (smallX : x < 64) (smallY : y < 64)
    (smallZ : z < 64) : Sound (symbol w) (symbol x) (symbol y) (symbol z) := by
  obtain ⟨listedW, -, solidW⟩ := listed_table w smallW
  obtain ⟨listedX, -, solidX⟩ := listed_table x smallX
  obtain ⟨listedY, -, solidY⟩ := listed_table y smallY
  obtain ⟨listedZ, -, solidZ⟩ := listed_table z smallZ
  exact ⟨by simp [listedW, listedX, listedY, listedZ], by simp [solidW, solidX, solidY],
    by simp [solidZ]⟩

/-- What is written for one to three bytes is a block without a flaw. -/
theorem FillsBlock.sound {part : Bytes} (fills : FillsBlock part) :
    ∃ a b c d, symbols part = [a, b, c, d] ∧ Sound a b c d := by
  cases fills with
  | @one a =>
    have := a.toNat_lt
    exact ⟨_, _, _, _, rfl, sound_one (by omega) (by omega) (by omega)⟩
  | @two a b =>
    have := a.toNat_lt
    have := b.toNat_lt
    exact ⟨_, _, _, _, rfl, sound_two (by omega) (by omega) (by omega) (by omega)⟩
  | @three a b c =>
    have := a.toNat_lt
    have := b.toNat_lt
    have := c.toNat_lt
    exact ⟨_, _, _, _, rfl, sound_three (by omega) (by omega) (by omega) (by omega)⟩

/-- A block without a flaw is what is written for one to three bytes. -/
theorem Sound.part {a b c d : Char} (sound : Sound a b c d) :
    ∃ part, FillsBlock part ∧ symbols part = [a, b, c, d] := by
  obtain ⟨known, placed, used⟩ := sound
  have of_symbol : ∀ symbol' ∈ [a, b, c, d], symbol' ≠ '=' → ∃ value < 64, symbol' = symbol value :=
    fun symbol' member noPad => exists_of_listed (known symbol' member noPad)
  have noPadA : a ≠ '=' := fun pad => placed (.inl pad)
  have noPadB : b ≠ '=' := fun pad => placed (.inr (.inl pad))
  obtain ⟨w, smallW, rfl⟩ := of_symbol a (by simp) noPadA
  obtain ⟨x, smallX, rfl⟩ := of_symbol b (by simp) noPadB
  by_cases third : c = '='
  · have fourth : d = '=' := Decidable.not_not.mp fun solid => placed (.inr (.inr ⟨third, solid⟩))
    have unused : x % 16 = 0 := by
      rw [← (listed_table x smallX).2.1]
      exact Decidable.not_not.mp fun left => used (.inl ⟨third, fourth, left⟩)
    rw [third, fourth]
    exact ⟨_, .one, symbols_one smallW smallX unused⟩
  · obtain ⟨y, smallY, rfl⟩ := of_symbol c (by simp) third
    by_cases fourth : d = '='
    · have unused : y % 4 = 0 := by
        rw [← (listed_table y smallY).2.1]
        exact Decidable.not_not.mp fun left => used (.inr ⟨third, fourth, left⟩)
      rw [fourth]
      exact ⟨_, .two, symbols_two smallW smallX smallY unused⟩
    · obtain ⟨z, smallZ, rfl⟩ := of_symbol d (by simp) fourth
      exact ⟨_, .three, symbols_three smallW smallX smallY smallZ⟩

/-- Every block of a text made of parts is the written form of one of them. -/
theorem sound_of_parts {parts : List Bytes} (fills : ∀ part ∈ parts, FillsBlock part)
    {before after : List Char} {a b c d : Char} (whole : before.length % 4 = 0)
    (split : parts.flatMap symbols = before ++ a :: b :: c :: d :: after) : Sound a b c d := by
  induction parts generalizing before with
  | nil => simp at split
  | cons part parts ih =>
    obtain ⟨p, q, r, s, written, sound⟩ := (fills part (by simp)).sound
    rw [List.flatMap_cons, written] at split
    match before, whole, split with
    | [], _, split =>
      cases split
      exact sound
    | _ :: _ :: _ :: _ :: before, whole, split =>
      simp only [List.cons_append, List.nil_append, List.cons.injEq] at split
      obtain ⟨-, -, -, -, split⟩ := split
      simp only [List.length_cons] at whole
      exact ih (fun other member => fills other (by simp [member])) (by omega) split

theorem exists_parts : (chars : List Char) → chars.length % 4 = 0 →
    (∀ before after a b c d, before.length % 4 = 0 →
      chars = before ++ a :: b :: c :: d :: after → Sound a b c d) →
    ∃ parts : List Bytes, chars = parts.flatMap symbols
  | [], _, _ => ⟨[], rfl⟩
  | a :: b :: c :: d :: rest, even, sound => by
    obtain ⟨part, -, written⟩ := (sound [] rest a b c d rfl rfl).part
    have even' : rest.length % 4 = 0 := by
      simp only [List.length_cons] at even
      omega
    obtain ⟨parts, rfl⟩ := exists_parts rest even' fun before after p q r s whole split =>
      sound (a :: b :: c :: d :: before) after p q r s (by simp only [List.length_cons]; omega)
        (by rw [split]; rfl)
    refine ⟨part :: parts, ?_⟩
    rw [List.flatMap_cons, written]
    rfl

private theorem length_symbols (input : Bytes) : (symbols input).length = (written input).length := by
  rw [written_eq_map, List.length_map]

/-- A text is decoded unless it has a flaw. -/
theorem decode_eq_error_iff {text : String} :
    (∃ fault, decode text = .error fault) ↔ Flawed text := by
  constructor
  · rintro ⟨fault, failed⟩
    apply Classical.byContradiction
    intro flawless
    have even : text.toList.length % 4 = 0 := by
      rw [String.length_toList]
      exact Decidable.not_not.mp fun uneven => flawless (.uneven (.inl uneven))
    obtain ⟨parts, same⟩ := exists_parts text.toList even fun before after a b c d whole split => by
      have block : IsBlock text a b c d := ⟨before, after, whole, split⟩
      refine ⟨?_, fun misplaced => flawless (.padding block misplaced),
        fun unused => flawless (.leftover block unused)⟩
      intro c' member noPad
      have inside : c' ∈ text.toList := by
        rw [split]
        exact List.mem_append_right _ (List.mem_append_left after member)
      exact Decidable.not_not.mp fun noSymbol => flawless (.foreign inside noSymbol noPad)
    rw [← toList_joined, String.toList_inj] at same
    rw [same, decode_joined] at failed
    cases failed
  · intro flawed
    cases outcome : decode text with
    | error fault => exact ⟨fault, rfl⟩
    | ok output =>
      exfalso
      obtain ⟨parts, fills, rfl, -⟩ := parts_of_decode outcome
      have even := length_parts parts
      cases flawed with
      | uneven length =>
        rw [← String.length_toList, toList_joined, bytes_joined] at length
        simp only [List.length_flatMap, length_symbols] at length even
        omega
      | foreign member noSymbol noPad =>
        rw [toList_joined] at member
        obtain ⟨part, inside, member⟩ := List.mem_flatMap.mp member
        obtain ⟨a, b, c, d, written, sound⟩ := (fills part inside).sound
        rw [written] at member
        exact noSymbol (sound.known _ member noPad)
      | padding block misplaced =>
        obtain ⟨before, after, whole, split⟩ := block
        rw [toList_joined] at split
        exact (sound_of_parts fills whole split).placed misplaced
      | leftover block unused =>
        obtain ⟨before, after, whole, split⟩ := block
        rw [toList_joined] at split
        exact (sound_of_parts fills whole split).used unused

private theorem not_unpadded {part : Bytes} (fills : FillsBlock part) (noPad : '=' ∉ symbols part) :
    ∃ a b c, part = [a, b, c] := by
  cases fills with
  | one => simp [symbols] at noPad
  | two => simp [symbols] at noPad
  | @three a b c => exact ⟨a, b, c, rfl⟩

private theorem take_behind {front rest : List Char} (long : 4 ≤ rest.length) :
    (front ++ rest).take ((front ++ rest).length - 4) = front ++ rest.take (rest.length - 4) := by
  have within : (front ++ rest).length - 4 = front.length + (rest.length - 4) := by
    rw [List.length_append]
    omega
  rw [within, List.take_length_add_append]

/-- Parts without padding before the last block make up the written form of the whole. -/
theorem symbols_flatten {parts : List Bytes} (fills : ∀ part ∈ parts, FillsBlock part)
    (noPad : '=' ∉ (parts.flatMap symbols).take ((parts.flatMap symbols).length - 4)) :
    symbols parts.flatten = parts.flatMap symbols := by
  induction parts with
  | nil => rfl
  | cons part parts ih =>
    cases parts with
    | nil => simp
    | cons next others =>
      have long : 4 ≤ ((next :: others).flatMap symbols).length := by
        obtain ⟨a, b, c, d, written, -⟩ := (fills next (by simp)).sound
        rw [List.flatMap_cons, written]
        simp
      rw [List.flatMap_cons, take_behind long, List.mem_append, not_or] at noPad
      obtain ⟨a, b, c, rfl⟩ := not_unpadded (fills part (by simp)) noPad.1
      have behind := ih (fun other member => fills other (by simp [member])) noPad.2
      rw [List.flatMap_cons, ← behind]
      rfl

end SwapDesk.Base64

namespace SwapDesk.Payload

theorem ofBase64_eq_ok_iff {text : String} {payload : Payload} :
    ofBase64 text = .ok payload ↔ Base64.decode text = .ok payload.bytes := by
  unfold ofBase64
  cases Base64.decode text with
  | error fault => exact iff_of_false nofun nofun
  | ok bytes =>
    constructor
    · intro same
      cases same
      rfl
    · intro same
      cases same
      rfl

theorem read_eq_ok_iff {text : String} {payload : Payload} :
    read text = .ok payload ↔ Base64.decode text = .ok payload.bytes :=
  mapError_eq_ok_iff.trans ofBase64_eq_ok_iff

theorem read_fails_iff {text : String} :
    (∃ error, read text = .error error) ↔ ∃ fault, Base64.decode text = .error fault := by
  unfold read ofBase64
  cases Base64.decode text with
  | error fault => exact iff_of_true ⟨_, rfl⟩ ⟨_, rfl⟩
  | ok bytes => exact iff_of_false nofun nofun

theorem decode_carried {content : String} {input : Bytes} (carried : Wire.Carried content input) :
    Wire.decode input = (ofBase64 content).mapError .base64 := by
  have shaped : (Wire.shape (α := Payload)).reader Wire.room =
      Wire.string.refine fun text => (ofBase64 text).mapError .base64 := rfl
  exact carried.decoded shaped

/-- Which texts are read as payloads, and as which. -/
structure ReadExactly : Prop where
  /-- Texts made of written forms, one behind the other, are read part by part. -/
  joined : ∀ text payload, read text = .ok payload ↔
    ∃ parts : List Payload, text = String.join (parts.map toBase64) ∧
      payload.bytes = parts.flatMap bytes
  undone : ∀ payload, read payload.toBase64 = .ok payload
  refused : ∀ text, (∃ error, read text = .error error) ↔ Base64.Flawed text
  /-- A text without padding before its last block is the written form of what is read. -/
  regained : ∀ text payload, read text = .ok payload →
    '=' ∉ text.toList.take (text.length - 4) → payload.toBase64 = text
  decoded : ∀ content input, Wire.Carried content input → ∀ payload,
    Wire.decode input = .ok payload ↔ read content = .ok payload

theorem payloads_are_read_exactly : ReadExactly where
  joined text payload := by
    rw [read_eq_ok_iff]
    constructor
    · intro read
      obtain ⟨parts, -, rfl, same⟩ := Base64.parts_of_decode read
      refine ⟨parts.map Payload.mk, ?_, ?_⟩
      · rw [List.map_map]
        rfl
      · rw [same, List.flatMap_map]
        simp
    · rintro ⟨parts, rfl, same⟩
      have joined := Base64.decode_joined (parts.map bytes)
      rw [Base64.joined, List.map_map] at joined
      rw [same, List.flatMap_def]
      exact joined
  undone payload := mapError_eq_ok_iff.mpr (ofBase64_toBase64 payload)
  refused text := read_fails_iff.trans Base64.decode_eq_error_iff
  regained text payload read noPad := by
    obtain ⟨parts, fills, rfl, same⟩ := Base64.parts_of_decode (read_eq_ok_iff.mp read)
    rw [← String.length_toList, Base64.toList_joined] at noPad
    rw [toBase64, same, Base64.encode, Base64.symbols_flatten fills noPad, ← Base64.toList_joined,
      String.ofList_toList]
  decoded content input carried payload := by
    rw [decode_carried carried, mapError_eq_ok_iff, read, mapError_eq_ok_iff]

example : read "QQ==QUI=" = .ok ⟨[0x41, 0x41, 0x42]⟩ := rfl

end SwapDesk.Payload
