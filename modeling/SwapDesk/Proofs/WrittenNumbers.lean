import SwapDesk.Amount
import SwapDesk.Proofs.NumeralReading
import SwapDesk.Proofs.ReaderSteps
import SwapDesk.Proofs.TextBytes

/-! Numbers are written as rows of decimal digits without leading zeros. Both readers of
numbers, the one for bare numbers and the one for amounts in text, give the number back. -/

namespace SwapDesk.Numeral

theorem value_toDigits (n : Nat) : value (Nat.toDigits 10 n) = n := Nat.ofDigitChars_ten_toDigits

theorem isDigit_of_mem {n : Nat} {symbol : Char} (member : symbol ∈ Nat.toDigits 10 n) :
    symbol.isDigit = true :=
  Nat.isDigit_of_mem_toDigits (by omega) (by omega) member

theorem toDigits_head {n : Nat} (positive : 0 < n) :
    ∃ first rest, Nat.toDigits 10 n = first :: rest ∧ first ≠ '0' := by
  induction n using Nat.strongRecOn with
  | ind n ih =>
    by_cases small : n < 10
    · refine ⟨n.digitChar, [], Nat.toDigits_of_lt_base small, ?_⟩
      simp only [ne_eq, Nat.digitChar_eq_zero]
      omega
    · obtain ⟨first, rest, digits, nonzero⟩ := ih (n / 10) (by omega) (by omega)
      refine ⟨first, rest ++ [(n % 10).digitChar], ?_, nonzero⟩
      rw [Nat.toDigits_of_base_le (by omega) (by omega), digits, List.cons_append]

/-- The numeral of a number below the bound is read as that number. -/
theorem read_repr {bound n : Nat} (small : n < bound) : read bound n.repr = .ok n := by
  have spells := Spells.bare ⟨Nat.toDigits_ne_nil, fun _ => isDigit_of_mem (n := n)⟩
  rw [value_toDigits, ← Nat.repr_eq_ofList_toDigits] at spells
  exact spells.read small

end SwapDesk.Numeral

namespace SwapDesk.Amount

theorem ofText_text (amount : Amount) : ofText amount.text = .ok amount := by
  unfold ofText
  split
  next value done =>
    rw [text, Numeral.read_repr amount.bounded] at done
    cases done
    rfl
  next fault failed =>
    rw [text, Numeral.read_repr amount.bounded] at failed
    cases failed

end SwapDesk.Amount

namespace SwapDesk.Wire

/-- No digit stands at the front, so a number that came before has ended. -/
def EndsNumber (rest : Bytes) : Prop := ∀ byte ∈ rest.head?, isDigit byte = false

theorem isBlank_of_isDigit {byte : UInt8} (digit : isDigit byte = true) : isBlank byte = false := by
  rw [Bool.eq_false_iff]
  intro blank
  simp only [isBlank, Bool.or_eq_true, beq_iff_eq] at blank
  rcases blank with ((rfl | rfl) | rfl) | rfl <;> cases digit

private theorem splits_at_end {digits rest : Bytes} (all : ∀ byte ∈ digits, isDigit byte = true)
    (ends : EndsNumber rest) :
    (digits ++ rest).takeWhile isDigit = digits ∧ (digits ++ rest).dropWhile isDigit = rest := by
  rw [List.takeWhile_append_of_pos all, List.dropWhile_append_of_pos all]
  cases rest with
  | nil => simp
  | cons byte rest =>
    have stops : isDigit byte = false := ends byte rfl
    simp [stops]

private def digitByte (symbol : Char) : UInt8 := UInt8.ofNat symbol.toNat

private theorem digitByte_facts {symbol : Char} (digit : symbol.isDigit = true) :
    isDigit (digitByte symbol) = true ∧ (digitByte symbol).toNat = symbol.toNat := by
  simp only [Char.isDigit, Bool.and_eq_true, decide_eq_true_eq] at digit
  have range : 48 ≤ symbol.toNat ∧ symbol.toNat ≤ 57 := digit
  have code : (digitByte symbol).toNat = symbol.toNat := by
    simp only [digitByte, UInt8.toNat_ofNat']
    omega
  refine ⟨?_, code⟩
  simp only [isDigit, Bool.and_eq_true, decide_eq_true_eq, UInt8.le_iff_toNat_le, code]
  exact range

private theorem bytes_repr (n : Nat) : Text.bytes n.repr = (Nat.toDigits 10 n).map digitByte := by
  rw [Nat.repr_eq_ofList_toDigits, Text.bytes_ofList]
  have all : ∀ symbol ∈ Nat.toDigits 10 n, symbol.isDigit = true := fun _ => Numeral.isDigit_of_mem
  generalize Nat.toDigits 10 n = digits at all
  induction digits with
  | nil => rfl
  | cons symbol digits ih =>
    have range := all symbol (by simp)
    simp only [Char.isDigit, Bool.and_eq_true, decide_eq_true_eq] at range
    have ascii : symbol.toNat < 128 := Nat.lt_of_le_of_lt range.2 (by simp)
    rw [List.flatMap_cons, Text.encodeChar_ascii ascii,
      ih fun other member => all other (by simp [member])]
    rfl

private theorem digitsValue_map {digits : List Char}
    (all : ∀ symbol ∈ digits, symbol.isDigit = true) :
    digitsValue (digits.map digitByte) = Numeral.value digits := by
  simp only [digitsValue, Numeral.value, List.foldl_map]
  generalize 0 = total
  induction digits generalizing total with
  | nil => rfl
  | cons symbol digits ih =>
    have same : (digitByte symbol).toNat = symbol.toNat := (digitByte_facts (all symbol (by simp))).2
    rw [List.foldl_cons, List.foldl_cons, same]
    exact ih (fun other member => all other (by simp [member])) _

theorem bytes_repr_head (n : Nat) : ∃ first rest,
    Text.bytes n.repr = first :: rest ∧ isDigit first = true := by
  rw [bytes_repr]
  cases digits : Nat.toDigits 10 n with
  | nil => exact absurd digits Nat.toDigits_ne_nil
  | cons symbol others =>
    have digit : symbol.isDigit = true := Numeral.isDigit_of_mem (n := n) (by rw [digits]; simp)
    exact ⟨_, _, rfl, (digitByte_facts digit).1⟩

/-- A written number is read back if the digits end where it ends. -/
theorem unsigned_takes {bound n : Nat} (small : n < bound) {rest : Bytes} (ends : EndsNumber rest) :
    (unsigned bound).Takes (Text.bytes n.repr ++ rest) n rest := by
  rcases Nat.eq_zero_or_pos n with rfl | positive
  · exact Reader.takes_zero (begins_cons rest rfl)
  have all : ∀ symbol ∈ Nat.toDigits 10 n, symbol.isDigit = true := fun _ => Numeral.isDigit_of_mem
  have total := digitsValue_map all
  obtain ⟨first, others, digits, nonzero⟩ := Numeral.toDigits_head positive
  rw [Numeral.value_toDigits, digits, List.map_cons] at total
  rw [digits] at all
  have digit := digitByte_facts (all first (by simp))
  have significant : digitByte first ≠ 0x30 := by
    intro same
    have code := digit.2
    rw [same] at code
    exact nonzero (Char.toNat_inj.mp code.symm)
  have digitBytes : ∀ byte ∈ others.map digitByte, isDigit byte = true := by
    intro byte member
    obtain ⟨symbol, inside, rfl⟩ := List.mem_map.mp member
    exact (digitByte_facts (all symbol (by simp [inside]))).1
  obtain ⟨taken, left⟩ := splits_at_end digitBytes ends
  rw [bytes_repr, digits, List.map_cons, List.cons_append]
  have begins := begins_cons (others.map digitByte ++ rest) (isBlank_of_isDigit digit.1)
  have inside : digitsValue (digitByte first ::
      (others.map digitByte ++ rest).takeWhile isDigit) < bound := by
    rw [taken, total]
    exact small
  have takes := Reader.takes_digits begins digit.1 significant inside
  rwa [taken, left, total] at takes

end SwapDesk.Wire
