import SwapDesk.Text.Numeral

/-! Which texts are numerals below a bound, and what is wrong with all others. The reader goes
from the left; it has no trouble with a row of digits as long as their value is below the bound,
and the first symbol that gives trouble decides the fault. -/

namespace SwapDesk.Numeral

/-- One or more digits. -/
structure Digits (symbols : List Char) : Prop where
  nonempty : symbols ≠ []
  all : ∀ symbol ∈ symbols, symbol.isDigit = true

/-- The text is a row of digits with the given value, after a plus sign or bare. -/
inductive Spells : String → Nat → Prop where
  | bare {digits : List Char} (row : Digits digits) : Spells (String.ofList digits) (value digits)
  | signed {digits : List Char} (row : Digits digits) :
      Spells (String.ofList ('+' :: digits)) (value digits)

/-- What is wrong with a symbol behind the symbols that have been passed. -/
inductive Trouble (bound : Nat) (passed : List Char) (symbol : Char) : Fault → Prop where
  | stray (noDigit : symbol.isDigit = false) : Trouble bound passed symbol .invalidDigit
  | excess (digit : symbol.isDigit = true) (large : bound ≤ value (passed ++ [symbol])) :
      Trouble bound passed symbol .tooLarge

/-- Nothing but digits, with a value below the bound. -/
structure Clear (bound : Nat) (passed : List Char) : Prop where
  digits : ∀ symbol ∈ passed, symbol.isDigit = true
  small : value passed < bound

/-- The first symbol from the left that gives trouble gives the trouble with this fault. -/
inductive FirstTrouble (bound : Nat) : List Char → Fault → Prop where
  | at {passed later : List Char} {symbol : Char} {fault : Fault} (clear : Clear bound passed)
      (trouble : Trouble bound passed symbol fault) : FirstTrouble bound (passed ++ symbol :: later) fault

/-- Why a text is no numeral below the bound. -/
inductive Refused (bound : Nat) : String → Fault → Prop where
  | empty : Refused bound "" .empty
  | loneSign : Refused bound "+" .invalidDigit
  | bare {symbols : List Char} {fault : Fault} (unsigned : symbols.head? ≠ some '+')
      (trouble : FirstTrouble bound symbols fault) : Refused bound (String.ofList symbols) fault
  | signed {symbols : List Char} {fault : Fault} (trouble : FirstTrouble bound symbols fault) :
      Refused bound (String.ofList ('+' :: symbols)) fault

theorem value_concat (passed : List Char) (symbol : Char) :
    value (passed ++ [symbol]) = 10 * value passed + (symbol.toNat - '0'.toNat) := by
  simp only [value, List.foldl_append, List.foldl_cons, List.foldl_nil]

theorem value_le_append (passed later : List Char) : value passed ≤ value (passed ++ later) := by
  induction later generalizing passed with
  | nil => simp
  | cons symbol later ih =>
    have grows : value passed ≤ value (passed ++ [symbol]) := by
      rw [value_concat]
      omega
    rw [List.append_cons]
    exact Nat.le_trans grows (ih _)

theorem Clear.before {bound : Nat} {passed later : List Char} (clear : Clear bound (passed ++ later)) :
    Clear bound passed :=
  ⟨fun symbol member => clear.digits symbol (List.mem_append_left later member),
    Nat.lt_of_le_of_lt (value_le_append passed later) clear.small⟩

variable {bound : Nat}

theorem extend_digit {total : Nat} {symbol : Char} {later : List Char}
    (digit : symbol.isDigit = true) :
    extend bound total (symbol :: later) =
      if 10 * total + (symbol.toNat - '0'.toNat) < bound then
        extend bound (10 * total + (symbol.toNat - '0'.toNat)) later
      else .error .tooLarge := by
  simp only [extend, digit?, digit, ite_true]

/-- The reader passes over digits as long as their value is below the bound. -/
theorem extend_append {passed next : List Char} (clear : Clear bound (passed ++ next))
    (later : List Char) :
    extend bound (value passed) (next ++ later) = extend bound (value (passed ++ next)) later := by
  induction next generalizing passed with
  | nil => rw [List.append_nil, List.nil_append]
  | cons symbol next ih =>
    have digit : symbol.isDigit = true := clear.digits symbol (by simp)
    rw [List.append_cons] at clear
    have small := clear.before.small
    rw [value_concat] at small
    rw [List.cons_append, extend_digit digit, if_pos small, ← value_concat,
      List.append_cons passed symbol next]
    exact ih clear

theorem Clear.extend {passed : List Char} (clear : Clear bound passed) (later : List Char) :
    extend bound 0 (passed ++ later) = extend bound (value passed) later := by
  have nothing : Clear bound ([] ++ passed) := clear
  exact extend_append nothing later

theorem Trouble.extend {passed later : List Char} {symbol : Char} {fault : Fault}
    (trouble : Trouble bound passed symbol fault) :
    extend bound (value passed) (symbol :: later) = .error fault := by
  cases trouble with
  | stray noDigit => simp [Numeral.extend, digit?, noDigit]
  | excess digit large =>
    rw [value_concat] at large
    rw [extend_digit digit, if_neg (Nat.not_lt.mpr large)]

theorem FirstTrouble.extend {symbols : List Char} {fault : Fault}
    (first : FirstTrouble bound symbols fault) : extend bound 0 symbols = .error fault := by
  obtain ⟨clear, trouble⟩ := first
  rw [clear.extend, trouble.extend]

theorem Clear.concat {passed : List Char} (clear : Clear bound passed) (symbol : Char) :
    Clear bound (passed ++ [symbol]) ∨ ∃ fault, Trouble bound passed symbol fault := by
  by_cases digit : symbol.isDigit = true
  · by_cases small : value (passed ++ [symbol]) < bound
    · left
      refine ⟨?_, small⟩
      intro other member
      rcases List.mem_append.mp member with earlier | last
      · exact clear.digits other earlier
      · rw [List.mem_singleton.mp last]
        exact digit
    · exact .inr ⟨_, .excess digit (Nat.not_lt.mp small)⟩
  · exact .inr ⟨_, .stray (Bool.eq_false_iff.mpr digit)⟩

theorem Clear.continues {passed : List Char} (clear : Clear bound passed) (symbols : List Char) :
    Clear bound (passed ++ symbols) ∨ ∃ fault, FirstTrouble bound (passed ++ symbols) fault := by
  induction symbols generalizing passed with
  | nil =>
    rw [List.append_nil]
    exact .inl clear
  | cons symbol symbols ih =>
    rcases clear.concat symbol with longer | ⟨fault, trouble⟩
    · rw [List.append_cons]
      exact ih longer
    · exact .inr ⟨fault, .at clear trouble⟩

theorem read_bare {symbols : List Char} (nonempty : symbols ≠ [])
    (unsigned : symbols.head? ≠ some '+') :
    read bound (String.ofList symbols) = extend bound 0 symbols := by
  unfold read
  rw [String.toList_ofList]
  split
  · exact absurd rfl nonempty
  · exact absurd rfl unsigned
  · exact absurd rfl unsigned
  · rfl

theorem read_signed {symbols : List Char} (nonempty : symbols ≠ []) :
    read bound (String.ofList ('+' :: symbols)) = extend bound 0 symbols := by
  cases symbols with
  | nil => exact absurd rfl nonempty
  | cons symbol symbols =>
    unfold read
    rw [String.toList_ofList]
    rfl

theorem Digits.unsigned {digits : List Char} (row : Digits digits) : digits.head? ≠ some '+' := by
  intro sign
  have digit : '+'.isDigit = true := row.all '+' (List.mem_of_mem_head? sign)
  cases digit

/-- A text spells one number at most. -/
theorem Spells.unique {text : String} {number other : Nat} (spells : Spells text number)
    (again : Spells text other) : number = other := by
  generalize same : text = text' at again
  cases spells with
  | bare row =>
    cases again with
    | bare => rw [String.ofList_injective same]
    | signed =>
      have sign := String.ofList_injective same
      subst sign
      exact absurd rfl row.unsigned
  | signed row =>
    cases again with
    | bare row' =>
      have sign := String.ofList_injective same
      subst sign
      exact absurd rfl row'.unsigned
    | signed =>
      cases String.ofList_injective same
      rfl

theorem FirstTrouble.nonempty {symbols : List Char} {fault : Fault}
    (first : FirstTrouble bound symbols fault) : symbols ≠ [] := by
  cases first
  simp

theorem Spells.read {text : String} {number : Nat} (spells : Spells text number)
    (small : number < bound) : read bound text = .ok number := by
  have extended : ∀ {digits : List Char}, Digits digits → value digits < bound →
      extend bound 0 digits = .ok (value digits) := by
    intro digits row below
    have passed := Clear.extend ⟨row.all, below⟩ []
    rw [List.append_nil] at passed
    exact passed
  cases spells with
  | bare row => rw [read_bare row.nonempty row.unsigned, extended row small]
  | signed row => rw [read_signed row.nonempty, extended row small]

theorem Refused.read {text : String} {fault : Fault} (refused : Refused bound text fault) :
    read bound text = .error fault := by
  cases refused with
  | empty => rfl
  | loneSign => rfl
  | bare unsigned trouble => rw [read_bare trouble.nonempty unsigned, trouble.extend]
  | signed trouble => rw [read_signed trouble.nonempty, trouble.extend]

/-- A text is a numeral or there is something wrong with it. -/
theorem spelled_or_refused (positive : 0 < bound) (text : String) :
    (∃ number, Spells text number ∧ number < bound) ∨ ∃ fault, Refused bound text fault := by
  have start : Clear bound [] := ⟨by simp, positive⟩
  obtain ⟨symbols, rfl⟩ : ∃ symbols, text = String.ofList symbols :=
    ⟨text.toList, String.ofList_toList.symm⟩
  by_cases empty : symbols = []
  · subst empty
    exact .inr ⟨_, .empty⟩
  by_cases sign : symbols.head? = some '+'
  · obtain ⟨digits, rfl⟩ : ∃ digits, symbols = '+' :: digits := List.head?_eq_some_iff.mp sign
    by_cases alone : digits = []
    · subst alone
      exact .inr ⟨_, .loneSign⟩
    · rcases start.continues digits with clear | ⟨fault, first⟩
      · exact .inl ⟨_, .signed ⟨alone, clear.digits⟩, clear.small⟩
      · exact .inr ⟨fault, .signed first⟩
  · rcases start.continues symbols with clear | ⟨fault, first⟩
    · exact .inl ⟨_, .bare ⟨empty, clear.digits⟩, clear.small⟩
    · exact .inr ⟨fault, .bare sign first⟩

theorem read_eq_ok_iff (positive : 0 < bound) {text : String} {number : Nat} :
    read bound text = .ok number ↔ Spells text number ∧ number < bound := by
  constructor
  · intro done
    rcases spelled_or_refused positive text with ⟨other, spells, small⟩ | ⟨fault, refused⟩
    · rw [spells.read small] at done
      cases done
      exact ⟨spells, small⟩
    · rw [refused.read] at done
      cases done
  · rintro ⟨spells, small⟩
    exact spells.read small

theorem read_eq_error_iff (positive : 0 < bound) {text : String} {fault : Fault} :
    read bound text = .error fault ↔ Refused bound text fault := by
  constructor
  · intro failed
    rcases spelled_or_refused positive text with ⟨number, spells, small⟩ | ⟨other, refused⟩
    · rw [spells.read small] at failed
      cases failed
    · rw [refused.read] at failed
      cases failed
      exact refused
  · exact Refused.read

end SwapDesk.Numeral
