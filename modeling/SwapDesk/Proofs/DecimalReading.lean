import SwapDesk.Proofs.AmountReading

/-! Which texts are decimals, and what is wrong with all others. The value of a decimal is
calculated step by step in 128 bits. Each number on the way is at most the value itself, so the
steps succeed exactly if the value fits. -/

namespace SwapDesk.Decimal

open Numeral (Digits value)

/-- Digits and, if there is a point, digits behind it. -/
inductive Written : List Char → List Char → List Char → Prop where
  | whole {digits : List Char} (row : Digits digits) : Written digits digits []
  | parts {whole fraction : List Char} (row : Digits whole) (row' : Digits fraction) :
      Written (whole ++ '.' :: fraction) whole fraction

/-- The value in units of the eighteenth place behind the point. -/
def units (whole fraction : List Char) : Nat :=
  value whole * Nat.pow 10 18 + value fraction * Nat.pow 10 (18 - fraction.length)

/-- What a text is taken for: a decimal, which keeps the text, or a fault. -/
inductive Judged (text : String) : Except Fault Decimal → Prop where
  | empty (nothing : text = "") : Judged text (.error .empty)
  | misshapen (something : text ≠ "")
      (shapeless : ∀ whole fraction, ¬ Written text.toList whole fraction) :
      Judged text (.error (.invalidCharacters text))
  | tooPrecise {whole fraction : List Char} (written : Written text.toList whole fraction)
      (long : 18 < fraction.length) : Judged text (.error (.tooPrecise text))
  | outOfRange {whole fraction : List Char} (written : Written text.toList whole fraction)
      (short : fraction.length ≤ 18) (large : 2 ^ 128 - 1 < units whole fraction) :
      Judged text (.error (.outOfRange text))
  | accepted {whole fraction : List Char} (written : Written text.toList whole fraction)
      (short : fraction.length ≤ 18) (small : units whole fraction ≤ 2 ^ 128 - 1)
      {decimal : Decimal} (kept : decimal.text = text) : Judged text (.ok decimal)

theorem isDigits_iff {half : List Char} : isDigits half = true ↔ Digits half := by
  simp only [isDigits, Bool.and_eq_true, Bool.not_eq_true', List.isEmpty_eq_false_iff,
    List.all_eq_true]
  exact ⟨fun ⟨nonempty, all⟩ => ⟨nonempty, all⟩, fun row => ⟨row.nonempty, row.all⟩⟩

private theorem halves_digits {digits : List Char} (row : Digits digits) (rest : List Char) :
    halves (digits ++ rest) = (digits ++ (halves rest).1, (halves rest).2) := by
  have pointless : ∀ symbol ∈ digits, decide (symbol ≠ '.') = true := by
    intro symbol member
    rw [decide_eq_true_iff]
    rintro rfl
    cases row.all '.' member
  simp only [halves, List.takeWhile_append_of_pos pointless, List.dropWhile_append_of_pos pointless]

/-- What the point makes of a text that is a decimal by its shape. -/
theorem Written.halved {symbols whole fraction : List Char} (written : Written symbols whole fraction) :
    ∃ behind, halves symbols = (whole, behind) ∧ isDigits whole = true ∧
      behind.all isDigits = true ∧ behind.getD [] = fraction ∧
      behind.any (places < ·.length) = decide (18 < fraction.length) := by
  cases written with
  | whole row =>
    have halved := halves_digits row []
    rw [List.append_nil] at halved
    refine ⟨none, ?_, isDigits_iff.mpr row, rfl, rfl, rfl⟩
    rw [halved]
    simp [halves]
  | parts row row' =>
    refine ⟨some fraction, ?_, isDigits_iff.mpr row, isDigits_iff.mpr row', rfl, rfl⟩
    rw [halves_digits row]
    simp [halves]

theorem written_of_halves {symbols : List Char} (whole : isDigits (halves symbols).1 = true)
    (behind : (halves symbols).2.all isDigits = true) : ∃ fraction,
    Written symbols (halves symbols).1 fraction := by
  have joined : symbols.takeWhile (· ≠ '.') ++ symbols.dropWhile (· ≠ '.') = symbols :=
    List.takeWhile_append_dropWhile
  have point := List.head?_dropWhile_not (fun symbol => decide (symbol ≠ '.')) symbols
  simp only [halves] at whole behind ⊢
  cases rest : symbols.dropWhile (· ≠ '.') with
  | nil =>
    rw [rest, List.append_nil] at joined
    rw [joined] at whole ⊢
    exact ⟨[], .whole (isDigits_iff.mp whole)⟩
  | cons symbol fraction =>
    rw [rest] at joined behind point
    have isPoint : symbol = '.' := by simpa using point
    subst isPoint
    refine ⟨fraction, ?_⟩
    have parts := Written.parts (isDigits_iff.mp whole) (isDigits_iff.mp behind)
    rwa [joined] at parts

theorem Written.nonempty {text : String} {whole fraction : List Char}
    (written : Written text.toList whole fraction) : text ≠ "" := by
  rintro rfl
  generalize empty : "".toList = symbols at written
  cases written with
  | whole row => exact row.nonempty empty.symm
  | parts => simp at empty

private theorem fit_of_lt {value : Nat} (small : value < 2 ^ 128) : fit? value = some value :=
  if_pos small

private theorem fit_of_ge {value : Nat} (large : 2 ^ 128 ≤ value) : fit? value = none :=
  if_neg (Nat.not_lt.mpr large)

theorem number_digits {digits : List Char} (row : Digits digits) :
    number? digits = fit? (value digits) := by
  unfold number?
  by_cases small : value digits < 2 ^ 128
  · rw [(Numeral.Spells.bare row).read small, fit_of_lt small]
    rfl
  · rw [fit_of_ge (Nat.not_lt.mp small)]
    cases outcome : Numeral.read (2 ^ 128) (String.ofList digits) with
    | error fault => rfl
    | ok number =>
      obtain ⟨spells, below⟩ := (Numeral.read_eq_ok_iff (by decide)).mp outcome
      rw [Numeral.Spells.unique spells (.bare row)] at below
      exact absurd below small

private theorem value_zeros (digits : List Char) (count : Nat) :
    value (digits ++ List.replicate count '0') = value digits * Nat.pow 10 count := by
  induction count with
  | zero => simp
  | succ count ih =>
    rw [List.replicate_succ', ← List.append_assoc, Numeral.value_concat, ih]
    change 10 * (value digits * Nat.pow 10 count) + 0 = value digits * (Nat.pow 10 count * 10)
    rw [Nat.add_zero, Nat.mul_left_comm, Nat.mul_comm 10]

/-- Filling up with zeros gives a fraction the value that it has in units of the last place. -/
theorem parts_digits {fraction : List Char} (row : fraction = [] ∨ Digits fraction) :
    parts? fraction = fit? (value fraction * Nat.pow 10 (18 - fraction.length)) := by
  rcases row with rfl | row
  · rfl
  have filled : Digits (fraction.rightpad places '0') := by
    refine ⟨?_, ?_⟩
    · simp [List.rightpad, row.nonempty]
    · intro symbol member
      rcases List.mem_append.mp member with own | zero
      · exact row.all symbol own
      · rw [List.eq_of_mem_replicate zero]
        rfl
  have something : ¬ fraction.isEmpty = true := by simp [row.nonempty]
  rw [parts?, if_neg something, number_digits filled, List.rightpad, value_zeros]
  rfl

/-- A step that is not larger than the result changes nothing. -/
private theorem fit_before {step total : Nat} {next : Nat → Option Nat} (within : step ≤ total)
    (result : next step = fit? total) : (fit? step >>= next) = fit? total := by
  by_cases small : step < 2 ^ 128
  · rw [fit_of_lt small]
    exact result
  · rw [fit_of_ge (Nat.not_lt.mp small), fit_of_ge (Nat.le_trans (Nat.not_lt.mp small) within)]
    rfl

theorem units_digits {whole fraction : List Char} (row : Digits whole)
    (row' : fraction = [] ∨ Digits fraction) : units? whole fraction = fit? (units whole fraction) := by
  have larger : value whole ≤ value whole * Nat.pow 10 places :=
    Nat.le_mul_of_pos_right _ (by decide)
  unfold units? units
  rw [parts_digits row', number_digits row]
  apply fit_before (Nat.le_add_left _ _)
  apply fit_before (Nat.le_trans larger (Nat.le_add_right _ _))
  apply fit_before (Nat.le_add_right _ _)
  rfl

theorem Written.digits {symbols whole fraction : List Char} (written : Written symbols whole fraction) :
    Digits whole ∧ (fraction = [] ∨ Digits fraction) := by
  cases written with
  | whole row => exact ⟨row, .inl rfl⟩
  | parts row row' => exact ⟨row, .inr row'⟩

/-- A text of the right shape is judged by the length of its fraction and by its value. -/
theorem Written.fault {text : String} {whole fraction : List Char}
    (written : Written text.toList whole fraction) : fault? text =
      if 18 < fraction.length then some (.tooPrecise text)
      else if (fit? (units whole fraction)).isNone then some (.outOfRange text)
      else none := by
  obtain ⟨behind, halved, isWhole, isBehind, own, long⟩ := written.halved
  obtain ⟨row, row'⟩ := written.digits
  have something : text.isEmpty = false := by simp [written.nonempty]
  have shaped : (!isDigits whole || !behind.all isDigits) = false := by simp [isWhole, isBehind]
  unfold fault?
  rw [halved]
  dsimp only
  rw [something, shaped, own, long, units_digits row row', if_neg Bool.false_ne_true,
    if_neg Bool.false_ne_true]
  by_cases tooLong : 18 < fraction.length
  · rw [decide_eq_true tooLong, if_pos rfl, if_pos tooLong]
  · rw [decide_eq_false tooLong, if_neg Bool.false_ne_true, if_neg tooLong]

theorem fault_of_shapeless {text : String} (something : text ≠ "")
    (shapeless : ∀ whole fraction, ¬ Written text.toList whole fraction) :
    fault? text = some (.invalidCharacters text) := by
  have wrong : (!isDigits (halves text.toList).1 || !(halves text.toList).2.all isDigits) = true := by
    rw [← Bool.not_and, Bool.not_eq_true', Bool.eq_false_iff]
    intro both
    rw [Bool.and_eq_true] at both
    obtain ⟨fraction, written⟩ := written_of_halves both.1 both.2
    exact shapeless _ _ written
  simp only [fault?, wrong, String.isEmpty_iff, something, ite_true, ite_false]

theorem ofText_of_fault {text : String} {fault : Fault} (found : fault? text = some fault) :
    ofText text = .error fault := by
  unfold ofText
  split
  next none =>
    rw [found] at none
    cases none
  next other =>
    rw [found] at other
    cases other
    rfl

theorem Judged.ofText {text : String} {outcome : Except Fault Decimal}
    (judged : Judged text outcome) : ofText text = outcome := by
  cases judged with
  | empty nothing =>
    subst nothing
    exact ofText_of_fault rfl
  | misshapen something shapeless => exact ofText_of_fault (fault_of_shapeless something shapeless)
  | tooPrecise written long =>
    apply ofText_of_fault
    rw [written.fault, if_pos long]
  | outOfRange written short large =>
    apply ofText_of_fault
    rw [written.fault, if_neg (Nat.not_lt.mpr short), fit_of_ge (by omega)]
    rfl
  | @accepted _ _ written short small decimal kept =>
    rw [← kept]
    exact decimal.ofText_text

theorem exists_judged (text : String) : ∃ outcome, Judged text outcome := by
  by_cases nothing : text = ""
  · exact ⟨_, .empty nothing⟩
  by_cases shape : ∃ whole fraction, Written text.toList whole fraction
  · obtain ⟨whole, fraction, written⟩ := shape
    by_cases long : 18 < fraction.length
    · exact ⟨_, .tooPrecise written long⟩
    by_cases large : 2 ^ 128 - 1 < units whole fraction
    · exact ⟨_, .outOfRange written (Nat.not_lt.mp long) large⟩
    · have valid : fault? text = none := by
        rw [written.fault, if_neg long, fit_of_lt (by omega)]
        rfl
      exact ⟨.ok ⟨text, valid⟩, .accepted written (Nat.not_lt.mp long) (Nat.not_lt.mp large) rfl⟩
  · refine ⟨_, .misshapen nothing ?_⟩
    intro whole fraction written
    exact shape ⟨whole, fraction, written⟩

/-- What is read for a decimal, and what is reported of all other texts, bare or in a JSON string. -/
structure Settled (content : String) : Prop where
  judged : ∀ outcome, ofText content = outcome ↔ Judged content outcome
  decoded : ∀ text, Wire.Carried content text →
    Wire.decode text = (ofText content).mapError .decimal
  reported : ∀ cause, (Wire.Fault.decimal cause).message = cause.message

theorem every_text_is_judged (content : String) : Settled content where
  judged outcome := by
    constructor
    · rintro rfl
      obtain ⟨outcome, judged⟩ := exists_judged content
      rwa [judged.ofText]
    · exact Judged.ofText
  decoded text carried := by
    have shaped : (Wire.shape (α := Decimal)).reader Wire.room =
        Wire.string.refine fun text => (ofText text).mapError .decimal := rfl
    exact carried.decoded shaped
  reported _ := rfl

example : fault? "0340282366920938463463.374607431768211455" = none := rfl

example : fault? "340282366920938463463.374607431768211456" =
    some (.outOfRange "340282366920938463463.374607431768211456") := rfl

end SwapDesk.Decimal
