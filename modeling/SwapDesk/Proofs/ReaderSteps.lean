import SwapDesk.Proofs.StatefulErrors
import SwapDesk.Wire.Reader

/-! What each reader takes off its input, one lemma for each way in which it succeeds. The
lemmas speak of the first byte that is not blank, so they hold for any layout. -/

namespace SwapDesk.Wire

variable {α β σ : Type}

/-- The reader takes the value off the front of the input and leaves the rest. -/
def Reader.Takes (reader : Reader α) (input : Bytes) (value : α) (rest : Bytes) : Prop :=
  ∃ shorter, reader input = .ok ⟨value, rest, shorter⟩

/-- Behind blanks the input begins with the given byte. -/
def Begins (input : Bytes) (first : UInt8) (rest : Bytes) : Prop :=
  input.dropWhile isBlank = first :: rest

theorem begins_cons {first : UInt8} (rest : Bytes) (solid : isBlank first = false) :
    Begins (first :: rest) first rest := by
  simp [Begins, solid]

namespace Reader

theorem takes_of_map {reader : Reader α} {input rest : Bytes} {value : α}
    (read : (reader input).map (fun read => (read.value, read.rest)) = .ok (value, rest)) :
    reader.Takes input value rest := by
  unfold Takes
  cases outcome : reader input with
  | error fault => rw [outcome] at read; cases read
  | ok result =>
    rw [outcome] at read
    cases read
    exact ⟨result.shorter, rfl⟩

theorem takes_next {input rest : Bytes} {first : UInt8} (atEnd : Fault)
    (begins : Begins input first rest) : (next atEnd).Takes input first rest := by
  apply takes_of_map
  unfold next
  split
  next empty => rw [begins] at empty; cases empty
  next found =>
    rw [begins] at found
    cases found
    rfl

theorem Takes.map {reader : Reader α} {input rest : Bytes} {value : α}
    (takes : reader.Takes input value rest) (change : α → β) :
    (reader.map change).Takes input (change value) rest := by
  obtain ⟨shorter, read⟩ := takes
  apply takes_of_map
  simp only [Reader.map, read]
  rfl

theorem Takes.refine {reader : Reader α} {input rest : Bytes} {value : α} {result : β}
    {check : α → Except Fault β} (takes : reader.Takes input value rest)
    (checked : check value = .ok result) : (reader.refine check).Takes input result rest := by
  obtain ⟨shorter, read⟩ := takes
  apply takes_of_map
  simp only [Reader.refine, read, ok_bind, checked]
  rfl

theorem map_map (reader : Reader α) (first : α → β) (second : β → σ) :
    (reader.map first).map second = reader.map fun value => second (first value) := by
  funext input
  simp only [Reader.map]
  cases reader input <;> rfl

theorem map_id (reader : Reader α) : reader.map id = reader := by
  funext input
  simp only [Reader.map]
  cases reader input <;> rfl

theorem word_append (letters rest : Bytes) :
    ∃ within, word letters (letters ++ rest) = .ok ⟨rest, within⟩ := by
  have found : letters.isPrefixOf (letters ++ rest) = true := by simp
  refine ⟨by simp, ?_⟩
  simp only [word, found, ite_true, List.drop_left]

theorem takes_true {input rest : Bytes} (begins : Begins input 0x74 ([0x72, 0x75, 0x65] ++ rest)) :
    flag.Takes input true rest := by
  obtain ⟨shorter, head⟩ := takes_next .endInValue begins
  obtain ⟨within, tail⟩ := word_append [0x72, 0x75, 0x65] rest
  apply takes_of_map
  simp only [flag, head, ok_bind, tail, ite_true]
  rfl

theorem takes_false {input rest : Bytes}
    (begins : Begins input 0x66 ([0x61, 0x6c, 0x73, 0x65] ++ rest)) :
    flag.Takes input false rest := by
  obtain ⟨shorter, head⟩ := takes_next .endInValue begins
  obtain ⟨within, tail⟩ := word_append [0x61, 0x6c, 0x73, 0x65] rest
  apply takes_of_map
  simp only [flag, head, ok_bind, tail]
  rfl

theorem takes_null {inner : Reader α} {input rest : Bytes}
    (begins : Begins input 0x6e ([0x75, 0x6c, 0x6c] ++ rest)) :
    (optional inner).Takes input none rest := by
  obtain ⟨shorter, head⟩ := takes_next .endInValue begins
  obtain ⟨within, tail⟩ := word_append [0x75, 0x6c, 0x6c] rest
  apply takes_of_map
  simp only [optional, head, ok_bind, tail, ite_true]
  rfl

theorem takes_some {inner : Reader α} {input tail rest : Bytes} {first : UInt8} {value : α}
    (begins : Begins input first tail) (present : first ≠ 0x6e)
    (takes : inner.Takes input value rest) : (optional inner).Takes input (some value) rest := by
  obtain ⟨shorter, head⟩ := takes_next .endInValue begins
  obtain ⟨shorter', read⟩ := takes.map some
  apply takes_of_map
  simp only [optional, head, ok_bind, present, ite_false, read]
  rfl

theorem takes_zero {bound : Nat} {input rest : Bytes} (begins : Begins input 0x30 rest) :
    (unsigned bound).Takes input 0 rest := by
  obtain ⟨shorter, head⟩ := takes_next .endInValue begins
  apply takes_of_map
  simp only [unsigned, head, ok_bind, ite_true]
  rfl

theorem takes_digits {bound : Nat} {input tail : Bytes} {first : UInt8}
    (begins : Begins input first tail) (digit : isDigit first = true) (positive : first ≠ 0x30)
    (small : digitsValue (first :: tail.takeWhile isDigit) < bound) :
    (unsigned bound).Takes input (digitsValue (first :: tail.takeWhile isDigit))
      (tail.dropWhile isDigit) := by
  have unsignedFirst : first ≠ 0x2d := by
    intro sign
    rw [sign] at digit
    cases digit
  obtain ⟨shorter, head⟩ := takes_next .endInValue begins
  apply takes_of_map
  simp only [unsigned, head, ok_bind, unsignedFirst, positive, digit, small, ite_false, ite_true]
  rfl

theorem takes_string {input tail body rest : Bytes} {text : String}
    (begins : Begins input 0x22 tail) (cut : splitString false tail = some (body, rest))
    (read : bodyText body = .ok text) : string.Takes input text rest := by
  obtain ⟨shorter, head⟩ := takes_next .endInValue begins
  apply takes_of_map
  simp only [string, head, ok_bind, ne_eq, not_true, ite_false]
  split
  next none => rw [cut] at none; cases none
  next found =>
    rw [cut] at found
    cases found
    simp only [read, ok_bind]
    rfl

theorem takes_enclosed {opening : UInt8} {room : Nat} {inside : Nat → Reader α}
    {input tail rest : Bytes} {value : α} (begins : Begins input opening tail)
    (takes : (inside room).Takes tail value rest) :
    (enclosed opening (room + 1) inside).Takes input value rest := by
  obtain ⟨shorter, head⟩ := takes_next .endInValue begins
  obtain ⟨shorter', read⟩ := takes
  apply takes_of_map
  simp only [enclosed, head, ok_bind, ne_eq, not_true, ite_false, read]
  rfl

theorem takes_no_elements {element : Reader α} {first : Bool} {input rest : Bytes}
    (begins : Begins input 0x5d rest) : (elements element first).Takes input [] rest := by
  obtain ⟨shorter, head⟩ := takes_next .endInList begins
  apply takes_of_map
  rw [elements]
  simp only [nextElement, head, ok_bind, ite_true]
  rfl

theorem takes_first_element {element : Reader α} {input start mid rest : Bytes} {first : UInt8}
    {item : α} {others : List α} (begins : Begins input first start)
    (unclosed : first ≠ 0x5d) (bare : first ≠ 0x2c) (takes : element.Takes input item mid)
    (continues : (elements element false).Takes mid others rest) :
    (elements element true).Takes input (item :: others) rest := by
  obtain ⟨shorter, head⟩ := takes_next .endInList begins
  obtain ⟨_, read⟩ := takes
  obtain ⟨_, remaining⟩ := continues
  apply takes_of_map
  rw [elements]
  simp only [nextElement, head, ok_bind, unclosed, bare, ite_false, ite_true, pure, Except.pure, read,
    remaining]
  rfl

theorem takes_next_element {element : Reader α} {first : Bool} {input start ahead mid rest : Bytes}
    {byte : UInt8} {item : α} {others : List α} (begins : Begins input 0x2c start)
    (following : Begins start byte ahead) (more : byte ≠ 0x5d)
    (takes : element.Takes start item mid)
    (continues : (elements element first).Takes mid others rest) :
    (elements element first).Takes input (item :: others) rest := by
  obtain ⟨shorter, head⟩ := takes_next .endInList begins
  obtain ⟨_, after⟩ := takes_next .endInValue following
  obtain ⟨_, read⟩ := takes
  obtain ⟨_, remaining⟩ := continues
  have separator : (0x2c : UInt8) ≠ 0x5d := nofun
  apply takes_of_map
  rw [elements]
  simp only [nextElement, head, ok_bind, separator, more, ite_false, ite_true, pure, Except.pure,
    after, read, remaining]
  rfl

theorem takes_colon {input rest : Bytes} (begins : Begins input 0x3a rest) :
    colon.Takes input () rest := by
  obtain ⟨shorter, head⟩ := takes_next .endInObject begins
  apply takes_of_map
  simp only [colon, head, ok_bind, ite_true]
  rfl

theorem takes_no_key {first : Bool} {input rest : Bytes} (begins : Begins input 0x7d rest) :
    (nextKey first).Takes input none rest := by
  obtain ⟨shorter, head⟩ := takes_next .endInObject begins
  apply takes_of_map
  simp only [nextKey, head, ok_bind, ite_true]
  rfl

theorem takes_first_key {input start rest : Bytes} {key : String} (begins : Begins input 0x22 start)
    (takes : string.Takes input key rest) : (nextKey true).Takes input (some key) rest := by
  obtain ⟨shorter, head⟩ := takes_next .endInObject begins
  obtain ⟨_, read⟩ := takes.map some
  apply takes_of_map
  simp only [nextKey, head, ok_bind, read]
  rfl

theorem takes_next_key {input start ahead rest : Bytes} {key : String}
    (begins : Begins input 0x2c start) (following : Begins start 0x22 ahead)
    (takes : string.Takes start key rest) : (nextKey false).Takes input (some key) rest := by
  obtain ⟨shorter, head⟩ := takes_next .endInObject begins
  obtain ⟨_, after⟩ := takes_next .endInValue following
  obtain ⟨_, read⟩ := takes
  apply takes_of_map
  simp only [nextKey, head, ok_bind, after, read]
  rfl

theorem takes_no_members {member : String → σ → Except Fault (Reader σ)} {first : Bool} {state : σ}
    {input rest : Bytes} (ends : (nextKey first).Takes input none rest) :
    (members member first state).Takes input state rest := by
  obtain ⟨_, ended⟩ := ends
  apply takes_of_map
  rw [members]
  simp only [ended, ok_bind]
  rfl

theorem takes_member {member : String → σ → Except Fault (Reader σ)} {first : Bool}
    {state after final : σ} {reader : Reader σ} {key : String}
    {input behindKey behindColon mid rest : Bytes}
    (keyed : (nextKey first).Takes input (some key) behindKey)
    (chosen : member key state = .ok reader) (begins : Begins behindKey 0x3a behindColon)
    (takes : reader.Takes behindColon after mid)
    (continues : (members member false after).Takes mid final rest) :
    (members member first state).Takes input final rest := by
  obtain ⟨_, named⟩ := keyed
  obtain ⟨_, separated⟩ := takes_colon begins
  obtain ⟨_, read⟩ := takes
  obtain ⟨_, remaining⟩ := continues
  apply takes_of_map
  rw [members]
  simp only [named, ok_bind, chosen, separated, read, remaining]
  rfl

theorem takes_tagged {known : List String} {room : Nat}
    {form : Nat → String → Option (Reader α)} {reader : Reader α} {key : String} {value : α}
    {input start behindKey behindColon mid rest : Bytes}
    (begins : Begins input 0x7b start) (keyed : string.Takes start key behindKey)
    (chosen : form room key = some reader) (separates : Begins behindKey 0x3a behindColon)
    (takes : reader.Takes behindColon value mid) (closes : Begins mid 0x7d rest) :
    (tagged known (room + 1) form).Takes input value rest := by
  obtain ⟨_, head⟩ := takes_next .endInValue begins
  obtain ⟨_, named⟩ := keyed
  obtain ⟨_, separated⟩ := takes_colon separates
  obtain ⟨_, read⟩ := takes
  obtain ⟨_, closed⟩ := takes_next .endInValue closes
  apply takes_of_map
  simp only [tagged, head, ok_bind, named, chosen, separated, read, closed, ite_true]
  rfl

end Reader

/-- A text is read whole if nothing but blanks stands behind its value. -/
theorem readAll_takes {reader : Reader α} {input rest : Bytes} {value : α}
    (takes : reader.Takes input value rest) (blank : rest.all isBlank = true) :
    readAll reader input = .ok value := by
  obtain ⟨_, read⟩ := takes
  simp only [readAll, read, ok_bind, blank, ite_true]
  rfl

end SwapDesk.Wire
