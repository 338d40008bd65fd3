import SwapDesk.Proofs.ReaderSteps

/-! What a reader that succeeded has found. Each lemma lists all the ways in which a value can
have been taken, so that later arguments go through the ways one by one and open no reader. -/

namespace SwapDesk

theorem exists_of_bind_ok {ε α β : Type} {step : Except ε α} {next : α → Except ε β} {result : β}
    (done : step >>= next = .ok result) : ∃ value, step = .ok value ∧ next value = .ok result := by
  cases step with
  | error fault => cases done
  | ok value => exact ⟨value, rfl, done⟩

namespace Wire

variable {α β σ : Type}

namespace Reader

theorem takes_read {reader : Reader α} {input : Bytes} {read : Read α input}
    (done : reader input = .ok read) : reader.Takes input read.value read.rest :=
  ⟨read.shorter, done⟩

theorem next_cases {atEnd : Fault} {input rest : Bytes} {first : UInt8}
    (takes : (next atEnd).Takes input first rest) : Begins input first rest := by
  obtain ⟨shorter, read⟩ := takes
  unfold next at read
  split at read
  next => cases read
  next found =>
    cases read
    exact found

theorem begins_of_next {atEnd : Fault} {input : Bytes} {head : Read UInt8 input}
    (read : next atEnd input = .ok head) : Begins input head.value head.rest :=
  next_cases (takes_read read)

theorem map_cases {reader : Reader α} {change : α → β} {input rest : Bytes} {result : β}
    (takes : (reader.map change).Takes input result rest) :
    ∃ value, reader.Takes input value rest ∧ change value = result := by
  obtain ⟨shorter, read⟩ := takes
  unfold Reader.map at read
  cases outcome : reader input with
  | error fault =>
    rw [outcome] at read
    cases read
  | ok result =>
    rw [outcome] at read
    cases read
    exact ⟨_, takes_read outcome, rfl⟩

theorem refine_cases {reader : Reader α} {check : α → Except Fault β} {input rest : Bytes}
    {result : β} (takes : (reader.refine check).Takes input result rest) :
    ∃ value, reader.Takes input value rest ∧ check value = .ok result := by
  obtain ⟨shorter, read⟩ := takes
  obtain ⟨taken, done, read⟩ := exists_of_bind_ok read
  obtain ⟨value, checked, read⟩ := exists_of_bind_ok read
  cases read
  exact ⟨taken.value, takes_read done, checked⟩

theorem word_cases {letters input : Bytes} {rest : { rest : Bytes // rest.length ≤ input.length }}
    (done : word letters input = .ok rest) : input = letters ++ rest.1 := by
  unfold word at done
  split at done
  next found =>
    obtain ⟨tail, rfl⟩ := List.isPrefixOf_iff_prefix.mp found
    cases done
    simp
  next => cases done

theorem flag_cases {input rest : Bytes} {value : Bool} (takes : flag.Takes input value rest) :
    (value = true ∧ Begins input 0x74 ([0x72, 0x75, 0x65] ++ rest)) ∨
      (value = false ∧ Begins input 0x66 ([0x61, 0x6c, 0x73, 0x65] ++ rest)) := by
  obtain ⟨shorter, read⟩ := takes
  obtain ⟨head, headed, read⟩ := exists_of_bind_ok read
  have begins := begins_of_next headed
  split at read
  next same =>
    obtain ⟨tail, spelled, read⟩ := exists_of_bind_ok read
    rw [same, word_cases spelled] at begins
    cases read
    exact .inl ⟨rfl, begins⟩
  next =>
    split at read
    next same =>
      obtain ⟨tail, spelled, read⟩ := exists_of_bind_ok read
      rw [same, word_cases spelled] at begins
      cases read
      exact .inr ⟨rfl, begins⟩
    next => cases read

theorem optional_cases {inner : Reader α} {input rest : Bytes} {value : Option α}
    (takes : (optional inner).Takes input value rest) :
    (value = none ∧ Begins input 0x6e ([0x75, 0x6c, 0x6c] ++ rest)) ∨
      ∃ first tail present, Begins input first tail ∧ first ≠ 0x6e ∧ value = some present ∧
        inner.Takes input present rest := by
  obtain ⟨shorter, read⟩ := takes
  obtain ⟨head, headed, read⟩ := exists_of_bind_ok read
  have begins := begins_of_next headed
  split at read
  next same =>
    obtain ⟨tail, spelled, read⟩ := exists_of_bind_ok read
    rw [same, word_cases spelled] at begins
    cases read
    exact .inl ⟨rfl, begins⟩
  next other =>
    obtain ⟨present, taken, same⟩ := map_cases (takes_read read)
    exact .inr ⟨_, _, present, begins, other, same.symm, taken⟩

theorem unsigned_cases {bound n : Nat} {input rest : Bytes}
    (takes : (unsigned bound).Takes input n rest) :
    (n = 0 ∧ Begins input 0x30 rest) ∨
      ∃ first tail, Begins input first tail ∧ isDigit first = true ∧ first ≠ 0x30 ∧
        n = digitsValue (first :: tail.takeWhile isDigit) ∧ n < bound ∧
        rest = tail.dropWhile isDigit := by
  obtain ⟨shorter, read⟩ := takes
  obtain ⟨head, headed, read⟩ := exists_of_bind_ok read
  have begins := begins_of_next headed
  split at read
  next => cases read
  next =>
    split at read
    next same =>
      rw [same] at begins
      cases read
      exact .inl ⟨rfl, begins⟩
    next positive =>
      split at read
      next digit =>
        dsimp only at read
        split at read
        next small =>
          cases read
          exact .inr ⟨_, _, begins, digit, positive, rfl, small, rfl⟩
        next => cases read
      next => cases read

theorem string_cases {input rest : Bytes} {text : String} (takes : string.Takes input text rest) :
    ∃ tail body, Begins input 0x22 tail ∧ splitString false tail = some (body, rest) ∧
      bodyText body = .ok text := by
  obtain ⟨shorter, read⟩ := takes
  obtain ⟨head, headed, read⟩ := exists_of_bind_ok read
  have begins := begins_of_next headed
  split at read
  next => cases read
  next quote =>
    rw [Decidable.not_not.mp quote] at begins
    split at read
    next => cases read
    next cut =>
      obtain ⟨text, resolved, read⟩ := exists_of_bind_ok read
      cases read
      exact ⟨_, _, begins, cut, resolved⟩

theorem enclosed_cases {opening : UInt8} {room : Nat} {inside : Nat → Reader α}
    {input rest : Bytes} {value : α} (takes : (enclosed opening room inside).Takes input value rest) :
    ∃ below tail, room = below + 1 ∧ Begins input opening tail ∧
      (inside below).Takes tail value rest := by
  obtain ⟨shorter, read⟩ := takes
  obtain ⟨head, headed, read⟩ := exists_of_bind_ok read
  have begins := begins_of_next headed
  split at read
  next => cases read
  next same =>
    rw [Decidable.not_not.mp same] at begins
    cases room with
    | zero => cases read
    | succ below =>
      obtain ⟨taken, done, read⟩ := exists_of_bind_ok read
      cases read
      exact ⟨below, _, rfl, begins, takes_read done⟩

theorem colon_cases {input rest : Bytes} (takes : colon.Takes input () rest) :
    Begins input 0x3a rest := by
  obtain ⟨shorter, read⟩ := takes
  obtain ⟨head, headed, read⟩ := exists_of_bind_ok read
  have begins := begins_of_next headed
  split at read
  next same =>
    rw [same] at begins
    cases read
    exact begins
  next => cases read

/-- The elements that stand in a text up to the end of their list. A comma may come before any of
them, and an element that has one does not count as the first. -/
inductive Elements (element : Reader α) : Bool → Bytes → List α → Bytes → Prop where
  | none {first : Bool} {input rest : Bytes} (closes : Begins input 0x5d rest) :
      Elements element first input [] rest
  | bare {byte : UInt8} {input ahead mid rest : Bytes} {item : α} {items : List α}
      (begins : Begins input byte ahead) (unclosed : byte ≠ 0x5d) (noComma : byte ≠ 0x2c)
      (takes : element.Takes input item mid) (others : Elements element false mid items rest) :
      Elements element true input (item :: items) rest
  | behindComma {first : Bool} {byte : UInt8} {input start ahead mid rest : Bytes} {item : α}
      {items : List α} (comma : Begins input 0x2c start) (following : Begins start byte ahead)
      (more : byte ≠ 0x5d) (takes : element.Takes start item mid)
      (others : Elements element first mid items rest) :
      Elements element first input (item :: items) rest

theorem Elements.takes {element : Reader α} {first : Bool} {input rest : Bytes} {items : List α}
    (stand : Elements element first input items rest) :
    (elements element first).Takes input items rest := by
  induction stand with
  | none closes => exact takes_no_elements closes
  | bare begins unclosed noComma takes _ ih => exact takes_first_element begins unclosed noComma takes ih
  | behindComma comma following more takes _ ih => exact takes_next_element comma following more takes ih

/-- Where an element starts, or the list ends, with the count of first elements after it. -/
private theorem nextElement_cases {first after : Bool} {input : Bytes} {place : Place input}
    (done : nextElement first input = .ok (place, after)) :
    (∃ rest shorter, place = .ended rest shorter ∧ Begins input 0x5d rest) ∨
      (∃ start within byte ahead, place = .element start within ∧ after = first ∧
        Begins input 0x2c start ∧ Begins start byte ahead ∧ byte ≠ 0x5d) ∨
      ∃ within byte ahead, place = .element input within ∧ first = true ∧ after = false ∧
        Begins input byte ahead ∧ byte ≠ 0x5d ∧ byte ≠ 0x2c := by
  obtain ⟨head, headed, done⟩ := exists_of_bind_ok done
  have begins := begins_of_next headed
  split at done
  next closing =>
    rw [closing] at begins
    cases done
    exact .inl ⟨_, _, rfl, begins⟩
  next unclosed =>
    split at done
    next comma =>
      rw [comma] at begins
      obtain ⟨ahead, found, done⟩ := exists_of_bind_ok done
      split at done
      next => cases done
      next more =>
        cases done
        exact .inr (.inl ⟨_, _, _, _, rfl, rfl, begins, begins_of_next found, more⟩)
    next noComma =>
      split at done
      next isFirst =>
        cases done
        exact .inr (.inr ⟨_, _, _, rfl, isFirst, rfl, begins, unclosed, noComma⟩)
      next => cases done

theorem elements_cases {element : Reader α} {first : Bool} {input rest : Bytes} {items : List α}
    (takes : (elements element first).Takes input items rest) :
    Elements element first input items rest := by
  obtain ⟨shorter, read⟩ := takes
  rw [elements] at read
  obtain ⟨⟨place, after⟩, found, placed⟩ := exists_of_bind_ok read
  rcases nextElement_cases found with ⟨_, _, rfl, closes⟩ |
    ⟨start, within, _, _, rfl, rfl, comma, following, more⟩ |
    ⟨_, _, _, rfl, rfl, rfl, begins, unclosed, noComma⟩
  · cases placed
    exact .none closes
  · obtain ⟨item, taken, onward⟩ := exists_of_bind_ok placed
    obtain ⟨others, remaining, done⟩ := exists_of_bind_ok onward
    cases done
    exact .behindComma comma following more (takes_read taken) (elements_cases (takes_read remaining))
  · obtain ⟨item, taken, onward⟩ := exists_of_bind_ok placed
    obtain ⟨others, remaining, done⟩ := exists_of_bind_ok onward
    cases done
    exact .bare begins unclosed noComma (takes_read taken) (elements_cases (takes_read remaining))
termination_by input.length
decreasing_by
  · exact Nat.lt_of_lt_of_le item.shorter within
  · exact item.shorter

/-- What stands before a key: a comma, unless it is the first one. -/
def Apart (first : Bool) (input start : Bytes) : Prop :=
  if first then input = start else Begins input 0x2c start

theorem takes_key {first : Bool} {input start rest : Bytes} {key : String}
    (apart : Apart first input start) (takes : string.Takes start key rest) :
    (nextKey first).Takes input (some key) rest := by
  obtain ⟨_, _, quote, _⟩ := string_cases takes
  cases first with
  | true =>
    cases apart
    exact takes_first_key quote takes
  | false => exact takes_next_key apart quote takes

theorem nextKey_cases {first : Bool} {input rest : Bytes} {key : Option String}
    (takes : (nextKey first).Takes input key rest) :
    (key = none ∧ Begins input 0x7d rest) ∨
      ∃ name start, key = some name ∧ Apart first input start ∧ string.Takes start name rest := by
  obtain ⟨shorter, read⟩ := takes
  obtain ⟨head, headed, read⟩ := exists_of_bind_ok read
  have begins := begins_of_next headed
  split at read
  next closing =>
    rw [closing] at begins
    cases read
    exact .inl ⟨rfl, begins⟩
  next =>
    split at read
    next separated =>
      simp only [Bool.and_eq_true, decide_eq_true_eq, Bool.not_eq_true'] at separated
      rw [separated.1] at begins
      obtain ⟨ahead, found, onward⟩ := exists_of_bind_ok read
      split at onward
      next => cases onward
      next =>
        split at onward
        next => cases onward
        next =>
          obtain ⟨name, named, done⟩ := exists_of_bind_ok onward
          cases done
          have apart : Apart first input head.rest := by
            rw [separated.2]
            exact begins
          exact .inr ⟨_, head.rest, rfl, apart, takes_read named⟩
    next =>
      split at read
      next => cases read
      next isFirst =>
        split at read
        next => cases read
        next =>
          obtain ⟨name, named, same⟩ := map_cases (takes_read read)
          have apart : Apart first input input := by
            simp only [Apart, Bool.not_eq_true, Bool.not_eq_false'] at isFirst ⊢
            simp only [isFirst, ite_true]
          exact .inr ⟨name, input, same.symm, apart, named⟩

/-- The members that stand in a text up to the end of their object, with the states before and
after them. -/
inductive Members (member : String → σ → Except Fault (Reader σ)) :
    Bool → σ → Bytes → σ → Bytes → Prop where
  | none {first : Bool} {state : σ} {input rest : Bytes} (closes : Begins input 0x7d rest) :
      Members member first state input state rest
  | some {first : Bool} {state after final : σ} {reader : Reader σ} {key : String}
      {input start behind tail mid rest : Bytes} (apart : Apart first input start)
      (named : string.Takes start key behind) (chosen : member key state = .ok reader)
      (colon : Begins behind 0x3a tail) (takes : reader.Takes tail after mid)
      (others : Members member false after mid final rest) :
      Members member first state input final rest

theorem Members.takes {member : String → σ → Except Fault (Reader σ)} {first : Bool}
    {state final : σ} {input rest : Bytes} (stand : Members member first state input final rest) :
    (members member first state).Takes input final rest := by
  induction stand with
  | none closes => exact takes_no_members (takes_no_key closes)
  | some apart named chosen colon takes _ ih =>
    exact takes_member (takes_key apart named) chosen colon takes ih

theorem members_cases {member : String → σ → Except Fault (Reader σ)} {first : Bool}
    {state final : σ} {input rest : Bytes}
    (takes : (members member first state).Takes input final rest) :
    Members member first state input final rest := by
  obtain ⟨shorter, read⟩ := takes
  rw [members] at read
  obtain ⟨key, keyed, read⟩ := exists_of_bind_ok read
  rcases nextKey_cases (takes_read keyed) with ⟨absent, closes⟩ | ⟨name, start, present, apart, named⟩
  · rw [absent] at read
    cases read
    exact .none closes
  · rw [present] at read
    obtain ⟨reader, chosen, read⟩ := exists_of_bind_ok read
    obtain ⟨separator, separated, read⟩ := exists_of_bind_ok read
    obtain ⟨value, taken, read⟩ := exists_of_bind_ok read
    obtain ⟨others, remaining, read⟩ := exists_of_bind_ok read
    cases read
    exact .some apart named chosen (colon_cases (takes_read separated)) (takes_read taken)
      (members_cases (takes_read remaining))
termination_by input.length
decreasing_by exact Nat.lt_trans value.shorter (Nat.lt_trans separator.shorter key.shorter)

theorem tagged_cases {known : List String} {room : Nat} {form : Nat → String → Option (Reader α)}
    {input rest : Bytes} {value : α} (takes : (tagged known room form).Takes input value rest) :
    ∃ below start key behind reader tail mid, room = below + 1 ∧ Begins input 0x7b start ∧
      string.Takes start key behind ∧ form below key = some reader ∧ Begins behind 0x3a tail ∧
      reader.Takes tail value mid ∧ Begins mid 0x7d rest := by
  obtain ⟨shorter, read⟩ := takes
  obtain ⟨head, headed, read⟩ := exists_of_bind_ok read
  have begins := begins_of_next headed
  split at read
  next =>
    obtain ⟨name, _, read⟩ := exists_of_bind_ok read
    split at read <;> cases read
  next =>
    split at read
    next opening =>
      rw [opening] at begins
      cases room with
      | zero => cases read
      | succ below =>
        obtain ⟨name, named, read⟩ := exists_of_bind_ok read
        split at read
        next => cases read
        next reader chosen =>
          obtain ⟨separator, separated, read⟩ := exists_of_bind_ok read
          obtain ⟨taken, done, read⟩ := exists_of_bind_ok read
          obtain ⟨close, closed, read⟩ := exists_of_bind_ok read
          have closes := begins_of_next closed
          split at read
          next same =>
            rw [same] at closes
            cases read
            exact ⟨below, _, _, _, reader, _, _, rfl, begins, takes_read named, chosen,
              colon_cases (takes_read separated), takes_read done, closes⟩
          next => cases read
    next => cases read

/-- The forms of a value that is passed over. -/
inductive Skipped : Option (Reader Unit) → Bytes → Bytes → Prop where
  | text {nested : Option (Reader Unit)} {input rest : Bytes} {text : String}
      (takes : string.Takes input text rest) : Skipped nested input rest
  | list {reader : Reader Unit} {input tail rest : Bytes} {items : List Unit}
      (begins : Begins input 0x5b tail) (inside : Elements reader true tail items rest) :
      Skipped (some reader) input rest
  | object {reader : Reader Unit} {input tail rest : Bytes} (begins : Begins input 0x7b tail)
      (inside : Members (fun _ _ => .ok reader) true () tail () rest) :
      Skipped (some reader) input rest
  | scalar {nested : Option (Reader Unit)} {first : UInt8} {input tail rest : Bytes}
      (begins : Begins input first tail) (noString : first ≠ 0x22)
      (noBracket : first ≠ 0x5b ∧ first ≠ 0x7b) (proceeds : endsScalar first = false)
      (stops : tail.dropWhile (fun byte => !endsScalar byte) = rest) (more : rest ≠ []) :
      Skipped nested input rest

theorem skipWith_cases {nested : Option (Reader Unit)} {input rest : Bytes}
    (takes : (skipWith nested).Takes input () rest) : Skipped nested input rest := by
  obtain ⟨shorter, read⟩ := takes
  obtain ⟨head, headed, read⟩ := exists_of_bind_ok read
  have begins := begins_of_next headed
  split at read
  next =>
    obtain ⟨text, taken, _⟩ := map_cases (takes_read read)
    exact .text taken
  next noString =>
    split at read
    next opening =>
      rw [opening] at begins
      cases nested with
      | none => cases read
      | some reader =>
        obtain ⟨items, taken, read⟩ := exists_of_bind_ok read
        cases read
        exact .list begins (elements_cases (takes_read taken))
    next noList =>
      split at read
      next opening =>
        rw [opening] at begins
        cases nested with
        | none => cases read
        | some reader =>
          obtain ⟨inside, taken, read⟩ := exists_of_bind_ok read
          cases read
          exact .object begins (members_cases (takes_read taken))
      next noObject =>
        split at read
        next => cases read
        next proceeds =>
          dsimp only at read
          split at read
          next => cases read
          next more =>
            cases read
            refine .scalar begins noString ⟨noList, noObject⟩ (by simpa using proceeds) rfl ?_
            simpa using more

theorem Skipped.takes {nested : Option (Reader Unit)} {input rest : Bytes}
    (skipped : Skipped nested input rest) : (skipWith nested).Takes input () rest := by
  cases skipped with
  | text takes =>
    obtain ⟨_, _, quote, _⟩ := string_cases takes
    obtain ⟨_, head⟩ := takes_next .endInValue quote
    obtain ⟨_, read⟩ := takes.map fun _ => ()
    apply takes_of_map
    simp only [skipWith, head, ok_bind, ite_true, read]
    rfl
  | list begins inside =>
    obtain ⟨_, head⟩ := takes_next .endInValue begins
    obtain ⟨_, read⟩ := inside.takes
    have noString : (0x5b : UInt8) ≠ 0x22 := nofun
    apply takes_of_map
    simp only [skipWith, head, ok_bind, noString, ite_false, ite_true, read]
    rfl
  | object begins inside =>
    obtain ⟨_, head⟩ := takes_next .endInValue begins
    obtain ⟨_, read⟩ := inside.takes
    have noString : (0x7b : UInt8) ≠ 0x22 := nofun
    have noList : (0x7b : UInt8) ≠ 0x5b := nofun
    apply takes_of_map
    simp only [skipWith, head, ok_bind, noString, noList, ite_false, ite_true, read]
    rfl
  | scalar begins noString noBracket proceeds stops more =>
    obtain ⟨_, head⟩ := takes_next .endInValue begins
    have nonempty : rest.isEmpty = false := by simpa using more
    apply takes_of_map
    simp only [skipWith, head, ok_bind, noString, noBracket.1, noBracket.2, proceeds, ite_false, stops,
      nonempty, Bool.false_eq_true]
    rfl

end Reader

theorem readAll_cases {reader : Reader α} {input : Bytes} {value : α}
    (read : readAll reader input = .ok value) :
    ∃ rest, reader.Takes input value rest ∧ rest.all isBlank = true := by
  obtain ⟨taken, done, read⟩ := exists_of_bind_ok read
  split at read
  next blank =>
    cases read
    exact ⟨_, Reader.takes_read done, blank⟩
  next => cases read

end Wire

end SwapDesk
