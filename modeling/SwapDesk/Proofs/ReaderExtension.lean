import SwapDesk.Proofs.ReaderCases
import SwapDesk.Proofs.WrittenNumbers
import SwapDesk.Wire.Basic

/-! What stands behind a value has no part in reading it. Only a number with nothing behind it
could have gone on; every other value shows where it ends. -/

namespace SwapDesk.Wire

variable {α β σ : Type}

theorem Begins.append {input rest : Bytes} {first : UInt8} (begins : Begins input first rest)
    (more : Bytes) : Begins (input ++ more) first (rest ++ more) := by
  unfold Begins at *
  rw [List.dropWhile_append, begins]
  rfl

theorem Begins.ne_nil {input rest : Bytes} {first : UInt8} (begins : Begins input first rest) :
    input ≠ [] := by
  intro empty
  rw [empty] at begins
  cases begins

namespace Reader

/-- What the reader takes it takes as well with more behind the input. Where nothing was left,
what is added has to end the value. -/
def Extends (reader : Reader α) (ends : Bytes → Prop) : Prop :=
  ∀ ⦃input rest : Bytes⦄ ⦃value : α⦄, reader.Takes input value rest →
    ∀ more, (rest = [] → ends more) → reader.Takes (input ++ more) value (rest ++ more)

/-- The values of the reader show where they end. -/
abbrev Closes (reader : Reader α) : Prop := reader.Extends fun _ => True

/-- A reader that leaves something has seen enough to decide. -/
abbrev Decides (reader : Reader α) : Prop := reader.Extends fun _ => False

theorem Extends.weaken {reader : Reader α} {ends fewer : Bytes → Prop} (holds : reader.Extends ends)
    (implies : ∀ more, fewer more → ends more) : reader.Extends fewer := by
  intro input rest value takes more ended
  exact holds takes more fun empty => implies more (ended empty)

theorem Extends.decides {reader : Reader α} {ends : Bytes → Prop} (holds : reader.Extends ends) :
    reader.Decides :=
  holds.weaken fun _ => False.elim

theorem Extends.append {reader : Reader α} {input rest : Bytes} {value : α} (closes : reader.Closes)
    (takes : reader.Takes input value rest) (more : Bytes) :
    reader.Takes (input ++ more) value (rest ++ more) :=
  closes takes more fun _ => trivial

theorem Extends.before {reader : Reader α} {input rest : Bytes} {value : α} (decides : reader.Decides)
    (takes : reader.Takes input value rest) (left : rest ≠ []) (more : Bytes) :
    reader.Takes (input ++ more) value (rest ++ more) :=
  decides takes more left

theorem Extends.map {reader : Reader α} {ends : Bytes → Prop} (holds : reader.Extends ends)
    (change : α → β) : (reader.map change).Extends ends := by
  intro input rest result takes more ended
  obtain ⟨value, taken, rfl⟩ := map_cases takes
  exact (holds taken more ended).map change

theorem Extends.refine {reader : Reader α} {ends : Bytes → Prop} (holds : reader.Extends ends)
    (check : α → Except Fault β) : (reader.refine check).Extends ends := by
  intro input rest result takes more ended
  obtain ⟨value, taken, checked⟩ := refine_cases takes
  exact (holds taken more ended).refine checked

theorem Extends.optional {reader : Reader α} {ends : Bytes → Prop} (holds : reader.Extends ends) :
    (optional reader).Extends ends := by
  intro input rest result takes more ended
  rcases optional_cases takes with ⟨rfl, begins⟩ | ⟨first, tail, value, begins, present, rfl, taken⟩
  · have longer := begins.append more
    rw [List.append_assoc] at longer
    exact takes_null longer
  · exact takes_some (begins.append more) present (holds taken more ended)

theorem flag_closes : flag.Closes := by
  intro input rest value takes more _
  rcases flag_cases takes with ⟨rfl, begins⟩ | ⟨rfl, begins⟩
  · have longer := begins.append more
    rw [List.append_assoc] at longer
    exact takes_true longer
  · have longer := begins.append more
    rw [List.append_assoc] at longer
    exact takes_false longer

private theorem digits_append {digits more : Bytes}
    (ended : digits.dropWhile isDigit = [] → EndsNumber more) :
    (digits ++ more).takeWhile isDigit = digits.takeWhile isDigit ∧
      (digits ++ more).dropWhile isDigit = digits.dropWhile isDigit ++ more := by
  induction digits with
  | nil =>
    cases more with
    | nil => exact ⟨rfl, rfl⟩
    | cons byte more =>
      have stops : isDigit byte = false := ended rfl byte rfl
      simp [stops]
  | cons digit digits ih =>
    by_cases goes : isDigit digit = true
    · simp only [List.dropWhile_cons, goes, ite_true] at ended
      simp [goes, ih ended]
    · simp [goes]

theorem unsigned_extends (bound : Nat) : (unsigned bound).Extends EndsNumber := by
  intro input rest n takes more ended
  rcases unsigned_cases takes with ⟨rfl, begins⟩ | ⟨first, tail, begins, digit, positive, rfl, small, rfl⟩
  · exact takes_zero (begins.append more)
  · obtain ⟨taken, left⟩ := digits_append ended
    have longer := takes_digits (begins.append more) digit positive (by rwa [taken])
    rwa [taken, left] at longer

theorem splitString_append {input body rest : Bytes} {afterBackslash : Bool} (more : Bytes)
    (cut : splitString afterBackslash input = some (body, rest)) :
    splitString afterBackslash (input ++ more) = some (body, rest ++ more) := by
  induction input generalizing afterBackslash body with
  | nil => cases cut
  | cons first others ih =>
    rw [splitString] at cut
    rw [List.cons_append, splitString]
    split at cut
    next quote =>
      cases cut
      simp only [quote, ite_true]
    next inside =>
      obtain ⟨⟨inner, last⟩, found, same⟩ := Option.map_eq_some_iff.mp cut
      cases same
      rw [if_neg inside, ih found, Option.map_some]

theorem string_closes : string.Closes := by
  intro input rest text takes more _
  obtain ⟨tail, body, quote, cut, resolved⟩ := string_cases takes
  exact takes_string (quote.append more) (splitString_append more cut) resolved

theorem Extends.enclosed {opening : UInt8} {room : Nat} {inside : Nat → Reader α}
    {ends : Bytes → Prop} (holds : ∀ below, (inside below).Extends ends) :
    (enclosed opening room inside).Extends ends := by
  intro input rest value takes more ended
  obtain ⟨below, tail, rfl, begins, taken⟩ := enclosed_cases takes
  exact takes_enclosed (begins.append more) (holds below taken more ended)

theorem Elements.ne_nil {element : Reader α} {first : Bool} {input rest : Bytes} {items : List α}
    (stand : Elements element first input items rest) : input ≠ [] := by
  cases stand with
  | none closes => exact closes.ne_nil
  | bare begins => exact begins.ne_nil
  | behindComma comma => exact comma.ne_nil

theorem Elements.append {element : Reader α} (decides : element.Decides) {first : Bool}
    {input rest : Bytes} {items : List α} (stand : Elements element first input items rest)
    (more : Bytes) : Elements element first (input ++ more) items (rest ++ more) := by
  -- Something stands behind each element, its list's end at least, so even a number is over there.
  induction stand with
  | none closes => exact .none (closes.append more)
  | bare begins unclosed noComma taken others ih =>
    exact .bare (begins.append more) unclosed noComma (decides.before taken others.ne_nil more) ih
  | behindComma comma following unclosed taken others ih =>
    exact .behindComma (comma.append more) (following.append more) unclosed
      (decides.before taken others.ne_nil more) ih

theorem elements_closes {element : Reader α} (decides : element.Decides) (first : Bool) :
    (elements element first).Closes := by
  intro input rest items takes more _
  exact ((elements_cases takes).append decides more).takes

theorem Apart.append {first : Bool} {input start : Bytes} (apart : Apart first input start)
    (more : Bytes) : Apart first (input ++ more) (start ++ more) := by
  cases first with
  | true => exact congrArg (· ++ more) apart
  | false => exact Begins.append apart more

theorem Members.ne_nil {member : String → σ → Except Fault (Reader σ)} {first : Bool}
    {state final : σ} {input rest : Bytes} (stand : Members member first state input final rest) :
    input ≠ [] := by
  cases stand with
  | none closes => exact closes.ne_nil
  | some apart named =>
    obtain ⟨_, _, quote, _⟩ := string_cases named
    cases first with
    | true =>
      cases apart
      exact quote.ne_nil
    | false => exact Begins.ne_nil apart

theorem Members.append {member : String → σ → Except Fault (Reader σ)}
    (decides : ∀ key state reader, member key state = .ok reader → reader.Decides) {first : Bool}
    {state final : σ} {input rest : Bytes} (stand : Members member first state input final rest)
    (more : Bytes) : Members member first state (input ++ more) final (rest ++ more) := by
  induction stand with
  | none closes => exact .none (closes.append more)
  | some apart named chosen colon taken others ih =>
    exact .some (apart.append more) (string_closes.append named more) chosen (colon.append more)
      ((decides _ _ _ chosen).before taken others.ne_nil more) ih

theorem members_closes {member : String → σ → Except Fault (Reader σ)}
    (decides : ∀ key state reader, member key state = .ok reader → reader.Decides) (first : Bool)
    (state : σ) : (members member first state).Closes := by
  intro input rest final takes more _
  exact ((members_cases takes).append decides more).takes

theorem tagged_closes {known : List String} {room : Nat} {form : Nat → String → Option (Reader α)}
    (decides : ∀ below key reader, form below key = some reader → reader.Decides) :
    (tagged known room form).Closes := by
  intro input rest value takes more _
  obtain ⟨below, start, key, behind, reader, tail, mid, rfl, begins, named, chosen, colon, taken, closes⟩ :=
    tagged_cases takes
  exact takes_tagged (begins.append more) (string_closes.append named more) chosen (colon.append more)
    ((decides _ _ _ chosen).before taken closes.ne_nil more) (closes.append more)

theorem skipWith_closes {nested : Option (Reader Unit)} (closes : ∀ reader ∈ nested, reader.Closes) :
    (skipWith nested).Closes := by
  intro input rest _ takes more _
  have skipped := skipWith_cases takes
  apply Skipped.takes
  cases skipped with
  | text taken => exact .text (string_closes.append taken more)
  | list begins inside =>
    exact .list (begins.append more) (inside.append (closes _ rfl).decides more)
  | object begins inside =>
    refine .object (begins.append more) (inside.append ?_ more)
    rintro _ _ _ ⟨⟩
    exact (closes _ rfl).decides
  | scalar begins noString noBracket proceeds stops left =>
    refine .scalar (begins.append more) noString noBracket proceeds ?_ ?_
    · rw [List.dropWhile_append, stops, if_neg (by simpa using left)]
    · simp [left]

theorem skip_closes (room : Nat) : (skip room).Closes := by
  induction room with
  | zero => exact skipWith_closes nofun
  | succ room ih =>
    apply skipWith_closes
    rintro _ ⟨⟩
    exact ih

end Reader

/-- What may stand behind a value of the shape when nothing else does. -/
def Shape.Ends {α : Type} : Shape α → Bytes → Prop
  | .number16 | .number64 => EndsNumber
  | .optional inner => inner.Ends
  | _ => fun _ => True

open Reader

private theorem object_closes {β σ : Type} {fields : Fields σ β}
    (decides : ∀ below key slots reader, fields.member below key slots = .ok reader → reader.Decides)
    (room : Nat) :
    (enclosed 0x7b room fun room =>
      (members (fields.member room) true fields.blank).refine fields.complete).Closes :=
  Extends.enclosed fun below => (members_closes (decides below) true _).refine _

mutual

theorem Shape.reader_extends {α : Type} : (shape : Shape α) → (room : Nat) →
    (shape.reader room).Extends shape.Ends
  | .text, _ => string_closes
  | .flag, _ => flag_closes
  | .number16, _ => (unsigned_extends _).map _
  | .number64, _ => (unsigned_extends _).map _
  | .amount, _ => string_closes.refine _
  | .decimal, _ => string_closes.refine _
  | .payload, _ => string_closes.refine _
  | .optional inner, room => (inner.reader_extends room).optional
  | .list item, room => Extends.enclosed fun below =>
    elements_closes (item.reader_extends below).decides true
  | .record _ fields _, room =>
    (object_closes (fun below _ _ _ => fields.member_decides below) room).map _
  | .choice variants _, room => (tagged_closes fun below _ _ => variants.form_decides below).map _

theorem Fields.member_decides {β σ : Type} : (fields : Fields σ β) → (room : Nat) →
    {key : String} → {slots : σ} → {reader : Reader σ} →
    fields.member room key slots = .ok reader → reader.Decides
  | .nil, room, _, (), _, rfl => (skip_closes room).decides
  | .cons name _ shape rest, room, key, (slot, slots), reader, chosen => by
    rw [Fields.member] at chosen
    split at chosen
    next =>
      split at chosen
      next => cases chosen
      next =>
        cases chosen
        exact (shape.reader_extends room).decides.map _
    next =>
      cases inner : rest.member room key slots with
      | error fault =>
        rw [inner] at chosen
        cases chosen
      | ok other =>
        rw [inner] at chosen
        cases chosen
        exact (rest.member_decides room inner).map _

theorem Variants.form_decides {β : Type} : (variants : Variants β) → (room : Nat) →
    {key : String} → {reader : Reader β} → variants.form room key = some reader → reader.Decides
  | .nil, _, _, _, chosen => nomatch chosen
  | .record _ name fields rest, room, key, reader, chosen => by
    rw [Variants.form] at chosen
    split at chosen
    next =>
      cases chosen
      exact (object_closes (fun below _ _ _ => fields.member_decides below) room).decides.map _
    next =>
      obtain ⟨other, inner, rfl⟩ := Option.map_eq_some_iff.mp chosen
      exact (rest.form_decides room inner).map _
  | .wrap _ name shape rest, room, key, reader, chosen => by
    rw [Variants.form] at chosen
    split at chosen
    next =>
      cases chosen
      exact (shape.reader_extends room).decides.map _
    next =>
      obtain ⟨other, inner, rfl⟩ := Option.map_eq_some_iff.mp chosen
      exact (rest.form_decides room inner).map _

end

end SwapDesk.Wire
