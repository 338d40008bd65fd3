import Mathlib.Data.List.DropRight
import SwapDesk.Proofs.ReaderExtension
import SwapDesk.Proofs.StringReading

/-! Passing over values of no interest. Whatever well-formed value stands there, it is passed over
up to its very end, so that what comes behind it is read from the right place on. -/

namespace SwapDesk.Wire

open Json (Quotes Digits Integer Fraction Exponent NumberText ItemsText MembersText ValueText separator)

variable {α σ : Type}

/-- The text goes on with a comma or a closing bracket. -/
def Stops (rest : Bytes) : Prop := ∃ first tail, Begins rest first tail ∧ endsScalar first = true

/-- The texts differ in the blanks at their front only. -/
def SameBeyond (left rest : Bytes) : Prop := left.dropWhile isBlank = rest.dropWhile isBlank

theorem Stops.behind {gap rest : Bytes} (blank : gap.all isBlank = true) (stops : Stops rest) :
    Stops (gap ++ rest) := by
  obtain ⟨first, tail, begins, ends⟩ := stops
  exact ⟨first, tail, begins.behind blank, ends⟩

theorem stops_cons {first : UInt8} (tail : Bytes) (ends : endsScalar first = true) :
    Stops (first :: tail) := by
  refine ⟨first, tail, begins_cons tail ?_, ends⟩
  simp only [endsScalar, Bool.or_eq_true, beq_iff_eq] at ends
  rcases ends with (rfl | rfl) | rfl <;> rfl

theorem SameBeyond.begins {left rest tail : Bytes} {first : UInt8} (same : SameBeyond left rest)
    (begins : Begins rest first tail) : Begins left first tail :=
  Eq.trans same begins

/-- The reader takes the text as the value, in front of anything that goes on with a comma or a
closing bracket. It may leave blanks behind. -/
def Reader.Covers (reader : Reader α) (text : Bytes) (value : α) : Prop :=
  ∀ rest, Stops rest → ∃ left, reader.Takes (text ++ rest) value left ∧ SameBeyond left rest

namespace Reader

theorem Elements.beyond {element : Reader α} {left input rest : Bytes} {items : List α}
    (same : SameBeyond left input) (stand : Elements element false input items rest) :
    Elements element false left items rest := by
  cases stand with
  | none closes => exact .none (same.begins closes)
  | behindComma comma following more takes others =>
    exact .behindComma (same.begins comma) following more takes others

theorem Members.beyond {member : String → σ → Except Fault (Reader σ)} {state final : σ}
    {left input rest : Bytes} (same : SameBeyond left input)
    (stand : Members member false state input final rest) :
    Members member false state left final rest := by
  cases stand with
  | none closes => exact .none (same.begins closes)
  | some apart named chosen colon takes others =>
    exact .some (same.begins apart) named chosen colon takes others

end Reader

open Reader

theorem ItemsText.stops {items : List Bytes} {text : Bytes} (inside : ItemsText false items text)
    (rest : Bytes) : Stops (text ++ rest) := by
  cases inside with
  | none blank =>
    rw [List.append_assoc]
    exact (stops_cons rest rfl).behind blank
  | some following => exact stops_cons _ rfl

theorem MembersText.stops {members : List (String × Bytes)} {text : Bytes}
    (inside : MembersText false members text) (rest : Bytes) : Stops (text ++ rest) := by
  cases inside with
  | none blank =>
    rw [List.append_assoc]
    exact (stops_cons rest rfl).behind blank
  | some => exact stops_cons _ rfl

/-- What is passed over begins with neither a comma nor a closing bracket. -/
theorem Skipped.begins {nested : Option (Reader Unit)} {input rest : Bytes}
    (skipped : Skipped nested input rest) :
    ∃ first tail, Begins input first tail ∧ endsScalar first = false := by
  cases skipped with
  | text takes =>
    obtain ⟨tail, _, quote, _⟩ := string_cases takes
    exact ⟨_, tail, quote, rfl⟩
  | list begins => exact ⟨_, _, begins, rfl⟩
  | object begins => exact ⟨_, _, begins, rfl⟩
  | scalar begins _ _ proceeds => exact ⟨_, _, begins, proceeds⟩

private theorem ne_of_proceeds {first : UInt8} (proceeds : endsScalar first = false) :
    first ≠ 0x2c ∧ first ≠ 0x7d ∧ first ≠ 0x5d := by
  simpa [endsScalar, and_assoc] using proceeds

theorem ItemsText.elements {nested : Option (Reader Unit)} {first : Bool} {items : List Bytes}
    {text : Bytes} (inside : ItemsText first items text)
    (covers : ∀ item ∈ items, (skipWith nested).Covers item ()) (rest : Bytes) :
    ∃ values, Elements (skipWith nested) first (text ++ rest) values rest := by
  induction inside with
  | none blank =>
    rw [List.append_assoc]
    exact ⟨[], .none ((begins_cons rest rfl).behind blank)⟩
  | @some first item others items following ih =>
    obtain ⟨left, takes, same⟩ := covers item List.mem_cons_self _ (ItemsText.stops following rest)
    obtain ⟨values, stand⟩ := ih fun other member => covers other (List.mem_cons_of_mem _ member)
    obtain ⟨byte, tail, begins, proceeds⟩ := Skipped.begins (skipWith_cases takes)
    obtain ⟨noComma, _, unclosed⟩ := ne_of_proceeds proceeds
    refine ⟨() :: values, ?_⟩
    rw [List.append_assoc, List.append_assoc]
    cases first with
    | true => exact .bare begins unclosed noComma takes (stand.beyond same)
    | false => exact .behindComma (begins_cons _ rfl) begins unclosed takes (stand.beyond same)

theorem apart_separator (first : Bool) (start : Bytes) : Apart first (separator first ++ start) start := by
  cases first with
  | true => exact rfl
  | false => exact begins_cons start rfl

/-- The members of an object are read one after the other. `state` tells what the members read so
far come to. -/
theorem MembersText.members {member : String → σ → Except Fault (Reader σ)}
    (state : List (String × Bytes) → σ) {all : List (String × Bytes)}
    (step : ∀ passed key value later, passed ++ (key, value) :: later = all →
      ∃ reader, member key (state passed) = .ok reader ∧
        reader.Covers value (state (passed ++ [(key, value)])))
    {first : Bool} {remaining : List (String × Bytes)} {text : Bytes}
    (inside : MembersText first remaining text) (passed : List (String × Bytes))
    (split : passed ++ remaining = all) (rest : Bytes) :
    Members member first (state passed) (text ++ rest) (state all) rest := by
  -- What has been passed and what remains always make up all the members.
  induction inside generalizing passed with
  | none blank =>
    rw [List.append_nil] at split
    rw [List.append_assoc, split]
    exact .none ((begins_cons rest rfl).behind blank)
  | @some first key before quoted between value others members blank quotes blank' following ih =>
    obtain ⟨reader, chosen, covers⟩ := step passed key value members split
    obtain ⟨left, takes, same⟩ := covers _ (MembersText.stops following rest)
    have remaining := ih (passed ++ [(key, value)]) (by simpa using split)
    have named := Quotes.takes quotes blank (between ++ 0x3a :: (value ++ (others ++ rest)))
    have colon : Begins (between ++ 0x3a :: (value ++ (others ++ rest))) 0x3a (value ++ (others ++ rest)) :=
      (begins_cons _ rfl).behind blank'
    simp only [List.append_assoc, List.cons_append]
    exact .some (apart_separator first _) named chosen colon takes (remaining.beyond same)

/-- A byte that neither separates nor opens anything. -/
def isBare (byte : UInt8) : Bool :=
  !endsScalar byte && !isBlank byte && byte ≠ 0x22 && byte ≠ 0x5b && byte ≠ 0x7b

theorem bare_of_isDigit {byte : UInt8} (digit : isDigit byte = true) : isBare byte = true := by
  have apart (other : UInt8) (noDigit : isDigit other = false) : byte ≠ other := by
    intro same
    rw [same, noDigit] at digit
    cases digit
  simp [isBare, endsScalar, isBlank_of_isDigit digit, apart 0x2c rfl, apart 0x7d rfl, apart 0x5d rfl,
    apart 0x22 rfl, apart 0x5b rfl, apart 0x7b rfl]

private theorem bare_of_digits {text : Bytes} (digits : Digits text) : text.all isBare = true := by
  rw [List.all_eq_true]
  intro byte member
  exact bare_of_isDigit (digits.all byte member)

theorem NumberText.bare {text : Bytes} (number : NumberText text) : text.all isBare = true := by
  obtain ⟨signed, integer, fractional, scaled⟩ := number
  have signBare : ∀ sign ∈ [[], [0x2b], [0x2d]], sign.all isBare = true := List.all_eq_true.mp rfl
  have letterBare : ∀ letter ∈ [0x65, 0x45], isBare letter = true := List.all_eq_true.mp rfl
  simp only [List.all_append, Bool.and_eq_true]
  refine ⟨signBare _ ?_, bare_of_digits integer.digits, ?_, ?_⟩
  · simp only [List.mem_cons, List.not_mem_nil, or_false] at signed ⊢
    rcases signed with rfl | rfl
    · exact .inl rfl
    · exact .inr (.inr rfl)
  · cases fractional with
    | none => rfl
    | some places =>
      rw [List.all_cons, bare_of_digits places]
      rfl
  · cases scaled with
    | none => rfl
    | some marked signed power =>
      simp only [List.all_cons, List.all_append, Bool.and_eq_true]
      exact ⟨letterBare _ marked, signBare _ signed, bare_of_digits power⟩

theorem NumberText.nonempty {text : Bytes} (number : NumberText text) : text ≠ [] := by
  obtain ⟨_, integer, _, _⟩ := number
  simp [integer.digits.nonempty]

private theorem dropWhile_stops {rest : Bytes} (stops : Stops rest) :
    rest.dropWhile (fun byte => !endsScalar byte) = rest.dropWhile isBlank := by
  obtain ⟨first, tail, begins, ends⟩ := stops
  induction rest with
  | nil => rfl
  | cons byte rest ih =>
    by_cases blank : isBlank byte = true
    · have proceeds : endsScalar byte = false := by
        simp only [isBlank, Bool.or_eq_true, beq_iff_eq] at blank
        rcases blank with ((rfl | rfl) | rfl) | rfl <;> rfl
      have further : Begins rest first tail := by
        unfold Begins at begins
        rwa [List.dropWhile_cons_of_pos blank] at begins
      rw [List.dropWhile_cons_of_pos blank, List.dropWhile_cons_of_pos (by simp [proceeds])]
      exact ih further
    · unfold Begins at begins
      rw [List.dropWhile_cons_of_neg blank] at begins ⊢
      cases begins
      rw [List.dropWhile_cons_of_neg (by simp [ends])]

private theorem dropWhile_bare {text : Bytes} (bare : text.all isBare = true) (rest : Bytes) :
    (text ++ rest).dropWhile (fun byte => !endsScalar byte) =
      rest.dropWhile fun byte => !endsScalar byte := by
  apply List.dropWhile_append_of_pos
  intro byte member
  have here := List.all_eq_true.mp bare byte member
  simp only [isBare, Bool.and_eq_true] at here
  exact here.1.1.1.1

/-- Everything of a scalar is passed over, and the blanks behind it. -/
theorem scalar_skipped (nested : Option (Reader Unit)) {gap text rest : Bytes}
    (blank : gap.all isBlank = true) (bare : text.all isBare = true) (nonempty : text ≠ [])
    (stops : Stops rest) :
    ∃ left, (skipWith nested).Takes (gap ++ (text ++ rest)) () left ∧ SameBeyond left rest := by
  cases text with
  | nil => exact absurd rfl nonempty
  | cons first others =>
    rw [List.all_cons, Bool.and_eq_true] at bare
    -- The blanks in front of the next comma or bracket go with the scalar.
    have left := (dropWhile_bare bare.2 rest).trans (dropWhile_stops stops)
    have head := bare.1
    simp only [isBare, Bool.and_eq_true, Bool.not_eq_true', decide_eq_true_eq] at head
    obtain ⟨⟨⟨⟨proceeds, solid⟩, noString⟩, noList⟩, noObject⟩ := head
    obtain ⟨closing, tail, begins, _⟩ := stops
    refine ⟨rest.dropWhile isBlank, Skipped.takes (.scalar ((begins_cons _ solid).behind blank) noString
      ⟨noList, noObject⟩ proceeds left ?_), ?_⟩
    · rw [begins]
      exact List.cons_ne_nil _ _
    · exact List.dropWhile_idempotent isBlank rest

theorem exists_skipWith (room : Nat) : ∃ nested, skip room = skipWith nested := by
  cases room with
  | zero => exact ⟨none, rfl⟩
  | succ below => exact ⟨some (skip below), rfl⟩

/-- A well-formed value is passed over up to its end, if its brackets go no deeper than the room
allows. -/
theorem ValueText.skipped {depth : Nat} {text : Bytes} (value : ValueText depth text) {room : Nat}
    (shallow : depth ≤ room) (gap rest : Bytes) (blank : gap.all isBlank = true) (stops : Stops rest) :
    ∃ left, (skip room).Takes (gap ++ (text ++ rest)) () left ∧ SameBeyond left rest := by
  induction value generalizing room gap rest with
  | word known =>
    have words : ∀ word ∈ ["null", "true", "false"].map Text.bytes, word.all isBare = true ∧ word ≠ [] := by
      decide
    obtain ⟨nested, same⟩ := exists_skipWith room
    rw [same]
    exact scalar_skipped nested blank (words _ known).1 (words _ known).2 stops
  | number number =>
    obtain ⟨nested, same⟩ := exists_skipWith room
    rw [same]
    exact scalar_skipped nested blank (NumberText.bare number) (NumberText.nonempty number) stops
  | string quotes =>
    obtain ⟨nested, same⟩ := exists_skipWith room
    rw [same]
    exact ⟨rest, Skipped.takes (.text (Quotes.takes quotes blank rest)), rfl⟩
  | @list depth items text inside values ih =>
    obtain _ | below := room
    · exact absurd shallow (Nat.not_succ_le_zero _)
    obtain ⟨nested, same⟩ := exists_skipWith below
    have covers : ∀ item ∈ items, (skipWith nested).Covers item () := by
      intro item member rest stops
      rw [← same]
      exact ih item member (Nat.le_of_succ_le_succ shallow) [] rest rfl stops
    obtain ⟨units, stand⟩ := ItemsText.elements inside covers rest
    rw [← same] at stand
    exact ⟨rest, Skipped.takes (.list ((begins_cons _ rfl).behind blank) stand), rfl⟩
  | @object depth members text inside values ih =>
    obtain _ | below := room
    · exact absurd shallow (Nat.not_succ_le_zero _)
    have stand : Members (fun _ _ => .ok (skip below)) true () (text ++ rest) () rest := by
      refine MembersText.members (fun _ => ()) ?_ inside [] rfl rest
      rintro passed key value later rfl
      refine ⟨skip below, rfl, ?_⟩
      intro rest stops
      exact ih (key, value) (by simp) (Nat.le_of_succ_le_succ shallow) [] rest rfl stops
    exact ⟨rest, Skipped.takes (.object ((begins_cons _ rfl).behind blank) stand), rfl⟩
  | @padded depth before text after blank' value blank'' ih =>
    obtain ⟨left, takes, same⟩ := ih shallow (gap ++ before) (after ++ rest)
      (by rw [List.all_append, blank, blank']; rfl) (stops.behind blank'')
    refine ⟨left, ?_, same.trans (List.dropWhile_append_of_pos (List.all_eq_true.mp blank''))⟩
    simpa only [List.append_assoc] using takes

theorem skip_covers {depth room : Nat} {text : Bytes} (value : ValueText depth text)
    (shallow : depth ≤ room) : (skip room).Covers text () := by
  intro rest stops
  exact ValueText.skipped value shallow [] rest rfl stops

end SwapDesk.Wire
