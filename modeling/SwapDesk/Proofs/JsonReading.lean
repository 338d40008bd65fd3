import SwapDesk.Proofs.JsonStrings
import SwapDesk.Proofs.WrittenNumbers

/-! The text of a value holds that value and no other. -/

namespace SwapDesk.Json

theorem begins_cons {first : Char} (rest : List Char) (solid : isSpace first = false) :
    Begins (first :: rest) first rest := by
  simp [Begins, solid]

private theorem hexDigit_upperDigit : ∀ value < 16, hexDigit? (upperDigit value) = some value := by
  decide

theorem Escaped.symbol {c : Char} {written : List Char} (escaped : Escaped c written)
    (rest : List Char) : Symbol (written ++ rest) c rest := by
  cases escaped with
  | plain visible noQuote noBackslash => exact .plain visible noQuote noBackslash
  | short listed => exact .short listed
  | unit control =>
    have digits : unit? ['0', '0', upperDigit (c.toNat / 16), upperDigit (c.toNat % 16)] =
        some c.toNat := by
      have zero : hexDigit? '0' = some 0 := rfl
      simp only [unit?, zero, hexDigit_upperDigit (c.toNat / 16) (by omega),
        hexDigit_upperDigit (c.toNat % 16) (by omega), bind, Option.bind, pure]
      congr 1
      omega
    have whole : isHighSurrogate c.toNat = false ∧ isLowSurrogate c.toNat = false := by
      simp only [isHighSurrogate, isLowSurrogate, Bool.and_eq_false_iff, decide_eq_false_iff_not]
      omega
    have symbol : Symbol _ (Char.ofNat c.toNat) rest := .unit digits whole
    rwa [Char.ofNat_toNat] at symbol

theorem body_escapes (chars rest : List Char) :
    Body (chars.flatMap (fun c => (escape c).toList) ++ '"' :: rest) chars rest := by
  induction chars with
  | nil => exact .ends
  | cons c chars ih =>
    rw [List.flatMap_cons, List.append_assoc]
    exact .symbol ((escape_escaped c).symbol _) ih

theorem toList_string (text : String) :
    (string text).toList = '"' :: (text.toList.flatMap (fun c => (escape c).toList) ++ ['"']) := by
  have joined (texts : List String) : (String.join texts).toList = texts.flatMap String.toList := by
    induction texts with
    | nil => rfl
    | cons text texts ih => rw [String.join_cons, String.toList_append, ih, List.flatMap_cons]
  simp only [string, String.toList_append, joined, List.flatMap_map]
  rfl

theorem string_body (text : String) (rest : List Char) : ∃ tail,
    Begins ((string text).toList ++ rest) '"' tail ∧ Body tail text.toList rest := by
  refine ⟨_, ?_, body_escapes text.toList rest⟩
  rw [toList_string, List.cons_append, List.append_assoc]
  exact begins_cons _ rfl

/-- The rest cannot be taken for more of a number. -/
def EndsWhole (rest : List Char) : Prop :=
  ∀ c ∈ rest.head?, c.isDigit = false ∧ c ∉ ['.', 'e', 'E']

theorem whole_repr (n : Nat) {rest : List Char} (ends : EndsWhole rest) :
    Whole (n.repr.toList ++ rest) n rest := by
  have all : ∀ c ∈ Nat.toDigits 10 n, c.isDigit = true := fun _ => Numeral.isDigit_of_mem
  have stops : rest.takeWhile Char.isDigit = [] ∧ rest.dropWhile Char.isDigit = rest := by
    cases rest with
    | nil => exact ⟨rfl, rfl⟩
    | cons c rest =>
      have other : c.isDigit = false := (ends c rfl).1
      simp [other]
  have digits : (n.repr.toList ++ rest).takeWhile Char.isDigit = Nat.toDigits 10 n := by
    rw [Nat.toList_repr, List.takeWhile_append_of_pos all, stops.1, List.append_nil]
  refine ⟨?_, ?_, ?_, ?_, fun c member => (ends c member).2⟩
  · rw [digits, Numeral.value_toDigits]
  · rw [Nat.toList_repr, List.dropWhile_append_of_pos all, stops.2]
  · rw [digits]
    exact Nat.toDigits_ne_nil
  · rw [digits]
    intro zero
    rcases Nat.eq_zero_or_pos n with rfl | positive
    · rfl
    · obtain ⟨first, others, same, significant⟩ := Numeral.toDigits_head positive
      rw [same] at zero
      cases zero
      exact absurd rfl significant

private theorem isSpace_of_isDigit {c : Char} (digit : c.isDigit = true) : isSpace c = false := by
  rw [Bool.eq_false_iff]
  intro space
  simp only [isSpace, Bool.or_eq_true, beq_iff_eq] at space
  rcases space with ((rfl | rfl) | rfl) | rfl <;> cases digit

theorem reads_number (value : Int) {rest : List Char} (ends : EndsWhole rest) :
    Reads ((number value).render.toList ++ rest) (number value) rest := by
  rw [render]
  cases value with
  | ofNat n =>
    have whole := whole_repr n ends
    cases digits : n.repr.toList with
    | nil =>
      rw [Nat.toList_repr] at digits
      exact absurd digits Nat.toDigits_ne_nil
    | cons first others =>
      have digit : first.isDigit = true := by
        apply Numeral.isDigit_of_mem (n := n)
        rw [← Nat.toList_repr, digits]
        exact List.mem_cons_self
      rw [digits] at whole
      have begins := begins_cons (others ++ rest) (isSpace_of_isDigit digit)
      change Reads (n.repr.toList ++ rest) _ rest
      rw [digits]
      exact .value begins (.number digit whole)
  | negSucc n =>
    have written : (Int.negSucc n).repr.toList ++ rest = '-' :: ((n + 1).repr.toList ++ rest) := by
      change ("-" ++ (n + 1).repr).toList ++ rest = _
      rw [String.toList_append]
      rfl
    rw [written]
    exact .value (begins_cons _ rfl) (.negative (whole_repr (n + 1) ends))

private theorem endsWhole_cons {c : Char} (rest : List Char) (other : c.isDigit = false)
    (plain : c ∉ ['.', 'e', 'E']) : EndsWhole (c :: rest) := by
  intro found same
  cases same
  exact ⟨other, plain⟩

/-- Items that could come first could also come behind a comma. -/
private theorem Items.behind_comma {input rest : List Char} {item : Json} {items : List Json}
    (inside : Items true input (item :: items) rest) :
    Items false (',' :: input) (item :: items) rest := by
  cases inside with
  | some apart read others =>
    cases apart
    exact .some (begins_cons _ rfl) read others

private theorem Members.behind_comma {input rest : List Char} {member : String × Json}
    {members : List (String × Json)} (inside : Members true input (member :: members) rest) :
    Members false (',' :: input) (member :: members) rest := by
  cases inside with
  | some apart quote named colon read others =>
    cases apart
    exact .some (begins_cons _ rfl) quote named colon read others

/-- A member with the members behind it, seen from its first character. -/
private theorem Members.written (key : String) {value : Json} {members : List (String × Json)}
    {behind mid rest : List Char} (read : Reads behind value mid)
    (others : Members false mid members rest) :
    Members true ((string key).toList ++ ':' :: behind) ((key, value) :: members) rest := by
  obtain ⟨tail, quote, named⟩ := string_body key (':' :: behind)
  have member : Members true _ ((String.ofList key.toList, value) :: members) rest :=
    .some rfl quote named (begins_cons _ rfl) read others
  rwa [String.ofList_toList] at member

mutual

/-- A value is read off the front of its text. -/
theorem reads_render : (value : Json) → (rest : List Char) → EndsWhole rest →
    Reads (value.render.toList ++ rest) value rest
  | .null, rest, _ => .value (begins_cons _ rfl) .null
  | .boolean true, rest, _ => .value (begins_cons _ rfl) .yes
  | .boolean false, rest, _ => .value (begins_cons _ rfl) .no
  | .number value, rest, ends => reads_number value ends
  | .text value, rest, _ => by
    obtain ⟨tail, quote, body⟩ := string_body value rest
    have form := Form.text body
    rw [String.ofList_toList] at form
    rw [render]
    exact .value quote form
  | .list items, rest, _ => by
    have inside := items_render items rest
    rw [render]
    simp only [String.toList_append, List.append_assoc]
    exact .value (begins_cons _ rfl) (.list inside)
  | .object members, rest, _ => by
    have inside := members_render members rest
    rw [render]
    simp only [String.toList_append, List.append_assoc]
    exact .value (begins_cons _ rfl) (.object inside)

theorem items_render : (items : List Json) → (rest : List Char) →
    Items true ((renderItems items).toList ++ ']' :: rest) items rest
  | [], rest => .none (begins_cons _ rfl)
  | [item], rest => by
    have read := reads_render item (']' :: rest) (endsWhole_cons _ rfl (by simp))
    rw [renderItems]
    exact .some rfl read (.none (begins_cons _ rfl))
  | item :: next :: items, rest => by
    have others := (items_render (next :: items) rest).behind_comma
    have comma : EndsWhole (',' :: ((renderItems (next :: items)).toList ++ ']' :: rest)) :=
      endsWhole_cons _ rfl (by simp)
    have read := reads_render item _ comma
    rw [renderItems]
    simp only [String.toList_append, List.append_assoc]
    exact .some rfl read others

theorem members_render : (members : List (String × Json)) → (rest : List Char) →
    Members true ((renderMembers members).toList ++ '\x7d' :: rest) members rest
  | [], rest => .none (begins_cons _ rfl)
  | [(key, value)], rest => by
    have read := reads_render value ('\x7d' :: rest) (endsWhole_cons _ rfl (by simp))
    have member := Members.written key read (.none (begins_cons _ rfl))
    rw [renderMembers]
    simp only [String.toList_append, List.append_assoc]
    exact member
  | (key, value) :: next :: members, rest => by
    have others := (members_render (next :: members) rest).behind_comma
    have comma : EndsWhole (',' :: ((renderMembers (next :: members)).toList ++ '\x7d' :: rest)) :=
      endsWhole_cons _ rfl (by simp)
    have read := reads_render value _ comma
    have member := Members.written key read others
    rw [renderMembers]
    simp only [String.toList_append, List.append_assoc]
    exact member

end

/-- The bytes that are written for a value hold it and nothing else. -/
theorem holds_bytes (value other : Json) : Holds value.bytes other ↔ other = value := by
  have read := reads_render value [] nofun
  rw [List.append_nil] at read
  constructor
  · intro holds
    obtain ⟨text, rest, same, reads, _⟩ := holds
    rw [Text.bytes_injective same] at reads
    exact (reads.unique read).1
  · intro same
    subst same
    exact ⟨_, [], rfl, read, rfl⟩

end SwapDesk.Json
