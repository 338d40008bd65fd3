import SwapDesk.Json.Value
import SwapDesk.Text.Numeral

/-! The grammar of JSON, as far as messages use it: numbers are whole, and a text with a
fraction or an exponent has no reading. A reading takes a value off the front of the input, and
`Reads.unique` says that it can be taken in one way only. -/

namespace SwapDesk.Json

def isSpace (c : Char) : Bool := c == ' ' || c == '\n' || c == '\t' || c == '\r'

/-- Behind white space the input begins with the given character. -/
def Begins (input : List Char) (first : Char) (rest : List Char) : Prop :=
  input.dropWhile isSpace = first :: rest

/-- The letters of short escapes with the characters that they stand for. -/
def shortEscapes : List (Char × Char) :=
  [('"', '"'), ('\\', '\\'), ('/', '/'), ('b', '\x08'), ('t', '\t'), ('n', '\n'), ('f', '\x0c'),
   ('r', '\r')]

def hexDigit? (c : Char) : Option Nat :=
  if '0' ≤ c ∧ c ≤ '9' then some (c.toNat - '0'.toNat)
  else if 'a' ≤ c ∧ c ≤ 'f' then some (c.toNat - 'a'.toNat + 10)
  else if 'A' ≤ c ∧ c ≤ 'F' then some (c.toNat - 'A'.toNat + 10)
  else none

def unit? (digits : List Char) : Option Nat := do
  match digits with
  | [a, b, c, d] => pure ((((← hexDigit? a) * 16 + (← hexDigit? b)) * 16 + (← hexDigit? c)) * 16 +
      (← hexDigit? d))
  | _ => none

def isHighSurrogate (unit : Nat) : Bool := 0xd800 ≤ unit && unit ≤ 0xdbff

def isLowSurrogate (unit : Nat) : Bool := 0xdc00 ≤ unit && unit ≤ 0xdfff

def joined (high low : Nat) : Char := Char.ofNat (0x10000 + (high - 0xd800) * 0x400 + (low - 0xdc00))

/-- One character off the front of a string. A surrogate stands for a character only together
with its other half. -/
inductive Symbol : List Char → Char → List Char → Prop where
  | plain {c : Char} {rest : List Char} (visible : 0x20 ≤ c.toNat) (noQuote : c ≠ '"')
      (noBackslash : c ≠ '\\') : Symbol (c :: rest) c rest
  | short {letter c : Char} {rest : List Char} (listed : (letter, c) ∈ shortEscapes) :
      Symbol ('\\' :: letter :: rest) c rest
  | unit {a b c d : Char} {code : Nat} {rest : List Char} (digits : unit? [a, b, c, d] = some code)
      (whole : isHighSurrogate code = false ∧ isLowSurrogate code = false) :
      Symbol ('\\' :: 'u' :: a :: b :: c :: d :: rest) (Char.ofNat code) rest
  | pair {a b c d e f g h : Char} {high low : Nat} {rest : List Char}
      (first : unit? [a, b, c, d] = some high) (second : unit? [e, f, g, h] = some low)
      (halves : isHighSurrogate high = true ∧ isLowSurrogate low = true) :
      Symbol ('\\' :: 'u' :: a :: b :: c :: d :: '\\' :: 'u' :: e :: f :: g :: h :: rest)
        (joined high low) rest

/-- The characters of a string up to and including the quote that ends it. -/
inductive Body : List Char → List Char → List Char → Prop where
  | ends {rest : List Char} : Body ('"' :: rest) [] rest
  | symbol {c : Char} {input mid rest chars : List Char} (head : Symbol input c mid)
      (others : Body mid chars rest) : Body input (c :: chars) rest

/-- All digits at the front make one number. It has no leading zeros, and neither a fraction
nor an exponent follows. -/
structure Whole (input : List Char) (n : Nat) (rest : List Char) : Prop where
  value : Numeral.value (input.takeWhile Char.isDigit) = n
  behind : input.dropWhile Char.isDigit = rest
  nonempty : input.takeWhile Char.isDigit ≠ []
  significant : (input.takeWhile Char.isDigit).head? = some '0' →
    input.takeWhile Char.isDigit = ['0']
  ends : ∀ c ∈ rest.head?, c ∉ ['.', 'e', 'E']

/-- What stands before an item: a comma, unless it is the first one. -/
def Apart (first : Bool) (input start : List Char) : Prop :=
  if first then input = start else Begins input ',' start

mutual

/-- The input begins with a value and leaves the rest. -/
inductive Reads : List Char → Json → List Char → Prop where
  | value {first : Char} {input tail rest : List Char} {value : Json}
      (begins : Begins input first tail) (form : Form first tail value rest) :
      Reads input value rest

/-- The forms of a value, told apart by the first character. -/
inductive Form : Char → List Char → Json → List Char → Prop where
  | null {rest : List Char} : Form 'n' ('u' :: 'l' :: 'l' :: rest) .null rest
  | yes {rest : List Char} : Form 't' ('r' :: 'u' :: 'e' :: rest) (.boolean true) rest
  | no {rest : List Char} : Form 'f' ('a' :: 'l' :: 's' :: 'e' :: rest) (.boolean false) rest
  | number {first : Char} {n : Nat} {tail rest : List Char} (digit : first.isDigit = true)
      (whole : Whole (first :: tail) n rest) : Form first tail (.number n) rest
  | negative {n : Nat} {tail rest : List Char} (whole : Whole tail n rest) :
      Form '-' tail (.number (-n)) rest
  | text {tail chars rest : List Char} (body : Body tail chars rest) :
      Form '"' tail (.text (String.ofList chars)) rest
  | list {items : List Json} {tail rest : List Char} (inside : Items true tail items rest) :
      Form '[' tail (.list items) rest
  | object {members : List (String × Json)} {tail rest : List Char}
      (inside : Members true tail members rest) : Form '\x7b' tail (.object members) rest

inductive Items : Bool → List Char → List Json → List Char → Prop where
  | none {first : Bool} {input rest : List Char} (closes : Begins input ']' rest) :
      Items first input [] rest
  | some {first : Bool} {input start mid rest : List Char} {item : Json} {items : List Json}
      (apart : Apart first input start) (read : Reads start item mid)
      (others : Items false mid items rest) : Items first input (item :: items) rest

inductive Members : Bool → List Char → List (String × Json) → List Char → Prop where
  | none {first : Bool} {input rest : List Char} (closes : Begins input '\x7d' rest) :
      Members first input [] rest
  | some {first : Bool} {input start quoted key behind tail mid rest : List Char} {value : Json}
      {members : List (String × Json)} (apart : Apart first input start)
      (quote : Begins start '"' quoted) (named : Body quoted key behind)
      (colon : Begins behind ':' tail) (read : Reads tail value mid)
      (others : Members false mid members rest) :
      Members first input ((String.ofList key, value) :: members) rest

end

/-- The bytes are a text that holds the value and nothing else but white space. -/
def Holds (bytes : Bytes) (value : Json) : Prop :=
  ∃ text rest, Text.bytes text = bytes ∧ Reads text.toList value rest ∧ rest.all isSpace = true

theorem Begins.unique {input tail tail' : List Char} {first first' : Char}
    (begins : Begins input first tail) (begins' : Begins input first' tail') :
    first = first' ∧ tail = tail' := by
  have same := begins.symm.trans begins'
  exact ⟨List.head_eq_of_cons_eq same, List.tail_eq_of_cons_eq same⟩

private theorem not_listed_u (c : Char) : ('u', c) ∉ shortEscapes := by
  intro listed
  simp only [shortEscapes, List.mem_cons, Prod.mk.injEq, List.not_mem_nil, or_false] at listed
  rcases listed with ⟨same, _⟩ | ⟨same, _⟩ | ⟨same, _⟩ | ⟨same, _⟩ | ⟨same, _⟩ | ⟨same, _⟩ |
    ⟨same, _⟩ | ⟨same, _⟩ <;> cases same

private theorem shortEscapes_unique : ∀ one ∈ shortEscapes, ∀ other ∈ shortEscapes,
    one.1 = other.1 → one.2 = other.2 := by
  decide

theorem Symbol.unique {input rest rest' : List Char} {c c' : Char} (one : Symbol input c rest)
    (other : Symbol input c' rest') : c = c' ∧ rest = rest' := by
  cases one with
  | plain visible noQuote noBackslash =>
    cases other with
    | plain _ _ _ => exact ⟨rfl, rfl⟩
    | short _ => exact absurd rfl noBackslash
    | unit _ _ => exact absurd rfl noBackslash
    | pair _ _ _ => exact absurd rfl noBackslash
  | short listed =>
    cases other with
    | plain _ _ noBackslash => exact absurd rfl noBackslash
    | short listed' => exact ⟨shortEscapes_unique _ listed _ listed' rfl, rfl⟩
    | unit _ _ => exact absurd listed (not_listed_u c)
    | pair _ _ _ => exact absurd listed (not_listed_u c)
  | unit digits whole =>
    cases other with
    | plain _ _ noBackslash => exact absurd rfl noBackslash
    | short listed' => exact absurd listed' (not_listed_u c')
    | unit digits' _ =>
      cases digits.symm.trans digits'
      exact ⟨rfl, rfl⟩
    | pair first' _ halves =>
      cases digits.symm.trans first'
      rw [whole.1] at halves
      cases halves.1
  | pair first second halves =>
    cases other with
    | plain _ _ noBackslash => exact absurd rfl noBackslash
    | short listed' => exact absurd listed' (not_listed_u c')
    | unit digits' whole =>
      cases first.symm.trans digits'
      rw [whole.1] at halves
      cases halves.1
    | pair first' second' _ =>
      cases first.symm.trans first'
      cases second.symm.trans second'
      exact ⟨rfl, rfl⟩

theorem Symbol.not_quote {c : Char} {rest mid : List Char} : ¬ Symbol ('"' :: rest) c mid := by
  intro symbol
  cases symbol with
  | plain _ noQuote _ => exact noQuote rfl

theorem Body.unique {input chars chars' rest rest' : List Char} (one : Body input chars rest)
    (other : Body input chars' rest') : chars = chars' ∧ rest = rest' := by
  induction one generalizing chars' with
  | ends =>
    cases other with
    | ends => exact ⟨rfl, rfl⟩
    | symbol head _ => exact absurd head Symbol.not_quote
  | symbol head _ ih =>
    cases other with
    | ends => exact absurd head Symbol.not_quote
    | symbol head' others' =>
      obtain ⟨rfl, rfl⟩ := head.unique head'
      obtain ⟨rfl, rfl⟩ := ih others'
      exact ⟨rfl, rfl⟩

theorem Whole.unique {input rest rest' : List Char} {n n' : Nat} (one : Whole input n rest)
    (other : Whole input n' rest') : n = n' ∧ rest = rest' :=
  ⟨one.value.symm.trans other.value, one.behind.symm.trans other.behind⟩

theorem Apart.unique {first : Bool} {input start start' : List Char}
    (one : Apart first input start) (other : Apart first input start') : start = start' := by
  cases first with
  | true => exact one.symm.trans other
  | false => exact (Begins.unique one other).2

/-- Where a list or an object could end, no comma stands, so an item would begin there. -/
theorem Apart.begins {first : Bool} {input start rest : List Char} {closing : Char}
    (apart : Apart first input start) (closes : Begins input closing rest) (noComma : closing ≠ ',') :
    Begins start closing rest := by
  cases first with
  | true =>
    cases apart
    exact closes
  | false => exact absurd (closes.unique apart).1 noComma

theorem Reads.not_bracket {input rest mid : List Char} {value : Json}
    (closes : Begins input ']' rest) : ¬ Reads input value mid := by
  intro reads
  obtain ⟨begins, form⟩ := reads
  obtain ⟨rfl, rfl⟩ := begins.unique closes
  cases form with
  | number digit _ => cases digit

private theorem Items.one_end {first : Bool} {input start rest mid : List Char} {item : Json}
    (closes : Begins input ']' rest) (apart : Apart first input start) : ¬ Reads start item mid :=
  Reads.not_bracket (apart.begins closes nofun)

private theorem Members.one_end {first : Bool} {input start quoted rest : List Char}
    (closes : Begins input '\x7d' rest) (apart : Apart first input start) :
    ¬ Begins start '"' quoted := by
  intro quote
  cases (quote.unique (apart.begins closes nofun)).1

mutual

theorem Reads.unique {input rest rest' : List Char} {value value' : Json} :
    Reads input value rest → Reads input value' rest' → value = value' ∧ rest = rest'
  | .value begins form, .value begins' form' => by
    obtain ⟨rfl, rfl⟩ := begins.unique begins'
    exact form.unique form'
termination_by structural one => one

theorem Form.unique {first : Char} {tail rest rest' : List Char} {value value' : Json} :
    Form first tail value rest → Form first tail value' rest' → value = value' ∧ rest = rest'
  | .null, other => by
    cases other with
    | null => exact ⟨rfl, rfl⟩
    | number digit _ => cases digit
  | .yes, other => by
    cases other with
    | yes => exact ⟨rfl, rfl⟩
    | number digit _ => cases digit
  | .no, other => by
    cases other with
    | no => exact ⟨rfl, rfl⟩
    | number digit _ => cases digit
  | .number digit whole, other => by
    cases other with
    | number _ whole' =>
      obtain ⟨rfl, rfl⟩ := whole.unique whole'
      exact ⟨rfl, rfl⟩
    | _ => cases digit
  | .negative whole, other => by
    cases other with
    | number digit _ => cases digit
    | negative whole' =>
      obtain ⟨rfl, rfl⟩ := whole.unique whole'
      exact ⟨rfl, rfl⟩
  | .text body, other => by
    cases other with
    | number digit _ => cases digit
    | text body' =>
      obtain ⟨rfl, rfl⟩ := body.unique body'
      exact ⟨rfl, rfl⟩
  | .list items, other => by
    cases other with
    | number digit _ => cases digit
    | list items' =>
      obtain ⟨rfl, rfl⟩ := items.unique items'
      exact ⟨rfl, rfl⟩
  | .object members, other => by
    cases other with
    | number digit _ => cases digit
    | object members' =>
      obtain ⟨rfl, rfl⟩ := members.unique members'
      exact ⟨rfl, rfl⟩

theorem Items.unique {first : Bool} {input rest rest' : List Char} {items items' : List Json} :
    Items first input items rest → Items first input items' rest' → items = items' ∧ rest = rest'
  | .none closes, other => by
    cases other with
    | none closes' => exact ⟨rfl, (closes.unique closes').2⟩
    | some apart read _ => exact absurd read (Items.one_end closes apart)
  | .some apart read others, other => by
    cases other with
    | none closes => exact absurd read (Items.one_end closes apart)
    | some apart' read' others' =>
      obtain rfl := apart.unique apart'
      obtain ⟨rfl, rfl⟩ := read.unique read'
      obtain ⟨rfl, rfl⟩ := others.unique others'
      exact ⟨rfl, rfl⟩

theorem Members.unique {first : Bool} {input rest rest' : List Char}
    {members members' : List (String × Json)} :
    Members first input members rest → Members first input members' rest' →
      members = members' ∧ rest = rest'
  | .none closes, other => by
    cases other with
    | none closes' => exact ⟨rfl, (closes.unique closes').2⟩
    | some apart quote _ _ _ _ => exact absurd quote (Members.one_end closes apart)
  | .some apart quote named colon read others, other => by
    cases other with
    | none closes => exact absurd quote (Members.one_end closes apart)
    | some apart' quote' named' colon' read' others' =>
      obtain rfl := apart.unique apart'
      obtain ⟨_, rfl⟩ := quote.unique quote'
      obtain ⟨rfl, rfl⟩ := named.unique named'
      obtain ⟨_, rfl⟩ := colon.unique colon'
      obtain ⟨rfl, rfl⟩ := read.unique read'
      obtain ⟨rfl, rfl⟩ := others.unique others'
      exact ⟨rfl, rfl⟩

end

end SwapDesk.Json
