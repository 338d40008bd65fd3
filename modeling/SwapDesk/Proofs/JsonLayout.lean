import SwapDesk.Proofs.JsonGrammar
import SwapDesk.Proofs.JsonText
import SwapDesk.Wire.Reader

/-! Texts of JSON values as others may write them (RFC 8259): with blanks around every token, any
escapes in strings, and numbers with fractions and exponents. The values are not told apart here;
what counts is where a text ends and how deep its brackets go. -/

namespace SwapDesk.Json

open Wire (isBlank isDigit)

/-- A string in quotes, with whatever escapes it is written. A surrogate escape stands only
beside its other half. -/
def Quotes (text : Bytes) (value : String) : Prop :=
  ∃ inner, Text.bytes (String.ofList ('"' :: inner)) = text ∧ Body inner value.toList []

structure Digits (text : Bytes) : Prop where
  nonempty : text ≠ []
  all : ∀ byte ∈ text, isDigit byte = true

/-- Digits without leading zeros. -/
structure Integer (text : Bytes) : Prop where
  digits : Digits text
  significant : text.head? = some 0x30 → text = [0x30]

inductive Fraction : Bytes → Prop where
  | none : Fraction []
  | some {digits : Bytes} (places : Digits digits) : Fraction (0x2e :: digits)

inductive Exponent : Bytes → Prop where
  | none : Exponent []
  | some {letter : UInt8} {sign digits : Bytes} (marked : letter ∈ [0x65, 0x45])
      (signed : sign ∈ [[], [0x2b], [0x2d]]) (power : Digits digits) :
      Exponent (letter :: (sign ++ digits))

inductive NumberText : Bytes → Prop where
  | parts {sign whole fraction exponent : Bytes} (signed : sign ∈ [[], [0x2d]])
      (integer : Integer whole) (fractional : Fraction fraction) (scaled : Exponent exponent) :
      NumberText (sign ++ (whole ++ (fraction ++ exponent)))

/-- The text of a list behind its opening bracket, made of the texts of its items. -/
inductive ItemsText : Bool → List Bytes → Bytes → Prop where
  | none {first : Bool} {gap : Bytes} (blank : gap.all isBlank = true) :
      ItemsText first [] (gap ++ [0x5d])
  | some {first : Bool} {item others : Bytes} {items : List Bytes}
      (following : ItemsText false items others) :
      ItemsText first (item :: items) (separator first ++ (item ++ others))

/-- The text of an object behind its opening brace. Each member is a key and the text of a value;
blanks around the value belong to that text. -/
inductive MembersText : Bool → List (String × Bytes) → Bytes → Prop where
  | none {first : Bool} {gap : Bytes} (blank : gap.all isBlank = true) :
      MembersText first [] (gap ++ [0x7d])
  | some {first : Bool} {key : String} {before quoted between value others : Bytes}
      {members : List (String × Bytes)} (blank : before.all isBlank = true) (quotes : Quotes quoted key)
      (blank' : between.all isBlank = true) (following : MembersText false members others) :
      MembersText first ((key, value) :: members)
        (separator first ++ (before ++ (quoted ++ (between ++ 0x3a :: (value ++ others)))))

/-- The texts of values that open at most the given number of brackets inside each other. -/
inductive ValueText : Nat → Bytes → Prop where
  | word {depth : Nat} {text : Bytes} (known : text ∈ ["null", "true", "false"].map Text.bytes) :
      ValueText depth text
  | number {depth : Nat} {text : Bytes} (number : NumberText text) : ValueText depth text
  | string {depth : Nat} {text : Bytes} {value : String} (quotes : Quotes text value) :
      ValueText depth text
  | list {depth : Nat} {items : List Bytes} {text : Bytes} (inside : ItemsText true items text)
      (values : ∀ item ∈ items, ValueText depth item) : ValueText (depth + 1) (0x5b :: text)
  | object {depth : Nat} {members : List (String × Bytes)} {text : Bytes}
      (inside : MembersText true members text)
      (values : ∀ member ∈ members, ValueText depth member.2) : ValueText (depth + 1) (0x7b :: text)
  | padded {depth : Nat} {before text after : Bytes} (blank : before.all isBlank = true)
      (value : ValueText depth text) (blank' : after.all isBlank = true) :
      ValueText depth (before ++ (text ++ after))

end SwapDesk.Json
