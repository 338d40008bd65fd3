import SwapDesk.Bytes

/-! What a rehearsed node says to queries. Replies that are laid out in advance go first; after
them the first rule that fits the query decides. -/

namespace SwapDesk.Rehearsal

/-- A reply to the queries of one contract, or of all, that contain a text. -/
structure Rule (ρ : Type) where
  contract : Option String
  contains : Option String
  reply : ρ

/-- Whether `part` stands somewhere in `whole`. -/
def occurs (part : Bytes) : (whole : Bytes) → Bool
  | [] => part.isEmpty
  | first :: rest => part.isPrefixOf (first :: rest) || occurs part rest

def Rule.fits {ρ : Type} (rule : Rule ρ) (contract : String) (query : Bytes) : Bool :=
  rule.contract.all (· == contract) && rule.contains.all fun part => occurs (Text.bytes part) query

structure Script (ρ : Type) where
  replies : List ρ := []
  rules : List (Rule ρ) := []
  otherwise : ρ

/-- The reply to a query, and the script from then on. -/
def Script.next {ρ : Type} (script : Script ρ) (contract : String) (query : Bytes) : ρ × Script ρ :=
  match script.replies with
  | reply :: replies => (reply, { script with replies })
  | [] =>
    match script.rules.find? (·.fits contract query) with
    | some rule => (rule.reply, script)
    | none => (script.otherwise, script)

end SwapDesk.Rehearsal
