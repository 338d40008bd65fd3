import SwapDesk.Text.Numeral
import SwapDesk.Crypto.Octets

/-! Paths from a master key to the keys below it. -/

namespace SwapDesk.Key

/-- One step down: the number of a child, drawn from the secret key when hardened and from
the public key otherwise. -/
structure Step where
  index : Nat
  hardened : Bool
  deriving DecidableEq

abbrev Path := List Step

inductive PathFault where
  | malformed
  | badStep
  deriving DecidableEq

def PathFault.message : PathFault → String
  | .malformed => "decoding error"
  | .badStep => "invalid child number"

namespace Step

/-- The number of the child with the mark of a hardened step in its highest bit. -/
def number (step : Step) : Nat := if step.hardened then step.index + 2 ^ 31 else step.index

/-- A step is a number below 2³¹, hardened when a single apostrophe or h follows it. -/
def ofText (text : String) : Except PathFault Step :=
  let symbols := text.toList
  let hardened := symbols.getLast? == some '\'' || symbols.getLast? == some 'h'
  let digits := if hardened then symbols.dropLast else symbols
  match Numeral.read (2 ^ 31) (String.ofList digits) with
  | .ok index => .ok ⟨index, hardened⟩
  | .error _ => .error .badStep

end Step

/-- A path begins at the master key, written m, and steps down at each slash. -/
def Path.ofText (text : String) : Except PathFault Path :=
  match text.splitOn "/" with
  | "m" :: steps => steps.mapM Step.ofText
  | _ => .error .malformed

end SwapDesk.Key
