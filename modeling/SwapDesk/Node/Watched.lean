import SwapDesk.Node.Call

/-! Far ends under watch. A watched far end behaves as the one inside it and keeps a record of
every attempt to make a link and of every call that is sent. -/

namespace SwapDesk.Node

/-- An attempt to make a link with what came of it, or a call on a link with how it failed if it
did. -/
inductive Contact (τ : Type) [Endpoint τ] where
  | dialled (uri : Uri) (outcome : Except DialFault (Endpoint.Link τ))
  | sent (link : Endpoint.Link τ) (call : Call) (status : Option Status)

def errorOf? {ε α : Type} : Except ε α → Option ε
  | .ok _ => none
  | .error error => some error

structure Watched (τ : Type) [Endpoint τ] where
  inner : τ
  record : List (Contact τ) := []

variable {τ : Type} [Endpoint τ]

instance : Endpoint (Watched τ) where
  Link := Endpoint.Link τ
  dial uri := fun ⟨inner, record⟩ =>
    let (result, inner) := Endpoint.dial uri inner
    (result, ⟨inner, record ++ [.dialled uri result]⟩)
  send link call := fun ⟨inner, record⟩ =>
    let (result, inner) := Endpoint.send link call inner
    (result, ⟨inner, record ++ [.sent link call (errorOf? result)]⟩)

namespace Contact

def call? : Contact τ → Option Call
  | .dialled _ _ => none
  | .sent _ call _ => some call

def link? : Contact τ → Option (Endpoint.Link τ)
  | .dialled _ _ => none
  | .sent link _ _ => some link

end Contact

namespace Watched

def calls (watched : Watched τ) : List Call := watched.record.filterMap Contact.call?

end Watched

end SwapDesk.Node
