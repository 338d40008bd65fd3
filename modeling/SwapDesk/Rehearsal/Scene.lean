import SwapDesk.Desk.Errand
import SwapDesk.Node.Watched
import SwapDesk.Rehearsal.Remote

/-! A rehearsal of all that goes through connections to a far end in memory: a client, a
signer, and a desk that was opened for them. The desk shares the client's line, and keeps it
when the client connects anew. -/

namespace SwapDesk.Rehearsal

abbrev FarEnd := Node.Watched Remote

/-- A desk with a count of its own. Without a line of its own it shares the client's. -/
structure Branch where
  line : Option (Node.Line FarEnd) := none
  signer : Signer

/-- `heard` counts the calls that were sent before the present step. -/
structure Scene where
  remote : FarEnd
  heard : Nat := 0
  client : Option (Node.Line FarEnd) := none
  signer : Option Signer := none
  branch : Option Branch := none
  log : List Event := []

namespace Scene

inductive Gap where
  | client
  | signer
  | branch
  deriving DecidableEq

/-- A step of the rehearsal. What it changed stays changed when it fails. -/
abbrev Act := ExceptT Gap (StateT Scene (Except Overflow))

def changeRemote (change : Remote → Remote) (scene : Scene) : Scene :=
  { scene with remote := { scene.remote with inner := change scene.remote.inner } }

/-- Prepares the scene for a step: what the far end is to say, and nothing noted yet. -/
def prepare (script : Script Reply) (scene : Scene) : Scene :=
  let scene := scene.changeRemote fun remote => { remote with script }
  { scene with heard := scene.remote.calls.length, log := [] }

def calls (scene : Scene) : List Node.Call := scene.remote.calls.drop scene.heard

def connections (scene : Scene) : Nat :=
  let links : List Nat := scene.remote.record.filterMap Node.Contact.link?
  links.eraseDups.length

def setAccepting (accepting : Bool) : Act Unit :=
  modify (changeRemote fun remote => { remote with accepting })

def theClient : Act (Node.Line FarEnd) := do
  match (← get).client with
  | some line => pure line
  | none => throw .client

def theSigner : Act Signer := do
  match (← get).signer with
  | some signer => pure signer
  | none => throw .signer

def theBranch : Act Branch := do
  match (← get).branch with
  | some branch => pure branch
  | none => throw .branch

def connect (uri : String) : Act (Except Node.ConnectFault Unit) := do
  let scene ← get
  let (result, remote) := (Node.connect uri).run.run scene.remote
  match result with
  | .error fault =>
    set { scene with remote }
    pure (.error fault)
  | .ok line =>
    let keep (branch : Branch) := { branch with line := branch.line <|> scene.client }
    set { scene with remote, client := some line, branch := scene.branch.map keep }
    pure (.ok ())

def onClient {ε α : Type} (calls : ExceptT ε (StateM (Node.Connection FarEnd)) α) :
    Act (Except ε α) := do
  let line ← theClient
  let scene ← get
  let (result, connection) := calls.run.run { line, remote := scene.remote }
  set { scene with client := some connection.line, remote := connection.remote }
  pure result

/-- Loads a signer, which takes the place of the one before. -/
def load (key : Key.Signing) (hrp feeDenom expectedChainId : String) :
    Act (Except Signer.LoadFault Signer) := do
  let result ← onClient (Signer.load key hrp feeDenom expectedChainId)
  match result with
  | .error _ => pure ()
  | .ok signer =>
    modify fun scene => { scene with signer := some signer, log := scene.log ++ [signer.loaded] }
  pure result

/-- Stops the rehearsal if the count cannot move on. -/
def counting {α : Type} (outcome : Except Overflow α) : Act α := fun scene =>
  outcome.map fun value => (.ok value, scene)

def advance : Act Signer := do
  let (signer, events) ← counting (Wallet.commit (← theSigner))
  modify fun scene => { scene with signer := some signer, log := scene.log ++ events }
  pure signer

/-- Opens a desk with the client's line and the signer as it is now. -/
def openBranch : Act Signer := do
  let signer ← theSigner
  let _ ← theClient
  modify fun scene => { scene with branch := some { signer } }
  pure signer

def perform {α : Type} (errand : Desk.Errand α) : Act α := do
  let branch ← theBranch
  let line ← match branch.line with
    | some line => pure line
    | none => theClient
  let scene ← get
  let desk : Desk (Node.Connection FarEnd) Signer :=
    { chain := { line, remote := scene.remote }, wallet := branch.signer }
  let (outcome, desk) ← counting (errand.perform.run desk)
  let scene := { scene with remote := desk.chain.remote, log := scene.log ++ desk.log }
  set <| match branch.line with
    | some _ => { scene with branch := some ⟨some desk.chain.line, desk.wallet⟩ }
    | none => { scene with client := some desk.chain.line, branch := some ⟨none, desk.wallet⟩ }
  pure outcome

end Scene

end SwapDesk.Rehearsal
