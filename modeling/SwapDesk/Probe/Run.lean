import SwapDesk.Probe.Configuration
import SwapDesk.Probe.Logging
import SwapDesk.Probe.Sweep

/-! A run of the probe, from the environment to the last event. Each stage is a gate: nothing
is sent to the node for a stage unless all stages before it succeeded. -/

namespace SwapDesk.Probe

inductive RunError where
  | logging (cause : Logging.Error)
  | configuration (cause : Configuration.Error)
  | connection (cause : Node.ConnectFault)
  | signer (cause : Signer.LoadFault)
  | height (cause : Trail)

def RunError.trail : RunError → Trail
  | .logging cause => cause.trail.within "Failed to initialize logging!"
  | .configuration cause => cause.trail.within "Failed to load probe configuration!"
  | .connection cause => cause.trail.within "Failed to connect to node's gRPC!"
  | .signer cause => cause.trail.within "Failed to initialize signer!"
  | .height cause => cause.within "Failed to fetch latest block height!"

structure Outcome where
  logging : Logging
  log : List Event := []
  error : Option RunError := none

/-- The number that tells a caller whether the run succeeded. -/
def Outcome.exitCode (outcome : Outcome) : Nat := if outcome.error.isSome then 1 else 0

def Outcome.complaint (outcome : Outcome) : String :=
  match outcome.error with
  | some error => error.trail.report
  | none => ""

variable {τ : Type} [Node.Endpoint τ]

/-- A desk at work on a connection. -/
abbrev LiveDesk (τ : Type) [Node.Endpoint τ] := Desk (Node.Connection τ) Signer

/-- The last stage: the height of the chain, then the sweep. -/
def work (network : Registry.Network) : StateM (LiveDesk τ) (Option RunError) := do
  match ← Desk.blockHeight with
  | .error cause => pure (some (.height cause))
  | .ok height =>
    let desk ← get
    Desk.emit [.walletReady (Wallet.address desk.wallet) height]
    sweep network
    Desk.emit [.finished]
    pure none

/-- What the log says before a connection is made. -/
def announcement (configuration : Configuration) : Event :=
  let network := configuration.network
  .connecting network.name network.chainId configuration.uri network.restEndpoint

def visit (configuration : Configuration) : StateM τ (List Event × Option RunError) := do
  let network := configuration.network
  let announced := [announcement configuration]
  match ← (Node.connect configuration.uri).run with
  | .error cause => pure (announced, some (.connection cause))
  | .ok line => fun remote =>
    let loading := Signer.load configuration.key network.accountHrp network.feeDenom network.chainId
    match loading.run { line, remote } with
    | (.error cause, connection) => ((announced, some (.signer cause)), connection.remote)
    | (.ok signer, connection) =>
      let desk : LiveDesk τ :=
        { chain := connection, wallet := signer, log := announced ++ [signer.loaded] }
      let (error, desk) := (work network).run desk
      ((desk.log, error), desk.chain.remote)

/-- The whole run. Without a configuration nothing is logged and nothing is sent. -/
def run (environment : Environment) : StateM τ Outcome := do
  match Logging.read environment with
  | .error cause => pure { logging := {}, error := some (.logging cause) }
  | .ok logging =>
    match Configuration.read environment with
    | .error cause => pure { logging, error := some (.configuration cause) }
    | .ok configuration =>
      let (log, error) ← visit configuration
      pure { logging, log := logging.filter log, error }

end SwapDesk.Probe
