import SwapDesk.Probe.Run
import SwapDesk.Proofs.Conversation

/-! The gates of a run. Each stage of a run says all that the stage can say to the node and how
the run ends there, so the run as a whole is put together from its stages. -/

namespace SwapDesk.Probe

open Node (Call Talk Overheard Connection Polled calls)

variable {τ : Type} [Node.Endpoint τ]

/-- What is said while a connection is made, and the address that the connection is to. -/
inductive Connecting (text : String) : List Talk → Except Node.ConnectFault Node.Uri → Prop where
  | unparsed {cause : Node.Uri.Fault} (bad : Node.Uri.ofText text = .error cause) :
      Connecting text [] (.error (.badUri text cause))
  | nameless {uri : Node.Uri} (parsed : Node.Uri.ofText text = .ok uri)
      (encrypted : uri.isEncrypted = true) (unverifiable : uri.isVerifiable = false) :
      Connecting text [] (.error .noServerName)
  | unlinked {uri : Node.Uri} {cause : Node.DialFault} (parsed : Node.Uri.ofText text = .ok uri)
      (fit : uri.isEncrypted = true → uri.isVerifiable = true) :
      Connecting text [.dialled uri (some cause)] (.error (.noLink cause))
  | linked {uri : Node.Uri} (parsed : Node.Uri.ofText text = .ok uri)
      (fit : uri.isEncrypted = true → uri.isVerifiable = true) :
      Connecting text [.dialled uri none] (.ok uri)

theorem connect_gated (text : String) (remote : Overheard τ) :
    ∃ talk outcome after, settled (Node.connect text) remote = (outcome, after) ∧
      Connecting text talk (outcome.map (·.uri)) ∧ after.talk = remote.talk ++ talk ∧
      ∀ line, outcome = .ok line → line.isBroken = false := by
  unfold Node.connect
  cases parsed : Node.Uri.ofText text with
  | error cause => exact ⟨[], _, remote, rfl, .unparsed parsed, (List.append_nil _).symm, nofun⟩
  | ok uri =>
  dsimp only
  by_cases unfit : (uri.isEncrypted && !uri.isVerifiable) = true
  case pos =>
    rw [if_pos unfit]
    rw [Bool.and_eq_true, Bool.not_eq_true'] at unfit
    exact ⟨[], _, remote, rfl, .nameless parsed unfit.1 unfit.2, (List.append_nil _).symm, nofun⟩
  have fit : uri.isEncrypted = true → uri.isVerifiable = true := by
    intro encrypted
    simpa [encrypted] using unfit
  rw [if_neg unfit, settled_bind_ok (settled_lift _ remote)]
  cases dialled : Node.Endpoint.dial uri remote with
  | mk outcome after =>
  have heard := Node.dial_overheard dialled
  have answered : StateT.run (Node.Endpoint.dial uri) remote = (outcome, after) := dialled
  rw [answered]
  cases outcome with
  | error cause => exact ⟨_, _, after, rfl, .unlinked parsed fit, heard, nofun⟩
  | ok link =>
    refine ⟨_, _, after, rfl, .linked parsed fit, heard, ?_⟩
    intro line same
    cases same
    rfl

/-- The conversation in which a signer is loaded, and what comes of it. -/
inductive Loading (configuration : Configuration) :
    List Talk → Except Signer.LoadFault Signer → Prop where
  | unnamed {answer : Except Node.Status (Option String)} {fault : Node.Fault}
      (refused : Connection.Named answer (.error fault)) :
      Loading configuration [.called .nodeInfo answer] (.error (.chain fault))
  | elsewhere {answer : Except Node.Status (Option String)} {chainId : Node.ChainId}
      (named : Connection.Named answer (.ok chainId))
      (other : chainId.text ≠ configuration.network.chainId) :
      Loading configuration [.called .nodeInfo answer]
        (.error (.otherChain chainId.text configuration.network.chainId))
  | addressless {answer : Except Node.Status (Option String)} {chainId : Node.ChainId}
      {cause : Account.IdFault} (named : Connection.Named answer (.ok chainId))
      (same : chainId.text = configuration.network.chainId)
      (underived : Account.Id.ofPublicKey configuration.network.accountHrp
        configuration.key.publicKey = .error cause) :
      Loading configuration [.called .nodeInfo answer]
        (.error (.badAddress configuration.network.accountHrp cause))
  | unrecorded {answer : Except Node.Status (Option String)} {chainId : Node.ChainId}
      {address : Account.Id} {found : Except Node.Status (Option Protobuf.Typed)}
      {fault : Node.Fault} (named : Connection.Named answer (.ok chainId))
      (same : chainId.text = configuration.network.chainId)
      (derived : Account.Id.ofPublicKey configuration.network.accountHrp
        configuration.key.publicKey = .ok address)
      (refused : Connection.Recorded address.text found (.error fault)) :
      Loading configuration
        [.called .nodeInfo answer, .called (.account address.text) found] (.error (.account fault))
  | loaded {answer : Except Node.Status (Option String)} {chainId : Node.ChainId}
      {signer : Signer} {found : Except Node.Status (Option Protobuf.Typed)}
      {record : Account.Record} (named : Connection.Named answer (.ok chainId))
      (same : chainId.text = configuration.network.chainId)
      (derived : Account.Id.ofPublicKey configuration.network.accountHrp
        configuration.key.publicKey = .ok signer.address)
      (recorded : Connection.Recorded signer.address.text found (.ok record)) :
      Loading configuration
        [.called .nodeInfo answer, .called (.account signer.address.text) found] (.ok signer)

theorem load_gated (configuration : Configuration) (before : Connection (Overheard τ))
    (intact : before.line.isBroken = false) :
    ∃ talk outcome after,
      settled (Signer.load configuration.key configuration.network.accountHrp
        configuration.network.feeDenom configuration.network.chainId) before = (outcome, after) ∧
      Loading configuration talk outcome ∧ before.Continues talk after ∧
      ∀ signer, outcome = .ok signer → after.line.isBroken = false := by
  obtain ⟨answer, outcome, between, asked, named, continues, left⟩ :=
    Connection.asks_chainId before intact
  have adapted := settled_adapt Connection.chainId Signer.LoadFault.chain before
  rw [asked] at adapted
  unfold Signer.load
  cases outcome with
  | error fault =>
    rw [settled_bind_error adapted]
    exact ⟨_, _, _, rfl, .unnamed named, continues, nofun⟩
  | ok chainId =>
  rw [settled_bind_ok adapted]
  by_cases same : chainId.text = configuration.network.chainId
  case neg =>
    rw [if_pos same]
    exact ⟨_, _, _, rfl, .elsewhere named same, continues, nofun⟩
  rw [if_neg (not_not.mpr same)]
  cases derived : Account.Id.ofPublicKey configuration.network.accountHrp
      configuration.key.publicKey with
  | error cause => exact ⟨_, _, _, rfl, .addressless named same derived, continues, nofun⟩
  | ok address =>
  obtain ⟨found, outcome, after, asked, recorded, continued, left⟩ :=
    Connection.asks_account address.text between (left chainId rfl)
  have adapted := settled_adapt (Connection.account address.text) Signer.LoadFault.account between
  rw [asked] at adapted
  cases outcome with
  | error fault =>
    refine ⟨_, _, after, settled_bind_error adapted, ?_, continues.trans continued, nofun⟩
    exact .unrecorded named same derived recorded
  | ok record =>
    rw [settled_bind_ok adapted]
    exact ⟨_, .ok ⟨_, address, _, _, chainId, _⟩, after, rfl, .loaded named same derived recorded,
      continues.trans continued, fun _ _ => left _ rfl⟩

/-- What the last stage says on behalf of an address, and how the run ends. -/
inductive Working (network : Registry.Network) (address : String) (uri : Node.Uri) :
    List Talk → Option RunError → Prop where
  | unmeasured {answer : Except Node.Status (Option (Option Int))} {fault : Node.Fault}
      (refused : Connection.Measured answer (.error fault)) :
      Working network address uri [.called .latestBlock answer] (some (.height fault.trail))
  | swept {answer : Except Node.Status (Option (Option Int))} {height : Nat} {talk : List Talk}
      (measured : Connection.Measured answer (.ok height))
      (polled : Polled uri false (itinerary network address) talk) :
      Working network address uri (.called .latestBlock answer :: talk) none

/-- All that is done once the height is known. -/
private def workAt (network : Registry.Network) (height : Nat) :
    StateM (LiveDesk τ) (Option RunError) := do
  let desk ← get
  Desk.emit [.walletReady (Wallet.address desk.wallet) height]
  sweep network
  Desk.emit [.finished]
  pure none

private theorem workAt_inquires (network : Registry.Network) (height : Nat) (signer : Signer) :
    Desk.Inquires (ν := Connection τ) signer (workAt network height)
      (itinerary network signer.address.text) := by
  refine .looking fun desk same => ?_
  rw [← List.append_nil (itinerary network signer.address.text)]
  refine (Desk.inquires_emit _).bind fun _ => (inquires_sweep network).bind fun _ => ?_
  exact (Desk.inquires_emit [.finished]).bind fun _ => Desk.inquires_pure none

theorem work_gated (network : Registry.Network) (desk : LiveDesk (Overheard τ))
    (intact : desk.chain.line.isBroken = false) :
    ∃ talk error after, (work network).run desk = (error, after) ∧
      Working network desk.wallet.address.text desk.chain.line.uri talk error ∧
      desk.chain.Continues talk after.chain := by
  obtain ⟨answer, outcome, between, asked, measured, continues, left⟩ :=
    Connection.asks_latestHeight desk.chain intact
  have reached : (Desk.blockHeight (ν := Connection (Overheard τ)) (ω := Signer)).run desk =
      (outcome.mapError Node.Fault.trail, { desk with chain := between }) := by
    have adapted := settled_adapt Connection.latestHeight Node.Fault.trail desk.chain
    rw [asked] at adapted
    exact congrArg (fun result => (result.1, { desk with chain := result.2 })) adapted
  unfold work
  rw [StateT.run_bind, reached]
  cases outcome with
  | error fault => exact ⟨_, _, _, rfl, .unmeasured measured, continues⟩
  | ok height =>
    obtain ⟨told, swept⟩ := workAt_inquires network height desk.wallet between desk.log
    obtain ⟨talk, polling, polled⟩ := Node.poll_overheard
      (itinerary network desk.wallet.address.text) between
    rw [left height rfl, continues.uri] at polled
    refine ⟨_, none, ((workAt network height).run { desk with chain := between }).2, rfl,
      .swept measured polled, ?_⟩
    rw [swept]
    exact continues.trans polling

/-- What a run says once it has a configuration, and how it ends. -/
inductive Visit (configuration : Configuration) : List Talk → Option RunError → Prop where
  | unconnected {talk : List Talk} {fault : Node.ConnectFault}
      (connecting : Connecting configuration.uri talk (.error fault)) :
      Visit configuration talk (some (.connection fault))
  | unloaded {uri : Node.Uri} {talk later : List Talk} {fault : Signer.LoadFault}
      (connecting : Connecting configuration.uri talk (.ok uri))
      (loading : Loading configuration later (.error fault)) :
      Visit configuration (talk ++ later) (some (.signer fault))
  | worked {uri : Node.Uri} {talk later last : List Talk} {signer : Signer}
      {error : Option RunError} (connecting : Connecting configuration.uri talk (.ok uri))
      (loading : Loading configuration later (.ok signer))
      (working : Working configuration.network signer.address.text uri last error) :
      Visit configuration (talk ++ later ++ last) error

theorem visit_gated (configuration : Configuration) (remote : Overheard τ) :
    ∃ talk error after, (visit configuration).run remote = (error, after) ∧
      Visit configuration talk error.2 ∧ after.talk = remote.talk ++ talk := by
  obtain ⟨talk, outcome, between, connected, connecting, heard, intact⟩ :=
    connect_gated configuration.uri remote
  have connected : (Node.connect configuration.uri).run.run remote = (outcome, between) := connected
  unfold visit
  rw [StateT.run_bind, connected]
  cases outcome with
  | error cause => exact ⟨talk, _, between, rfl, .unconnected connecting, heard⟩
  | ok line =>
  -- A gate that was passed has left the line intact, so up to the sweep nothing is dialled again.
  obtain ⟨later, outcome, reached, loaded, loading, continues, left⟩ :=
    load_gated configuration { line, remote := between } (intact line rfl)
  have loaded : (Signer.load configuration.key configuration.network.accountHrp
      configuration.network.feeDenom configuration.network.chainId).run ⟨line, between⟩ =
      (outcome, reached) := loaded
  have heard : reached.remote.talk = remote.talk ++ (talk ++ later) := by
    rw [continues.talk, heard, List.append_assoc]
  simp only [bind, StateT.run]
  rw [loaded]
  cases outcome with
  | error fault => exact ⟨_, _, _, rfl, .unloaded connecting loading, heard⟩
  | ok signer =>
    obtain ⟨last, error, after, worked, working, continued⟩ := work_gated configuration.network
      { chain := reached, wallet := signer, log := [announcement configuration] ++ [signer.loaded] }
      (left signer rfl)
    rw [continues.uri] at working
    simp only [StateT.run] at worked
    simp only [worked]
    refine ⟨_, _, _, rfl, .worked connecting loading working, ?_⟩
    rw [continued.talk, heard, List.append_assoc]

/-- What a run says, and how it ends. -/
inductive Course (environment : Environment) : List Talk → Option RunError → Prop where
  | unlogged {cause : Logging.Error} (bad : Logging.read environment = .error cause) :
      Course environment [] (some (.logging cause))
  | unconfigured {logging : Logging} {cause : Configuration.Error}
      (logged : Logging.read environment = .ok logging)
      (bad : Configuration.read environment = .error cause) :
      Course environment [] (some (.configuration cause))
  | visited {logging : Logging} {configuration : Configuration} {talk : List Talk}
      {error : Option RunError} (logged : Logging.read environment = .ok logging)
      (configured : Configuration.read environment = .ok configuration)
      (visit : Visit configuration talk error) : Course environment talk error

theorem run_gated (environment : Environment) (remote : Overheard τ) :
    ∃ talk, ((run environment).run remote).2.talk = remote.talk ++ talk ∧
      Course environment talk ((run environment).run remote).1.error := by
  unfold run
  cases logged : Logging.read environment with
  | error cause => exact ⟨[], (List.append_nil _).symm, .unlogged logged⟩
  | ok logging =>
  cases configured : Configuration.read environment with
  | error cause => exact ⟨[], (List.append_nil _).symm, .unconfigured logged configured⟩
  | ok configuration =>
    obtain ⟨talk, result, after, visited, visit, heard⟩ := visit_gated configuration remote
    dsimp only
    rw [StateT.run_bind, visited]
    exact ⟨talk, heard, .visited logged configured visit⟩

/-- The calls of a run that passes every gate; no account, no further calls. -/
def agenda (configuration : Configuration) : List Call :=
  let network := configuration.network
  match Account.Id.ofPublicKey network.accountHrp configuration.key.publicKey with
  | .error _ => [.nodeInfo]
  | .ok address => .nodeInfo :: .account address.text :: .latestBlock ::
      (itinerary network address.text).map .ofRequest

variable {configuration : Configuration} {talk : List Talk}

theorem agenda_derived {address : Account.Id}
    (derived : Account.Id.ofPublicKey configuration.network.accountHrp
      configuration.key.publicKey = .ok address) :
    agenda configuration = [.nodeInfo, .account address.text] ++ .latestBlock ::
      (itinerary configuration.network address.text).map .ofRequest := by
  unfold agenda
  dsimp only
  rw [derived]
  rfl

theorem nodeInfo_sublist_agenda : [Call.nodeInfo].Sublist (agenda configuration) := by
  unfold agenda
  dsimp only
  split
  · exact .refl _
  · exact (List.nil_sublist _).cons_cons _

theorem Connecting.calls {text : String} {outcome : Except Node.ConnectFault Node.Uri}
    (connecting : Connecting text talk outcome) : calls talk = [] := by
  cases connecting <;> rfl

theorem Loading.calls {outcome : Except Signer.LoadFault Signer}
    (loading : Loading configuration talk outcome) :
    (calls talk).Sublist (agenda configuration) := by
  cases loading with
  | unnamed | elsewhere | addressless => exact nodeInfo_sublist_agenda
  | unrecorded _ _ derived | loaded _ _ derived =>
    rw [agenda_derived derived]
    exact List.sublist_append_left _ _

theorem Working.calls {network : Registry.Network} {address : String} {uri : Node.Uri}
    {error : Option RunError} (working : Working network address uri talk error) :
    (calls talk).Sublist (.latestBlock :: (itinerary network address).map .ofRequest) := by
  cases working with
  | unmeasured => exact (List.nil_sublist _).cons_cons _
  | swept _ polled => exact polled.calls.cons_cons _

theorem Visit.calls {error : Option RunError} (visit : Visit configuration talk error) :
    (calls talk).Sublist (agenda configuration) := by
  cases visit with
  | unconnected connecting =>
    rw [connecting.calls]
    exact List.nil_sublist _
  | unloaded connecting loading =>
    rw [Node.calls_append, connecting.calls]
    exact loading.calls
  | worked connecting loading working =>
    rw [Node.calls_append, Node.calls_append, connecting.calls, List.nil_append]
    cases loading with
    | loaded named same derived recorded =>
      rw [agenda_derived derived]
      exact working.calls.append_left _

theorem broadcast_not_mem_agenda (tx : Bytes) : .broadcast tx ∉ agenda configuration := by
  unfold agenda
  dsimp only
  split
  · simp
  · simp [Call.ofRequest]

theorem Course.calls {environment : Environment} {error : Option RunError}
    (course : Course environment talk error)
    (configured : Configuration.read environment = .ok configuration) :
    (calls talk).Sublist (agenda configuration) := by
  cases course with
  | unlogged => exact List.nil_sublist _
  | unconfigured => exact List.nil_sublist _
  | visited _ found visit =>
    cases found.symm.trans configured
    exact visit.calls

theorem Course.not_broadcast {environment : Environment} {error : Option RunError}
    (course : Course environment talk error) (tx : Bytes) : .broadcast tx ∉ Node.calls talk := by
  cases course with
  | unlogged => exact List.not_mem_nil
  | unconfigured => exact List.not_mem_nil
  | visited _ _ visit => exact fun sent => broadcast_not_mem_agenda tx (visit.calls.subset sent)

/-- Each gate stops the runs that may not pass it with an error of their own. Nothing is asked past
the gate that stopped a run, nothing stops a run that has passed them all, and nothing but questions
is ever sent. -/
theorem every_run_is_gated_and_read_only (environment : Environment) (remote : τ) :
    let result := (run environment).run ({ inner := remote } : Overheard τ)
    let talk := result.2.talk
    Course environment talk result.1.error ∧
    (∀ configuration, Configuration.read environment = .ok configuration →
      (calls talk).Sublist (agenda configuration)) ∧
    ∀ tx, .broadcast tx ∉ calls talk := by
  intro result talk
  obtain ⟨said, heard, course⟩ := run_gated environment ({ inner := remote } : Overheard τ)
  rw [List.nil_append] at heard
  rw [← heard] at course
  exact ⟨course, fun _ configured => course.calls configured, course.not_broadcast⟩

end SwapDesk.Probe
