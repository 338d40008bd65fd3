import Mathlib.Data.List.Basic
import SwapDesk.Probe.Configuration
import SwapDesk.Proofs.StatefulErrors

/-! Where a configuration comes from. A variable is unset, or it holds a text, or what it holds is
no text. Only an unset variable gives way to a default; anything else that cannot be used is an
obstacle, and of several obstacles the one that is looked for first is reported. -/

namespace SwapDesk

namespace Environment

/-- No entry gives the name a value. -/
def Unset (environment : Environment) (name : String) : Prop :=
  ∀ assignment ∈ environment.assignments, ∀ value,
    entry assignment.1 assignment.2 ≠ entry name value

/-- The first entry that gives the name a value gives it this one. -/
def Assigns (environment : Environment) (name : String) (value : Bytes) : Prop :=
  ∃ before assignment after, environment.assignments = before ++ assignment :: after ∧
    entry assignment.1 assignment.2 = entry name value ∧
    ∀ earlier ∈ before, ∀ other, entry earlier.1 earlier.2 ≠ entry name other

def Holds (environment : Environment) (name text : String) : Prop :=
  environment.Assigns name (Text.bytes text)

def Garbled (environment : Environment) (name : String) (value : Bytes) : Prop :=
  environment.Assigns name value ∧ ∀ text, Text.bytes text ≠ value

variable {environment : Environment} {name : String}

private theorem rest_eq_some_iff {known : String} {content value : Bytes} :
    (entry name []).isPrefixOf? (entry known content) = some value ↔
      entry known content = entry name value := by
  rw [List.isPrefixOf?_eq_some_iff_append_eq]
  have joined : entry name [] ++ value = entry name value := by simp [entry]
  rw [joined]
  exact eq_comm

private theorem rest_eq_none_iff {known : String} {content : Bytes} :
    (entry name []).isPrefixOf? (entry known content) = none ↔
      ∀ value, entry known content ≠ entry name value := by
  rw [Option.eq_none_iff_forall_ne_some]
  exact forall_congr' fun value => not_congr rest_eq_some_iff

variable (named : name ≠ "")
include named

theorem value?_eq_none_iff : environment.value? name = none ↔ environment.Unset name := by
  have nonempty : ¬ name.isEmpty = true := by rwa [String.isEmpty_iff]
  rw [value?, if_neg nonempty, List.findSome?_eq_none_iff]
  exact forall₂_congr fun assignment _ => rest_eq_none_iff

theorem value?_eq_some_iff {value : Bytes} :
    environment.value? name = some value ↔ environment.Assigns name value := by
  have nonempty : ¬ name.isEmpty = true := by rwa [String.isEmpty_iff]
  rw [value?, if_neg nonempty, List.findSome?_eq_some_iff]
  constructor
  · rintro ⟨before, assignment, after, split, found, missed⟩
    exact ⟨before, assignment, after, split, rest_eq_some_iff.mp found,
      fun earlier member => rest_eq_none_iff.mp (missed earlier member)⟩
  · rintro ⟨before, assignment, after, split, found, missed⟩
    exact ⟨before, assignment, after, split, rest_eq_some_iff.mpr found,
      fun earlier member => rest_eq_none_iff.mpr (missed earlier member)⟩

variable (environment name) in
theorem unset_or_set : environment.Unset name ∨ (∃ text, environment.Holds name text) ∨
    ∃ value, environment.Garbled name value := by
  cases looked : environment.value? name with
  | none => exact .inl ((value?_eq_none_iff named).mp looked)
  | some value =>
    have assigned := (value?_eq_some_iff named).mp looked
    by_cases texted : ∃ text, Text.bytes text = value
    · obtain ⟨text, rfl⟩ := texted
      exact .inr (.inl ⟨text, assigned⟩)
    · exact .inr (.inr ⟨value, assigned, not_exists.mp texted⟩)

theorem Unset.text? (unset : environment.Unset name) : environment.text? name = .ok none := by
  rw [Environment.text?, (value?_eq_none_iff named).mpr unset]

theorem Unset.text (unset : environment.Unset name) :
    environment.text name = .error (.unset name) := by
  rw [Environment.text, (value?_eq_none_iff named).mpr unset]

theorem Holds.text? {text : String} (holds : environment.Holds name text) :
    environment.text? name = .ok (some text) := by
  rw [Environment.text?, (value?_eq_some_iff named).mpr holds]
  dsimp only
  rw [Text.ofBytes?_bytes]

theorem Holds.text {text : String} (holds : environment.Holds name text) :
    environment.text name = .ok text := by
  rw [Environment.text, (value?_eq_some_iff named).mpr holds]
  dsimp only
  rw [Text.ofBytes?_bytes]

omit named in
private theorem ofBytes?_eq_none {value : Bytes} (textless : ∀ text, Text.bytes text ≠ value) :
    Text.ofBytes? value = none := by
  rw [Option.eq_none_iff_forall_ne_some]
  intro text read
  exact textless text (Text.bytes_of_ofBytes? read)

theorem Garbled.text? {value : Bytes} (garbled : environment.Garbled name value) :
    environment.text? name = .error (.notText name value) := by
  rw [Environment.text?, (value?_eq_some_iff named).mpr garbled.1]
  dsimp only
  rw [ofBytes?_eq_none garbled.2]

theorem Garbled.text {value : Bytes} (garbled : environment.Garbled name value) :
    environment.text name = .error (.unreadable name value) := by
  rw [Environment.text, (value?_eq_some_iff named).mpr garbled.1]
  dsimp only
  rw [ofBytes?_eq_none garbled.2]

omit named

/-- A text drawn from the environment: that of a variable, or a default if the variable is
unset. -/
inductive Drawn (environment : Environment) (name fallback : String) : String → Prop where
  | held {text : String} (holds : environment.Holds name text) :
      Drawn environment name fallback text
  | fallback (unset : environment.Unset name) : Drawn environment name fallback fallback

include named

theorem Holds.unique {text other : String} (holds : environment.Holds name text)
    (again : environment.Holds name other) : text = other := by
  have read := holds.text named
  rw [again.text named] at read
  cases read
  rfl

theorem Unset.not_holds {text : String} (unset : environment.Unset name) :
    ¬ environment.Holds name text := by
  intro holds
  have read := holds.text named
  rw [unset.text named] at read
  cases read

theorem Drawn.unique {fallback text other : String} (drawn : environment.Drawn name fallback text)
    (again : environment.Drawn name fallback other) : text = other := by
  cases drawn with
  | held holds =>
    cases again with
    | held holds' => exact holds.unique named holds'
    | fallback unset => exact absurd holds (unset.not_holds named)
  | fallback unset =>
    cases again with
    | held holds => exact absurd holds (unset.not_holds named)
    | fallback _ => rfl

variable (environment name) in
theorem garbled_or_drawn :
    (∃ value, environment.Garbled name value) ∨ ∃ found, environment.text? name = .ok found ∧
      ∀ fallback, environment.Drawn name fallback (found.getD fallback) := by
  rcases unset_or_set environment name named with unset | ⟨text, holds⟩ | garbled
  · exact .inr ⟨none, unset.text? named, fun _ => .fallback unset⟩
  · exact .inr ⟨some text, holds.text? named, fun _ => .held holds⟩
  · exact .inl garbled

end Environment

namespace Registry

/-- The networks that are built in. -/
def Lists (network : Network) : Prop :=
  ∃ registry, builtIn = .ok registry ∧ network ∈ registry.networks

theorem builtIn_valid : builtIn = .ok ⟨1, [Testnet.network]⟩ := rfl

theorem listed_or_unknown (name : String) :
    (∃ network, resolve name = .ok network ∧ Lists network ∧ network.name = name) ∨
      resolve name = .error (.unknownNetwork name) ∧
        ∀ network, Lists network → network.name ≠ name := by
  have resolved : resolve name = network ⟨1, [Testnet.network]⟩ name := by
    rw [resolve, builtIn_valid]
    rfl
  rw [resolved, network]
  cases found : [Testnet.network].find? (·.name = name) with
  | some network =>
    have same : network.name = name := by simpa using List.find?_some found
    exact .inl ⟨network, rfl, ⟨_, builtIn_valid, List.mem_of_find?_eq_some found⟩, same⟩
  | none =>
    refine .inr ⟨rfl, ?_⟩
    rintro network ⟨registry, valid, member⟩
    rw [builtIn_valid] at valid
    cases valid
    exact fun same => List.find?_eq_none.mp found network member (decide_eq_true same)

theorem defaultNetwork_listed : ∃ network, Lists network ∧ network.name = defaultNetwork :=
  ⟨Testnet.network, ⟨_, builtIn_valid, List.mem_cons_self⟩, rfl⟩

end Registry

namespace Key

private theorem defaultPath_steps :
    defaultPath.splitOn "/" = ["m", "44'", "118'", "0'", "0", "0"] := by
  -- The loop of `splitOn` does not evaluate, so it is unrolled one character at a time.
  rw [String.splitOn, if_neg (by decide)]
  repeat (rw [String.splitOnAux]; simp +decide only [↓reduceIte])

theorem defaultPath_reads :
    Path.ofText defaultPath = .ok [⟨44, true⟩, ⟨118, true⟩, ⟨0, true⟩, ⟨0, false⟩, ⟨0, false⟩] := by
  rw [Path.ofText, defaultPath_steps]
  rfl

section
variable {phrase password path : String} {steps : Path}

theorem ofMnemonic_malformed {cause : PathFault} (malformed : Path.ofText path = .error cause) :
    ofMnemonic phrase password path = .error (.badPath path cause) := by
  rw [ofMnemonic, malformed]
  rfl

variable (wellFormed : Path.ofText path = .ok steps)
include wellFormed

private theorem ofMnemonic_wellFormed :
    ofMnemonic phrase password path = match Mnemonic.ofPhrase? phrase with
      | none => .error .badMnemonic
      | some mnemonic => (derive (mnemonic.seed password) steps).mapError .underivable := by
  rw [ofMnemonic, wellFormed]
  rfl

theorem ofMnemonic_invalid (invalid : Mnemonic.ofPhrase? phrase = none) :
    ofMnemonic phrase password path = .error .badMnemonic := by
  rw [ofMnemonic_wellFormed wellFormed, invalid]

theorem ofMnemonic_valid {mnemonic : Mnemonic} (valid : Mnemonic.ofPhrase? phrase = some mnemonic) :
    ofMnemonic phrase password path =
      (derive (mnemonic.seed password) steps).mapError .underivable := by
  rw [ofMnemonic_wellFormed wellFormed, valid]

end

end Key

namespace Probe.Configuration

open Environment (Drawn)

/-- What a configuration is drawn from. -/
structure Sourced (environment : Environment) (configuration : Configuration) : Prop where
  listed : Registry.Lists configuration.network
  network : environment.Drawn "DEXTER_NETWORK" "testnet" configuration.network.name
  uri : environment.Drawn "NODE_GRPC_URI" configuration.network.grpcEndpoint configuration.uri
  key : ∃ path steps phrase mnemonic,
    environment.Drawn "SIGNING_KEY_DERIVATION_PATH" "m/44'/118'/0'/0/0" path ∧
    Key.Path.ofText path = .ok steps ∧ environment.Holds "SIGNING_KEY_MNEMONIC" phrase ∧
    Key.Mnemonic.ofPhrase? phrase = some mnemonic ∧
    Key.derive (mnemonic.seed "") steps = .ok configuration.key

/-- What stands in the way of a configuration: its place in the order in which obstacles are
looked for, and what an error says of it. -/
inductive Obstacle (environment : Environment) : (place : Nat) → (chain : List String) → Prop where
  | nameGarbled {value : Bytes} (garbled : environment.Garbled "DEXTER_NETWORK" value) :
      Obstacle environment 0
        ["Failed to read network's name!",
          "Environment variable " ++ Text.quoted "DEXTER_NETWORK" ++ " is not valid unicode!",
          "environment variable was not valid unicode: " ++ Text.quotedBytes value]
  | networkUnknown {name : String} (holds : environment.Holds "DEXTER_NETWORK" name)
      (unknown : ∀ network, Registry.Lists network → network.name ≠ name) :
      Obstacle environment 1
        ["Failed to resolve network configuration!",
          "Network " ++ Text.quoted name ++ " is not configured!"]
  | uriGarbled {value : Bytes} (garbled : environment.Garbled "NODE_GRPC_URI" value) :
      Obstacle environment 2
        ["Failed to read node's gRPC URI!",
          "Environment variable " ++ Text.quoted "NODE_GRPC_URI" ++ " is not valid unicode!",
          "environment variable was not valid unicode: " ++ Text.quotedBytes value]
  | pathGarbled {value : Bytes}
      (garbled : environment.Garbled "SIGNING_KEY_DERIVATION_PATH" value) :
      Obstacle environment 3
        ["Failed to read signing key's derivation path!",
          "Environment variable " ++ Text.quoted "SIGNING_KEY_DERIVATION_PATH" ++
            " is not valid unicode!",
          "environment variable was not valid unicode: " ++ Text.quotedBytes value]
  | mnemonicUnset (unset : environment.Unset "SIGNING_KEY_MNEMONIC") :
      Obstacle environment 4
        ["Failed to read signing key's mnemonic!",
          "Failed to read environment variable " ++ Text.quoted "SIGNING_KEY_MNEMONIC" ++ "!",
          "environment variable not found"]
  | mnemonicGarbled {value : Bytes} (garbled : environment.Garbled "SIGNING_KEY_MNEMONIC" value) :
      Obstacle environment 4
        ["Failed to read signing key's mnemonic!",
          "Failed to read environment variable " ++ Text.quoted "SIGNING_KEY_MNEMONIC" ++ "!",
          "environment variable was not valid unicode: " ++ Text.quotedBytes value]
  | pathMalformed {path : String} {cause : Key.PathFault}
      (holds : environment.Holds "SIGNING_KEY_DERIVATION_PATH" path)
      (malformed : Key.Path.ofText path = .error cause) :
      Obstacle environment 5
        ["Failed to derive signing key from mnemonic!",
          "Failed to parse key derivation path " ++ Text.quoted path ++ "!", cause.message]
  | mnemonicInvalid {phrase : String} (holds : environment.Holds "SIGNING_KEY_MNEMONIC" phrase)
      (invalid : Key.Mnemonic.ofPhrase? phrase = none) :
      Obstacle environment 6
        ["Failed to derive signing key from mnemonic!", "Failed to parse mnemonic!", "bip39 error"]
  | underivable {path phrase : String} {steps : Key.Path} {mnemonic : Key.Mnemonic}
      {cause : Key.DeriveFault}
      (drawn : environment.Drawn "SIGNING_KEY_DERIVATION_PATH" "m/44'/118'/0'/0/0" path)
      (wellFormed : Key.Path.ofText path = .ok steps)
      (holds : environment.Holds "SIGNING_KEY_MNEMONIC" phrase)
      (valid : Key.Mnemonic.ofPhrase? phrase = some mnemonic)
      (failed : Key.derive (mnemonic.seed "") steps = .error cause) :
      Obstacle environment 7
        ["Failed to derive signing key from mnemonic!", "Failed to derive signing key!",
          cause.message]

/-- What reading comes to: a configuration if nothing is in the way, and otherwise an error that
tells of the first obstacle. -/
inductive Verdict (environment : Environment) : Except Error Configuration → Prop where
  | configured {configuration : Configuration} (sourced : Sourced environment configuration)
      (clear : ∀ place chain, ¬ Obstacle environment place chain) :
      Verdict environment (.ok configuration)
  | refused {error : Error} {place : Nat} (stands : Obstacle environment place error.trail.lines)
      (first : ∀ earlier chain, Obstacle environment earlier chain → place ≤ earlier) :
      Verdict environment (.error error)

/-- No obstacle has a place before the given one. -/
def Clear (environment : Environment) (place : Nat) : Prop :=
  ∀ other chain, Obstacle environment other chain → place ≤ other

variable {environment : Environment} {place : Nat}

theorem clear_zero : Clear environment 0 := fun other _ _ => Nat.zero_le other

theorem Clear.next (clear : Clear environment place)
    (passed : ∀ chain, ¬ Obstacle environment place chain) : Clear environment (place + 1) := by
  intro other chain stands
  have above := clear other chain stands
  have apart : other ≠ place := by
    rintro rfl
    exact passed chain stands
  omega

theorem Obstacle.place_lt {chain : List String} (stands : Obstacle environment place chain) :
    place < 8 := by
  cases stands <;> decide

theorem Clear.refuse {error : Error} {chain : List String} (clear : Clear environment place)
    (stands : Obstacle environment place chain) (told : error.trail.lines = chain) :
    Verdict environment (.error error) := by
  subst told
  exact .refused stands clear

/-- A variable that has been read is not garbled. -/
private theorem not_garbled {name : String} {found : Option String} (named : name ≠ "")
    (read : environment.text? name = .ok found) {value : Bytes} :
    ¬ environment.Garbled name value := by
  intro garbled
  rw [garbled.text? named] at read
  cases read

section Stages
variable {network : Registry.Network} {uri path phrase : String}
  (listed : Registry.Lists network)
  (drawnNetwork : environment.Drawn "DEXTER_NETWORK" "testnet" network.name)
  (drawnUri : environment.Drawn "NODE_GRPC_URI" network.grpcEndpoint uri)
include listed drawnNetwork drawnUri

/-- The last gates, once the path and the phrase have been read. -/
private theorem derivation_judged
    (drawnPath : environment.Drawn "SIGNING_KEY_DERIVATION_PATH" Key.defaultPath path)
    (holds : environment.Holds "SIGNING_KEY_MNEMONIC" phrase) (clear : Clear environment 5) :
    Verdict environment ((Key.ofMnemonic phrase "" path).mapError .key >>= fun key =>
      pure ⟨network, uri, key⟩) := by
  cases wellFormed : Key.Path.ofText path with
  | error cause =>
    rw [Key.ofMnemonic_malformed wellFormed]
    cases drawnPath with
    | held holds => exact clear.refuse (.pathMalformed holds wellFormed) rfl
    | fallback unset =>
      rw [Key.defaultPath_reads] at wellFormed
      cases wellFormed
  | ok steps =>
  replace clear := clear.next fun chain stands => by
    cases stands with
    | pathMalformed held malformed =>
      rw [Drawn.unique (by decide) (.held held) drawnPath, wellFormed] at malformed
      cases malformed
  cases valid : Key.Mnemonic.ofPhrase? phrase with
  | none =>
    rw [Key.ofMnemonic_invalid wellFormed valid]
    exact clear.refuse (.mnemonicInvalid holds valid) rfl
  | some mnemonic =>
  replace clear := clear.next fun chain stands => by
    cases stands with
    | mnemonicInvalid held invalid =>
      rw [held.unique (by decide) holds, valid] at invalid
      cases invalid
  rw [Key.ofMnemonic_valid wellFormed valid]
  cases derived : Key.derive (mnemonic.seed "") steps with
  | error cause => exact clear.refuse (.underivable drawnPath wellFormed holds valid derived) rfl
  | ok key =>
  replace clear := clear.next fun chain stands => by
    cases stands with
    | underivable drawn read held found failed =>
      rw [drawn.unique (by decide) drawnPath, wellFormed] at read
      rw [held.unique (by decide) holds, valid] at found
      cases read
      cases found
      rw [derived] at failed
      cases failed
  refine .configured ⟨listed, drawnNetwork, drawnUri, ?_⟩ ?_
  · exact ⟨path, steps, phrase, mnemonic, drawnPath, wellFormed, holds, valid, derived⟩
  · intro place chain stands
    exact absurd stands.place_lt (Nat.not_lt.mpr (clear place chain stands))

private theorem key_judged (clear : Clear environment 3) :
    Verdict environment (do
      let path ← (environment.text? "SIGNING_KEY_DERIVATION_PATH").mapError .path
      let mnemonic ← (environment.text "SIGNING_KEY_MNEMONIC").mapError .mnemonic
      let key ← (Key.ofMnemonic mnemonic "" (path.getD Key.defaultPath)).mapError .key
      pure ⟨network, uri, key⟩) := by
  rcases environment.garbled_or_drawn "SIGNING_KEY_DERIVATION_PATH" (by decide) with
    ⟨value, garbled⟩ | ⟨found, pathRead, drawn⟩
  · rw [garbled.text? (by decide)]
    exact clear.refuse (.pathGarbled garbled) rfl
  replace clear := clear.next fun chain stands => by
    cases stands with
    | pathGarbled garbled => exact not_garbled (by decide) pathRead garbled
  rw [pathRead]
  change Verdict environment ((environment.text "SIGNING_KEY_MNEMONIC").mapError .mnemonic >>= _)
  rcases environment.unset_or_set "SIGNING_KEY_MNEMONIC" (by decide) with
    unset | ⟨phrase, holds⟩ | ⟨value, garbled⟩
  · rw [unset.text (by decide)]
    exact clear.refuse (.mnemonicUnset unset) rfl
  rotate_left
  · rw [garbled.text (by decide)]
    exact clear.refuse (.mnemonicGarbled garbled) rfl
  have phraseRead := holds.text (by decide)
  replace clear := clear.next fun chain stands => by
    cases stands with
    | mnemonicUnset unset => exact unset.not_holds (by decide) holds
    | mnemonicGarbled garbled =>
      rw [garbled.text (by decide)] at phraseRead
      cases phraseRead
  rw [phraseRead]
  exact derivation_judged listed drawnNetwork drawnUri (drawn Key.defaultPath) holds clear

end Stages

theorem read_judged (environment : Environment) : Verdict environment (read environment) := by
  -- A gate either ends the reading or leaves its own obstacle behind as ruled out.
  have clear : Clear environment 0 := clear_zero
  unfold read
  rcases environment.garbled_or_drawn "DEXTER_NETWORK" (by decide) with
    ⟨value, garbled⟩ | ⟨found, nameRead, drawn⟩
  · rw [garbled.text? (by decide)]
    exact clear.refuse (.nameGarbled garbled) rfl
  replace clear := clear.next fun chain stands => by
    cases stands with
    | nameGarbled garbled => exact not_garbled (by decide) nameRead garbled
  rw [nameRead]
  change Verdict environment (Except.mapError .network (Registry.resolve (found.getD _)) >>= _)
  obtain ⟨name, chosen⟩ : ∃ name, found.getD Registry.defaultNetwork = name := ⟨_, rfl⟩
  have drawnName := drawn Registry.defaultNetwork
  rw [chosen] at drawnName ⊢
  rcases Registry.listed_or_unknown name with
    ⟨network, resolved, listed, rfl⟩ | ⟨unresolved, unknown⟩
  rotate_left
  · rw [unresolved]
    cases drawnName with
    | held holds => exact clear.refuse (.networkUnknown holds unknown) rfl
    | fallback unset =>
      obtain ⟨network, listed, same⟩ := Registry.defaultNetwork_listed
      exact absurd same (unknown network listed)
  replace clear := clear.next fun chain stands => by
    cases stands with
    | networkUnknown holds unknown =>
      exact unknown network listed (drawnName.unique (by decide) (.held holds))
  rw [resolved]
  change Verdict environment (Except.mapError .uri (environment.text? "NODE_GRPC_URI") >>= _)
  rcases environment.garbled_or_drawn "NODE_GRPC_URI" (by decide) with
    ⟨value, garbled⟩ | ⟨uri, uriRead, drawnUri⟩
  · rw [garbled.text? (by decide)]
    exact clear.refuse (.uriGarbled garbled) rfl
  replace clear := clear.next fun chain stands => by
    cases stands with
    | uriGarbled garbled => exact not_garbled (by decide) uriRead garbled
  rw [uriRead]
  exact key_judged listed drawnName (drawnUri network.grpcEndpoint) clear

/-- An environment gives a configuration unless an obstacle is in the way, and then the first one
is reported. -/
theorem configured_unless_obstructed (environment : Environment) :
    ((∃ configuration, read environment = .ok configuration) ↔
      ∀ place chain, ¬ Obstacle environment place chain) ∧
    (∀ error, read environment = .error error → ∃ place,
      Obstacle environment place error.trail.lines ∧
      ∀ earlier chain, Obstacle environment earlier chain → place ≤ earlier) ∧
    (∀ configuration, read environment = .ok configuration →
      Sourced environment configuration) := by
  have judged := read_judged environment
  generalize read environment = outcome at judged ⊢
  cases judged with
  | configured sourced clear =>
    refine ⟨iff_of_true ⟨_, rfl⟩ clear, nofun, ?_⟩
    intro configuration same
    cases same
    exact sourced
  | refused stands first =>
    refine ⟨iff_of_false nofun fun clear => clear _ _ stands, ?_, nofun⟩
    intro error same
    cases same
    exact ⟨_, stands, first⟩

end Probe.Configuration

end SwapDesk
