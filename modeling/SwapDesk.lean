import SwapDesk.Account.Id
import SwapDesk.Account.PublicKey
import SwapDesk.Account.Record
import SwapDesk.Amount
import SwapDesk.Base64
import SwapDesk.Bech32
import SwapDesk.Bytes
import SwapDesk.Contract.Asset
import SwapDesk.Contract.Catalogue
import SwapDesk.Contract.Pool.Query
import SwapDesk.Contract.Pool.Reply
import SwapDesk.Contract.PoolKind
import SwapDesk.Contract.Token
import SwapDesk.Contract.Vault.Action
import SwapDesk.Contract.Vault.Exit
import SwapDesk.Contract.Vault.Query
import SwapDesk.Contract.Vault.Reply
import SwapDesk.Contract.Vault.Terms
import SwapDesk.Crypto.Ecdsa
import SwapDesk.Crypto.Hmac
import SwapDesk.Crypto.Octets
import SwapDesk.Crypto.Ripemd160
import SwapDesk.Crypto.Secp256k1
import SwapDesk.Crypto.Sha2
import SwapDesk.Desk.Basic
import SwapDesk.Desk.Errand
import SwapDesk.Desk.Execution
import SwapDesk.Desk.Query
import SwapDesk.Desk.Watched
import SwapDesk.Environment
import SwapDesk.Event
import SwapDesk.Json.Value
import SwapDesk.Key.Mnemonic
import SwapDesk.Key.Path
import SwapDesk.Key.Signing
import SwapDesk.Key.WordList
import SwapDesk.Main
import SwapDesk.Node.Call
import SwapDesk.Node.Chain
import SwapDesk.Node.Connection
import SwapDesk.Node.Smart
import SwapDesk.Node.Status
import SwapDesk.Node.Uri
import SwapDesk.Node.Watched
import SwapDesk.Probe.Configuration
import SwapDesk.Probe.Logging
import SwapDesk.Probe.Run
import SwapDesk.Probe.Sweep
import SwapDesk.Proofs.AmountReading
import SwapDesk.Proofs.Base64Language
import SwapDesk.Proofs.Base64RoundTrip
import SwapDesk.Proofs.ConfigurationReading
import SwapDesk.Proofs.Conversation
import SwapDesk.Proofs.DecimalReading
import SwapDesk.Proofs.DeskWork
import SwapDesk.Proofs.ExecutionReading
import SwapDesk.Proofs.ExitPool
import SwapDesk.Proofs.GatedRun
import SwapDesk.Proofs.IssuedCounts
import SwapDesk.Proofs.JsonLayout
import SwapDesk.Proofs.JsonReading
import SwapDesk.Proofs.JsonStrings
import SwapDesk.Proofs.JsonText
import SwapDesk.Proofs.LineRepair
import SwapDesk.Proofs.LostAnswers
import SwapDesk.Proofs.MessageOutline
import SwapDesk.Proofs.NumeralReading
import SwapDesk.Proofs.OrderRecord
import SwapDesk.Proofs.QuestionLog
import SwapDesk.Proofs.ReaderCases
import SwapDesk.Proofs.ReaderExtension
import SwapDesk.Proofs.ReaderSteps
import SwapDesk.Proofs.RecordReading
import SwapDesk.Proofs.RequestPayloads
import SwapDesk.Proofs.SequenceNumbers
import SwapDesk.Proofs.StrictReading
import SwapDesk.Proofs.StringReading
import SwapDesk.Proofs.SweepFindings
import SwapDesk.Proofs.SweepItinerary
import SwapDesk.Proofs.SymbolResolution
import SwapDesk.Proofs.TemplateReuse
import SwapDesk.Proofs.TextBytes
import SwapDesk.Proofs.TolerantReading
import SwapDesk.Proofs.Turns
import SwapDesk.Proofs.ValueSkipping
import SwapDesk.Proofs.WholeReplies
import SwapDesk.Proofs.WireRoundTrip
import SwapDesk.Proofs.WrittenNumbers
import SwapDesk.Protobuf.Reader
import SwapDesk.Protobuf.Writer
import SwapDesk.QueryResult
import SwapDesk.Registry.Basic
import SwapDesk.Registry.Descriptor
import SwapDesk.Registry.Network
import SwapDesk.Registry.Testnet
import SwapDesk.Rehearsal.Desk
import SwapDesk.Rehearsal.Remote
import SwapDesk.Rehearsal.Scene
import SwapDesk.Rehearsal.Script
import SwapDesk.Signer
import SwapDesk.Text.Hex
import SwapDesk.Text.Numeral
import SwapDesk.Text.Printable
import SwapDesk.Text.Quoted
import SwapDesk.Trail
import SwapDesk.Tx.Body
import SwapDesk.Tx.Fee
import SwapDesk.Tx.Signed
import SwapDesk.Tx.Template
import SwapDesk.Wire.Basic
import SwapDesk.Wire.Embedded
import SwapDesk.Wire.Fault
import SwapDesk.Wire.Reader
import SwapDesk.Wire.Shape
