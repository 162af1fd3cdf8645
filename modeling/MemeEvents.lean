import MemeEvents.Bytes.Basic
import MemeEvents.Bytes.Hex
import MemeEvents.Bytes.Base58
import MemeEvents.Number.IntegerText
import MemeEvents.Number.Binary64
import MemeEvents.Chain.Key
import MemeEvents.Chain.Position
import MemeEvents.Decode.Error
import MemeEvents.Bytes.Cursor
import MemeEvents.Token.Ui
import MemeEvents.Bytes.Field
import MemeEvents.Crypto.Sha256
import MemeEvents.Crypto.Edwards
import MemeEvents.Chain.Programs
import MemeEvents.Chain.Address
import MemeEvents.Chain.Transaction
import MemeEvents.Token.Decimals
import MemeEvents.Chain.View
import MemeEvents.Chain.Flat
import MemeEvents.Chain.FlatIndex
import MemeEvents.Token.Amount
import MemeEvents.Transfer.Basic
import MemeEvents.Transfer.Correlate
import MemeEvents.Protocol.Basic
import MemeEvents.Event.Basic
import MemeEvents.Decode.Context
import MemeEvents.Protocol.Pumpfun
import MemeEvents.Protocol.Boopfun
import MemeEvents.Protocol.Moonit
import MemeEvents.Protocol.MeteoraDbc
import MemeEvents.Protocol.MeteoraPools
import MemeEvents.Protocol.RaydiumLaunchpad
import MemeEvents.Protocol.Sugar
import MemeEvents.Protocol.Table
import MemeEvents.Event.Trade
import MemeEvents.Parse.Config
import MemeEvents.Parse.Outcome
import MemeEvents.Json.Scan
import MemeEvents.Text.Printable
import MemeEvents.Json.Expect
import MemeEvents.Parse.ConfigText
import MemeEvents.Wire.Base64
import MemeEvents.Wire.Compiled
import MemeEvents.Wire.Binary
import MemeEvents.Wire.Rpc
import MemeEvents.Proofs.Amount.DecimalPoint
import MemeEvents.Proofs.Chain.Order
import MemeEvents.Proofs.Chain.IndexedSearch
import MemeEvents.Proofs.Decode.Origin
import MemeEvents.Proofs.Decode.Steps
import MemeEvents.Proofs.Parse.Dispatch
import MemeEvents.Proofs.Parse.Failure
import MemeEvents.Proofs.Transfer.Map
import MemeEvents.Proofs.Transfer.Grouping
import MemeEvents.Proofs.Decode.Scope
import MemeEvents.Proofs.Transfer.Scope
import MemeEvents.Proofs.Decode.Locality
import MemeEvents.Proofs.Parse.Narrowing
import MemeEvents.Proofs.Transfer.Kinds
import MemeEvents.Proofs.Chain.Index
import MemeEvents.Proofs.Decode.Reading
import MemeEvents.Proofs.Bytes.Fields
import MemeEvents.Proofs.Protocol.LaunchpadEvent
import MemeEvents.Proofs.Token.Cache
import MemeEvents.Proofs.Protocol.PumpfunTrade
import MemeEvents.Proofs.Event.Settlement
import MemeEvents.Proofs.Chain.BalanceChange
import MemeEvents.Proofs.Protocol.MoonitTrade
import MemeEvents.Proofs.Protocol.PoolSwap
import MemeEvents.Proofs.Protocol.LaunchpadTrade
import MemeEvents.Proofs.Protocol.CurveSwap
import MemeEvents.Proofs.Protocol.CurveTrade
import MemeEvents.Proofs.Text.Utf8
import MemeEvents.Proofs.Number.DecimalText
import MemeEvents.Proofs.Chain.PositionText
import MemeEvents.Proofs.Bytes.Strings
import MemeEvents.Proofs.Protocol.TokenCreation
import MemeEvents.Proofs.Transfer.Decoding
import MemeEvents.Proofs.Wire.Resolution
import MemeEvents.Proofs.Wire.Signed
import MemeEvents.Proofs.Wire.Agreement
import MemeEvents.Proofs.Parse.Unchecked
