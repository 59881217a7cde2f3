import ModelGateway.ClientSet
import ModelGateway.Main
import ModelGateway.Proofs.Registry.History
import ModelGateway.Proofs.Registry.Lookup
import ModelGateway.Proofs.Client.Embedding
import ModelGateway.Proofs.Client.Operation
import ModelGateway.Proofs.Client.Stream
import ModelGateway.Proofs.Chat.Exchange
import ModelGateway.Proofs.Chat.Format
import ModelGateway.Proofs.Chat.Partition
import ModelGateway.Proofs.Chat.Sampling
import ModelGateway.Proofs.CommandLine.Encode
import ModelGateway.Proofs.Config.Fingerprint
import ModelGateway.Proofs.Decoding.Tolerance
import ModelGateway.Proofs.Json.RoundTrip
import ModelGateway.Proofs.Binary64.Range
import ModelGateway.Proofs.Settings.Range
import ModelGateway.Proofs.Client.Capability
import ModelGateway.Proofs.CommandLine.Output
import ModelGateway.Proofs.Config.Effective
import ModelGateway.Proofs.ClientSet
import ModelGateway.Proofs.ModelId
import ModelGateway.Proofs.Registry.Region
import ModelGateway.Proofs.Client.Log
import ModelGateway.Proofs.ModelId.Grammar
import ModelGateway.Proofs.Settings.Record
import ModelGateway.Proofs.Client.Pieces
import ModelGateway.Proofs.Settings.Restated
import ModelGateway.Proofs.Settings.Penalty
import ModelGateway.Proofs.Decoding.Image
import ModelGateway.Proofs.Settings.Unset
import ModelGateway.Proofs.Config.Flag
import ModelGateway.Proofs.Decoding.Form
import ModelGateway.Proofs.Client.LogLine
import ModelGateway.Proofs.Settings.Prompt
import ModelGateway.Proofs.Service
