import CardHealth.Main
import CardHealth.Monitor.Step
import CardHealth.Proofs.Base64
import CardHealth.Proofs.Binary64.Decimal
import CardHealth.Proofs.Binary64.Reading
import CardHealth.Proofs.Binary64.Shortest
import CardHealth.Proofs.Bytes
import CardHealth.Proofs.CardStatus.RoundTrip
import CardHealth.Proofs.Config.DatabaseUrl
import CardHealth.Proofs.Config.Settings
import CardHealth.Proofs.Form.HeaderValue
import CardHealth.Proofs.Form.Multipart
import CardHealth.Proofs.Form.UrlEncoded
import CardHealth.Proofs.Host
import CardHealth.Proofs.Json.Number
import CardHealth.Proofs.Json.RoundTrip
import CardHealth.Proofs.Json.String
import CardHealth.Proofs.Log
import CardHealth.Proofs.Monitor.Body
import CardHealth.Proofs.Monitor.Bound
import CardHealth.Proofs.Monitor.Constraints
import CardHealth.Proofs.Monitor.Data
import CardHealth.Proofs.Monitor.Kept
import CardHealth.Proofs.Monitor.List
import CardHealth.Proofs.Monitor.Memory
import CardHealth.Proofs.Monitor.Methods
import CardHealth.Proofs.Monitor.Origin
import CardHealth.Proofs.Numeral.Digits
import CardHealth.Proofs.Numeral.Grammar
import CardHealth.Proofs.Since.Carrier
import CardHealth.Proofs.Since.Form
import CardHealth.Proofs.Since.MediaType
import CardHealth.Proofs.Since.Precedence
import CardHealth.Proofs.SmokeClient.Failures
import CardHealth.Proofs.SmokeClient.Report
import CardHealth.Proofs.Store.Changes
import CardHealth.Proofs.Text.Blank
import CardHealth.Proofs.Text.Percent
import CardHealth.Proofs.Text.Utf8
import CardHealth.Store.Statement
import CardHealth.Proofs.CardStatus.Field
import CardHealth.Proofs.Monitor.Rows
import CardHealth.Proofs.Numeral.Plain
import CardHealth.Proofs.Value.Integer
import CardHealth.Proofs.CardStatus.Integer
import CardHealth.Proofs.CommandLine.Option
import CardHealth.Proofs.CommandLine.Parse
import CardHealth.Proofs.CommandLine.Run
import CardHealth.Proofs.Monitor.Password
import CardHealth.Proofs.Monitor.Address
import CardHealth.Proofs.Config.DotEnv.File
import CardHealth.Proofs.Config.FileOrEnvironment
import CardHealth.Proofs.Numeral.Clean
