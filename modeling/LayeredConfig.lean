import LayeredConfig.Calendar
import LayeredConfig.Configuration
import LayeredConfig.Connections
import LayeredConfig.Digest.Sha256
import LayeredConfig.DirectorySettings
import LayeredConfig.Failure
import LayeredConfig.FileTree.Access
import LayeredConfig.FileTree.Basic
import LayeredConfig.FileTree.Walk
import LayeredConfig.Fingerprint
import LayeredConfig.Json.Basic
import LayeredConfig.Json.Reader
import LayeredConfig.Json.Shown
import LayeredConfig.Json.Writer
import LayeredConfig.Load
import LayeredConfig.Log.Level
import LayeredConfig.Log.Line
import LayeredConfig.Log.Notice
import LayeredConfig.Log.Output
import LayeredConfig.Log.Rotation
import LayeredConfig.Log.Template
import LayeredConfig.Namespace.Basic
import LayeredConfig.Namespace.Merge
import LayeredConfig.Number.Binary64
import LayeredConfig.Number.Digits
import LayeredConfig.Number.Shortest
import LayeredConfig.OrderedMap
import LayeredConfig.Override
import LayeredConfig.Persist
import LayeredConfig.Proofs.Connections
import LayeredConfig.Proofs.Fingerprint
import LayeredConfig.Proofs.History
import LayeredConfig.Proofs.Identity
import LayeredConfig.Proofs.Json.Plain
import LayeredConfig.Proofs.Json.Reader
import LayeredConfig.Proofs.Json.Sorted
import LayeredConfig.Proofs.Json.Written
import LayeredConfig.Proofs.Lifecycle
import LayeredConfig.Proofs.Load.Alike
import LayeredConfig.Proofs.Load.Audit
import LayeredConfig.Proofs.Load.Culprit
import LayeredConfig.Proofs.Load.Failing
import LayeredConfig.Proofs.Load.LastWins
import LayeredConfig.Proofs.Load.Layers
import LayeredConfig.Proofs.Load.Logged
import LayeredConfig.Proofs.Load.Order
import LayeredConfig.Proofs.Load.Parsed
import LayeredConfig.Proofs.Load.Success
import LayeredConfig.Proofs.Log.Line
import LayeredConfig.Proofs.Log.Rotation
import LayeredConfig.Proofs.Namespace.Command
import LayeredConfig.Proofs.Namespace.Integer
import LayeredConfig.Proofs.Namespace.Interrupted
import LayeredConfig.Proofs.Namespace.Keys
import LayeredConfig.Proofs.Namespace.Merge
import LayeredConfig.Proofs.Namespace.Tables
import LayeredConfig.Proofs.OrderedMap
import LayeredConfig.Proofs.Persist.Atomic
import LayeredConfig.Proofs.Persist.Changes
import LayeredConfig.Proofs.Persist.Readable
import LayeredConfig.Proofs.Persist.Shown
import LayeredConfig.Proofs.Properties.Entry
import LayeredConfig.Proofs.Properties.Joined
import LayeredConfig.Proofs.Properties.Layout
import LayeredConfig.Proofs.Properties.Line
import LayeredConfig.Proofs.Properties.LoneBackslash
import LayeredConfig.Proofs.Properties.RoundTrip
import LayeredConfig.Proofs.Properties.Spelling
import LayeredConfig.Proofs.RawValue
import LayeredConfig.Proofs.Reload
import LayeredConfig.Proofs.Run
import LayeredConfig.Proofs.Session
import LayeredConfig.Proofs.Source.Distinct
import LayeredConfig.Proofs.Source.Leaves
import LayeredConfig.Proofs.Sticky
import LayeredConfig.Proofs.Store.Files
import LayeredConfig.Proofs.Store.Memory
import LayeredConfig.Proofs.Text.Order
import LayeredConfig.Proofs.Text.Split
import LayeredConfig.Proofs.Text.Trim
import LayeredConfig.Proofs.Text.Utf8
import LayeredConfig.Proofs.View
import LayeredConfig.Proofs.View.Table
import LayeredConfig.Properties.Line
import LayeredConfig.Properties.Reader
import LayeredConfig.Properties.Writer
import LayeredConfig.RawValue
import LayeredConfig.Run
import LayeredConfig.Source.Flatten
import LayeredConfig.Source.Format
import LayeredConfig.Source.Parse
import LayeredConfig.Source.Path
import LayeredConfig.Store.Basic
import LayeredConfig.Store.Files
import LayeredConfig.Store.Memory
import LayeredConfig.Text.CaseRun
import LayeredConfig.Text.CodePoint
import LayeredConfig.Text.DecimalDigit
import LayeredConfig.Text.LowerCase
import LayeredConfig.Text.Printable
import LayeredConfig.Text.Quoted
import LayeredConfig.Text.UpperCase
import LayeredConfig.Text.Utf8
import LayeredConfig.Text.WhiteSpace
import LayeredConfig.Value
import LayeredConfig.View
import LayeredConfig.Yaml.Base64
import LayeredConfig.Yaml.Cursor
import LayeredConfig.Yaml.Document
import LayeredConfig.Yaml.Event
import LayeredConfig.Yaml.Failure
import LayeredConfig.Yaml.Node
import LayeredConfig.Yaml.Number
import LayeredConfig.Yaml.Tag
import LayeredConfig.Yaml.Timestamp
import LayeredConfig.Yaml.Token
import LayeredConfig.Yaml.Token.Lexer
import LayeredConfig.Yaml.Token.Scalar
