import AccessPolicy.Command.Arguments
import AccessPolicy.Command.EnvFile
import AccessPolicy.Command.Report
import AccessPolicy.Command.Run
import AccessPolicy.Command.Settings
import AccessPolicy.File.Directory
import AccessPolicy.File.Path
import AccessPolicy.Json.Basic
import AccessPolicy.Json.Reading
import AccessPolicy.Json.Response
import AccessPolicy.Json.Value
import AccessPolicy.Main
import AccessPolicy.Number.Binary64
import AccessPolicy.Number.Shortest
import AccessPolicy.Number.Written
import AccessPolicy.Policy.Access
import AccessPolicy.Policy.Block
import AccessPolicy.Policy.Call
import AccessPolicy.Policy.Condition
import AccessPolicy.Policy.Entries
import AccessPolicy.Policy.Fault
import AccessPolicy.Policy.Grant
import AccessPolicy.Policy.Log
import AccessPolicy.Policy.Name
import AccessPolicy.Policy.Part
import AccessPolicy.Policy.Privilege
import AccessPolicy.Policy.Program
import AccessPolicy.Policy.Role
import AccessPolicy.Policy.Session
import AccessPolicy.Policy.Signature
import AccessPolicy.Policy.Snapshot
import AccessPolicy.Policy.Source
import AccessPolicy.Policy.Statement
import AccessPolicy.Policy.Substitute
import AccessPolicy.Policy.Summary
import AccessPolicy.Policy.Tables
import AccessPolicy.Text.Blank
import AccessPolicy.Text.Case
import AccessPolicy.Text.Cased
import AccessPolicy.Text.Digit
import AccessPolicy.Text.Encoded
import AccessPolicy.Text.Printable
import AccessPolicy.Text.Quoted
import AccessPolicy.Text.Surrogate
import AccessPolicy.Text.Utf8
import AccessPolicy.Time.Calendar
import AccessPolicy.Value.Basic
import AccessPolicy.Value.Equality
import AccessPolicy.Value.Field
import AccessPolicy.Value.Kind
import AccessPolicy.Value.Member
import AccessPolicy.Value.Place
import AccessPolicy.Value.Render
import AccessPolicy.Value.SetOrder
import AccessPolicy.Value.Summary
import AccessPolicy.Value.Table
import AccessPolicy.Value.UserPath
import AccessPolicy.Yaml.Base64
import AccessPolicy.Yaml.Cursor
import AccessPolicy.Yaml.Document
import AccessPolicy.Yaml.Event
import AccessPolicy.Yaml.Fault
import AccessPolicy.Yaml.Merge
import AccessPolicy.Yaml.Node
import AccessPolicy.Yaml.Scalar
import AccessPolicy.Yaml.Shape
import AccessPolicy.Yaml.Stamp
import AccessPolicy.Yaml.Tag
import AccessPolicy.Yaml.Token.Basic
import AccessPolicy.Yaml.Token.Name
import AccessPolicy.Yaml.Token.Scalar
import AccessPolicy.Yaml.Token.Stream
import AccessPolicy.Proofs.Acceptance
import AccessPolicy.Proofs.Accounting
import AccessPolicy.Proofs.Act
import AccessPolicy.Proofs.Action
import AccessPolicy.Proofs.Atomicity
import AccessPolicy.Proofs.Binding
import AccessPolicy.Proofs.Calls
import AccessPolicy.Proofs.Closure
import AccessPolicy.Proofs.Completion
import AccessPolicy.Proofs.Composition
import AccessPolicy.Proofs.Construction
import AccessPolicy.Proofs.Course
import AccessPolicy.Proofs.Custody
import AccessPolicy.Proofs.Declaration
import AccessPolicy.Proofs.Demands
import AccessPolicy.Proofs.Denotation
import AccessPolicy.Proofs.Equality
import AccessPolicy.Proofs.Follow
import AccessPolicy.Proofs.Grammar
import AccessPolicy.Proofs.Growth
import AccessPolicy.Proofs.Inclusion
import AccessPolicy.Proofs.Incremental
import AccessPolicy.Proofs.Integrity
import AccessPolicy.Proofs.JsonReading
import AccessPolicy.Proofs.KeyOrder
import AccessPolicy.Proofs.Ledger
import AccessPolicy.Proofs.Levels
import AccessPolicy.Proofs.Lexical
import AccessPolicy.Proofs.Meaning
import AccessPolicy.Proofs.Merge
import AccessPolicy.Proofs.NameSequence
import AccessPolicy.Proofs.Naming
import AccessPolicy.Proofs.Normalization
import AccessPolicy.Proofs.Outcome
import AccessPolicy.Proofs.ReadBack
import AccessPolicy.Proofs.Reading
import AccessPolicy.Proofs.Refusal
import AccessPolicy.Proofs.Reporting
import AccessPolicy.Proofs.RoleNames
import AccessPolicy.Proofs.Rounding
import AccessPolicy.Proofs.Scopes
import AccessPolicy.Proofs.Scoping
import AccessPolicy.Proofs.Separation
import AccessPolicy.Proofs.Shift
import AccessPolicy.Proofs.Shorthand
import AccessPolicy.Proofs.Splitting
import AccessPolicy.Proofs.Statement
import AccessPolicy.Proofs.Table
import AccessPolicy.Proofs.Task
import AccessPolicy.Proofs.Telling
import AccessPolicy.Proofs.Trace
import AccessPolicy.Proofs.Trail
import AccessPolicy.Proofs.Unchecked
import AccessPolicy.Proofs.Update
import AccessPolicy.Proofs.UserPaths
import AccessPolicy.Proofs.Widening
