import RowTyping.Attribute
import RowTyping.Command.Answer
import RowTyping.Command.Argument
import RowTyping.Command.Environment
import RowTyping.Command.Invocation
import RowTyping.Command.Log
import RowTyping.Command.Style
import RowTyping.Context
import RowTyping.Conversion
import RowTyping.Expr
import RowTyping.Foreign.Launch
import RowTyping.Foreign.Routine
import RowTyping.Foreign.StringLayout
import RowTyping.Foreign.StringStore
import RowTyping.Infer.Check
import RowTyping.Infer.Function
import RowTyping.Main
import RowTyping.Operator
import RowTyping.Primitive
import RowTyping.Proofs.Composition
import RowTyping.Proofs.Completion
import RowTyping.Proofs.ContextEffect
import RowTyping.Proofs.ContextInvariant
import RowTyping.Proofs.Conversion
import RowTyping.Proofs.ConversionChain
import RowTyping.Proofs.ConversionSites
import RowTyping.Proofs.Elaboration
import RowTyping.Proofs.Erasure
import RowTyping.Proofs.Failure
import RowTyping.Proofs.History
import RowTyping.Proofs.Interning
import RowTyping.Proofs.Join
import RowTyping.Proofs.JoinOrder
import RowTyping.Proofs.JoinQuery
import RowTyping.Proofs.JoinTree
import RowTyping.Proofs.Judgment
import RowTyping.Proofs.LaunchArgs
import RowTyping.Proofs.Lifting
import RowTyping.Proofs.MaskIds
import RowTyping.Proofs.MethodCall
import RowTyping.Proofs.Mirror
import RowTyping.Proofs.NodeNumbering
import RowTyping.Proofs.Nullability
import RowTyping.Proofs.Postorder
import RowTyping.Proofs.Promotion
import RowTyping.Proofs.PromotionOrder
import RowTyping.Proofs.Refusal
import RowTyping.Proofs.Restriction
import RowTyping.Proofs.Seam
import RowTyping.Proofs.SettingsText
import RowTyping.Proofs.Spelling
import RowTyping.Proofs.StringRuns
import RowTyping.Proofs.Substitution
import RowTyping.Proofs.TomlReading
import RowTyping.Proofs.TruthValues
import RowTyping.Proofs.UpperBound
import RowTyping.Proofs.ValueRange
import RowTyping.Rule.Basic
import RowTyping.Rule.Resolve
import RowTyping.Scalar.Basic
import RowTyping.Scalar.Overrides
import RowTyping.Scalar.Promotion
import RowTyping.Settings.Basic
import RowTyping.Settings.Document
import RowTyping.Signature
import RowTyping.StringMethod
import RowTyping.Text.Blank
import RowTyping.Text.Control
import RowTyping.Toml.Document
import RowTyping.Toml.Numeral
import RowTyping.Toml.Printer
import RowTyping.Toml.Quoted
import RowTyping.Toml.Reader
import RowTyping.Toml.Value
import RowTyping.Ty
import RowTyping.Ty.Reading
import RowTyping.TypeError
import RowTyping.Unify
