import Targeting.Argument.Constraint
import Targeting.Argument.Error
import Targeting.Argument.Reading
import Targeting.Argument.Token
import Targeting.Bounds
import Targeting.Bounds.Literal
import Targeting.Error
import Targeting.Evaluation.Choice
import Targeting.Evaluation.Order
import Targeting.Evaluation.Sample
import Targeting.Filter.Entity
import Targeting.Filter.Item
import Targeting.Filter.Score
import Targeting.Host
import Targeting.Item.Condition
import Targeting.Item.Record
import Targeting.Item.Token
import Targeting.Json.Display
import Targeting.Json.Reader
import Targeting.Json.StringLiteral
import Targeting.Json.Value
import Targeting.Keyed
import Targeting.Log.Calendar
import Targeting.Log.Level
import Targeting.Log.Line
import Targeting.Log.Logged
import Targeting.Log.Notice
import Targeting.Log.Outlet
import Targeting.Message.Renderer
import Targeting.Number.Binary
import Targeting.Number.Decimal
import Targeting.Number.Integer
import Targeting.Number.Shortest
import Targeting.Proofs.Acceptance
import Targeting.Proofs.ArgumentValue
import Targeting.Proofs.Aspect
import Targeting.Proofs.BareText
import Targeting.Proofs.BaseLocation
import Targeting.Proofs.BoardHistory
import Targeting.Proofs.CacheUse
import Targeting.Proofs.CallHistory
import Targeting.Proofs.Confinement
import Targeting.Proofs.Conjunction
import Targeting.Proofs.Desugaring
import Targeting.Proofs.EmptyChoice
import Targeting.Proofs.ExecutorAlone
import Targeting.Proofs.Fault
import Targeting.Proofs.Fields
import Targeting.Proofs.FloatOrder
import Targeting.Proofs.FormatCode
import Targeting.Proofs.HolderIdentity
import Targeting.Proofs.InvertedRange
import Targeting.Proofs.ItemAcceptance
import Targeting.Proofs.ItemField
import Targeting.Proofs.ItemGrammar
import Targeting.Proofs.ItemLexicon
import Targeting.Proofs.ItemValue
import Targeting.Proofs.ItemWitness
import Targeting.Proofs.JsonGrammar
import Targeting.Proofs.JsonLexicon
import Targeting.Proofs.JsonText
import Targeting.Proofs.Loading
import Targeting.Proofs.LongNumber
import Targeting.Proofs.Mending
import Targeting.Proofs.NamedHolder
import Targeting.Proofs.NativeFilter
import Targeting.Proofs.Negation
import Targeting.Proofs.NestedList
import Targeting.Proofs.NormalSettings
import Targeting.Proofs.NumberText
import Targeting.Proofs.Ordering
import Targeting.Proofs.Outcome
import Targeting.Proofs.QuotedValue
import Targeting.Proofs.RandomChoice
import Targeting.Proofs.RangeText
import Targeting.Proofs.Reading
import Targeting.Proofs.Reconfiguration
import Targeting.Proofs.Refusal
import Targeting.Proofs.Rendering
import Targeting.Proofs.ScoreEntry
import Targeting.Proofs.SelectorShape
import Targeting.Proofs.SelectorText
import Targeting.Proofs.SingleField
import Targeting.Proofs.Splitting
import Targeting.Proofs.StableOrder
import Targeting.Proofs.Stages
import Targeting.Proofs.StringLiteral
import Targeting.Proofs.Tokens
import Targeting.Proofs.TopByDistance
import Targeting.Proofs.Trimming
import Targeting.Proofs.UnquotedValue
import Targeting.Proofs.Warning
import Targeting.Proofs.WholeNumber
import Targeting.Query
import Targeting.Resolution
import Targeting.Selector.Cache
import Targeting.Selector.Reading
import Targeting.Selector.Shape
import Targeting.Session
import Targeting.Settings
import Targeting.Settings.File
import Targeting.Settings.Reading
import Targeting.Space
import Targeting.Text.Blank
import Targeting.Text.Digit
import Targeting.Text.Interval
import Targeting.Text.Lowercase
import Targeting.Text.Printable
import Targeting.Text.Quoted
import Targeting.World.Board
import Targeting.World.Body
import Targeting.World.Store
