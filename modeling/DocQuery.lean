import DocQuery.Calendar.Basic
import DocQuery.Calendar.Text
import DocQuery.Command.Arguments
import DocQuery.Command.Config
import DocQuery.Command.Run
import DocQuery.Double.Basic
import DocQuery.Double.Decimal
import DocQuery.Expr.Basic
import DocQuery.Expr.Describe
import DocQuery.Expr.Json
import DocQuery.Journal
import DocQuery.Json.Basic
import DocQuery.Json.Reader
import DocQuery.Json.Record
import DocQuery.Json.Unique
import DocQuery.Main
import DocQuery.Plan.Basic
import DocQuery.Plan.Failure
import DocQuery.Plan.Filter
import DocQuery.Plan.Json
import DocQuery.Plan.Outline
import DocQuery.Plan.Payload
import DocQuery.Plan.Read
import DocQuery.Plan.Scope
import DocQuery.Plan.Task
import DocQuery.Plan.Write
import DocQuery.Proofs.Agreement
import DocQuery.Proofs.BulkPlans
import DocQuery.Proofs.CalendarDays
import DocQuery.Proofs.CastLeaves
import DocQuery.Proofs.CompileRun
import DocQuery.Proofs.Concatenation
import DocQuery.Proofs.Configurations
import DocQuery.Proofs.Culprits
import DocQuery.Proofs.DocumentKeys
import DocQuery.Proofs.DoubleText
import DocQuery.Proofs.ExprNodes
import DocQuery.Proofs.FailingNodes
import DocQuery.Proofs.FilterGrammar
import DocQuery.Proofs.FilterMeaning
import DocQuery.Proofs.FilterOperators
import DocQuery.Proofs.FilterRules
import DocQuery.Proofs.FindComposition
import DocQuery.Proofs.JournalLines
import DocQuery.Proofs.JsonRoundTrip
import DocQuery.Proofs.JsonSize
import DocQuery.Proofs.JsonSteps
import DocQuery.Proofs.JsonTokens
import DocQuery.Proofs.KeyChecks
import DocQuery.Proofs.KeyCollisions
import DocQuery.Proofs.NormalPlans
import DocQuery.Proofs.Outcomes
import DocQuery.Proofs.OutlineTexts
import DocQuery.Proofs.ParamBinding
import DocQuery.Proofs.ParamBounds
import DocQuery.Proofs.ParamMentions
import DocQuery.Proofs.ParamReads
import DocQuery.Proofs.ParamSlices
import DocQuery.Proofs.Payloads
import DocQuery.Proofs.PlainValues
import DocQuery.Proofs.PlanTrees
import DocQuery.Proofs.PrimaryKey
import DocQuery.Proofs.PrintedScalars
import DocQuery.Proofs.ProperDocuments
import DocQuery.Proofs.QueryText
import DocQuery.Proofs.ReadRequests
import DocQuery.Proofs.RecordWrites
import DocQuery.Proofs.Registries
import DocQuery.Proofs.RequestFields
import DocQuery.Proofs.Resolution
import DocQuery.Proofs.SelectionItems
import DocQuery.Proofs.Selections
import DocQuery.Proofs.Substitution
import DocQuery.Proofs.UniqueNames
import DocQuery.Proofs.UpdateCommands
import DocQuery.Proofs.WrittenKeys
import DocQuery.Query.Basic
import DocQuery.Query.Json
import DocQuery.Request.Basic
import DocQuery.Request.Json
import DocQuery.Settings
import DocQuery.Text.Base64
import DocQuery.Text.Blank
import DocQuery.Text.Digits
import DocQuery.Text.Hex
import DocQuery.Text.Printable
import DocQuery.Text.Quoted
import DocQuery.Value.Basic
import DocQuery.Value.Cast
import DocQuery.Value.Decimal
import DocQuery.Value.Describe
import DocQuery.Value.Json
import DocQuery.Value.Scalar
