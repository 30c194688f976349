import CallLog.Catalogue
import CallLog.Document.Text
import CallLog.PlanCache.Script
import CallLog.Schema.Plan
import CallLog.Session
import CallLog.Settings
import CallLog.Proofs.Action
import CallLog.Proofs.Context
import CallLog.Proofs.Conversion
import CallLog.Proofs.Format.Message
import CallLog.Proofs.LogPoint.Arguments
import CallLog.Proofs.LogPoint.Explicit
import CallLog.Proofs.LogPoint.Run
import CallLog.Proofs.Logger
import CallLog.Proofs.Plan.ErrorParameter
import CallLog.Proofs.Rules.Slots
import CallLog.Proofs.Template.Layout
import CallLog.Proofs.LogPoint.Generated
import CallLog.Proofs.LogPoint.Operation
import CallLog.Proofs.LogPoint.Written
import CallLog.Proofs.Task
import CallLog.Proofs.BoundPoint
import CallLog.Proofs.Interception
import CallLog.Proofs.Evaluation
import CallLog.Proofs.Signature
import CallLog.Proofs.Records
import CallLog.Proofs.Description
import CallLog.Proofs.Plan.Visible
import CallLog.Proofs.Arguments
import CallLog.Proofs.LogPoint.Exclusion
import CallLog.Proofs.LogPoint.Values
import CallLog.Proofs.LogPoint.Writable
import CallLog.Proofs.Outcome
import CallLog.Proofs.Retained
import CallLog.Proofs.Attribute
import CallLog.Proofs.StandIn
import CallLog.Proofs.Instrument
import CallLog.Proofs.Scopes
import CallLog.Proofs.PlanCache.BuiltOnce
import CallLog.Proofs.PlanCache.Renewal
import CallLog.Proofs.Owner
import CallLog.Proofs.ErrorArgument
import CallLog.Proofs.Context.Blocks
import CallLog.Proofs.Binding
import CallLog.Proofs.Rules.Grammar
import CallLog.Proofs.FirstCall
import CallLog.Proofs.Recovery
import CallLog.Proofs.Hints
import CallLog.Proofs.Plan.Agreement
import CallLog.Proofs.TypeHint.Union
import CallLog.Proofs.Unresolved
import CallLog.Proofs.Registry
import CallLog.Proofs.Format.Translation
import CallLog.Proofs.Text.LetterCase
import CallLog.Proofs.Level
import CallLog.Proofs.Context.Collection
