import ScriptAudit.Analysis.Run
import ScriptAudit.Journal.Events
import ScriptAudit.Settings.Load
import ScriptAudit.Proofs.Blocks
import ScriptAudit.Proofs.FunctionRanges
import ScriptAudit.Proofs.DirectiveScope
import ScriptAudit.Proofs.DebtWeights
import ScriptAudit.Proofs.Delivery
import ScriptAudit.Proofs.Suppressed
import ScriptAudit.Proofs.Loosening
import ScriptAudit.Proofs.Precedence
import ScriptAudit.Proofs.FaultOrder
import ScriptAudit.Proofs.DoubleRange
import ScriptAudit.Proofs.Escapes
import ScriptAudit.Proofs.Reloading
import ScriptAudit.Proofs.Placement
import ScriptAudit.Proofs.JournalRuns
import ScriptAudit.Proofs.Totals
import ScriptAudit.Proofs.Indentation
import ScriptAudit.Proofs.StatementTrees
import ScriptAudit.Proofs.Division
import ScriptAudit.Proofs.BlockMatching
import ScriptAudit.Proofs.Literals
import ScriptAudit.Proofs.ParameterList
import ScriptAudit.Proofs.ParameterEntries
import ScriptAudit.Proofs.InlineStatement
import ScriptAudit.Proofs.Stretches
import ScriptAudit.Proofs.DecisionWords
import ScriptAudit.Proofs.Numerals
import ScriptAudit.Proofs.FreeNumbers
import ScriptAudit.Proofs.Effect
import ScriptAudit.Proofs.Wording
import ScriptAudit.Proofs.Insertion
import ScriptAudit.Proofs.ArmCounting
import ScriptAudit.Proofs.Reindentation
import ScriptAudit.Proofs.Concatenation
import ScriptAudit.Proofs.LineEndings
import ScriptAudit.Proofs.LoggerNames
import ScriptAudit.Proofs.UntypedVariables
import ScriptAudit.Proofs.VariableTexts
import ScriptAudit.Proofs.CheckedIndex
import ScriptAudit.Proofs.CheckedMessages
import ScriptAudit.Proofs.CheckedAnalysis
import ScriptAudit.Proofs.ExemptDeclarations
import ScriptAudit.Proofs.EmptiedTexts
import ScriptAudit.Proofs.MatchHeaders
