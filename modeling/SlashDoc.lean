import SlashDoc.Extraction.Step
import SlashDoc.Line
import SlashDoc.Main
import SlashDoc.Proofs.BlockLayout
import SlashDoc.Proofs.BodyShapes
import SlashDoc.Proofs.BufferSections
import SlashDoc.Proofs.BuiltInPage
import SlashDoc.Proofs.CommandOutcome
import SlashDoc.Proofs.CommentLines
import SlashDoc.Proofs.CommentRuns
import SlashDoc.Proofs.Continuation
import SlashDoc.Proofs.DebugLog
import SlashDoc.Proofs.DocumentLines
import SlashDoc.Proofs.EscapedText
import SlashDoc.Proofs.ExtractionRun
import SlashDoc.Proofs.FileChunks
import SlashDoc.Proofs.FunctionHeadings
import SlashDoc.Proofs.FunctionShapes
import SlashDoc.Proofs.IdleCode
import SlashDoc.Proofs.JoinedSources
import SlashDoc.Proofs.LineAssembly
import SlashDoc.Proofs.LineBreaks
import SlashDoc.Proofs.LineFeeds
import SlashDoc.Proofs.ReachableSnapshots
import SlashDoc.Proofs.SignatureGroups
import SlashDoc.Proofs.SignatureTables
import SlashDoc.Proofs.SnapshotCounters
import SlashDoc.Proofs.StoredSettings
import SlashDoc.Proofs.Streaming
import SlashDoc.Proofs.TableGaps
import SlashDoc.Proofs.TableReading
import SlashDoc.Proofs.TemplateFailures
import SlashDoc.Proofs.TemplatePages
import SlashDoc.Proofs.TemplateSlots
import SlashDoc.Proofs.TemplateEngine
import SlashDoc.Proofs.TextPieces
import SlashDoc.Proofs.WrittenComments
