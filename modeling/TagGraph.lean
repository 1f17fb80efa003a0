import TagGraph.EventLog
import TagGraph.JsonText
import TagGraph.ModelDocument
import TagGraph.OnDemandGrammar
import TagGraph.Packed
import TagGraph.Reader
import TagGraph.TokenValue
import TagGraph.WordPosition
import TagGraph.Proofs.Tiling
import TagGraph.Proofs.ProgramRecognition
import TagGraph.Proofs.FirstFault
import TagGraph.Proofs.Printing
import TagGraph.Proofs.Layout
import TagGraph.Proofs.Concatenation
import TagGraph.Proofs.Independence
import TagGraph.Proofs.Places
import TagGraph.Proofs.ReaderRuns
import TagGraph.Proofs.DiagnosticLines
import TagGraph.Proofs.EventRecord
import TagGraph.Proofs.DocumentReading
import TagGraph.Proofs.DocumentSizes
import TagGraph.Proofs.PackedReading
import TagGraph.Proofs.JsonReading
import TagGraph.Proofs.Transport
import TagGraph.Proofs.ReaderRequests
import TagGraph.Proofs.LiteralUnits
import TagGraph.Proofs.Numerals
import TagGraph.Proofs.ClauseOrder
import TagGraph.Proofs.LabelHistories
import TagGraph.Proofs.OffsetLines
import TagGraph.Proofs.DocumentChanges
import TagGraph.Proofs.ModelFormats
import TagGraph.Proofs.OnDemand
import TagGraph.Proofs.OnDemandGrammar
import TagGraph.Proofs.OnDemandWorlds
import TagGraph.Proofs.OnDemandDeclarations
import TagGraph.Proofs.Progress
import TagGraph.Proofs.WordCounts
