import SourceAtlas.CommandLine.World
import SourceAtlas.Main
import SourceAtlas.Tree.Table
import SourceAtlas.Proofs.Recursion
import SourceAtlas.Proofs.VisitTrace
import SourceAtlas.Proofs.StackLoop
import SourceAtlas.Proofs.Occurrences
import SourceAtlas.Proofs.Extraction
import SourceAtlas.Proofs.SheetWriting
import SourceAtlas.Proofs.LineText
import SourceAtlas.Proofs.DrawnLines
import SourceAtlas.Proofs.ClassLines
import SourceAtlas.Proofs.FlowchartLines
import SourceAtlas.Proofs.DiagramLines
import SourceAtlas.Proofs.UniqueReading
import SourceAtlas.Proofs.ClassContent
import SourceAtlas.Proofs.FlowchartContent
import SourceAtlas.Proofs.PrivateMembers
import SourceAtlas.Proofs.PrivateLines
import SourceAtlas.Proofs.DepthLimit
import SourceAtlas.Proofs.VariableNames
import SourceAtlas.Proofs.EdgeSources
import SourceAtlas.Proofs.JsonForms
import SourceAtlas.Proofs.CatalogueHistory
import SourceAtlas.Proofs.CommandEffects
import SourceAtlas.Proofs.CommandOutput
import SourceAtlas.Proofs.PlainAnalysis
import SourceAtlas.Proofs.Anchors
import SourceAtlas.Proofs.SourceLines
import SourceAtlas.Proofs.AnchoredPhrases
import SourceAtlas.Proofs.AnchoredPrograms
import SourceAtlas.Proofs.Outermost
import SourceAtlas.Proofs.ImportedNames
import SourceAtlas.Proofs.ReportedPositions
import SourceAtlas.Proofs.EntityShape
import SourceAtlas.Proofs.MissingNames
import SourceAtlas.Proofs.ExportedNames
import SourceAtlas.Proofs.DirectMembers
import SourceAtlas.Proofs.DerivedEdges
import SourceAtlas.Proofs.SourceOrder
import SourceAtlas.Proofs.NormalForms
import SourceAtlas.Proofs.MemberMarks
import SourceAtlas.Proofs.QuotedLiterals
import SourceAtlas.Proofs.NodeIds
