import PageMarks.Main
import PageMarks.Proofs.Clip
import PageMarks.Proofs.Content.Denotation
import PageMarks.Proofs.Content.InlineImages
import PageMarks.Proofs.Content.Numbers
import PageMarks.Proofs.Content.Positions
import PageMarks.Proofs.Engine.Baseline
import PageMarks.Proofs.Engine.DeviceColors
import PageMarks.Proofs.Engine.Equivariance
import PageMarks.Proofs.Engine.Isolation
import PageMarks.Proofs.Engine.Lines
import PageMarks.Proofs.Engine.ParameterSets
import PageMarks.Proofs.Engine.TextFactors
import PageMarks.Proofs.Filter.Composition
import PageMarks.Proofs.Filter.Runs
import PageMarks.Proofs.Interpreter.Attribution
import PageMarks.Proofs.Interpreter.Declining
import PageMarks.Proofs.Interpreter.Interruption
import PageMarks.Proofs.Interpreter.Preparation
import PageMarks.Proofs.Interpreter.Sections
import PageMarks.Proofs.Page.Assembly
import PageMarks.Proofs.Page.Inheritance
import PageMarks.Proofs.Page.Selection
import PageMarks.Proofs.Resource.Abbreviations
import PageMarks.Proofs.Resource.CompositeFonts
import PageMarks.Proofs.Resource.ContentImages
import PageMarks.Proofs.Resource.Indirection
import PageMarks.Proofs.Resource.WellFormedSpaces
import PageMarks.Report.State
