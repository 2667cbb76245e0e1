import PomToGradle.Main
import PomToGradle.Markup.Lexer.Spelling
import PomToGradle.Proofs.ConversionOrder
import PomToGradle.Proofs.OwnFields
import PomToGradle.Proofs.WrittenForest
import PomToGradle.Session
import PomToGradle.Text.Utf8.Lemmas
import PomToGradle.Workspace
import PomToGradle.Proofs.ScriptReading
import PomToGradle.Proofs.JoinedDocuments
import PomToGradle.Proofs.SourceAgreement
import PomToGradle.Proofs.UndecodableData
import PomToGradle.Proofs.RespelledText
import PomToGradle.Proofs.DeclaredEncoding
import PomToGradle.Proofs.Utf16Documents
import PomToGradle.Proofs.Remarks
import PomToGradle.Proofs.RestyledTags
import PomToGradle.Proofs.ArgumentOrder
import PomToGradle.Proofs.StatedFields
import PomToGradle.Proofs.Resemblance
import PomToGradle.Proofs.WrapperElements
import PomToGradle.Proofs.TextDivision
import PomToGradle.Proofs.ConversionTrace
import PomToGradle.Proofs.AcceptedReferences
import PomToGradle.Proofs.ArgumentNormalForm
import PomToGradle.Proofs.ErrorOffsets
import PomToGradle.Proofs.SelectedFile
import PomToGradle.Proofs.SearchOrder
import PomToGradle.Proofs.OpenElements
import PomToGradle.Proofs.MaximalTexts
