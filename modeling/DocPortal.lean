import DocPortal.Json.Reader
import DocPortal.Main
import DocPortal.Program.Server
import DocPortal.Settings.Written
import DocPortal.Viewer.OptionBag
import DocPortal.Viewer.ScriptData
import DocPortal.Viewer.ScriptText
import DocPortal.Pattern.Basic
import DocPortal.Pattern.Class
import DocPortal.Pattern.Reader
import DocPortal.Pattern.Usable
import DocPortal.Proofs.Viewer.Literal
import DocPortal.Proofs.Text.Blank
import DocPortal.Proofs.Text.LetterCase
import DocPortal.Proofs.Text.Occurrence
import DocPortal.Proofs.Viewer.ScriptSegments
import DocPortal.Proofs.Viewer.ScriptLiterals
import DocPortal.Proofs.Viewer.ScriptFrame
import DocPortal.Proofs.Viewer.DocumentUrl
import DocPortal.Proofs.Viewer.Draft
import DocPortal.Proofs.Viewer.ScriptReading
import DocPortal.Proofs.Viewer.ScriptElement
import DocPortal.Proofs.Http.Cors
import DocPortal.Proofs.Site.Answer
import DocPortal.Proofs.Text.Separated
import DocPortal.Proofs.Settings.Reading
import DocPortal.Proofs.Site.Setup
import DocPortal.Proofs.Site.AllowedOrigin
import DocPortal.Proofs.Program.Start
import DocPortal.Proofs.Program.RestrictedOrigins
import DocPortal.Proofs.Viewer.OptionBag
import DocPortal.Proofs.Settings.SourceList
import DocPortal.Proofs.Settings.Written
import DocPortal.Proofs.Settings.OuterBlanks
import DocPortal.Proofs.Site.OuterBlanks
import DocPortal.Proofs.Http.Header
import DocPortal.Proofs.RequestId
import DocPortal.Proofs.Site.Layers
import DocPortal.Proofs.Site.SettledId
import DocPortal.Proofs.Viewer.MountPoint
import DocPortal.Proofs.Viewer.Page
import DocPortal.Proofs.Viewer.Options
import DocPortal.Proofs.Site.IdIndependence
import DocPortal.Proofs.Site.PathTable
import DocPortal.Proofs.Viewer.Registries
import DocPortal.Proofs.Viewer.ScriptField
import DocPortal.Proofs.Viewer.MountedElement
import DocPortal.Proofs.Program.FileTree
import DocPortal.Proofs.Program.Generator
import DocPortal.Proofs.Program.Agreement
import DocPortal.Proofs.Viewer.Faults
import DocPortal.Proofs.Viewer.ListedAgain
import DocPortal.Proofs.Settings.SourceWriting
import DocPortal.Proofs.Settings.Grammar
import DocPortal.Proofs.Settings.Refusal
import DocPortal.Proofs.Viewer.LastWord
import DocPortal.Proofs.Viewer.PageFrame
import DocPortal.Proofs.Text.Utf8
import DocPortal.Proofs.Viewer.IdentifierGrammar
import DocPortal.Proofs.Uuid
import DocPortal.Proofs.Site.IdChain
import DocPortal.Proofs.Viewer.LiteralReading
import DocPortal.Proofs.Http.Target
import DocPortal.Proofs.Site.Problem
import DocPortal.Proofs.Viewer.FetchHook
