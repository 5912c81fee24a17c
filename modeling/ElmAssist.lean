import ElmAssist.Main
import ElmAssist.Proofs.Cache.History
import ElmAssist.Proofs.Completion.Soundness
import ElmAssist.Proofs.Completion.Transparency
import ElmAssist.Proofs.Resolution
import ElmAssist.Proofs.Completion.Independence
import ElmAssist.Proofs.Completion.Documentation
import ElmAssist.Proofs.Completion.Effect
import ElmAssist.Proofs.Completion.ImportLine
import ElmAssist.Proofs.Elm.Lowering
import ElmAssist.Proofs.Elm.Attachment
import ElmAssist.Proofs.Elm.Exposure
import ElmAssist.Proofs.Elm.NormalForm
import ElmAssist.Proofs.Project.Loading
import ElmAssist.Proofs.Snapshot
import ElmAssist.Proofs.Session
import ElmAssist.Proofs.Completion.Qualified
import ElmAssist.Proofs.Completion.Declared
import ElmAssist.Proofs.Project.Names
import ElmAssist.Proofs.Completion.BareWord
import ElmAssist.Proofs.Completion.Repetition
import ElmAssist.Proofs.Completion.Cursor
import ElmAssist.Proofs.Disk.Order
import ElmAssist.Proofs.Path.Location
import ElmAssist.Proofs.VersionNotation
import ElmAssist.Proofs.Project.SourceDirectories
import ElmAssist.Proofs.Project.Dependencies
import ElmAssist.Proofs.Project.Members
