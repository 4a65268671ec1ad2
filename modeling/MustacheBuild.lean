import MustacheBuild.Main
import MustacheBuild.Proofs.Build.DryRun
import MustacheBuild.Proofs.Build.Frame
import MustacheBuild.Proofs.Build.Journal
import MustacheBuild.Proofs.Build.Rebuild
import MustacheBuild.Proofs.Build.Verbatim
import MustacheBuild.Proofs.Encoding.Lossless
import MustacheBuild.Proofs.Store.Disk
import MustacheBuild.Proofs.Template.Nesting
import MustacheBuild.Store.Disk
import MustacheBuild.Store.Faulty
import MustacheBuild.Store.Memory
import MustacheBuild.Proofs.Template.Site
import MustacheBuild.Proofs.Template.Grammar
import MustacheBuild.Proofs.Template.Append
import MustacheBuild.Proofs.Template.NormalForm
import MustacheBuild.Proofs.Template.Print
import MustacheBuild.Proofs.Render.Meaning
import MustacheBuild.Proofs.Template.LineEnding
import MustacheBuild.Proofs.Build.Independent
import MustacheBuild.Proofs.Data.Lookup
import MustacheBuild.Proofs.Render.Alike
import MustacheBuild.Proofs.Render.Case
import MustacheBuild.Proofs.Render.Unmentioned
import MustacheBuild.Proofs.Build.Comparison
import MustacheBuild.Proofs.Template.Occurrence
import MustacheBuild.Proofs.Template.Standalone
import MustacheBuild.Proofs.Template.Blame
import MustacheBuild.Proofs.Template.Lines
import MustacheBuild.Proofs.Data.Insertion
import MustacheBuild.Proofs.Render.Section
import MustacheBuild.Proofs.Render.Transparent
import MustacheBuild.Proofs.Build.Pending
import MustacheBuild.Proofs.Path.Above
import MustacheBuild.Proofs.Store.Directories
import MustacheBuild.Proofs.Store.Replacement
import MustacheBuild.Proofs.Store.AllOrNothing
import MustacheBuild.Proofs.Store.Stamp
import MustacheBuild.Proofs.Template.Cursor
import MustacheBuild.Proofs.Template.Sibling
import MustacheBuild.Proofs.Build.Discovery
