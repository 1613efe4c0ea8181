import NetDraft.Main
import NetDraft.Proofs.Catalog.Listing
import NetDraft.Proofs.Catalog.Search
import NetDraft.Proofs.Document.Faithful
import NetDraft.Proofs.Document.Refusal
import NetDraft.Proofs.Generation
import NetDraft.Proofs.Reporting
import NetDraft.Proofs.Serving
import NetDraft.Proofs.Session.Coordinates
import NetDraft.Proofs.Session.Interleaving
import NetDraft.Proofs.Session.Verdict
import NetDraft.Proofs.Validation.Count
import NetDraft.Proofs.Validation.Growth
import NetDraft.Proofs.Script.Sections
import NetDraft.Proofs.Files.Watched
import NetDraft.Proofs.Startup
