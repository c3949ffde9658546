import FormCard.Main
import FormCard.Directory
import FormCard.Proofs.Boundary
import FormCard.Proofs.Place
import FormCard.Proofs.Path
import FormCard.Proofs.Collision
import FormCard.Proofs.Event
import FormCard.Proofs.Run
import FormCard.Proofs.Dialogue
import FormCard.Proofs.Ledger
import FormCard.Proofs.Held
import FormCard.Proofs.Tree
import FormCard.Proofs.Scope
import FormCard.Proofs.Shown
import FormCard.Proofs.Replacement
import FormCard.Proofs.Removal
import FormCard.Proofs.Ownership
import FormCard.Proofs.Response
import FormCard.Proofs.Rerender
import FormCard.Proofs.Sink
import FormCard.Proofs.Edit
import FormCard.Proofs.History
import FormCard.Proofs.Isolation
import FormCard.Proofs.Document
import FormCard.Proofs.Roundtrip
import FormCard.Proofs.Tint
import FormCard.Proofs.Opacity
import FormCard.Proofs.Rows
import FormCard.Proofs.Preview
import FormCard.Proofs.Assignment
import FormCard.Proofs.Report
import FormCard.Proofs.Lossless
import FormCard.Proofs.Spelling
import FormCard.Proofs.Sibling
import FormCard.Proofs.Traversal
import FormCard.Proofs.Allotment
