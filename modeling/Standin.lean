import Standin.Script
import Standin.Session
import Standin.Table.Sidecar
import Standin.Proofs.RoundTrip
import Standin.Proofs.Substitution
import Standin.Proofs.Place
import Standin.Proofs.Seam
import Standin.Proofs.KeySpace
import Standin.Proofs.KeySearch
import Standin.Proofs.Concat
import Standin.Proofs.Stretch
import Standin.Proofs.Shape
import Standin.Proofs.Leniency
import Standin.Proofs.Json
import Standin.Proofs.Saved
import Standin.Proofs.Session
import Standin.Proofs.FileTree
import Standin.Proofs.Beside
import Standin.Proofs.Environment
import Standin.Proofs.Form
import Standin.Proofs.Carets
import Standin.Proofs.Parts
