import Tally.Model.Schema

/-!
# The recommendation of the public projections

The embedding of what `load_invoice_projection` (`platform/intake_api.py`) and
`load_reconstruction_projection` (`platform/reconstruction_api.py`) select as the
recommendation of an invoice: the row whose members they show. No statement of the program
sets `superseded_by`, so both filters on it keep every row; which of several rows of one
version comes first is left to the database.
-/

set_option autoImplicit false

namespace Tally.Model.Projections
open Tally.Model

/-- The rows that `ORDER BY version DESC LIMIT 1` may return. -/
def topVersions (rows : List RecommendationRow) : List RecommendationRow :=
  rows.filter fun r => rows.all fun other => other.version ≤ r.version

/-- The recommendations of an invoice, in the order they were committed. -/
def recommendationsOf (db : Db) (invoiceId : Uuid) : List RecommendationRow :=
  (db .recommendations).filter fun r => r.invoiceId = invoiceId

/-- The recommendation `load_invoice_projection` shows. -/
def invoiceRecommendation (env : TxnEnv) (db : Db) (invoiceId : Uuid) :
    Option RecommendationRow :=
  fetchOne env (topVersions (recommendationsOf db invoiceId))

/-- The reconstruction `load_reconstruction_projection` is about: the highest version. -/
def latestReconstruction (db : Db) (invoiceId : Uuid) : Option ReconstructionRow :=
  (((db .reconstructions).filter fun r => r.invoiceId = invoiceId).insertionSort
    fun a b => b.version ≤ a.version).head?

/-- The recommendation `load_reconstruction_projection` shows; none without a
reconstruction. -/
def reconstructionRecommendation (env : TxnEnv) (db : Db) (invoiceId : Uuid) :
    Option RecommendationRow :=
  match latestReconstruction db invoiceId with
  | none => none
  | some head => fetchOne env (topVersions ((db .recommendations).filter fun r =>
      r.reconstructionId = head.id))

end Tally.Model.Projections
