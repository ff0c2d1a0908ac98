import CatalogSearch.Config.File
import CatalogSearch.Proofs.Service.Planning
import CatalogSearch.Proofs.Service.Spelling
import CatalogSearch.Schema.Resource
import CatalogSearch.Service.Operation
import CatalogSearch.Proofs.Service.Routing
import CatalogSearch.Proofs.Annotations
import CatalogSearch.Proofs.Service.Authority
import CatalogSearch.Proofs.Filter.Grammar
import CatalogSearch.Proofs.Filter.Leaves
import CatalogSearch.Proofs.Filter.Outline
import CatalogSearch.Proofs.Filter.Evaluation
import CatalogSearch.Proofs.Filter.Writing
import CatalogSearch.Proofs.Filter.Lookup
import CatalogSearch.Proofs.Filter.Meaning
import CatalogSearch.Proofs.Filter.Placement
import CatalogSearch.Proofs.Identifiers
import CatalogSearch.Proofs.Schema.Naming
import CatalogSearch.Proofs.Schema.RoundTrip
import CatalogSearch.Proofs.Sorting.Routes
import CatalogSearch.Proofs.Sorting.Origin
import CatalogSearch.Proofs.Schema.Registration
import CatalogSearch.Proofs.Sorting.Scores
import CatalogSearch.Proofs.Filter.Refusal
import CatalogSearch.Proofs.Service.Failures
import CatalogSearch.Proofs.Batches
import CatalogSearch.Proofs.Engine.Calls
import CatalogSearch.Proofs.Service.Fetching
import CatalogSearch.Proofs.Service.Removing
import CatalogSearch.Proofs.Service.Paging
import CatalogSearch.Proofs.Service.Storing
import CatalogSearch.Proofs.Filter.Offences
import CatalogSearch.Proofs.Service.Limits
import CatalogSearch.Proofs.Forms.Values
import CatalogSearch.Proofs.Forms.Annotations
import CatalogSearch.Proofs.Forms.RoundTrip
import CatalogSearch.Proofs.Annotations.Stages
import CatalogSearch.Proofs.Sorting.Criteria
import CatalogSearch.Proofs.Facets
import CatalogSearch.Proofs.Service.ContentTypes
import CatalogSearch.Proofs.Filter.Moments
import CatalogSearch.Proofs.Filter.Operands
import CatalogSearch.Proofs.Document
import CatalogSearch.Proofs.Filter.Findings
import CatalogSearch.Proofs.Config
import CatalogSearch.Proofs.Hits
