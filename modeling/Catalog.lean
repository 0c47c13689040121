import Catalog.Config.Basic
import Catalog.Config.Load
import Catalog.Decode.Basic
import Catalog.Decode.Error
import Catalog.Facet.Kind
import Catalog.Facet.Latest
import Catalog.Http.Form
import Catalog.Http.Query
import Catalog.Http.Route
import Catalog.Http.Target
import Catalog.Json.Basic
import Catalog.Json.Binary64
import Catalog.Json.Read
import Catalog.Json.Write
import Catalog.Lineage.Statistics
import Catalog.Proofs.ConfigRules
import Catalog.Proofs.Federated
import Catalog.Proofs.LatestFacets
import Catalog.Proofs.LenientNames
import Catalog.Proofs.LineageSets
import Catalog.Proofs.Paging
import Catalog.Proofs.QueryParameters
import Catalog.Proofs.Split
import Catalog.Proofs.StatisticsDocument
import Catalog.Proofs.SubstringPattern
import Catalog.Proofs.Utf8Order
import Catalog.Result.Basic
import Catalog.Result.Dataset
import Catalog.Result.Job
import Catalog.Result.Simple
import Catalog.Schema.Files
import Catalog.Schema.Include
import Catalog.Search.Federated
import Catalog.Search.Kind
import Catalog.Search.Pattern
import Catalog.Search.Request
import Catalog.Search.Split
import Catalog.Search.Sql
import Catalog.Service.Error
import Catalog.Text.Ascii
import Catalog.Text.Blank
import Catalog.Text.Printable
import Catalog.Text.Utf8
import Catalog.Time.Calendar
import Catalog.Time.Timestamp
import Catalog.Toml.Document
import Catalog.Toml.Parse
import Catalog.Toml.Scalar
import Catalog.Uuid
