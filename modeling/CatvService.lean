import CatvService.Library.Dict
import CatvService.Submission.CsvUpload
import CatvService.Library.Text
import CatvService.Library.Search
import CatvService.Library.Value
import CatvService.Pipeline.ExchangeFilter
import CatvService.Library.Runs
import CatvService.Tracking.FetchResults
import CatvService.Credits.ApiUsage
import CatvService.Submission.CatvRequest
import CatvService.Graph.Nodes
import CatvService.Graph.Edges
import CatvService.Graph.Report
import CatvService.GraphQL.Query
import CatvService.GraphQL.Flatten
import CatvService.GraphQL.Swap
import CatvService.GraphQL.Endpoint
import CatvService.GraphQL.DepthLimit
import CatvService.GraphQL.ReversedSwap
import CatvService.GraphQL.SwapRows
import CatvService.Tracer.Swaps
import CatvService.Pipeline.SwapRows
import CatvService.Pipeline.Coinpath
import CatvService.Pipeline.CkQuery
import CatvService.Pipeline.VictimLeg
import CatvService.Graph.Aggregation
import CatvService.Graph.SourceSide
import CatvService.Labels.NodeLabel
import CatvService.Labels.Interleaving
import CatvService.Library.Regex
import CatvService.Validation.TokenPatterns
import CatvService.Validation.PublicQuery
import CatvService.Graph.Paths
import CatvService.Reports.WalletTotals
import CatvService.Pipeline.MixedUpstreams
import CatvService.Submission.Resubmission
import CatvService.Pipeline.GraphFilters
import CatvService.Graph.Greedy
import CatvService.Graph.CoinpathSide
import CatvService.Graph.HopLevels
import CatvService.Graph.Annotations
import CatvService.Graph.NodeEnum
import CatvService.Library.Csv
import CatvService.Reports.CsvLabels
import CatvService.Reports.MultiReport
import CatvService.GraphQL.Transfers
import CatvService.Pipeline.RowAnnotations
import CatvService.Pipeline.VictimCase
import CatvService.Credits.RateLookup
import CatvService.Validation.TokenParameter
import CatvService.Submission.CsvCleaning
import CatvService.Tracer.Recommendations
import CatvService.Tracking.UpstreamQuestion
import CatvService.Tracer.NestedRequests
import CatvService.GraphQL.CallTree
import CatvService.GraphQL.SwapDepths
import CatvService.Library.Retry
import CatvService.Rpc.RetryDecorators
import CatvService.Rpc.UsageConsumer
import CatvService.Cache.PasswordReset
import CatvService.Pipeline.AnnotationBatches
import CatvService.Submission.Admission
import CatvService.Graph.NodeDiscovery
import CatvService.Reports.DepthBreakdown
import CatvService.Library.Checksum
import CatvService.Validation.Bech32
import CatvService.Validation.Segwit
import CatvService.Graph.Conservation
import CatvService.Validation.AddressCheck
import CatvService.Labels.LabelMap
import CatvService.Reports.ReportView
import CatvService.Auth.Sessions
import CatvService.Library.Noninterference
import CatvService.Submission.Isolation
import CatvService.Credits.ReportLink
import CatvService.Pipeline.Indicators
import CatvService.Cache.OneTimeKeys
import CatvService.Pipeline.Response
import CatvService.Submission.Repetition
