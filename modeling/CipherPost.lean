import CipherPost.Parsing.SeqWrap
import CipherPost.Parsing.ReassemblySound
import CipherPost.Infra.Framing
import CipherPost.Parsing.RecordLayer
import CipherPost.Parsing.StarttlsSplit
import CipherPost.Parsing.HandshakeMessages
import CipherPost.Parsing.LateBytes
import CipherPost.Parsing.HelloRoundtrip
import CipherPost.Parsing.CertificateRoundtrip
import CipherPost.Live.MaxSeverity
import CipherPost.Live.GroupAlert
import CipherPost.Live.Coverage
import CipherPost.Live.Publication
import CipherPost.Live.Grouping
import CipherPost.Live.Isolation
import CipherPost.Api.TokenScope
import CipherPost.Live.SessionId
import CipherPost.Live.Retention
import CipherPost.Api.LiveFeed
import CipherPost.Services.Tenancy
import CipherPost.Parsing.SessionAnalysis
import CipherPost.Agent.Metadata
import CipherPost.Agent.Shipping
import CipherPost.Agent.CrashSafety
import CipherPost.Live.Redelivery
import CipherPost.Ml.Retraining
import CipherPost.Live.ExpirySweep
import CipherPost.Reporting.Evidence
import CipherPost.Parsing.PlaintextPorts
import CipherPost.Agent.Replay
import CipherPost.Live.Suppressed
import CipherPost.Live.Persist
import CipherPost.Api.ReportSource
import CipherPost.Live.BufferCap
import CipherPost.Live.IdleTimeout
import CipherPost.Live.PortReuse
import CipherPost.Agent.SenderHalf
import CipherPost.Live.ClientRole
import CipherPost.Services.SessionColumns
import CipherPost.Services.JobRun
import CipherPost.Live.DedupMarks
import CipherPost.Live.Digest
import CipherPost.Live.Capture
import CipherPost.Api.UserChanges
import CipherPost.Api.SecondFactor
import CipherPost.Api.TenantAdmin
import CipherPost.Api.Denylist
import CipherPost.Core.SingleUse
import CipherPost.Api.SessionVersion
import CipherPost.Api.RecoveryRace
import CipherPost.Core.OidcState
import CipherPost.Core.OidcKeys
import CipherPost.Live.Baseline
import CipherPost.Live.Scoring
import CipherPost.Live.Regression
import CipherPost.Parsing.ClientHelloRoundtrip
import CipherPost.Parsing.CertVisibility
import CipherPost.Proactive.MtaSts
import CipherPost.Proactive.DomainPosture
import CipherPost.Proactive.TransportMismatch
import CipherPost.Parsing.CipherVerdicts
import CipherPost.Live.RateParity
import CipherPost.Live.GroupRuns
import CipherPost.Live.PublisherRuns
import CipherPost.Live.RawStore
import CipherPost.Live.RawRefs
import CipherPost.Live.RawPurge
import CipherPost.Live.Routing
import CipherPost.Live.SessionRefs
import CipherPost.Live.FlowTotals
import CipherPost.Agent.Draining
import CipherPost.Parsing.Ja4
import CipherPost.Parsing.Ja4Grease
import CipherPost.Api.KeyExpiry
import CipherPost.Ml.CandidateMetrics
import CipherPost.Ml.RegistryRuns
import CipherPost.Ml.TrainingRecord
import CipherPost.Infra.Groups
import CipherPost.Ml.AnalystDataset
import CipherPost.Infra.Ranking
import CipherPost.Ml.Splits
import CipherPost.Infra.JsonRead
import CipherPost.Infra.PyJson
import CipherPost.Reporting.BundleJson
import CipherPost.Core.LoginLock
import CipherPost.Core.LoginWindows
import CipherPost.Parsing.DecodeEnds
import CipherPost.Parsing.Ja4Alpn
import CipherPost.Proactive.HonestStatus
import CipherPost.Live.TransportSweep
import CipherPost.Proactive.Rfc8461
import CipherPost.Proactive.ScopeAlgebra
import CipherPost.Parsing.RuleSeverities
import CipherPost.Cli.Filters
import CipherPost.Cli.ExitStatus
import CipherPost.Cli.SuppressionFile
import CipherPost.Cli.Sarif
import CipherPost.Infra.Paging
import CipherPost.Api.Pagination
import CipherPost.Api.FlowHistory
import CipherPost.Infra.Quads
import CipherPost.Api.MaskAddresses
import CipherPost.Scripts.IssueBundle
import CipherPost.Proactive.TtlCache
import CipherPost.Parsing.TlsScan
import CipherPost.Live.PayloadRoundtrip
import CipherPost.Agent.MetadataPrivacy
import CipherPost.Agent.PinCheck
import CipherPost.Parsing.ChainHostname
import CipherPost.Api.Feedback
import CipherPost.Scripts.ExportLabels
import CipherPost.Scripts.ConfigSecrets
import CipherPost.Api.AgentTokens
import CipherPost.Api.AuditTrail
import CipherPost.Core.MfaLock
import CipherPost.Parsing.CorpusLabels
import CipherPost.Infra.Glob
import CipherPost.Infra.Keyed
import CipherPost.Proactive.Compliance
import CipherPost.Api.ComplianceSummary
import CipherPost.Services.MappedFindings
