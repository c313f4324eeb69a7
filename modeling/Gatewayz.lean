import Gatewayz.Correctness.DuplicateReports
import Gatewayz.Correctness.AllowanceRefills
import Gatewayz.Correctness.SupersededSubscription
import Gatewayz.Correctness.FailedDeduction
import Gatewayz.Correctness.NoLostUpdate
import Gatewayz.Correctness.PaidMeansCredited
import Gatewayz.Correctness.OutcomeFinal
import Gatewayz.Correctness.FirstTopupBonus
import Gatewayz.Correctness.WebhookOrder
import Gatewayz.Correctness.RefusedKeepsQuota
import Gatewayz.Correctness.RefusedNotCharged
import Gatewayz.Correctness.SlotReleased
import Gatewayz.Correctness.PrecheckSound
import Gatewayz.Correctness.EventStream
import Gatewayz.Correctness.MessageAgrees
import Gatewayz.Correctness.WholeAnswer
import Gatewayz.Correctness.DoubleTranslation
import Gatewayz.Correctness.StreamAccounting
import Gatewayz.Correctness.PlanLimitsExact
import Gatewayz.Correctness.LocalCatalogEpoch
import Gatewayz.Correctness.PriceRefreshAgrees
import Gatewayz.Correctness.PriceCopiesAgree
import Gatewayz.Correctness.DelistingSurvives
import Gatewayz.Correctness.ParametersForwarded
import Gatewayz.Correctness.GateExact
import Gatewayz.Correctness.UserCacheFresh
import Gatewayz.Correctness.LegacyConvertedOnce
import Gatewayz.Correctness.NamedKey
import Gatewayz.Correctness.QuotaExact
import Gatewayz.Correctness.GrantLimit
import Gatewayz.Correctness.SignInIdentity
import Gatewayz.Correctness.PeerLimit
import Gatewayz.Correctness.OwnKeyDiscount
import Gatewayz.Correctness.BurstAgrees
import Gatewayz.Correctness.ManagerLimits
import Gatewayz.Correctness.EndpointLimits
import Gatewayz.Correctness.NormalizedStream
import Gatewayz.Correctness.StreamCharged
import Gatewayz.Correctness.NativeStream
import Gatewayz.Correctness.HonestHint
import Gatewayz.Correctness.DoubleEntry
import Gatewayz.Correctness.CleanReport
import Gatewayz.Correctness.FallbackRefill
import Gatewayz.Correctness.AllowanceFirst
import Gatewayz.Correctness.DailyUsage
import Gatewayz.Correctness.TrackedKeys
import Gatewayz.Correctness.ResetTakesEffect
import Gatewayz.Correctness.FailoverChain
import Gatewayz.Correctness.ProviderLocks
import Gatewayz.Correctness.AvailableProviders
import Gatewayz.Correctness.MaintenanceLasts
import Gatewayz.Correctness.CanonicalIdentity
import Gatewayz.Correctness.PricingPathsAgree
import Gatewayz.Correctness.BorrowedPrices
import Gatewayz.Correctness.PooledClients
import Gatewayz.Correctness.CompletionsAnswered
import Gatewayz.Correctness.CleanAudit
import Gatewayz.Correctness.HonestRanking
import Gatewayz.Correctness.OffersMirror
import Gatewayz.Correctness.RealOffers
import Gatewayz.Correctness.VertexContents
import Gatewayz.Correctness.CompletedTurns
import Gatewayz.Correctness.PricedSpelling
import Gatewayz.Correctness.LimitsRoundTrip
import Gatewayz.Correctness.AutoRoutingSafe
import Gatewayz.Correctness.FaithfulHistory
