import TrusteeBank.Api.Attestations
import TrusteeBank.Api.BodyHashes
import TrusteeBank.Api.ClearAccounts
import TrusteeBank.Api.ClientSeparation
import TrusteeBank.Api.CurrentRights
import TrusteeBank.Api.DoubleSubmit
import TrusteeBank.Api.Gateway
import TrusteeBank.Api.MakerChecker
import TrusteeBank.Api.PasswordResets
import TrusteeBank.Api.RateLimitGuard
import TrusteeBank.Api.Replay
import TrusteeBank.Api.RequestSignatures
import TrusteeBank.Api.SecondFactor
import TrusteeBank.Api.TokenTexts
import TrusteeBank.CanonicalTexts
import TrusteeBank.Feed.Order
import TrusteeBank.Feed.OwnLiability
import TrusteeBank.JournalEntries
import TrusteeBank.Lib.Interleave
import TrusteeBank.Lib.Tally
import TrusteeBank.Mint.ActivePrograms
import TrusteeBank.Mint.ApprovalMatrix
import TrusteeBank.Mint.Approvals
import TrusteeBank.Mint.Artifacts
import TrusteeBank.Mint.BankConnectivity
import TrusteeBank.Mint.Confirmations
import TrusteeBank.Mint.Crashes
import TrusteeBank.Mint.Earmark
import TrusteeBank.Mint.Expiry
import TrusteeBank.Mint.FeedFreshness
import TrusteeBank.Mint.Release
import TrusteeBank.Mint.SingleUse
import TrusteeBank.Paykh.BankTransactions
import TrusteeBank.Paykh.Certification
import TrusteeBank.Paykh.ChainCalls
import TrusteeBank.Paykh.ChainFailure
import TrusteeBank.Paykh.ChainSupply
import TrusteeBank.Paykh.CounterUpdates
import TrusteeBank.Paykh.FundCounters
import TrusteeBank.Paykh.Isolation
import TrusteeBank.Paykh.LoyaltyBacking
import TrusteeBank.Paykh.MerchantStatus
import TrusteeBank.Paykh.OneBooking
import TrusteeBank.Paykh.Reconcile
import TrusteeBank.Paykh.StellarAmounts
import TrusteeBank.Paykh.TokenUnits
import TrusteeBank.Platform.ApprovalPolicies
import TrusteeBank.Platform.AuditTrail
import TrusteeBank.Platform.Bookings
import TrusteeBank.Platform.Controls
import TrusteeBank.Platform.DeadLetters
import TrusteeBank.Platform.Drift
import TrusteeBank.Platform.Overdraft
import TrusteeBank.Platform.Terminal
import TrusteeBank.Platform.TrialBalance
import TrusteeBank.Redemption.Coverage
import TrusteeBank.Reserve.AccountingEquation
import TrusteeBank.Reserve.Adjustments
import TrusteeBank.Reserve.BankTotals
import TrusteeBank.Reserve.Funding
import TrusteeBank.Reserve.Guard
import TrusteeBank.Reserve.Instructions
import TrusteeBank.Reserve.MovedOnce
import TrusteeBank.Reserve.Obligation
import TrusteeBank.Reserve.Policy
import TrusteeBank.Reserve.ProofOfReserve
import TrusteeBank.Reserve.Ratio
import TrusteeBank.Reserve.Registration
import TrusteeBank.Reserve.Safety
import TrusteeBank.Reserve.SnapshotRatio
import TrusteeBank.Reserve.TornPosition
import TrusteeBank.Services.ClientAdmin
import TrusteeBank.Services.CronLocks
import TrusteeBank.Services.RateLimits
import TrusteeBank.TotpSecrets
import TrusteeBank.Webhooks.Delivery
import TrusteeBank.Webhooks.Headers
import TrusteeBank.Webhooks.KeyRotation
import TrusteeBank.Webhooks.Replays
import TrusteeBank.Webhooks.Stored
