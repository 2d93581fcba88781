import MeteringBilling.BillingApi
import MeteringBilling.Library.Expiry
import MeteringBilling.Proofs.Access
import MeteringBilling.Proofs.Acknowledgement
import MeteringBilling.Proofs.Alone
import MeteringBilling.Proofs.Attribution
import MeteringBilling.Proofs.CacheCoherence
import MeteringBilling.Proofs.CachedReplies
import MeteringBilling.Proofs.CachedTenants
import MeteringBilling.Proofs.CanceledAt
import MeteringBilling.Proofs.Cancellation
import MeteringBilling.Proofs.ChargedMonth
import MeteringBilling.Proofs.Checkout
import MeteringBilling.Proofs.CheckoutOverlap
import MeteringBilling.Proofs.Completion
import MeteringBilling.Proofs.ConcurrentIsolation
import MeteringBilling.Proofs.ConnectionAttempts
import MeteringBilling.Proofs.Deduplication
import MeteringBilling.Proofs.DeliveryOrder
import MeteringBilling.Proofs.ExactAdmission
import MeteringBilling.Proofs.ExactLimiter
import MeteringBilling.Proofs.ExactlyOnce
import MeteringBilling.Proofs.GatewayTraffic
import MeteringBilling.Proofs.HardQuota
import MeteringBilling.Proofs.Invoices
import MeteringBilling.Proofs.Isolation
import MeteringBilling.Proofs.KeyFormat
import MeteringBilling.Proofs.KeyVerification
import MeteringBilling.Proofs.KnownCustomers
import MeteringBilling.Proofs.LostAccess
import MeteringBilling.Proofs.MonthlyBill
import MeteringBilling.Proofs.OneAnswer
import MeteringBilling.Proofs.Overshoot
import MeteringBilling.Proofs.PasswordRedaction
import MeteringBilling.Proofs.PlanPrice
import MeteringBilling.Proofs.PriceAgreement
import MeteringBilling.Proofs.RateWindow
import MeteringBilling.Proofs.Reconciliation
import MeteringBilling.Proofs.Replay
import MeteringBilling.Proofs.ReportSnapshot
import MeteringBilling.Proofs.ReportedQuota
import MeteringBilling.Proofs.RetryAfter
import MeteringBilling.Proofs.RetryCount
import MeteringBilling.Proofs.RoundingDrift
import MeteringBilling.Proofs.SerialDeliveries
import MeteringBilling.Proofs.SerialUpdates
import MeteringBilling.Proofs.SettledParameters
import MeteringBilling.Proofs.StripeCustomer
import MeteringBilling.Proofs.StripeSessions
import MeteringBilling.Proofs.TokenBreakdowns
import MeteringBilling.Proofs.TokenPool
import MeteringBilling.Proofs.TransientErrors
import MeteringBilling.Proofs.Usage
import MeteringBilling.Proofs.VisibleChanges
import MeteringBilling.Proofs.WebhookFrame
import MeteringBilling.Service
