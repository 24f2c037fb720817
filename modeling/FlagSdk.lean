import FlagSdk.Async.Promise
import FlagSdk.BigSegments.MembershipCache
import FlagSdk.BigSegments.StoreWrapper
import FlagSdk.Client.CachedContexts
import FlagSdk.Client.ChangeNotifications
import FlagSdk.Client.Completion
import FlagSdk.Client.DecoderExceptions
import FlagSdk.Client.Isolation
import FlagSdk.Client.Variation
import FlagSdk.Data.CanonicalKey
import FlagSdk.Evaluation.Instants
import FlagSdk.Evaluation.NumericAttributes
import FlagSdk.Evaluation.Rollouts
import FlagSdk.Evaluation.TextPrecedence
import FlagSdk.Events.Conservation
import FlagSdk.Events.ContextKeys
import FlagSdk.Events.Exactness
import FlagSdk.Events.WorkerLifecycle
import FlagSdk.Fdv2.AllOrNothing
import FlagSdk.Fdv2.Closing
import FlagSdk.Fdv2.ConditionFutures
import FlagSdk.Fdv2.OffState
import FlagSdk.Fdv2.PollingSynchronizer
import FlagSdk.Fdv2.Readiness
import FlagSdk.Fdv2.ResultHandOff
import FlagSdk.Fdv2.Rotation
import FlagSdk.LazyLoad.RateLimiting
import FlagSdk.Notifier.ChangeSets
import FlagSdk.Notifier.Convergence
import FlagSdk.Persistence.CorruptItems
import FlagSdk.Polling.Etag
import FlagSdk.Polling.StatusRecovery
import FlagSdk.Server.EventHandler
import FlagSdk.Server.PrerequisiteListing
import FlagSdk.Sse.Conformance
import FlagSdk.Sse.Reconnects
import FlagSdk.Sse.Restart
import FlagSdk.Sse.Resumption
