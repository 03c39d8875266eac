import Aivtuber.Scheduler.LiveIndex
import Aivtuber.Scheduler.Polling
import Aivtuber.App.OperatorControl
import Aivtuber.Domain.TaskLifetime
import Aivtuber.App.BudgetSlots
import Aivtuber.App.BudgetReserve
import Aivtuber.App.BudgetSnapshot
import Aivtuber.App.IngressPump
import Aivtuber.App.TemplateInjection
import Aivtuber.Runtime.ControlAuthority
import Aivtuber.App.GenerationQuiescence
import Aivtuber.App.ShadowAdmission
import Aivtuber.App.ShadowChains
import Aivtuber.AssetStore.Compatibility
import Aivtuber.Scheduler.ReplayOrder
import Aivtuber.Scheduler.ReplaySinks
import Aivtuber.Adaptation.Egress
import Aivtuber.App.LivePlayout
import Aivtuber.Reference.EventBus
import Aivtuber.Reference.Scheduler
import Aivtuber.Scripts.BenchmarkRecord
import Aivtuber.App.SidecarMirror
import Aivtuber.Adapters.Sessions
import Aivtuber.Domain.DateTimeGrammar
import Aivtuber.Scheduler.QueueLoop
import Aivtuber.Scheduler.Spacing
import Aivtuber.App.TaskSweep
import Aivtuber.Scripts.SourceDigest
import Aivtuber.AssetStore.ByteBudget
import Aivtuber.Runtime.PlaybackSlot
import Aivtuber.Runtime.RecentVariants
import Aivtuber.Reflex.Menu
import Aivtuber.App.RecallBudget
import Aivtuber.Adaptation.RefusedWrites
import Aivtuber.Adaptation.LinkedRecall
import Aivtuber.Adaptation.LeadingCorrections
import Aivtuber.Adaptation.TopicRoundTrip
import Aivtuber.Adaptation.PromotionBooks
import Aivtuber.Telemetry.BaselineTargets
import Aivtuber.Telemetry.ExactGate
import Aivtuber.Domain.ScenarioActors
import Aivtuber.App.ToolExecution
import Aivtuber.Domain.ScenarioDraws
import Aivtuber.Adapters.HindsightTime
import Aivtuber.App.MemoryAgreement
import Aivtuber.App.ModerationEvidence
import Aivtuber.Hardening.ScenarioSoak
import Aivtuber.Adapters.Rejections
import Aivtuber.App.SupportBundle
import Aivtuber.Generative.Streaming
import Aivtuber.Generative.Pipeline
import Aivtuber.App.SemanticIndex
import Aivtuber.App.TaskTrail
