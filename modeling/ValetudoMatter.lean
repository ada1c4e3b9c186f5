import ValetudoMatter.Theorems.SseFraming
import ValetudoMatter.Theorems.Capabilities
import ValetudoMatter.Theorems.Notifications
import ValetudoMatter.Theorems.CurrentMode
import ValetudoMatter.Theorems.SupportedModes
import ValetudoMatter.Theorems.StatusUpdates
import ValetudoMatter.Theorems.CleanModeCache
import ValetudoMatter.Theorems.LastRunMode
import ValetudoMatter.Theorems.Areas
import ValetudoMatter.Theorems.Identify
import ValetudoMatter.Theorems.Resume
import ValetudoMatter.Theorems.Snapshots
import ValetudoMatter.Theorems.Netif
import ValetudoMatter.Theorems.VersionedCell
import ValetudoMatter.Theorems.Client
import ValetudoMatter.Theorems.SseTurns
import ValetudoMatter.Theorems.Wire
import ValetudoMatter.Theorems.Replies
import ValetudoMatter.Theorems.Versions
import ValetudoMatter.Theorems.Independence
import ValetudoMatter.Theorems.Recovery
import ValetudoMatter.Theorems.Orders
import ValetudoMatter.Theorems.Init
import ValetudoMatter.Theorems.Pacing
import ValetudoMatter.Theorems.Delivery
import ValetudoMatter.Theorems.Answers
