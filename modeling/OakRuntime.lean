import OakRuntime.Label
import OakRuntime.State
import OakRuntime.Handles
import OakRuntime.Channels
import OakRuntime.Nodes
import OakRuntime.Run
import OakRuntime.Failure
import OakRuntime.Effects
import OakRuntime.Fifo
import OakRuntime.Flow
import OakRuntime.Identity
import OakRuntime.Waiting
import OakRuntime.Wraparound
import OakRuntime.Events
import OakRuntime.Confinement
import OakRuntime.Isolation
import OakRuntime.Noninterference
import OakRuntime.Agreement
import OakRuntime.Census
import OakRuntime.Sections
import OakRuntime.Threads
import OakRuntime.Wakeups
import OakRuntime.Deadlock
import OakRuntime.Ledger
import OakRuntime.Serial
import OakRuntime.Journal
import OakRuntime.Lifecycle
import OakRuntime.Lifetime
import OakRuntime.ChannelEvents
import OakRuntime.Orphans
