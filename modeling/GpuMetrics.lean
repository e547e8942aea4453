import GpuMetrics.Collector.Delivery
import GpuMetrics.Command.Simulation
import GpuMetrics.Main
import GpuMetrics.Proofs.Keyed
import GpuMetrics.Proofs.Session
import GpuMetrics.Proofs.Table
import GpuMetrics.Proofs.Resolution
import GpuMetrics.Proofs.Families
import GpuMetrics.Proofs.Scrape
import GpuMetrics.Proofs.Resolved
import GpuMetrics.Proofs.Emission
import GpuMetrics.Proofs.Harvest
import GpuMetrics.Proofs.Health
import GpuMetrics.Proofs.StartFailure
import GpuMetrics.Proofs.Handout
import GpuMetrics.Proofs.Description
import GpuMetrics.Proofs.Series
import GpuMetrics.Proofs.Overlay
import GpuMetrics.Proofs.Setting
import GpuMetrics.Proofs.Layers
import GpuMetrics.Proofs.Options
import GpuMetrics.Proofs.Precedence
import GpuMetrics.Proofs.FixedNames
import GpuMetrics.Proofs.ShellWords
import GpuMetrics.Proofs.Tool
import GpuMetrics.Proofs.Routing
import GpuMetrics.Proofs.Course
import GpuMetrics.Proofs.Ending
import GpuMetrics.Proofs.Trimming
import GpuMetrics.Proofs.Answers
import GpuMetrics.Proofs.Headers
import GpuMetrics.Proofs.Reachable
import GpuMetrics.Proofs.Numerals
import GpuMetrics.Proofs.Cells
import GpuMetrics.Proofs.Rendering
import GpuMetrics.Proofs.SnakeCase
import GpuMetrics.Proofs.SmallLetters
import GpuMetrics.Proofs.Underscores
import GpuMetrics.Proofs.HeaderNames
import GpuMetrics.Proofs.Clock
import GpuMetrics.Proofs.Watch
import GpuMetrics.Proofs.Polling
import GpuMetrics.Proofs.Paths
import GpuMetrics.Proofs.Masks
import GpuMetrics.Proofs.HelpText
import GpuMetrics.Proofs.Offers
import GpuMetrics.Proofs.Delivery
import GpuMetrics.Proofs.Requests
import GpuMetrics.Proofs.Addresses
import GpuMetrics.Proofs.Placeholders
