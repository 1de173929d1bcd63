import Hopper.Alloc.Params
import Hopper.Alloc.Resrc
import Hopper.Alloc.Mrc
import Hopper.Alloc.MrcQuery
import Hopper.Alloc.Tenant
import Hopper.Alloc.Offers
import Hopper.Alloc.Allocator
import Hopper.Alloc.Select
import Hopper.Alloc.Trade
import Hopper.Alloc.Harvest
import Hopper.Alloc.HarvestRun
import Hopper.Alloc.Memshare
import Hopper.Alloc.Round
import Hopper.Alloc.MemshareRun
import Hopper.Alloc.Redistribute
import Hopper.Alloc.DoAlloc
import Hopper.Alloc.Guarantees
import Hopper.Alloc.Baseline
import Hopper.Alloc.Symmetry
import Hopper.Alloc.Session
import Hopper.DataPlane.Model
import Hopper.DataPlane.Inflight
import Hopper.DataPlane.Races
import Hopper.Ghost.Checkpoint
import Hopper.Ghost.Range
import Hopper.Ghost.MemEstimate
import Hopper.DataPlane.Load
import Hopper.DataPlane.Accounting
import Hopper.DataPlane.Resp
import Hopper.Ghost.Curve
import Hopper.DataPlane.Stats
import Hopper.Rate.Limiter
import Hopper.Rate.Throughput
import Hopper.DataPlane.MockFormat
import Hopper.DataPlane.Config
import Hopper.DataPlane.Control
