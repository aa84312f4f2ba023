import GridWay.Lib.Machine
import GridWay.Lib.Tally
import GridWay.Lib.Blind
import GridWay.Lib.CBuffer
import GridWay.Job.VarParser
import GridWay.Job.Substitute
import GridWay.Dm.Refine
import GridWay.Gwd.Step
import GridWay.Gwd.Frame
import GridWay.Gwd.Neutral
import GridWay.Gwd.Change
import GridWay.Gwd.Submit
import GridWay.Gwd.Recover
import GridWay.Gwd.Slots
import GridWay.Dm.Dispatches
import GridWay.Dm.Frame
import GridWay.Gwd.Users
import GridWay.Dm.Sides
import GridWay.Dm.Rows
import GridWay.Gwd.Above
import GridWay.Gwd.Blind
import GridWay.Gwd.Late
import GridWay.Gwd.Queues
import GridWay.Gwd.Cancels
import GridWay.Gwd.Migrations
import GridWay.Gwd.Prologs
import GridWay.Em.Frame
import GridWay.Gwd.Deferred
import GridWay.Gwd.Reload
import GridWay.Lib.Scan
import GridWay.Lib.Table
import GridWay.Mad.Effect
import GridWay.Sched.Integrity
import GridWay.Sched.Lists
import GridWay.Sched.Shortcut
import GridWay.Dm.Label
import GridWay.Gwd.Clients
import GridWay.Gwd.Restarts
import GridWay.Rm.Priority
import GridWay.Rm.Access
import GridWay.Drm4g.Callback
import GridWay.Drm4g.Contact
import GridWay.Drm4g.Framing
import GridWay.Drm4g.Fresh
import GridWay.Drm4g.Independent
import GridWay.Drm4g.Report
import GridWay.Drm4g.Responses
import GridWay.Drm4g.Terminal
import GridWay.Em.Limits
import GridWay.Em.Buffers
import GridWay.Im.Accounting
import GridWay.Im.Attributes
import GridWay.Im.Monitoring
import GridWay.Im.Scanner
import GridWay.Dagman.Node
import GridWay.Dagman.Order
import GridWay.Dagman.Progress
import GridWay.Drm4g.Communicators
import GridWay.Drm4g.Transfers
import GridWay.Drmaa.Daemon
import GridWay.Drmaa.Reap
import GridWay.Drmaa.Table
import GridWay.Lib.Exchange
import GridWay.Rm.Aligned
import GridWay.Drm4g.TmMad
import GridWay.Drm4g.Edits
import GridWay.Drm4g.Fork
import GridWay.Drmaa.Template
import GridWay.Drmaa.Placeholders
import GridWay.Drmaa.Submitted
import GridWay.Drm4g.Exact
import GridWay.Drm4g.Url
import GridWay.Drm4g.Usable
import GridWay.Drm4g.Status
import GridWay.Client.Wait
import GridWay.Dagman.Parse
import GridWay.Dagman.Written
import GridWay.Jt.Parser
import GridWay.Jt.Bounds
import GridWay.Jt.Order
import GridWay.Jt.Recovered
import GridWay.Lib.Lalr
import GridWay.Im.Layout
import GridWay.Im.Rank
import GridWay.Im.Report
import GridWay.Im.Reqs
import GridWay.Im.Syntax
import GridWay.Gwd.JobPool
import GridWay.Gwd.UserPool
import GridWay.Gwd.Arrays
import GridWay.Em.Times
import GridWay.Em.Retries
import GridWay.Dm.Lists
import GridWay.Sched.HostPolicy
import GridWay.Sched.JobPolicy
import GridWay.Tm.Flight
import GridWay.Sched.Pass
import GridWay.Sched.Round
import GridWay.Sched.Conserve
import GridWay.Sched.Excluded
import GridWay.Sched.Flood
import GridWay.Sched.Slots
import GridWay.Sched.Turns
import GridWay.Sched.Quotas
import GridWay.Sched.Select
