import RecDtn.Agent.Crossing
import RecDtn.Agent.Group
import RecDtn.Agent.IdKeeper
import RecDtn.Agent.Retrieval
import RecDtn.Bpv7.BlockNumbers
import RecDtn.Bpv7.BundleIdText
import RecDtn.Bpv7.FragmentCoverage
import RecDtn.Bpv7.MapOrder
import RecDtn.Bpv7.PartialAgreement
import RecDtn.Cla.Addresses
import RecDtn.Cla.Mtcp
import RecDtn.Discovery.Announcement
import RecDtn.Processing.ForwardingAsync
import RecDtn.Rec.Client
import RecDtn.Rec.Collection
import RecDtn.Rec.Datastore
import RecDtn.Rec.Discovery
import RecDtn.Rec.Framing
import RecDtn.Rec.JobQuery
import RecDtn.Rec.JobQueue
import RecDtn.Rec.JobRun
import RecDtn.Rec.Placement
import RecDtn.Rec.Receiving
import RecDtn.Rec.Supply
import RecDtn.Rec.Wakeup
import RecDtn.Routing.Relay
import RecDtn.Routing.SpraySelection
import RecDtn.Store.Expiry
import RecDtn.Store.Restart
import RecDtn.Store.Retention
