import RecDtn.Store.Lifecycle

/-! Goroutines that take a bundle through the pipeline. -/

namespace RecDtn.Processing

open Lang Bpv7 Store

/-- How far `forwardingAsync` has come. It is about to add `ForwardPending`, to
remove `DispatchPending`, to ask the routing algorithm for peers, to reset the
constraints, or to send to these peers; without peers left, to remove
`ForwardPending`. -/
inductive Stage where
  | spawned
  | marked
  | released
  | contraindicated
  | sending (peers : List EndpointID)

/-- The first constraint step is done, and the last one is not. -/
def Stage.inPipeline : Stage → Bool
  | .spawned => false
  | _ => true

structure ForwardingRun where
  ref : Ref
  stage : Stage

/-- A call to `DispatchPending`: the descriptors that `GetDispatchable` has not
looked at yet, and those to be forwarded. -/
structure Dispatch where
  unchecked : List Ref
  bndls : List Ref

variable [Sha256] [Badgerhold]

/-- The store, and the goroutines between their steps. -/
structure Pipeline where
  store : BundleStore
  received : List Ref
  dispatches : List Dispatch
  runs : List ForwardingRun

/-- The steps of `receiveAsync`, `DispatchPending` and `forwardingAsync`, and
what else goes on in the store. The peers are the routing algorithm's choice,
which may come with the bundle. -/
inductive Event where
  | receive (bundle : Bundle) (faults : Faults)
  | checkReceived (position : Nat)
  | beginDispatch (order : RangeOrder Ref)
  | checkDispatch (position : Nat)
  | spawn (position : Nat)
  | addForwardPending (position : Nat)
  | removeDispatchPending (position : Nat)
  | selectPeers (position : Nat) (forwardToPeers : List EndpointID)
    (bundle : Option Bundle) (now : Time)
  | forwardToPeer (position : Nat) (peer : EndpointID) (sent : Bool) (faults : Faults)
  | removeForwardPending (position : Nat)
  | resetConstraints (position : Nat)
  | setMiscData (ref : Ref) (key : String) (value : UInt64) (faults : Faults)
  | garbageCollect (order : RangeOrder Ref) (now : Time)
  | deleteBundle (position : Nat) (faults : Faults)

namespace Pipeline

def start (nodeID : EndpointID) : Pipeline := ⟨.empty nodeID, [], [], []⟩

variable (pipeline : Pipeline)

/-- What `receiveAsync` asks about a descriptor. -/
def dispatchPending (ref : Ref) : Bool :=
  match pipeline.store.descriptors[ref]? with
  | none => false
  | some bd => (bd.hasConstraint Constraint.dispatchPending).toOption.getD false

/-- What `GetDispatchable` asks about a descriptor. -/
def dispatchable (ref : Ref) : Bool :=
  match pipeline.store.descriptors[ref]? with
  | none => false
  | some bd => bd.dispatchable

/-- A run goes on at another stage, or it ends. -/
def withRun (position : Nat) (ref : Ref) : Option Stage → Pipeline
  | none => { pipeline with runs := pipeline.runs.eraseIdx position }
  | some stage => { pipeline with runs := pipeline.runs.set position ⟨ref, stage⟩ }

/-- A step of a run on the constraints; an error ends the run. -/
def constrain (position : Nat) (ref : Ref) (operation : Operation) (next : Option Stage) : Pipeline :=
  let performed := pipeline.store.perform ref operation
  { pipeline with store := performed.2 }.withRun position ref
    (next.filter fun _ => performed.1.toBool)

def step [Cboring] [Crc16] [Ed25519] (pipeline : Pipeline) : Event → Pipeline
  | .receive bundle faults =>
    let inserted := pipeline.store.insertBundle faults bundle
    { pipeline with store := inserted.2, received := pipeline.received ++ inserted.1.toOption.toList }
  | .checkReceived position =>
    match pipeline.received[position]? with
    | none => pipeline
    | some ref =>
      { pipeline with
        received := pipeline.received.eraseIdx position
        runs := pipeline.runs ++ if pipeline.dispatchPending ref then [⟨ref, .spawned⟩] else [] }
  | .beginDispatch order =>
    { pipeline with
      dispatches := pipeline.dispatches ++
        [⟨order.visit (pipeline.store.bundles.entries.map Sigma.snd), []⟩] }
  | .checkDispatch position =>
    match pipeline.dispatches[position]? with
    | some ⟨ref :: unchecked, bndls⟩ =>
      { pipeline with
        dispatches := pipeline.dispatches.set position
          ⟨unchecked, bndls ++ if pipeline.dispatchable ref then [ref] else []⟩ }
    | _ => pipeline
  | .spawn position =>
    match pipeline.dispatches[position]? with
    | some ⟨[], ref :: bndls⟩ =>
      { pipeline with
        dispatches := pipeline.dispatches.set position ⟨[], bndls⟩
        runs := pipeline.runs ++ [⟨ref, .spawned⟩] }
    | _ => pipeline
  | .addForwardPending position =>
    match pipeline.runs[position]? with
    | some ⟨ref, .spawned⟩ =>
      pipeline.constrain position ref (.addConstraint Constraint.forwardPending) (some .marked)
    | _ => pipeline
  | .removeDispatchPending position =>
    match pipeline.runs[position]? with
    | some ⟨ref, .marked⟩ =>
      pipeline.constrain position ref (.removeConstraint Constraint.dispatchPending) (some .released)
    | _ => pipeline
  | .selectPeers position forwardToPeers bundle now =>
    match pipeline.runs[position]? with
    | some ⟨ref, .released⟩ =>
      if forwardToPeers.isEmpty then pipeline.withRun position ref (some .contraindicated)
      else if bundle.isSome || (pipeline.store.load now ref).toBool then
        pipeline.withRun position ref (some (.sending forwardToPeers))
      else pipeline.withRun position ref none
    | _ => pipeline
  | .forwardToPeer position peer sent faults =>
    match pipeline.runs[position]? with
    | some ⟨ref, .sending peers⟩ =>
      if peer ∈ peers then
        { pipeline with
          store := if sent then (pipeline.store.addKnownHolder faults ref [peer]).2 else pipeline.store
        }.withRun position ref (some (.sending (peers.erase peer)))
      else pipeline
    | _ => pipeline
  | .removeForwardPending position =>
    match pipeline.runs[position]? with
    | some ⟨ref, .sending []⟩ =>
      pipeline.constrain position ref (.removeConstraint Constraint.forwardPending) none
    | _ => pipeline
  | .resetConstraints position =>
    match pipeline.runs[position]? with
    | some ⟨ref, .contraindicated⟩ => pipeline.constrain position ref .resetConstraints none
    | _ => pipeline
  | .setMiscData ref key value faults =>
    { pipeline with store := (pipeline.store.setMiscData faults ref key value).2 }
  | .garbageCollect order now => { pipeline with store := pipeline.store.garbageCollect order now }
  | .deleteBundle position faults =>
    { pipeline with store := pipeline.store.deleteBundle faults position }

/-- At most one run of a descriptor is in the pipeline. -/
def AtMostOneRun (pipeline : Pipeline) : Prop :=
  ∀ ref, (pipeline.runs.filter fun run => run.ref == ref && run.stage.inPipeline).length ≤ 1

/-- The descriptors that are to be forwarded, and those being forwarded. -/
def tokens : List Ref := (pipeline.dispatches.flatMap Dispatch.bndls) ++
    pipeline.runs.map ForwardingRun.ref

/-- No goroutine has decided to forward the bundle without having marked it. -/
def Undecided (ref : Ref) : Prop :=
  (∀ dispatch ∈ pipeline.dispatches, ref ∉ dispatch.bndls) ∧
    ∀ run ∈ pipeline.runs, run.ref = ref → run.stage ≠ .spawned

/-- A descriptor is found ready only if no other decision to forward it is on
the way to its mark. A reception asks for `DispatchPending`, which is not
removed until the step after the mark. -/
def ReadGuard (pipeline : Pipeline) : Event → Prop
  | .checkReceived position => ∀ ref, pipeline.received[position]? = some ref →
      pipeline.dispatchPending ref = true →
      pipeline.Undecided ref ∧ ∀ run ∈ pipeline.runs, run.ref = ref → run.stage ≠ .marked
  | .checkDispatch position => ∀ ref unchecked bndls,
      pipeline.dispatches[position]? = some ⟨ref :: unchecked, bndls⟩ →
      pipeline.dispatchable ref = true → pipeline.Undecided ref
  | _ => True

end Pipeline

end RecDtn.Processing
