import RecDtn.Lang.Run
import RecDtn.Rec.Job
import RecDtn.Rec.Node

/-! Clients, and whether the reply that a call takes is a reply to it. -/

namespace RecDtn.Lang

variable {α : Type} {test other : α → Bool}

theorem filter_eraseP_self (items : List α) :
    (items.eraseP test).filter test = (items.filter test).tail := by
  induction items with
  | nil => rfl
  | cons item rest ih => cases passed : test item <;> simp [passed, ih]

theorem filter_eraseP_of_disjoint (items : List α)
    (apart : ∀ item, test item = true → other item = false) :
    (items.eraseP test).filter other = items.filter other := by
  induction items with
  | nil => rfl
  | cons item rest ih =>
    cases passed : test item with
    | true => simp [passed, apart item passed]
    | false => simp [passed, List.filter_cons, ih]

end RecDtn.Lang

namespace RecDtn.Rec

open Python Lang

section

variable [Unicode]

structure Client extends Node where
  pendingResponses : Dict BundleType (List BundleData) := .empty
  resultsDirectory : Dict Str (List UInt8) := .empty
  running : Bool := true

/-- What `wait_reply` comes to when it looks into the cache. -/
inductive Waited where
  | reply (bundle : BundleData)
  /-- It returns `None`. -/
  | stopping
  /-- It goes on waiting for a notification. -/
  | waiting

namespace Client

/-- A client with the broker of its context file, if there is one. -/
def new (nodeId : Eid) (broker : Option Eid) : Client where
  nodeId
  nodeType := NodeType.client
  broker

/-- What is cached for a type. -/
def pending (client : Client) (type : BundleType) : List BundleData :=
  (client.pendingResponses.get? type).getD []

def cacheResponse (client : Client) (bundle : BundleData) : Client :=
  { client with
    pendingResponses := client.pendingResponses.set bundle.type
      (client.pending bundle.type ++ [bundle]) }

/-- The result goes to a file that is named after the job. -/
def handleJobResult [JobCodec] : Handler Client := fun client bundle =>
  match JobCodec.deserializeResult bundle.payload with
  | .error err => (client, .error err)
  | .ok result =>
    let file := result.metadata.jobId.text ++ str "_result.zip"
    ({ client with resultsDirectory := client.resultsDirectory.set file result.resultsData }, .ok [])

def handleBundle [JobCodec] : Handler Client := fun client bundle =>
  if bundle.type = BundleType.jobResult then client.handleJobResult bundle
  else if bundle.type = BundleType.jobList then (client.cacheResponse bundle, .ok [])
  else if bundle.type = BundleType.ndataGet then (client.cacheResponse bundle, .ok [])
  else if bundle.type = BundleType.ndataPut then (client.cacheResponse bundle, .ok [])
  else if bundle.type.isDiscovery = true then
    let (node, replies) := client.toNode.handleDiscovery bundle
    ({ client with toNode := node }, replies)
  else (client, .ok [])

/-- One turn of the loop of `wait_reply`. -/
def waitReply (client : Client) (waitFor : BundleType) : Client × Waited :=
  if client.running = true then
    match client.pending waitFor with
    | bundle :: rest =>
      ({ client with pendingResponses := client.pendingResponses.set waitFor rest }, .reply bundle)
    | [] => (client, .waiting)
  else (client, .stopping)

/-- The request of `data_put`. Reading the file may raise. -/
def putRequest (client : Client) (name : Str) (file : Py (List UInt8)) : Py BundleData :=
  match client.broker with
  | none => raise .runtimeError "No broker associated. This should not be the case at this point."
  | some broker => do
    let data ← file
    BundleData.new {
      type := BundleType.ndataPut
      source := client.nodeId
      destination := broker
      payload := data
      namedData := name }

/-- What `data_put` returns. A name that is taken already counts as published. -/
def putResult : Option BundleData → Bool
  | none => false
  | some reply => if reply.success = true then true else (str "already taken").isSuffixOf reply.error

/-- The request of `data_get`. It goes to all the datastores. -/
def getRequest (client : Client) (name : Str) : Py BundleData :=
  BundleData.new {
    type := BundleType.ndataGet
    source := client.nodeId
    destination := Eid.datastoreMulticastAddress
    namedData := name }

end Client

/-- A call of `data_put` or `data_get`. -/
inductive Operation where
  | put (name : Str) (file : Py (List UInt8))
  | get (name : Str)

namespace Operation

def request (client : Client) : Operation → Py BundleData
  | put name file => client.putRequest name file
  | get name => client.getRequest name

/-- The type that is given to `wait_reply`. -/
def replyType : Operation → BundleType
  | put _ _ => BundleType.ndataPut
  | get _ => BundleType.ndataGet

/-- The name of the bundle is the one that was asked for, or starts with it. -/
def Names (bundle : BundleData) : Operation → Prop
  | put name _ => bundle.namedData = name
  | get name => name <+: bundle.namedData

end Operation

/-- A bundle that reaches the client. If it is a reply to one of the calls, the
number of the call is known here, but not to the client. -/
structure Delivery where
  bundle : BundleData
  answers : Option Nat

/-- Where a call goes on. -/
inductive CallTask where
  /-- In `_send_message`. -/
  | sending (operation : Operation)
  /-- In `wait_reply`. -/
  | waiting (operation : Operation)

/-- A client with the call that is under way, and how many there were before it.
The deliveries are those that are cached, in the order in which they came. -/
structure Session where
  client : Client
  task : Option CallTask
  earlier : Nat
  unread : List Delivery

/-- Calls are made one after the other. While one is under way, the receive loop
handles bundles, and the client may be stopped. -/
inductive SessionEvent where
  | call (operation : Operation)
  /-- `_send_message` returns or raises. -/
  | sent (returned : Bool)
  | look
  | receive (delivery : Delivery)
  | stop

/-- The types that `_handle_bundle` caches. -/
def BundleType.isReply (type : BundleType) : Bool :=
  type = jobList || type = ndataGet || type = ndataPut

namespace Session

def new (nodeId : Eid) (broker : Option Eid) : Session := ⟨.new nodeId broker, none, 0, []⟩

/-- The call that is under way is over. -/
def finish (session : Session) : Session :=
  { session with task := none, earlier := session.earlier + 1 }

/-- A call is made, up to `_send_message`. -/
def call (session : Session) (operation : Operation) : Session :=
  match session.task with
  | some _ => session
  | none =>
    match operation.request session.client with
    | .error _ => session.finish
    | .ok _ => { session with task := some (.sending operation) }

/-- The call goes on to `wait_reply`, or `_send_message` has raised. -/
def sent (session : Session) (returned : Bool) : Session :=
  match session.task with
  | some (.sending operation) =>
    if returned = true then { session with task := some (.waiting operation) } else session.finish
  | _ => session

/-- `wait_reply` looks into the cache. -/
def look (session : Session) : Session :=
  match session.task with
  | some (.waiting operation) =>
    match session.client.waitReply operation.replyType with
    | (client, .reply _) =>
      { session.finish with
        client
        unread := session.unread.eraseP fun delivery => delivery.bundle.type = operation.replyType }
    | (_, .stopping) => session.finish
    | (_, .waiting) => session
  | _ => session

def receive [JobCodec] (session : Session) (delivery : Delivery) : Session :=
  { session with
    client := (session.client.handleBundle delivery.bundle).1
    unread := if delivery.bundle.type.isReply = true then session.unread ++ [delivery]
      else session.unread }

def stop (session : Session) : Session :=
  { session with client := { session.client with running := false } }

def step [JobCodec] (session : Session) : SessionEvent → Session
  | .call operation => session.call operation
  | .sent returned => session.sent returned
  | .look => session.look
  | .receive delivery => session.receive delivery
  | .stop => session.stop

/-- The oldest delivery of a type that is still cached. -/
def next? (session : Session) (type : BundleType) : Option Delivery :=
  session.unread.find? fun delivery => delivery.bundle.type = type

/-- The delivery has the name that the call asked for, and does not answer a call
before it. -/
def Suits (number : Nat) (operation : Operation) (delivery : Delivery) : Prop :=
  operation.Names delivery.bundle ∧ ∀ answered, delivery.answers = some answered →
    number ≤ answered

/-- Whatever the call that waits would take now is a reply to it. -/
def Matched (session : Session) : Prop :=
  ∀ operation after bundle, session.task = some (.waiting operation) →
    session.client.waitReply operation.replyType = (after, .reply bundle) →
    ∃ delivery, session.next? operation.replyType = some delivery ∧ delivery.bundle = bundle ∧
      Suits session.earlier operation delivery

/-- The call that the event brings to `wait_reply` for the type, with its number. -/
def begins (session : Session) (type : BundleType) : SessionEvent → List (Nat × Operation)
  | .sent true =>
    match session.task with
    | some (.sending operation) =>
      if operation.replyType = type then [(session.earlier, operation)] else []
    | _ => []
  | _ => []

/-- The calls that come to `wait_reply` for the type, one after the other. -/
def waits [JobCodec] (type : BundleType) : Session → List SessionEvent → List (Nat × Operation)
  | _, [] => []
  | session, event :: rest => session.begins type event ++ waits type (session.step event) rest

def arrived (type : BundleType) : SessionEvent → List Delivery
  | .receive delivery => if delivery.bundle.type = type then [delivery] else []
  | _ => []

def beforeStop : List SessionEvent → List SessionEvent
  | [] => []
  | .stop :: _ => []
  | event :: rest => event :: beforeStop rest

def Suited (pairs : List ((Nat × Operation) × Delivery)) : Prop :=
  ∀ pair ∈ pairs, Suits pair.1.1 pair.1.2 pair.2

/-- Until the client is stopped, the first bundle of a type suits the first call that
waits for one, the second bundle the second call, and so on. -/
def InTurn [JobCodec] (session : Session) (events : List SessionEvent) : Prop :=
  ∀ type ∈ [BundleType.ndataPut, BundleType.ndataGet],
    Suited ((waits type session (beforeStop events)).zip
      ((beforeStop events).flatMap (arrived type)))

end Session

namespace Client

variable {client : Client} {bundle : BundleData} {type : BundleType}

theorem pending_set (rest : List BundleData) (other : BundleType) :
    pending { client with pendingResponses := client.pendingResponses.set type rest } other =
      if other = type then rest else client.pending other := by
  rw [pending, Dict.get?_set]
  split <;> rfl

theorem handleBundle_of_isReply [JobCodec] (reply : bundle.type.isReply = true) :
    client.handleBundle bundle = (client.cacheResponse bundle, .ok []) := by
  simp only [BundleType.isReply, Bool.or_eq_true, decide_eq_true_eq] at reply
  unfold handleBundle
  obtain (list | get) | put := reply
  · rw [list]
    rfl
  · rw [get]
    rfl
  · rw [put]
    rfl

theorem handleBundle_of_not_isReply [JobCodec] (other : bundle.type.isReply = false) :
    (client.handleBundle bundle).1.pendingResponses = client.pendingResponses ∧
      (client.handleBundle bundle).1.running = client.running := by
  simp only [BundleType.isReply, Bool.or_eq_false_iff, decide_eq_false_iff_not] at other
  obtain ⟨⟨list, get⟩, put⟩ := other
  unfold handleBundle
  rw [if_neg list, if_neg get, if_neg put]
  split
  · unfold handleJobResult
    split <;> exact ⟨rfl, rfl⟩
  · split <;> exact ⟨rfl, rfl⟩

theorem running_handleBundle [JobCodec] :
    (client.handleBundle bundle).1.running = client.running := by
  cases reply : bundle.type.isReply with
  | true =>
    rw [handleBundle_of_isReply reply]
    rfl
  | false => exact (handleBundle_of_not_isReply reply).2

theorem waitReply_eq_reply {after : Client} : client.waitReply type = (after, .reply bundle) ↔
    client.running = true ∧ ∃ rest, client.pending type = bundle :: rest ∧
      after = { client with pendingResponses := client.pendingResponses.set type rest } := by
  unfold waitReply
  split
  · rename_i running
    split
    · rename_i first rest cached
      constructor
      · intro taken
        cases taken
        exact ⟨running, rest, cached, rfl⟩
      · rintro ⟨-, others, same, rfl⟩
        cases cached.symm.trans same
        rfl
    · rename_i cached
      simp [cached]
  · rename_i stopped
    simp [stopped]

end Client

namespace Session

variable {session : Session}

/-- The deliveries of a type that no call has taken. -/
def cached (session : Session) (type : BundleType) : List Delivery :=
  session.unread.filter fun delivery => delivery.bundle.type = type

/-- The cache of the client holds the bundles of the unread deliveries. -/
def Tracks (session : Session) : Prop :=
  ∀ type, session.client.pending type = (session.cached type).map Delivery.bundle

theorem tracks_new (nodeId : Eid) (broker : Option Eid) : (new nodeId broker).Tracks := by
  intro type
  rfl

theorem look_cases (session : Session) : session.look = session ∨
    session.client.running = false ∧ session.look = session.finish ∨
    ∃ operation bundle rest, session.task = some (.waiting operation) ∧
      session.client.pending operation.replyType = bundle :: rest ∧
      session.look = { session.finish with
        client := { session.client with
          pendingResponses := session.client.pendingResponses.set operation.replyType rest }
        unread := session.unread.eraseP fun delivery =>
          delivery.bundle.type = operation.replyType } := by
  unfold look Client.waitReply
  cases session.task with
  | none => exact .inl rfl
  | some task =>
    cases task with
    | sending operation => exact .inl rfl
    | waiting operation =>
      cases running : session.client.running with
      | false => exact .inr (.inl ⟨rfl, rfl⟩)
      | true =>
        cases pending : session.client.pending operation.replyType with
        | nil =>
          left
          simp only [if_true, pending]
        | cons bundle rest =>
          refine .inr (.inr ⟨operation, bundle, rest, rfl, pending, ?_⟩)
          simp only [if_true, pending, running]

theorem cached_receive [JobCodec] (delivery : Delivery) {type : BundleType}
    (reply : type.isReply = true) :
    (session.receive delivery).cached type =
      session.cached type ++ arrived type (.receive delivery) := by
  unfold cached receive arrived
  by_cases same : delivery.bundle.type = type
  · simp [same, reply]
  · cases delivery.bundle.type.isReply <;> simp [same]

theorem cached_eraseP (taken type : BundleType) :
    (session.unread.eraseP fun delivery => delivery.bundle.type = taken).filter
        (fun delivery => delivery.bundle.type = type) =
      if type = taken then (session.cached taken).tail else session.cached type := by
  split
  · rename_i same
    rw [same, filter_eraseP_self]
    rfl
  · rename_i different
    apply filter_eraseP_of_disjoint
    intro delivery passed
    simp only [decide_eq_true_eq] at passed
    simp [passed, Ne.symm different]

theorem Tracks.receive [JobCodec] (tracks : session.Tracks) (delivery : Delivery) :
    (session.receive delivery).Tracks := by
  intro type
  cases reply : delivery.bundle.type.isReply with
  | false =>
    have cached : (session.client.handleBundle delivery.bundle).1.pendingResponses =
        session.client.pendingResponses := (Client.handleBundle_of_not_isReply reply).1
    simp only [Session.receive, Session.cached, reply, Client.pending, cached]
    exact tracks type
  | true =>
    have before := tracks type
    unfold Session.cached at before ⊢
    simp only [Session.receive, Client.handleBundle_of_isReply reply, reply, if_true,
      Client.cacheResponse, Client.pending_set, List.filter_append, List.map_append]
    split
    · rename_i same
      simp [← same, before]
    · rename_i different
      simp [before, Ne.symm different]

theorem Tracks.look (tracks : session.Tracks) : session.look.Tracks := by
  obtain same | ⟨-, ended⟩ | ⟨operation, bundle, rest, -, pending, taken⟩ :=
    look_cases session
  · rw [same]
    exact tracks
  · rw [ended]
    exact tracks
  · intro type
    rw [taken, Client.pending_set, Session.cached, cached_eraseP]
    split
    · rw [List.map_tail, ← tracks operation.replyType, pending, List.tail_cons]
    · exact tracks type

theorem Tracks.step [JobCodec] (tracks : session.Tracks) (event : SessionEvent) :
    (session.step event).Tracks := by
  cases event with
  | call operation =>
    change (session.call operation).Tracks
    unfold Session.call
    repeat' split
    all_goals exact tracks
  | sent returned =>
    change (session.sent returned).Tracks
    unfold Session.sent
    repeat' split
    all_goals exact tracks
  | look => exact tracks.look
  | receive delivery => exact tracks.receive delivery
  | stop => exact tracks

theorem running_step [JobCodec] {event : SessionEvent} (goes : event ≠ .stop) :
    (session.step event).client.running = session.client.running := by
  cases event with
  | call operation =>
    change (session.call operation).client.running = _
    unfold call
    repeat' split
    all_goals rfl
  | sent returned =>
    change (session.sent returned).client.running = _
    unfold sent
    repeat' split
    all_goals rfl
  | look =>
    change session.look.client.running = _
    obtain same | ⟨-, ended⟩ | ⟨_, _, _, -, -, taken⟩ := look_cases session
    · rw [same]
    · rw [ended]
      rfl
    · rw [taken]
  | receive delivery => exact Client.running_handleBundle
  | stop => exact absurd rfl goes

/-- Once the client is stopped, nothing is taken any more. -/
theorem throughout_of_stopped [JobCodec] (stopped : session.client.running = false)
    (events : List SessionEvent) : Throughout step Matched session events := by
  intro before after _
  have still : (run step session before).client.running = false := by
    have any : Guarded step (fun _ _ => True) session before := fun _ _ _ _ => trivial
    refine run_invariant (fun later : Session => later.client.running = false) stopped ?_ any
    intro later event quiet _
    cases event with
    | stop => rfl
    | _ => exact (running_step (by nofun)).trans quiet
  intro operation later bundle _ taken
  obtain ⟨running, -⟩ := Client.waitReply_eq_reply.mp taken
  rw [still] at running
  cases running

/-- The call that waits for a bundle of the type, with its number. -/
def waiting (session : Session) (type : BundleType) : List (Nat × Operation) :=
  match session.task with
  | some (.waiting operation) =>
    if operation.replyType = type then [(session.earlier, operation)] else []
  | _ => []

/-- The calls from now on, each with the delivery that it finds first. -/
def due [JobCodec] (session : Session) (type : BundleType) (events : List SessionEvent) :
    List ((Nat × Operation) × Delivery) :=
  (session.waiting type ++ waits type session events).zip
    (session.cached type ++ events.flatMap (arrived type))

section

theorem beforeStop_cons (goes : event ≠ .stop) :
    beforeStop (event :: rest) = event :: beforeStop rest := by
  cases event with
  | stop => exact absurd rfl goes
  | _ => rfl

variable [JobCodec] {type : BundleType} {event : SessionEvent} {rest : List SessionEvent}

theorem Tracks.matched_iff (tracks : session.Tracks) (running : session.client.running = true) :
    session.Matched ↔ ∀ type ∈ [BundleType.ndataPut, BundleType.ndataGet],
      Suited (session.due type []) := by
  have oldest (type : BundleType) : session.next? type = (session.cached type).head? :=
    List.head?_filter.symm
  simp only [due, Session.waits, List.flatMap_nil, List.append_nil]
  constructor
  · rintro matched type - pair member
    unfold waiting at member
    split at member
    · rename_i operation waits
      split at member
      · rename_i same
        subst same
        cases cached : session.cached operation.replyType with
        | nil =>
          rw [cached] at member
          cases member
        | cons delivery rest =>
          rw [cached] at member
          cases List.mem_singleton.mp member
          have pending := tracks operation.replyType
          rw [cached, List.map_cons] at pending
          obtain ⟨taken, same, -, suits⟩ := matched operation _ _ waits
            (Client.waitReply_eq_reply.mpr ⟨running, _, pending, rfl⟩)
          rw [oldest, cached] at same
          cases same
          exact suits
      · cases member
    · cases member
  · intro suited operation after bundle waits taken
    obtain ⟨-, rest, pending, -⟩ := Client.waitReply_eq_reply.mp taken
    rw [tracks, List.map_eq_cons_iff] at pending
    obtain ⟨delivery, later, cached, same, -⟩ := pending
    refine ⟨delivery, by rw [oldest, cached]; rfl, same, ?_⟩
    apply suited operation.replyType (by cases operation <;> simp [Operation.replyType])
      ((session.earlier, operation), delivery)
    simp [waiting, waits, cached]

theorem due_of_advances (waiting : (session.step event).waiting type =
      session.waiting type ++ session.begins type event)
    (cached : (session.step event).cached type = session.cached type ++ arrived type event) :
    session.due type (event :: rest) = (session.step event).due type rest := by
  rw [due, due, waiting, cached, waits, List.flatMap_cons, List.append_assoc, List.append_assoc]

theorem due_call (operation : Operation) :
    session.due type (.call operation :: rest) = (session.step (.call operation)).due type rest := by
  apply due_of_advances
  · change (session.call operation).waiting type = session.waiting type ++ []
    rw [List.append_nil, call]
    split
    · rfl
    · rename_i idle
      split <;> simp [waiting, idle, finish]
  · change (session.call operation).cached type = session.cached type ++ []
    rw [List.append_nil, call]
    repeat' split
    all_goals rfl

theorem due_sent (returned : Bool) :
    session.due type (.sent returned :: rest) = (session.step (.sent returned)).due type rest := by
  apply due_of_advances
  · change (session.sent returned).waiting type = _
    unfold sent waiting
    cases task : session.task with
    | none => cases returned <;> simp [begins, task]
    | some before => cases before <;> cases returned <;> simp [begins, task, finish]
  · change (session.sent returned).cached type = session.cached type ++ []
    rw [List.append_nil, sent]
    repeat' split
    all_goals rfl

theorem due_receive (delivery : Delivery) (reply : type.isReply = true) :
    session.due type (.receive delivery :: rest) =
      (session.step (.receive delivery)).due type rest :=
  due_of_advances (List.append_nil _).symm (cached_receive delivery reply)

/-- A call that finds a delivery takes it along, and is over. -/
theorem Tracks.due_look (tracks : session.Tracks) (running : session.client.running = true)
    (type : BundleType) (rest : List SessionEvent) :
    session.due type (.look :: rest) = (session.step .look).due type rest ∨
      session.due type (.look :: rest) =
        session.due type [] ++ (session.step .look).due type rest := by
  obtain same | ⟨stopped, -⟩ | ⟨operation, bundle, later, waits, pending, taken⟩ :=
    look_cases session
  · left
    apply due_of_advances <;> (change _ = _ ++ []; rw [Session.step, same, List.append_nil])
  · rw [running] at stopped
    cases stopped
  · rw [tracks, List.map_eq_cons_iff] at pending
    obtain ⟨delivery, others, cached, -, -⟩ := pending
    have after : (session.step .look).cached type =
        if type = operation.replyType then (session.cached operation.replyType).tail
        else session.cached type := by
      rw [Session.step, taken]
      exact cached_eraseP _ _
    have ended : (session.step .look).waiting type = [] := by
      rw [Session.step, taken]
      rfl
    by_cases same : type = operation.replyType
    · right
      subst same
      rw [if_pos rfl, cached, List.tail_cons] at after
      rw [due, due, due, ended, after, cached]
      simp [waiting, waits, Session.waits, begins, arrived]
    · left
      rw [if_neg same] at after
      apply due_of_advances
      · rw [ended]
        simp [waiting, waits, begins, Ne.symm same]
      · rw [after]
        exact (List.append_nil _).symm

theorem Tracks.suited_due (tracks : session.Tracks) (running : session.client.running = true)
    (reply : type.isReply = true) (goes : event ≠ .stop)
    (now : Suited (session.due type [])) :
    Suited (session.due type (event :: rest)) ↔ Suited ((session.step event).due type rest) := by
  cases event with
  | call operation => rw [due_call]
  | sent returned => rw [due_sent]
  | look =>
    obtain same | taken := tracks.due_look running type rest
    · rw [same]
    · rw [taken, Suited, List.forall_mem_append]
      exact and_iff_right now
  | receive delivery => rw [due_receive delivery reply]
  | stop => exact absurd rfl goes

theorem Suited.now (suited : Suited (session.due type rest)) : Suited (session.due type []) := by
  intro pair member
  apply suited pair
  rw [due, Session.waits, List.flatMap_nil, List.append_nil, List.append_nil] at member
  rw [due, waiting]
  rw [waiting] at member
  split at member
  · split at member
    · rename_i awaited
      rw [if_pos awaited]
      generalize session.cached type = deliveries at member ⊢
      cases deliveries with
      | nil => cases member
      | cons delivery later => exact List.mem_cons.mpr (.inl (List.mem_singleton.mp member))
    · cases member
  · cases member

/-- A call is compared with its delivery as soon as both are there. -/
theorem Tracks.matched_iff_suited (tracks : session.Tracks)
    (running : session.client.running = true) (events : List SessionEvent) :
    Throughout Session.step Matched session events ↔
      ∀ type ∈ [BundleType.ndataPut, BundleType.ndataGet],
        Suited (session.due type (beforeStop events)) := by
  have reply : ∀ type ∈ [BundleType.ndataPut, BundleType.ndataGet], type.isReply = true := by
    decide
  induction events generalizing session with
  | nil =>
    rw [beforeStop, ← tracks.matched_iff running]
    constructor
    · intro throughout
      exact throughout [] [] rfl
    · intro matched before after same
      obtain ⟨rfl, -⟩ := List.append_eq_nil_iff.mp same.symm
      exact matched
  | cons event rest ih =>
    rw [throughout_cons]
    by_cases stops : event = .stop
    · subst stops
      rw [beforeStop, ← tracks.matched_iff running]
      exact and_iff_left (throughout_of_stopped rfl rest)
    · have later := ih (tracks.step event) ((running_step stops).trans running)
      rw [beforeStop_cons stops]
      refine (and_congr (tracks.matched_iff running) later).trans ?_
      constructor
      · rintro ⟨now, later⟩ type awaited
        exact (tracks.suited_due running (reply type awaited) stops (now type awaited)).mpr
          (later type awaited)
      · intro suited
        refine ⟨fun type awaited => (suited type awaited).now, fun type awaited => ?_⟩
        exact (tracks.suited_due running (reply type awaited) stops (suited type awaited).now).mp
          (suited type awaited)

end

/-- The calls take replies to themselves in the sessions in which the replies come
in turn, and in no other ones. -/
theorem matched_iff_inTurn [JobCodec] (nodeId : Eid) (broker : Option Eid)
    (events : List SessionEvent) :
    Throughout step Matched (new nodeId broker) events ↔ InTurn (new nodeId broker) events :=
  Tracks.matched_iff_suited (tracks_new nodeId broker) rfl events

end Session

end

open scoped Samples

@[reducible] def joblessCodec : JobCodec := .numbered []

attribute [local instance] joblessCodec

def firstStored : BundleData where
  type := BundleType.ndataPut
  source := sampleBroker
  destination := sampleClient
  namedData := str "first"
  valid := rfl

/-- The reply to the first call comes twice, and the second call begins to wait. -/
def duplicatedReply : List SessionEvent :=
  [.call (.put (str "first") (.ok [1])), .sent true, .receive ⟨firstStored, some 0⟩,
    .receive ⟨firstStored, some 0⟩, .look, .call (.put (str "second") (.ok [2])), .sent true]

/-- The second call takes the copy, and returns that its data was published. -/
theorem duplicatedReply_not_matched :
    (∃ after, (run Session.step (Session.new sampleClient (some sampleBroker))
      duplicatedReply).client.waitReply
      BundleType.ndataPut = (after, .reply firstStored)) ∧ Client.putResult (some firstStored) = true ∧
    ¬Throughout Session.step Session.Matched (Session.new sampleClient (some sampleBroker))
      duplicatedReply := by
  refine ⟨⟨_, rfl⟩, rfl, ?_⟩
  intro throughout
  have matched := throughout duplicatedReply [] rfl
  obtain ⟨delivery, oldest, -, named, -⟩ := matched (.put (str "second") (.ok [2])) _ _ rfl rfl
  cases oldest
  have same : str "first" = str "second" := named
  exact absurd same (by decide)

end RecDtn.Rec
