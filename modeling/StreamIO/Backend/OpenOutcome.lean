import StreamIO.Backend.OpenExchange

/-!
# How the opening of a device ends

Every exchange comes to rest, and no channel service is ever reached: the
worker takes the handshake for a context frame.  The handshake of a stream is
a `CLOSE`, for which nothing is sent back; the handshake of a mapped device is
an `OPEN`, and the client takes the reply to it for the acknowledgement and a
descriptor.
-/

namespace StreamIO.Backend

open StreamIO.Library StreamIO.Net

variable {setting : OpenSetting} {server : ContextServer}
  {exchange next : OpenExchange} {move : OpenMove}

namespace OpenExchange

/-- The bytes the client has still to send. -/
def unsent (call : OpenCall) : OpenPc → Nat
  | .sendHandshake =>
      20 + (call.filePath.bytes.take call.pathLen.toNat).length
  | .receiveAck => 12 + (call.filePath.bytes.take call.pathLen.toNat).length
  | .sendPathLen => 12 + (call.filePath.bytes.take call.pathLen.toNat).length
  | .sendPath => 8 + (call.filePath.bytes.take call.pathLen.toNat).length
  | .sendSize => 8
  | .receiveFd => 0
  | .returned _ => 0

def clientRank : OpenPc → Nat
  | .sendHandshake => 6
  | .receiveAck => 5
  | .sendPathLen => 4
  | .sendPath => 3
  | .sendSize => 2
  | .receiveFd => 1
  | .returned _ => 0

def workerRank : WorkerPc → Nat
  | .peek => 3
  | .handle _ => 2
  | .receive _ => 1
  | .finishHandshake _ => 5
  | .pathLen _ => 4
  | .devPath _ _ => 3
  | .mapSize _ _ => 2
  | .addDevice _ _ => 1
  | .commands _ _ => 0
  | .returned => 0
  | .faulted => 0

/-- A byte is worth two: to receive it takes the worker back to where it
handles the next frame. -/
def work (setting : OpenSetting) (exchange : OpenExchange) : Nat :=
  2 * (unsent setting.call exchange.client + exchange.toServer.length) +
    clientRank exchange.client + workerRank exchange.worker

/-- The worker is in `start_task` or has returned from it. -/
def InTask : WorkerPc → Prop
  | .peek => True
  | .handle _ => True
  | .receive _ => True
  | .returned => True
  | _ => False

/-- What a step of the worker does, wherever it stands. -/
structure Progress (exchange next : OpenExchange) : Prop where
  client : next.client = exchange.client
  consumes : 2 * next.toServer.length + workerRank next.worker <
    2 * exchange.toServer.length + workerRank exchange.worker
  replies : ∃ more, next.toClient = exchange.toClient ++ more
  stays : InTask exchange.worker →
    InTask next.worker ∧ next.added = exchange.added
  created : exchange.server.created ≤ next.server.created

theorem created_perform (server : ContextServer) (action : ContextAction) :
    server.created ≤ (server.perform action).created := by
  cases action with
  | opened index =>
      simp only [ContextServer.perform, ContextServer.openContext]
      split
      · exact Nat.le_refl _
      · exact Nat.le_succ _
  | refused => exact Nat.le_refl _
  | attempted ctxId =>
      simp only [ContextServer.perform, ContextServer.closeContext]
      split
      · split
        · exact Nat.le_refl _
        · exact Nat.le_refl _
      · exact Nat.le_refl _

theorem created_foldl (server : ContextServer)
    (actions : List ContextAction) :
    server.created ≤
      (actions.foldl ContextServer.perform server).created := by
  induction actions generalizing server with
  | nil => exact Nat.le_refl _
  | cons action actions induction =>
      exact Nat.le_trans (created_perform server action)
        (induction (server.perform action))

theorem Progress.service (outside : ¬InTask exchange.worker)
    (client : next.client = exchange.client)
    (consumes : 2 * next.toServer.length + workerRank next.worker <
      2 * exchange.toServer.length + workerRank exchange.worker)
    (replies : ∃ more, next.toClient = exchange.toClient ++ more)
    (same : next.server = exchange.server) : Progress exchange next := by
  refine ⟨client, consumes, replies, ?_, ?_⟩
  · intro inTask
    exact (outside inTask).elim
  · exact Nat.le_of_eq (congrArg ContextServer.created same).symm

theorem Progress.ofPeek (pc : exchange.worker = .peek)
    (step : exchange.workerStep setting = some next) :
    Progress exchange next := by
  simp only [workerStep, pc] at step
  obtain ⟨bytes, _, rfl⟩ := Option.map_eq_some_iff.mp step
  refine ⟨rfl, ?_, ⟨[], by simp⟩, ?_, Nat.le_refl _⟩
  · simp only [pc]
    split
    · simp [workerRank]
    · simp [workerRank]
  · intro _
    refine ⟨?_, rfl⟩
    simp only
    split
    · trivial
    · trivial

theorem Progress.ofHandle {frame : List UInt8}
    (pc : exchange.worker = .handle frame)
    (step : exchange.workerStep setting = some next) :
    Progress exchange next := by
  simp only [workerStep, pc] at step
  obtain ⟨handled, returned, rfl⟩ := Option.map_eq_some_iff.mp step
  have shorter := handleContext_stream returned
  simp only [inbound] at shorter
  refine ⟨rfl, ?_, ⟨_, rfl⟩, ?_, ?_⟩
  · simp only [pc]
    split
    · simp only [workerRank]
      omega
    · simp only [workerRank]
      omega
  · intro _
    refine ⟨?_, rfl⟩
    simp only
    split
    · trivial
    · trivial
  · simp only
    rw [handleContext_server returned]
    exact created_foldl _ _

theorem Progress.ofReceive {frame : List UInt8}
    (pc : exchange.worker = .receive frame)
    (step : exchange.workerStep setting = some next) :
    Progress exchange next := by
  simp only [workerStep, pc] at step
  obtain ⟨⟨bytes, rest⟩, received, rfl⟩ := Option.map_eq_some_iff.mp step
  have shorter := Inbound.recv_le received
  simp only [inbound] at shorter
  refine ⟨rfl, ?_, ⟨[], by simp⟩, ?_, Nat.le_refl _⟩
  · simp only [pc]
    split
    · simp only [workerRank]
      omega
    · rename_i more
      have consumed := Inbound.recv_stream received (by decide) more
      simp only [inbound] at consumed
      simp only [workerRank]
      omega
  · intro _
    refine ⟨?_, rfl⟩
    simp only
    split
    · trivial
    · trivial

theorem Progress.ofServiceReceive {count : Nat} {worker : WorkerPc}
    {bytes : List UInt8} {rest : Inbound}
    (received : exchange.inbound.recv count = some (bytes, rest))
    (outside : ¬InTask exchange.worker)
    (lower : workerRank worker < workerRank exchange.worker) :
    Progress exchange
      { exchange with toServer := rest.stream, worker := worker } := by
  have shorter := Inbound.recv_le received
  simp only [inbound] at shorter
  refine Progress.service outside rfl ?_ ⟨[], by simp⟩ rfl
  simp only
  omega

theorem workerStep_progress
    (step : exchange.workerStep setting = some next) :
    Progress exchange next := by
  cases pc : exchange.worker with
  | peek => exact .ofPeek pc step
  | handle frame => exact .ofHandle pc step
  | receive frame => exact .ofReceive pc step
  | finishHandshake channel =>
      simp only [workerStep, pc] at step
      obtain rfl := Option.some.inj step
      refine .service (by simp [pc, InTask]) rfl ?_ ⟨_, rfl⟩ rfl
      simp [pc, workerRank]
  | pathLen channel =>
      simp only [workerStep, pc] at step
      obtain ⟨⟨bytes, rest⟩, received, rfl⟩ :=
        Option.map_eq_some_iff.mp step
      apply Progress.ofServiceReceive received
      · simp [pc, InTask]
      · simp [pc, workerRank]
  | devPath channel pathLen =>
      simp only [workerStep, pc] at step
      split at step
      · obtain rfl := Option.some.inj step
        refine .service (by simp [pc, InTask]) rfl ?_ ⟨[], by simp⟩ rfl
        simp [pc, workerRank]
      · obtain ⟨⟨bytes, rest⟩, received, rfl⟩ :=
          Option.map_eq_some_iff.mp step
        apply Progress.ofServiceReceive received
        · simp [pc, InTask]
        · simp [pc, workerRank]
  | mapSize channel devPath =>
      simp only [workerStep, pc] at step
      obtain ⟨⟨bytes, rest⟩, received, rfl⟩ :=
        Option.map_eq_some_iff.mp step
      apply Progress.ofServiceReceive received
      · simp [pc, InTask]
      · simp [pc, workerRank]
  | addDevice channel devPath =>
      simp only [workerStep, pc] at step
      split at step
      · obtain rfl := Option.some.inj step
        refine .service (by simp [pc, InTask]) rfl ?_ ⟨_, rfl⟩ rfl
        simp [pc, workerRank]
      · obtain rfl := Option.some.inj step
        refine .service (by simp [pc, InTask]) rfl ?_ ⟨[], by simp⟩ rfl
        simp [pc, workerRank]
  | commands channel devPath =>
      simp only [workerStep, pc] at step
      cases step
  | returned =>
      simp only [workerStep, pc] at step
      cases step
  | faulted =>
      simp only [workerStep, pc] at step
      cases step

theorem send_accounts {call : OpenCall} {padding : Padding}
    {bytes : List UInt8} {client later : OpenPc}
    (sends : client.send call padding = some (bytes, later)) :
    unsent call client = bytes.length + unsent call later ∧
      clientRank later < clientRank client := by
  cases client with
  | sendHandshake =>
      obtain ⟨rfl, rfl⟩ := Prod.mk.inj (Option.some.inj sends)
      refine ⟨?_, by decide⟩
      simp only [unsent, length_headed]
      omega
  | sendPathLen =>
      obtain ⟨rfl, rfl⟩ := Prod.mk.inj (Option.some.inj sends)
      refine ⟨?_, by decide⟩
      simp only [unsent, length_littleEndian32]
      omega
  | sendPath =>
      obtain ⟨rfl, rfl⟩ := Prod.mk.inj (Option.some.inj sends)
      refine ⟨?_, by decide⟩
      simp only [unsent]
      omega
  | sendSize =>
      obtain ⟨rfl, rfl⟩ := Prod.mk.inj (Option.some.inj sends)
      exact ⟨rfl, by decide⟩
  | receiveAck => cases sends
  | receiveFd => cases sends
  | returned device => cases sends

theorem receive_accounts (call : OpenCall) (fd : UInt32)
    (bytes : List UInt8) {client : OpenPc} (receives : client.Receives) :
    unsent call (client.receive fd bytes) ≤ unsent call client ∧
      clientRank (client.receive fd bytes) < clientRank client := by
  cases client with
  | receiveAck =>
      simp only [OpenPc.receive]
      split
      · exact ⟨Nat.zero_le _, by simp [clientRank]⟩
      · exact ⟨Nat.le_refl _, by simp [clientRank]⟩
  | receiveFd =>
      simp only [OpenPc.receive]
      split
      · exact ⟨Nat.zero_le _, by simp [clientRank]⟩
      · exact ⟨Nat.zero_le _, by simp [clientRank]⟩
  | sendHandshake => exact receives.elim
  | sendPathLen => exact receives.elim
  | sendPath => exact receives.elim
  | sendSize => exact receives.elim
  | returned device => exact receives.elim

theorem work_lowered_open (step : OpenStep setting exchange move next) :
    work setting next < work setting exchange := by
  cases step with
  | send sends =>
      obtain ⟨sent, rank⟩ := send_accounts sends
      simp only [work, List.length_append]
      omega
  | receive receives _ =>
      obtain ⟨sent, rank⟩ := receive_accounts setting.call setting.fd
        (exchange.toClient.take 4) receives
      simp only [work]
      omega
  | serve step =>
      have progress := workerStep_progress step
      have consumes := progress.consumes
      simp only [work, progress.client]
      omega

theorem comes_to_rest (setting : OpenSetting) (server : ContextServer) :
    ∃ exchange, (openExchanges setting).Reachable (.connected server)
        exchange ∧ (openExchanges setting).Stuck exchange :=
  (openExchanges setting).exists_stuck (work setting)
    (fun _ _ _ step => work_lowered_open step) _

theorem reachable_inTask (reached : (openExchanges setting).Reachable
    (.connected server) exchange) :
    InTask exchange.worker ∧ exchange.added = none := by
  apply reached.invariant
    (fun exchange => InTask exchange.worker ∧ exchange.added = none)
  · exact ⟨trivial, rfl⟩
  · rintro state label next ⟨inTask, none⟩ step
    cases step with
    | send sends => exact ⟨inTask, none⟩
    | receive receives available => exact ⟨inTask, none⟩
    | serve step =>
        obtain ⟨still, same⟩ := (workerStep_progress step).stays inTask
        exact ⟨still, same.trans none⟩

/-- The handshake message of the call. -/
def handshake (setting : OpenSetting) : List UInt8 :=
  headed setting.call.channel.code setting.handshakePadding

/-- Nothing has been handled yet. -/
structure Greeting (setting : OpenSetting) (server : ContextServer)
    (exchange : OpenExchange) : Prop where
  unanswered : exchange.toClient = []
  untouched : exchange.server = server
  first : exchange.calls = 0
  handshaking :
    (exchange.client = .sendHandshake ∧ exchange.toServer = [] ∧
        exchange.worker = .peek) ∨
      (exchange.client = .receiveAck ∧
        exchange.toServer = handshake setting ∧
        (exchange.worker = .peek ∨
          exchange.worker = .handle (handshake setting)))

/-- The first call of `handle_context`. -/
def handledHandshake (setting : OpenSetting) (server : ContextServer) :
    Option Handled :=
  handleContext server (List.ofFn (setting.stack.clientFrame 0))
    { stream := handshake setting, closed := false } (handshake setting)

/-- What that call leaves. -/
structure Greeted (setting : OpenSetting) (handled : Handled)
    (exchange : OpenExchange) : Prop where
  client : exchange.client = .receiveAck
  server : exchange.server = handled.server
  toServer : exchange.toServer = handled.inbound.stream
  toClient : exchange.toClient =
    handled.actions.flatMap (reply (setting.replyPadding 0))
  worker : exchange.worker = if handled.result < 0 then .returned
    else .receive (handshake setting)

theorem connected_greeting :
    Greeting setting server (.connected server) :=
  ⟨rfl, rfl, rfl, Or.inl ⟨rfl, rfl, rfl⟩⟩

theorem handshake_context :
    frameOp (handshake setting) &&& 0xf0 = frameDevCtx := by
  rw [handshake, frameOp_headed]
  cases setting.call.channel with
  | mapped => decide
  | stream => decide

theorem workerStep_peek (sent : exchange.toServer = handshake setting)
    (worker : exchange.worker = .peek) :
    exchange.workerStep setting =
      some { exchange with worker := .handle (handshake setting) } := by
  have peeked : exchange.inbound.peek 8 = some (handshake setting) := by
    rw [inbound, sent]
    rfl
  have whole : overwrite (List.ofFn setting.stack.frameTop)
      (handshake setting) = handshake setting := by
    apply overwrite_whole
    rw [List.length_ofFn]
    rfl
  simp only [workerStep, worker, peeked, Option.map_some, whole,
    handshake_context, if_true]

theorem Greeting.step (greeting : Greeting setting server exchange)
    (step : OpenStep setting exchange move next) :
    Greeting setting server next ∨
      ∃ handled, handledHandshake setting server = some handled ∧
        Greeted setting handled next := by
  obtain ⟨unanswered, untouched, first, handshaking⟩ := greeting
  cases step with
  | send sends =>
      rcases handshaking with ⟨client, empty, worker⟩ | ⟨client, _, _⟩
      · rw [client] at sends
        obtain ⟨rfl, rfl⟩ := Prod.mk.inj (Option.some.inj sends)
        refine Or.inl ⟨unanswered, untouched, first, Or.inr ⟨rfl, ?_, ?_⟩⟩
        · rw [empty]
          rfl
        · exact Or.inl worker
      · rw [client] at sends
        cases sends
  | receive _ available => exact (available unanswered).elim
  | serve step =>
      rcases handshaking with ⟨client, empty, worker⟩ |
        ⟨client, sent, worker | worker⟩
      · simp [workerStep, worker, inbound, empty, Inbound.peek] at step
      · rw [workerStep_peek sent worker] at step
        obtain rfl := Option.some.inj step
        exact Or.inl ⟨unanswered, untouched, first,
          Or.inr ⟨client, sent, Or.inr rfl⟩⟩
      · simp only [workerStep, worker, inbound, sent, first,
          untouched] at step
        obtain ⟨handled, returned, rfl⟩ := Option.map_eq_some_iff.mp step
        refine Or.inr ⟨handled, returned, client, rfl, rfl, ?_, rfl⟩
        simp only [unanswered, List.nil_append]

/-- The worker has read the whole handshake, and both ends wait. -/
structure Abandoned (exchange : OpenExchange) : Prop where
  client : exchange.client = .receiveAck
  toClient : exchange.toClient = []
  toServer : exchange.toServer = []
  worker : (∃ frame, exchange.worker = .receive frame) ∨
    exchange.worker = .returned

theorem Abandoned.stuck (abandoned : Abandoned exchange) :
    (openExchanges setting).Stuck exchange := by
  intro label next step
  cases step with
  | send sends =>
      rw [abandoned.client] at sends
      cases sends
  | receive _ available => exact available abandoned.toClient
  | serve step =>
      rcases abandoned.worker with ⟨frame, worker⟩ | worker
      · simp [workerStep, worker, inbound, abandoned.toServer, Inbound.recv,
          Inbound.peek] at step
      · simp [workerStep, worker] at step

theorem Greeted.abandoned (call : setting.call.channel = .stream)
    {handled : Handled}
    (returned : handledHandshake setting server = some handled)
    (greeted : Greeted setting handled exchange) : Abandoned exchange := by
  have closes : frameOp (handshake setting) &&& 0xf = frameOpClos := by
    rw [handshake, call]
    exact headed_closes _
  have other : frameOpClos ≠ frameOpOpen := by decide
  have received : Inbound.recv
      { stream := handshake setting, closed := false } 12 =
      some (handshake setting, { stream := [], closed := false }) := by
    apply recv_short
    · exact List.cons_ne_nil _ _
    · rw [handshake, length_headed]
      decide
  simp only [handledHandshake, handleContext, closes, if_neg other, if_true,
    received, Option.map_some, Option.some.injEq] at returned
  subst returned
  refine ⟨greeted.client, greeted.toClient, greeted.toServer, ?_⟩
  rw [greeted.worker]
  split
  · exact Or.inr rfl
  · exact Or.inl ⟨_, rfl⟩

/-- The client of a stream is never answered. -/
theorem stream_open_waits (call : setting.call.channel = .stream)
    (reached : (openExchanges setting).Reachable (.connected server)
      exchange)
    (rest : (openExchanges setting).Stuck exchange) :
    exchange.client = .receiveAck := by
  have waiting : Greeting setting server exchange ∨ Abandoned exchange := by
    apply reached.invariant (fun exchange =>
      Greeting setting server exchange ∨ Abandoned exchange)
    · exact Or.inl connected_greeting
    · rintro state label next (greeting | abandoned) step
      · rcases greeting.step step with still | ⟨handled, returned, greeted⟩
        · exact Or.inl still
        · exact Or.inr (greeted.abandoned call returned)
      · exact (abandoned.stuck label next step).elim
  rcases waiting with greeting | abandoned
  · rcases greeting.handshaking with ⟨client, _, _⟩ | ⟨client, _, _⟩
    · have sends : exchange.client.send setting.call
          setting.handshakePadding =
          some (handshake setting, .receiveAck) := by
        rw [client]
        rfl
      exact (rest _ _ (.send sends)).elim
    · exact client
  · exact abandoned.client

/-- The four bytes of a reply the client takes for the descriptor. -/
def takenFd (setting : OpenSetting) : List UInt8 :=
  (frameOpOpen ||| frameDevCtx) :: (setting.replyPadding 0).bytes

/-- The worker has made a context and replied with its id; the client reads
the reply as the acknowledgement and a descriptor. -/
structure Answered (setting : OpenSetting) (server : ContextServer)
    (exchange : OpenExchange) : Prop where
  created : server.created < exchange.server.created
  reading :
    (exchange.client = .receiveAck ∧ ∃ more, exchange.toClient =
        littleEndian32 handshakeHeader ++ (takenFd setting ++ more)) ∨
      ((exchange.client = .sendPathLen ∨ exchange.client = .sendPath ∨
          exchange.client = .sendSize ∨ exchange.client = .receiveFd) ∧
        ∃ more, exchange.toClient = takenFd setting ++ more) ∨
      exchange.client = OpenPc.receiveFd.receive setting.fd (takenFd setting)

theorem handledHandshake_mapped (call : setting.call.channel = .mapped) :
    handledHandshake setting server =
      some
        { server := (server.openContext true).1
          inbound := { stream := handshake setting, closed := false }
          actions := [openAction server.freeEntry]
          result := (server.openContext true).2 } := by
  have opens : frameOp (handshake setting) &&& 0xf = frameOpOpen := by
    rw [handshake, call]
    exact headed_opens _
  simp only [handledHandshake, handleContext, opens, if_true]

theorem Greeted.answered (call : setting.call.channel = .mapped)
    {index : Nat} (free : server.freeEntry = some index)
    {handled : Handled}
    (returned : handledHandshake setting server = some handled)
    (greeted : Greeted setting handled exchange) :
    Answered setting server exchange := by
  rw [handledHandshake_mapped call, free] at returned
  obtain rfl := Option.some.inj returned
  constructor
  · rw [greeted.server]
    simp [ContextServer.openContext, free]
  · refine Or.inl ⟨greeted.client,
      littleEndian32 (UInt32.ofNat index), ?_⟩
    rw [greeted.toClient]
    simp [reply, headed, takenFd, openAction]

theorem receiveFd_returned (fd : UInt32) (bytes : List UInt8) :
    ∃ device, OpenPc.receiveFd.receive fd bytes = .returned device := by
  simp only [OpenPc.receive]
  split
  · exact ⟨_, rfl⟩
  · exact ⟨_, rfl⟩

theorem Answered.send (answered : Answered setting server exchange)
    {bytes : List UInt8} {client : OpenPc}
    (sends : exchange.client.send setting.call setting.handshakePadding =
      some (bytes, client)) :
    Answered setting server
      { exchange with
        client := client
        toServer := exchange.toServer ++ bytes } := by
  refine ⟨answered.created, ?_⟩
  rcases answered.reading with ⟨pc, _⟩ | ⟨pc | pc | pc | pc, unread⟩ | pc
  · rw [pc] at sends
    cases sends
  · rw [pc] at sends
    obtain ⟨rfl, rfl⟩ := Prod.mk.inj (Option.some.inj sends)
    exact Or.inr (Or.inl ⟨Or.inr (Or.inl rfl), unread⟩)
  · rw [pc] at sends
    obtain ⟨rfl, rfl⟩ := Prod.mk.inj (Option.some.inj sends)
    exact Or.inr (Or.inl ⟨Or.inr (Or.inr (Or.inl rfl)), unread⟩)
  · rw [pc] at sends
    obtain ⟨rfl, rfl⟩ := Prod.mk.inj (Option.some.inj sends)
    exact Or.inr (Or.inl ⟨Or.inr (Or.inr (Or.inr rfl)), unread⟩)
  · rw [pc] at sends
    cases sends
  · obtain ⟨device, returned⟩ :=
      receiveFd_returned setting.fd (takenFd setting)
    rw [pc, returned] at sends
    cases sends

theorem Answered.receive (answered : Answered setting server exchange)
    (receives : exchange.client.Receives) :
    Answered setting server
      { exchange with
        client := exchange.client.receive setting.fd
          (exchange.toClient.take 4)
        toClient := exchange.toClient.drop 4 } := by
  refine ⟨answered.created, ?_⟩
  rcases answered.reading with
    ⟨pc, more, unread⟩ | ⟨pc | pc | pc | pc, more, unread⟩ | pc
  · have acknowledged : exchange.client.receive setting.fd
        (exchange.toClient.take 4) = .sendPathLen := by
      rw [pc, unread]
      rfl
    refine Or.inr (Or.inl ⟨Or.inl acknowledged, more, ?_⟩)
    simp only [unread]
    rfl
  · rw [pc] at receives
    exact receives.elim
  · rw [pc] at receives
    exact receives.elim
  · rw [pc] at receives
    exact receives.elim
  · refine Or.inr (Or.inr ?_)
    simp only [pc, unread]
    rfl
  · obtain ⟨device, returned⟩ :=
      receiveFd_returned setting.fd (takenFd setting)
    rw [pc, returned] at receives
    exact receives.elim

theorem Answered.serve (answered : Answered setting server exchange)
    (step : exchange.workerStep setting = some next) :
    Answered setting server next := by
  obtain ⟨client, _, ⟨extra, toClient⟩, _, created⟩ :=
    workerStep_progress step
  refine ⟨Nat.lt_of_lt_of_le answered.created created, ?_⟩
  rw [client, toClient]
  rcases answered.reading with ⟨pc, more, unread⟩ | ⟨pc, more, unread⟩ | pc
  · refine Or.inl ⟨pc, more ++ extra, ?_⟩
    rw [unread, List.append_assoc, List.append_assoc]
  · refine Or.inr (Or.inl ⟨pc, more ++ extra, ?_⟩)
    rw [unread, List.append_assoc]
  · exact Or.inr (Or.inr pc)

theorem Answered.step (answered : Answered setting server exchange)
    (step : OpenStep setting exchange move next) :
    Answered setting server next := by
  cases step with
  | send sends => exact answered.send sends
  | receive receives _ => exact answered.receive receives
  | serve step => exact answered.serve step

theorem Greeting.not_stuck (greeting : Greeting setting server exchange)
    {handled : Handled}
    (returned : handledHandshake setting server = some handled) :
    ¬(openExchanges setting).Stuck exchange := by
  intro rest
  rcases greeting.handshaking with ⟨client, _, _⟩ |
    ⟨client, sent, worker | worker⟩
  · exact rest _ _ (.send (by rw [client]; rfl))
  · exact rest _ _ (.serve (workerStep_peek sent worker))
  · have handles : handleContext exchange.server
        (List.ofFn (setting.stack.clientFrame exchange.calls))
        exchange.inbound (handshake setting) = some handled := by
      rw [greeting.untouched, greeting.first, inbound, sent]
      exact returned
    have step : ∃ next, exchange.workerStep setting = some next := by
      simp only [workerStep, worker, handles, Option.map_some]
      exact ⟨_, rfl⟩
    obtain ⟨next, step⟩ := step
    exact rest _ _ (.serve step)

theorem Answered.returned (answered : Answered setting server exchange)
    (rest : (openExchanges setting).Stuck exchange) :
    exchange.client =
      OpenPc.receiveFd.receive setting.fd (takenFd setting) := by
  rcases answered.reading with
    ⟨pc, more, unread⟩ | ⟨pc | pc | pc | pc, more, unread⟩ | pc
  · have receives : exchange.client.Receives := by
      rw [pc]
      trivial
    have available : exchange.toClient ≠ [] := by
      rw [unread]
      exact List.cons_ne_nil _ _
    exact (rest _ _ (.receive receives available)).elim
  · exact (rest _ _ (.send (by rw [pc]; rfl))).elim
  · exact (rest _ _ (.send (by rw [pc]; rfl))).elim
  · exact (rest _ _ (.send (by rw [pc]; rfl))).elim
  · have receives : exchange.client.Receives := by
      rw [pc]
      trivial
    have available : exchange.toClient ≠ [] := by
      rw [unread]
      exact List.cons_ne_nil _ _
    exact (rest _ _ (.receive receives available)).elim
  · exact pc

/-- A mapped device is never opened, but a context is made for it, and the
client takes the operation and the padding of the reply for a descriptor. -/
theorem mapped_open_takes_reply (call : setting.call.channel = .mapped)
    {index : Nat} (free : server.freeEntry = some index)
    (reached : (openExchanges setting).Reachable (.connected server)
      exchange)
    (rest : (openExchanges setting).Stuck exchange) :
    server.created < exchange.server.created ∧
      exchange.client = OpenPc.receiveFd.receive setting.fd
        (takenFd setting) := by
  have phases : Greeting setting server exchange ∨
      Answered setting server exchange := by
    apply reached.invariant (fun exchange =>
      Greeting setting server exchange ∨ Answered setting server exchange)
    · exact Or.inl connected_greeting
    · rintro state label next (greeting | answered) step
      · rcases greeting.step step with still | ⟨handled, returned, greeted⟩
        · exact Or.inl still
        · exact Or.inr (greeted.answered call free returned)
      · exact Or.inr (answered.step step)
  rcases phases with greeting | answered
  · exact (greeting.not_stuck (handledHandshake_mapped call) rest).elim
  · exact ⟨answered.created, answered.returned rest⟩

end OpenExchange

/-- Whatever the path, the size and the state of the server, the two ends do
not agree on how a device is opened. -/
theorem opens_never_in_agreement (setting : OpenSetting)
    (server : ContextServer) : ¬OpensInAgreement setting server := by
  intro agreement
  obtain ⟨exchange, reached, rest⟩ :=
    OpenExchange.comes_to_rest setting server
  have routed := (agreement exchange reached rest).routed
  rw [(OpenExchange.reachable_inTask reached).2] at routed
  cases routed

/-- `/dev/tc`, the path the server has by default. -/
def defaultPath : DevicePath :=
  ⟨[0x2f, 0x64, 0x65, 0x76, 0x2f, 0x74, 0x63], by decide⟩

/-- A mapped device that the server can open, with all padding and all
variables zero. -/
def defaultOpening : OpenSetting :=
  { call := .mapped defaultPath 512
    handshakePadding := ⟨0, 0, 0⟩
    fd := 0
    stack := { frameTop := fun _ => 0, clientFrame := fun _ _ => 0 }
    replyPadding := fun _ => ⟨0, 0, 0⟩
    pathLen := 0
    openLocal := fun _ _ => some 3 }

/-- A mapped device is opened on a server without contexts: a context is made
for the handshake. -/
theorem fresh_server_makes_context :
    ¬∀ setting server, OpensInAgreement setting server := by
  intro agreement
  have free : ContextServer.initial.freeEntry = some 0 := by decide
  obtain ⟨exchange, reached, rest⟩ :=
    OpenExchange.comes_to_rest defaultOpening .initial
  obtain ⟨created, _⟩ :=
    OpenExchange.mapped_open_takes_reply rfl free reached rest
  have agreed := agreement defaultOpening .initial exchange reached rest
  rw [agreed.noContext.1] at created
  exact Nat.lt_irrefl _ created

end StreamIO.Backend
