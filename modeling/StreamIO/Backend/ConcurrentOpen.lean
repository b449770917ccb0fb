import Mathlib.Data.Fintype.Basic
import StreamIO.Library.ScriptedRun
import StreamIO.Library.TransitionSystem
import StreamIO.Backend.Context

/-!
# Contexts opened by several workers

The workers of the thread pool run `handle_context` at the same time on one
table.  A worker tests an entry, creates a context, sends the reply and
stores the context, and any other worker may run between two of these steps.
-/

namespace StreamIO.Backend

open StreamIO.Library

/-- Where a worker stands in the `OPEN` branch of `handle_context`. -/
inductive OpenerPc where
  | idle
  | scanning (index : Nat)
  | creating (index : Nat)
  | sending (index context : Nat)
  | storing (index context : Nat)
  | clearing (index : Nat)
  deriving DecidableEq, Repr

/-- The worker has found the entry empty and has not yet written to it. -/
def OpenerPc.Claims (index : Nat) : OpenerPc → Prop
  | .idle => False
  | .scanning _ => False
  | .creating entry => entry = index
  | .sending entry _ => entry = index
  | .storing entry _ => entry = index
  | .clearing entry => entry = index

/-- The workers and the table they share; `replied` lists the replies sent,
each with the context created for it. -/
structure Workers (Worker : Type u) where
  server : ContextServer
  pc : Worker → OpenerPc
  replied : List (Nat × Nat)

/-- A worker takes up an `OPEN`, gets on with one, or handles a `CLOSE`. -/
inductive WorkerMove where
  | openFrame
  | advance (sent : Bool)
  | closeFrame (ctxId : UInt32)
  deriving DecidableEq, Repr

variable {Worker : Type u} [DecidableEq Worker]

namespace Workers

def initial : Workers Worker :=
  { server := .initial, pc := fun _ => .idle, replied := [] }

def setPc (state : Workers Worker) (worker : Worker) (pc : OpenerPc) :
    Workers Worker :=
  { state with pc := Function.update state.pc worker pc }

/-- One step of the `OPEN` branch; `sent` says whether the reply can be
sent. -/
def advance (state : Workers Worker) (worker : Worker) (sent : Bool) :
    Workers Worker :=
  match state.pc worker with
  | .idle => state
  | .scanning index =>
      if state.server.openedCtxList index = none then
        state.setPc worker (.creating index)
      else if index + 1 < 4 then state.setPc worker (.scanning (index + 1))
      else state.setPc worker .idle
  | .creating index =>
      { state with
        server := { state.server with created := state.server.created + 1 }
        pc := Function.update state.pc worker
          (.sending index state.server.created) }
  | .sending index context =>
      if sent then
        { server := { state.server with
            replies := state.server.replies ++ [index] }
          pc := Function.update state.pc worker (.storing index context)
          replied := state.replied ++ [(index, context)] }
      else
        { state with
          server := { state.server with
            closed := state.server.closed ++ [context] }
          pc := Function.update state.pc worker (.clearing index) }
  | .storing index context =>
      { state with
        server := { state.server with
          openedCtxList := Function.update state.server.openedCtxList index
            (some context)
          opened := state.server.opened ++ [context] }
        pc := Function.update state.pc worker .idle }
  | .clearing index =>
      { state with
        server := { state.server with
          openedCtxList :=
            Function.update state.server.openedCtxList index none }
        pc := Function.update state.pc worker .idle }

def Enabled (state : Workers Worker) (worker : Worker) : WorkerMove → Prop
  | .openFrame => state.pc worker = .idle
  | .advance _ => state.pc worker ≠ .idle
  | .closeFrame _ => state.pc worker = .idle

def move (state : Workers Worker) (worker : Worker) :
    WorkerMove → Workers Worker
  | .openFrame => state.setPc worker (.scanning 0)
  | .advance sent => state.advance worker sent
  | .closeFrame ctxId =>
      { state with server := (state.server.closeContext ctxId).1 }

/-- Any worker may move at any time. -/
def interleavings :
    TransitionSystem (Workers Worker) (Worker × WorkerMove) where
  step state label next :=
    state.Enabled label.1 label.2 ∧ next = state.move label.1 label.2

/-- No worker finds an entry empty that another one has claimed. -/
def Exclusive (state : Workers Worker) (worker : Worker) : Prop :=
  ∀ index, state.pc worker = .scanning index →
    state.server.openedCtxList index = none →
    ∀ other, ¬(state.pc other).Claims index

def exclusiveInterleavings :
    TransitionSystem (Workers Worker) (Worker × WorkerMove) where
  step state label next :=
    (state.Enabled label.1 label.2 ∧ next = state.move label.1 label.2) ∧
      state.Exclusive label.1

/-- Replies whose contexts have not been closed carry different ids. -/
def Distinct (state : Workers Worker) : Prop :=
  state.replied.Pairwise fun first second =>
    first.2 ∉ state.server.closed → second.2 ∉ state.server.closed →
    first.1 ≠ second.1

/-- The context of every reply is in the table under the id replied, or its
worker is about to store it there. -/
def Stored (state : Workers Worker) : Prop :=
  ∀ reply ∈ state.replied,
    state.server.openedCtxList reply.1 = some reply.2 ∨
      ∃ worker, state.pc worker = .storing reply.1 reply.2

end Workers

/-- Every claimed entry is empty and claimed by one worker. -/
structure ClaimedOnce {Worker : Type u} (table : Nat → Option Nat)
    (pc : Worker → OpenerPc) : Prop where
  single : ∀ index left right, (pc left).Claims index →
    (pc right).Claims index → left = right
  vacant : ∀ index worker, (pc worker).Claims index → table index = none

/-- Contexts are told apart by the order of their creation, and none is sent
twice. -/
structure SentOnce {Worker : Type u} (created : Nat) (pc : Worker → OpenerPc)
    (replied : List (Nat × Nat)) : Prop where
  made : ∀ reply ∈ replied, reply.2 < created
  unsent : ∀ worker index context, pc worker = .sending index context →
    context < created ∧ context ∉ replied.map Prod.snd
  apart : ∀ left right first second context,
    pc left = .sending first context →
    pc right = .sending second context → left = right
  distinct : (replied.map Prod.snd).Nodup

namespace ClaimedOnce

variable {table : Nat → Option Nat} {pc : Worker → OpenerPc} {worker : Worker}

theorem update (claimed : ClaimedOnce table pc) {next : OpenerPc}
    (free : ∀ index, next.Claims index → table index = none ∧
      ∀ other, other ≠ worker → ¬(pc other).Claims index) :
    ClaimedOnce table (Function.update pc worker next) := by
  constructor
  · intro index left right leftClaims rightClaims
    by_cases leftSelf : left = worker
    · by_cases rightSelf : right = worker
      · rw [leftSelf, rightSelf]
      · rw [leftSelf, Function.update_self] at leftClaims
        rw [Function.update_of_ne rightSelf] at rightClaims
        exact ((free index leftClaims).2 right rightSelf rightClaims).elim
    · rw [Function.update_of_ne leftSelf] at leftClaims
      by_cases rightSelf : right = worker
      · rw [rightSelf, Function.update_self] at rightClaims
        exact ((free index rightClaims).2 left leftSelf leftClaims).elim
      · rw [Function.update_of_ne rightSelf] at rightClaims
        exact claimed.single index left right leftClaims rightClaims
  · intro index other claims
    by_cases self : other = worker
    · rw [self, Function.update_self] at claims
      exact (free index claims).1
    · rw [Function.update_of_ne self] at claims
      exact claimed.vacant index other claims

theorem keep (claimed : ClaimedOnce table pc) {next : OpenerPc}
    (same : ∀ index, next.Claims index → (pc worker).Claims index) :
    ClaimedOnce table (Function.update pc worker next) := by
  apply claimed.update
  intro index claims
  refine ⟨claimed.vacant index worker (same index claims), ?_⟩
  intro other different otherClaims
  exact different (claimed.single index other worker otherClaims
    (same index claims))

theorem release (claimed : ClaimedOnce table pc) {index : Nat}
    (claims : (pc worker).Claims index) (entry : Option Nat) :
    ClaimedOnce (Function.update table index entry)
      (Function.update pc worker .idle) := by
  have kept : ClaimedOnce table (Function.update pc worker .idle) :=
    claimed.keep (fun _ none => none.elim)
  refine ⟨kept.single, ?_⟩
  intro other candidate candidateClaims
  by_cases self : candidate = worker
  · rw [self, Function.update_self] at candidateClaims
    exact candidateClaims.elim
  · have different : other ≠ index := by
      rintro rfl
      rw [Function.update_of_ne self] at candidateClaims
      exact self (claimed.single other candidate worker candidateClaims
        claims)
    rw [Function.update_of_ne different]
    exact kept.vacant other candidate candidateClaims

end ClaimedOnce

namespace SentOnce

variable {created : Nat} {pc : Worker → OpenerPc}
  {replied : List (Nat × Nat)} {worker : Worker}

theorem update (sent : SentOnce created pc replied) {next : OpenerPc}
    (elsewhere : ∀ index context, next ≠ .sending index context) :
    SentOnce created (Function.update pc worker next) replied := by
  have before : ∀ other index context,
      Function.update pc worker next other = .sending index context →
      pc other = .sending index context := by
    intro other index context sending
    by_cases self : other = worker
    · rw [self, Function.update_self] at sending
      exact (elsewhere index context sending).elim
    · rwa [Function.update_of_ne self] at sending
  refine ⟨sent.made, ?_, ?_, sent.distinct⟩
  · intro other index context sending
    exact sent.unsent other index context (before other index context sending)
  · intro left right first second context leftSending rightSending
    exact sent.apart left right first second context
      (before left first context leftSending)
      (before right second context rightSending)

theorem create (sent : SentOnce created pc replied) (index : Nat) :
    SentOnce (created + 1)
      (Function.update pc worker (.sending index created)) replied := by
  have fresh : created ∉ replied.map Prod.snd := by
    intro member
    obtain ⟨reply, replyMember, same⟩ := List.mem_map.mp member
    have older := sent.made reply replyMember
    omega
  have unused : ∀ other entry, pc other ≠ .sending entry created := by
    intro other entry sending
    have older := (sent.unsent other entry created sending).1
    omega
  refine ⟨?_, ?_, ?_, sent.distinct⟩
  · intro reply member
    have older := sent.made reply member
    omega
  · intro other entry context sending
    by_cases self : other = worker
    · rw [self, Function.update_self] at sending
      obtain ⟨_, rfl⟩ := OpenerPc.sending.inj sending
      exact ⟨Nat.lt_succ_self _, fresh⟩
    · rw [Function.update_of_ne self] at sending
      obtain ⟨older, notReplied⟩ := sent.unsent other entry context sending
      exact ⟨Nat.lt_succ_of_lt older, notReplied⟩
  · intro left right first second context leftSending rightSending
    by_cases leftSelf : left = worker
    · by_cases rightSelf : right = worker
      · rw [leftSelf, rightSelf]
      · rw [leftSelf, Function.update_self] at leftSending
        rw [Function.update_of_ne rightSelf] at rightSending
        obtain ⟨_, rfl⟩ := OpenerPc.sending.inj leftSending
        exact (unused right second rightSending).elim
    · rw [Function.update_of_ne leftSelf] at leftSending
      by_cases rightSelf : right = worker
      · rw [rightSelf, Function.update_self] at rightSending
        obtain ⟨_, rfl⟩ := OpenerPc.sending.inj rightSending
        exact (unused left first leftSending).elim
      · rw [Function.update_of_ne rightSelf] at rightSending
        exact sent.apart left right first second context leftSending
          rightSending

theorem reply (sent : SentOnce created pc replied) {index context : Nat}
    (sending : pc worker = .sending index context) :
    SentOnce created
      (Function.update pc worker (.storing index context))
      (replied ++ [(index, context)]) := by
  obtain ⟨older, fresh⟩ := sent.unsent worker index context sending
  have moved : SentOnce created
      (Function.update pc worker (.storing index context)) replied :=
    sent.update (fun _ _ impossible => nomatch impossible)
  refine ⟨?_, ?_, moved.apart, ?_⟩
  · intro item member
    rcases List.mem_append.mp member with old | new
    · exact sent.made item old
    · rw [List.mem_singleton.mp new]
      exact older
  · intro other entry otherContext otherSending
    obtain ⟨otherOlder, otherFresh⟩ :=
      moved.unsent other entry otherContext otherSending
    refine ⟨otherOlder, ?_⟩
    rw [List.map_append, List.mem_append]
    rintro (old | new)
    · exact otherFresh old
    · have same : otherContext = context := by simpa using new
      subst otherContext
      by_cases self : other = worker
      · rw [self, Function.update_self] at otherSending
        cases otherSending
      · rw [Function.update_of_ne self] at otherSending
        exact self (sent.apart other worker entry index context otherSending
          sending)
  · rw [List.map_append, List.nodup_append]
    refine ⟨sent.distinct, by simp, ?_⟩
    intro old oldMember new newMember same
    have isContext : new = context := by simpa using newMember
    rw [same, isContext] at oldMember
    exact fresh oldMember

end SentOnce

namespace Workers

/-- The invariant of runs in which no claimed entry is claimed again. -/
structure Guarded (state : Workers Worker) : Prop where
  claimed : ClaimedOnce state.server.openedCtxList state.pc
  sent : SentOnce state.server.created state.pc state.replied
  stored : state.Stored

namespace Guarded

variable {state : Workers Worker}

omit [DecidableEq Worker] in
theorem initial : Guarded (Workers.initial : Workers Worker) := by
  refine ⟨⟨?_, ?_⟩, ⟨?_, ?_, ?_, .nil⟩, ?_⟩
  · intro index left right claims
    exact claims.elim
  · intro index worker claims
    exact claims.elim
  · intro reply member
    cases member
  · intro worker index context sending
    cases sending
  · intro left right first second context sending
    cases sending
  · intro reply member
    cases member

omit [DecidableEq Worker] in
theorem replied_distinct (guarded : Guarded state) : state.Distinct := by
  have contexts : state.replied.Pairwise fun first second =>
      first.2 ≠ second.2 := List.pairwise_map.mp guarded.sent.distinct
  apply contexts.imp_of_mem
  intro first second firstMember secondMember different _ _ sameId
  apply different
  rcases guarded.stored first firstMember with firstEntry | ⟨left, leftStoring⟩
  · rcases guarded.stored second secondMember with
      secondEntry | ⟨right, rightStoring⟩
    · rw [sameId, secondEntry] at firstEntry
      exact (Option.some.inj firstEntry).symm
    · have vacant := guarded.claimed.vacant second.1 right
        (by rw [rightStoring]; rfl)
      rw [sameId, vacant] at firstEntry
      cases firstEntry
  · have leftClaims : (state.pc left).Claims first.1 := by
      rw [leftStoring]
      rfl
    rcases guarded.stored second secondMember with
      secondEntry | ⟨right, rightStoring⟩
    · have vacant := guarded.claimed.vacant first.1 left leftClaims
      rw [sameId, secondEntry] at vacant
      cases vacant
    · have same : left = right := by
        apply guarded.claimed.single first.1 left right leftClaims
        rw [rightStoring, sameId]
        rfl
      rw [same, rightStoring] at leftStoring
      exact (OpenerPc.storing.inj leftStoring).2.symm

theorem stored_elsewhere (guarded : Guarded state) {worker : Worker}
    (was : ∀ index context, state.pc worker ≠ .storing index context)
    (next : OpenerPc) :
    ∀ reply ∈ state.replied,
      state.server.openedCtxList reply.1 = some reply.2 ∨
        ∃ owner, Function.update state.pc worker next owner =
          .storing reply.1 reply.2 := by
  intro reply member
  rcases guarded.stored reply member with entry | ⟨owner, storing⟩
  · exact Or.inl entry
  · right
    refine ⟨owner, ?_⟩
    have different : owner ≠ worker := by
      rintro rfl
      exact was _ _ storing
    rw [Function.update_of_ne different]
    exact storing

theorem setPc (guarded : Guarded state) {worker : Worker} {next : OpenerPc}
    (free : ∀ index, next.Claims index →
      state.server.openedCtxList index = none ∧
        ∀ other, other ≠ worker → ¬(state.pc other).Claims index)
    (was : ∀ index context, state.pc worker ≠ .storing index context)
    (elsewhere : ∀ index context, next ≠ .sending index context) :
    Guarded (state.setPc worker next) :=
  ⟨guarded.claimed.update free, guarded.sent.update elsewhere,
    guarded.stored_elsewhere was next⟩

theorem scan (guarded : Guarded state) {worker : Worker} {index : Nat}
    (scanning : state.pc worker = .scanning index)
    (exclusive : state.Exclusive worker) (sent : Bool) :
    Guarded (state.advance worker sent) := by
  have was : ∀ entry context, state.pc worker ≠ .storing entry context := by
    intro entry context storing
    rw [scanning] at storing
    cases storing
  simp only [advance, scanning]
  split
  · rename_i empty
    refine guarded.setPc ?_ was ?_
    · rintro entry rfl
      exact ⟨empty, fun other _ => exclusive index scanning empty other⟩
    · exact fun _ _ impossible => nomatch impossible
  · split
    · exact guarded.setPc (fun _ none => none.elim) was
        (fun _ _ impossible => nomatch impossible)
    · exact guarded.setPc (fun _ none => none.elim) was
        (fun _ _ impossible => nomatch impossible)

theorem create (guarded : Guarded state) {worker : Worker} {index : Nat}
    (creating : state.pc worker = .creating index) (sent : Bool) :
    Guarded (state.advance worker sent) := by
  simp only [advance, creating]
  refine ⟨?_, guarded.sent.create index, ?_⟩
  · apply guarded.claimed.keep
    intro entry claims
    rw [creating]
    exact claims
  · apply guarded.stored_elsewhere
    intro entry context storing
    rw [creating] at storing
    cases storing

theorem send (guarded : Guarded state) {worker : Worker}
    {index context : Nat}
    (sending : state.pc worker = .sending index context) (sent : Bool) :
    Guarded (state.advance worker sent) := by
  have was : ∀ entry other, state.pc worker ≠ .storing entry other := by
    intro entry other storing
    rw [sending] at storing
    cases storing
  have kept : ∀ next : OpenerPc,
      (∀ entry, next.Claims entry → index = entry) →
      ClaimedOnce state.server.openedCtxList
        (Function.update state.pc worker next) := by
    intro next same
    apply guarded.claimed.keep
    intro entry claims
    rw [sending]
    exact same entry claims
  simp only [advance, sending]
  split
  · refine ⟨kept _ (fun _ claims => claims), guarded.sent.reply sending, ?_⟩
    intro reply member
    rcases List.mem_append.mp member with old | new
    · exact guarded.stored_elsewhere was _ reply old
    · right
      rw [List.mem_singleton.mp new]
      exact ⟨worker, Function.update_self ..⟩
  · exact ⟨kept _ (fun _ claims => claims),
      guarded.sent.update (fun _ _ impossible => nomatch impossible),
      guarded.stored_elsewhere was _⟩

theorem store (guarded : Guarded state) {worker : Worker}
    {index context : Nat}
    (storing : state.pc worker = .storing index context) (sent : Bool) :
    Guarded (state.advance worker sent) := by
  have claims : (state.pc worker).Claims index := by
    rw [storing]
    rfl
  have vacant := guarded.claimed.vacant index worker claims
  simp only [advance, storing]
  refine ⟨guarded.claimed.release claims (some context),
    guarded.sent.update (fun _ _ impossible => nomatch impossible), ?_⟩
  intro reply member
  rcases guarded.stored reply member with entry | ⟨owner, ownerStoring⟩
  · left
    have different : reply.1 ≠ index := by
      intro same
      rw [same, vacant] at entry
      cases entry
    simp only
    rw [Function.update_of_ne different]
    exact entry
  · by_cases self : owner = worker
    · left
      rw [self, storing] at ownerStoring
      obtain ⟨sameIndex, sameContext⟩ := OpenerPc.storing.inj ownerStoring
      simp only
      rw [← sameIndex, ← sameContext, Function.update_self]
    · right
      refine ⟨owner, ?_⟩
      simp only
      rw [Function.update_of_ne self]
      exact ownerStoring

theorem clear (guarded : Guarded state) {worker : Worker} {index : Nat}
    (clearing : state.pc worker = .clearing index) (sent : Bool) :
    Guarded (state.advance worker sent) := by
  have claims : (state.pc worker).Claims index := by
    rw [clearing]
    rfl
  have vacant := guarded.claimed.vacant index worker claims
  have was : ∀ entry context, state.pc worker ≠ .storing entry context := by
    intro entry context storing
    rw [clearing] at storing
    cases storing
  have unchanged :
      Function.update state.server.openedCtxList index none =
        state.server.openedCtxList := by
    rw [← vacant, Function.update_eq_self]
  simp only [advance, clearing]
  refine ⟨guarded.claimed.release claims none,
    guarded.sent.update (fun _ _ impossible => nomatch impossible), ?_⟩
  simp only [Stored, unchanged]
  exact guarded.stored_elsewhere was _

/-- Every move that respects claims keeps the invariant. -/
theorem move (guarded : Guarded state) {worker : Worker} {move : WorkerMove}
    (enabled : state.Enabled worker move)
    (exclusive : state.Exclusive worker) :
    Guarded (state.move worker move) := by
  cases move with
  | openFrame =>
      refine guarded.setPc ?_ ?_ ?_
      · intro index none
        exact none.elim
      · intro index context storing
        have idle : state.pc worker = .idle := enabled
        rw [idle] at storing
        cases storing
      · exact fun _ _ impossible => nomatch impossible
  | advance sent =>
      cases at_ : state.pc worker with
      | idle => exact (enabled at_).elim
      | scanning index => exact guarded.scan at_ exclusive sent
      | creating index => exact guarded.create at_ sent
      | sending index context => exact guarded.send at_ sent
      | storing index context => exact guarded.store at_ sent
      | clearing index => exact guarded.clear at_ sent
  | closeFrame ctxId =>
      have table : (state.server.closeContext ctxId).1.openedCtxList =
          state.server.openedCtxList := by
        unfold ContextServer.closeContext
        split
        · split
          · rfl
          · rfl
        · rfl
      have created : (state.server.closeContext ctxId).1.created =
          state.server.created := by
        unfold ContextServer.closeContext
        split
        · split
          · rfl
          · rfl
        · rfl
      refine ⟨?_, ?_, ?_⟩
      · simp only [Workers.move, table]
        exact guarded.claimed
      · simp only [Workers.move, created]
        exact guarded.sent
      · simp only [Workers.move, Stored, table]
        exact guarded.stored

end Guarded

theorem interleavings_step {first state : Workers Worker}
    (reached : interleavings.Reachable first state) (worker : Worker)
    (move : WorkerMove) (enabled : state.Enabled worker move) :
    interleavings.Reachable first (state.move worker move) :=
  have next : interleavings.step state (worker, move)
      (state.move worker move) := ⟨enabled, rfl⟩
  reached.step next

theorem exclusiveInterleavings_step {first state : Workers Worker}
    (reached : exclusiveInterleavings.Reachable first state)
    (worker : Worker) (move : WorkerMove)
    (enabled : state.Enabled worker move)
    (exclusive : state.Exclusive worker) :
    exclusiveInterleavings.Reachable first (state.move worker move) :=
  have next : exclusiveInterleavings.step state (worker, move)
      (state.move worker move) := ⟨⟨enabled, rfl⟩, exclusive⟩
  reached.step next

/-- In every run in which no worker finds an entry empty that another one has
claimed, open ids are distinct and name the contexts created for them. -/
theorem exclusive_distinct_and_stored {state : Workers Worker}
    (reached : exclusiveInterleavings.Reachable Workers.initial state) :
    state.Distinct ∧ state.Stored := by
  have guarded : Guarded state := by
    apply reached.invariant Guarded Guarded.initial
    rintro earlier ⟨worker, move⟩ next guarded ⟨⟨enabled, rfl⟩, exclusive⟩
    exact guarded.move enabled exclusive
  exact ⟨guarded.replied_distinct, guarded.stored⟩

/-- Two workers that test entry zero before either of them stores. -/
def raced : Workers Bool :=
  [(false, WorkerMove.openFrame), (true, .openFrame),
    (false, .advance true), (true, .advance true),
    (false, .advance true), (true, .advance true),
    (false, .advance true), (true, .advance true)].foldl
    (fun state label => state.move label.1 label.2) initial

theorem raced_reachable : interleavings.Reachable initial raced := by
  have start : interleavings.Reachable (initial : Workers Bool) initial :=
    .refl _ _
  have first := interleavings_step start false .openFrame rfl
  have second := interleavings_step first true .openFrame rfl
  have third := interleavings_step second false (.advance true)
    (fun idle => nomatch idle)
  have fourth := interleavings_step third true (.advance true)
    (fun idle => nomatch idle)
  have fifth := interleavings_step fourth false (.advance true)
    (fun idle => nomatch idle)
  have sixth := interleavings_step fifth true (.advance true)
    (fun idle => nomatch idle)
  have seventh := interleavings_step sixth false (.advance true)
    (fun idle => nomatch idle)
  exact interleavings_step seventh true (.advance true)
    (fun idle => nomatch idle)

/-- Both of them reply with id zero. -/
theorem race_repeats_id :
    ¬∀ state : Workers Bool, interleavings.Reachable initial state →
      state.Distinct ∧ state.Stored := by
  intro always
  have distinct := (always raced raced_reachable).1
  have replied : raced.replied = [(0, 0), (0, 1)] := by decide +kernel
  have closed : raced.server.closed = [] := by decide +kernel
  simp [Distinct, replied, closed] at distinct

/-- The reply of an `OPEN` that no other worker gets in the way of. -/
def replyAlone (server : ContextServer) (sent : Bool) : List (Nat × Nat) :=
  match server.freeEntry with
  | some index => if sent then [(index, server.created)] else []
  | none => []

/-- The state after an `OPEN` that is handled in one go. -/
def openedAlone (state : Workers Worker) (sent : Bool) : Workers Worker :=
  { state with
    server := (state.server.openContext sent).1
    replied := state.replied ++ replyAlone state.server sent }

theorem setPc_setPc (state : Workers Worker) (worker : Worker)
    (first second : OpenerPc) :
    (state.setPc worker first).setPc worker second =
      state.setPc worker second := by
  simp [Workers.setPc]

theorem setPc_self (state : Workers Worker) (worker : Worker)
    (pc : OpenerPc) : (state.setPc worker pc).pc worker = pc :=
  Function.update_self ..

section Alone

variable {state : Workers Worker} {worker : Worker}

omit [DecidableEq Worker] in
theorem exclusive_of_idle
    (idle : ∀ other, other ≠ worker → state.pc other = .idle) :
    state.Exclusive worker := by
  intro index scanning _ other claims
  by_cases self : other = worker
  · rw [self, scanning] at claims
    exact claims.elim
  · rw [idle other self] at claims
    exact claims.elim

theorem advance_alone {first : Workers Worker}
    (reached : exclusiveInterleavings.Reachable first state)
    (worker : Worker) (busy : state.pc worker ≠ .idle)
    (idle : ∀ other, other ≠ worker → state.pc other = .idle)
    (sent : Bool) :
    exclusiveInterleavings.Reachable first (state.advance worker sent) :=
  exclusiveInterleavings_step reached worker (.advance sent) busy
    (exclusive_of_idle idle)

theorem scan_alone {first : Workers Worker} {count index : Nat}
    (total : index + (count + 1) = 4)
    (reached : exclusiveInterleavings.Reachable first
      (state.setPc worker (.scanning index)))
    (idle : ∀ other, state.pc other = .idle) (sent : Bool) :
    exclusiveInterleavings.Reachable first
      (state.setPc worker
        (match (List.range' index (count + 1)).find? fun entry =>
            state.server.openedCtxList entry = none with
        | some entry => .creating entry
        | none => .idle)) := by
  have others : ∀ pc : OpenerPc, ∀ other, other ≠ worker →
      (state.setPc worker pc).pc other = .idle := by
    intro pc other different
    exact (Function.update_of_ne different _ _).trans (idle other)
  induction count generalizing index with
  | zero =>
      have next := advance_alone reached worker
        (by rw [setPc_self]; intro busy; cases busy)
        (others _) sent
      simp only [advance, setPc_self, setPc_setPc] at next
      rw [if_neg (show ¬index + 1 < 4 by omega)] at next
      by_cases empty : state.server.openedCtxList index = none
      · simpa [Workers.setPc, empty] using next
      · simpa [Workers.setPc, empty] using next
  | succ count induction =>
      have next := advance_alone reached worker
        (by rw [setPc_self]; intro busy; cases busy)
        (others _) sent
      simp only [advance, setPc_self, setPc_setPc] at next
      rw [if_pos (show index + 1 < 4 by omega)] at next
      rw [List.range'_succ]
      by_cases empty : state.server.openedCtxList index = none
      · have found : (state.setPc worker
            (.scanning index)).server.openedCtxList index = none := empty
        rw [if_pos found] at next
        simpa [empty] using next
      · have taken : (state.setPc worker
            (.scanning index)).server.openedCtxList index ≠ none := empty
        rw [if_neg taken] at next
        have later := induction (by omega) next
        simpa [empty] using later

/-- A worker by itself does what `handle_context` does in one go. -/
theorem alone_opens (state : Workers Worker)
    (idle : ∀ other, state.pc other = .idle) (worker : Worker)
    (sent : Bool) :
    exclusiveInterleavings.Reachable state (state.openedAlone sent) := by
  have restored : ∀ pc : OpenerPc, Function.update
      (Function.update state.pc worker pc) worker .idle = state.pc := by
    intro pc
    rw [Function.update_idem, ← idle worker, Function.update_eq_self]
  have started := exclusiveInterleavings_step (.refl _ state) worker
    .openFrame (idle worker) (exclusive_of_idle (fun other _ => idle other))
  have scanned := scan_alone (show 0 + (3 + 1) = 4 by rfl) started idle sent
  have entries : (List.range' 0 (3 + 1)).find? (fun entry =>
      state.server.openedCtxList entry = none) =
      state.server.freeEntry := rfl
  rw [entries] at scanned
  simp only [openedAlone, replyAlone, ContextServer.openContext]
  cases free : state.server.freeEntry with
  | none =>
      rw [free] at scanned
      have unmoved : state.setPc worker .idle = state := by
        simp only [Workers.setPc]
        rw [← idle worker, Function.update_eq_self]
      simp only [List.append_nil]
      rw [unmoved] at scanned
      exact scanned
  | some index =>
      rw [free] at scanned
      have created := advance_alone scanned worker
        (by rw [setPc_self]; intro busy; cases busy)
        (by intro other different; simp [Workers.setPc, different, idle])
        sent
      simp only [advance, setPc_self] at created
      have replied := advance_alone created worker (by simp)
        (by intro other different; simp [Workers.setPc, different, idle])
        sent
      simp only [advance, Function.update_self] at replied
      cases sent with
      | true =>
          rw [if_pos rfl] at replied
          have stored := advance_alone replied worker (by simp)
            (by intro other different; simp [Workers.setPc, different, idle])
            true
          simpa [advance, Workers.setPc, restored] using stored
      | false =>
          rw [if_neg (by decide)] at replied
          have cleared := advance_alone replied worker (by simp)
            (by intro other different; simp [Workers.setPc, different, idle])
            false
          simpa [advance, Workers.setPc, restored] using cleared

end Alone

instance (index : Nat) : DecidablePred (OpenerPc.Claims index)
  | .idle => isFalse id
  | .scanning _ => isFalse id
  | .creating entry => inferInstanceAs (Decidable (entry = index))
  | .sending entry _ => inferInstanceAs (Decidable (entry = index))
  | .storing entry _ => inferInstanceAs (Decidable (entry = index))
  | .clearing entry => inferInstanceAs (Decidable (entry = index))

/-- No entry that is being tested is claimed. -/
def TestsUnclaimed (state : Workers Worker) : OpenerPc → Prop
  | .scanning index => state.server.openedCtxList index = none →
      ∀ other, ¬(state.pc other).Claims index
  | _ => True

omit [DecidableEq Worker] in
theorem exclusive_of_testsUnclaimed {state : Workers Worker}
    {worker : Worker} (unclaimed : state.TestsUnclaimed (state.pc worker)) :
    state.Exclusive worker := by
  intro index scanning empty other
  rw [scanning] at unclaimed
  exact unclaimed empty other

instance [Fintype Worker] (state : Workers Worker) :
    DecidablePred state.TestsUnclaimed
  | .scanning index => inferInstanceAs (Decidable
      (state.server.openedCtxList index = none →
        ∀ other, ¬(state.pc other).Claims index))
  | .idle => isTrue trivial
  | .creating _ => isTrue trivial
  | .sending _ _ => isTrue trivial
  | .storing _ _ => isTrue trivial
  | .clearing _ => isTrue trivial

instance (state : Workers Worker) (worker : Worker) :
    DecidablePred (state.Enabled worker)
  | .openFrame => inferInstanceAs (Decidable (state.pc worker = .idle))
  | .advance _ => inferInstanceAs (Decidable (state.pc worker ≠ .idle))
  | .closeFrame _ => inferInstanceAs (Decidable (state.pc worker = .idle))

/-- While one worker creates a context for entry one, replies and stores it,
another one goes past it, and the first takes up a further `OPEN` before the
second has stored its own. -/
def overlappingMoves : List (Bool × WorkerMove) :=
  [(true, .openFrame), (true, .advance true), (true, .advance true),
    (false, .openFrame), (true, .advance true), (false, .advance true),
    (true, .advance true), (true, .advance true), (false, .advance true),
    (false, .advance true), (true, .openFrame), (false, .advance true),
    (true, .advance true), (false, .advance true)]

/-- The state after them, with one context opened before. -/
def overlapped : Workers Bool :=
  runInputs (fun state label => state.move label.1 label.2)
    ((initial : Workers Bool).openedAlone true) overlappingMoves

theorem overlapped_distinct_and_stored :
    overlapped.replied = [(0, 0), (1, 1), (2, 2)] ∧
      overlapped.pc true = .scanning 1 ∧
      overlapped.pc false = .storing 2 2 ∧
      overlapped.Distinct ∧ overlapped.Stored := by
  have first := alone_opens (initial : Workers Bool) (fun _ => rfl) false
    true
  have every : EveryStep (fun state label => state.move label.1 label.2)
      (fun state label => state.Enabled label.1 label.2 ∧
        state.TestsUnclaimed (state.pc label.1))
      ((initial : Workers Bool).openedAlone true) overlappingMoves := by
    decide +kernel
  have second : exclusiveInterleavings.Run
      ((initial : Workers Bool).openedAlone true) overlappingMoves
      overlapped := by
    apply every.run
    intro state label allowed
    exact ⟨⟨allowed.1, rfl⟩, exclusive_of_testsUnclaimed allowed.2⟩
  exact ⟨by decide +kernel, by decide +kernel, by decide +kernel,
    exclusive_distinct_and_stored (first.trans ⟨_, second⟩)⟩

end Workers

end StreamIO.Backend
