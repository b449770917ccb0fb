import Mathlib.Data.List.Nodup
import Mathlib.Logic.Function.Basic

/-!
# The context table of the server

`handle_context` and the table `opened_ctx_list` that all connections share.
A context is named by the number of the `io_create_context` call that made
it.  Next to the table the state keeps accounts: the contexts whose `OPEN`
succeeded, the `io_close_context` calls and the ids sent in replies.
-/

namespace StreamIO.Backend

/-- `MAX_CONTEXT_COUNT`. -/
def maxContextCount : Nat := 5

structure ContextServer where
  openedCtxList : Nat → Option Nat
  created : Nat
  opened : List Nat
  closed : List Nat
  replies : List Nat

namespace ContextServer

def initial : ContextServer :=
  { openedCtxList := fun _ => none, created := 0, opened := [], closed := [],
    replies := [] }

/-- The first `NULL` entry the loop of `handle_context` finds; it stops before
entry four. -/
def freeEntry (server : ContextServer) : Option Nat :=
  (List.range 4).find? fun index => server.openedCtxList index = none

/-- `handle_context` on an `OPEN`; `sent` says whether the reply can be sent. -/
def openContext (server : ContextServer) (sent : Bool) :
    ContextServer × Int :=
  match server.freeEntry with
  | none => (server, -1)
  | some index =>
      let context := server.created
      let server := { server with created := server.created + 1 }
      if sent then
        ({ server with
            openedCtxList :=
              Function.update server.openedCtxList index (some context)
            opened := server.opened ++ [context]
            replies := server.replies ++ [index] }, 0)
      else
        ({ server with
            openedCtxList := Function.update server.openedCtxList index none
            closed := server.closed ++ [context] }, -1)

/-- `handle_context` on a `CLOSE` that carries this id. -/
def closeContext (server : ContextServer) (ctxId : UInt32) :
    ContextServer × Int :=
  if ctxId.toNat < maxContextCount then
    match server.openedCtxList ctxId.toNat with
    | some context =>
        ({ server with closed := server.closed ++ [context] }, 0)
    | none => (server, -1)
  else (server, -1)

/-- The id names an entry of the table that is not `NULL`. -/
def Names (server : ContextServer) (ctxId : UInt32) : Prop :=
  ctxId.toNat < maxContextCount ∧ server.openedCtxList ctxId.toNat ≠ none

theorem openContext_noRoom {server : ContextServer}
    (noRoom : server.freeEntry = none) (sent : Bool) :
    server.openContext sent = (server, -1) := by
  simp only [openContext, noRoom]

theorem closeContext_unnamed {server : ContextServer} {ctxId : UInt32}
    (unnamed : ¬server.Names ctxId) :
    server.closeContext ctxId = (server, -1) := by
  unfold closeContext
  split
  · rename_i bound
    split
    · rename_i context entry
      exact (unnamed ⟨bound, by simp [entry]⟩).elim
    · rfl
  · rfl

end ContextServer

/-- A request whose bytes are delivered whole. -/
inductive ContextRequest where
  | open (sent : Bool)
  | close (ctxId : UInt32)
  deriving DecidableEq, Repr

def ContextServer.handle (server : ContextServer) :
    ContextRequest → ContextServer × Int
  | .open sent => server.openContext sent
  | .close ctxId => server.closeContext ctxId

namespace ContextServer

/-- The context has been opened and not been closed. -/
def Live (server : ContextServer) (context : Nat) : Prop :=
  context ∈ server.opened ∧ context ∉ server.closed

/-- The number of open contexts. -/
def liveCount (server : ContextServer) : Nat :=
  (server.opened.filter fun context => context ∉ server.closed).length

/-- The entries of the table are the open contexts, and no context has been
closed twice. -/
structure Consistent (server : ContextServer) : Prop where
  entries : ∀ context,
    (∃ index, index < maxContextCount ∧
      server.openedCtxList index = some context) ↔ server.Live context
  once : server.closed.Nodup

/-- What an `OPEN` has to do. -/
structure OpenMeets (before : ContextServer) (sent : Bool)
    (after : ContextServer) (result : Int) : Prop where
  succeeds : sent = true →
    (result = 0 ↔ before.liveCount < maxContextCount)
  fresh : sent = true → result = 0 →
    ∃ index, index < maxContextCount ∧
      before.openedCtxList index = none ∧
      before.created ∉ before.opened ∧
      after.openedCtxList = Function.update before.openedCtxList index
        (some before.created) ∧
      after.opened = before.opened ++ [before.created] ∧
      after.closed = before.closed ∧
      after.replies = before.replies ++ [index]
  fails : (sent = false ∨ result ≠ 0) →
    result < 0 ∧ after.openedCtxList = before.openedCtxList ∧
      after.opened = before.opened ∧ after.replies = before.replies

/-- What a `CLOSE` has to do. -/
structure CloseMeets (before : ContextServer) (ctxId : UInt32)
    (after : ContextServer) (result : Int) : Prop where
  closes : ∀ context, ctxId.toNat < maxContextCount →
    before.openedCtxList ctxId.toNat = some context →
    before.Live context →
    result = 0 ∧ after.closed = before.closed ++ [context] ∧
      after.openedCtxList =
        Function.update before.openedCtxList ctxId.toNat none
  refuses : (¬∃ context, ctxId.toNat < maxContextCount ∧
      before.openedCtxList ctxId.toNat = some context ∧
      before.Live context) →
    result = -1 ∧ after = before

def Meets (before : ContextServer) : ContextRequest → Prop
  | .open sent =>
      OpenMeets before sent (before.openContext sent).1
        (before.openContext sent).2
  | .close ctxId =>
      CloseMeets before ctxId (before.closeContext ctxId).1
        (before.closeContext ctxId).2

/-- Every state of the run is consistent and every request is handled as it
has to be. -/
def Behaves (server : ContextServer) : List ContextRequest → Prop
  | [] => server.Consistent
  | request :: requests =>
      server.Consistent ∧ server.Meets request ∧
        (server.handle request).1.Behaves requests

end ContextServer

/-- After this many successful `OPEN`s: no more than four succeed in all, and
no `CLOSE` names an id that has been given out. -/
def Harmless (count : Nat) : List ContextRequest → Prop
  | [] => True
  | .open true :: requests => count < 4 ∧ Harmless (count + 1) requests
  | .open false :: requests => Harmless count requests
  | .close ctxId :: requests => count ≤ ctxId.toNat ∧ Harmless count requests

/-- As long as nothing has been closed the entries are the contexts opened,
in order. -/
structure Accumulating (server : ContextServer) : Prop where
  entries : server.openedCtxList = fun index => server.opened[index]?
  few : server.opened.length ≤ 4
  openedOld : ∀ context ∈ server.opened, context < server.created
  closedOld : ∀ context ∈ server.closed, context < server.created
  separate : ∀ context ∈ server.opened, context ∉ server.closed
  once : server.closed.Nodup

namespace Accumulating

variable {server : ContextServer}

theorem initial : Accumulating ContextServer.initial :=
  ⟨rfl, by decide, by simp [ContextServer.initial],
    by simp [ContextServer.initial], by simp [ContextServer.initial],
    List.nodup_nil⟩

theorem consistent (accumulating : Accumulating server) :
    server.Consistent := by
  refine ⟨?_, accumulating.once⟩
  intro context
  rw [accumulating.entries]
  constructor
  · rintro ⟨index, _, entry⟩
    have member := List.mem_of_getElem? entry
    exact ⟨member, accumulating.separate context member⟩
  · rintro ⟨member, _⟩
    obtain ⟨index, bound, entry⟩ := List.getElem_of_mem member
    refine ⟨index, ?_, ?_⟩
    · have few := accumulating.few
      simp only [maxContextCount]
      omega
    · exact (List.getElem?_eq_getElem bound).trans (congrArg some entry)

theorem liveCount (accumulating : Accumulating server) :
    server.liveCount = server.opened.length := by
  unfold ContextServer.liveCount
  rw [List.filter_eq_self.mpr]
  intro context member
  simpa using accumulating.separate context member

theorem freeEntry (accumulating : Accumulating server) :
    server.freeEntry =
      if server.opened.length < 4 then some server.opened.length
      else none := by
  have few := accumulating.few
  unfold ContextServer.freeEntry
  rw [accumulating.entries]
  split
  · rename_i room
    rw [List.find?_range_eq_some]
    refine ⟨by simp, List.mem_range.mpr room, ?_⟩
    intro index earlier
    simp only [List.getElem?_eq_none_iff]
    simpa using earlier
  · rename_i full
    rw [List.find?_range_eq_none]
    intro index bound
    have inside : index < server.opened.length := by omega
    simp [inside]

theorem openContext_sent (accumulating : Accumulating server)
    (room : server.opened.length < 4) :
    server.openContext true =
      ({ openedCtxList := fun index =>
           (server.opened ++ [server.created])[index]?
         created := server.created + 1
         opened := server.opened ++ [server.created]
         closed := server.closed
         replies := server.replies ++ [server.opened.length] }, 0) := by
  have entry := accumulating.freeEntry
  rw [if_pos room] at entry
  have table : Function.update server.openedCtxList server.opened.length
      (some server.created) =
      fun index => (server.opened ++ [server.created])[index]? := by
    funext index
    rw [accumulating.entries]
    by_cases last : index = server.opened.length
    · simp [last]
    · rw [Function.update_of_ne last, List.getElem?_append]
      split
      · rfl
      · have absent : index - server.opened.length ≠ 0 := by omega
        rw [List.getElem?_eq_none (by omega),
          List.getElem?_eq_none (by simp; omega)]
  simp only [ContextServer.openContext, entry, if_true, table]

theorem openContext_unsent (accumulating : Accumulating server)
    (room : server.opened.length < 4) :
    server.openContext false =
      ({ server with
         created := server.created + 1
         closed := server.closed ++ [server.created] }, -1) := by
  have entry := accumulating.freeEntry
  rw [if_pos room] at entry
  have table : Function.update server.openedCtxList server.opened.length
      none = server.openedCtxList := by
    rw [Function.update_eq_self_iff, accumulating.entries]
    simp
  simp only [ContextServer.openContext, entry, Bool.false_eq_true, if_false,
    table]

theorem openContext_full (accumulating : Accumulating server)
    (full : ¬server.opened.length < 4) (sent : Bool) :
    server.openContext sent = (server, -1) := by
  have entry := accumulating.freeEntry
  rw [if_neg full] at entry
  exact ContextServer.openContext_noRoom entry sent

theorem closeContext_unknown (accumulating : Accumulating server)
    {ctxId : UInt32} (unknown : server.opened.length ≤ ctxId.toNat) :
    server.closeContext ctxId = (server, -1) := by
  have entry : server.openedCtxList ctxId.toNat = none := by
    rw [accumulating.entries]
    exact List.getElem?_eq_none unknown
  exact ContextServer.closeContext_unnamed fun names => names.2 entry

theorem sent (accumulating : Accumulating server)
    (room : server.opened.length < 4) :
    Accumulating (server.openContext true).1 := by
  rw [accumulating.openContext_sent room]
  refine ⟨rfl, ?_, ?_, ?_, ?_, accumulating.once⟩
  · simp only [List.length_append, List.length_singleton]
    omega
  · intro context member
    rcases List.mem_append.mp member with old | new
    · exact Nat.lt_succ_of_lt (accumulating.openedOld context old)
    · rw [List.mem_singleton.mp new]
      exact Nat.lt_succ_self _
  · intro context member
    exact Nat.lt_succ_of_lt (accumulating.closedOld context member)
  · intro context member closed
    rcases List.mem_append.mp member with old | new
    · exact accumulating.separate context old closed
    · have older := accumulating.closedOld context closed
      rw [List.mem_singleton.mp new] at older
      exact Nat.lt_irrefl _ older

theorem unsent (accumulating : Accumulating server) :
    Accumulating (server.openContext false).1 := by
  by_cases room : server.opened.length < 4
  · rw [accumulating.openContext_unsent room]
    refine ⟨accumulating.entries, accumulating.few, ?_, ?_, ?_, ?_⟩
    · intro context member
      exact Nat.lt_succ_of_lt (accumulating.openedOld context member)
    · intro context member
      rcases List.mem_append.mp member with old | new
      · exact Nat.lt_succ_of_lt (accumulating.closedOld context old)
      · rw [List.mem_singleton.mp new]
        exact Nat.lt_succ_self _
    · intro context member closed
      rcases List.mem_append.mp closed with old | new
      · exact accumulating.separate context member old
      · have older := accumulating.openedOld context member
        rw [List.mem_singleton.mp new] at older
        exact Nat.lt_irrefl _ older
    · apply List.Nodup.append accumulating.once (List.nodup_singleton _)
      intro context closed new
      have older := accumulating.closedOld context closed
      rw [List.mem_singleton.mp new] at older
      exact Nat.lt_irrefl _ older
  · rw [accumulating.openContext_full room]
    exact accumulating

theorem meets_sent (accumulating : Accumulating server) :
    server.Meets (.open true) ↔ server.opened.length < 4 := by
  have count := accumulating.liveCount
  have few := accumulating.few
  constructor
  · intro meets
    by_cases room : server.opened.length < 4
    · exact room
    · have succeeds := meets.succeeds rfl
      rw [accumulating.openContext_full room, count] at succeeds
      have opened : (-1 : Int) = 0 := succeeds.mpr (by
        simp only [maxContextCount]
        omega)
      cases opened
  · intro room
    have opened := accumulating.openContext_sent room
    simp only [ContextServer.Meets, opened]
    refine ⟨?_, ?_, ?_⟩
    · intro _
      rw [count]
      simp only [maxContextCount, true_iff]
      omega
    · intro _ _
      refine ⟨server.opened.length, ?_, ?_, ?_, ?_, rfl, rfl, rfl⟩
      · simp only [maxContextCount]
        omega
      · rw [accumulating.entries]
        simp
      · intro member
        exact Nat.lt_irrefl _ (accumulating.openedOld _ member)
      · have table := congrArg (fun result => result.1.openedCtxList) opened
        have entry := accumulating.freeEntry
        rw [if_pos room] at entry
        simp only [ContextServer.openContext, entry, if_true] at table
        exact table.symm
    · rintro (unsent | failed)
      · cases unsent
      · exact (failed rfl).elim

theorem meets_unsent (accumulating : Accumulating server) :
    server.Meets (.open false) := by
  have unchanged : (server.openContext false).2 = -1 ∧
      (server.openContext false).1.openedCtxList = server.openedCtxList ∧
      (server.openContext false).1.opened = server.opened ∧
      (server.openContext false).1.replies = server.replies := by
    by_cases room : server.opened.length < 4
    · rw [accumulating.openContext_unsent room]
      exact ⟨rfl, rfl, rfl, rfl⟩
    · rw [accumulating.openContext_full room]
      exact ⟨rfl, rfl, rfl, rfl⟩
  obtain ⟨result, table, opened, replies⟩ := unchanged
  refine ⟨?_, ?_, ?_⟩
  · intro sent
    cases sent
  · intro sent
    cases sent
  · intro _
    refine ⟨?_, table, opened, replies⟩
    rw [result]
    decide

theorem meets_close (accumulating : Accumulating server) (ctxId : UInt32) :
    server.Meets (.close ctxId) ↔ server.opened.length ≤ ctxId.toNat := by
  constructor
  · intro meets
    apply Nat.le_of_not_lt
    intro known
    have few := accumulating.few
    have bound : ctxId.toNat < maxContextCount := by
      simp only [maxContextCount]
      omega
    have entry : server.openedCtxList ctxId.toNat =
        some server.opened[ctxId.toNat] := by
      rw [accumulating.entries]
      exact List.getElem?_eq_getElem known
    have member := List.getElem_mem known
    obtain ⟨_, _, cleared⟩ := meets.closes _ bound entry
      ⟨member, accumulating.separate _ member⟩
    have stale := congrFun cleared ctxId.toNat
    simp [ContextServer.closeContext, bound, entry] at stale
  · intro unknown
    have refused := accumulating.closeContext_unknown unknown
    have entry : server.openedCtxList ctxId.toNat = none := by
      rw [accumulating.entries]
      exact List.getElem?_eq_none unknown
    simp only [ContextServer.Meets, refused]
    refine ⟨?_, fun _ => ⟨rfl, rfl⟩⟩
    intro context _ present
    rw [entry] at present
    cases present


end Accumulating

theorem behaves_iff_harmless {server : ContextServer}
    (accumulating : Accumulating server) (requests : List ContextRequest) :
    server.Behaves requests ↔ Harmless server.opened.length requests := by
  induction requests generalizing server with
  | nil => exact ⟨fun _ => trivial, fun _ => accumulating.consistent⟩
  | cons request requests induction =>
      rw [ContextServer.Behaves]
      cases request with
      | «open» sent =>
          cases sent with
          | true =>
              rw [accumulating.meets_sent, Harmless]
              constructor
              · rintro ⟨_, room, rest⟩
                have next := (induction (accumulating.sent room)).mp rest
                rw [accumulating.openContext_sent room,
                  List.length_append] at next
                exact ⟨room, next⟩
              · rintro ⟨room, rest⟩
                refine ⟨accumulating.consistent, room,
                  (induction (accumulating.sent room)).mpr ?_⟩
                rw [accumulating.openContext_sent room, List.length_append]
                exact rest
          | false =>
              have same : (server.openContext false).1.opened =
                  server.opened :=
                (accumulating.meets_unsent.fails (Or.inl rfl)).2.2.1
              have next := induction accumulating.unsent
              rw [same] at next
              rw [Harmless, ← next]
              exact ⟨fun behaves => behaves.2.2, fun rest =>
                ⟨accumulating.consistent, accumulating.meets_unsent, rest⟩⟩
      | close ctxId =>
          rw [accumulating.meets_close, Harmless]
          constructor
          · rintro ⟨_, unknown, rest⟩
            rw [ContextServer.handle,
              accumulating.closeContext_unknown unknown] at rest
            exact ⟨unknown, (induction accumulating).mp rest⟩
          · rintro ⟨unknown, rest⟩
            refine ⟨accumulating.consistent, unknown, ?_⟩
            rw [ContextServer.handle,
              accumulating.closeContext_unknown unknown]
            exact (induction accumulating).mpr rest

/-- The table is a bounded allocator of ids exactly in the runs in which at
most four contexts are opened and none of them is closed. -/
theorem context_table_behaves_iff (requests : List ContextRequest) :
    ContextServer.initial.Behaves requests ↔ Harmless 0 requests :=
  behaves_iff_harmless .initial requests

/-- A context is opened and closed: its entry stays in the table. -/
theorem closed_context_keeps_entry :
    ¬∀ requests, ContextServer.initial.Behaves requests := by
  intro behaves
  have harmless := (behaves_iff_harmless .initial _).mp
    (behaves [.open true, .close 0])
  exact absurd harmless.2.1 (by decide)

end StreamIO.Backend
