import Cortado.Dns.PoolFrame

/-!
# The pool as a multiplexer

Forgetting the map of connections, the locks and the clock, what remains of
the pool is a multiplexer over recycled identifiers: every step of the pool
is a step of `Multiplexer.Step`, or none at all.
-/

namespace Cortado.Dns

open Multiplexer Transition

/-- Identifiers repeat after this many draws. -/
def idWindow : Nat := 65536

def Progress.stage : Progress → Stage
  | .register | .acquired => .reserved
  | .ready | .writing => .armed
  | .written | .waiting => .sent
  | .writeError | .removing _ => .leaving

/-- What an attempt of the task holds. -/
def Task.leaseOf : Task → Bool → Option (Multiplexer.Lease ConnId UInt16)
  | .leased _ forced lease progress, attempt =>
      if attempt = forced then
        some
          { conn := lease.conn
            id := lease.id
            draw := lease.draw
            stage := progress.stage }
      else none
  | _, _ => none

theorem Task.leaseOf_conclude (call : Call) (forced : Bool)
    (outcome : Outcome) :
    (conclude call forced outcome).leaseOf = fun _ => none := by
  funext attempt
  cases outcome <;> cases forced <;> rfl

def SentFrame.toFrame (sent : SentFrame) : Frame AttemptId Message :=
  { owner := sent.owner, draw := sent.draw, answer := sent.answer }

theorem Conn.lookup_store (conn : Conn) (id : UInt16) (sender : Sender)
    (other : UInt16) :
    (conn.store id sender).inflight.lookup other =
      if other = id then some sender else conn.inflight.lookup other := by
  by_cases same : other = id
  · subst same
    simp [store]
  · simp [store, same]

theorem Conn.lookup_vacate (conn : Conn) (id other : UInt16) :
    (conn.vacate id).inflight.lookup other =
      if other = id then none else conn.inflight.lookup other := by
  by_cases same : other = id
  · subst same
    simp [vacate]
  · simp [vacate, same]

/-- Within a window, an identifier stands for one draw. -/
theorem candidate_recycles (left right : Nat)
    (same : candidate left = candidate right)
    (notLater : left < right + idWindow)
    (notEarlier : right < left + idWindow) : left = right := by
  rw [candidate_eq, candidate_eq] at same
  have sameLow := congrArg UInt16.toNat same
  simp only [UInt16.toNat_ofNat', idWindow] at sameLow notLater notEarlier
  omega

namespace Pool

def view (pool : Pool) : State ConnId AttemptId UInt16 Message where
  lease := fun owner => (pool.task owner.1).leaseOf owner.2
  slot := fun conn id => (pool.conn conn).inflight.lookup id
  reply := pool.chan
  sent := fun conn => (pool.conn conn).sent.map SentFrame.toFrame
  draws := fun conn => (pool.conn conn).draws
  closed := fun conn =>
    conn < pool.nextConn && (pool.conn conn).reader = .finished

/-- Frames arrive as answers to frames that were written, before the counter
has come round to their identifier. -/
def Honest (pool : Pool) : Event → Prop
  | .readerFrame conn _ (some position) =>
      ∀ sent ∈ (pool.conn conn).sent[position]?,
        (pool.conn conn).draws ≤ sent.draw + idWindow
  | .readerFrame _ _ none => False
  | _ => True

/-- Attempts end before the counter has come round to their identifier. -/
def Timely (pool : Pool) : Prop :=
  ∀ task call forced lease progress,
    pool.task task = .leased call forced lease progress →
      (pool.conn lease.conn).draws ≤ lease.draw + idWindow

/-- The assumptions on the server and on the timing, for one step. -/
def Assumed (pool : Pool) (event : Event) : Prop :=
  pool.Timely ∧ pool.Honest event

/-! ## The view of an updated pool -/

variable {pool next : Pool} {event : Event}

theorem view_setTask {task : TaskId} (forced : Bool) {value : Task}
    (others : ∀ attempt, attempt ≠ forced →
      value.leaseOf attempt = (pool.task task).leaseOf attempt) :
    (pool.setTask task value).view =
      pool.view.setLease (task, forced) (value.leaseOf forced) := by
  apply State.ext <;> try rfl
  funext ⟨other, attempt⟩
  simp only [view, setTask_task, State.setLease, Prod.mk.injEq]
  by_cases same : other = task
  · subst same
    by_cases own : attempt = forced
    · simp [own]
    · simpa [own] using others attempt own
  · simp [same]

theorem view_setTask_same {task : TaskId} {value : Task}
    (same : value.leaseOf = (pool.task task).leaseOf) :
    (pool.setTask task value).view = pool.view := by
  apply State.ext <;> try rfl
  funext ⟨other, attempt⟩
  simp only [view, setTask_task]
  by_cases acting : other = task
  · subst acting
    simp [same]
  · simp [acting]

/-- A record that looks the same to the multiplexer. -/
theorem view_setConn_same {conn : ConnId} {value : Conn}
    (inflight : value.inflight = (pool.conn conn).inflight)
    (draws : value.draws = (pool.conn conn).draws)
    (sent : value.sent = (pool.conn conn).sent)
    (reader : value.reader = .finished ↔
      (pool.conn conn).reader = .finished) :
    (pool.setConn conn value).view = pool.view := by
  apply State.ext <;> try rfl
  all_goals
    funext other
    simp only [view, setConn_conn]
    by_cases same : other = conn
    · subst same
      simp [inflight, draws, sent, reader, setConn] <;> rfl
    · simp [same, setConn] <;> rfl

theorem view_setConn_draws {conn : ConnId} (draws : Nat) :
    (pool.setConn conn { pool.conn conn with draws := draws }).view =
      pool.view.setDraws conn draws := by
  apply State.ext <;> try rfl
  all_goals
    funext other
    simp only [view, setConn_conn, State.setDraws]
    by_cases same : other = conn
    · subst same
      simp [setConn] <;> rfl
    · simp [same, setConn] <;> rfl

theorem view_setConn_slot {conn : ConnId} {value : Conn} (id : UInt16)
    (slot : Option Sender)
    (inflight : ∀ other, value.inflight.lookup other =
      if other = id then slot else (pool.conn conn).inflight.lookup other)
    (draws : value.draws = (pool.conn conn).draws)
    (sent : value.sent = (pool.conn conn).sent)
    (reader : value.reader = (pool.conn conn).reader) :
    (pool.setConn conn value).view = pool.view.setSlot conn id slot := by
  apply State.ext <;> try rfl
  all_goals
    funext other
    simp only [view, setConn_conn, State.setSlot]
    by_cases same : other = conn
    · subst same
      simp [inflight, draws, sent, reader, setConn] <;> rfl
    · simp [same, setConn] <;> rfl

theorem view_setConn_sent {conn : ConnId} {value : Conn}
    (inflight : value.inflight = (pool.conn conn).inflight)
    (draws : value.draws = (pool.conn conn).draws)
    (reader : value.reader = (pool.conn conn).reader) :
    (pool.setConn conn value).view =
      pool.view.setSent conn (value.sent.map SentFrame.toFrame) := by
  apply State.ext <;> try rfl
  all_goals
    funext other
    simp only [view, setConn_conn, State.setSent]
    by_cases same : other = conn
    · subst same
      simp [inflight, draws, reader, setConn] <;> rfl
    · simp [same, setConn] <;> rfl

theorem view_setChan (owner : AttemptId) (reply : Reply Message) :
    (pool.setChan owner reply).view = pool.view.setReply owner reply := by
  apply State.ext <;> try rfl
  funext other
  simp [view, setChan, State.setReply, Function.update_apply]

theorem view_settle (reply : Reply Message) (sender : Option Sender) :
    (pool.settle reply sender).view =
      { pool.view with
        reply := fun owner =>
          if sender = some { owner := owner, armed := true } then reply
          else pool.chan owner } := by
  apply State.ext
  case reply =>
    funext owner
    exact settle_chan pool reply sender owner
  all_goals
    rw [settle_eq]
    rfl

theorem view_settle_dropped (sender : Option Sender) :
    (pool.settle .dropped sender).view = pool.view.discard sender := by
  rw [view_settle]
  apply State.ext
  case reply =>
    funext owner
    rw [State.discard_reply]
    rfl
  all_goals simp

/-- A slot is emptied once its sender has been used or dropped. -/
theorem view_settle_vacate (reply : Reply Message) (sender : Option Sender)
    (conn : ConnId) (id : UInt16) :
    ((pool.settle reply sender).setConn conn
      ((pool.conn conn).vacate id)).view =
        (pool.settle reply sender).view.setSlot conn id none := by
  apply view_setConn_slot
  · intro other
    rw [settle_conn]
    exact Conn.lookup_vacate _ _ _
  · simp [Conn.vacate]
  · simp [Conn.vacate]
  · simp [Conn.vacate]

theorem view_deliver {conn : ConnId} {id : UInt16} {body : Message} :
    (pool.deliver conn id body).view = pool.view.deliver conn id body := by
  unfold deliver
  rw [view_settle_vacate, view_settle]
  apply State.ext
  case reply =>
    funext owner
    rw [State.deliver_reply]
    rfl
  case slot =>
    funext other otherId
    rw [State.deliver_slot]
    rfl
  all_goals simp [State.setSlot]

theorem view_reserve {conn : ConnId} {owner : AttemptId} {draw : Nat} :
    (pool.setConn conn ((pool.conn conn).reserve owner draw)).view =
      (pool.view.setSlot conn (candidate draw)
        (some { owner := owner, armed := false })).setDraws conn
          (draw + 1) := by
  apply State.ext <;> try rfl
  all_goals
    funext other
    simp only [view, setConn_conn, State.setDraws, State.setSlot]
    by_cases same : other = conn
    · subst same
      simp [Conn.reserve, Conn.lookup_store, setConn] <;> rfl
    · simp [same, setConn] <;> rfl

/-- A task that holds nothing takes an identifier. -/
theorem simulates_reserve {task : TaskId} {call : Call} {forced : Bool}
    {stage : Acquire} {conn : ConnId} {draw : Nat} {progress : Progress}
    (acquiring : pool.task task = .acquiring call forced stage)
    (advanced : (pool.conn conn).draws ≤ draw)
    (vacant : (pool.conn conn).inflight.lookup (candidate draw) = none)
    (reserved : progress.stage = .reserved) (misbehaves : Prop) :
    Multiplexer.Step candidate idWindow misbehaves pool.view
      ((pool.setConn conn
        ((pool.conn conn).reserve (task, forced) draw)).setTask task
          (.leased call forced { conn := conn, draw := draw }
            progress)).view := by
  have target : ((pool.setConn conn
      ((pool.conn conn).reserve (task, forced) draw)).setTask task
        (.leased call forced { conn := conn, draw := draw } progress)).view =
      ((pool.view.setLease (task, forced)
        (some
          { conn := conn
            id := candidate draw
            draw := draw
            stage := .reserved })).setSlot conn (candidate draw)
        (some { owner := (task, forced), armed := false })).setDraws conn
          (draw + 1) := by
    rw [view_setTask forced, view_reserve]
    · simp only [Task.leaseOf, if_true, reserved]
      rfl
    · intro attempt other
      simp [Task.leaseOf, other, setConn, acquiring]
  rw [target]
  refine .reserve ?_ advanced vacant
  simp [view, acquiring, Task.leaseOf]

theorem of_view_lease {task : TaskId} {forced : Bool}
    {held : Multiplexer.Lease ConnId UInt16}
    (leased : pool.view.lease (task, forced) = some held) :
    ∃ call lease progress,
      pool.task task = .leased call forced lease progress ∧
      held =
        { conn := lease.conn
          id := lease.id
          draw := lease.draw
          stage := progress.stage } := by
  simp only [view] at leased
  cases state : pool.task task with
  | leased call attempt lease progress =>
      simp only [state, Task.leaseOf] at leased
      split at leased
      · rename_i own
        subst own
        cases leased
        exact ⟨call, lease, progress, rfl, rfl⟩
      · cases leased
  | _ => simp [state, Task.leaseOf] at leased

section Attempt

variable {task : TaskId} {call : Call} {forced : Bool} {lease : Lease}
  {progress : Progress}
  (leased : pool.task task = .leased call forced lease progress)

include leased

theorem view_lease : pool.view.lease (task, forced) =
    some
      { conn := lease.conn
        id := lease.id
        draw := lease.draw
        stage := progress.stage } := by
  simp [view, leased, Task.leaseOf]

theorem view_advance (after : Progress) :
    (pool.setTask task (.leased call forced lease after)).view =
      pool.view.setLease (task, forced)
        (some
          { conn := lease.conn
            id := lease.id
            draw := lease.draw
            stage := after.stage }) := by
  rw [view_setTask forced]
  · simp [Task.leaseOf]
  · intro attempt other
    simp [Task.leaseOf, other, leased]

theorem view_advance_same {after : Progress}
    (same : after.stage = progress.stage) :
    (pool.setTask task (.leased call forced lease after)).view =
      pool.view := by
  apply view_setTask_same
  funext attempt
  simp [Task.leaseOf, leased, same]

/-- Work on the connection that the multiplexer does not see. -/
theorem view_work {value : Conn} {after : Progress}
    (inflight : value.inflight = (pool.conn lease.conn).inflight)
    (draws : value.draws = (pool.conn lease.conn).draws)
    (sent : value.sent = (pool.conn lease.conn).sent)
    (reader : value.reader = (pool.conn lease.conn).reader)
    (same : after.stage = progress.stage) :
    ((pool.setConn lease.conn value).setTask task
      (.leased call forced lease after)).view = pool.view := by
  rw [view_setTask_same]
  · apply view_setConn_same inflight draws sent
    rw [reader]
  · funext attempt
    simp [Task.leaseOf, setConn, leased, same]

theorem view_leave {value : Task} (bare : value.leaseOf = fun _ => none) :
    (pool.setTask task value).view =
      pool.view.setLease (task, forced) none := by
  rw [view_setTask forced]
  · rw [bare]
  · intro attempt other
    rw [bare, leased]
    simp [Task.leaseOf, other]

theorem simulates_quit (misbehaves : Prop) {after : Progress}
    (before : progress.stage = .armed ∨ progress.stage = .sent)
    (leaving : after.stage = .leaving) :
    Multiplexer.Step candidate idWindow misbehaves pool.view
      (pool.setTask task (.leased call forced lease after)).view := by
  rw [view_advance leased, leaving]
  exact .quit (view_lease leased) before

end Attempt

section AttemptSteps

variable {task : TaskId} {call : Call} {forced : Bool} {lease : Lease}
  (misbehaves : Prop)

theorem simulates_arm
    (leased : pool.task task = .leased call forced lease .acquired) :
    Multiplexer.Step candidate idWindow misbehaves pool.view
      ((((pool.settle .dropped
        ((pool.conn lease.conn).inflight.lookup lease.id)).setChan
          (task, forced) .pending).setConn lease.conn
            ((pool.conn lease.conn).store lease.id
              { owner := (task, forced), armed := true })).setTask task
                (.leased call forced lease .ready)).view := by
  rw [view_setTask forced,
    view_setConn_slot lease.id
      (some { owner := (task, forced), armed := true }),
    view_setChan, view_settle_dropped]
  · simp only [Task.leaseOf, if_true]
    exact .arm (view_lease leased) rfl
  · intro other
    simp only [setChan, settle_conn]
    exact Conn.lookup_store _ _ _ _
  · simp [setChan, Conn.store]
  · simp [setChan, Conn.store]
  · simp [setChan, Conn.store]
  · intro attempt other
    simp [setConn, setChan, leased, Task.leaseOf, other]

theorem simulates_write {sent : SentFrame}
    (leased : pool.task task = .leased call forced lease .writing)
    (isSent : sent.toFrame =
      { owner := (task, forced), draw := lease.draw, answer := none }) :
    Multiplexer.Step candidate idWindow misbehaves pool.view
      ((pool.setConn lease.conn
        ({ pool.conn lease.conn with writer := none }.append sent)).setTask
          task (.leased call forced lease .written)).view := by
  rw [view_setTask forced, view_setConn_sent]
  · simp only [Task.leaseOf, if_true, Conn.append, List.map_append,
      List.map_cons, List.map_nil, isSent]
    exact .write (view_lease leased) rfl
  · rfl
  · rfl
  · rfl
  · intro attempt other
    simp [setConn, leased, Task.leaseOf, other]

theorem simulates_release {error : ResolveError}
    (leased : pool.task task =
      .leased call forced lease (.removing error)) :
    Multiplexer.Step candidate idWindow misbehaves pool.view
      (((pool.settle .dropped
        ((pool.conn lease.conn).inflight.lookup lease.id)).setConn
          lease.conn ((pool.conn lease.conn).vacate lease.id)).setTask task
            (.conclude call forced error.outcome)).view := by
  rw [view_setTask forced, view_settle_vacate, view_settle_dropped]
  · rw [Task.leaseOf_conclude]
    exact .release (view_lease leased) rfl
  · intro attempt other
    rw [Task.leaseOf_conclude]
    simp [setConn, leased, Task.leaseOf, other]

end AttemptSteps

theorem simulates_answer {conn : ConnId} {body : Message} {position : Nat}
    {sent : SentFrame} {misbehaves : Prop}
    (found : (pool.conn conn).sent[position]? = some sent)
    (unanswered : sent.answer = none)
    (inTime : misbehaves ∨ (pool.conn conn).draws ≤ sent.draw + idWindow) :
    Multiplexer.Step candidate idWindow misbehaves pool.view
      ((pool.deliver conn (candidate sent.draw) body).setConn conn
        (((pool.conn conn).vacate (candidate sent.draw)).answer position
          body)).view := by
  have marked : ((((pool.conn conn).vacate (candidate sent.draw)).answer
      position body).sent.map SentFrame.toFrame) =
      (pool.view.sent conn).modify position
        fun frame => { frame with answer := some body } := by
    apply List.ext_getElem?
    intro index
    simp only [Conn.answer, Conn.vacate, view, List.getElem?_map,
      List.getElem?_modify]
    cases (pool.conn conn).sent[index]? with
    | none => rfl
    | some frame =>
        by_cases same : position = index
        · simp [same, SentFrame.toFrame]
        · simp [same]
  have isFound : (pool.view.sent conn)[position]? = some sent.toFrame := by
    simp [view, found]
  have isMark : (pool.view.deliver conn (candidate sent.draw) body).setSent
      conn ((pool.view.sent conn).modify position
        fun frame => { frame with answer := some body }) =
      (pool.view.deliver conn (candidate sent.toFrame.draw) body).mark conn
        position body := by
    simp only [State.mark, State.deliver_sent]
    rfl
  rw [view_setConn_sent, view_deliver, marked, isMark]
  · exact .answer isFound unanswered inTime
  · simp [deliver, Conn.answer]
  · simp [deliver, Conn.answer]
  · simp [deliver, Conn.answer]

theorem simulates_close {conn : ConnId} (wellFormed : pool.WellFormed)
    (clearing : (pool.conn conn).reader = .clearing) (misbehaves : Prop) :
    Multiplexer.Step candidate idWindow misbehaves pool.view
      (Pool.view
        { pool.setConn conn
            { pool.conn conn with inflight := ∅, reader := .finished } with
          chan := fun owner =>
            if (pool.conn conn).inflight.entries.any fun entry =>
                entry.2 = { owner := owner, armed := true } then .dropped
            else pool.chan owner }) := by
  have born : conn < pool.nextConn :=
    wellFormed.born_of_reader (by simp [clearing])
  have target : Pool.view
      { pool.setConn conn
          { pool.conn conn with inflight := ∅, reader := .finished } with
        chan := fun owner =>
          if (pool.conn conn).inflight.entries.any fun entry =>
              entry.2 = { owner := owner, armed := true } then .dropped
          else pool.chan owner } = pool.view.close conn := by
    apply State.ext <;> try rfl
    case reply =>
      funext owner
      by_cases stored : ∃ id, pool.view.slot conn id =
          some { owner := owner, armed := true }
      · refine (if_pos ?_).trans (if_pos stored).symm
        obtain ⟨id, found⟩ := stored
        apply List.any_eq_true.mpr
        exact ⟨⟨id, _⟩, AList.mem_lookup_iff.mp found, by simp⟩
      · refine (if_neg ?_).trans (if_neg stored).symm
        intro found
        obtain ⟨⟨id, sender⟩, member, isOwner⟩ := List.any_eq_true.mp found
        apply stored
        refine ⟨id, ?_⟩
        rw [← of_decide_eq_true isOwner]
        exact AList.mem_lookup_iff.mpr member
    all_goals
      funext other
      simp only [view, setConn, State.close]
      by_cases same : other = conn
      · subst same
        simp [born]
      · simp [same] <;> rfl
  rw [target]
  exact .close conn

theorem simulates_search {task : TaskId} {call : Call} {forced : Bool}
    {stage : Acquire} {conn : ConnId} {draws : Nat} {outcome : Outcome}
    (acquiring : pool.task task = .acquiring call forced stage)
    (advanced : (pool.conn conn).draws ≤ draws) (misbehaves : Prop) :
    Multiplexer.Step candidate idWindow misbehaves pool.view
      ((pool.setConn conn { pool.conn conn with draws := draws }).setTask task
        (.conclude call forced outcome)).view := by
  rw [view_setTask_same, view_setConn_draws]
  · exact .search advanced
  · rw [Task.leaseOf_conclude]
    simp only [setConn, acquiring]
    rfl

theorem view_clear (completed : Nat) (switches : List Nat) :
    Pool.view
      { pool with
        conn := fun conn =>
          if conn ∈ pool.conns then { pool.conn conn with alive := false }
          else pool.conn conn
        conns := []
        completed := completed
        switches := switches } = pool.view := by
  apply State.ext <;> try rfl
  all_goals
    funext conn
    simp only [view]
    split <;> rfl

/-- A new connection looks as if it had always been there. -/
theorem view_connected (wellFormed : pool.WellFormed) {task : TaskId}
    {call : Call} {forced : Bool} {stage : Acquire}
    (acquiring : pool.task task = .acquiring call forced stage)
    (proxy : ProxyConfig) (epoch : Nat) :
    Pool.view
      { (pool.setConn pool.nextConn
          (Conn.fresh call.server proxy epoch pool.clock)).setTask task
            (.acquiring call forced (.fresh pool.nextConn)) with
        nextConn := pool.nextConn + 1 } = pool.view := by
  have unborn := wellFormed.unborn (Nat.le_refl pool.nextConn)
  apply State.ext <;> try rfl
  case lease =>
    funext ⟨other, attempt⟩
    simp only [view, setTask]
    by_cases same : other = task
    · subst same
      simp [acquiring, Task.leaseOf]
    · simp [same, setConn]
  all_goals
    funext other
    simp only [view, setTask, setConn]
    by_cases same : other = pool.nextConn
    · subst same
      simp [Conn.fresh, unborn.inflight, unborn.draws, unborn.sent]
    · have older : other < pool.nextConn + 1 ↔ other < pool.nextConn := by
        rw [Nat.lt_succ_iff_lt_or_eq]
        exact or_iff_left same
      simp [same, older]

/-- Every step of the pool is one of the multiplexer, or invisible to it. -/
theorem Stepped.simulates (wellFormed : pool.WellFormed)
    (stepped : Stepped pool event next) {misbehaves : Prop}
    (honest : misbehaves ∨ pool.Honest event) :
    next.view = pool.view ∨
      Multiplexer.Step candidate idWindow misbehaves pool.view next.view := by
  have bare : ∀ {actor before value}, pool.task actor = before →
      before.leaseOf = (fun _ => none) → value.leaseOf = (fun _ => none) →
        (pool.setTask actor value).view = pool.view := by
    rintro actor before value rfl wasBare isBare
    exact view_setTask_same (isBare.trans wasBare.symm)
  cases stepped with
  | refused idle | called idle => exact Or.inl (bare idle rfl rfl)
  | missed locked acquiring | lockedOpen free acquiring
  | roomy free acquiring | loaded acquiring =>
      exact Or.inl (bare acquiring rfl rfl)
  | full locked acquiring advanced =>
      right
      change Multiplexer.Step _ _ _ _ (Pool.view (pool.setConn _ _))
      rw [view_setConn_draws]
      exact .search advanced
  | hit locked acquiring advanced vacant =>
      exact Or.inr (simulates_reserve acquiring advanced vacant rfl _)
  | capped free acquiring | unreachable acquiring =>
      exact Or.inl (bare acquiring rfl (Task.leaseOf_conclude _ _ _))
  | connected acquiring =>
      exact Or.inl (view_connected wellFormed acquiring _ _)
  | allocated acquiring advanced vacant =>
      exact Or.inr (simulates_reserve acquiring advanced vacant rfl _)
  | notAllocated acquiring advanced =>
      exact Or.inr (simulates_search acquiring advanced _)
  | registered free leased => exact Or.inl (view_advance_same leased rfl)
  | armed leased => exact Or.inr (simulates_arm _ leased)
  | wrote leased => exact Or.inr (simulates_write _ leased rfl)
  | @unwritten task call forced lease leased =>
      right
      let unlocked := pool.setConn lease.conn
        { pool.conn lease.conn with writer := none }
      have same : unlocked.view = pool.view :=
        view_setConn_same rfl rfl rfl Iff.rfl
      have writing : unlocked.task task =
          .leased call forced lease .writing := leased
      rw [← same]
      exact simulates_quit writing _ (Or.inl rfl) rfl
  | lockedWriter leased | markedDead leased | touched leased =>
      refine Or.inl (view_work leased ?_ ?_ ?_ ?_ ?_) <;> rfl
  | received leased answered =>
      right
      rw [view_leave leased rfl]
      exact .finish (view_lease leased) rfl answered
  | disconnected leased | expired leased =>
      exact Or.inr (simulates_quit leased _ (Or.inr rfl) rfl)
  | removed leased => exact Or.inr (simulates_release _ leased)
  | cleared free switching => exact Or.inl (view_clear _ _)
  | @evicted conn now last todo locked idle =>
      left
      have same : (pool.setConn conn
          { pool.conn conn with alive := false }).view = pool.view :=
        view_setConn_same rfl rfl rfl Iff.rfl
      exact same
  | idled running | stopped running =>
      refine Or.inl (view_setConn_same rfl rfl rfl ?_)
      simp [running]
  | strayed running identified =>
      right
      rw [view_deliver]
      exact .stray (honest.resolve_right id)
  | answered running found unanswered identified =>
      right
      apply simulates_answer found unanswered
      rcases honest with misbehaves | inTime
      · exact Or.inl misbehaves
      · exact Or.inr (inTime _ found)
  | died stopping =>
      refine Or.inl (view_setConn_same rfl rfl rfl ?_)
      simp [stopping]
  | cleaned clearing => exact Or.inr (simulates_close wellFormed clearing _)
  | _ => exact Or.inl rfl

/-- The part of the pool's invariant that does not depend on the server. -/
structure Multiplexing (pool : Pool) : Prop where
  wellFormed : pool.WellFormed
  owned : Owned pool.view

theorem multiplexing_new (proxy : ProxyConfig) (idleTimeout : Nat) :
    (new proxy idleTimeout).Multiplexing where
  wellFormed := wellFormed_new proxy idleTimeout
  owned := by
    refine ⟨?_, ?_, ?_⟩
    · intro conn id owner armed found
      cases found
    · intro conn id owner found
      cases found
    · intro owner lease leased
      cases leased

theorem Multiplexing.step (multiplexing : pool.Multiplexing)
    (stepped : Stepped pool event next) : next.Multiplexing where
  wellFormed := multiplexing.wellFormed.step stepped
  owned := by
    have allowed : True ∨ pool.Honest event := Or.inl trivial
    rcases stepped.simulates multiplexing.wellFormed allowed with same | moved
    · rw [same]
      exact multiplexing.owned
    · exact multiplexing.owned.step moved

theorem Timely.view (timely : pool.Timely) :
    Multiplexer.Timely idWindow pool.view := by
  rintro ⟨task, forced⟩ held leased
  obtain ⟨call, lease, progress, isLeased, rfl⟩ := of_view_lease leased
  exact timely task call forced lease progress isLeased

/-- What holds under the assumptions on the server and on the timing. -/
structure Faithful (pool : Pool) : Prop where
  wellFormed : pool.WellFormed
  view : Multiplexer.Faithful candidate pool.view

theorem faithful_new (proxy : ProxyConfig) (idleTimeout : Nat) :
    (new proxy idleTimeout).Faithful where
  wellFormed := wellFormed_new proxy idleTimeout
  view := by
    refine ⟨(multiplexing_new proxy idleTimeout).owned, ?_, ?_, ?_⟩
    · refine ⟨?_, ?_, ?_, ?_⟩
      · intro owner lease leased
        cases leased
      · intro conn sent member
        cases member
      · intro owner other lease otherLease leased
        cases leased
      · intro owner lease sent leased
        cases leased
    · intro owner lease leased
      cases leased
    · intro owner lease body leased
      cases leased

theorem Faithful.step (faithful : pool.Faithful)
    (stepped : Stepped pool event next) (assumed : pool.Assumed event) :
    next.Faithful where
  wellFormed := faithful.wellFormed.step stepped
  view := by
    have honest : False ∨ pool.Honest event := Or.inr assumed.2
    rcases stepped.simulates faithful.wellFormed honest with same | moved
    · rw [same]
      exact faithful.view
    · exact faithful.view.step candidate_recycles assumed.1.view moved

/-! ## Meeting the assumptions -/

/-- No counter has come round yet. -/
def FewDraws (pool : Pool) : Prop :=
  ∀ conn < pool.nextConn, (pool.conn conn).draws ≤ idWindow

instance (pool : Pool) : Decidable pool.FewDraws :=
  inferInstanceAs (Decidable (∀ conn : Nat, conn < pool.nextConn → _))

instance (pool : Pool) : (event : Event) → Decidable (pool.Honest event)
  | .readerFrame conn _ (some position) =>
      inferInstanceAs
        (Decidable (∀ sent ∈ (pool.conn conn).sent[position]?, _))
  | .readerFrame _ _ none => isFalse id
  | .call _ _ _ | .lockConns _ | .tryNext _ | .lockOpen _ | .checkCap _
  | .loadProxy _ | .connect _ _ | .allocateFresh _ | .register _
  | .insertSender _ | .lockWriter _ | .write _ _ | .markDead _ | .touch _
  | .receive _ | .expire _ | .remove _ | .storeProxy _ | .clearConns _
  | .pruneLock _ | .pruneVisit _ | .pruneLast | .pruneEmpty | .pruneDecide
  | .pruneUnlock | .readerIdle _ | .readerStop _ | .readerDead _
  | .readerClear _ | .tick => isTrue trivial

theorem FewDraws.timely (few : pool.FewDraws)
    (wellFormed : pool.WellFormed) : pool.Timely := by
  intro task call forced lease progress leased
  exact Nat.le_trans (few _ (wellFormed.held_leased leased))
    (Nat.le_add_left _ _)

theorem everyStep_assumed {proxy : ProxyConfig} {idleTimeout : Nat}
    {events : List Event}
    (few : EveryStep step (fun pool event => pool.FewDraws ∧ pool.Honest event)
      (new proxy idleTimeout) events) :
    EveryStep step Assumed (new proxy idleTimeout) events := by
  apply few.mono_of_invariant _ _ (wellFormed_new proxy idleTimeout)
  · intro pool event wellFormed met
    exact ⟨met.1.timely wellFormed, met.2⟩
  · intro pool event next wellFormed stepped
    exact wellFormed.of_step stepped

end Pool

def otherQuery : Message :=
  [18, 52] ++ List.replicate 10 0

/-- Two calls share a connection, and the answers come in the other order. -/
def swappedAnswers : List Event :=
  [.call 0 exampleServer exampleQuery, .lockConns 0, .tryNext 0, .lockOpen 0,
    .lockConns 0, .tryNext 0, .checkCap 0, .loadProxy 0, .connect 0 true,
    .allocateFresh 0, .register 0, .insertSender 0, .lockWriter 0,
    .write 0 true, .call 1 exampleServer otherQuery, .lockConns 1, .tryNext 1,
    .insertSender 1, .lockWriter 1, .write 1 true, .touch 0, .touch 1,
    .readerFrame 0 [0, 1, 77] (some 1), .readerFrame 0 [0, 0, 66] (some 0),
    .receive 0, .receive 1]

theorem swappedAnswers_assumed :
    EveryStep Pool.step Pool.Assumed (Pool.new exampleProxy 60)
      swappedAnswers := by
  apply Pool.everyStep_assumed
  decide +kernel

end Cortado.Dns
