import Cortado.Lib.Transition
import Cortado.Udp.RelayStep

/-!
# The table of UDP sessions

Notifications name a source and may be processed long after the session of
that source was replaced.  The table stays sound because a session is replaced
only after its receiver is gone, and an entry is removed only then.
-/

namespace Cortado.Udp

open Net Socks Transition

namespace Relay

/-- What the loop and its sessions keep up between steps. -/
structure Tabled (opts : UdpOptions) (relay : Relay) : Prop where
  size : relay.sessions.keys.length ≤ opts.maxSessions
  fresh : ∀ id, relay.spawned ≤ id → relay.tasks id = none
  listed : relay.running = true → ∀ id task, relay.tasks id = some task →
    task.isClosed = false → relay.sessions.lookup task.src = some id
  unique : ∀ first second task other, relay.tasks first = some task →
    relay.tasks second = some other → task.isClosed = false →
    other.isClosed = false → task.src = other.src → first = second
  noticed : ∀ src id, relay.sessions.lookup src = some id →
    ∃ task, relay.tasks id = some task ∧ task.src = src ∧
      (task.isClosed = true →
        task.phase = .notifying ∨ (src, id) ∈ relay.done.queue)

theorem tabled_start (opts : UdpOptions) (proxy : ProxyConfig) :
    (start proxy).Tabled opts where
  size := Nat.zero_le _
  fresh := by
    intro id _
    rfl
  listed := by
    intro _ id task present
    cases present
  unique := by
    intro first second task other present
    cases present
  noticed := by
    intro src id found
    cases found

/-- The table does not depend on the rest of the state. -/
theorem Tabled.of_same {opts : UdpOptions} {relay next : Relay}
    (tabled : relay.Tabled opts) (sessions : next.sessions = relay.sessions)
    (tasks : next.tasks = relay.tasks) (spawned : next.spawned = relay.spawned)
    (running : next.running = relay.running)
    (done : next.done = relay.done) : next.Tabled opts where
  size := sessions ▸ tabled.size
  fresh := by
    rw [spawned, tasks]
    exact tabled.fresh
  listed := by
    rw [running, tasks, sessions]
    exact tabled.listed
  unique := by
    rw [tasks]
    exact tabled.unique
  noticed := by
    rw [sessions, tasks, done]
    exact tabled.noticed

/-- One task goes on, and says so if it ends. -/
structure TaskChanged (relay next : Relay) (id : SessionId)
    (task later : SessionTask) : Prop where
  tasks : next.tasks = Function.update relay.tasks id (some later)
  sessions : next.sessions = relay.sessions
  spawned : next.spawned = relay.spawned
  running : next.running = relay.running
  done : ∀ notice ∈ relay.done.queue, notice ∈ next.done.queue
  src : later.src = task.src
  monotone : later.isClosed = false → task.isClosed = false
  noticed : later.isClosed = true →
    later.phase = .notifying ∨ (task.src, id) ∈ next.done.queue

/-- A task that goes on listening has nothing to say. -/
theorem TaskChanged.of_listening {relay next : Relay} {id : SessionId}
    {task later : SessionTask}
    (tasks : next.tasks = Function.update relay.tasks id (some later))
    (sessions : next.sessions = relay.sessions)
    (spawned : next.spawned = relay.spawned)
    (running : next.running = relay.running) (done : next.done = relay.done)
    (src : later.src = task.src) (before : task.isClosed = false)
    (after : later.isClosed = false) : TaskChanged relay next id task later where
  tasks := tasks
  sessions := sessions
  spawned := spawned
  running := running
  done := by
    rw [done]
    exact fun _ member => member
  src := src
  monotone := fun _ => before
  noticed := by
    intro closed
    rw [after] at closed
    cases closed

theorem isClosed_of_phase {task : SessionTask} {phase : Phase}
    (atPhase : task.phase = phase) :
    task.isClosed = (task.enter phase).isClosed := by
  rw [SessionTask.enter_eq atPhase]

theorem SessionMoved.taskChanged {relay next : Relay} {id : SessionId}
    {task : SessionTask} (present : relay.tasks id = some task)
    (moved : SessionMoved relay id task next) :
    ∃ later, TaskChanged relay next id task later := by
  cases moved with
  | associated addr associating =>
      exact ⟨_, .of_listening rfl rfl rfl rfl rfl rfl
        (isClosed_of_phase associating) rfl⟩
  | took selecting =>
      exact ⟨_, .of_listening rfl rfl rfl rfl rfl rfl
        (isClosed_of_phase selecting) rfl⟩
  | sent sending =>
      exact ⟨_, .of_listening rfl rfl rfl rfl rfl rfl
        (isClosed_of_phase sending) rfl⟩
  | ignored selecting =>
      have unchanged : relay.tasks =
          Function.update relay.tasks id (some task) := by
        rw [← present, Function.update_eq_self]
      have listening := isClosed_of_phase selecting
      exact ⟨task, .of_listening unchanged rfl rfl rfl rfl rfl listening
        listening⟩
  | decoded selecting =>
      exact ⟨_, .of_listening rfl rfl rfl rfl rfl rfl
        (isClosed_of_phase selecting) rfl⟩
  | replied replying =>
      exact ⟨_, .of_listening rfl rfl rfl rfl rfl rfl
        (isClosed_of_phase replying) rfl⟩
  | stopped listening =>
      exact ⟨_,
        { tasks := rfl
          sessions := rfl
          spawned := rfl
          running := rfl
          done := fun _ member => member
          src := rfl
          monotone := fun _ => listening
          noticed := fun _ => Or.inl rfl }⟩
  | notified notifying queued =>
      have queue := Channel.queue_of_send queued
      exact ⟨_,
        { tasks := rfl
          sessions := rfl
          spawned := rfl
          running := rfl
          done := by
            intro notice member
            rw [queue]
            exact List.mem_append_left _ member
          src := rfl
          monotone := by
            intro listening
            cases listening
          noticed := by
            intro _
            right
            rw [queue]
            exact List.mem_append_right _ (List.mem_singleton_self _) }⟩

theorem Tabled.of_taskChanged {opts : UdpOptions} {relay next : Relay}
    {id : SessionId} {task later : SessionTask}
    (tabled : relay.Tabled opts) (present : relay.tasks id = some task)
    (changed : TaskChanged relay next id task later) : next.Tabled opts := by
  -- Every listening task of `next` was one of `relay`, with the same source.
  have before : ∀ other found, next.tasks other = some found →
      found.isClosed = false → ∃ earlier, relay.tasks other = some earlier ∧
        earlier.isClosed = false ∧ earlier.src = found.src := by
    intro other found holds listening
    rw [changed.tasks] at holds
    rcases task_of_update holds with ⟨rfl, rfl⟩ | ⟨_, was⟩
    · exact ⟨task, present, changed.monotone listening, changed.src.symm⟩
    · exact ⟨found, was, listening, rfl⟩
  exact
    { size := changed.sessions ▸ tabled.size
      fresh := by
        intro other unborn
        rw [changed.spawned] at unborn
        have none := tabled.fresh other unborn
        have different : other ≠ id := by
          intro same
          rw [same, present] at none
          cases none
        rw [changed.tasks, Function.update_of_ne different, none]
      listed := by
        intro running other found holds listening
        rw [changed.running] at running
        obtain ⟨earlier, was, listened, src⟩ :=
          before other found holds listening
        rw [changed.sessions, ← src]
        exact tabled.listed running other earlier was listened
      unique := by
        intro first second found other firstHolds secondHolds firstListens
          secondListens sameSrc
        obtain ⟨_, firstWas, firstListened, firstSrc⟩ :=
          before first found firstHolds firstListens
        obtain ⟨_, secondWas, secondListened, secondSrc⟩ :=
          before second other secondHolds secondListens
        exact tabled.unique first second _ _ firstWas secondWas firstListened
          secondListened (by rw [firstSrc, secondSrc, sameSrc])
      noticed := by
        intro src other found
        rw [changed.sessions] at found
        obtain ⟨earlier, was, wasSrc, wasNoticed⟩ :=
          tabled.noticed src other found
        by_cases same : other = id
        · subst same
          obtain rfl : task = earlier := Option.some.inj (present.symm.trans was)
          refine ⟨later, ?_, changed.src.trans wasSrc, ?_⟩
          · rw [changed.tasks, Function.update_self]
          · rw [← wasSrc]
            exact changed.noticed
        · refine ⟨earlier, ?_, wasSrc, ?_⟩
          · rw [changed.tasks, Function.update_of_ne same, was]
          · intro closed
            exact (wasNoticed closed).imp_right (changed.done _) }

theorem running_of_selecting {relay : Relay}
    (waiting : relay.selecting = true) : relay.running = true :=
  (Bool.and_eq_true_iff.mp waiting).1

theorem stored_of_lookup {relay : Relay} {src : SocketAddr} {id : SessionId}
    (found : relay.sessions.lookup src = some id) :
    relay.stored src = relay.tasks id := by
  rw [stored, found]
  rfl

/-- While the loop runs, a source that is not live has no listening task. -/
theorem Tabled.src_ne_of_dead {opts : UdpOptions} {relay : Relay}
    {src : SocketAddr} {id : SessionId} {task : SessionTask}
    (tabled : relay.Tabled opts) (running : relay.running = true)
    (dead : relay.live src = false) (present : relay.tasks id = some task)
    (listening : task.isClosed = false) : task.src ≠ src := by
  intro same
  have found := tabled.listed running id task present listening
  rw [same] at found
  rw [live, stored_of_lookup found, present] at dead
  simp [listening] at dead

theorem Tabled.tasks_spawnSession {opts : UdpOptions} {relay : Relay}
    {id : SessionId} {task : SessionTask} (tabled : relay.Tabled opts)
    (present : relay.tasks id = some task) (src : SocketAddr) :
    (relay.spawnSession src).tasks id = some task := by
  have different : id ≠ relay.spawned := by
    intro same
    rw [same, tabled.fresh _ (Nat.le_refl _)] at present
    cases present
  change Function.update _ _ _ _ = _
  rw [Function.update_of_ne different, present]

theorem Tabled.spawnSession {opts : UdpOptions} {relay : Relay}
    {src : SocketAddr} (tabled : relay.Tabled opts)
    (running : relay.running = true) (dead : relay.live src = false)
    (room : relay.sessions.keys.length < opts.maxSessions) :
    (relay.spawnSession src).Tabled opts := by
  have other : ∀ id task, relay.tasks id = some task →
      task.isClosed = false → task.src ≠ src := by
    intro id task
    exact tabled.src_ne_of_dead running dead
  exact
    { size := by
        change (relay.sessions.insert src relay.spawned).keys.length ≤ _
        have shorter : (relay.sessions.keys.erase src).length ≤
            relay.sessions.keys.length := List.length_erase_le
        rw [AList.keys_insert, List.length_cons]
        omega
      fresh := by
        intro id unborn
        change relay.spawned + 1 ≤ id at unborn
        change Function.update _ _ _ _ = _
        have different : id ≠ relay.spawned := by omega
        rw [Function.update_of_ne different]
        exact tabled.fresh id (by omega)
      listed := by
        intro _ id task present listening
        change (relay.sessions.insert src relay.spawned).lookup _ = _
        rcases task_of_update present with ⟨rfl, rfl⟩ | ⟨_, was⟩
        · exact AList.lookup_insert relay.sessions
        · rw [AList.lookup_insert_ne (other id task was listening)]
          exact tabled.listed running id task was listening
      unique := by
        intro first second task found firstPresent secondPresent firstListens
          secondListens sameSrc
        rcases task_of_update firstPresent with ⟨rfl, rfl⟩ | ⟨_, firstWas⟩ <;>
          rcases task_of_update secondPresent with
            ⟨rfl, rfl⟩ | ⟨_, secondWas⟩
        · rfl
        · exact (other second found secondWas secondListens
            sameSrc.symm).elim
        · exact (other first task firstWas firstListens sameSrc).elim
        · exact tabled.unique first second task found firstWas secondWas
            firstListens secondListens sameSrc
      noticed := by
        intro source id found
        change (relay.sessions.insert src relay.spawned).lookup _ = _ at found
        by_cases same : source = src
        · subst same
          rw [AList.lookup_insert] at found
          cases found
          refine ⟨.spawn source relay.proxy, ?_, rfl, ?_⟩
          · change Function.update _ _ _ _ = _
            rw [Function.update_self]
          · intro closed
            cases closed
        · rw [AList.lookup_insert_ne same] at found
          obtain ⟨task, present, src, noticed⟩ := tabled.noticed source id found
          exact ⟨task, tabled.tasks_spawnSession present _, src, noticed⟩ }

theorem Tabled.closed {opts : UdpOptions} {relay : Relay}
    (tabled : relay.Tabled opts) :
    { relay with running := false, sessions := ∅ }.Tabled opts where
  size := Nat.zero_le _
  fresh := tabled.fresh
  listed := by
    intro running
    cases running
  unique := tabled.unique
  noticed := by
    intro src id found
    cases found

/-- The entry of a listening task survives every notification. -/
theorem lookup_processDone {relay : Relay} {dead : SocketAddr}
    {id : SessionId} {task : SessionTask}
    (present : relay.tasks id = some task)
    (listening : task.isClosed = false)
    (found : relay.sessions.lookup task.src = some id) :
    (relay.processDone dead).sessions.lookup task.src = some id := by
  unfold processDone
  split
  · rename_i closed
    have different : task.src ≠ dead := by
      intro same
      rw [← same, stored_of_lookup found, present] at closed
      simp [listening] at closed
    change (relay.sessions.erase dead).lookup task.src = some id
    rw [AList.lookup_erase_ne different, found]
  · exact found

/-- An entry that a notification leaves is that of another source, or its
task still listens. -/
theorem lookup_of_processDone {relay : Relay} {dead src : SocketAddr}
    {id : SessionId}
    (left : (relay.processDone dead).sessions.lookup src = some id) :
    relay.sessions.lookup src = some id ∧
      (src = dead → ∀ task, relay.tasks id = some task →
        task.isClosed = false) := by
  unfold processDone at left
  split at left
  · change (relay.sessions.erase dead).lookup src = some id at left
    have different : src ≠ dead := by
      intro same
      rw [same, AList.lookup_erase] at left
      cases left
    rw [AList.lookup_erase_ne different] at left
    exact ⟨left, fun same => (different same).elim⟩
  · rename_i spared
    refine ⟨left, ?_⟩
    intro same task present
    rw [← same, stored_of_lookup left, present] at spared
    simpa using spared

theorem processDone_frame (relay : Relay) (dead : SocketAddr) :
    (relay.processDone dead).tasks = relay.tasks ∧
      (relay.processDone dead).spawned = relay.spawned ∧
      (relay.processDone dead).running = relay.running ∧
      (relay.processDone dead).done = relay.done ∧
      (relay.processDone dead).sessions.keys.length ≤
        relay.sessions.keys.length := by
  unfold processDone
  split
  · refine ⟨rfl, rfl, rfl, rfl, ?_⟩
    change (relay.sessions.erase dead).keys.length ≤ _
    rw [AList.keys_erase]
    exact List.length_erase_le
  · exact ⟨rfl, rfl, rfl, rfl, Nat.le_refl _⟩

theorem Tabled.processDone {opts : UdpOptions} {relay : Relay}
    {dead : SocketAddr} {sender : SessionId}
    {done : Channel (SocketAddr × SessionId) doneChannelDepth}
    (tabled : relay.Tabled opts)
    (received : relay.done.recv? = some ((dead, sender), done)) :
    ({ relay with done := done }.processDone dead).Tabled opts := by
  obtain ⟨tasks, spawned, running, sameDone, shorter⟩ :=
    processDone_frame { relay with done := done } dead
  have queue := Channel.queue_of_recv received
  exact
    { size := shorter.trans tabled.size
      fresh := by
        rw [spawned, tasks]
        exact tabled.fresh
      listed := by
        intro runs id task present listening
        rw [tasks] at present
        rw [running] at runs
        apply lookup_processDone present listening
        exact tabled.listed runs id task present listening
      unique := by
        rw [tasks]
        exact tabled.unique
      noticed := by
        intro src id left
        obtain ⟨was, spared⟩ := lookup_of_processDone left
        obtain ⟨task, present, taskSrc, noticed⟩ := tabled.noticed src id was
        rw [tasks, sameDone]
        refine ⟨task, present, taskSrc, ?_⟩
        intro closed
        rcases noticed closed with notifying | member
        · exact Or.inl notifying
        · rw [queue] at member
          rcases List.mem_cons.mp member with same | later
          · have listening := spared (congrArg Prod.fst same) task present
            rw [listening] at closed
            cases closed
          · exact Or.inr later }

theorem tabled_step {opts : UdpOptions} (relay : Relay) (event : Event)
    (next : Relay) (tabled : relay.Tabled opts)
    (taken : relay.step opts event = some next) : next.Tabled opts := by
  cases stepped taken with
  | diverted | overloaded | refused | continued | lost | resolved | failed
  | answered | unheard | wrote | gaveUp | stored =>
      exact tabled.of_same rfl rfl rfl rfl rfl
  | opened waiting _ dead room =>
      have spawned := tabled.spawnSession (running_of_selecting waiting) dead
        room
      exact spawned.of_same rfl rfl rfl rfl rfl
  | queued _ _ present listening =>
      exact tabled.of_taskChanged present
        (.of_listening rfl rfl rfl rfl rfl rfl listening listening)
  | closed => exact tabled.closed
  | processed _ received => exact tabled.processDone received
  | session present moved =>
      obtain ⟨later, changed⟩ := moved.taskChanged present
      exact tabled.of_taskChanged present changed

/-- What the loop relies on.  A listening task is the only one of its source,
the table holds its sender, and no notification can remove it; an entry whose
task has dropped its receiver is owed the notification of that very task. -/
structure SoundTable (opts : UdpOptions) (relay : Relay) : Prop where
  size : relay.sessions.keys.length ≤ opts.maxSessions
  unique : ∀ first second task other, relay.tasks first = some task →
    relay.tasks second = some other → task.isClosed = false →
    other.isClosed = false → task.src = other.src → first = second
  listed : relay.running = true → ∀ id task, relay.tasks id = some task →
    task.isClosed = false → relay.sessions.lookup task.src = some id
  spared : ∀ next, relay.step opts .done = some next →
    ∀ id task, relay.tasks id = some task → task.isClosed = false →
      next.sessions.lookup task.src = some id
  owed : ∀ src id, relay.sessions.lookup src = some id →
    ∃ task, relay.tasks id = some task ∧ task.src = src ∧
      (task.isClosed = true →
        task.phase = .notifying ∨ (src, id) ∈ relay.done.queue)

theorem Tabled.soundTable {opts : UdpOptions} {relay : Relay}
    (tabled : relay.Tabled opts) : relay.SoundTable opts where
  size := tabled.size
  unique := tabled.unique
  listed := tabled.listed
  spared := by
    intro next taken id task present listening
    obtain ⟨waiting, result⟩ := Option.ite_none_right_eq_some.mp taken
    obtain ⟨⟨⟨dead, _⟩, done⟩, _, rfl⟩ := Option.map_eq_some_iff.mp result
    have found := tabled.listed (running_of_selecting waiting) id task present
      listening
    change ({ relay with done := done }.processDone dead).sessions.lookup _ = _
    exact lookup_processDone present listening found
  owed := tabled.noticed

/-- The table is sound in every state the loop and its sessions reach. -/
theorem always_soundTable (opts : UdpOptions) (proxy : ProxyConfig)
    (events : List Event) :
    Always (step opts) (SoundTable opts) (start proxy) events :=
  (always_of_invariant tabled_step (tabled_start opts proxy) events).mono
    fun _ tabled => tabled.soundTable

end Relay

/-- A client of the tunnel. -/
def clientAddr : SocketAddr :=
  .v4 (Ipv4Addr.ofOctets 10 0 0 1) 5353

def remoteAddr : SocketAddr :=
  .v4 (Ipv4Addr.ofOctets 198 51 100 7) 443

def loopbackProxy : ProxyConfig :=
  { addr := .v4 (Ipv4Addr.ofOctets 127 0 0 1) 1080
    username := none
    password := none
    connectTimeoutSecs := defaultConnectTimeoutSecs
    tcpNodelay := true }

/-- The notification of a replaced session leaves its successor in place. -/
example :
    (run (Relay.step { maxSessions := 2, dnsOverTcp := true })
      (Relay.start loopbackProxy)
      [.datagram ([1], clientAddr, remoteAddr), .forward, .session 0 .fail,
        .datagram ([2], clientAddr, remoteAddr), .forward,
        .session 0 .notify, .done]).map
        (fun relay => relay.sessions.lookup clientAddr) = some (some 1) := by
  decide +kernel

end Cortado.Udp
