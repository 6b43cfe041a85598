import Cortado.Lib.Transition
import Cortado.Linux.ResolvConf

/-!
# Histories of the `resolv.conf` override

As long as every file operation succeeds, the override is a machine with three
phases: never used, active, and switched off again.  The configurator
represents this machine.  Reversibility reads off it directly; the backup does
not, because switching the override on a second time makes no new backup.
-/

namespace Cortado.Linux

open Net
open Transition

/-- A configurator and the files it works on. -/
structure Override where
  conf : ResolvConf
  files : Files

inductive Call where
  | apply (server : Option IpAddr)
  | reload (server : Option IpAddr)
  | restore
  deriving DecidableEq, Repr

/-- The name server a call asks for. -/
def Call.server : Call → Option IpAddr
  | .apply server => server
  | .reload server => server
  | .restore => none

namespace Override

def start (files : Files) : Override :=
  { conf := .system
    files := files }

def restored (state : Override) : Override :=
  let (conf, files) := state.conf.restore state.files
  { conf := conf
    files := files }

def reloaded (state : Override) (server : Option IpAddr) : Override :=
  let (_, conf, files) := state.conf.reload state.files server
  { conf := conf
    files := files }

def applied (state : Override) (server : Option IpAddr) : Override :=
  let (_, conf, files) := state.conf.apply state.files server
  { conf := conf
    files := files }

def step (state : Override) : Call → Option Override
  | .apply server => some (state.applied server)
  | .reload server => some (state.reloaded server)
  | .restore => some state.restored

end Override

/-- What the override is for: the file shows either the user's content or the
chosen name server.  An active override may have lost its backup. -/
inductive Phase where
  | untouched
  | active (server : IpAddr) (backedUp : Bool)
  | off
  deriving DecidableEq, Repr

namespace Phase

def activate : Phase → IpAddr → Phase
  | .untouched, server => .active server true
  | .active _ backedUp, server => .active server backedUp
  | .off, server => .active server false

def deactivate : Phase → Phase
  | .untouched => .untouched
  | .active _ _ => .off
  | .off => .off

def step (phase : Phase) : Call → Phase
  | .apply none => phase
  | .apply (some server) => phase.activate server
  | .reload none => phase.deactivate
  | .reload (some server) => phase.activate server
  | .restore => phase.deactivate

def current : Phase → Option IpAddr
  | .untouched => none
  | .active server _ => some server
  | .off => none

def original (content : Bytes) : Phase → Option Bytes
  | .untouched => none
  | .active _ _ => some content
  | .off => some content

def backup (content : Bytes) (initial : Option Bytes) :
    Phase → Option Bytes
  | .untouched => initial
  | .active _ true => some content
  | .active _ false => none
  | .off => none

theorem deactivate_of_inactive {phase : Phase}
    (inactive : phase.current = none) : phase.deactivate = phase := by
  cases phase with
  | untouched => rfl
  | active server backedUp => cases inactive
  | off => rfl

theorem eq_active {phase : Phase} {server : IpAddr}
    (active : phase.current = some server) :
    ∃ backedUp, phase = .active server backedUp := by
  cases phase with
  | untouched => cases active
  | active other backedUp =>
      cases active
      exact ⟨backedUp, rfl⟩
  | off => cases active

theorem activate_of_active {phase : Phase} {server : IpAddr}
    (active : phase.current = some server) :
    phase.activate server = phase := by
  obtain ⟨backedUp, rfl⟩ := eq_active active
  rfl

end Phase

/-- What `resolv.conf` should hold under an override. -/
def shown (content : Bytes) : Option IpAddr → Bytes
  | none => content
  | some server => nameserverLine server

/-- The configurator is in a phase of the machine, for a user's content and
the backup file found at the start. -/
structure Represents (content : Bytes) (initial : Option Bytes)
    (phase : Phase) (state : Override) : Prop where
  reliable : state.files.Reliable
  current : state.conf.current = phase.current
  original : state.conf.original = phase.original content
  resolvConf : state.files.resolvConf = some (shown content phase.current)
  backup : state.files.backup = phase.backup content initial

section Simulation

variable {content : Bytes} {initial : Option Bytes} {phase : Phase}
  {state : Override}

/-- The first call that needs it reads the user's content and saves it; later
calls leave the backup as it is. -/
theorem Represents.ensureBackup
    (represents : Represents content initial phase state) (server : IpAddr) :
    ∃ files : Files,
      state.conf.ensureBackup state.files =
          (.ok (), { state.conf with original := some content }, files) ∧
        files.Reliable ∧
        files.backup = (phase.activate server).backup content initial := by
  have reliable := represents.reliable
  have original := represents.original
  have known (remembered : state.conf.original = some content) :
      state.conf.ensureBackup state.files =
        (.ok (), { state.conf with original := some content },
          state.files) := by
    simp only [ResolvConf.ensureBackup, remembered]
    rw [← remembered]
  cases phase with
  | untouched =>
      refine ⟨{ state.files.advance.advance with backup := some content },
        ?_, reliable.advance.advance, rfl⟩
      have unread : state.conf.original = none := original
      have present : state.files.resolvConf = some content :=
        represents.resolvConf
      simp only [ResolvConf.ensureBackup, unread, Files.read,
        reliable.noFault, present,
        Files.writeBackup_reliable reliable.advance]
  | active old backedUp =>
      refine ⟨state.files, known original, reliable, ?_⟩
      rw [represents.backup]
      cases backedUp <;> rfl
  | off => exact ⟨state.files, known original, reliable, represents.backup⟩

theorem Represents.redirect
    (represents : Represents content initial phase state) (server : IpAddr) :
    ∃ later : Override,
      state.conf.redirect state.files server =
          (.ok (), later.conf, later.files) ∧
        Represents content initial (phase.activate server) later := by
  obtain ⟨files, backedUp, reliable, backup⟩ :=
    represents.ensureBackup server
  refine ⟨{ conf := { current := some server, original := some content }
            files := { files.advance with
              resolvConf := some (nameserverLine server) } }, ?_, ?_⟩
  · simp only [ResolvConf.redirect, backedUp, ResolvConf.writeNameserver,
      Files.write_reliable reliable]
  · cases phase <;> exact ⟨reliable.advance, rfl, rfl, rfl, backup⟩

/-- Writing the remembered content back and removing the backup. -/
theorem Represents.writeBack {server : IpAddr} {backedUp : Bool}
    (represents :
      Represents content initial (.active server backedUp) state) :
    ∃ files : Files,
      state.files.write content .restore = (.ok (), files) ∧
        Represents content initial .off
          { conf := { current := none, original := some content }
            files := files.removeBackup } := by
  have reliable := represents.reliable
  have written : Files.Reliable
      { state.files.advance with resolvConf := some content } :=
    reliable.advance
  refine ⟨_, Files.write_reliable reliable content .restore, ?_⟩
  rw [Files.removeBackup_reliable written]
  exact ⟨written.advance, rfl, rfl, rfl, rfl⟩

theorem Represents.reloadNone
    (represents : Represents content initial phase state) :
    Represents content initial phase.deactivate (state.reloaded none) := by
  cases current : state.conf.current with
  | none =>
      have inactive := represents.current.symm.trans current
      rw [Phase.deactivate_of_inactive inactive]
      simp only [Override.reloaded, ResolvConf.reload, current, if_true]
      exact represents
  | some server =>
      obtain ⟨backedUp, rfl⟩ :=
        Phase.eq_active (represents.current.symm.trans current)
      have original : state.conf.original = some content :=
        represents.original
      obtain ⟨files, written, off⟩ := represents.writeBack
      simp only [Override.reloaded, ResolvConf.reload, current, reduceCtorEq,
        if_false, original, written]
      exact off

theorem Represents.restore
    (represents : Represents content initial phase state) :
    Represents content initial phase.deactivate state.restored := by
  cases current : state.conf.current with
  | none =>
      have inactive := represents.current.symm.trans current
      rw [Phase.deactivate_of_inactive inactive]
      simp only [Override.restored, ResolvConf.restore, current]
      exact represents
  | some server =>
      obtain ⟨backedUp, rfl⟩ :=
        Phase.eq_active (represents.current.symm.trans current)
      have original : state.conf.original = some content :=
        represents.original
      obtain ⟨files, written, off⟩ := represents.writeBack
      simp only [Override.restored, ResolvConf.restore, current, original,
        written]
      exact off

theorem Represents.reloadSome
    (represents : Represents content initial phase state) (server : IpAddr) :
    Represents content initial (phase.activate server)
      (state.reloaded (some server)) := by
  by_cases same : some server = state.conf.current
  · have active := represents.current.symm.trans same.symm
    rw [Phase.activate_of_active active]
    simp only [Override.reloaded, ResolvConf.reload, if_pos same]
    exact represents
  · obtain ⟨later, redirected, activated⟩ := represents.redirect server
    simp only [Override.reloaded, ResolvConf.reload, if_neg same, redirected]
    exact activated

/-- One call takes the configurator along the machine. -/
theorem Represents.step {call : Call} {next : Override}
    (represents : Represents content initial phase state)
    (stepped : state.step call = some next) :
    Represents content initial (phase.step call) next := by
  cases call with
  | apply server =>
      cases stepped
      cases server with
      | none => exact represents
      | some server =>
          obtain ⟨later, redirected, activated⟩ := represents.redirect server
          simp only [Override.applied, ResolvConf.apply, redirected]
          exact activated
  | reload server =>
      cases stepped
      cases server with
      | none => exact represents.reloadNone
      | some server => exact represents.reloadSome server
  | restore =>
      cases stepped
      exact represents.restore

/-- A whole history of calls does. -/
theorem Represents.run {calls : List Call} {last : Override}
    (represents : Represents content initial phase state)
    (completed : Transition.run Override.step state calls = some last) :
    Represents content initial (calls.foldl Phase.step phase) last := by
  induction calls generalizing state phase with
  | nil =>
      cases completed
      exact represents
  | cons call calls induction =>
      obtain ⟨next, stepped, rest⟩ := Option.bind_eq_some_iff.mp completed
      exact induction (represents.step stepped) rest

end Simulation

theorem represents_start {files : Files} {content : Bytes}
    (reliable : files.Reliable) (present : files.resolvConf = some content) :
    Represents content files.backup .untouched (.start files) :=
  ⟨reliable, rfl, rfl, present, rfl⟩

/-- Files on which every operation succeeds. -/
def reliableFiles (content : Bytes) : Files :=
  { resolvConf := some content
    backup := none
    faults := fun _ => none }

/-- Switched on, off by a reload, and on again. -/
def switchedBackOn (server : IpAddr) : List Call :=
  [.apply (some server), .reload none, .reload (some server)]

/-- The backup that the recovery instructions rely on. -/
def Recoverable (content : Bytes) (state : Override) : Prop :=
  state.conf.current ≠ none → state.files.backup = some content

/-- The override is not switched on again after it was switched off. -/
def FirstActivation (state : Override) (call : Call) : Prop :=
  call.server ≠ none → state.conf.current = none →
    state.conf.original = none

/-- An active override has its backup. -/
def Phase.Backed : Phase → Prop
  | .active _ backedUp => backedUp = true
  | _ => True

theorem Phase.backed_step {phase : Phase} (backed : phase.Backed)
    (call : Call) :
    (phase.step call).Backed ↔ (call.server ≠ none → phase ≠ .off) := by
  cases phase with
  | untouched =>
      apply iff_of_true
      · rcases call with (_ | server) | (_ | server) | _ <;> trivial
      · intro _ impossible
        cases impossible
  | active server backedUp =>
      apply iff_of_true
      · rcases call with (_ | server) | (_ | server) | _ <;>
          first | exact backed | trivial
      · intro _ impossible
        cases impossible
  | off =>
      rcases call with (_ | server) | (_ | server) | _ <;>
        simp [Phase.step, Phase.activate, Phase.deactivate, Phase.Backed,
          Call.server]

section Recovery

variable {content : Bytes} {initial : Option Bytes} {phase : Phase}
  {state : Override}

theorem Represents.recoverable_iff
    (represents : Represents content initial phase state) :
    Recoverable content state ↔ phase.Backed := by
  rw [Recoverable, represents.current, represents.backup]
  cases phase with
  | untouched => simp [Phase.current, Phase.Backed]
  | active server backedUp =>
      cases backedUp <;> simp [Phase.current, Phase.backup, Phase.Backed]
  | off => simp [Phase.current, Phase.Backed]

theorem Represents.firstActivation_iff
    (represents : Represents content initial phase state) (call : Call) :
    FirstActivation state call ↔ (call.server ≠ none → phase ≠ .off) := by
  rw [FirstActivation, represents.current, represents.original]
  cases phase with
  | untouched => simp [Phase.current, Phase.original]
  | active server backedUp => simp [Phase.current]
  | off => simp [Phase.current, Phase.original]

end Recovery

/-- The invariant of histories that never switch the override on again. -/
def RepresentsBacked (content : Bytes) (initial : Option Bytes)
    (state : Override) : Prop :=
  ∃ phase : Phase, Represents content initial phase state ∧ phase.Backed

instance (state : Override) (call : Call) :
    Decidable (FirstActivation state call) :=
  inferInstanceAs (Decidable (_ → _ → _))

/-- While the override is active the backup holds the user's content, exactly
in the histories which never switch it on a second time. -/
theorem backup_exact (files : Files) {content : Bytes}
    (reliable : files.Reliable) (present : files.resolvConf = some content)
    (calls : List Call) :
    Always Override.step (Recoverable content) (.start files) calls ↔
      EveryStep Override.step FirstActivation (.start files) calls := by
  have initial : RepresentsBacked content files.backup (.start files) :=
    ⟨.untouched, represents_start reliable present, trivial⟩
  refine always_iff_everyStep (fun _ => True) ?_ ?_ ?_ initial
    (fun _ _ => trivial)
  · intro state invariant
    obtain ⟨phase, represents, backed⟩ := invariant
    exact represents.recoverable_iff.mpr backed
  · intro state call next _ invariant stepped
    obtain ⟨phase, represents, backed⟩ := invariant
    rw [(represents.step stepped).recoverable_iff,
      represents.firstActivation_iff, Phase.backed_step backed]
  · intro state call next _ invariant stepped met
    obtain ⟨phase, represents, backed⟩ := invariant
    refine ⟨phase.step call, represents.step stepped, ?_⟩
    rw [Phase.backed_step backed]
    exact (represents.firstActivation_iff call).mp met

theorem backup_exact_moved :
    Always Override.step (Recoverable [35]) (.start (reliableFiles [35]))
      [.apply (some (.v4 (.ofOctets 9 9 9 9))),
        .reload (some (.v4 (.ofOctets 1 1 1 1))), .reload none] := by
  apply (backup_exact (reliableFiles [35]) rfl rfl _).mpr
  decide +kernel

/-- Switched back on, the override runs without a backup. -/
theorem switchedBackOn_unrecoverable :
    ¬Always Override.step (Recoverable [35]) (.start (reliableFiles [35]))
      (switchedBackOn (.v4 (.ofOctets 9 9 9 9))) := by
  intro always
  have recoverable := always.final rfl
  have backup := recoverable (by decide +kernel)
  revert backup
  decide +kernel

end Cortado.Linux
