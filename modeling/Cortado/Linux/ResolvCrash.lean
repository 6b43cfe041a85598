import Cortado.Lib.CrashScript
import Cortado.Linux.ResolvHistory

/-!
# Hard kills

The calls of the configurator as scripts of atomic file operations, so that a
process can be killed between any two of them and a later process starts from
the files it left.  A script that is not killed does what the configurator's
functions do.
-/

namespace Cortado.Linux

open Net
open Transition
open CrashScript

inductive FileOp where
  | read
  | writeBackup (content : Bytes)
  | write (content : Bytes) (error : DnsError)
  | removeBackup

namespace FileOp

def Reply : FileOp → Type
  | .read => Option Bytes
  | .writeBackup _ => Except DnsError Unit
  | .write _ _ => Except DnsError Unit
  | .removeBackup => Unit

def effect : (op : FileOp) → Files → op.Reply × Files
  | .read, files => files.read
  | .writeBackup content, files => files.writeBackup content
  | .write content error, files => files.write content error
  | .removeBackup, files => ((), files.removeBackup)

end FileOp

abbrev FileScript := Script FileOp FileOp.Reply

namespace ResolvConf

def ensureBackupOps (conf : ResolvConf) :
    FileScript (Except DnsError Unit × ResolvConf) :=
  match conf.original with
  | some _ => .done (.ok (), conf)
  | none =>
      .perform .read fun
        | none => .done (.ok (), { conf with original := none })
        | some content =>
            .perform (.writeBackup content) fun
              | .error error => .done (.error error, conf)
              | .ok () => .done (.ok (), { conf with original := some content })

def redirectOps (conf : ResolvConf) (server : IpAddr) :
    FileScript (Except DnsError Unit × ResolvConf) :=
  conf.ensureBackupOps.bind fun
    | (.error error, conf) => .done (.error error, conf)
    | (.ok (), conf) =>
        .perform (.write (nameserverLine server) .write) fun
          | .error error => .done (.error error, conf)
          | .ok () => .done (.ok (), { conf with current := some server })

def applyOps (conf : ResolvConf) (server : Option IpAddr) :
    FileScript (Except DnsError Unit × ResolvConf) :=
  match server with
  | none => .done (.ok (), conf)
  | some dns => conf.redirectOps dns

def reloadOps (conf : ResolvConf) (server : Option IpAddr) :
    FileScript (Except DnsError Unit × ResolvConf) :=
  if server = conf.current then .done (.ok (), conf)
  else
    match server with
    | some dns => conf.redirectOps dns
    | none =>
        match conf.original with
        | none => .done (.ok (), { conf with current := none })
        | some content =>
            .perform (.write content .restore) fun
              | .error error => .done (.error error, conf)
              | .ok () =>
                  .perform .removeBackup fun _ =>
                    .done (.ok (), { conf with current := none })

def restoreOps (conf : ResolvConf) : FileScript ResolvConf :=
  match conf.current with
  | none => .done conf
  | some _ =>
      match conf.original with
      | none => .done { conf with current := none }
      | some content =>
          .perform (.write content .restore) fun
            | .error _ => .done { conf with current := none }
            | .ok () =>
                .perform .removeBackup fun _ =>
                  .done { conf with current := none }

end ResolvConf

section Uninterrupted

variable (conf : ResolvConf) (files : Files)

theorem exec_ensureBackupOps :
    Script.exec FileOp.effect conf.ensureBackupOps files =
      (((conf.ensureBackup files).1, (conf.ensureBackup files).2.1),
        (conf.ensureBackup files).2.2) := by
  unfold ResolvConf.ensureBackupOps ResolvConf.ensureBackup
  cases conf.original with
  | some content => rfl
  | none =>
      simp only [Script.exec, FileOp.effect]
      rcases files.read with ⟨_ | content, later⟩
      · rfl
      · simp only [Script.exec, FileOp.effect]
        rcases later.writeBackup content with ⟨_ | _, last⟩ <;> rfl

theorem exec_redirectOps (server : IpAddr) :
    Script.exec FileOp.effect (conf.redirectOps server) files =
      (((conf.redirect files server).1, (conf.redirect files server).2.1),
        (conf.redirect files server).2.2) := by
  rw [ResolvConf.redirectOps, Script.exec_bind, exec_ensureBackupOps,
    ResolvConf.redirect]
  rcases conf.ensureBackup files with ⟨_ | _, middle, later⟩
  · rfl
  · simp only [Script.exec, FileOp.effect, ResolvConf.writeNameserver]
    rcases later.write (nameserverLine server) .write with ⟨_ | _, last⟩ <;>
      rfl

theorem exec_applyOps (server : Option IpAddr) :
    Script.exec FileOp.effect (conf.applyOps server) files =
      (((conf.apply files server).1, (conf.apply files server).2.1),
        (conf.apply files server).2.2) := by
  cases server with
  | none => rfl
  | some dns => exact exec_redirectOps conf files dns

theorem exec_reloadOps (server : Option IpAddr) :
    Script.exec FileOp.effect (conf.reloadOps server) files =
      (((conf.reload files server).1, (conf.reload files server).2.1),
        (conf.reload files server).2.2) := by
  unfold ResolvConf.reloadOps ResolvConf.reload
  by_cases same : server = conf.current
  · rw [if_pos same, if_pos same]
    rfl
  · rw [if_neg same, if_neg same]
    cases server with
    | some dns => exact exec_redirectOps conf files dns
    | none =>
        cases conf.original with
        | none => rfl
        | some content =>
            simp only [Script.exec, FileOp.effect]
            rcases files.write content .restore with ⟨_ | _, later⟩ <;> rfl

theorem exec_restoreOps :
    Script.exec FileOp.effect conf.restoreOps files = conf.restore files := by
  rw [ResolvConf.restoreOps, ResolvConf.restore]
  cases conf.current with
  | none => rfl
  | some server =>
      cases conf.original with
      | none => rfl
      | some content =>
          simp only [Script.exec, FileOp.effect]
          rcases files.write content .restore with ⟨_ | _, later⟩ <;> rfl

end Uninterrupted

/-- The configurator that is left after a call; a restore ends the process. -/
def Call.leaves (conf : ResolvConf) : Call → Option ResolvConf
  | .apply _ => some conf
  | .reload _ => some conf
  | .restore => none

def ResolvConf.callOps (conf : ResolvConf) (call : Call) :
    FileScript (Option ResolvConf) :=
  match call with
  | .apply server =>
      (conf.applyOps server).map fun outcome => call.leaves outcome.2
  | .reload server =>
      (conf.reloadOps server).map fun outcome => call.leaves outcome.2
  | .restore => conf.restoreOps.map call.leaves

/-- The files and what is left to do of the current process.  A script that is
done holds the idle configurator, or nothing when no process is running. -/
structure Machine where
  files : Files
  process : FileScript (Option ResolvConf)

inductive CrashEvent where
  | start
  | call (call : Call)
  | operate
  | kill
  deriving DecidableEq, Repr

namespace Machine

def boot (files : Files) : Machine :=
  { files := files
    process := .done none }

def step (machine : Machine) : CrashEvent → Option Machine
  | .start =>
      match machine.process with
      | .done none => some { machine with process := .done (some .system) }
      | _ => none
  | .call call =>
      match machine.process with
      | .done (some conf) => some { machine with process := conf.callOps call }
      | _ => none
  | .operate =>
      match machine.process with
      | .perform op next =>
          let (reply, files) := op.effect machine.files
          some
            { files := files
              process := next reply }
      | .done _ => none
  | .kill => some { machine with process := .done none }

/-- A process that is not killed carries its script out. -/
theorem run_operate (files : Files)
    (process : FileScript (Option ResolvConf)) :
    ∃ count,
      run step { files := files, process := process }
          (List.replicate count .operate) =
        some
          { files := (Script.exec FileOp.effect process files).2
            process := .done (Script.exec FileOp.effect process files).1 } := by
  induction process generalizing files with
  | done value => exact ⟨0, rfl⟩
  | perform op next induction =>
      obtain ⟨count, completed⟩ :=
        induction (op.effect files).1 (op.effect files).2
      exact ⟨count + 1, completed⟩

/-- An uninterrupted call does what the configurator's function does. -/
theorem run_call {files : Files} {conf : ResolvConf} {call : Call}
    {next : Override}
    (stepped : Override.step { conf := conf, files := files } call =
      some next) :
    ∃ count,
      run step { files := files, process := .done (some conf) }
          (.call call :: List.replicate count .operate) =
        some
          { files := next.files
            process := .done (call.leaves next.conf) } := by
  obtain ⟨count, completed⟩ := run_operate files (conf.callOps call)
  refine ⟨count, completed.trans ?_⟩
  cases call with
  | apply server =>
      cases stepped
      simp only [ResolvConf.callOps, Script.map, Script.exec_bind,
        exec_applyOps, Script.exec]
      rfl
  | reload server =>
      cases stepped
      simp only [ResolvConf.callOps, Script.map, Script.exec_bind,
        exec_reloadOps, Script.exec]
      rfl
  | restore =>
      cases stepped
      simp only [ResolvConf.callOps, Script.map, Script.exec_bind,
        exec_restoreOps, Script.exec]
      rfl

end Machine

/-- The user's content is in one of the two files. -/
def Preserved (content : Bytes) (files : Files) : Prop :=
  files.resolvConf = some content ∨ files.backup = some content

/-- A configurator remembers nothing but the user's content. -/
def Remembers (content : Bytes) (conf : ResolvConf) : Prop :=
  ∀ saved, conf.original = some saved → saved = content

/-- Between two calls, an active override whose content is remembered still
has its backup, so that a write which cuts `resolv.conf` short loses
nothing. -/
structure Intact (content : Bytes) (conf : ResolvConf) (files : Files) :
    Prop where
  remembers : Remembers content conf
  backup : conf.current ≠ none → conf.original ≠ none →
    files.backup = some content

/-- The override may be switched on: a configurator that has read nothing yet
finds the user's content in place and does not fail to read it, unless the
backup holds it as well; one that has, finds its backup still there. -/
def MayActivate (content : Bytes) (conf : ResolvConf) (files : Files) :
    Prop :=
  (conf.original = none →
    files.resolvConf = some content ∧
      (files.faults 0 = none ∨ files.backup = some content)) ∧
  (conf.original ≠ none → files.backup = some content)

instance (content : Bytes) (files : Files) :
    Decidable (Preserved content files) :=
  inferInstanceAs (Decidable (_ ∨ _))

instance (content : Bytes) (conf : ResolvConf) (files : Files) :
    Decidable (MayActivate content conf files) :=
  inferInstanceAs (Decidable ((_ → _) ∧ (_ → _)))

section Safety

variable {content : Bytes} {conf : ResolvConf} {files : Files}

theorem Intact.of_backup (remembers : Remembers content conf)
    (backup : files.backup = some content) : Intact content conf files :=
  ⟨remembers, fun _ _ => backup⟩

theorem Intact.of_unread (unread : conf.original = none) :
    Intact content conf files := by
  constructor
  · intro saved impossible
    rw [unread] at impossible
    cases impossible
  · intro _ impossible
    exact (impossible unread).elim

theorem Intact.off (remembers : Remembers content conf) :
    Intact content { conf with current := none } files := by
  refine ⟨remembers, ?_⟩
  intro impossible
  exact (impossible rfl).elim

/-- After a successful backup the backup file holds the user's content. -/
def BackedUp (content : Bytes) (outcome : Except DnsError Unit × ResolvConf)
    (files : Files) : Prop :=
  Intact content outcome.2 files ∧
    (outcome.1 = .ok () → files.backup = some content)

theorem safe_ensureBackupOps (preserved : Preserved content files)
    (remembers : Remembers content conf)
    (permitted : MayActivate content conf files) :
    Script.Safe FileOp.effect (Preserved content) (BackedUp content)
      conf.ensureBackupOps files := by
  unfold ResolvConf.ensureBackupOps
  cases original : conf.original with
  | some saved =>
      have backedUp := permitted.2 (by simp [original])
      exact ⟨preserved, .of_backup remembers backedUp, fun _ => backedUp⟩
  | none =>
      obtain ⟨present, readable⟩ := permitted.1 original
      refine ⟨preserved, ?_⟩
      cases unread : files.faults 0 with
      | some fault =>
          have backedUp : files.backup = some content := by
            rcases readable with works | backedUp
            · rw [works] at unread
              cases unread
            · exact backedUp
          simp only [FileOp.effect, Files.read, unread]
          exact ⟨preserved, .of_unread rfl, fun _ => backedUp⟩
      | none =>
          simp only [FileOp.effect, Files.read, unread, present]
          refine ⟨preserved, ?_⟩
          rcases files.advance.writeBackup_cases content with
            ⟨fault, _, failed⟩ | ⟨_, written⟩
          · simp only [FileOp.effect, failed]
            refine ⟨Or.inl present, .of_unread original, ?_⟩
            intro impossible
            cases impossible
          · simp only [FileOp.effect, written]
            refine ⟨Or.inr rfl, .of_backup ?_ rfl, fun _ => rfl⟩
            intro saved remembered
            cases remembered
            rfl

theorem safe_redirectOps (server : IpAddr)
    (preserved : Preserved content files)
    (remembers : Remembers content conf)
    (permitted : MayActivate content conf files) :
    Script.Safe FileOp.effect (Preserved content)
      (fun outcome later => Intact content outcome.2 later)
      (conf.redirectOps server) files := by
  apply (safe_ensureBackupOps preserved remembers permitted).bind
  intro outcome later laterPreserved backedUp
  obtain ⟨result, middle⟩ := outcome
  obtain ⟨intact, succeeded⟩ := backedUp
  cases result with
  | error error => exact ⟨laterPreserved, intact⟩
  | ok =>
      refine ⟨laterPreserved, ?_⟩
      have kept : later.backup = some content := succeeded rfl
      rcases later.write_cases (nameserverLine server) .write with
        ⟨fault, _, failed⟩ | ⟨_, written⟩
      · simp only [FileOp.effect, failed]
        exact ⟨Or.inr kept, .of_backup intact.remembers kept⟩
      · simp only [FileOp.effect, written]
        exact ⟨Or.inr kept, .of_backup intact.remembers kept⟩

theorem Preserved.removeBackup (present : files.resolvConf = some content) :
    Preserved content files.removeBackup := by
  apply Or.inl
  unfold Files.removeBackup
  split <;> exact present

theorem safe_reloadOps (server : Option IpAddr)
    (preserved : Preserved content files) (intact : Intact content conf files)
    (permitted : server ≠ none → MayActivate content conf files) :
    Script.Safe FileOp.effect (Preserved content)
      (fun outcome later => Intact content outcome.2 later)
      (conf.reloadOps server) files := by
  unfold ResolvConf.reloadOps
  by_cases same : server = conf.current
  · rw [if_pos same]
    exact ⟨preserved, intact⟩
  · rw [if_neg same]
    cases server with
    | some dns =>
        exact safe_redirectOps dns preserved intact.remembers
          (permitted (by simp))
    | none =>
        cases original : conf.original with
        | none => exact ⟨preserved, .of_unread rfl⟩
        | some saved =>
            obtain rfl := intact.remembers saved original
            have backup := intact.backup (Ne.symm same) (by simp [original])
            have off : Intact saved { conf with current := none }
                (Files.removeBackup
                  { files.advance with resolvConf := some saved }) :=
              .off intact.remembers
            rw [original] at off
            refine ⟨preserved, ?_⟩
            rcases files.write_cases saved .restore with
              ⟨fault, _, failed⟩ | ⟨_, written⟩
            · simp only [FileOp.effect, failed]
              exact ⟨Or.inr backup, .of_backup intact.remembers backup⟩
            · simp only [FileOp.effect, written]
              exact ⟨Or.inl rfl, Preserved.removeBackup rfl, off⟩

theorem safe_restoreOps (preserved : Preserved content files)
    (intact : Intact content conf files) :
    Script.Safe FileOp.effect (Preserved content) (fun _ _ => True)
      conf.restoreOps files := by
  unfold ResolvConf.restoreOps
  cases current : conf.current with
  | none => exact ⟨preserved, trivial⟩
  | some server =>
      cases original : conf.original with
      | none => exact ⟨preserved, trivial⟩
      | some saved =>
          obtain rfl := intact.remembers saved original
          have backup :=
            intact.backup (by simp [current]) (by simp [original])
          refine ⟨preserved, ?_⟩
          rcases files.write_cases saved .restore with
            ⟨fault, _, failed⟩ | ⟨_, written⟩
          · simp only [FileOp.effect, failed]
            exact ⟨Or.inr backup, trivial⟩
          · simp only [FileOp.effect, written]
            exact ⟨Or.inl rfl, Preserved.removeBackup rfl, trivial⟩

end Safety

/-- What an idle configurator has to know for its next call. -/
def IdleIntact (content : Bytes) (idle : Option ResolvConf)
    (files : Files) : Prop :=
  ∀ conf, idle = some conf → Intact content conf files

theorem safe_callOps {content : Bytes} {conf : ResolvConf} {files : Files}
    {call : Call} (preserved : Preserved content files)
    (intact : Intact content conf files)
    (permitted : call.server ≠ none → MayActivate content conf files) :
    Script.Safe FileOp.effect (Preserved content) (IdleIntact content)
      (conf.callOps call) files := by
  have idle {kept : ResolvConf} {later : Files}
      (laterIntact : Intact content kept later) :
      IdleIntact content (some kept) later := by
    intro other same
    cases same
    exact laterIntact
  cases call with
  | apply server =>
      cases server with
      | none => exact ⟨preserved, idle intact⟩
      | some dns =>
          have safe := safe_redirectOps dns preserved intact.remembers
            (permitted (by simp [Call.server]))
          apply safe.bind
          intro outcome later laterPreserved laterIntact
          exact ⟨laterPreserved, idle laterIntact⟩
  | reload server =>
      apply (safe_reloadOps server preserved intact permitted).bind
      intro outcome later laterPreserved laterIntact
      exact ⟨laterPreserved, idle laterIntact⟩
  | restore =>
      apply (safe_restoreOps preserved intact).bind
      intro outcome later laterPreserved _
      refine ⟨laterPreserved, ?_⟩
      intro conf impossible
      cases impossible

/-- Every call that asks for the override finds the user's content where the
configurator will look for it. -/
def Guarded (content : Bytes) : Machine → CrashEvent → Prop
  | ⟨files, .done (some conf)⟩, .call call =>
      call.server ≠ none → MayActivate content conf files
  | _, _ => True

instance (content : Bytes) (machine : Machine) (event : CrashEvent) :
    Decidable (Guarded content machine event) :=
  match machine, event with
  | ⟨_, .done (some _)⟩, .call _ => inferInstanceAs (Decidable (_ → _))
  | ⟨_, .done none⟩, _ => isTrue trivial
  | ⟨_, .perform _ _⟩, _ => isTrue trivial
  | ⟨_, .done (some _)⟩, .start => isTrue trivial
  | ⟨_, .done (some _)⟩, .operate => isTrue trivial
  | ⟨_, .done (some _)⟩, .kill => isTrue trivial

/-- The invariant: at every operation still to come the content is in one of
the files. -/
def Machine.Safe (content : Bytes) (machine : Machine) : Prop :=
  Script.Safe FileOp.effect (Preserved content) (IdleIntact content)
    machine.process machine.files

theorem Machine.Safe.step {content : Bytes} {machine next : Machine}
    {event : CrashEvent} (safe : machine.Safe content)
    (stepped : machine.step event = some next)
    (guarded : Guarded content machine event) : next.Safe content := by
  obtain ⟨files, process⟩ := machine
  cases event with
  | start =>
      match process, safe, stepped with
      | .done none, safe, rfl =>
          refine ⟨safe.1, ?_⟩
          intro conf started
          cases started
          exact .of_unread rfl
  | call call =>
      match process, safe, stepped, guarded with
      | .done (some conf), safe, rfl, guarded =>
          exact safe_callOps safe.1 (safe.2 conf rfl) guarded
  | operate =>
      match process, safe, stepped with
      | .perform op following, safe, rfl => exact safe.2
  | kill =>
      cases stepped
      refine ⟨safe.now, ?_⟩
      intro conf impossible
      cases impossible

/-- Over any number of processes, killed between any two operations or ended by
a restore, the user's content stays in one of the two files as long as no call
switches the override on without it. -/
theorem content_survives_kills (files : Files) {content : Bytes}
    (present : files.resolvConf = some content) (events : List CrashEvent)
    (guarded : EveryStep Machine.step (Guarded content) (.boot files) events) :
    Always Machine.step (fun machine => Preserved content machine.files)
      (.boot files) events := by
  have initial : Machine.Safe content (.boot files) := by
    refine ⟨Or.inl present, ?_⟩
    intro conf impossible
    cases impossible
  have always : Always Machine.step (Machine.Safe content) (.boot files)
      events :=
    EveryStep.always
      (fun _ _ _ safe stepped met => Machine.Safe.step safe stepped met)
      initial guarded
  exact always.mono fun _ safe => Script.Safe.now safe

/-- A first process that is killed while its override is active. -/
def killedRun (server : IpAddr) : List CrashEvent :=
  [.start, .call (.apply (some server)), .operate, .operate, .operate, .kill]

theorem content_survives_kills_killedRun :
    Always Machine.step (fun machine => Preserved [35] machine.files)
      (.boot (reliableFiles [35])) (killedRun (.v4 (.ofOctets 9 9 9 9))) := by
  apply content_survives_kills (reliableFiles [35]) rfl
  decide +kernel

/-- The process after it reads the override back as if it were the user's
content and saves it over the backup. -/
theorem restart_loses_content :
    ¬Always Machine.step (fun machine => Preserved [35] machine.files)
      (.boot (reliableFiles [35]))
      (killedRun (.v4 (.ofOctets 9 9 9 9)) ++
        [.start, .call (.apply (some (.v4 (.ofOctets 9 9 9 9)))), .operate,
          .operate]) := by
  intro always
  have preserved := always.final rfl
  revert preserved
  decide +kernel

end Cortado.Linux
