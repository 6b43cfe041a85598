import Cortado.Net.AddrText

/-!
# The `resolv.conf` override

The configurator remembers the name server it wrote and the content it
replaced.  File operations may fail: a stream of faults decides each of them
in turn.  Writing a file truncates it first, so a write that fails may have
cut the file short.
-/

namespace Cortado.Linux

open Net

abbrev Bytes := List UInt8

/-- How a file operation fails: before it touches the file, or, for a write,
after the file was truncated and got some of the bytes. -/
inductive FileFault where
  | unopened
  | cut (written : Nat)
  deriving DecidableEq, Repr

/-- What a failed write leaves of a file. -/
def FileFault.remains (fault : FileFault) (content : Bytes)
    (old : Option Bytes) : Option Bytes :=
  match fault with
  | .unopened => old
  | .cut written => some (content.take written)

/-- The override and its backup, and which of the next operations fail. -/
structure Files where
  resolvConf : Option Bytes
  backup : Option Bytes
  faults : Nat → Option FileFault

inductive DnsError where
  | write
  | backup
  | restore
  deriving DecidableEq, Repr

def DnsError.message : DnsError → String
  | .write => "failed to write resolv.conf"
  | .backup => "failed to backup resolv.conf"
  | .restore => "failed to restore resolv.conf"

namespace Files

/-- Consume the fault of the current operation. -/
def advance (files : Files) : Files :=
  { files with faults := fun index => files.faults (index + 1) }

def read (files : Files) : Option Bytes × Files :=
  match files.faults 0 with
  | some _ => (none, files.advance)
  | none => (files.resolvConf, files.advance)

def write (files : Files) (content : Bytes) (error : DnsError) :
    Except DnsError Unit × Files :=
  match files.faults 0 with
  | some fault =>
      (.error error,
        { files.advance with
          resolvConf := fault.remains content files.resolvConf })
  | none => (.ok (), { files.advance with resolvConf := some content })

def writeBackup (files : Files) (content : Bytes) :
    Except DnsError Unit × Files :=
  match files.faults 0 with
  | some fault =>
      (.error .backup,
        { files.advance with backup := fault.remains content files.backup })
  | none => (.ok (), { files.advance with backup := some content })

/-- The outcome of removing the backup is ignored. -/
def removeBackup (files : Files) : Files :=
  match files.faults 0 with
  | some _ => files.advance
  | none => { files.advance with backup := none }

theorem write_cases (files : Files) (content : Bytes) (error : DnsError) :
    (∃ fault, files.faults 0 = some fault ∧
      files.write content error =
        (.error error,
          { files.advance with
            resolvConf := fault.remains content files.resolvConf })) ∨
      (files.faults 0 = none ∧
        files.write content error =
          (.ok (), { files.advance with resolvConf := some content })) := by
  unfold Files.write
  cases files.faults 0 with
  | some fault => exact Or.inl ⟨fault, rfl, rfl⟩
  | none => exact Or.inr ⟨rfl, rfl⟩

theorem writeBackup_cases (files : Files) (content : Bytes) :
    (∃ fault, files.faults 0 = some fault ∧
      files.writeBackup content =
        (.error .backup,
          { files.advance with
            backup := fault.remains content files.backup })) ∨
      (files.faults 0 = none ∧
        files.writeBackup content =
          (.ok (), { files.advance with backup := some content })) := by
  unfold Files.writeBackup
  cases files.faults 0 with
  | some fault => exact Or.inl ⟨fault, rfl, rfl⟩
  | none => exact Or.inr ⟨rfl, rfl⟩

end Files

structure ResolvConf where
  current : Option IpAddr
  original : Option Bytes

def nameserverLine (server : IpAddr) : Bytes :=
  ("nameserver " ++ server.display ++ "\n").toUTF8.toList

namespace ResolvConf

def system : ResolvConf :=
  { current := none
    original := none }

def writeNameserver (files : Files) (server : IpAddr) :
    Except DnsError Unit × Files :=
  files.write (nameserverLine server) .write

def ensureBackup (conf : ResolvConf) (files : Files) :
    Except DnsError Unit × ResolvConf × Files :=
  match conf.original with
  | some _ => (.ok (), conf, files)
  | none =>
      match files.read with
      | (none, files) => (.ok (), { conf with original := none }, files)
      | (some content, files) =>
          match files.writeBackup content with
          | (.error error, files) => (.error error, conf, files)
          | (.ok (), files) =>
              (.ok (), { conf with original := some content }, files)

/-- Back the file up, then write the name server. -/
def redirect (conf : ResolvConf) (files : Files) (server : IpAddr) :
    Except DnsError Unit × ResolvConf × Files :=
  match conf.ensureBackup files with
  | (.error error, conf, files) => (.error error, conf, files)
  | (.ok (), conf, files) =>
      match writeNameserver files server with
      | (.error error, files) => (.error error, conf, files)
      | (.ok (), files) => (.ok (), { conf with current := some server }, files)

def apply (conf : ResolvConf) (files : Files) (server : Option IpAddr) :
    Except DnsError Unit × ResolvConf × Files :=
  match server with
  | none => (.ok (), conf, files)
  | some dns => conf.redirect files dns

def reload (conf : ResolvConf) (files : Files) (server : Option IpAddr) :
    Except DnsError Unit × ResolvConf × Files :=
  if server = conf.current then (.ok (), conf, files)
  else
    match server with
    | some dns => conf.redirect files dns
    | none =>
        match conf.original with
        | none => (.ok (), { conf with current := none }, files)
        | some content =>
            match files.write content .restore with
            | (.error error, files) => (.error error, conf, files)
            | (.ok (), files) =>
                (.ok (), { conf with current := none }, files.removeBackup)

def restore (conf : ResolvConf) (files : Files) : ResolvConf × Files :=
  match conf.current with
  | none => (conf, files)
  | some _ =>
      match conf.original with
      | none => ({ conf with current := none }, files)
      | some content =>
          match files.write content .restore with
          | (.error _, files) => ({ conf with current := none }, files)
          | (.ok (), files) =>
              ({ conf with current := none }, files.removeBackup)

theorem current_of_redirect {conf later : ResolvConf}
    {files laterFiles : Files} {server : IpAddr}
    (success : conf.redirect files server = (.ok (), later, laterFiles)) :
    later.current = some server := by
  unfold redirect at success
  rcases backedUp : conf.ensureBackup files with ⟨error | _, middle, saved⟩
  · rw [backedUp] at success
    cases success
  · simp only [backedUp, writeNameserver] at success
    rcases saved.write_cases (nameserverLine server) .write with
      ⟨fault, _, refused⟩ | ⟨_, written⟩
    · rw [refused] at success
      cases success
    · rw [written] at success
      cases success
      rfl

/-- A successful call of `apply` without server leaves the override alone. -/
theorem current_of_apply {conf later : ResolvConf} {files laterFiles : Files}
    {server : Option IpAddr}
    (success : conf.apply files server = (.ok (), later, laterFiles)) :
    later.current = server.or conf.current := by
  cases server with
  | none =>
      cases success
      rfl
  | some dns => exact current_of_redirect success

theorem current_of_reload {conf later : ResolvConf} {files laterFiles : Files}
    {server : Option IpAddr}
    (success : conf.reload files server = (.ok (), later, laterFiles)) :
    later.current = server := by
  unfold reload at success
  by_cases same : server = conf.current
  · rw [if_pos same] at success
    cases success
    exact same.symm
  · rw [if_neg same] at success
    cases server with
    | some dns => exact current_of_redirect success
    | none =>
        cases original : conf.original with
        | none =>
            rw [original] at success
            cases success
            rfl
        | some content =>
            rw [original] at success
            rcases files.write_cases content .restore with
              ⟨fault, _, refused⟩ | ⟨_, written⟩
            · simp only [refused] at success
              cases success
            · simp only [written] at success
              cases success
              rfl

end ResolvConf

section Failed

variable (files : Files)

/-- The fault that the write of a first override meets.  The file is read
before, and backed up if that works. -/
def Files.writeFault : Option FileFault :=
  match files.faults 0, files.resolvConf with
  | none, some _ =>
      match files.faults 1 with
      | none => files.faults 2
      | some _ => none
  | _, _ => files.faults 1

/-- What a first override that failed leaves of `resolv.conf`. -/
def Files.leftByFailure (server : IpAddr) : Option Bytes :=
  match files.writeFault with
  | none => files.resolvConf
  | some fault => fault.remains (nameserverLine server) files.resolvConf

theorem Files.leftByFailure_eq_iff (server : IpAddr) :
    files.leftByFailure server = files.resolvConf ↔
      ∀ written, files.writeFault = some (.cut written) →
        files.resolvConf = some ((nameserverLine server).take written) := by
  unfold Files.leftByFailure
  cases files.writeFault with
  | none => simp
  | some fault =>
      cases fault with
      | unopened => simp [FileFault.remains]
      | cut written => simp [FileFault.remains, eq_comm]

/-- The backup leaves `resolv.conf` alone, and the write does not happen if it
fails. -/
theorem ResolvConf.ensureBackup_system {outcome : Except DnsError Unit}
    {conf : ResolvConf} {laterFiles : Files}
    (tried : ResolvConf.system.ensureBackup files =
      (outcome, conf, laterFiles)) :
    laterFiles.resolvConf = files.resolvConf ∧
      files.writeFault =
        match outcome with
        | .error _ => none
        | .ok () => laterFiles.faults 0 := by
  unfold Files.writeFault
  simp only [ResolvConf.ensureBackup, ResolvConf.system, Files.read] at tried
  cases unread : files.faults 0 with
  | some fault =>
      simp only [unread] at tried
      cases tried
      exact ⟨rfl, rfl⟩
  | none =>
      cases present : files.resolvConf with
      | none =>
          simp only [unread, present] at tried
          cases tried
          exact ⟨present, rfl⟩
      | some content =>
          simp only [unread, present] at tried
          rcases files.advance.writeBackup_cases content with
            ⟨fault, refused, failed⟩ | ⟨granted, written⟩
          · have second : files.faults 1 = some fault := refused
            rw [failed] at tried
            cases tried
            refine ⟨present, ?_⟩
            simp only [second]
          · have second : files.faults 1 = none := granted
            rw [written] at tried
            cases tried
            refine ⟨present, ?_⟩
            simp only [second]
            rfl

/-- A first override fails in the backup or in the write. -/
theorem ResolvConf.resolvConf_of_apply_error {later : ResolvConf}
    {laterFiles : Files} {server : Option IpAddr} {error : DnsError}
    (failed : ResolvConf.system.apply files server =
      (.error error, later, laterFiles)) :
    ∃ dns, server = some dns ∧
      laterFiles.resolvConf = files.leftByFailure dns := by
  cases server with
  | none => cases failed
  | some dns =>
      refine ⟨dns, rfl, ?_⟩
      change ResolvConf.system.redirect files dns = _ at failed
      unfold ResolvConf.redirect at failed
      rcases tried : ResolvConf.system.ensureBackup files with
        ⟨cause | _, middle, saved⟩
      · rw [tried] at failed
        cases failed
        obtain ⟨kept, skipped⟩ := ResolvConf.ensureBackup_system files tried
        rw [Files.leftByFailure, skipped]
        exact kept
      · obtain ⟨kept, reached⟩ := ResolvConf.ensureBackup_system files tried
        simp only [tried, ResolvConf.writeNameserver] at failed
        rcases saved.write_cases (nameserverLine dns) .write with
          ⟨fault, met, refused⟩ | ⟨_, written⟩
        · rw [refused] at failed
          cases failed
          simp only [Files.leftByFailure, reached, met, kept]
        · rw [written] at failed
          cases failed

end Failed

/-- No file operation fails. -/
def Files.Reliable (files : Files) : Prop :=
  files.faults = fun _ => none

section Reliable

variable {files : Files} (reliable : files.Reliable)

include reliable

theorem Files.Reliable.advance : files.advance.Reliable := by
  unfold Files.Reliable at reliable ⊢
  simp [Files.advance, reliable]

theorem Files.Reliable.noFault : files.faults 0 = none := by
  unfold Files.Reliable at reliable
  simp [reliable]

theorem Files.write_reliable (content : Bytes) (error : DnsError) :
    files.write content error =
      (.ok (), { files.advance with resolvConf := some content }) := by
  simp [Files.write, reliable.noFault]

theorem Files.writeBackup_reliable (content : Bytes) :
    files.writeBackup content =
      (.ok (), { files.advance with backup := some content }) := by
  simp [Files.writeBackup, reliable.noFault]

theorem Files.removeBackup_reliable :
    files.removeBackup = { files.advance with backup := none } := by
  simp [Files.removeBackup, reliable.noFault]

theorem Files.Reliable.removeBackup : files.removeBackup.Reliable := by
  rw [Files.removeBackup_reliable reliable]
  exact reliable.advance

theorem ResolvConf.ensureBackup_reliable (conf : ResolvConf) :
    ∃ later laterFiles,
      conf.ensureBackup files = (.ok (), later, laterFiles) ∧
        laterFiles.Reliable := by
  unfold ResolvConf.ensureBackup
  cases conf.original with
  | some content => exact ⟨conf, files, rfl, reliable⟩
  | none =>
      simp only [Files.read, reliable.noFault]
      cases files.resolvConf with
      | none => exact ⟨_, _, rfl, reliable.advance⟩
      | some content =>
          simp only [Files.writeBackup_reliable reliable.advance]
          exact ⟨_, _, rfl, reliable.advance.advance⟩

theorem ResolvConf.redirect_reliable (conf : ResolvConf) (server : IpAddr) :
    ∃ later laterFiles,
      conf.redirect files server = (.ok (), later, laterFiles) ∧
        laterFiles.Reliable := by
  obtain ⟨middle, middleFiles, backedUp, middleReliable⟩ :=
    conf.ensureBackup_reliable reliable
  simp only [ResolvConf.redirect, backedUp, ResolvConf.writeNameserver,
    Files.write_reliable middleReliable]
  exact ⟨_, _, rfl, middleReliable.advance⟩

theorem ResolvConf.apply_reliable (conf : ResolvConf)
    (server : Option IpAddr) :
    ∃ later laterFiles,
      conf.apply files server = (.ok (), later, laterFiles) ∧
        laterFiles.Reliable := by
  cases server with
  | none => exact ⟨conf, files, rfl, reliable⟩
  | some dns => exact conf.redirect_reliable reliable dns

theorem ResolvConf.reload_reliable (conf : ResolvConf)
    (server : Option IpAddr) :
    ∃ later laterFiles,
      conf.reload files server = (.ok (), later, laterFiles) ∧
        laterFiles.Reliable := by
  unfold ResolvConf.reload
  by_cases same : server = conf.current
  · exact ⟨conf, files, by simp [same], reliable⟩
  · rw [if_neg same]
    cases server with
    | some dns => exact conf.redirect_reliable reliable dns
    | none =>
        cases original : conf.original with
        | none => exact ⟨_, _, rfl, reliable⟩
        | some content =>
            simp only [Files.write_reliable reliable]
            have written : Files.Reliable
                { files.advance with resolvConf := some content } :=
              reliable.advance
            exact ⟨_, _, rfl, written.removeBackup⟩

end Reliable

end Cortado.Linux
