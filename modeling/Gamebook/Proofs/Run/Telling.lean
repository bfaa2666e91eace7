import Gamebook.Run.World
import Gamebook.Proofs.Effects

/-!
Telling something leaves the files alone as long as the console is the only handler of log records.
-/

namespace Gamebook.Run

open Gamebook.Files Gamebook.Log

variable {world : World} {held : FileTree → Prop} {ε α : Type}

def World.IsQuiet (world : World) : Prop := ∀ handler ∈ world.logging.handlers, handler = .console

theorem isQuiet_start (files : FileTree) : World.IsQuiet { files } := by simp [World.IsQuiet]

def Quietly (held : FileTree → Prop) (world : World) : Prop := world.IsQuiet ∧ held world.files

theorem emit_leaves (quiet : world.IsQuiet) (record : Record) :
    (world.emit record).files = world.files ∧ (world.emit record).logging = world.logging := by
  have delivered : ∀ (handlers : List Handler) (world : World), (∀ handler ∈ handlers, handler = .console) →
      (handlers.foldl (World.deliver record) world).files = world.files ∧
        (handlers.foldl (World.deliver record) world).logging = world.logging := by
    intro handlers
    induction handlers with
    | nil => exact fun _ _ => ⟨rfl, rfl⟩
    | cons handler handlers ih =>
        intro world consoles
        obtain rfl := consoles handler List.mem_cons_self
        exact ih (world.deliver record .console) fun other member => consoles other (.tail _ member)
  unfold World.emit
  split
  · exact ⟨rfl, rfl⟩
  · exact delivered _ world quiet

theorem report_leaves (quiet : world.IsQuiet) (channel : Channel) (text : String) :
    (world.report channel text).files = world.files ∧
      (world.report channel text).logging = world.logging := by
  unfold World.report
  dsimp only
  split
  · exact ⟨rfl, rfl⟩
  · exact @emit_leaves { world with diagnostics := world.diagnostics ++ [⟨channel, text⟩] } quiet _

theorem keeps_emit (record : Record) : Keeps (Quietly held) (emit record) := by
  intro world ⟨quiet, kept⟩
  obtain ⟨files, logging⟩ := emit_leaves quiet record
  exact ⟨fun handler member => quiet handler (logging ▸ member), files.symm ▸ kept⟩

theorem keeps_report (channel : Channel) (text : String) :
    Keeps (Quietly held) (report channel text) := by
  intro world ⟨quiet, kept⟩
  obtain ⟨files, logging⟩ := report_leaves quiet channel text
  exact ⟨fun handler member => quiet handler (logging ▸ member), files.symm ▸ kept⟩

theorem attempts_onFiles {wrap : Fault → ε} {action : FileAction α} {after : α → FileTree → Prop}
    {failed : FileTree → Prop} (attempted : Attempts held action after failed) :
    Attempts (Quietly held) (onFiles wrap action) (fun result => Quietly (after result))
      (Quietly failed) := by
  intro world ⟨quiet, kept⟩
  have done : ifGiven after failed (action world.files).1 (action world.files).2 :=
    attempted world.files kept
  change ifGiven _ _ (onFiles wrap action world).1 (onFiles wrap action world).2
  unfold onFiles
  cases result : action world.files with
  | mk given files =>
      rw [result] at done
      cases given with
      | error fault => exact ⟨quiet, done⟩
      | ok value => exact ⟨quiet, done⟩

theorem keeps_onFiles {wrap : Fault → ε} {action : FileAction α} (kept : Keeps held action) :
    Keeps (Quietly held) (onFiles wrap action) :=
  Attempts.keeps (attempts_onFiles (kept.attempts fun _ => id))

/-- Without a log file the files are not touched when logging is set up. -/
theorem keeps_configureLogging (level : Option Text) (debug : Bool) :
    Keeps (Quietly held) (configureLogging level none debug) := by
  unfold configureLogging
  refine Keeps.andThen Keeps.get fun world => ?_
  split
  · exact Keeps.pure _
  · refine Keeps.andThen (Keeps.modify fun world kept => ⟨?_, kept.2⟩) fun _ => ?_
    · simp [World.IsQuiet]
    · exact Keeps.modify fun world kept => kept

end Gamebook.Run
