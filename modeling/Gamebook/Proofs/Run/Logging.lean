import Gamebook.Proofs.Files.Listing
import Gamebook.Proofs.Run.Stages

/-!
What log files leave alone. A log file is there from the moment it is opened, so the records added to it
change no other file, and it does not stand where something is made later.
-/

namespace Gamebook.Run

open Gamebook.Text Gamebook.Files Gamebook.Files.FileTree Gamebook.Log

variable {world next : World} {logged : Location → Prop} {held failed : FileTree → Prop} {ε α : Type}
  {start : FileTree} {written : Location → Prop} {handler : Handler} {record : Record}

/-- Every log file is there, at a place of this kind. -/
def World.LogsAt (world : World) (logged : Location → Prop) : Prop :=
  ∀ path, .file path ∈ world.logging.handlers → ∃ location content,
    world.files.find path = .ok (.taken location (.file content)) ∧ logged location

theorem World.LogsAt.preserved (logs : world.LogsAt logged) (wellFormed : world.files.WellFormed)
    (preserved : PreservesOutside written world.files next.files)
    (same : next.logging = world.logging) : next.LogsAt logged := by
  intro path member
  rw [same] at member
  obtain ⟨location, content, found, place⟩ := logs path member
  obtain ⟨current, stays⟩ := preserved.find_file wellFormed found
  exact ⟨location, current, stays, place⟩

/-- The files are as they should be, and the log files are among them, at places of this kind. -/
structure IsLogging (logged : Location → Prop) (held : FileTree → Prop) (world : World) : Prop where
  wellFormed : world.files.WellFormed
  logs : world.LogsAt logged
  held : held world.files

/-- What holds of the files does not depend on the content of files at these places. -/
def IsApart (logged : Location → Prop) (held : FileTree → Prop) : Prop :=
  ∀ tree location content, tree.WellFormed → tree.IsOpen location → logged location →
    held tree → held (tree.put location (.file content))

/-- What holds of the files still holds when something is added to the end of one at these places. -/
def AllowsAppending (logged : Location → Prop) (held : FileTree → Prop) : Prop :=
  ∀ tree location content added, tree.WellFormed →
    tree.entry? location = some (.file content) → logged location → held tree →
      held (tree.put location (.file (.bytes (content.toBytes ++ added))))

theorem IsApart.allowsAppending (apart : IsApart logged held) : AllowsAppending logged held :=
  fun _ _ _ _ wellFormed there place kept =>
    apart _ _ _ wellFormed (wellFormed.isOpen_of_file there) place kept

namespace IsLogging

theorem deliver (appending : AllowsAppending logged held) (logging : IsLogging logged held world)
    (listed : handler ∈ world.logging.handlers) :
    IsLogging logged held (world.deliver record handler) := by
  cases handler with
  | console => exact ⟨logging.wellFormed, logging.logs, logging.held⟩
  | file path =>
      obtain ⟨location, content, found, place⟩ := logging.logs path listed
      have there := logging.wellFormed.holds_find found
      have room := logging.wellFormed.isOpen_of_file there
      have files : (world.deliver record (.file path)).files = world.files.put location
          (.file (.bytes (content.toBytes ++ Utf8.encode (record.line ++ "\n").toList))) :=
        congrArg Prod.snd (appendBytes_of_file found)
      have preserved := @PreservesOutside.put_file _ _
        (.bytes (content.toBytes ++ Utf8.encode (record.line ++ "\n").toList)) room
      rw [← files] at preserved
      refine ⟨?_, logging.logs.preserved logging.wellFormed preserved rfl, ?_⟩
      · rw [files]
        exact logging.wellFormed.put room
      · rw [files]
        exact appending _ _ _ _ logging.wellFormed there place logging.held

theorem emit (appending : AllowsAppending logged held) (logging : IsLogging logged held world) :
    IsLogging logged held (world.emit record) := by
  have delivered : ∀ (handlers : List Handler) (world : World), IsLogging logged held world →
      (∀ handler ∈ handlers, handler ∈ world.logging.handlers) →
      IsLogging logged held (handlers.foldl (World.deliver record) world) := by
    intro handlers
    induction handlers with
    | nil => exact fun _ logging _ => logging
    | cons handler handlers ih =>
        intro world logging listed
        exact ih _ (logging.deliver appending (listed handler List.mem_cons_self))
          fun other member => listed other (.tail _ member)
  unfold World.emit
  split
  · exact logging
  · exact delivered _ world logging fun _ => id

theorem keeps_emit (appending : AllowsAppending logged held) (record : Record) :
    Keeps (IsLogging logged held) (Run.emit record) := fun _ logging => logging.emit appending

theorem keeps_report (appending : AllowsAppending logged held) (channel : Channel) (text : String) :
    Keeps (IsLogging logged held) (report channel text) := by
  intro world logging
  change IsLogging logged held (world.report channel text)
  have told : IsLogging logged held
      { world with diagnostics := world.diagnostics ++ [⟨channel, text⟩] } :=
    ⟨logging.wellFormed, logging.logs, logging.held⟩
  unfold World.report
  dsimp only
  split
  · exact told
  · exact told.emit appending

theorem attempts_onFiles {wrap : Fault → ε} {action : FileAction α} {after : α → FileTree → Prop}
    (safe : IsSafe action)
    (attempted : Attempts (fun tree => tree.WellFormed ∧ held tree) action after failed) :
    Attempts (IsLogging logged held) (onFiles wrap action) (fun result => IsLogging logged (after result))
      (IsLogging logged failed) := by
  intro world logging
  have done : ifGiven after failed (action world.files).1 (action world.files).2 :=
    attempted world.files ⟨logging.wellFormed, logging.held⟩
  obtain ⟨wellFormed, preserved⟩ := safe world.files logging.wellFormed
  have logs : World.LogsAt { world with files := (action world.files).2 } logged :=
    logging.logs.preserved logging.wellFormed preserved rfl
  change ifGiven _ _ (onFiles wrap action world).1 (onFiles wrap action world).2
  unfold onFiles
  cases result : action world.files with
  | mk given files =>
      rw [result] at done wellFormed logs
      cases given with
      | error fault => exact ⟨wellFormed, logs, done⟩
      | ok value => exact ⟨wellFormed, logs, done⟩

end IsLogging

/-- All that was there at the start is there, perhaps with other content, and so are the log files. -/
abbrev IsLater (start : FileTree) : World → Prop :=
  IsLogging (fun _ => True) (PreservesOutside (fun _ => True) start)

theorem isApart_later : IsApart logged (PreservesOutside (fun _ => True) start) :=
  fun _ _ _ _ room _ kept => kept.trans ((PreservesOutside.put_file room).weaken fun _ _ => trivial)

theorem keeps_onFiles_later {wrap : Fault → ε} {action : FileAction α} (safe : IsSafe action) :
    Keeps (IsLater start) (onFiles wrap action) := by
  have kept : Keeps (fun tree => tree.WellFormed ∧ PreservesOutside (fun _ => True) start tree)
      action := fun tree ⟨wellFormed, kept⟩ =>
    ⟨(safe tree wellFormed).1, kept.trans (safe tree wellFormed).2⟩
  refine Attempts.keeps (IsLogging.attempts_onFiles safe ?_)
  exact (kept.attempts fun _ => id).weaken (fun _ _ => And.right) fun _ => And.right

/-- A log file that has been opened is there. -/
theorem attempts_openLog {wrap : Fault → ε} (path : Path) :
    Attempts (IsLater start) (onFiles wrap (appendBytes path .empty))
      (fun _ world => IsLater start world ∧ ∃ location content,
        world.files.find path = .ok (.taken location (.file content))) (IsLater start) := by
  have opened : Attempts
      (fun tree => tree.WellFormed ∧ PreservesOutside (fun _ => True) start tree)
      (appendBytes path .empty)
      (fun _ tree => PreservesOutside (fun _ => True) start tree ∧ ∃ location content,
        tree.find path = .ok (.taken location (.file content)))
      (PreservesOutside (fun _ => True) start) := by
    refine attempts_change (fun tree next ⟨wellFormed, kept⟩ done => ?_) fun _ _ held _ => held.2
    obtain ⟨_, preserved, location, found⟩ := wellFormed.writeFile done
    exact ⟨kept.trans preserved, location, _, found⟩
  refine (IsLogging.attempts_onFiles isSafe_appendBytes opened).weaken ?_ fun _ => id
  exact fun _ _ logging => ⟨⟨logging.wellFormed, logging.logs, logging.held.1⟩, logging.held.2⟩

theorem isHeldByLogging_later (start : FileTree) : IsHeldByLogging (IsLater start) where
  report := fun channel text _ => IsLogging.keeps_report isApart_later.allowsAppending channel text
  configure := by
    intro level logPath debug
    have done : Keeps (IsLater start) (modify fun world : World =>
        { world with logging := { world.logging with configured := true } } : Action Fault PUnit) :=
      Keeps.modify fun _ logging => ⟨logging.wellFormed, logging.logs, logging.held⟩
    unfold configureLogging
    refine Keeps.andThen Keeps.get fun world => ?_
    split
    · exact Keeps.pure _
    · refine Keeps.andThen (Keeps.modify fun world logging =>
        ⟨logging.wellFormed, by simp [World.LogsAt], logging.held⟩) fun _ => ?_
      cases logPath with
      | none => exact done
      | some path =>
          refine Keeps.andThen (keeps_onFiles_later isSafe_makeAllDirectories) fun _ => ?_
          refine Keeps.andThen Keeps.get fun world => ?_
          refine Attempts.keeps (Attempts.andThen (attempts_openLog _) fun _ => ?_)
          refine Attempts.andThen (Attempts.lift fun world ⟨logging, opened⟩ => ?_) fun _ =>
            done.attempts fun _ => id
          obtain ⟨location, content, found⟩ := opened
          refine ⟨logging.wellFormed, fun other member => ?_, logging.held⟩
          have member : Handler.file other ∈ [Handler.console, Handler.file _] := member
          obtain rfl : other = _ := by simpa using member
          exact ⟨location, content, found, trivial⟩

end Gamebook.Run
