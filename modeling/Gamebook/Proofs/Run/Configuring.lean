import Mathlib.Data.List.Chain
import Gamebook.Proofs.Files.Directories
import Gamebook.Proofs.Run.Escaping

/-!
Setting logging up again and again. The level and the console come before the log file is opened, and they
stay if that fails. The mark that logging is set up comes last, so a call that failed can be made again
with other settings, and the first one that does not fail is the last that does anything.
-/

namespace Gamebook.Run

open Gamebook.Text Gamebook.Files Gamebook.Log

variable {path file : Path} {tree files : FileTree}

/-- The log file is opened by its path from the root. -/
theorem openLog_gives (opened : openLog path tree = (.ok file, files)) :
    file = (⟨.root, tree.workingDirectory⟩ : Path).absolute path := by
  obtain ⟨_, above, made, rest⟩ := ok_of_andThen opened
  obtain ⟨_, _, seen, rest⟩ := ok_of_andThen rest
  cases seen
  obtain ⟨_, _, -, rest⟩ := ok_of_andThen rest
  cases rest
  have same := @workingDirectory_makeDirectories tree path.parent true
  rw [show makeDirectories true path.parent tree = (.ok (), above) from made] at same
  rw [same]

/-- A call that sets logging up, in the world that it finds. -/
structure LogCall where
  level : Option Text
  logPath : Option Path
  debug : Bool
  before : World

namespace LogCall

variable {call next : LogCall} {calls : List LogCall}

def done (call : LogCall) : Except Fault Unit × World :=
  (configureLogging call.level call.logPath call.debug).run call.before

def answer (call : LogCall) : Except Fault Unit := call.done.1

def after (call : LogCall) : World := call.done.2

def threshold (call : LogCall) : Level := .ofName call.level call.debug

/-- The log file that is asked for, from the root. -/
def file? (call : LogCall) : Option Path :=
  call.logPath.map (⟨.root, call.before.files.workingDirectory⟩ : Path).absolute

/-- The logging is found as the call before has left it. All else may have changed. -/
def Precedes (call next : LogCall) : Prop := next.before.logging = call.after.logging

/-- The call does nothing. -/
structure IsIdle (call : LogCall) : Prop where
  answer : call.answer = .ok ()
  after : call.after = call.before

/-- The log file, if one is asked for, is opened, and logging is set up as asked for. -/
structure Succeeds (call : LogCall) : Prop where
  answer : call.answer = .ok ()
  opens : ∀ path, call.logPath = some path → ∃ file, (openLog path call.before.files).1 = .ok file
  logging : call.after.logging =
    ⟨call.threshold, .console :: (call.file?.map Handler.file).toList, true⟩

/-- The log file cannot be opened. The level is set by then, and records go to the console alone. -/
structure Fails (call : LogCall) : Prop where
  fault : ∃ path fault, call.logPath = some path ∧
    (openLog path call.before.files).1 = .error fault ∧ call.answer = .error fault
  logging : call.after.logging = ⟨call.threshold, [.console], false⟩

theorem isIdle_of_configured (configured : call.before.logging.configured = true) : call.IsIdle := by
  have same : call.done = (.ok (), call.before) := configureLogging_of_configured configured
  exact ⟨congrArg Prod.fst same, congrArg Prod.snd same⟩

theorem fails_or_succeeds (fresh : call.before.logging.configured = false) :
    call.Fails ∨ call.Succeeds := by
  obtain ⟨level, logPath, debug, world⟩ := call
  cases logPath with
  | none =>
      have done : LogCall.done ⟨level, none, debug, world⟩ =
          (.ok (), { world with logging := ⟨.ofName level debug, [.console], true⟩ }) := by
        unfold LogCall.done
        rw [configureLogging_none, World.configured, fresh]
        rfl
      exact .inr ⟨congrArg Prod.fst done, nofun, congrArg (·.2.logging) done⟩
  | some path =>
      have done : LogCall.done ⟨level, some path, debug, world⟩ = _ := configureLogging_some fresh
      cases opened : openLog path world.files with
      | mk result files =>
          have started : openLog path (world.onConsole level debug).files = (result, files) := opened
          cases result with
          | error fault =>
              rw [run_failing (onFiles_failing started)] at done
              refine .inl ⟨⟨path, fault, rfl, congrArg Prod.fst opened, congrArg Prod.fst done⟩, ?_⟩
              rw [after, done, ← fresh]
              rfl
          | ok file =>
              rw [run_andThen (onFiles_done started)] at done
              refine .inr ⟨congrArg Prod.fst done, ?_, ?_⟩
              · rintro _ ⟨⟩
                exact ⟨file, congrArg Prod.fst opened⟩
              · rw [after, done, file?, Option.map_some, ← openLog_gives opened]
                rfl

/-- Once logging is set up, no call does anything. -/
theorem isIdle_of_isChain (chained : calls.IsChain Precedes)
    (configured : ∀ call ∈ calls.head?, call.before.logging.configured = true) :
    ∀ call ∈ calls, call.IsIdle := by
  induction calls with
  | nil => nofun
  | cons call calls ih =>
      obtain ⟨precedes, chained⟩ := List.isChain_cons.mp chained
      have set := configured call rfl
      have idle : call.IsIdle := isIdle_of_configured set
      refine List.forall_mem_cons.mpr ⟨idle, ih chained fun next first => ?_⟩
      rwa [precedes next first, idle.after]

/-- Calls fail up to the first that sets logging up as it is asked to, and the others do nothing. -/
theorem calls_settle_once (chained : calls.IsChain Precedes)
    (fresh : ∀ call ∈ calls.head?, call.before.logging.configured = false) :
    ∃ failed rest, calls = failed ++ rest ∧ (∀ call ∈ failed, call.Fails) ∧
      ∀ first later, rest = first :: later →
        first.Succeeds ∧ ∀ call ∈ later, call.IsIdle := by
  induction calls with
  | nil => exact ⟨[], [], rfl, nofun, nofun⟩
  | cons call calls ih =>
      obtain ⟨precedes, chained⟩ := List.isChain_cons.mp chained
      rcases fails_or_succeeds (fresh call rfl) with fails | succeeds
      · have still : ∀ next ∈ calls.head?, next.before.logging.configured = false := by
          intro next first
          rw [precedes next first, fails.logging]
        obtain ⟨failed, rest, rfl, failing, settled⟩ := ih chained still
        exact ⟨call :: failed, rest, rfl, List.forall_mem_cons.mpr ⟨fails, failing⟩, settled⟩
      · have set : ∀ next ∈ calls.head?, next.before.logging.configured = true := by
          intro next first
          rw [precedes next first, succeeds.logging]
        refine ⟨[], call :: calls, rfl, nofun, ?_⟩
        rintro first later ⟨⟩
        exact ⟨succeeds, isIdle_of_isChain chained set⟩

def belowStory : LogCall where
  level := some "DEBUG"
  logPath := some "story.md/run.log"
  debug := false
  before := { files := shortFiles }

def besideStory : LogCall where
  level := none
  logPath := some "logs/run.log"
  debug := false
  before := belowStory.after

def onConsole : LogCall where
  level := some "ERROR"
  logPath := none
  debug := true
  before := besideStory.after

/-- A log file below the story cannot be opened, so the next call is the one that counts. -/
def retries : List LogCall := [belowStory, besideStory, onConsole]

theorem calls_settle_once_retries :
    retries.IsChain Precedes ∧ (∀ call ∈ retries.head?, call.before.logging.configured = false) ∧
      belowStory.Fails ∧ besideStory.Succeeds ∧ onConsole.IsIdle := by
  have chained : retries.IsChain Precedes := .cons_cons rfl (.cons_cons rfl (.singleton _))
  have fresh : ∀ call ∈ retries.head?, call.before.logging.configured = false := by
    rintro call ⟨⟩
    rfl
  refine ⟨chained, fresh, ?_⟩
  have below : belowStory.answer = .error (.refused .alreadyExists "story.md") := by decide +kernel
  have beside : besideStory.answer = .ok () := by decide +kernel
  obtain ⟨failed, rest, cut, failing, settled⟩ := calls_settle_once chained fresh
  match failed with
  | [] =>
      have succeeds := (settled _ _ cut.symm).1
      cases below.symm.trans succeeds.answer
  | [first] =>
      obtain ⟨rfl, behind⟩ := List.cons.inj cut
      obtain ⟨succeeds, idle⟩ := settled _ _ behind.symm
      exact ⟨failing _ List.mem_cons_self, succeeds, idle _ List.mem_cons_self⟩
  | first :: second :: _ =>
      obtain ⟨-, behind⟩ := List.cons.inj cut
      obtain ⟨rfl, -⟩ := List.cons.inj behind
      obtain ⟨_, _, -, -, answer⟩ := (failing _ (List.mem_cons_of_mem _ List.mem_cons_self)).fault
      cases beside.symm.trans answer

def rootLog : LogCall where
  level := some "DEBUG"
  logPath := some "/"
  debug := false
  before := { files := {} }

/-- A call that fails leaves neither the level nor the handlers as they were. -/
theorem rootLog_changes_logging :
    rootLog.answer = .error (.refused .isDirectory "/") ∧
      rootLog.before.logging = ⟨.rank 30, [], false⟩ ∧
      rootLog.after.logging = ⟨.rank 10, [.console], false⟩ ∧
      rootLog.after.logging ≠ rootLog.before.logging := by
  have failed : rootLog.answer = .error (.refused .isDirectory "/") := by decide +kernel
  have after : rootLog.after.logging = ⟨.rank 10, [.console], false⟩ := by decide +kernel
  exact ⟨failed, rfl, after, by rw [after]; decide⟩

end LogCall

end Gamebook.Run
