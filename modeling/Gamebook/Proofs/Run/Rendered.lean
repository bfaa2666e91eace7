import Gamebook.Proofs.Run.Unexpanded

/-!
What a run that has rendered its story has done, stage by stage: it was ready to read the story, has read
it and found nothing to warn of, has made a plan and has carried it out.
-/

namespace Gamebook.Run

open Gamebook.Text Gamebook.Files Gamebook.Files.FileTree Gamebook.Publish

variable {surroundings : Surroundings} {words : List Text} {world before next final ready : World}
  {config : Config} {story : Story} {checked : Story.Checked} {outcome : Outcome} {plan : Plan}
  {settings : Settings} {text : Text}

theorem unrendered_of_prepare
    (finished : prepare surroundings words world = (.ok (.over outcome), next)) :
    outcome.ending ≠ .rendered := by
  have shown : ∀ {told : Outcome}, told.ending ≠ .rendered →
      (liftM (present told) >>= fun shown => pure (.over shown) : Action Escape Prepared).run world =
        (.ok (.over outcome), next) → outcome.ending ≠ .rendered := by
    intro told other shownLast
    obtain ⟨_, _, presented, rest⟩ := ok_of_andThen shownLast
    cases rest
    have same := ending_present told world
    rw [lift_eq_ok.mp presented] at same
    exact same ▸ other
  change (prepare surroundings words).run world = _ at finished
  unfold prepare at finished
  match asked : Config.resolve surroundings.settings words with
  | .error (.usage fault) =>
      simp only [asked] at finished
      refine shown ?_ finished
      nofun
  | .error (.inconsistent reason) =>
      simp only [asked] at finished
      cases finished
  | .ok .help =>
      simp only [asked] at finished
      refine shown ?_ finished
      nofun
  | .ok (.run given) =>
      simp only [asked] at finished
      obtain ⟨_, _, _, rest⟩ := ok_of_andThen finished
      obtain ⟨_, told, _, tested⟩ := ok_of_andThen rest
      unfold checkFiles at tested
      split at tested
      · cases tested
      · obtain ⟨found, _, _, rest⟩ := ok_of_andThen tested
        cases found with
        | none => cases rest
        | some fault =>
            obtain ⟨_, _, _, rest⟩ := ok_of_andThen rest
            cases rest
            nofun

/-- A story that was rendered was planned, and the plan was carried out. -/
theorem of_render (done : render surroundings config story world = (outcome, final))
    (rendered : outcome.ending = .rendered) :
    ∃ plan planned, (makePlan surroundings config story).run world = (.ok plan, planned) ∧
      (carryOut plan).run planned = (.ok (), final) := by
  unfold render at done
  cases made : (makePlan surroundings config story).run world with
  | mk result planned =>
      rw [run_bind made] at done
      match result with
      | .error (.usage fault) =>
          have ended : ∀ world : World,
              present ⟨.usageError, "", fault.showsHelp⟩ world = (outcome, final) → False := by
            intro world shown
            have same := ending_present ⟨.usageError, "", fault.showsHelp⟩ world
            rw [shown, rendered] at same
            cases same
          dsimp only at done
          split at done
          · exact (ended _ done).elim
          · exact (ended _ done).elim
      | .error (.files fault) =>
          cases done
          cases rendered
      | .ok plan =>
          refine ⟨plan, planned, rfl, ?_⟩
          cases carried : (carryOut plan).run planned with
          | mk result last =>
              replace done := (run_bind carried).symm.trans done
              cases result with
              | error failure =>
                  cases done
                  cases rendered
              | ok _ =>
                  cases done
                  rfl

theorem of_judge (sound : world.IsSound)
    (done : judge surroundings config checked world = (outcome, final))
    (rendered : outcome.ending = .rendered) :
    ∃ told, world.OpensWays [] told ∧ render surroundings config checked.story told = (outcome, final) := by
  unfold judge at done
  obtain ⟨lines, found⟩ : ∃ lines, lines = (Gate.ofFindings config.isLint
      (checked.warnings.map Story.Warning.print) (checked.orphans.map Story.Orphan.print)).lines := ⟨_, rfl⟩
  rw [← found] at done
  have telling : Keeps (world.OpensWays []) (lines.forM (report .raw)) :=
    Keeps.forM (fun line => keeps_report_ways .raw line) lines
  refine ⟨(lines.forM (report .raw) world).2, telling world (.refl [] sound), ?_⟩
  replace done := (@run_bind _ _ _ (lines.forM (report .raw)) _ world _ () rfl).symm.trans done
  split at done
  · cases done
    cases rendered
  · split at done
    · exact done
    · cases done
      cases rendered

theorem inputPath_of_checked (accepted : config.checked = .ok config) (rendering : config.isLint = false) :
    ∃ path, config.inputPath = some path := by
  unfold Config.checked at accepted
  split at accepted
  · cases accepted
  · rw [rendering, if_neg Bool.false_ne_true] at accepted
    split at accepted
    · cases accepted
    · exact Option.ne_none_iff_exists'.mp (by assumption)

theorem ready_of_rendered (done : (run surroundings words world).1 = .ok outcome)
    (rendered : outcome.ending = .rendered) :
    ∃ config ready, prepare surroundings words world = (.ok (.ready config), ready) := by
  cases started : prepare surroundings words world with
  | mk result ready =>
      have started : (prepare surroundings words).run world = (result, ready) := started
      have whole : run surroundings words world =
          (prepare surroundings words >>= finish surroundings).run world :=
        congrFun (run_eq_finish surroundings words) world
      rw [whole] at done
      match result with
      | .error escape =>
          rw [run_failing started] at done
          cases done
      | .ok (.over _) =>
          rw [run_andThen started] at done
          cases done
          exact absurd rendered (unrendered_of_prepare started)
      | .ok (.ready config) => exact ⟨config, ready, rfl⟩

/-- The course of a run that comes to render: the text it reads, the story of the text, and the worlds in which
it is ready to read and in which rendering begins. Only log files change on the way. -/
structure Course (surroundings : Surroundings) (words : List Text) (world : World) (config : Config) where
  text : Text
  checked : Story.Checked
  ready : World
  told : World
  reads : ReadsText surroundings words world config text
  parsed : Story.ofText text = .ok checked
  sets : IsPrepared surroundings words world config ready
  keepsTold : ready.OpensWays [] told

theorem of_readAndJudge {path : Path} (rendering : config.mode = .render)
    (source : config.inputPath = some path)
    (done : readAndJudge surroundings config ready = (outcome, final))
    (rendered : outcome.ending = .rendered) :
    ∃ text checked, ready.files.readMarkedText path = .ok text ∧ Story.ofText text = .ok checked ∧
      judge surroundings config checked (ready.report .log "Parsing story...") = (outcome, final) := by
  cases read : ready.files.readMarkedText path with
  | error fault =>
      have failed : readStory surroundings config ready = (.error (.files fault), ready) := by
        have looked : (readSource surroundings config).run ready = (.error fault, ready) := by
          unfold readSource
          rw [rendering, source]
          exact run_failing (onFiles_failing (by rw [inspect, read]))
        exact run_bind looked
      have ended : readAndJudge surroundings config ready = fatal "parsing story" fault.message ready :=
        run_bind failed
      rw [ended] at done
      cases done
      cases rendered
  | ok text =>
      have story := @readStory_eq surroundings ready config path text rendering source read
      cases parsed : Story.ofText text with
      | error fault =>
          rw [parsed] at story
          have ended : readAndJudge surroundings config ready =
              fatal "parsing story" fault.message _ := run_bind story
          rw [ended] at done
          cases done
          cases rendered
      | ok checked =>
          rw [parsed] at story
          have ended : readAndJudge surroundings config ready =
              judge surroundings config checked _ := run_bind story
          exact ⟨text, checked, rfl, parsed, ended.symm.trans done⟩

/-- A run that has rendered a site or a book has rendered the story of a text that it has read. -/
theorem of_run_rendered (sound : world.IsSound)
    (asked : Config.resolve surroundings.settings words = .ok (.run config))
    (made : config.format = Config.htmlFormat ∨ config.format = Config.epubFormat)
    (done : (run surroundings words world).1 = .ok outcome) (rendered : outcome.ending = .rendered) :
    ∃ course : Course surroundings words world config,
      render surroundings config course.checked.story course.told =
        (outcome, (run surroundings words world).2) := by
  have rendering := (renders_of_resolve asked made).1
  obtain ⟨path, source⟩ := inputPath_of_checked (checked_of_resolve asked)
    (show config.isLint = false by simp [Config.isLint, rendering])
  obtain ⟨other, ready, prepared⟩ := ready_of_rendered done rendered
  have sets := isPrepared_of_prepare sound prepared
  obtain rfl : config = other := by
    have same := asked.symm.trans sets.asked
    cases same
    rfl
  rw [run_of_ready prepared] at done ⊢
  obtain ⟨text, checked, read, parsed, judged⟩ :=
    of_readAndJudge rendering source (Prod.ext (Except.ok.inj done) rfl) rendered
  have told : ready.OpensWays [] (ready.report .log "Parsing story...") :=
    keeps_report_ways .log "Parsing story..." ready (.refl [] sets.sound)
  obtain ⟨last, later, whole⟩ := of_judge told.isSound judged rendered
  exact ⟨⟨text, checked, ready, last, ⟨ready, path, prepared, source, read⟩, parsed, sets,
    told.trans sets.sound later⟩, whole⟩

theorem of_loadTemplates {templates : Template.Overrides} (sound : world.IsSound)
    (loaded : (loadTemplates config).run world = (.ok templates, next)) : world.OpensWays [] next := by
  have kept : Keeps (world.OpensWays []) (loadTemplates config) := keeps_loadTemplates_ways
  have later := kept world (.refl [] sound)
  rw [show loadTemplates config world = (.ok templates, next) from loaded] at later
  exact later

/-- The plan of a site is made in a world in which its directory has been made. -/
theorem of_makePlan_site {output : Path} (formed : formOf config = .ok (.site, output))
    (made : (makePlan surroundings config story).run world = (.ok plan, next)) :
    ∃ files templates, makeDirectories false output world.files = (.ok (), files) ∧
      plan = .site (surroundings.job config story output templates) ∧
      (loadTemplates config).run { world with files } = (.ok templates, next) := by
  rw [makePlan_of_site formed] at made
  obtain ⟨_, _, directories, made⟩ := ok_of_andThen made
  obtain ⟨files, done, rfl⟩ := onFiles_eq_ok.mp directories
  obtain ⟨templates, _, loaded, made⟩ := ok_of_andThen made
  cases made
  exact ⟨files, templates, done, rfl, loaded⟩

theorem of_makePlan_book {author : Text} {output : Path}
    (formed : formOf config = .ok (.book author, output))
    (made : (makePlan surroundings config story).run world = (.ok plan, next)) :
    ∃ templates, plan = .book (surroundings.job config story output templates)
        (surroundings.edition config author) ∧
      (loadTemplates config).run world = (.ok templates, next) := by
  rw [makePlan_of_book formed] at made
  obtain ⟨templates, _, loaded, made⟩ := ok_of_andThen made
  cases made
  exact ⟨templates, rfl, loaded⟩

theorem of_carryOut (sound : world.IsSound) (done : (carryOut plan).run world = (.ok (), final)) :
    ∃ told published, world.OpensWays [] told ∧ plan.publish.run told = (.ok (), published) ∧
      final = published.report .log "Done." := by
  unfold carryOut at done
  obtain ⟨_, told, begins, rest⟩ := ok_of_andThen done
  obtain ⟨_, published, carried, ends⟩ := ok_of_andThen rest
  obtain rfl : _ = told := congrArg Prod.snd begins
  exact ⟨_, published, keeps_report_ways .log "Rendering story..." world (.refl [] sound), carried,
    (congrArg Prod.snd ends).symm⟩

theorem exists_formOf_of_makePlan (made : (makePlan surroundings config story).run world = (.ok plan, next)) :
    ∃ form output, formOf config = .ok (form, output) := by
  cases formed : formOf config with
  | error fault =>
      rw [makePlan_of_usage formed] at made
      cases made
  | ok found => exact ⟨found.1, found.2, rfl⟩

/-- The course of a run that renders a book, up to the world that it leaves. -/
structure BookCourse (surroundings : Surroundings) (words : List Text) (world : World) (config : Config)
    extends Course surroundings words world config where
  author : Text
  output : Path
  overrides : Template.Overrides
  loaded : World
  before : World
  published : World
  asOutput : config.output = some output
  loads : (loadTemplates config).run told = (.ok overrides, loaded)
  keepsBefore : ready.OpensWays [] before
  publishes : (Book.publish (surroundings.job config checked.story output overrides)
    (surroundings.edition config author)).run before = (.ok (), published)
  ends : (run surroundings words world).2 = published.report .log "Done."

/-- The course of a run that renders a site. Between `told` and `start` its directory is made. -/
structure SiteCourse (surroundings : Surroundings) (words : List Text) (world : World) (config : Config)
    extends Course surroundings words world config where
  output : Path
  overrides : Template.Overrides
  start : World
  loaded : World
  before : World
  published : World
  asOutput : config.output = some output
  directories : makeDirectories false output told.files = (.ok (), start.files)
  logging : start.logging = told.logging
  sound : start.IsSound
  loads : (loadTemplates config).run start = (.ok overrides, loaded)
  keepsBefore : start.OpensWays [] before
  publishes : (Site.publish (surroundings.job config checked.story output overrides)).run before =
    (.ok (), published)
  ends : (run surroundings words world).2 = published.report .log "Done."

theorem of_run_book (sound : world.IsSound)
    (asked : Config.resolve surroundings.settings words = .ok (.run config))
    (book : config.format = Config.epubFormat) (done : (run surroundings words world).1 = .ok outcome)
    (rendered : outcome.ending = .rendered) : Nonempty (BookCourse surroundings words world config) := by
  obtain ⟨course, whole⟩ := of_run_rendered sound asked (.inr book) done rendered
  obtain ⟨plan, planned, made, carried⟩ := of_render whole rendered
  obtain ⟨form, output, formed⟩ := exists_formOf_of_makePlan made
  obtain ⟨place, ⟨rfl, html⟩ | ⟨⟨author, rfl⟩, _⟩⟩ := formOf_eq_ok formed
  · rw [book] at html
    exact absurd html (by decide)
  · obtain ⟨overrides, rfl, loaded⟩ := of_makePlan_book formed made
    have second := of_loadTemplates course.keepsTold.isSound loaded
    obtain ⟨before, published, third, publishing, last⟩ := of_carryOut second.isSound carried
    have opened := (course.keepsTold.trans course.sets.sound second).trans course.sets.sound third
    exact ⟨⟨course, author, output, overrides, planned, before, published, place, loaded, opened, publishing,
      last⟩⟩

theorem of_run_site (sound : world.IsSound)
    (asked : Config.resolve surroundings.settings words = .ok (.run config))
    (site : config.format = Config.htmlFormat) (done : (run surroundings words world).1 = .ok outcome)
    (rendered : outcome.ending = .rendered) : Nonempty (SiteCourse surroundings words world config) := by
  obtain ⟨course, whole⟩ := of_run_rendered sound asked (.inl site) done rendered
  obtain ⟨plan, planned, made, carried⟩ := of_render whole rendered
  obtain ⟨form, output, formed⟩ := exists_formOf_of_makePlan made
  obtain ⟨place, ⟨rfl, _⟩ | ⟨_, epub⟩⟩ := formOf_eq_ok formed
  · obtain ⟨files, overrides, directories, rfl, loaded⟩ := of_makePlan_site formed made
    have added := addsDirectories_of_made course.keepsTold.isSound.wellFormed directories
    have soundNow : ({ course.told with files } : World).IsSound :=
      course.keepsTold.isSound.withFiles added.wellFormed added.preserves
    have second := of_loadTemplates soundNow loaded
    obtain ⟨before, published, third, publishing, last⟩ := of_carryOut second.isSound carried
    exact ⟨⟨course, output, overrides, { course.told with files }, planned, before, published, place,
      directories, rfl, soundNow, loaded, second.trans soundNow third, publishing, last⟩⟩
  · rw [site] at epub
    exact absurd epub (by decide)

end Gamebook.Run
