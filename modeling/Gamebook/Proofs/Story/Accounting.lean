import Mathlib.Data.List.Flatten
import Mathlib.Data.List.Nodup
import Gamebook.Proofs.Source.Blocks
import Gamebook.Proofs.Source.Columns
import Gamebook.Proofs.Story.Closed
import Gamebook.Proofs.Story.Taking

/-!
Nothing of a source is dropped in silence: each block behind the heading of the story is a part of the
story or refused by a warning, and each link in a block that is taken is a link of the story or
reported.
-/

namespace Gamebook.Story

open Gamebook.Text Gamebook.Source

variable {story : Story} {checked : Checked} {blocks earlier : List Block} {block : Block}
  {listed : List Warning} {warning : Warning} {text : Text} {link : Link}

/-- The cause refuses the heading of a scene or of an action. -/
def Cause.isRefusal (cause : Cause) : Bool := cause.refuses 2 || cause.refuses 3

def Cause.isInvalidTarget : Cause → Bool
  | .invalidLinkTarget _ => true
  | _ => false

/-- The warning lets a block and its links pass. -/
def Warning.IsMild (warning : Warning) : Prop :=
  warning.cause.isRefusal = false ∧ warning.cause.isInvalidTarget = false

theorem isMild_of_headingWarnings (member : warning ∈ headingWarnings block) : warning.IsMild := by
  unfold headingWarnings readSceneHeading readActionHeading at member
  grind [Warning.IsMild, Cause.isRefusal, Cause.refuses, Cause.isInvalidTarget]

theorem isMild_of_alwaysConditional {variants : List Scene}
    (member : warning ∈ alwaysConditional variants) : warning.IsMild := by
  unfold alwaysConditional at member
  grind [Warning.IsMild, Cause.isRefusal, Cause.refuses, Cause.isInvalidTarget]

theorem isMild_of_neverSet {line column : Nat} {conditions : Conditions}
    (member : warning ∈ neverSet story line column conditions) : warning.IsMild := by
  obtain ⟨name, _, rfl⟩ := List.mem_map.mp member
  exact ⟨rfl, rfl⟩

theorem isMild_of_undefinedTarget (member : warning ∈ undefinedTarget story link) :
    warning.IsMild := by
  unfold undefinedTarget at member
  grind [Warning.IsMild, Cause.isRefusal, Cause.refuses, Cause.isInvalidTarget]

theorem isMild_of_referenceWarnings (member : warning ∈ story.referenceWarnings) :
    warning.IsMild := by
  simp only [referenceWarnings, List.mem_append, List.mem_flatMap] at member
  rcases member with (⟨_, _, listed⟩ | ⟨_, _, listed⟩) | ⟨_, _, listed | listed⟩
  · exact isMild_of_alwaysConditional listed
  · exact isMild_of_neverSet listed
  · exact isMild_of_undefinedTarget listed
  · exact isMild_of_neverSet listed

theorem filter_isRefusal_of_mild (mild : ∀ warning ∈ listed, warning.IsMild) :
    (listed.filter fun warning => warning.cause.isRefusal) = [] :=
  List.filter_eq_nil_iff.mpr fun warning member => by simp [(mild warning member).1]

theorem filter_isInvalidTarget_of_mild (mild : ∀ warning ∈ listed, warning.IsMild) :
    (listed.filter fun warning => warning.cause.isInvalidTarget) = [] :=
  List.filter_eq_nil_iff.mpr fun warning member => by simp [(mild warning member).2]

theorem Warning.refuses.isRefusal (refuses : warning.refuses block) (part : block.isPart = true) :
    warning.cause.isRefusal = true ∧ warning.cause.isInvalidTarget = false := by
  obtain ⟨_, _, cause⟩ := refuses
  simp only [Block.isPart, Bool.or_eq_true, decide_eq_true_eq] at part
  rcases part with level | level <;> rw [level] at cause <;>
    cases same : warning.cause <;> simp_all [Cause.isRefusal, Cause.refuses, Cause.isInvalidTarget]

/-- A link where it is written in a source. -/
structure Site where
  line : Nat
  column : Nat
  written : WrittenLink

namespace Site

def place (site : Site) : Nat × Nat := (site.line, site.column)

def link? (site : Site) : Option Link := (placeLink site.line site.column site.written).1

def warnings (site : Site) : List Warning := (placeLink site.line site.column site.written).2

/-- The warning that the target of the link cannot be read. -/
def fault (site : Site) : Warning :=
  ⟨site.line, site.column, .invalidLinkTarget (strip site.written.target)⟩

def faults (site : Site) : List Warning :=
  site.warnings.filter fun warning => warning.cause.isInvalidTarget

variable {site : Site}

/-- A link is kept, or it is reported. -/
theorem link?_or_fault (site : Site) :
    (∃ link, site.link? = some link ∧ link.written = site.written ∧ link.line = site.line ∧
        link.column = site.column ∧ site.faults = []) ∨
      site.link? = none ∧ site.faults = [site.fault] := by
  unfold link? faults warnings placeLink
  cases read : Destination.read? (strip site.written.target) with
  | none => exact .inr ⟨by simp [read], by simp [read, fault, Cause.isInvalidTarget]⟩
  | some destination =>
      refine .inl ⟨⟨site.written, site.line, site.column, destination.scene, destination.conditions,
        destination.toggles⟩, by simp only [read], rfl, rfl, rfl, ?_⟩
      simp only [read]
      split <;> split <;> simp [Cause.isInvalidTarget]

theorem place_of_link? (placed : site.link? = some link) : (link.line, link.column) = site.place := by
  rcases site.link?_or_fault with ⟨other, found, _, line, column, _⟩ | ⟨none, _⟩
  · rw [placed] at found
    cases found
    exact Prod.ext line column
  · rw [placed] at none
    contradiction

theorem place_of_warnings (member : warning ∈ site.warnings) :
    (warning.line, warning.column) = site.place := by
  unfold warnings placeLink at member
  cases read : Destination.read? (strip site.written.target) with
  | none =>
      simp only [read, List.mem_singleton] at member
      rw [member]
      rfl
  | some destination =>
      simp only [read, List.mem_append] at member
      rcases member with alternate | empty
      · split at alternate
        · rw [List.mem_singleton.mp alternate]
          rfl
        · contradiction
      · split at empty
        · rw [List.mem_singleton.mp empty]
          rfl
        · contradiction

theorem place_of_faults (member : warning ∈ site.faults) :
    (warning.line, warning.column) = site.place :=
  place_of_warnings (List.mem_of_mem_filter member)

/-- The site ends before the other one begins. -/
def EndsBefore (left right : Site) : Prop :=
  left.line < right.line ∨
    left.line = right.line ∧ left.column + left.written.write.length ≤ right.column

theorem EndsBefore.column_lt {left right : Site} (ends : left.EndsBefore right)
    (same : left.line = right.line) : left.column < right.column := by
  have room := List.length_pos_iff.mpr (WrittenLink.pattern.write_ne_nil left.written)
  change 0 < left.written.write.length at room
  unfold EndsBefore at ends
  omega

end Site

def sites (lines : List NumberedLine) : List Site :=
  lines.flatMap fun line =>
    (WrittenLink.ofLine line.text).map fun (column, written) => ⟨line.number, column, written⟩

theorem mem_sites {site : Site} {lines : List NumberedLine} :
    site ∈ sites lines ↔ ∃ line ∈ lines, line.number = site.line ∧
      (site.column, site.written) ∈ WrittenLink.ofLine line.text := by
  obtain ⟨number, column, written⟩ := site
  simp only [sites, List.mem_flatMap, List.mem_map, Site.mk.injEq, Prod.exists]
  constructor
  · rintro ⟨line, inside, _, _, found, same, rfl, rfl⟩
    exact ⟨line, inside, same, found⟩
  · rintro ⟨line, inside, same, found⟩
    exact ⟨line, inside, column, written, found, same, rfl, rfl⟩

theorem placeLinks_eq (lines : List NumberedLine) :
    placeLinks lines = ((sites lines).filterMap Site.link?, (sites lines).flatMap Site.warnings) := by
  unfold placeLinks sites
  simp only [List.filterMap_flatMap, List.flatMap_assoc, List.filterMap_map, List.flatMap_map,
    Prod.mk.injEq]
  exact ⟨rfl, rfl⟩

theorem pairwise_sites {lines : List NumberedLine}
    (increasing : lines.Pairwise fun left right => left.number < right.number) :
    (sites lines).Pairwise Site.EndsBefore := by
  unfold sites
  refine List.pairwise_flatMap.mpr ⟨fun line _ => ?_, increasing.imp fun below => ?_⟩
  · exact List.pairwise_map.mpr ((WrittenLink.pairwise_spans_placed 1 _).imp fun ends => .inr ⟨rfl, ends⟩)
  · intro left inLeft right inRight
    obtain ⟨_, _, rfl⟩ := List.mem_map.mp inLeft
    obtain ⟨_, _, rfl⟩ := List.mem_map.mp inRight
    exact .inl below

/-- No two links stand in one place. -/
theorem nodup_sites {lines : List NumberedLine}
    (increasing : lines.Pairwise fun left right => left.number < right.number) :
    ((sites lines).map Site.place).Nodup := by
  refine List.pairwise_map.mpr ((pairwise_sites increasing).imp fun {left right} ends same => ?_)
  have line : left.line = right.line := congrArg Prod.fst same
  exact Nat.ne_of_lt (ends.column_lt line) (congrArg Prod.snd same)

theorem filter_isInvalidTarget_placeLinks (lines : List NumberedLine) :
    ((placeLinks lines).2.filter fun warning => warning.cause.isInvalidTarget) =
      (sites lines).flatMap Site.faults := by
  rw [placeLinks_eq, List.filter_flatMap]
  rfl

theorem filter_isRefusal_placeLinks (lines : List NumberedLine) :
    ((placeLinks lines).2.filter fun warning => warning.cause.isRefusal) = [] := by
  rw [placeLinks_eq]
  simp only [List.filter_eq_nil_iff, List.mem_flatMap]
  rintro warning ⟨site, _, member⟩
  unfold Site.warnings placeLink at member
  grind [Cause.isRefusal, Cause.refuses]

/-- The warnings report the refused blocks, and the links of the taken ones that cannot be read. -/
structure IsReported (warnings : List Warning) (taken refused : List Block) : Prop where
  refusals : List.Forall₂ Warning.refuses (warnings.filter fun warning => warning.cause.isRefusal) refused
  faults : (warnings.filter fun warning => warning.cause.isInvalidTarget) =
    (taken.flatMap fun block => sites block.lines).flatMap Site.faults

namespace IsReported

variable {more : List Warning} {taken refused otherTaken otherRefused : List Block}

theorem append (left : IsReported listed taken refused) (right : IsReported more otherTaken otherRefused) :
    IsReported (listed ++ more) (taken ++ otherTaken) (refused ++ otherRefused) where
  refusals := by
    rw [List.filter_append]
    exact List.rel_append left.refusals right.refusals
  faults := by
    rw [List.filter_append, left.faults, right.faults, List.flatMap_append, List.flatMap_append]

theorem mild (all : ∀ warning ∈ listed, warning.IsMild) : IsReported listed [] [] where
  refusals := filter_isRefusal_of_mild all ▸ .nil
  faults := filter_isInvalidTarget_of_mild all

theorem ofTaken (block : Block) : IsReported (placeLinks block.lines).2 [block] [] where
  refusals := filter_isRefusal_placeLinks block.lines ▸ .nil
  faults := by rw [filter_isInvalidTarget_placeLinks, List.flatMap_singleton]

theorem ofRefused (part : block.isPart = true) (refuses : warning.refuses block) :
    IsReported [warning] [] [block] where
  refusals := by simpa [(refuses.isRefusal part).1] using refuses
  faults := by simp [(refuses.isRefusal part).2]

end IsReported

theorem IsMadeOf.isReported (made : story.IsMadeOf earlier) (blocks : List Block) :
    IsReported (Story.addBlocks story blocks).2 (takenFrom earlier blocks) (refusedFrom earlier blocks) := by
  induction blocks generalizing story earlier with
  | nil => exact .mild nofun
  | cons block blocks ih =>
      have judged := made.addBlock block
      have heading : IsReported (headingWarnings block) [] [] :=
        .mild fun _ => isMild_of_headingWarnings
      simp only [Story.addBlocks, takenFrom, refusedFrom]
      generalize Story.addBlock story block = result at judged ⊢
      cases judged with
      | taken part new =>
          simpa [new] using (heading.append (.ofTaken block)).append (ih (made.addEntry part))
      | refused part known refuses =>
          simpa [known, part] using (heading.append (.ofRefused part refuses)).append (ih made)
      | passed other =>
          have passed : isNew earlier block = false := by simp [isNew, other]
          simpa [passed, other] using ih made

theorem allLinks_eq (story : Story) : story.allLinks = story.entries.flatMap Entry.links := by
  simp [allLinks, entries, List.flatMap_map, Entry.links]

theorem IsMadeOf.allLinks_perm (made : story.IsMadeOf blocks) :
    story.allLinks.Perm ((blocks.flatMap fun block => sites block.lines).flatMap fun site =>
      site.link?.toList) := by
  rw [allLinks_eq]
  apply (made.entries.flatMap_right _).trans
  rw [List.flatMap_map, List.flatMap_assoc]
  simp [placeLinks_eq, List.filterMap_eq_flatMap_toList]

namespace Checked

def entriesAt (checked : Checked) (line : Nat) : List Entry :=
  checked.story.entries.filter fun entry => entry.line = line

def refusalsAt (checked : Checked) (line : Nat) : List Warning :=
  checked.warnings.filter fun warning => warning.line = line && warning.cause.isRefusal

def linksAt (checked : Checked) (line column : Nat) : List Link :=
  checked.story.allLinks.filter fun link => (link.line, link.column) = (line, column)

def faultsAt (checked : Checked) (line column : Nat) : List Warning :=
  checked.warnings.filter fun warning =>
    (warning.line, warning.column) = (line, column) && warning.cause.isInvalidTarget

/-- The block is the only part of the story on its line, and no warning refuses it. -/
def Keeps (checked : Checked) (block : Block) : Prop :=
  checked.entriesAt block.line = [.ofBlock block] ∧ checked.refusalsAt block.line = []

/-- No part of the story stands on the line of the block, and one warning there refuses it. -/
def Refuses (checked : Checked) (block : Block) : Prop :=
  checked.entriesAt block.line = [] ∧
    ∃ warning, checked.refusalsAt block.line = [warning] ∧ warning.refuses block

/-- The link is the only one of the story in its place, and no warning there reports it. -/
def Follows (checked : Checked) (site : Site) : Prop :=
  (∃ link, checked.linksAt site.line site.column = [link] ∧ link.written = site.written) ∧
    checked.faultsAt site.line site.column = []

/-- The story has no link in this place, and one warning there reports its target. -/
def Reports (checked : Checked) (site : Site) : Prop :=
  checked.linksAt site.line site.column = [] ∧
    checked.faultsAt site.line site.column = [site.fault]

/-- What stands in these blocks is in the story or in a warning, and the story has nothing else. -/
structure AccountsFor (checked : Checked) (blocks : List Block) : Prop where
  parts : ∀ block ∈ blocks, block.isPart = true → checked.Keeps block ∨ checked.Refuses block
  sites : ∀ block ∈ blocks, checked.Keeps block → ∀ line ∈ block.lines, ∀ column written,
    (column, written) ∈ WrittenLink.ofLine line.text →
      checked.Follows ⟨line.number, column, written⟩ ∨ checked.Reports ⟨line.number, column, written⟩
  entries : ∀ entry ∈ checked.story.entries,
    ∃ block ∈ blocks, block.isPart = true ∧ checked.Keeps block ∧ entry = .ofBlock block
  links : ∀ link ∈ checked.story.allLinks, ∃ block ∈ blocks, checked.Keeps block ∧
    ∃ line ∈ block.lines, link.line = line.number ∧
      (link.column, link.written) ∈ WrittenLink.ofLine line.text

theorem entriesAt_perm (made : checked.story.IsMadeOf blocks) (line : Nat) :
    (checked.entriesAt line).Perm ((blocks.filter fun block => block.line = line).map Entry.ofBlock) := by
  apply (made.entries.filter _).trans
  rw [List.filter_map]
  simp [Function.comp_def]

theorem refusalsAt_refuses {taken refused : List Block} (reported : IsReported checked.warnings taken refused)
    (line : Nat) :
    List.Forall₂ Warning.refuses (checked.refusalsAt line)
      (refused.filter fun block => block.line = line) := by
  unfold refusalsAt
  rw [← List.filter_filter]
  refine List.rel_filter (fun warning block refuses => ?_) reported.refusals
  simp [refuses.1]

theorem linksAt_perm (made : checked.story.IsMadeOf blocks) (spot : Nat × Nat) :
    (checked.linksAt spot.1 spot.2).Perm
      (((blocks.flatMap fun block => sites block.lines).filter fun site =>
        site.place = spot).flatMap fun site => site.link?.toList) := by
  apply (made.allLinks_perm.filter _).trans
  rw [filter_flatMap_place]
  intro site _ link placed
  exact site.place_of_link? (Option.mem_toList.mp placed)

theorem faultsAt_eq {taken refused : List Block} (reported : IsReported checked.warnings taken refused)
    (spot : Nat × Nat) :
    checked.faultsAt spot.1 spot.2 =
      ((taken.flatMap fun block => sites block.lines).filter fun site =>
        site.place = spot).flatMap Site.faults := by
  unfold faultsAt
  rw [← List.filter_filter, reported.faults, filter_flatMap_place]
  exact fun site _ warning member => site.place_of_faults member

end Checked

section Accounting

variable (made : checked.story.IsMadeOf (takenBlocks blocks))
  (reported : IsReported checked.warnings (takenBlocks blocks) (refusedBlocks blocks))
  (increasing : blocks.Pairwise fun left right => left.line < right.line)

include increasing

theorem nodup_judged :
    ((takenBlocks blocks ++ refusedBlocks blocks).map Block.line).Nodup := by
  apply (((takenFrom_append_refusedFrom_perm [] blocks).map Block.line).nodup_iff).mpr
  exact Block.nodup_line (increasing.sublist List.filter_sublist)

include made reported

theorem keeps_of_taken (taken : block ∈ takenBlocks blocks) : checked.Keeps block := by
  have apart := nodup_judged increasing
  rw [List.map_append, List.nodup_append] at apart
  obtain ⟨own, _, others⟩ := apart
  have absent : block.line ∉ (refusedBlocks blocks).map Block.line := fun inside =>
    others _ (List.mem_map_of_mem taken) _ inside rfl
  constructor
  · apply List.perm_singleton.mp
    have placed := Checked.entriesAt_perm made block.line
    rwa [filter_place_eq own taken] at placed
  · have refusals := Checked.refusalsAt_refuses reported block.line
    rw [filter_place_eq_nil absent] at refusals
    exact List.forall₂_nil_right_iff.mp refusals

theorem refuses_of_refused (refused : block ∈ refusedBlocks blocks) : checked.Refuses block := by
  have apart := nodup_judged increasing
  rw [List.map_append, List.nodup_append] at apart
  obtain ⟨_, own, others⟩ := apart
  have absent : block.line ∉ (takenBlocks blocks).map Block.line := fun inside =>
    others _ inside _ (List.mem_map_of_mem refused) rfl
  constructor
  · apply List.perm_nil.mp
    have placed := Checked.entriesAt_perm made block.line
    rwa [filter_place_eq_nil absent] at placed
  · have refusals := Checked.refusalsAt_refuses reported block.line
    rw [filter_place_eq own refused] at refusals
    obtain ⟨warning, none, refuses, nothing, only⟩ := List.forall₂_cons_right_iff.mp refusals
    rw [List.forall₂_nil_right_iff.mp nothing] at only
    exact ⟨warning, only, refuses⟩

omit reported in
theorem taken_of_keeps (member : block ∈ blocks) (kept : checked.Keeps block) :
    block ∈ takenBlocks blocks := by
  have inStory : Entry.ofBlock block ∈ checked.story.entries :=
    List.mem_of_mem_filter (kept.1 ▸ List.mem_singleton_self (Entry.ofBlock block))
  obtain ⟨other, taken, same⟩ := List.mem_map.mp (made.entries.subset inStory)
  have line : other.line = block.line := by simpa using congrArg Entry.line same
  have inBlocks := (takenFrom_sublist [] blocks).subset taken
  exact List.inj_on_of_nodup_map (Block.nodup_line increasing) inBlocks member line ▸ taken

omit increasing in
theorem follows_or_reports {site : Site}
    (ordered : (blocks.flatMap Block.lines).Pairwise fun left right => left.number < right.number)
    (taken : block ∈ takenBlocks blocks) (member : site ∈ sites block.lines) :
    checked.Follows site ∨ checked.Reports site := by
  have apart : (((takenBlocks blocks).flatMap fun block => sites block.lines).map Site.place).Nodup := by
    have each : ((takenBlocks blocks).flatMap fun block => sites block.lines) =
        sites ((takenBlocks blocks).flatMap Block.lines) := by
      unfold sites
      rw [List.flatMap_assoc]
    rw [each]
    exact nodup_sites (ordered.sublist ((takenFrom_sublist [] blocks).flatMap Block.lines))
  have inTaken : site ∈ (takenBlocks blocks).flatMap fun block => sites block.lines :=
    List.mem_flatMap.mpr ⟨block, taken, member⟩
  have only := filter_place_eq apart inTaken
  have links : (checked.linksAt site.line site.column).Perm site.link?.toList := by
    have placed := Checked.linksAt_perm made site.place
    rwa [only, List.flatMap_singleton] at placed
  have faults : checked.faultsAt site.line site.column = site.faults := by
    have placed := Checked.faultsAt_eq reported site.place
    rwa [only, List.flatMap_singleton] at placed
  rcases site.link?_or_fault with ⟨link, found, written, _, _, silent⟩ | ⟨none, fault⟩
  · rw [found] at links
    exact .inl ⟨⟨link, List.perm_singleton.mp links, written⟩, faults.trans silent⟩
  · rw [none] at links
    exact .inr ⟨List.perm_nil.mp links, faults.trans fault⟩

theorem accountsFor
    (ordered : (blocks.flatMap Block.lines).Pairwise fun left right => left.number < right.number) :
    checked.AccountsFor blocks where
  parts block member part := by
    have judged : block ∈ takenBlocks blocks ++ refusedBlocks blocks :=
      (takenFrom_append_refusedFrom_perm [] blocks).mem_iff.mpr (List.mem_filter.mpr ⟨member, part⟩)
    rcases List.mem_append.mp judged with taken | refused
    · exact .inl (keeps_of_taken made reported increasing taken)
    · exact .inr (refuses_of_refused made reported increasing refused)
  sites block member kept line inside column written found :=
    follows_or_reports made reported ordered (taken_of_keeps made increasing member kept)
      (mem_sites.mpr ⟨line, inside, rfl, found⟩)
  entries entry member := by
    obtain ⟨block, taken, rfl⟩ := List.mem_map.mp (made.entries.subset member)
    exact ⟨block, (takenFrom_sublist [] blocks).subset taken, (isNew_of_mem_takenFrom taken).1,
      keeps_of_taken made reported increasing taken, rfl⟩
  links link member := by
    rw [allLinks_eq] at member
    obtain ⟨entry, inStory, listed⟩ := List.mem_flatMap.mp member
    obtain ⟨block, taken, rfl⟩ := List.mem_map.mp (made.entries.subset inStory)
    rw [Entry.links_ofBlock] at listed
    obtain ⟨line, inside, column, written, found, placed⟩ := mem_placeLinks listed
    obtain ⟨_, _, rfl⟩ := placeLink_eq_some placed
    exact ⟨block, (takenFrom_sublist [] blocks).subset taken,
      keeps_of_taken made reported increasing taken, line, inside, rfl, found⟩

end Accounting

theorem isReported_of_ofBlocks (accepted : ofBlocks blocks = .ok checked) :
    ∃ heading, (blocks.filter fun block => block.level = 1) = [heading] ∧
      checked.story.IsMadeOf (takenBlocks (blocksBehind heading blocks)) ∧
      IsReported checked.warnings (takenBlocks (blocksBehind heading blocks))
        (refusedBlocks (blocksBehind heading blocks)) := by
  obtain ⟨heading, name, firstScene, found, _, read, _, _, warnings⟩ := ofBlocks_eq_ok accepted
  have added := (isMadeOf_nil name heading.body firstScene).isReported (blocksBehind heading blocks)
  have mild : IsReported checked.story.referenceWarnings [] [] :=
    .mild fun _ => isMild_of_referenceWarnings
  refine ⟨heading, filter_of_storyBlock found, ?_, ?_⟩
  · rw [read]
    exact addBlocks_isMadeOf name heading.body firstScene _
  · rw [warnings]
    simpa [takenBlocks, refusedBlocks] using added.append mild

/-- A text that is read is accounted for: each heading begins a block, and what stands in the blocks
behind the heading of the story is in the story or in a warning. -/
theorem accountsFor_of_ofText (accepted : ofText text = .ok checked) :
    (∀ line ∈ Block.numberFrom 1 (lines (text.dropWhile isByteOrderMark)), ∀ title,
      Heading.ofLine? line.text = some title →
        ∃ block ∈ Block.ofText (text.dropWhile isByteOrderMark),
          block.line = line.number ∧ block.heading = title) ∧
    ∃ heading, ((Block.ofText (text.dropWhile isByteOrderMark)).filter fun block =>
        block.level = 1) = [heading] ∧
      checked.AccountsFor
        (blocksBehind heading (Block.ofText (text.dropWhile isByteOrderMark))) := by
  refine ⟨fun line member title read => Block.exists_mem_gather member read, ?_⟩
  obtain ⟨heading, only, made, reported⟩ := isReported_of_ofBlocks accepted
  refine ⟨heading, only, accountsFor made reported ?_ ?_⟩
  · exact pairwise_blocksBehind heading _
  · exact (Block.pairwise_lines_ofText _).sublist (List.filter_sublist.flatMap Block.lines)

theorem accountsFor_keySource :
    ofText keySource = .ok ⟨keyStory, [], []⟩ ∧
      ∃ heading, ((Block.ofText (keySource.dropWhile isByteOrderMark)).filter fun block =>
          block.level = 1) = [heading] ∧
        Checked.AccountsFor ⟨keyStory, [], []⟩
          (blocksBehind heading (Block.ofText (keySource.dropWhile isByteOrderMark))) :=
  ⟨ofText_keySource, (accountsFor_of_ofText ofText_keySource).2⟩

end Gamebook.Story
