import Gamebook.Proofs.Effects
import Gamebook.Proofs.Play.Order

/-!
The texts of a page are rendered with their links put aside. Whatever is read part by part is read of the
whole: what the links and images of a line show in their places is what the page shows in the end.
-/

namespace Gamebook.Story

open Gamebook.Text Gamebook.Source Gamebook.Play Gamebook.Markup Gamebook.Markup.Placeholder

variable {hrefFor : State → Text} {state : State} {links : List Link} {link : Link}
  {line description text : Text} {fragments : List Text} {reads : Text → List Text → Prop}
  {shown : Markup.Part (Sign Link) → List Text}

/-- The addresses that a link shows: that of its page if it is open. -/
def Link.addresses (hrefFor : State → Text) (state : State) (link : Link) : List Text :=
  if link.navigates && state.allows link.conditions then
    [escape .inAttribute (hrefFor (state.follow link))]
  else []

/-- The markup of a link that can be rendered. -/
def Link.markup (hrefFor : State → Text) (state : State) (link : Link) : Text :=
  (link.html hrefFor state).toOption.getD []

theorem sublist_write (written : WrittenLink) :
    written.text.Sublist written.write ∧
      ∀ alternate, written.alternate? = some alternate → alternate.Sublist written.write := by
  have label : written.label.Sublist written.write := by
    unfold WrittenLink.write
    rw [List.append_assoc]
    exact (List.sublist_append_left _ _).cons '['
  refine ⟨(List.takeWhile_sublist _).trans label, fun alternate found => ?_⟩
  unfold WrittenLink.alternate? cutAt at found
  split at found
  · cases found
  · rename_i mark rest cut
    cases found
    have behind : (mark :: rest).Sublist written.label := by
      rw [← cut]
      exact List.dropWhile_sublist _
    exact ((List.sublist_cons_self mark rest).trans behind).trans label

/-- A link is rendered to markup that shows its address. -/
theorem Link.exists_html (unmarked : IsUnmarked link.source)
    (short : link.source.length ≤ indexLimit) (hrefFor : State → Text) (state : State) :
    ∃ html, link.html hrefFor state = .ok html ∧ Shows html (link.addresses hrefFor state) ∧
      HoldsValues html [] := by
  have rendered : ∀ text : Text, text.Sublist link.source →
      ∃ html, Inline.render text = .ok html ∧ Shows html [] ∧ HoldsValues html [] := by
    intro text part
    obtain ⟨html, done, shows, holds⟩ :=
      render_unmarked (unmarked.part part) (Nat.le_trans part.length_le short)
    exact ⟨html, done, shows.of_nil, holds.of_nil⟩
  obtain ⟨inText, inAlternate⟩ := sublist_write link.written
  unfold Link.html Link.addresses
  cases allowed : state.allows link.conditions with
  | false =>
      rw [if_neg (by simp), if_neg (by simp)]
      cases alternate : link.alternate? with
      | none => exact ⟨[], rfl, .nil, .nil⟩
      | some text => exact rendered text (inAlternate text alternate)
  | true =>
      obtain ⟨html, done, shows, holds⟩ := rendered link.text inText
      rw [if_pos rfl, done]
      cases navigates : link.navigates with
      | false =>
          exact ⟨html, by simp [bind, Except.bind, pure, Except.pure], by simpa using shows, holds⟩
      | true =>
          have closed := not_mem_escape .inAttribute '"' (by decide) (by decide)
            (hrefFor (state.follow link))
          have quiet := not_mem_escape .inAttribute '<' (by decide) (by decide)
            (hrefFor (state.follow link))
          have isTag : isTag "</a>" = true := by decide
          have showsWhole := ((Shows.anchor closed quiet).append shows).append (isReading_shows.tag isTag)
          have holdsWhole := ((HoldsValues.anchor (Tag.isValue_of_not_mem quiet closed)).append holds).append
            (isReading_holdsValues.tag isTag)
          exact ⟨_, rfl, showsWhole, holdsWhole⟩

theorem Link.html_eq (unmarked : IsUnmarked link.source) (short : link.source.length ≤ indexLimit)
    (hrefFor : State → Text) (state : State) :
    link.html hrefFor state = .ok (link.markup hrefFor state) := by
  obtain ⟨html, done, _⟩ := Link.exists_html unmarked short hrefFor state
  rw [Link.markup, done]
  rfl

theorem Link.markup_shows (unmarked : IsUnmarked link.source) (short : link.source.length ≤ indexLimit)
    (hrefFor : State → Text) (state : State) :
    Shows (link.markup hrefFor state) (link.addresses hrefFor state) ∧
      HoldsValues (link.markup hrefFor state) [] := by
  obtain ⟨html, done, told⟩ := Link.exists_html unmarked short hrefFor state
  rw [Link.markup, done]
  exact told

/-- The text stands for these signs of a line, the links among them put aside in the fragments. -/
def Covers (hrefFor : State → Text) (state : State) (fragments : List Text) (text : Text)
    (signs : List (Sign Link)) : Prop :=
  ∃ numbered : List (Sign (Nat × Link)), text = numbered.flatMap (covered Prod.fst) ∧
    numbered.map (Sign.map Prod.snd) = signs ∧
    ∀ sign ∈ numbered, IsPut Prod.fst (fun label => label.2.markup hrefFor state) fragments sign

namespace Covers

variable {signs left right : List (Sign Link)} {more : List Text}

theorem nil : Covers hrefFor state fragments [] [] := ⟨[], rfl, rfl, by simp⟩

theorem append {rest : Text} (first : Covers hrefFor state fragments text left)
    (second : Covers hrefFor state fragments rest right) :
    Covers hrefFor state fragments (text ++ rest) (left ++ right) := by
  obtain ⟨firstSigns, rfl, rfl, firstKnown⟩ := first
  obtain ⟨secondSigns, rfl, rfl, secondKnown⟩ := second
  refine ⟨firstSigns ++ secondSigns, by simp, by simp, fun sign member => ?_⟩
  exact (List.mem_append.mp member).elim (firstKnown sign) (secondKnown sign)

theorem flatten {parts : List Text} (listed : Listed (Covers hrefFor state fragments) parts signs) :
    Covers hrefFor state fragments parts.flatten signs := by
  induction listed with
  | nil => exact nil
  | cons told _ ih => exact told.append ih

theorem extend (longer : fragments <+: more) (covers : Covers hrefFor state fragments text signs) :
    Covers hrefFor state more text signs := by
  obtain ⟨numbered, whole, same, known⟩ := covers
  refine ⟨numbered, whole, same, fun sign member => ?_⟩
  have first := known sign member
  cases sign with
  | plain c => exact first
  | link label =>
      obtain ⟨rest, rfl⟩ := longer
      have found : fragments[label.1]? = some (label.2.markup hrefFor state) := first
      have inside := (List.getElem?_eq_some_iff.mp found).1
      exact (List.getElem?_append_left inside).trans found

theorem plain (unmarked : IsUnmarked text) :
    Covers hrefFor state fragments text (text.map .plain) := by
  refine ⟨text.map .plain, ?_, by simp [Sign.map], fun sign member => ?_⟩
  · rw [List.flatMap_map]
    exact (List.flatMap_singleton' text).symm
  · obtain ⟨c, inside, rfl⟩ := List.mem_map.mp member
    exact unmarked c inside

theorem render (reading : IsReading reads) (covers : Covers hrefFor state fragments text signs)
    (read : ∀ part ∈ parts Sign.char? signs, IsRead reads (Link.markup hrefFor state) shown part)
    (short : signs.length ≤ indexLimit) :
    ∃ html, Inline.render text = .ok html ∧
      Behind reads fragments html ((parts Sign.char? signs).flatMap shown) := by
  obtain ⟨numbered, rfl, rfl, known⟩ := covers
  rw [parts_relabel] at read ⊢
  rw [List.flatMap_map]
  refine render_put reading known (fun part member => ?_) (by simpa using short)
  exact isRead_relabel (read _ (List.mem_map_of_mem member))

end Covers

theorem renders_coverPiece (links : List Link) {piece : Piece WrittenLink}
    (unmarked : IsUnmarked (WrittenLink.pattern.text piece))
    (short : (WrittenLink.pattern.text piece).length ≤ indexLimit) :
    Renders (WrittenLink.pattern.text piece).length (coverPiece hrefFor state links piece)
      fun fragments text => Covers hrefFor state fragments text (pieceSigns links piece) := by
  cases piece with
  | plain c => exact (Renders.pure fun _ => .plain unmarked).weaken (by simp) fun _ _ told => told
  | token written =>
      unfold coverPiece pieceSigns linkWritten?
      dsimp only
      cases found : links.find? fun link => link.written = written with
      | none => exact (Renders.pure fun _ => .plain unmarked).weaken (by simp) fun _ _ told => told
      | some link =>
          have same : link.written = written := by simpa using List.find?_some found
          subst same
          have done := Link.html_eq unmarked short hrefFor state
          intro stash
          refine ⟨(stash.put (link.markup hrefFor state)).1, (stash.put (link.markup hrefFor state)).2,
            ?_, ?_, ?_, ?_⟩
          · change (liftM (link.html hrefFor state) >>= putAside : Rendering Text) stash = _
            rw [done]
            rfl
          · exact List.prefix_append _ _
          · have nonempty := List.length_pos_iff.mpr (WrittenLink.pattern.write_ne_nil link.written)
            change (stash.fragments ++ [link.markup hrefFor state]).length ≤
              stash.fragments.length + (WrittenLink.pattern.write link.written).length
            rw [List.length_append, List.length_singleton]
            omega
          · refine ⟨[.link (stash.fragments.length, link)], ?_, rfl, fun sign member => ?_⟩
            · rw [List.flatMap_singleton]
              rfl
            · obtain rfl := List.mem_singleton.mp member
              simp [IsPut, Stash.put]

theorem isStable_covers (hrefFor : State → Text) (state : State) (signs : List (Sign Link)) :
    IsStable fun fragments text => Covers hrefFor state fragments text signs :=
  fun longer covers => covers.extend longer

theorem renders_coverLine (unmarked : IsUnmarked line) (short : line.length ≤ indexLimit) :
    Renders line.length (coverLine hrefFor state links line)
      fun fragments text => Covers hrefFor state fragments text (lineSigns links line) := by
  have pieces := Renders.mapM (isStable_covers hrefFor state)
    fun piece (member : piece ∈ WrittenLink.pattern.pieces line) =>
      have part := Pattern.sublist_of_mem_pieces member
      renders_coverPiece links (unmarked.part part) (Nat.le_trans part.length_le short)
  have cost : ((WrittenLink.pattern.pieces line).map fun piece =>
      (WrittenLink.pattern.text piece).length).sum = line.length := by
    rw [← List.length_flatMap, WrittenLink.pattern.flatMap_text_pieces]
  rw [cost] at pieces
  refine Renders.bind pieces (fun longer listed => listed.weaken fun _ _ covers =>
    covers.extend longer) fun parts _ => .pure fun fragments listed => ?_
  exact Covers.flatten listed

theorem length_lineSigns_le (links : List Link) (line : Text) :
    (lineSigns links line).length ≤ line.length := by
  conv => rhs; rw [← WrittenLink.pattern.flatMap_text_pieces line]
  unfold lineSigns
  induction WrittenLink.pattern.pieces line with
  | nil => exact Nat.le_refl _
  | cons piece pieces ih =>
      have first : (pieceSigns links piece).length ≤ (WrittenLink.pattern.text piece).length := by
        cases piece with
        | plain c => exact Nat.le_refl _
        | token written =>
            have nonempty := List.length_pos_iff.mpr (WrittenLink.pattern.write_ne_nil written)
            rw [pieceSigns]
            cases linkWritten? links written with
            | none =>
                rw [List.length_map]
                exact Nat.le_refl _
            | some link => exact nonempty
      simp only [List.flatMap_cons, List.length_append]
      omega

/-- The parts of the lines of a block. -/
def blockParts (description : Text) (links : List Link) : List (Markup.Part (Sign Link)) :=
  (lineTexts description).flatMap fun line => parts Sign.char? (lineSigns links line)

theorem renders_renderLine (reading : IsReading reads)
    (read : ∀ part ∈ parts Sign.char? (lineSigns links line),
      IsRead reads (Link.markup hrefFor state) shown part)
    (unmarked : IsUnmarked line) (short : line.length ≤ indexLimit) :
    Renders line.length (renderLine hrefFor state links line) fun fragments html =>
      Behind reads fragments html ((parts Sign.char? (lineSigns links line)).flatMap shown) := by
  have few := Nat.le_trans (length_lineSigns_le links line) short
  have rest : ∀ text, (∃ fragments, Covers hrefFor state fragments text (lineSigns links line)) →
      Renders 0 (liftM (Inline.render text)) fun fragments html =>
        Covers hrefFor state fragments text (lineSigns links line) →
          Behind reads fragments html ((parts Sign.char? (lineSigns links line)).flatMap shown) := by
    rintro text ⟨fragments, covers⟩
    obtain ⟨html, rendered, _⟩ := covers.render reading read few
    refine Renders.lift rendered fun fragments covers => ?_
    obtain ⟨same, again, told⟩ := covers.render reading read few
    rw [rendered] at again
    cases again
    exact told
  exact Renders.bind (renders_coverLine unmarked short) (isStable_covers hrefFor state _) rest

def IsRendered (description : Text) : Prop :=
  IsUnmarked description ∧ description.length ≤ indexLimit

/-- A block is rendered, and what it shows is what its parts show. -/
theorem renderBlock_reads (reading : IsReading reads) (rendered : IsRendered description)
    (read : ∀ part ∈ blockParts description links, IsRead reads (Link.markup hrefFor state) shown part) :
    ∃ html, renderBlock hrefFor state description links = .ok html ∧
      reads html ((blockParts description links).flatMap shown) := by
  obtain ⟨unmarked, short⟩ := rendered
  have bound := sum_lineTexts_le description
  have each : ∀ line ∈ lineTexts description, Renders line.length
      (renderLine hrefFor state links line) fun fragments html =>
        Behind reads fragments html ((parts Sign.char? (lineSigns links line)).flatMap shown) := by
    intro line listed
    refine renders_renderLine reading (fun part member => ?_)
      (fun c member => unmarked c (mem_of_mem_lineTexts listed member))
      (Nat.le_trans (length_le_of_mem_lineTexts listed) short)
    exact read part (List.mem_flatMap.mpr ⟨line, listed, member⟩)
  obtain ⟨html, stash, done, _, few, told⟩ := renders_lines reading each {}
  have enough : stash.fragments.length ≤ indexLimit := by
    simp only [List.length_nil] at few
    omega
  obtain ⟨restored, whole, told⟩ := told.restore enough
  refine ⟨restored, ?_, ?_⟩
  · change ((Blocks.renderWith (renderLine hrefFor state links) description) {} >>=
      fun found => found.2.restore found.1) = _
    rw [done]
    exact whole
  · rwa [blockParts, List.flatMap_assoc]

/-- The parts of the texts of a page. -/
def bodyParts (actions : List Action) (scene : Scene) : List (Markup.Part (Sign Link)) :=
  actions.flatMap (fun action => blockParts action.description action.links) ++
    blockParts scene.description scene.links

theorem renderActions_read (reading : IsReading reads) {actions : List Action}
    (rendered : ∀ action ∈ actions, IsRendered action.description)
    (read : ∀ action ∈ actions, ∀ part ∈ blockParts action.description action.links,
      IsRead reads (Link.markup hrefFor state) shown part) :
    ∃ texts, actions.mapM (fun action =>
        renderBlock hrefFor state action.description action.links) = .ok texts ∧
      Listed reads texts (actions.flatMap fun action =>
        (blockParts action.description action.links).flatMap shown) := by
  induction actions with
  | nil => exact ⟨[], rfl, .nil⟩
  | cons action actions ih =>
      obtain ⟨html, first, told⟩ := renderBlock_reads reading (rendered action List.mem_cons_self)
        (read action List.mem_cons_self)
      obtain ⟨texts, others, listed⟩ := ih (fun other member => rendered other (.tail _ member))
        fun other member => read other (.tail _ member)
      exact ⟨html :: texts, by rw [List.mapM_cons, first, others]; rfl, .cons told listed⟩

/-- The body of a page is rendered, and what it shows is what its parts show. -/
theorem renderBody_reads (reading : IsReading reads) {actions : List Action} {scene : Scene}
    (ofActions : ∀ action ∈ actions, IsRendered action.description)
    (ofScene : IsRendered scene.description)
    (read : ∀ part ∈ bodyParts actions scene, IsRead reads (Link.markup hrefFor state) shown part) :
    ∃ html, renderBody hrefFor state actions scene = .ok html ∧
      reads html ((bodyParts actions scene).flatMap shown) := by
  obtain ⟨texts, rendered, listed⟩ := renderActions_read reading ofActions
    fun action member part inside =>
      read part (List.mem_append_left _ (List.mem_flatMap.mpr ⟨action, member, inside⟩))
  obtain ⟨last, lastRendered, lastTold⟩ := renderBlock_reads reading ofScene fun part inside =>
    read part (List.mem_append_right _ inside)
  have all := reading.filter (listed.append (.single lastTold))
  refine ⟨join ['\n'] ((texts ++ [last]).filter (· ≠ [])), ?_, ?_⟩
  · rw [renderBody, rendered, lastRendered]
    rfl
  · rw [bodyParts, List.flatMap_append, List.flatMap_assoc]
    exact reading.join ['\n'] (isPlain_of_all (by decide)) all

theorem source_sublist (member : .link link ∈ lineSigns links line) : link.source.Sublist line := by
  obtain ⟨piece, listed, inside⟩ := List.mem_flatMap.mp member
  cases piece with
  | plain c => simp [pieceSigns] at inside
  | token written =>
      have part := Pattern.sublist_of_mem_pieces listed
      unfold pieceSigns linkWritten? at inside
      cases found : links.find? fun link => link.written = written with
      | none => simp [found] at inside
      | some other =>
          simp only [found, List.mem_singleton, Sign.link.injEq] at inside
          subst inside
          have same : link.written = written := by simpa using List.find?_some found
          rw [← same] at part
          exact part

theorem isRendered_source (rendered : IsRendered description) {part : Markup.Part (Sign Link)}
    (listed : part ∈ blockParts description links) (member : .link link ∈ part.shown) :
    IsUnmarked link.source ∧ link.source.length ≤ indexLimit := by
  obtain ⟨line, known, inLine⟩ := List.mem_flatMap.mp listed
  have inside := source_sublist (mem_of_mem_parts inLine member)
  obtain ⟨unmarked, short⟩ := rendered
  refine ⟨fun c inSource => unmarked c (mem_of_mem_lineTexts known (inside.subset inSource)), ?_⟩
  exact Nat.le_trans inside.length_le (Nat.le_trans (length_le_of_mem_lineTexts known) short)

/-- The links in the texts of a page have markup. -/
theorem markup_of_mem_bodyParts {actions : List Action} {scene : Scene} {part : Markup.Part (Sign Link)}
    (ofActions : ∀ action ∈ actions, IsRendered action.description)
    (ofScene : IsRendered scene.description) (listed : part ∈ bodyParts actions scene)
    (member : .link link ∈ part.shown) (hrefFor : State → Text) (state : State) :
    link.html hrefFor state = .ok (link.markup hrefFor state) ∧
      Shows (link.markup hrefFor state) (link.addresses hrefFor state) ∧
      HoldsValues (link.markup hrefFor state) [] := by
  have known : IsUnmarked link.source ∧ link.source.length ≤ indexLimit := by
    rcases List.mem_append.mp listed with inActions | inScene
    · obtain ⟨action, fresh, inside⟩ := List.mem_flatMap.mp inActions
      exact isRendered_source (ofActions action fresh) inside member
    · exact isRendered_source ofScene inScene member
  exact ⟨Link.html_eq known.1 known.2 hrefFor state, Link.markup_shows known.1 known.2 hrefFor state⟩

theorem page_reads {story : Story} {scene : Scene} (reading : IsReading reads)
    (found : story.resolve state = .ok scene)
    (ofActions : ∀ action ∈ story.freshActions state, IsRendered action.description)
    (ofScene : IsRendered scene.description)
    (read : ∀ part ∈ bodyParts (story.freshActions state) scene,
      IsRead reads (Link.markup hrefFor state) shown part) :
    ∃ page, story.page hrefFor state = .ok page ∧ page.state = state ∧
      page.actions = story.freshActions state ∧ page.scene = scene ∧
      reads page.html ((bodyParts page.actions page.scene).flatMap shown) := by
  obtain ⟨html, rendered, told⟩ := renderBody_reads reading ofActions ofScene read
  refine ⟨⟨state, scene, story.freshActions state, html⟩, ?_, rfl, rfl, rfl, told⟩
  exact bind_eq_ok.mpr ⟨scene, mapError_eq_ok.mpr found,
    bind_eq_ok.mpr ⟨html, mapError_eq_ok.mpr rendered, rfl⟩⟩

end Gamebook.Story
