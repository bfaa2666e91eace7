import Gamebook.Proofs.Markup.Inlines
import Gamebook.Proofs.Markup.Listing

/-!
What rendering with fragments put aside ensures: it comes to a result, the fragments put aside
before stay where they are, no more than a known number are put behind them, and what is read off
the result stands in the fragments.
-/

namespace Gamebook.Markup

open Gamebook.Text

variable {β γ δ : Type}

def Renders (cost : Nat) (action : StateT Stash (Except Placeholder.Error) β)
    (reads : List Text → β → Prop) : Prop :=
  ∀ stash, ∃ result next, action stash = .ok (result, next) ∧
    stash.fragments <+: next.fragments ∧
    next.fragments.length ≤ stash.fragments.length + cost ∧ reads next.fragments result

/-- What is read off a result is read off it when more fragments are put aside. -/
def IsStable (reads : List Text → β → Prop) : Prop :=
  ∀ {fragments more : List Text} {result : β}, fragments <+: more → reads fragments result →
    reads more result

namespace Renders

variable {cost more : Nat} {reads : List Text → β → Prop} {others : List Text → γ → Prop}
  {action : StateT Stash (Except Placeholder.Error) β}

theorem pure {result : β} (told : ∀ fragments, reads fragments result) :
    Renders 0 (Pure.pure result) reads :=
  fun stash => ⟨result, stash, rfl, List.prefix_rfl, Nat.le_refl _, told _⟩

theorem lift {action : Except Placeholder.Error β} {result : β} (done : action = .ok result)
    (told : ∀ fragments, reads fragments result) : Renders 0 (liftM action) reads := by
  subst done
  exact pure told

theorem weaken {later : List Text → β → Prop} (renders : Renders cost action reads)
    (fewer : cost ≤ more) (implied : ∀ fragments result, reads fragments result →
      later fragments result) : Renders more action later := by
  intro stash
  obtain ⟨result, next, done, longer, few, told⟩ := renders stash
  exact ⟨result, next, done, longer, by omega, implied _ _ told⟩

theorem bind {next : β → StateT Stash (Except Placeholder.Error) γ}
    (first : Renders cost action reads) (stable : IsStable reads)
    (rest : ∀ result, (∃ fragments, reads fragments result) → Renders more (next result)
      fun fragments last => reads fragments result → others fragments last) :
    Renders (cost + more) (action >>= next) others := by
  intro stash
  obtain ⟨result, between, done, longer, few, told⟩ := first stash
  obtain ⟨last, final, finished, further, fewer, implied⟩ := rest result ⟨_, told⟩ between
  refine ⟨last, final, ?_, longer.trans further, by omega, implied (stable further told)⟩
  change (action stash >>= fun found => next found.1 found.2) = _
  rw [done]
  exact finished

theorem mapM {items : List δ} {f : δ → StateT Stash (Except Placeholder.Error) β}
    {reads : List Text → β → List γ → Prop} {costs : δ → Nat} {shown : δ → List γ}
    (stable : ∀ shown, IsStable fun fragments result => reads fragments result shown)
    (each : ∀ item ∈ items, Renders (costs item) (f item)
      fun fragments result => reads fragments result (shown item)) :
    Renders (items.map costs).sum (items.mapM f)
      fun fragments results => Listed (reads fragments) results (items.flatMap shown) := by
  induction items with
  | nil => exact pure fun _ => .nil
  | cons item items ih =>
      rw [List.mapM_cons, List.map_cons, List.sum_cons]
      refine bind (each item List.mem_cons_self) (stable _) fun result _ => ?_
      have others := ih fun other member => each other (.tail _ member)
      exact bind others (fun longer => Listed.weaken fun _ shown => stable shown longer)
        fun results _ => pure fun _ listed told => .cons told listed

end Renders

def Block.texts : Block → List Text
  | .heading text => [text]
  | .rule => []
  | .item text => [text]
  | .paragraph lines => lines

/-- The texts of a description that are rendered line by line. -/
def lineTexts (description : Text) : List Text := (Block.ofText description).flatMap Block.texts

section Lines

variable {inline : Text → StateT Stash (Except Placeholder.Error) Text} {costs : Text → Nat}
  {shown : Text → List Text} {reads : Text → List Text → Prop}

theorem isStable_behind (shown : List Text) :
    IsStable fun fragments html => Behind reads fragments html shown :=
  fun longer told => told.extend longer

theorem isStable_rows (shown : List Text) : IsStable fun fragments rows =>
    Listed (fun row => Behind reads fragments (Row.html row)) rows shown :=
  fun longer listed => listed.weaken fun _ _ told => told.extend longer

theorem renders_block (reading : IsReading reads) {block : Block}
    (each : ∀ line ∈ block.texts, Renders (costs line) (inline line)
      fun fragments html => Behind reads fragments html (shown line)) :
    Renders (block.texts.map costs).sum (block.render inline) fun fragments rows =>
      Listed (fun row => Behind reads fragments row.html) rows (block.texts.flatMap shown) := by
  have behind := isReading_behind reading
  cases block with
  | heading text =>
      have first := each text (List.mem_singleton_self text)
      refine Renders.bind first (isStable_behind _) fun html _ => .pure fun fragments told => ?_
      simp only [Block.texts, List.flatMap_singleton]
      exact .single ((behind fragments).between (by decide) (by decide) told)
  | rule =>
      refine Renders.pure fun fragments => ?_
      exact .single ((behind fragments).tag (by decide))
  | item text =>
      have first := each text (List.mem_singleton_self text)
      refine Renders.bind first (isStable_behind _) fun html _ => .pure fun fragments told => ?_
      simp only [Block.texts, List.flatMap_singleton]
      exact .single ((behind fragments).between (by decide) (by decide) told)
  | paragraph lines =>
      have all := Renders.mapM isStable_behind each
      refine Renders.bind all (fun longer listed => listed.weaken fun _ _ told =>
        told.extend longer) fun parts _ => .pure fun fragments listed => ?_
      have joined := (behind fragments).join " " (isPlain_of_all (by decide))
        ((behind fragments).filter listed)
      split
      · rename_i empty
        rw [empty] at joined
        have nothing : lines.flatMap shown = [] := (behind fragments).eq_nil joined
        rw [Block.texts, nothing]
        exact .nil
      · exact .single ((behind fragments).between (by decide) (by decide) joined)

theorem renders_lines (reading : IsReading reads) {description : Text}
    (each : ∀ line ∈ lineTexts description, Renders (costs line) (inline line)
      fun fragments html => Behind reads fragments html (shown line)) :
    Renders ((lineTexts description).map costs).sum (Blocks.renderWith inline description)
      fun fragments html => Behind reads fragments html ((lineTexts description).flatMap shown) := by
  have blocks := Renders.mapM isStable_rows
    fun block (listed : block ∈ Block.ofText description) => renders_block reading fun line member =>
      each line (List.mem_flatMap.mpr ⟨block, listed, member⟩)
  have cost : ((Block.ofText description).map fun block => (block.texts.map costs).sum).sum =
      ((lineTexts description).map costs).sum := by
    rw [lineTexts, List.map_flatMap]
    induction Block.ofText description with
    | nil => rfl
    | cons block blocks ih => simp [ih]
  have shownAll : ((Block.ofText description).flatMap fun block => block.texts.flatMap shown) =
      (lineTexts description).flatMap shown := by
    rw [lineTexts, List.flatMap_assoc]
  rw [← cost, ← shownAll]
  refine Renders.bind blocks (fun longer listed => listed.weaken fun _ _ rows =>
    isStable_rows _ longer rows) fun rows _ => .pure fun fragments listed => ?_
  have behind := isReading_behind reading fragments
  exact behind.join ['\n'] (isPlain_of_all (by decide)) (behind.layOut false listed.flatten)

end Lines

section Lift

variable {m n : Type → Type} [Monad m] [Monad n] [LawfulMonad m] [LawfulMonad n]
  [MonadLiftT m n] [LawfulMonadLiftT m n]

theorem mapM_lift (f : β → m γ) (items : List β) :
    items.mapM (fun item => (liftM (f item) : n γ)) = liftM (items.mapM f) := by
  induction items with
  | nil => simp only [List.mapM_nil, liftM_pure]
  | cons item items ih => simp only [List.mapM_cons, ih, liftM_bind, liftM_pure]

theorem Block.render_lift (inline : Text → m Text) (block : Block) :
    block.render (fun text => (liftM (inline text) : n Text)) = liftM (block.render inline) := by
  cases block <;> simp only [Block.render, mapM_lift, liftM_bind, liftM_pure]

/-- Lines that need nothing put aside make a text that needs nothing put aside. -/
theorem Blocks.renderWith_lift (inline : Text → m Text) (text : Text) :
    renderWith (fun line => (liftM (inline line) : n Text)) text =
      liftM (renderWith inline text) := by
  have blocks : Block.render (fun line => (liftM (inline line) : n Text)) =
      fun block => liftM (block.render inline) := funext (Block.render_lift inline)
  simp only [renderWith, blocks, mapM_lift, liftM_bind, liftM_pure]

end Lift

end Gamebook.Markup
