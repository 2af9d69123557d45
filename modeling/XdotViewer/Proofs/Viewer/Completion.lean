import XdotViewer.Proofs.Drawing.ImageNeeds
import XdotViewer.Proofs.Images.Answers
import XdotViewer.Proofs.Viewer.LastOutcome
import XdotViewer.Viewer.Completion

/-! # Shown to the end

A text that can be loaded at all is shown to the end: whatever the outcomes of its requests are, all
of them are handed in, and nothing is pending then. If there were requests, the last outcome has
painted the document once more, with all images finished, and that has asked for no new ones. It is
not endless unless the first painting is.
-/

namespace XdotViewer

namespace Viewer

variable {ι : Type} {m : Type → Type} [Monad m] [LawfulMonad m] {viewer : Viewer ι}
  {fits : Nat → Nat → Bool} {document : Document}

/-- What becomes of a viewer with some outcomes. -/
def finishing (fits : Nat → Nat → Bool) (viewer : Viewer ι)
    (answers : List (ImageRequest × Option ι)) : Shown ι :=
  let finished := viewer.finishImages fits (Images.calls answers)
  ⟨finished.1.flatMap Answer.ops, finished.2, finished.1.any Answer.endless⟩

/-- With a document no outcome makes an error. -/
theorem exists_finishImage (fits : Nat → Nat → Bool) (loaded : viewer.document = some document)
    (source : String) (outcome : Option ι) : ∃ last ops after endless,
      viewer.finishImage fits source outcome = ⟨.ok last, ops, after, endless⟩ ∧
        after.document = some document := by
  rcases noted : viewer.drawing.images.finish source outcome with ⟨last, images⟩
  cases last with
  | false => exact ⟨_, _, _, _, finishImage_of_not_last noted, loaded⟩
  | true =>
    refine ⟨_, _, _, _, finishImage_of_last loaded noted, ?_⟩
    simp only [redraw, withImages, loaded]

/-- The images are loaded one after the other, and what is shown depends on their outcomes alone. -/
theorem finishAll_eq (loadImage : ImageRequest → m (Option ι))
    (loaded : viewer.document = some document) (requests : List ImageRequest) :
    finishAll fits loadImage viewer requests = (fun outcomes =>
      .ok (viewer.finishing fits (requests.zip outcomes))) <$> requests.mapM loadImage := by
  induction requests generalizing viewer with
  | nil =>
    rw [finishAll, List.mapM_nil, map_pure]
    rfl
  | cons request rest ih =>
    rw [finishAll, List.mapM_cons, map_bind]
    congr 1
    funext outcome
    obtain ⟨last, ops, after, endless, finished, kept⟩ :=
      exists_finishImage fits loaded request.source outcome
    simp only [finished, ih kept, bind_pure_comp, Functor.map_map]
    congr 1
    funext outcomes
    simp only [finishing, Images.calls, List.zip_cons_cons, List.map_cons, finishImages, finished]
    rfl

end Viewer

/-- The drawing with the outcomes of its requests, before it is painted again. -/
def Drawing.answered {ι : Type} (drawing : Drawing ι) (outcomes : List (Option ι)) : Drawing ι :=
  { drawing with images := drawing.images.answered outcomes }

namespace Viewer

variable {ι : Type} {viewer : Viewer ι} {document : Document} {base : String}
  {outcomes : List (Option ι)}

/-- With the last of the outcomes the document is painted again, and no other outcome paints it. -/
theorem finishing_of_unanswered (fits : Nat → Nat → Bool) (sound : viewer.Sound)
    (loaded : viewer.document = some document)
    (unanswered : viewer.drawing.images.Unanswered base)
    (length : outcomes.length = viewer.drawing.images.queue.length)
    (requested : viewer.drawing.images.queue ≠ []) :
    let again := (viewer.drawing.answered outcomes).pass fits document viewer.palettes false
    viewer.takeRequests.2.finishing fits (viewer.drawing.images.queue.zip outcomes) =
      ⟨again.ops, ⟨viewer.palettes, again.drawing, some document⟩, again.endless⟩ := by
  intro again
  have completes : viewer.takeRequests.2.drawing.images.Completes
      (Images.calls (viewer.drawing.images.queue.zip outcomes)) := unanswered.completes length
  have taken : viewer.takeRequests.2.Sound := ⟨sound.counted, sound.documented⟩
  obtain ⟨source, asked⟩ : ∃ source, source ∈ viewer.drawing.images.entries.keys := by
    rw [unanswered.queue, ne_eq, List.map_eq_nil_iff] at requested
    exact List.exists_mem_of_ne_nil _ requested
  have pending : viewer.takeRequests.2.drawing.images.state? source = some .pending :=
    unanswered.pending source asked
  obtain ⟨front, call, back, whole, completing⟩ :=
    Images.exists_completing pending completes.covered
  have registered (other : String × Option ι) (member : other ∈ back) :
      other.1 ∈ viewer.takeRequests.2.drawing.images.entries.keys := by
    refine completes.registered other ?_
    rw [whole]
    exact List.mem_append_right front (List.mem_cons_of_mem call member)
  have run : viewer.takeRequests.2.finishImages fits (front ++ call :: back) = _ :=
    finishImages_of_completing taken completing registered
  rw [← whole] at run
  have painted : (viewer.takeRequests.2.withImages (viewer.drawing.images.answered outcomes)).redraw
      fits false =
        ⟨.ok (), again.ops, ⟨viewer.palettes, again.drawing, some document⟩, again.endless⟩ := by
    simp only [redraw, withImages, takeRequests, loaded]
    rfl
  have answered : viewer.takeRequests.2.drawing.images.finishAll
      (Images.calls (viewer.drawing.images.queue.zip outcomes)) =
        viewer.drawing.images.answered outcomes := rfl
  rw [answered, painted] at run
  simp only [finishing, run, List.flatMap_append, List.flatMap_cons, ops_silent, List.nil_append,
    List.append_nil, List.any_append, List.any_cons, any_silent, Bool.false_or, Bool.or_false]

section Showing

/-- What has come of a document whose full pass had this outcome, when the images that it asked for
have been handed in. -/
structure ShownToEnd (fits : Nat → Nat → Bool) (document : Document) (full : Drawing.Outcome ι)
    (outcomes : List (Option ι)) (shown : Shown ι) : Prop where
  settled : ∀ source, shown.viewer.drawing.images.state? source ≠ some .pending
  taken : shown.viewer.drawing.images.queue = []
  /-- If the full pass comes to its end, so does all that follows it. -/
  endless : shown.endless = full.endless
  /-- The full pass is followed by one repaint if there were requests, and by nothing if not. -/
  ops : shown.ops = full.ops ++ if full.drawing.images.queue = [] then []
    else ((full.drawing.answered outcomes).pass fits document .standard false).ops
  /-- The repaint comes to the instructions of the draw strings. -/
  executed : ((full.drawing.answered outcomes).pass fits document .standard false).ops =
    ((full.drawing.answered outcomes).stretches fits document .standard false).flatMap
      ((full.drawing.answered outcomes).setting document .standard).stretchOps
  /-- An image instruction to which it comes paints the outcome of the request for its source. -/
  images : ∀ entity state corner width height source,
    .instruction entity state (.image corner width height source) ∈
      (full.drawing.answered outcomes).stretches fits document .standard false →
    ∃ outcome,
      (⟨source, full.drawing.options.imageBase ++ source⟩, outcome) ∈
        full.drawing.images.queue.zip outcomes ∧
      ((full.drawing.answered outcomes).setting document .standard).stretchOps
          (.instruction entity state (.image corner width height source)) =
        ((full.drawing.answered outcomes).setting document .standard).imageOps
          corner width height outcome

variable {fits : Nat → Nat → Bool} {options : Options} {text : String}

private theorem redraw_of_error_eq_none {viewer : Viewer ι} {document : Document} {full : Bool}
    (loaded : viewer.document = some document)
    (done : (viewer.drawing.pass fits document viewer.palettes full).error = none) :
    let outcome := viewer.drawing.pass fits document viewer.palettes full
    viewer.redraw fits full =
      ⟨.ok (), outcome.ops, { viewer with drawing := outcome.drawing }, outcome.endless⟩ := by
  simp only [redraw, loaded, done]

/-- A text that can be loaded is a document whose full pass does not fail. -/
theorem exists_of_load (loads : ((new options : Viewer ι).load fits text).value = .ok ()) :
    ∃ document, Document.read .standard text = .ok document ∧
      let full := (Drawing.new options : Drawing ι).pass fits document .standard true
      full.error = none ∧ (new options : Viewer ι).load fits text =
        ⟨.ok (), full.ops, ⟨.standard, full.drawing, some document⟩, full.endless⟩ := by
  have palettes : (new options : Viewer ι).palettes = .standard := rfl
  cases read : Document.read .standard text with
  | error error => simp [load, parse, palettes, read] at loads
  | ok document =>
    let full := (Drawing.new options : Drawing ι).pass fits document .standard true
    have drawn : (new options : Viewer ι).load fits text =
        (⟨.standard, Drawing.new options, some document⟩ : Viewer ι).redraw fits true := by
      simp only [load, parse, palettes, read]
      rfl
    rw [drawn] at loads ⊢
    have done : full.error = none := by
      cases failed : full.error with
      | none => rfl
      | some error => simp [redraw, full, failed] at loads
    exact ⟨document, rfl, done, redraw_of_error_eq_none rfl done⟩

section FullPass

variable {document : Document} {full : Drawing.Outcome ι}
  (passed : full = (Drawing.new options).pass fits document .standard true)
include passed

private theorem sound_of_passed : (⟨.standard, full.drawing, some document⟩ : Viewer ι).Sound := by
  have opened : (⟨.standard, Drawing.new options, some document⟩ : Viewer ι).Sound :=
    ⟨Images.counted_empty _, nofun⟩
  subst passed
  exact opened.redraw fits true

private theorem options_of_passed : full.drawing.options = options := by
  rw [passed, Drawing.options_pass]
  rfl

variable (done : full.error = none)
include done

private theorem images_of_passed : full.drawing.images =
    (Images.empty options.imageBase).requestAll
      ((Drawing.new options : Drawing ι).setting document .standard).repaint.sources := by
  subst passed
  exact Drawing.images_pass_full done

/-- The full pass has asked for all images that a repaint comes to. -/
theorem mem_keys_of_mem_stretches (outcomes : List (Option ι)) {stretch : Stretch ι}
    {source : String} (needed : Setting.neededSource? stretch = some source)
    (member : stretch ∈
      (full.drawing.answered outcomes).stretches fits document .standard false) :
    source ∈ full.drawing.images.entries.keys := by
  have new : (full.drawing.answered outcomes).options = (Drawing.new options : Drawing ι).options :=
    options_of_passed passed
  rw [Drawing.stretches_of_options new] at member
  rw [images_of_passed passed done]
  exact Images.mem_keys_requestAll _
    ((Drawing.mem_sources_repaint fits).mpr ⟨stretch, member, needed⟩)

/-- The repaint asks for no images. -/
theorem images_repaint (outcomes : List (Option ι)) :
    ((full.drawing.answered outcomes).pass fits document .standard false).drawing.images =
      full.drawing.images.answered outcomes := by
  apply Images.requestAll_of_mem
  intro source needed
  obtain ⟨stretch, member, needed⟩ := (Drawing.mem_sources_repaint fits).mp needed
  have asked := mem_keys_of_mem_stretches passed done outcomes needed member
  exact (Images.keys_finishAll _).symm ▸ asked

/-- The repaint comes to its end if the full pass did. -/
theorem endless_repaint (outcomes : List (Option ι)) :
    ((full.drawing.answered outcomes).pass fits document .standard false).endless =
      full.endless := by
  have new : (full.drawing.answered outcomes).options = (Drawing.new options : Drawing ι).options :=
    options_of_passed passed
  rw [Drawing.endless_pass_of_options new, passed, Drawing.endless_pass_full (passed ▸ done)]

private theorem shownToEnd {outcomes : List (Option ι)}
    (length : outcomes.length = full.drawing.images.queue.length) :
    let viewer : Viewer ι := ⟨.standard, full.drawing, some document⟩
    let finished := viewer.takeRequests.2.finishing fits (full.drawing.images.queue.zip outcomes)
    ShownToEnd fits document full outcomes
      ⟨full.ops ++ finished.ops, finished.viewer, full.endless || finished.endless⟩ := by
  intro viewer finished
  have unanswered : full.drawing.images.Unanswered options.imageBase := by
    rw [images_of_passed passed done]
    exact Images.unanswered_requestAll _ _
  have settled := unanswered.settled length
  have queue : (full.drawing.images.answered outcomes).queue = [] := Images.queue_finishAll _
  have same : finished.viewer.drawing.images = full.drawing.images.answered outcomes ∧
      (finished.ops = if full.drawing.images.queue = [] then []
        else ((full.drawing.answered outcomes).pass fits document .standard false).ops) ∧
      (full.endless || finished.endless) = full.endless := by
    by_cases none : full.drawing.images.queue = []
    · rw [Images.answered, if_pos none]
      simp only [finished, none, List.zip_nil_left]
      exact ⟨rfl, rfl, Bool.or_false _⟩
    · have painted : finished = _ := finishing_of_unanswered fits (sound_of_passed passed) rfl
        unanswered length none
      rw [painted, if_neg none]
      refine ⟨images_repaint passed done outcomes, rfl, ?_⟩
      rw [endless_repaint passed done outcomes, Bool.or_self]
  refine ⟨?_, ?_, same.2.2, ?_, ?_, ?_⟩
  · rwa [same.1]
  · rw [same.1, queue]
  · rw [same.2.1]
  · exact (Drawing.ops_stretches _ _ _ _ _).symm
  · intro entity state corner width height source member
    have asked := mem_keys_of_mem_stretches passed done outcomes rfl member
    obtain ⟨outcome, answered, state⟩ := unanswered.exists_outcome length asked
    rw [options_of_passed passed]
    exact ⟨outcome, answered, Setting.stretchOps_of_finished state _ _ _ _ _⟩

end FullPass

/-- Whatever is loaded for the requests, a text that can be loaded is shown to the end. -/
theorem showText_eq {m : Type → Type} [Monad m] [LawfulMonad m]
    (loadImage : ImageRequest → m (Option ι))
    (loads : ((new options : Viewer ι).load fits text).value = .ok ()) :
    ∃ document, Document.read .standard text = .ok document ∧
      let full := (Drawing.new options : Drawing ι).pass fits document .standard true
      ∃ shown : List (Option ι) → Shown ι,
        showText fits loadImage options text = (fun outcomes => .ok (shown outcomes)) <$>
          full.drawing.images.queue.mapM loadImage ∧
        ∀ outcomes, outcomes.length = full.drawing.images.queue.length →
          ShownToEnd fits document full outcomes (shown outcomes) := by
  obtain ⟨document, read, done, loaded⟩ := exists_of_load loads
  refine ⟨document, read, _, ?_, fun outcomes => shownToEnd rfl done⟩
  simp only [showText, loaded]
  rw [finishAll_eq loadImage rfl, bind_pure_comp, Functor.map_map]
  rfl

end Showing

end Viewer
end XdotViewer
